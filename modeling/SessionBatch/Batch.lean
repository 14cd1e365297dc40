import SessionBatch.Registry

namespace SessionBatch

-- Failures after the commit are reported here: they cannot undo the batch.
structure Outcome where
  sessions : Nat := 0
  eventsDispatched : Nat := 0
  hooksApplied : List HookId := []
  postCommitApplied : List HookId := []
  postCommitFailures : List (HookId × String) := []
  deriving DecidableEq

namespace Batch

variable (registry : Registry) (assets : Assets)

-- The first problem in the order of sessions: the org of a session before its
-- events.
def validate (sessions : List Session) : Except BatchError Unit :=
  sessions.forM fun session =>
    if session.orgId ≠ assets.orgId then .error (.mixedOrgs assets.orgId session.orgId)
    else session.events.forM fun event => (registry.lookup event.type).map fun _ => ()

def dispatch (event : Event) : Work Session BatchError Unit := do
  let session := (← get).subject
  let handler ← Work.ofExcept (registry.lookup event.type)
  Work.note .trace <| "dispatch session_id=" ++ session.id.text ++ " event_type=" ++
    event.type.name ++ " event_uuid=" ++ event.uuid.text
  ExceptT.adapt (.handler event.type session.id) (handler assets event)

def dispatchSession : Work Session BatchError Nat := do
  Work.ensureActive .dispatching
  let events := (← get).subject.events
  events.forM (dispatch registry assets)
  return events.length

def dispatchAll : Work (List Session) BatchError Nat := do
  return (← Work.each (dispatchSession registry assets)).foldr (· + ·) 0

variable {ε : Type}

def clearQueues : Work (List Session) ε Unit :=
  modify fun s => { s with subject := s.subject.map Session.clearQueues }

def gather (take : Session → HookQueue × Session) : Work (List Session) ε Grouping := do
  let taken := (← get).subject.map take
  let sessions := taken.map Prod.snd
  modify fun s => { s with subject := sessions }
  return Grouping.ofQueues sessions (taken.map Prod.fst)

-- Every hook is found before the first one is applied.
def resolve (grouping : Grouping) :
    Except BatchError (List (HookId × HookAction × List SessionEvents)) :=
  grouping.toList.mapM fun (id, entries) =>
    (registry.lookupHook id).map fun action => (id, action, entries)

variable {σ : Type}

def runHook (id : HookId) (action : HookAction) (entries : List SessionEvents) :
    Work σ BatchError Unit := do
  let (result, _) ← Work.beside () (action assets entries)
  Work.ofExcept (result.mapError (.hook id))

def applyHook (id : HookId) (action : HookAction) (entries : List SessionEvents) :
    Work σ BatchError Unit := do
  Work.ensureActive .committing
  Work.note .debug <| "apply_hook:start hook=" ++ id.name ++ " sessions=" ++
    toString entries.length
  runHook assets id action entries

def applyHooks (grouping : Grouping) : Work σ BatchError (List HookId) := do
  let resolved ← Work.ofExcept (resolve registry grouping)
  resolved.forM fun (id, action, entries) => applyHook assets id action entries
  return resolved.map Prod.fst

def body : Work (List Session) BatchError (Nat × List HookId) := do
  let dispatched ← dispatchAll registry assets
  Work.note .debug ("process_batch:phase=" ++ Phase.grouping.name)
  let grouping ← gather Session.takePre
  Work.note .debug <| "process_batch:phase=" ++ Phase.committing.name ++ " hooks=" ++
    toString grouping.size
  let applied ← applyHooks registry assets grouping
  Work.ensureActive .committing
  return (dispatched, applied)

structure Aftermath where
  applied : List HookId := []
  failures : List (HookId × String) := []
  deriving DecidableEq

def Aftermath.mentions (a : Aftermath) (id : HookId) : Bool :=
  a.applied.contains id || (a.failures.map Prod.fst).contains id

-- A failure after the commit is recorded and ends nothing.
def attemptHook (id : HookId) (entries : List SessionEvents) : Work Aftermath BatchError Unit := do
  try
    let action ← Work.ofExcept (registry.lookupHook id)
    runHook assets id action entries
    modify fun s => { s with subject.applied := s.subject.applied ++ [id] }
  catch e =>
    Work.note .error ("post_commit:hook_failed hook=" ++ id.name ++ " err=" ++ e.message)
    modify fun s => { s with subject.failures := s.subject.failures ++ [(id, e.message)] }

-- When the transaction fails no hook counts as applied, and the hooks it did not
-- come to fail with it.
def Aftermath.spoiled (a : Aftermath) (hooks : List HookId) (e : BatchError) : Aftermath :=
  { failures := a.failures ++ (hooks.filter fun id => !a.mentions id).map (·, e.message) }

def postCommit : Work (List Session) ε Aftermath := do
  let grouping ← gather Session.takePost
  if grouping.isEmpty then return {}
  else
    let attempts : Work Aftermath BatchError Unit :=
      grouping.toList.forM fun (id, entries) => attemptHook registry assets id entries
    let (result, aftermath) ← Work.beside {} (Work.transaction attempts)
    match result with
    | .ok _ => return aftermath
    | .error e =>
      Work.note .error ("post_commit:transaction_failed err=" ++ e.message)
      return aftermath.spoiled grouping.hooks e

-- Whatever fails in the transaction, the batch is rolled back and no queue of its sessions keeps
-- an event.
def commit : Work (List Session) BatchError (Nat × List HookId) :=
  tryCatch (Work.transaction (body registry assets)) fun e => do
    Work.note .warn <| "process_batch:" ++ Phase.rolledBack.name ++ " org_id=" ++
      assets.orgId.text ++ " err=" ++ e.message
    clearQueues
    throw e

-- What an earlier run left in the queues is dropped first, so a batch that failed may be processed
-- again.
def process : Work (List Session) BatchError Outcome := do
  let sessions := (← get).subject
  let events := (sessions.map (·.events.length)).foldr (· + ·) 0
  Work.note .info <| "process_batch:start org_id=" ++ assets.orgId.text ++ " sessions=" ++
    toString sessions.length ++ " events=" ++ toString events
  if sessions.isEmpty then return {}
  else
    Work.ofExcept (validate registry assets sessions)
    clearQueues
    Work.ensureActive .dispatching
    let (eventsDispatched, hooksApplied) ← commit registry assets
    Work.note .info <| "process_batch:" ++ Phase.committed.name ++ " org_id=" ++
      assets.orgId.text ++ " events=" ++ toString eventsDispatched ++ " hooks=" ++
      toString hooksApplied.length
    let after ← postCommit registry assets
    return { sessions := sessions.length, eventsDispatched, hooksApplied,
             postCommitApplied := after.applied, postCommitFailures := after.failures }

end Batch
end SessionBatch

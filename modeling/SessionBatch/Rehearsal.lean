import SessionBatch.Batch

namespace SessionBatch.Rehearsal

-- Handlers, hooks and transactions that follow a script, to see what becomes of
-- a batch when they fail or when things go wrong around them.
inductive Act where
  | defer (hook : HookId)
  | deferPost (hook : HookId)
  | fail (error : EffectError)
  | cancel
  | loseBackend
  | setCacheFailing (value : Bool)

variable {σ : Type}

def Act.outside : Act → Work σ EffectError Unit
  | .defer _ => return
  | .deferPost _ => return
  | .fail e => throw e
  | .cancel => modify fun s => { s with world := s.world.cancel }
  | .loseBackend => modify fun s => { s with world := s.world.setUnavailable true }
  | .setCacheFailing value => modify fun s => { s with world := s.world.setCacheFailing value }

def Act.onEvent (event : Event) : Act → Work Session EffectError Unit
  | .defer hook => modify fun s => { s with subject := s.subject.deferPre hook event }
  | .deferPost hook => modify fun s => { s with subject := s.subject.deferPost hook event }
  | act => act.outside

def handler (acts : List Act) : Handler := fun _ event => acts.forM (Act.onEvent event)

def hook (id : HookId) (acts : List Act) : HookAction := fun _ entries => do
  modify fun s => s.did (.hookCalled id entries)
  acts.forM Act.outside

-- A failed write ends the transaction, unless it is to keep going; after all of them it may be
-- aborted.
structure Statements where
  writes : List BulkWrite
  keepGoing : Bool := false
  abort : Option BatchError := none

namespace Statements

def perform (keepGoing : Bool) (b : BulkWrite) :
    Work (List (Except StoreError Nat)) BatchError Unit := fun s =>
  let (result, world) := s.world.write b
  let s := ⟨s.subject ++ [result], world⟩
  match result with
  | .error e => (if keepGoing then .ok () else .error (.resource e), s)
  | .ok _ => (.ok (), s)

def body (statements : Statements) : Work (List (Except StoreError Nat)) BatchError Unit := do
  statements.writes.forM (perform statements.keepGoing)
  match statements.abort with
  | some e => throw e
  | none => return

end Statements

-- A failure of the handler is a result and reverts nothing.
def handle (registry : Registry) (assets : Assets) (type : EventType) (event : Event) :
    Work Session BatchError (Except EffectError Unit) :=
  Work.transaction do
    let run ← Work.ofExcept (registry.lookup type)
    Work.attempt (run assets event)

def applyHook (registry : Registry) (assets : Assets) (id : HookId)
    (entries : List SessionEvents) : Work σ BatchError Unit :=
  Work.transaction do
    let action ← Work.ofExcept (registry.lookupHook id)
    Batch.runHook assets id action entries

end SessionBatch.Rehearsal

import SessionBatch.Identity
import SessionBatch.Hook

namespace SessionBatch

-- A session for the length of one batch: the new events of its turn, and the
-- events that handlers defer until the commit and until after it.
structure Session where
  id : SessionId
  orgId : OrgId
  contactId : ContactId
  contactUuid : Uuid
  events : List Event
  preCommit : HookQueue := {}
  postCommit : HookQueue := {}
  deriving DecidableEq

namespace Session

def pushEvent (s : Session) (event : Event) : Session := { s with events := s.events ++ [event] }

def deferPre (s : Session) (hook : HookId) (event : Event) : Session :=
  { s with preCommit := HookQueue.defer s.preCommit hook event }

def deferPost (s : Session) (hook : HookId) (event : Event) : Session :=
  { s with postCommit := HookQueue.defer s.postCommit hook event }

def takePre (s : Session) : HookQueue × Session := (s.preCommit, { s with preCommit := {} })
def takePost (s : Session) : HookQueue × Session := (s.postCommit, { s with postCommit := {} })

def clearQueues (s : Session) : Session := { s with preCommit := {}, postCommit := {} }

end Session

structure SessionEvents where
  session : Session
  events : List Event
  deriving DecidableEq

abbrev Grouping := Std.ExtTreeMap HookId (List SessionEvents)

namespace Grouping

def add (grouping : Grouping) (hook : HookId) (entry : SessionEvents) : Grouping :=
  if entry.events = [] then grouping
  else grouping.alter hook fun entries => some (entries.getD [] ++ [entry])

theorem getElem?_add (grouping : Grouping) (hook other : HookId) (entry : SessionEvents) :
    (add grouping hook entry)[other]? =
      if hook = other ∧ entry.events ≠ [] then some (grouping[hook]?.getD [] ++ [entry])
      else grouping[other]? := by
  unfold add
  by_cases empty : entry.events = []
  · simp [empty]
  · simp only [empty, ↓reduceIte, Std.ExtTreeMap.getElem?_alter]
    by_cases same : hook = other <;> simp [same, empty]

def addQueue (grouping : Grouping) (session : Session) (queue : HookQueue) : Grouping :=
  queue.toList.foldl (fun grouping (hook, events) => add grouping hook ⟨session, events⟩) grouping

-- The i-th queue belongs to the i-th session.
def ofQueues (sessions : List Session) (queues : List HookQueue) : Grouping :=
  (sessions.zip queues).foldl (fun grouping (session, queue) => addQueue grouping session queue) {}

def hooks (grouping : Grouping) : List HookId := grouping.keys

def eventCount (grouping : Grouping) : Nat :=
  (grouping.toList.map fun (_, entries) =>
    (entries.map (·.events.length)).foldr (· + ·) 0).foldr (· + ·) 0

end Grouping
end SessionBatch

import SessionBatch.Proofs.Grouping

namespace SessionBatch

-- The hooks under which handlers defer an event of each type, before the commit and after it. A
-- hook that is named several times gets the event as often.
structure Routing where
  pre : EventType → List HookId
  post : EventType → List HookId

namespace HookQueue

def deferAll (queue : HookQueue) (hooks : List HookId) (event : Event) : HookQueue :=
  hooks.foldl (fun queue hook => queue.defer hook event) queue

theorem getElem?_deferAll (queue : HookQueue) (hooks : List HookId) (event : Event)
    (hook : HookId) :
    (queue.deferAll hooks event)[hook]?.getD [] =
      queue[hook]?.getD [] ++ List.replicate (hooks.count hook) event := by
  induction hooks generalizing queue with
  | nil => simp [deferAll]
  | cons first rest ih =>
    refine (ih (queue.defer first event)).trans ?_
    rw [getElem?_defer]
    by_cases same : first = hook
    · simp [same, List.replicate_succ]
    · simp [same]

def spread (choose : EventType → List HookId) (queue : HookQueue) (events : List Event) :
    HookQueue :=
  events.foldl (fun queue event => queue.deferAll (choose event.type) event) queue

end HookQueue

def deferredTo (choose : EventType → List HookId) (hook : HookId) (events : List Event) :
    List Event :=
  events.flatMap fun event => List.replicate ((choose event.type).count hook) event

theorem HookQueue.getElem?_spread (choose : EventType → List HookId) (queue : HookQueue)
    (events : List Event) (hook : HookId) :
    (queue.spread choose events)[hook]?.getD [] =
      queue[hook]?.getD [] ++ deferredTo choose hook events := by
  induction events generalizing queue with
  | nil => simp [spread, deferredTo]
  | cons event rest ih =>
    refine (ih (queue.deferAll (choose event.type) event)).trans ?_
    rw [getElem?_deferAll, List.append_assoc]
    rfl

theorem deferredTo_eq_nil {choose : EventType → List HookId} {hook : HookId}
    {events : List Event} :
    deferredTo choose hook events = [] ↔ ∀ event ∈ events, hook ∉ choose event.type := by
  unfold deferredTo
  simp [List.count_eq_zero]

namespace Session

def route (routing : Routing) (event : Event) (s : Session) : Session :=
  { s with
    preCommit := s.preCommit.deferAll (routing.pre event.type) event
    postCommit := s.postCommit.deferAll (routing.post event.type) event }

def routed (routing : Routing) (s : Session) : Session :=
  { s with
    preCommit := s.preCommit.spread routing.pre s.events
    postCommit := s.postCommit.spread routing.post s.events }

theorem foldl_route (routing : Routing) (events : List Event) (s : Session) :
    events.foldl (fun s event => s.route routing event) s =
      { s with
        preCommit := s.preCommit.spread routing.pre events
        postCommit := s.postCommit.spread routing.post events } := by
  induction events generalizing s with
  | nil => rfl
  | cons event rest ih => exact ih (s.route routing event)

def awaiting (routing : Routing) (s : Session) : Session :=
  { s with preCommit := {}, postCommit := HookQueue.spread routing.post {} s.events }

end Session

variable (choose : EventType → List HookId) (sessions : List Session)

def namedHooks : List HookId :=
  HookId.all.filter fun hook => ∃ session ∈ sessions, ∃ event ∈ session.events,
    hook ∈ choose event.type

def deferredEntries (shown : Session → Session) (hook : HookId) : List SessionEvents :=
  (sessions.map fun session => ⟨shown session, deferredTo choose hook session.events⟩).filter
    (·.events ≠ [])

variable {choose sessions}

theorem mem_namedHooks {hook : HookId} :
    hook ∈ namedHooks choose sessions ↔
      ∃ session ∈ sessions, ∃ event ∈ session.events, hook ∈ choose event.type := by
  unfold namedHooks
  rw [List.mem_filter]
  simp [HookId.mem_all]

theorem namedHooks_ordered : (namedHooks choose sessions).Pairwise (compare · · = .lt) :=
  HookId.all_ordered.filter _

theorem deferredEntries_eq_nil {shown : Session → Session} {hook : HookId} :
    deferredEntries choose sessions shown hook = [] ↔ hook ∉ namedHooks choose sessions := by
  unfold deferredEntries
  rw [mem_namedHooks, List.filter_eq_nil_iff]
  simp [deferredTo_eq_nil]

namespace Grouping

theorem toList_spread {taken : List (HookQueue × Session)} {shown : Session → Session}
    (spread : taken = sessions.map fun session =>
      (HookQueue.spread choose {} session.events, shown session)) :
    (ofQueues (taken.map Prod.snd) (taken.map Prod.fst)).toList =
      (namedHooks choose sessions).map fun hook =>
        (hook, deferredEntries choose sessions shown hook) := by
  have mine : ∀ hook, entries hook ((taken.map Prod.snd).zip (taken.map Prod.fst)) =
      deferredEntries choose sessions shown hook := by
    intro hook
    unfold entries deferredEntries
    rw [spread, List.map_map, List.map_map, List.zip_map', List.map_map]
    congr 2
    funext session
    have queued := HookQueue.getElem?_spread choose {} session.events hook
    simp only [Std.ExtTreeMap.getElem?_empty, Option.getD_none, List.nil_append] at queued
    simp [queued]
  rw [toList_ofQueues]
  simp only [mine]
  rw [List.filter_map]
  congr 1
  apply List.filter_congr
  intro hook _
  apply decide_eq_decide.2
  rw [ne_eq, deferredEntries_eq_nil, Decidable.not_not, mem_namedHooks]

end Grouping
end SessionBatch

import Mathlib.Algebra.BigOperators.Group.Multiset.Basic
import Mathlib.Algebra.GroupWithZero.Nat
import SessionBatch.Proofs.Commitment
import SessionBatch.Proofs.Grouping

namespace SessionBatch

def HookQueue.eventCount (queue : HookQueue) : Nat := (queue.toList.map (·.2.length)).sum

theorem HookId.sum_toList {α : Type} (m : Std.ExtTreeMap HookId α) (size : α → Nat) :
    (m.toList.map (size ·.2)).sum = (all.map fun hook => m[hook]?.elim 0 size).sum := by
  rw [toList_eq]
  induction all with
  | nil => rfl
  | cons hook rest ih =>
    rw [List.filterMap_cons, List.map_cons, List.sum_cons, ← ih]
    cases m[hook]? <;> simp

namespace Grouping

def share (hook : HookId) (session : Session) (queue : HookQueue) : Option SessionEvents := do
  let events ← queue[hook]?
  if events = [] then none else some ⟨session, events⟩

def shareAt (sessions : List Session) (queues : List HookQueue) (hook : HookId) (place : Nat) :
    Option SessionEvents := do
  let session ← sessions[place]?
  let queue ← queues[place]?
  share hook session queue

-- The grouping is the queues turned around: a hook is there when some queue has events for it, and
-- then has the shares of the sessions, place by place. Hooks are gone through in their order, and
-- the events are as many as before.
structure Inverts (grouping : Grouping) (sessions : List Session) (queues : List HookQueue) :
    Prop where
  present : ∀ hook : HookId, hook ∈ grouping ↔
    ∃ queue ∈ queues, ∃ events, queue[hook]? = some events ∧ events ≠ []
  held : ∀ hook : HookId, hook ∈ grouping → grouping[hook]? =
    some ((List.range sessions.length).filterMap (shareAt sessions queues hook))
  rows : grouping.toList = HookId.all.filterMap fun hook => grouping[hook]?.map (hook, ·)
  hooks : grouping.hooks = HookId.all.filter (· ∈ grouping)
  total : grouping.eventCount = (queues.map HookQueue.eventCount).sum

variable {sessions : List Session} {queues : List HookQueue}

theorem entries_cons (hook : HookId) (session : Session) (queue : HookQueue)
    (queued : List (Session × HookQueue)) :
    entries hook ((session, queue) :: queued) =
      (share hook session queue).toList ++ entries hook queued := by
  cases found : queue[hook]? with
  | none => simp [entries, share, found]
  | some events => by_cases empty : events = [] <;> simp [entries, share, found, empty]

theorem entries_zip (sessions : List Session) (queues : List HookQueue) (hook : HookId) :
    entries hook (sessions.zip queues) =
      (List.range sessions.length).filterMap (shareAt sessions queues hook) := by
  induction sessions generalizing queues with
  | nil => rfl
  | cons session others ih =>
    cases queues with
    | nil => simp [entries, shareAt]
    | cons queue rest =>
      have first : shareAt (session :: others) (queue :: rest) hook 0 =
          share hook session queue := rfl
      have later : shareAt (session :: others) (queue :: rest) hook ∘ Nat.succ =
          shareAt others rest hook := rfl
      rw [List.zip_cons_cons, entries_cons, ih, List.length_cons, List.range_succ_eq_map,
        List.filterMap_cons, List.filterMap_map, first, later]
      cases share hook session queue <;> rfl

theorem entries_ne_nil_iff {queued : List (Session × HookQueue)} {hook : HookId} :
    entries hook queued ≠ [] ↔
      ∃ queue ∈ queued.map Prod.snd, ∃ events, queue[hook]? = some events ∧ events ≠ [] := by
  induction queued with
  | nil => simp [entries]
  | cons one rest ih =>
    obtain ⟨session, queue⟩ := one
    rw [entries_cons, ne_eq, List.append_eq_nil_iff, not_and_or, ← ne_eq (entries hook rest), ih]
    simp only [List.map_cons, List.mem_cons, exists_eq_or_imp]
    refine or_congr_left ?_
    unfold share
    cases queue[hook]? with
    | none => simp
    | some events => by_cases empty : events = [] <;> simp [empty]

def eventsIn (held : List SessionEvents) : Nat := (held.map (·.events.length)).sum

theorem eventsIn_entries (queued : List (Session × HookQueue)) (hook : HookId) :
    eventsIn (entries hook queued) =
      ((queued.map Prod.snd).map fun queue => queue[hook]?.elim 0 List.length).sum := by
  unfold eventsIn
  induction queued with
  | nil => rfl
  | cons one rest ih =>
    obtain ⟨session, queue⟩ := one
    rw [entries_cons, List.map_append, List.sum_append, ih, List.map_cons, List.map_cons,
      List.sum_cons]
    refine congrArg (· + _) ?_
    unfold share
    cases queue[hook]? with
    | none => rfl
    | some events => by_cases empty : events = [] <;> simp [empty]

theorem eventCount_ofQueues (same : sessions.length = queues.length) :
    (ofQueues sessions queues).eventCount = (queues.map HookQueue.eventCount).sum := by
  have own : (sessions.zip queues).map Prod.snd = queues := List.map_snd_zip same.ge
  have held : ∀ hook : HookId, (ofQueues sessions queues)[hook]?.elim 0 eventsIn =
      (queues.map fun queue => queue[hook]?.elim 0 List.length).sum := by
    intro hook
    rw [← own, ← eventsIn_entries, own, getElem?_ofQueues]
    by_cases none : entries hook (sessions.zip queues) = []
    · rw [none, if_pos rfl]
      rfl
    · rw [if_neg none]
      rfl
  calc
    (ofQueues sessions queues).eventCount
      = (HookId.all.map fun hook => (ofQueues sessions queues)[hook]?.elim 0 eventsIn).sum :=
        HookId.sum_toList (ofQueues sessions queues) eventsIn
    _ = (HookId.all.map fun hook =>
          (queues.map fun queue => queue[hook]?.elim 0 List.length).sum).sum := by
        rw [funext held]
    _ = (queues.map fun queue =>
          (HookId.all.map fun hook => queue[hook]?.elim 0 List.length).sum).sum := by
        simpa using Multiset.sum_map_sum_map (HookId.all : Multiset HookId)
          (queues : Multiset HookQueue) (f := fun hook queue => queue[hook]?.elim 0 List.length)
    _ = (queues.map HookQueue.eventCount).sum := by
        refine congrArg List.sum (List.map_congr_left fun queue _ => ?_)
        exact (HookId.sum_toList queue List.length).symm

theorem hooks_eq (grouping : Grouping) :
    grouping.hooks = HookId.all.filter (· ∈ grouping) := by
  unfold hooks
  rw [← Std.ExtTreeMap.map_fst_toList_eq_keys, HookId.toList_eq]
  induction HookId.all with
  | nil => rfl
  | cons hook rest ih =>
    rw [List.filterMap_cons, List.filter_cons, ← ih]
    have held := Std.ExtTreeMap.mem_iff_isSome_getElem? (t := grouping) (a := hook)
    cases found : grouping[hook]? <;> simp [held, found]

theorem ofQueues_inverts (same : sessions.length = queues.length) :
    (ofQueues sessions queues).Inverts sessions queues := by
  have own : (sessions.zip queues).map Prod.snd = queues := List.map_snd_zip same.ge
  have present : ∀ hook : HookId, hook ∈ ofQueues sessions queues ↔
      entries hook (sessions.zip queues) ≠ [] := by
    intro hook
    rw [Std.ExtTreeMap.mem_iff_isSome_getElem?, getElem?_ofQueues]
    by_cases none : entries hook (sessions.zip queues) = [] <;> simp [none]
  refine
    { present := fun hook => ?_
      held := fun hook listed => ?_
      rows := HookId.toList_eq _
      hooks := hooks_eq _
      total := eventCount_ofQueues same }
  · rw [present, entries_ne_nil_iff, own]
  · rw [getElem?_ofQueues, if_neg ((present hook).1 listed), entries_zip]

end Grouping

namespace Sample

def crew : List Session := [turn ⟨1⟩ [], turn ⟨2⟩ [], turn ⟨3⟩ []]

def notices (texts : List String) : List Event := texts.map (⟨⟨9⟩, moment, .error ·⟩)

def piles : List HookQueue :=
  [(({} : HookQueue).insert .queueMessages (notices ["a", "b"])).insert .commitMessages [],
    ({} : HookQueue).insert .queueMessages [],
    (({} : HookQueue).insert .queueMessages (notices ["c"])).insert .commitNameChanges
      (notices ["d"])]

end Sample

theorem ofQueues_inverts_piles :
    Sample.crew.length = Sample.piles.length ∧
      (Grouping.ofQueues Sample.crew Sample.piles).hooks =
        [.commitNameChanges, .queueMessages] ∧
      (Grouping.ofQueues Sample.crew Sample.piles).eventCount = 4 ∧
      (Grouping.ofQueues Sample.crew Sample.piles).Inverts Sample.crew Sample.piles :=
  ⟨rfl, by decide +kernel, by decide +kernel, Grouping.ofQueues_inverts rfl⟩

end SessionBatch

import SessionBatch.Proofs.Table
import SessionBatch.Session

namespace SessionBatch

theorem HookId.all_ordered : all.Pairwise (compare · · = .lt) := by decide

theorem HookId.toList_eq {α : Type} (m : Std.ExtTreeMap HookId α) :
    m.toList = all.filterMap fun hook => m[hook]?.map (hook, ·) :=
  toList_eq_filterMap all_ordered m fun hook _ => mem_all hook

namespace Grouping

variable {sessions : List Session} {queues : List HookQueue}

theorem getElem?_addQueue (grouping : Grouping) (session : Session) (queue : HookQueue)
    (hook : HookId) :
    (addQueue grouping session queue)[hook]? =
      if queue[hook]?.getD [] = [] then grouping[hook]?
      else some (grouping[hook]?.getD [] ++ [⟨session, queue[hook]?.getD []⟩]) := by
  have noticed : ∀ (grouping : Grouping) (row : HookId × List Event),
      (add grouping row.1 ⟨session, row.2⟩)[hook]? =
        if row.1 = hook then
          if row.2 = [] then grouping[hook]?
          else some (grouping[hook]?.getD [] ++ [⟨session, row.2⟩])
        else grouping[hook]? := by
    intro grouping row
    rw [getElem?_add]
    by_cases same : row.1 = hook <;> by_cases empty : row.2 = [] <;> simp [same, empty]
  have added := foldl_toList_view (fun grouping : Grouping => grouping[hook]?)
    (fun held events => if events = [] then held else some (held.getD [] ++ [⟨session, events⟩]))
    noticed queue grouping
  refine added.trans ?_
  cases queue[hook]? <;> simp

def entries (hook : HookId) (queued : List (Session × HookQueue)) : List SessionEvents :=
  (queued.map fun (session, queue) => ⟨session, queue[hook]?.getD []⟩).filter (·.events ≠ [])

theorem getElem?_addQueues (queued : List (Session × HookQueue)) (grouping : Grouping)
    (hook : HookId) :
    (queued.foldl (fun grouping (session, queue) => addQueue grouping session queue)
      grouping)[hook]? =
      if entries hook queued = [] then grouping[hook]?
      else some (grouping[hook]?.getD [] ++ entries hook queued) := by
  induction queued generalizing grouping with
  | nil => rfl
  | cons one rest ih =>
    rw [List.foldl_cons, ih, getElem?_addQueue]
    by_cases empty : one.2[hook]?.getD [] = []
    · have skipped : entries hook (one :: rest) = entries hook rest := by simp [entries, empty]
      simp [skipped, empty]
    · have kept : entries hook (one :: rest) =
          ⟨one.1, one.2[hook]?.getD []⟩ :: entries hook rest := by simp [entries, empty]
      by_cases last : entries hook rest = [] <;> simp [kept, empty, last]

-- Grouping turns the queues around: a hook is there when some session has events for it, and
-- gets them by session and in their order.
theorem getElem?_ofQueues (hook : HookId) :
    (ofQueues sessions queues)[hook]? =
      if entries hook (sessions.zip queues) = [] then none
      else some (entries hook (sessions.zip queues)) := by
  refine (getElem?_addQueues (sessions.zip queues) {} hook).trans ?_
  simp

theorem toList_ofQueues :
    (ofQueues sessions queues).toList =
      (HookId.all.map fun hook => (hook, entries hook (sessions.zip queues))).filter
        (·.2 ≠ []) := by
  rw [HookId.toList_eq]
  induction HookId.all with
  | nil => rfl
  | cons hook rest ih =>
    rw [List.filterMap_cons, List.map_cons, List.filter_cons, ih, getElem?_ofQueues]
    by_cases none : entries hook (sessions.zip queues) = [] <;> simp [none]

end Grouping
end SessionBatch

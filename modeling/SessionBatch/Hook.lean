import SessionBatch.Event
import Std.Data.ExtTreeMap

namespace SessionBatch

-- Hooks run in the order of the constructors.
inductive HookId where
  | commitNameChanges
  | commitLanguageChanges
  | commitFieldChanges
  | commitGroupChanges
  | commitMessages
  | queueMessages
  deriving DecidableEq

namespace HookId

def all : List HookId :=
  [commitNameChanges, commitLanguageChanges, commitFieldChanges, commitGroupChanges,
    commitMessages, queueMessages]

def rank : HookId → Nat
  | commitNameChanges => 0
  | commitLanguageChanges => 1
  | commitFieldChanges => 2
  | commitGroupChanges => 3
  | commitMessages => 4
  | queueMessages => 5

instance : Ord HookId := ⟨compareOn rank⟩
instance : Std.TransOrd HookId := inferInstanceAs (Std.TransCmp (compareOn rank))
instance : Std.LawfulEqOrd HookId where
  eq_of_compare {a b} same := by
    have ranks : a.rank = b.rank := Std.LawfulEqOrd.eq_of_compare (α := Nat) same
    cases a <;> cases b <;> first | rfl | cases ranks

def name : HookId → String
  | commitNameChanges => "commit_name_changes"
  | commitLanguageChanges => "commit_language_changes"
  | commitFieldChanges => "commit_field_changes"
  | commitGroupChanges => "commit_group_changes"
  | commitMessages => "commit_messages"
  | queueMessages => "queue_messages"

def title : HookId → String
  | commitNameChanges => "CommitNameChanges"
  | commitLanguageChanges => "CommitLanguageChanges"
  | commitFieldChanges => "CommitFieldChanges"
  | commitGroupChanges => "CommitGroupChanges"
  | commitMessages => "CommitMessages"
  | queueMessages => "QueueMessages"

def ofName? (s : String) : Option HookId := all.find? (·.name = s)

theorem mem_all (h : HookId) : h ∈ all := by cases h <;> decide
theorem ofName?_name (h : HookId) : ofName? h.name = some h := by cases h <;> decide

end HookId

abbrev HookQueue := Std.ExtTreeMap HookId (List Event)

def HookQueue.defer (queue : HookQueue) (hook : HookId) (event : Event) : HookQueue :=
  queue.alter hook fun events => some (events.getD [] ++ [event])

theorem HookQueue.getElem?_defer (queue : HookQueue) (hook other : HookId) (event : Event) :
    (HookQueue.defer queue hook event)[other]? =
      if hook = other then some (queue[hook]?.getD [] ++ [event]) else queue[other]? := by
  unfold HookQueue.defer
  rw [Std.ExtTreeMap.getElem?_alter]
  simp

end SessionBatch

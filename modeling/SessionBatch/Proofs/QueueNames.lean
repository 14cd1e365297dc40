import SessionBatch.Proofs.Scanning
import SessionBatch.Settings
import Std.Data.String.ToInt

namespace SessionBatch

variable {kind : IdKind}

theorem Id.eq_of_toInt {id other : Id kind} (same : id.toInt = other.toInt) : id = other := by
  have read : ofInt? id.toInt = some other := by rw [same, ofInt?_toInt]
  exact Option.some.inj ((ofInt?_toInt id).symm.trans read)

theorem Id.text_inj {id other : Id kind} : id.text = other.text ↔ id = other := by
  constructor
  · intro same
    unfold text at same
    rw [Int.toString_eq_repr, Int.toString_eq_repr, Int.repr_inj] at same
    exact eq_of_toInt same
  · rintro rfl
    rfl

theorem Id.colon_not_mem_text (id : Id kind) : ':' ∉ id.text.toList := by
  have other : ∀ d < 10, Nat.digitChar d ≠ ':' := by decide
  unfold text
  rw [Json.toList_toString, List.mem_append, not_or]
  constructor
  · split <;> simp
  · intro member
    obtain ⟨d, digit, same⟩ := List.mem_map.1 member
    exact other d (Text.lt_ten_of_mem_decimals digit) same

theorem eq_of_last_separator {α : Type} {a : α} {front back front' back' : List α}
    (last : a ∉ back) (last' : a ∉ back') (same : front ++ a :: back = front' ++ a :: back') :
    front = front' ∧ back = back' := by
  rcases List.append_eq_append_iff.1 same with ⟨more, rfl, rest⟩ | ⟨more, rfl, rest⟩
  all_goals
    cases more with
    | nil =>
      cases rest
      simp
    | cons b more =>
      obtain ⟨rfl, rfl⟩ := List.cons.inj rest
      simp at last last'

-- A queue is one org's under one stem, whatever separators and digits the stem has in it.
theorem queueKey_eq_iff {stem other : String} {org another : OrgId} :
    queueKey stem org = queueKey other another ↔ stem = other ∧ org = another := by
  constructor
  · intro same
    have chars : stem.toList ++ ':' :: org.text.toList =
        other.toList ++ ':' :: another.text.toList := by
      simpa [queueKey] using congrArg String.toList same
    obtain ⟨front, back⟩ :=
      eq_of_last_separator org.colon_not_mem_text another.colon_not_mem_text chars
    exact ⟨String.toList_inj.1 front, Id.text_inj.1 (String.toList_inj.1 back)⟩
  · rintro ⟨rfl, rfl⟩
    rfl

example : queueKey "msgs:7" ⟨7⟩ = "msgs:7:7" ∧ queueKey "msgs" ⟨-7⟩ = "msgs:-7" := by decide

end SessionBatch

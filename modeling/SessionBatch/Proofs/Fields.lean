import SessionBatch.Proofs.Format

namespace SessionBatch.Reading
open SessionBatch.Json

section Folds

variable {σ α β γ μ ν : Type}

theorem foldlM_cons_iff {f : σ → μ → Reads σ} {s after : σ} {m : μ} {ms : List μ} :
    List.foldlM f s (m :: ms) = .ok after ↔
      ∃ next, f s m = .ok next ∧ List.foldlM f next ms = .ok after := by
  rw [List.foldlM_cons]
  exact ok_bind_iff

def takeField (key : String) (read : ν → Reads α) (slot : Option α) (m : String × ν) :
    Reads (Option α) :=
  if m.1 = key then fill key slot fun _ => read m.2 else .ok slot

-- What reads a value into what the format says it is.
def Accepts (read : ν → Reads α) (is : ν → α → Prop) : Prop := ∀ v a, read v = .ok a ↔ is v a

variable {key : String} {read : ν → Reads α} {is : ν → α → Prop}

theorem foldlM_other {slot : Option α} {m : String × ν} (other : m.1 ≠ key)
    (members : List (String × ν)) :
    (m :: members).foldlM (takeField key read) slot = members.foldlM (takeField key read) slot := by
  rw [List.foldlM_cons, takeField, if_neg other]
  rfl

theorem filled_iff {a : α} {members : List (String × ν)} {after : Option α} :
    members.foldlM (takeField key read) (some a) = .ok after ↔
      after = some a ∧ ∀ m ∈ members, m.1 ≠ key := by
  induction members with
  | nil =>
    constructor
    · rintro ⟨⟩
      exact ⟨rfl, by simp⟩
    · rintro ⟨rfl, _⟩
      rfl
  | cons m members ih =>
    by_cases same : m.1 = key
    · constructor
      · intro read
        obtain ⟨next, taken, _⟩ := foldlM_cons_iff.1 read
        rw [takeField, if_pos same] at taken
        cases taken
      · rintro ⟨_, others⟩
        exact absurd same (others m List.mem_cons_self)
    · rw [foldlM_other same, ih, List.forall_mem_cons]
      exact and_congr_right fun _ => (and_iff_right same).symm

theorem foldlM_same {m : String × ν} (same : m.1 = key) {members : List (String × ν)}
    {after : Option α} :
    (m :: members).foldlM (takeField key read) none = .ok after ↔
      ∃ a, read m.2 = .ok a ∧ after = some a ∧ ∀ m ∈ members, m.1 ≠ key := by
  rw [foldlM_cons_iff]
  constructor
  · rintro ⟨next, taken, rest⟩
    rw [takeField, if_pos same] at taken
    obtain ⟨a, found, rfl⟩ := ok_map_iff.1 taken
    exact ⟨a, found, filled_iff.1 rest⟩
  · rintro ⟨a, found, rest⟩
    refine ⟨some a, ?_, filled_iff.2 rest⟩
    rw [takeField, if_pos same]
    exact ok_map_iff.2 ⟨a, found, rfl⟩

theorem absent_iff {members : List (String × ν)} :
    members.foldlM (takeField key read) none = .ok none ↔ ∀ m ∈ members, m.1 ≠ key := by
  induction members with
  | nil => exact iff_of_true rfl (by simp)
  | cons m members ih =>
    by_cases same : m.1 = key
    · rw [foldlM_same same]
      constructor
      · rintro ⟨_, _, ⟨⟩, _⟩
      · exact fun others => absurd same (others m List.mem_cons_self)
    · rw [foldlM_other same, ih, List.forall_mem_cons]
      exact (and_iff_right same).symm

theorem filter_eq_nil_iff_absent {members : List (String × ν)} :
    members.filter (·.1 = key) = [] ↔ ∀ m ∈ members, m.1 ≠ key := by
  simp [List.filter_eq_nil_iff]

theorem once_iff (accepts : Accepts read is) {members : List (String × ν)} {a : α} :
    members.foldlM (takeField key read) none = .ok (some a) ↔ Once key is members a := by
  unfold Once
  induction members with
  | nil =>
    constructor
    · rintro ⟨⟩
    · rintro ⟨_, ⟨⟩, _⟩
  | cons m members ih =>
    by_cases same : m.1 = key
    · obtain ⟨_, v⟩ := m
      cases same
      rw [foldlM_same rfl, List.filter_cons_of_pos (by simp)]
      constructor
      · rintro ⟨_, found, ⟨⟩, others⟩
        exact ⟨v, by rw [filter_eq_nil_iff_absent.2 others], (accepts v a).1 found⟩
      · rintro ⟨_, alone, fits⟩
        cases (List.cons.inj alone).1
        exact ⟨a, (accepts v a).2 fits, rfl, filter_eq_nil_iff_absent.1 (List.cons.inj alone).2⟩
    · rw [foldlM_other same, ih, List.filter_cons_of_neg (by simpa using same)]

theorem atMostOnce_iff (accepts : Accepts read is) {default : α} {members : List (String × ν)}
    {a : α} :
    (∃ after, members.foldlM (takeField key read) none = .ok after ∧ after.getD default = a) ↔
      AtMostOnce key is default members a := by
  constructor
  · rintro ⟨after, taken, rfl⟩
    cases after with
    | none => exact .inr ⟨absent_iff.1 taken, rfl⟩
    | some a => exact .inl ((once_iff accepts).1 taken)
  · rintro (once | ⟨absent, rfl⟩)
    · exact ⟨some a, (once_iff accepts).2 once, rfl⟩
    · exact ⟨none, absent_iff.2 absent, rfl⟩

theorem fill_iff {slot after : Option α} {read : Unit → Reads α} :
    fill key slot read = .ok after ↔ slot = none ∧ ∃ a, read () = .ok a ∧ some a = after := by
  cases slot with
  | some b =>
    constructor
    · rintro ⟨⟩
    · rintro ⟨⟨⟩, _⟩
  | none => exact ok_map_iff.trans (and_iff_right rfl).symm

theorem present_iff {slot : Option α} {a : α} : present key slot = .ok a ↔ slot = some a := by
  cases slot with
  | none => constructor <;> rintro ⟨⟩
  | some b => constructor <;> rintro ⟨⟩ <;> rfl

-- Two steps that do not look at each other's part of a state.
theorem foldlM_pair_iff {σ τ : Type} {f : σ × τ → μ → Reads (σ × τ)} {g : σ → μ → Reads σ}
    {h : τ → μ → Reads τ}
    (apart : ∀ s m after, f s m = .ok after ↔ g s.1 m = .ok after.1 ∧ h s.2 m = .ok after.2)
    {ms : List μ} {s after : σ × τ} :
    ms.foldlM f s = .ok after ↔ ms.foldlM g s.1 = .ok after.1 ∧ ms.foldlM h s.2 = .ok after.2 := by
  induction ms generalizing s with
  | nil =>
    constructor
    · rintro ⟨⟩
      exact ⟨rfl, rfl⟩
    · rintro ⟨first, second⟩
      exact congrArg Except.ok (Prod.ext (Except.ok.inj first) (Except.ok.inj second))
  | cons m ms ih =>
    simp only [foldlM_cons_iff, apart, ih]
    constructor
    · rintro ⟨next, ⟨first, second⟩, first', second'⟩
      exact ⟨⟨next.1, first, first'⟩, ⟨next.2, second, second'⟩⟩
    · rintro ⟨⟨x, first, first'⟩, ⟨y, second, second'⟩⟩
      exact ⟨(x, y), ⟨first, second⟩, first', second'⟩

theorem mapM_iff {vs : List ν} {as : List α} (accepts : ∀ v ∈ vs, ∀ a, read v = .ok a ↔ is v a) :
    vs.mapM read = .ok as ↔ List.Forall₂ is vs as := by
  induction vs generalizing as with
  | nil =>
    constructor
    · rintro ⟨⟩
      exact .nil
    · rintro ⟨⟩
      rfl
  | cons v vs ih =>
    obtain ⟨here, others⟩ := List.forall_mem_cons.1 accepts
    rw [List.mapM_cons]
    constructor
    · intro found
      obtain ⟨a, first, found⟩ := ok_bind_iff.1 found
      obtain ⟨as, more, found⟩ := ok_bind_iff.1 found
      cases found
      exact .cons ((here a).1 first) ((ih others).1 more)
    · rintro ⟨⟩
      next a as first more =>
        refine ok_bind_iff.2 ⟨a, (here a).2 first, ?_⟩
        exact ok_bind_iff.2 ⟨as, (ih others).2 more, rfl⟩

end Folds

section Fields

variable {α β γ : Type} {members : Members}

theorem readOne_eq (field : String) (read : Value → Reads α) :
    readOne field read members = members.foldlM (takeField field read) none := rfl

variable {field₁ field₂ field₃ : String} {read₁ : Value → Reads α} {read₂ : Value → Reads β}
  {read₃ : Value → Reads γ}

theorem readTwo_iff (distinct : field₁ ≠ field₂) {a : Option α} {b : Option β} :
    readTwo field₁ field₂ read₁ read₂ members = .ok (a, b) ↔
      readOne field₁ read₁ members = .ok a ∧ readOne field₂ read₂ members = .ok b := by
  rw [readOne_eq, readOne_eq]
  refine foldlM_pair_iff ?_
  rintro ⟨slot₁, slot₂⟩ ⟨key, v⟩ ⟨a, b⟩
  dsimp only [takeField]
  by_cases first : key = field₁
  · have second : key ≠ field₂ := fun same => distinct (first.symm.trans same)
    simp [if_pos first, if_neg second, ok_fmap_iff]
  · by_cases second : key = field₂
    · simp [if_neg first, if_pos second, ok_fmap_iff, and_comm]
    · simp [if_neg first, if_neg second, ok_pure_iff]

theorem readThree_iff (first : field₁ ≠ field₂) (second : field₁ ≠ field₃)
    {a : Option α} {b : Option β} {c : Option γ} :
    readThree field₁ field₂ field₃ read₁ read₂ read₃ members = .ok (a, b, c) ↔
      readOne field₁ read₁ members = .ok a ∧
        readTwo field₂ field₃ read₂ read₃ members = .ok (b, c) := by
  rw [readOne_eq]
  refine foldlM_pair_iff ?_
  rintro ⟨slot₁, slot₂, slot₃⟩ ⟨key, v⟩ ⟨a, b, c⟩
  dsimp only [takeField]
  by_cases is₁ : key = field₁
  · have not₂ : key ≠ field₂ := fun same => first (is₁.symm.trans same)
    have not₃ : key ≠ field₃ := fun same => second (is₁.symm.trans same)
    simp [if_pos is₁, if_neg not₂, if_neg not₃, ok_fmap_iff, ok_pure_iff]
  · by_cases is₂ : key = field₂
    · simp [if_neg is₁, if_pos is₂, ok_fmap_iff, and_comm, and_assoc]
    · by_cases is₃ : key = field₃
      · simp [if_neg is₁, if_neg is₂, if_pos is₃, ok_fmap_iff, and_comm, and_assoc]
      · simp [if_neg is₁, if_neg is₂, if_neg is₃, ok_pure_iff]

end Fields

end SessionBatch.Reading

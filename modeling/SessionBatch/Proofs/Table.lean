import Std.Data.ExtTreeMap
import Std.Data.ExtTreeSet

namespace SessionBatch

variable {σ α β κ : Type}

-- What a fold does to a view of its state is a fold over the steps that the view notices.
theorem foldl_view (view : σ → β) (act : β → α → β) {step : σ → α → σ} {counts : α → Bool}
    (seen : ∀ s a, view (step s a) = if counts a then act (view s) a else view s)
    (items : List α) (s : σ) :
    view (items.foldl step s) = (items.filter counts).foldl act (view s) := by
  rw [List.foldl_filter]
  exact (List.foldl_hom view fun s a => (seen s a).symm).symm

section First

variable {step : σ → α → σ} {first : α → Bool}

theorem foldl_pass (swap : ∀ s a b, first a = false → first b = true →
      step (step s a) b = step (step s b) a) {early : List α} {a : α} (late : first a = false)
    (all : ∀ b ∈ early, first b = true) (s : σ) :
    early.foldl step (step s a) = step (early.foldl step s) a := by
  induction early generalizing s with
  | nil => rfl
  | cons b rest ih =>
    rw [List.foldl_cons, swap s a b late (all b (by simp)), List.foldl_cons]
    exact ih (fun c member => all c (by simp [member])) (step s b)

theorem foldl_first (swap : ∀ s a b, first a = false → first b = true →
      step (step s a) b = step (step s b) a) (items : List α) (s : σ) :
    items.foldl step s =
      (items.filter (!first ·)).foldl step ((items.filter first).foldl step s) := by
  induction items generalizing s with
  | nil => rfl
  | cons a rest ih =>
    cases kind : first a with
    | true => simp [kind, ih]
    | false =>
      have early : ∀ b ∈ rest.filter first, first b = true :=
        fun b member => (List.mem_filter.1 member).2
      rw [List.foldl_cons, ih, foldl_pass swap kind early]
      simp [kind]

end First

theorem filter_eq_of_distinct [DecidableEq κ] {rows : List (κ × α)} {key : κ} {a : α}
    (distinct : rows.Pairwise fun one other => one.1 ≠ other.1) (member : (key, a) ∈ rows) :
    rows.filter (·.1 = key) = [(key, a)] := by
  induction distinct with
  | nil => cases member
  | @cons row rest apart _ ih =>
    cases member with
    | head =>
      have none : rest.filter (·.1 = key) = [] := by
        rw [List.filter_eq_nil_iff]
        intro other member same
        exact apart other member (by simpa using (of_decide_eq_true same).symm)
      simp [none]
    | tail _ member =>
      have other : row.1 ≠ key := apart _ member
      simp [other, ih member]

theorem size_erase_of_mem {κ : Type} [Ord κ] [Std.TransOrd κ] {s : Std.ExtTreeSet κ} {key : κ}
    (held : s.contains key = true) : (s.erase key).size + 1 = s.size := by
  have most := Std.ExtTreeSet.size_le_size_erase (t := s) (k := key)
  have filled : s.size ≠ 0 := by
    rw [ne_eq, ← Std.ExtTreeSet.eq_empty_iff_size_eq_zero]
    rintro rfl
    simp at held
  rw [Std.ExtTreeSet.size_erase, if_pos held] at *
  omega

variable [Ord κ] [Std.LawfulEqOrd κ]

theorem nodup_of_ordered {rows : List (κ × α)}
    (ordered : rows.Pairwise (compare ·.1 ·.1 = .lt)) : rows.Nodup := by
  refine ordered.imp fun before same => ?_
  rw [same, Std.ReflOrd.compare_self] at before
  cases before

variable [Std.TransOrd κ]

theorem toList_eq_filterMap {keys : List κ} (ordered : keys.Pairwise (compare · · = .lt))
    (m : Std.ExtTreeMap κ α) (complete : ∀ key ∈ m, key ∈ keys) :
    m.toList = keys.filterMap fun key => m[key]?.map (key, ·) := by
  have listed : (keys.filterMap fun key => m[key]?.map (key, ·)).Pairwise
      (compare ·.1 ·.1 = .lt) := by
    refine List.Pairwise.filterMap (R := (compare · · = .lt)) _ ?_ ordered
    intro one other before a first b second
    obtain ⟨_, _, rfl⟩ := Option.map_eq_some_iff.1 first
    obtain ⟨_, _, rfl⟩ := Option.map_eq_some_iff.1 second
    exact before
  have same : m.toList.Perm (keys.filterMap fun key => m[key]?.map (key, ·)) := by
    refine (List.perm_ext_iff_of_nodup (nodup_of_ordered Std.ExtTreeMap.ordered_keys_toList)
      (nodup_of_ordered listed)).2 fun (key, a) => ?_
    rw [Std.ExtTreeMap.mem_toList_iff_getElem?_eq_some, List.mem_filterMap]
    constructor
    · intro found
      refine ⟨key, complete key ?_, by rw [found]; rfl⟩
      rw [Std.ExtTreeMap.mem_iff_isSome_getElem?, found]
      rfl
    · rintro ⟨other, _, found⟩
      obtain ⟨_, found, same⟩ := Option.map_eq_some_iff.1 found
      cases same
      exact found
  refine same.eq_of_pairwise (fun one other _ _ before after => ?_)
    Std.ExtTreeMap.ordered_keys_toList listed
  rw [Std.OrientedOrd.eq_swap (a := other.1), before] at after
  cases after

theorem mem_inserts (rows : List κ) (s : Std.ExtTreeSet κ) (key : κ) :
    key ∈ rows.foldl (·.insert ·) s ↔ key ∈ s ∨ key ∈ rows := by
  induction rows generalizing s with
  | nil => simp
  | cons row rest ih =>
    rw [List.foldl_cons, ih, Std.ExtTreeSet.mem_insert, Std.compare_eq_iff_eq, List.mem_cons]
    constructor
    · rintro ((same | held) | later)
      · exact .inr (.inl same.symm)
      · exact .inl held
      · exact .inr (.inr later)
    · rintro (held | same | later)
      · exact .inl (.inr held)
      · exact .inl (.inl same.symm)
      · exact .inr later

theorem mem_erases (rows : List κ) (s : Std.ExtTreeSet κ) (key : κ) :
    key ∈ rows.foldl (·.erase ·) s ↔ key ∈ s ∧ key ∉ rows := by
  induction rows generalizing s with
  | nil => simp
  | cons row rest ih =>
    rw [List.foldl_cons, ih, Std.ExtTreeSet.mem_erase, List.mem_cons, not_or, ne_eq,
      Std.compare_eq_iff_eq]
    constructor
    · rintro ⟨⟨apart, held⟩, later⟩
      exact ⟨held, fun same => apart same.symm, later⟩
    · rintro ⟨held, apart, later⟩
      exact ⟨⟨fun same => apart same.symm, held⟩, later⟩

theorem size_union_eq (s added : Std.ExtTreeSet κ) :
    (s ∪ added).size = s.size + (added \ s).size := by
  have shared : added ∩ s = s ∩ added := by
    refine Std.ExtTreeSet.ext_mem fun key => ?_
    rw [Std.ExtTreeSet.mem_inter_iff, Std.ExtTreeSet.mem_inter_iff, and_comm]
  have both : s.size + added.size = (s ∪ added).size + (s ∩ added).size :=
    Std.ExtTreeSet.size_add_size_eq_size_union_add_size_inter
  have apart : (added \ s).size + (added ∩ s).size = added.size :=
    Std.ExtTreeSet.size_diff_add_size_inter_eq_size_left
  rw [shared] at apart
  omega

variable [DecidableEq κ]

theorem foldl_insert_eq_union (rows : List κ) (s : Std.ExtTreeSet κ) :
    rows.foldl (·.insert ·) s = s ∪ .ofList rows := by
  refine Std.ExtTreeSet.ext_mem fun key => ?_
  rw [mem_inserts, Std.ExtTreeSet.mem_union_iff, Std.ExtTreeSet.mem_ofList, List.contains_iff_mem]

theorem foldl_erase_eq_diff (rows : List κ) (s : Std.ExtTreeSet κ) :
    rows.foldl (·.erase ·) s = s \ .ofList rows := by
  refine Std.ExtTreeSet.ext_mem fun key => ?_
  rw [mem_erases, Std.ExtTreeSet.mem_diff_iff, Std.ExtTreeSet.mem_ofList, List.contains_iff_mem]

theorem toList_filter_key (m : Std.ExtTreeMap κ α) (key : κ) :
    m.toList.filter (·.1 = key) = (m[key]?.map (key, ·)).toList := by
  cases found : m[key]? with
  | none =>
    rw [Option.map_none, Option.toList_none, List.filter_eq_nil_iff]
    rintro ⟨other, a⟩ member same
    have held := Std.ExtTreeMap.mem_toList_iff_getElem?_eq_some.1 member
    rw [show other = key from of_decide_eq_true same, found] at held
    cases held
  | some a =>
    refine filter_eq_of_distinct (Std.ExtTreeMap.distinct_keys_toList.imp fun apart same => ?_)
      (Std.ExtTreeMap.mem_toList_iff_getElem?_eq_some.2 found)
    exact apart (same ▸ Std.ReflCmp.compare_self)

theorem foldl_toList_view (view : σ → β) (act : β → α → β) {step : σ → κ × α → σ} {key : κ}
    (seen : ∀ s row, view (step s row) = if row.1 = key then act (view s) row.2 else view s)
    (m : Std.ExtTreeMap κ α) (s : σ) :
    view (m.toList.foldl step s) = m[key]?.elim (view s) (act (view s)) := by
  have noticed : ∀ s (row : κ × α), view (step s row) =
      if decide (row.1 = key) then act (view s) row.2 else view s := by
    simpa using seen
  rw [foldl_view view (fun b row => act b row.2) noticed, toList_filter_key]
  cases m[key]? <;> rfl

theorem getElem?_inserts (rows : List (κ × β)) (m : Std.ExtTreeMap κ β) (key : κ) :
    (rows.foldl (fun m (key, b) => m.insert key b) m)[key]? =
      (((rows.filter (·.1 = key)).map Prod.snd).getLast?).or m[key]? := by
  induction rows generalizing m with
  | nil => simp
  | cons row rest ih =>
    rw [List.foldl_cons, ih]
    by_cases same : row.1 = key
    · simp [same, List.getLast?_cons]
    · simp [same, Std.ExtTreeMap.getElem?_insert]

end SessionBatch

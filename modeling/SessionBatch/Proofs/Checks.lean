namespace SessionBatch

variable {α β ε : Type}

theorem checks_error_iff {items : List α} {check : α → Except ε Unit} {e : ε} :
    items.forM check = .error e ↔ ∃ before item after, items = before ++ item :: after ∧
      (∀ i ∈ before, check i = .ok ()) ∧ check item = .error e := by
  induction items with
  | nil =>
    constructor
    · intro failed
      cases failed
    · intro ⟨before, item, after, split, _⟩
      exact absurd split.symm (by simp)
  | cons first rest ih =>
    change (check first >>= fun _ => rest.forM check) = .error e ↔ _
    cases found : check first with
    | error cause =>
      constructor
      · intro failed
        cases failed
        exact ⟨[], first, rest, rfl, nofun, found⟩
      · intro ⟨before, item, after, split, passed, problem⟩
        cases before with
        | nil =>
          cases split
          exact found.symm.trans problem
        | cons head before =>
          cases split
          have ok := passed first (by simp)
          rw [found] at ok
          cases ok
    | ok =>
      refine Iff.trans ih ⟨?_, ?_⟩
      · intro ⟨before, item, after, split, passed, problem⟩
        refine ⟨first :: before, item, after, congrArg (first :: ·) split, ?_, problem⟩
        intro i member
        rcases List.mem_cons.1 member with rfl | member
        · exact found
        · exact passed i member
      · intro ⟨before, item, after, split, passed, problem⟩
        cases before with
        | nil =>
          cases split
          rw [found] at problem
          cases problem
        | cons head before =>
          cases split
          exact ⟨before, item, after, rfl, fun i member => passed i (by simp [member]), problem⟩

theorem checks_error {items : List α} {check : α → Except ε Unit} {e : ε}
    (failed : items.forM check = .error e) : ∃ item ∈ items, check item = .error e := by
  obtain ⟨before, item, after, rfl, _, problem⟩ := checks_error_iff.1 failed
  exact ⟨item, by simp, problem⟩

theorem checks_ok_iff {items : List α} {check : α → Except ε Unit} :
    items.forM check = .ok () ↔ ∀ item ∈ items, check item = .ok () := by
  induction items with
  | nil => simp [List.forM, pure, Except.pure]
  | cons item rest ih =>
    change (check item >>= fun _ => rest.forM check) = .ok () ↔ _
    cases found : check item with
    | error cause => simp [bind, Except.bind, found]
    | ok => simpa [bind, Except.bind, found] using ih

theorem readings_error_split {items : List α} {read : α → Except ε β} {e : ε}
    (failed : items.mapM read = .error e) : ∃ before item after, items = before ++ item :: after ∧
      (∀ i ∈ before, ∃ value, read i = .ok value) ∧ read item = .error e := by
  induction items with
  | nil => cases failed
  | cons first rest ih =>
    rw [List.mapM_cons] at failed
    cases found : read first with
    | error cause =>
      rw [found] at failed
      cases failed
      exact ⟨[], first, rest, rfl, nofun, found⟩
    | ok b =>
      cases others : rest.mapM read with
      | error cause =>
        rw [found, others] at failed
        cases failed
        obtain ⟨before, item, after, split, passed, problem⟩ := ih others
        refine ⟨first :: before, item, after, congrArg (first :: ·) split, ?_, problem⟩
        intro i member
        rcases List.mem_cons.1 member with rfl | member
        · exact ⟨b, found⟩
        · exact passed i member
      | ok bs =>
        rw [found, others] at failed
        cases failed

theorem readings_error {items : List α} {read : α → Except ε β} {e : ε}
    (failed : items.mapM read = .error e) : ∃ item ∈ items, read item = .error e := by
  obtain ⟨before, item, after, rfl, _, problem⟩ := readings_error_split failed
  exact ⟨item, by simp, problem⟩

theorem readings_back {items : List α} {read : α → Except ε β} {values : List β} {back : β → α}
    (known : ∀ item value, read item = .ok value → back value = item)
    (done : items.mapM read = .ok values) : values.map back = items := by
  induction items generalizing values with
  | nil =>
    cases done
    rfl
  | cons item rest ih =>
    rw [List.mapM_cons] at done
    cases found : read item with
    | error e =>
      rw [found] at done
      cases done
    | ok first =>
      cases others : rest.mapM read with
      | error e =>
        rw [found, others] at done
        cases done
      | ok later =>
        rw [found, others] at done
        cases done
        rw [List.map_cons, known item first found, ih others]

theorem mem_of_readings {items : List α} {read : α → Except ε β} {values : List β}
    (done : items.mapM read = .ok values) :
    ∀ value ∈ values, ∃ item ∈ items, read item = .ok value := by
  induction items generalizing values with
  | nil =>
    cases done
    exact fun _ none => absurd none List.not_mem_nil
  | cons item rest ih =>
    rw [List.mapM_cons] at done
    cases found : read item with
    | error e =>
      rw [found] at done
      cases done
    | ok first =>
      cases others : rest.mapM read with
      | error e =>
        rw [found, others] at done
        cases done
      | ok later =>
        rw [found, others] at done
        cases done
        intro value member
        rcases List.mem_cons.1 member with rfl | member
        · exact ⟨item, List.mem_cons_self, found⟩
        · obtain ⟨source, listed, read⟩ := ih others value member
          exact ⟨source, List.mem_cons_of_mem _ listed, read⟩

theorem readings_ok {items : List α} {read : α → Except ε β} {value : α → β}
    (known : ∀ item ∈ items, read item = .ok (value item)) :
    items.mapM read = .ok (items.map value) := by
  induction items with
  | nil => rfl
  | cons item rest ih =>
    rw [List.mapM_cons, known item (by simp), ih fun i member => known i (by simp [member])]
    rfl

end SessionBatch

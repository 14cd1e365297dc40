import SessionBatch.Proofs.Reduction

namespace SessionBatch.Store

variable {s t : Store} {b : BulkWrite} {n : Nat}

def present (s : Store) (ids : List ContactId) : Nat := s.contacts.keys.countP (ids.contains ·)

-- What a write does that is not refused, and the number of rows it affects: contacts there are,
-- memberships that are new or that end, messages, and labels there are more than before. All else
-- is left as it is, and one more statement is counted.
inductive Performs (s : Store) : BulkWrite → Nat → Store → Prop
  | names {rows : List (ContactId × String)} (distinct : (rows.map Prod.fst).Nodup) :
      Performs s (.updateNames rows) (s.present (rows.map Prod.fst))
        { s with
          contacts := s.contacts.map fun id c => { c with name := (rows.lookup id).or c.name }
          statements := s.statements + 1 }
  | languages {rows : List (ContactId × Option String)} (distinct : (rows.map Prod.fst).Nodup) :
      Performs s (.updateLanguages rows) (s.present (rows.map Prod.fst))
        { s with
          contacts := s.contacts.map fun id c =>
            { c with language := (rows.lookup id).getD c.language }
          statements := s.statements + 1 }
  | fields {rows : List (ContactId × FieldChanges)} (distinct : (rows.map Prod.fst).Nodup) :
      Performs s (.updateFields rows) (s.present (rows.map Prod.fst))
        { s with
          contacts := s.contacts.map fun id c =>
            { c with fields := (rows.lookup id).elim c.fields (FieldChanges.onto · c.fields) }
          statements := s.statements + 1 }
  | joined {rows : List Membership} (known : ∀ row ∈ rows, s.hasContact row.contact = true) :
      Performs s (.addMemberships rows) (Std.ExtTreeSet.ofList rows \ s.memberships).size
        { s with
          memberships := s.memberships ∪ .ofList rows
          statements := s.statements + 1 }
  | parted {rows : List Membership} :
      Performs s (.removeMemberships rows) (s.memberships ∩ .ofList rows).size
        { s with
          memberships := s.memberships \ .ofList rows
          statements := s.statements + 1 }
  | sent {rows : List Message} (accepted : s.Accepts rows) :
      Performs s (.insertMessages rows) rows.length
        { s with
          messages := s.messages ++ rows
          statements := s.statements + 1 }
  | labelled {rows : List MessageLabel} {labels : Std.ExtTreeSet MessageLabel} {n : Nat}
      (union : labels = s.labels ∪ .ofList (rows.filter (s.hasMessage ·.message)))
      (growth : labels.size = s.labels.size + n) :
      Performs s (.addLabels rows) n
        { s with
          labels
          statements := s.statements + 1 }

section Update

variable {α : Type} {set : α → Contact → Contact} {rows : List (ContactId × α)}

theorem getElem?_modifies (distinct : (rows.map Prod.fst).Nodup)
    (contacts : Std.ExtTreeMap ContactId Contact) (id : ContactId) :
    (rows.foldl (fun cs (id, value) => cs.modify id (set value)) contacts)[id]? =
      contacts[id]?.map fun c => (rows.lookup id).elim c (set · c) := by
  induction rows generalizing contacts with
  | nil => simp
  | cons row rest ih =>
    obtain ⟨apart, distinct⟩ := List.nodup_cons.1 distinct
    rw [List.foldl_cons, ih distinct, Std.ExtTreeMap.getElem?_modify, List.lookup_cons]
    by_cases same : row.1 = id
    · subst same
      have none : rest.lookup row.1 = none := by
        rw [List.lookup_eq_none_iff]
        intro other listed
        refine bne_iff_ne.2 fun again => apart ?_
        exact again ▸ List.mem_map_of_mem listed
      cases contacts[row.1]? <;> simp [none]
    · have other : (id == row.1) = false := beq_eq_false_iff_ne.2 fun again => same again.symm
      simp [same, other]

theorem countP_hasContact {ids : List ContactId} (distinct : ids.Nodup) :
    ids.countP s.hasContact = s.present ids := by
  unfold present
  rw [List.countP_eq_length_filter, List.countP_eq_length_filter]
  refine List.Perm.length_eq ?_
  refine (List.perm_ext_iff_of_nodup (distinct.filter _)
    (Std.ExtTreeMap.nodup_keys.filter _)).2 fun id => ?_
  simp [List.mem_filter, hasContact, and_comm]

theorem updateContacts_ok {revised : ContactId → Contact → Contact}
    (distinct : (rows.map Prod.fst).Nodup)
    (same : ∀ id c, (rows.lookup id).elim c (set · c) = revised id c) :
    updateContacts set rows s =
      (.ok (s.present (rows.map Prod.fst)),
        { s.count with contacts := s.contacts.map revised }) := by
  have changed : rows.foldl (fun cs (id, value) => cs.modify id (set value)) s.contacts =
      s.contacts.map revised := by
    refine Std.ExtTreeMap.ext_getElem? fun id => ?_
    rw [getElem?_modifies distinct, Std.ExtTreeMap.getElem?_map]
    exact congrArg (Option.map · _) (funext (same id))
  unfold updateContacts
  rw [firstRepeated_eq_none_iff.2 ⟨distinct, by simp⟩, changed, ← countP_hasContact distinct,
    List.countP_map]
  rfl

theorem nodup_of_updateContacts (done : updateContacts set rows s = (.ok n, t)) :
    (rows.map Prod.fst).Nodup := by
  unfold updateContacts at done
  split at done
  · cases done
  · rename_i none
    exact (firstRepeated_eq_none_iff.1 none).1

end Update

theorem addMemberships_count {rows : List Membership} {m : Nat}
    (done : addMemberships m rows s = (.ok n, t)) :
    m + t.memberships.size = n + s.memberships.size := by
  induction rows generalizing m s with
  | nil =>
    cases done
    rfl
  | cons row rest ih =>
    rw [addMemberships] at done
    split at done
    · have counted := ih done
      rw [Std.ExtTreeSet.size_insert] at counted
      split at counted <;> omega
    · cases done

theorem removeMemberships_count {rows : List Membership} {m : Nat}
    (done : removeMemberships m rows s = (.ok n, t)) :
    n + t.memberships.size = m + s.memberships.size := by
  induction rows generalizing m s with
  | nil =>
    cases done
    rfl
  | cons row rest ih =>
    have counted := ih done
    by_cases held : s.memberships.contains row = true
    · have fewer := size_erase_of_mem held
      rw [if_pos held] at counted
      dsimp only at counted
      omega
    · rw [if_neg held, Std.ExtTreeSet.size_erase, if_neg held] at counted
      exact counted

theorem insertMessages_count {rows : List Message} {m : Nat}
    (done : insertMessages m rows s = (.ok n, t)) : n = m + rows.length := by
  induction rows generalizing m s with
  | nil =>
    cases done
    rfl
  | cons row rest ih =>
    rw [insertMessages] at done
    split at done
    · split at done
      · cases done
      · rw [ih done, List.length_cons]
        omega
    · cases done

theorem addLabels_count {rows : List MessageLabel} {m : Nat}
    (done : addLabels m rows s = (.ok n, t)) : m + t.labels.size = n + s.labels.size := by
  induction rows generalizing m s with
  | nil =>
    cases done
    rfl
  | cons row rest ih =>
    rw [addLabels] at done
    split at done
    · have counted := ih done
      rw [Std.ExtTreeSet.size_insert] at counted
      split at counted <;> omega
    · exact ih done

theorem addMemberships_union {rows : List Membership}
    (known : ∀ row ∈ rows, s.hasContact row.contact = true) :
    s.write (.addMemberships rows) =
      (.ok (Std.ExtTreeSet.ofList rows \ s.memberships).size,
        { s.count with memberships := s.memberships ∪ .ofList rows }) := by
  obtain ⟨m, done⟩ := addMemberships_ok (s := s.count) known 0
  rw [foldl_insert_eq_union] at done
  have counted : 0 + (s.memberships ∪ .ofList rows).size = m + s.memberships.size :=
    addMemberships_count (s := s.count) done
  have grown := size_union_eq s.memberships (.ofList rows)
  have number : m = (Std.ExtTreeSet.ofList rows \ s.memberships).size := by omega
  exact number ▸ done

theorem removeMemberships_diff (rows : List Membership) :
    s.write (.removeMemberships rows) =
      (.ok (s.memberships ∩ .ofList rows).size,
        { s.count with memberships := s.memberships \ .ofList rows }) := by
  obtain ⟨m, done⟩ := removeMemberships_ok rows s.count 0
  rw [foldl_erase_eq_diff] at done
  have counted : m + (s.memberships \ .ofList rows).size = 0 + s.memberships.size :=
    removeMemberships_count (s := s.count) done
  have apart : (s.memberships \ .ofList rows).size + (s.memberships ∩ .ofList rows).size =
      s.memberships.size := Std.ExtTreeSet.size_diff_add_size_inter_eq_size_left
  have number : m = (s.memberships ∩ .ofList rows).size := by omega
  exact number ▸ done

theorem addLabels_union (rows : List MessageLabel) :
    ∃ m, s.write (.addLabels rows) =
        (.ok m, { s.count with
          labels := s.labels ∪ .ofList (rows.filter (s.hasMessage ·.message)) }) ∧
      (s.labels ∪ .ofList (rows.filter (s.hasMessage ·.message))).size = s.labels.size + m := by
  obtain ⟨m, done⟩ := addLabels_ok rows s.count 0
  rw [foldl_insert_eq_union] at done
  have counted : 0 + (s.labels ∪ .ofList (rows.filter (s.hasMessage ·.message))).size =
      m + s.labels.size := addLabels_count (s := s.count) done
  exact ⟨m, done, by omega⟩

theorem Performs.write_eq (performed : s.Performs b n t) : s.write b = (.ok n, t) := by
  cases performed with
  | @names rows distinct =>
    exact updateContacts_ok distinct fun id c => by cases rows.lookup id <;> rfl
  | @languages rows distinct =>
    exact updateContacts_ok distinct fun id c => by cases rows.lookup id <;> rfl
  | @fields rows distinct =>
    refine updateContacts_ok distinct fun id c => ?_
    cases rows.lookup id with
    | none => rfl
    | some changes => exact c.setFields_onto changes
  | joined known => exact addMemberships_union known
  | @parted rows => exact removeMemberships_diff rows
  | @sent rows accepted =>
    obtain ⟨m, done⟩ := insertMessages_ok (accepts_count.2 accepted) 0
    have counted : m = rows.length := (insertMessages_count done).trans (Nat.zero_add _)
    exact counted ▸ done
  | @labelled rows _ _ union growth =>
    obtain ⟨m, done, more⟩ := addLabels_union (s := s) rows
    subst union
    have same : m = n := by omega
    exact same ▸ done

theorem performs_of_ok (done : s.write b = (.ok n, t)) : ∃ m u, s.Performs b m u := by
  cases b with
  | updateNames rows => exact ⟨_, _, .names (nodup_of_updateContacts done)⟩
  | updateLanguages rows => exact ⟨_, _, .languages (nodup_of_updateContacts done)⟩
  | updateFields rows => exact ⟨_, _, .fields (nodup_of_updateContacts done)⟩
  | addMemberships rows =>
    refine ⟨_, _, .joined (Classical.byContradiction fun unknown => ?_)⟩
    obtain ⟨contact, failed⟩ := addMemberships_error (s := s.count) unknown 0
    cases failed.symm.trans (congrArg Prod.fst done)
  | removeMemberships rows => exact ⟨_, _, .parted⟩
  | insertMessages rows =>
    refine ⟨_, _, .sent (Classical.byContradiction fun refused => ?_)⟩
    obtain ⟨text, failed | failed⟩ := insertMessages_error (mt accepts_count.1 refused) 0
    · cases failed.symm.trans (congrArg Prod.fst done)
    · cases failed.symm.trans (congrArg Prod.fst done)
  | addLabels rows =>
    obtain ⟨m, _, growth⟩ := addLabels_union (s := s) rows
    exact ⟨m, _, .labelled rfl growth⟩

-- Just these are the writes that succeed, with these numbers and these stores.
theorem write_ok_iff : s.write b = (.ok n, t) ↔ s.Performs b n t := by
  constructor
  · intro done
    obtain ⟨m, u, performed⟩ := performs_of_ok done
    cases performed.write_eq.symm.trans done
    exact performed
  · exact Performs.write_eq

-- A pair that is listed twice is new once.
example : ((withContacts [⟨1⟩]).write (.addMemberships [⟨⟨1⟩, ⟨5⟩⟩, ⟨⟨1⟩, ⟨5⟩⟩])).1 = .ok 1 :=
  rfl

end SessionBatch.Store

import Mathlib.Logic.Relation
import SessionBatch.Proofs.Commitment

namespace SessionBatch

namespace Store

-- What is referred to is there, no message is there twice, and the contacts are those given.
structure Intact (ids : List ContactId) (s : Store) : Prop where
  contacts : ∀ id, s.hasContact id = true ↔ id ∈ ids
  distinct : (s.messages.map Message.uuid).Nodup
  senders : ∀ message ∈ s.messages, s.hasContact message.contactId = true
  members : ∀ row ∈ s.memberships, s.hasContact row.contact = true
  labels : ∀ row ∈ s.labels, s.hasMessage row.message = true

theorem contains_inserts (ids : List ContactId) (contacts : Std.ExtTreeMap ContactId Contact)
    (id : ContactId) :
    (ids.foldl (fun contacts id => contacts.insert id {}) contacts).contains id = true ↔
      id ∈ ids ∨ contacts.contains id = true := by
  induction ids generalizing contacts with
  | nil => simp
  | cons first rest ih =>
    rw [List.foldl_cons, ih, Std.ExtTreeMap.contains_insert, Bool.or_eq_true,
      Std.compare_beq_eq_beq, beq_iff_eq, List.mem_cons]
    constructor
    · rintro (later | same | held)
      · exact .inl (.inr later)
      · exact .inl (.inl same.symm)
      · exact .inr held
    · rintro ((same | later) | held)
      · exact .inr (.inl same.symm)
      · exact .inl later
      · exact .inr (.inr held)

theorem intact_withContacts (ids : List ContactId) : (withContacts ids).Intact ids := by
  refine ⟨fun id => ?_, List.nodup_nil, ?_, ?_, ?_⟩
  · exact (contains_inserts ids {} id).trans (by simp)
  · intro message listed
    cases listed
  · intro row held
    exact absurd held Std.ExtTreeSet.not_mem_empty
  · intro row held
    exact absurd held Std.ExtTreeSet.not_mem_empty

variable {ids : List ContactId} {s : Store}

namespace Intact

theorem count (intact : s.Intact ids) : s.count.Intact ids :=
  ⟨intact.contacts, intact.distinct, intact.senders, intact.members, intact.labels⟩

theorem revised (intact : s.Intact ids) {contacts : Std.ExtTreeMap ContactId Contact}
    (same : ∀ id, contacts.contains id = s.contacts.contains id) :
    Intact ids { s with contacts } := by
  have known : ∀ id, hasContact { s with contacts } id = s.hasContact id := same
  refine ⟨fun id => ?_, intact.distinct, fun message listed => ?_, fun row held => ?_,
    intact.labels⟩
  · rw [known]
    exact intact.contacts id
  · rw [known]
    exact intact.senders message listed
  · rw [known]
    exact intact.members row held

theorem entered (intact : s.Intact ids) {row : Membership}
    (known : s.hasContact row.contact = true) :
    Intact ids { s with memberships := s.memberships.insert row } := by
  refine ⟨intact.contacts, intact.distinct, intact.senders, fun other held => ?_, intact.labels⟩
  rcases Std.ExtTreeSet.mem_insert.1 held with same | held
  · rw [← Std.compare_eq_iff_eq.1 same]
    exact known
  · exact intact.members other held

theorem left (intact : s.Intact ids) (row : Membership) :
    Intact ids { s with memberships := s.memberships.erase row } := by
  refine ⟨intact.contacts, intact.distinct, intact.senders, fun other held => ?_, intact.labels⟩
  exact intact.members other (Std.ExtTreeSet.mem_of_mem_erase held)

theorem sent (intact : s.Intact ids) {row : Message} (known : s.hasContact row.contactId = true)
    (fresh : s.hasMessage row.uuid = false) :
    Intact ids { s with messages := s.messages ++ [row] } := by
  refine ⟨intact.contacts, ?_, fun message listed => ?_, intact.members, fun label held => ?_⟩
  · have accepts : s.Accepts [row] := accepts_cons.2 ⟨known, fresh, by simp, by simp, by simp⟩
    exact accepts.nodup_append intact.distinct
  · rcases List.mem_append.1 listed with old | new
    · exact intact.senders message old
    · cases List.mem_singleton.1 new
      exact known
  · rw [hasMessage_append, intact.labels label held, Bool.true_or]

theorem labelled (intact : s.Intact ids) {row : MessageLabel}
    (known : s.hasMessage row.message = true) :
    Intact ids { s with labels := s.labels.insert row } := by
  refine ⟨intact.contacts, intact.distinct, intact.senders, intact.members, fun other held => ?_⟩
  rcases Std.ExtTreeSet.mem_insert.1 held with same | held
  · rw [← Std.compare_eq_iff_eq.1 same]
    exact known
  · exact intact.labels other held

end Intact

theorem contains_modifies {α : Type} (set : α → Contact → Contact) (rows : List (ContactId × α))
    (contacts : Std.ExtTreeMap ContactId Contact) (id : ContactId) :
    (rows.foldl (fun cs (id, value) => cs.modify id (set value)) contacts).contains id =
      contacts.contains id := by
  induction rows generalizing contacts with
  | nil => rfl
  | cons row rest ih => exact (ih _).trans Std.ExtTreeMap.contains_modify

-- Each write is intact row by row, so a write that ends at a row leaves an intact store as well.
theorem updateContacts_intact {α : Type} (set : α → Contact → Contact)
    (rows : List (ContactId × α)) (intact : s.Intact ids) :
    (updateContacts set rows s).2.Intact ids ∧
      s.statements ≤ (updateContacts set rows s).2.statements := by
  unfold updateContacts
  split
  · exact ⟨intact, Nat.le_refl _⟩
  · exact ⟨intact.count.revised (contains_modifies set rows s.contacts), Nat.le_succ _⟩

theorem addMemberships_intact (rows : List Membership) (n : Nat) (intact : s.Intact ids) :
    (addMemberships n rows s).2.Intact ids ∧
      (addMemberships n rows s).2.statements = s.statements := by
  induction rows generalizing n s with
  | nil => exact ⟨intact, rfl⟩
  | cons row rest ih =>
    rw [addMemberships]
    split
    · rename_i known
      exact ih _ (intact.entered known)
    · exact ⟨intact, rfl⟩

theorem removeMemberships_intact (rows : List Membership) (n : Nat) (intact : s.Intact ids) :
    (removeMemberships n rows s).2.Intact ids ∧
      (removeMemberships n rows s).2.statements = s.statements := by
  induction rows generalizing n s with
  | nil => exact ⟨intact, rfl⟩
  | cons row rest ih => exact ih _ (intact.left row)

theorem insertMessages_intact (rows : List Message) (n : Nat) (intact : s.Intact ids) :
    (insertMessages n rows s).2.Intact ids ∧
      (insertMessages n rows s).2.statements = s.statements := by
  induction rows generalizing n s with
  | nil => exact ⟨intact, rfl⟩
  | cons row rest ih =>
    rw [insertMessages]
    split
    · rename_i known
      split
      · exact ⟨intact, rfl⟩
      · rename_i fresh
        exact ih _ (intact.sent known (by simpa using fresh))
    · exact ⟨intact, rfl⟩

theorem addLabels_intact (rows : List MessageLabel) (n : Nat) (intact : s.Intact ids) :
    (addLabels n rows s).2.Intact ids ∧ (addLabels n rows s).2.statements = s.statements := by
  induction rows generalizing n s with
  | nil => exact ⟨intact, rfl⟩
  | cons row rest ih =>
    rw [addLabels]
    split
    · rename_i known
      exact ih _ (intact.labelled known)
    · exact ih _ intact

theorem write_intact (b : BulkWrite) (intact : s.Intact ids) :
    (s.write b).2.Intact ids ∧ s.statements ≤ (s.write b).2.statements := by
  have counted : ∀ {t : Store}, t.statements = s.count.statements → s.statements ≤ t.statements :=
    fun same => same ▸ Nat.le_succ s.statements
  cases b with
  | updateNames rows => exact updateContacts_intact Contact.setName rows intact
  | updateLanguages rows => exact updateContacts_intact Contact.setLanguage rows intact
  | updateFields rows => exact updateContacts_intact Contact.setFields rows intact
  | addMemberships rows => exact (addMemberships_intact rows 0 intact.count).imp_right counted
  | removeMemberships rows => exact (removeMemberships_intact rows 0 intact.count).imp_right counted
  | insertMessages rows => exact (insertMessages_intact rows 0 intact.count).imp_right counted
  | addLabels rows => exact (addLabels_intact rows 0 intact.count).imp_right counted

end Store

-- Bulk writes in a row, each chosen in view of the results so far. Whether a failure of one of them
-- ends the plan is up to the plan.
inductive Plan (α : Type) where
  | done (result : Except BatchError α)
  | write (b : BulkWrite) (next : Except StoreError Nat → Plan α)

def Plan.run {σ α : Type} : Plan α → Work σ BatchError α
  | .done result => Work.ofExcept result
  | .write b next => fun s =>
    let (result, world) := s.world.write b
    (next result).run { s with world }

-- What may happen to a world: a transaction that follows a plan, or anything that does not concern
-- the store.
inductive Transacted : World → World → Prop where
  | plan {σ α : Type} (plan : Plan α) (subject : σ) (w : World) :
      Transacted w (Work.transaction plan.run ⟨subject, w⟩).2.world
  | outside {w u : World} (same : u.store = w.store) : Transacted w u

section Runs

variable {ids : List ContactId} {w u v : World}

theorem World.write_intact (b : BulkWrite) (intact : w.store.Intact ids) :
    (w.write b).2.store.Intact ids ∧ w.store.statements ≤ (w.write b).2.store.statements := by
  unfold World.write
  split
  · exact ⟨intact, Nat.le_refl _⟩
  · exact Store.write_intact b intact

theorem Plan.run_intact {σ α : Type} (plan : Plan α) {s : Scene σ}
    (intact : s.world.store.Intact ids) :
    (plan.run s).2.world.store.Intact ids ∧
      s.world.store.statements ≤ (plan.run s).2.world.store.statements := by
  induction plan generalizing s with
  | done result => exact ⟨intact, Nat.le_refl _⟩
  | write b next ih =>
    obtain ⟨later, more⟩ := World.write_intact b intact
    obtain ⟨last, most⟩ := ih (s.world.write b).1 (s := { s with world := (s.world.write b).2 }) later
    exact ⟨last, Nat.le_trans more most⟩

theorem Transacted.intact (step : Transacted w u) (intact : w.store.Intact ids) :
    u.store.Intact ids ∧ w.store.statements ≤ u.store.statements := by
  cases step with
  | outside same =>
    rw [same]
    exact ⟨intact, Nat.le_refl _⟩
  | plan plan subject =>
    rcases ran : Work.transaction plan.run ⟨subject, w⟩ with ⟨e | a, t⟩
    · have undone : t.world.store = w.store := (Work.transaction_error ran).1
      rw [undone]
      exact ⟨intact, Nat.le_refl _⟩
    · obtain ⟨inner, inside, _, published, _⟩ := Work.transaction_ok ran
      have kept := plan.run_intact (s := (Scene.met ⟨subject, w⟩).did .begun) intact
      rw [inside] at kept
      rw [published]
      exact kept

theorem Transacted.runs_intact (run : Relation.ReflTransGen Transacted w u)
    (intact : w.store.Intact ids) :
    u.store.Intact ids ∧ w.store.statements ≤ u.store.statements := by
  induction run with
  | refl => exact ⟨intact, Nat.le_refl _⟩
  | tail _ step ih =>
    obtain ⟨later, more⟩ := ih
    obtain ⟨last, most⟩ := step.intact later
    exact ⟨last, Nat.le_trans more most⟩

-- From contacts alone every run of transactions leads to an intact store and never to fewer
-- statements. The same is true at every point inside a transaction, as a plan may end anywhere.
theorem transactions_intact (start : w.store = .withContacts ids)
    (early : Relation.ReflTransGen Transacted w u) (late : Relation.ReflTransGen Transacted u v) :
    v.store.Intact ids ∧ u.store.statements ≤ v.store.statements ∧
      ∀ {σ α : Type} (plan : Plan α) (subject : σ),
        (plan.run ⟨subject, v⟩).2.world.store.Intact ids ∧
          v.store.statements ≤ (plan.run ⟨subject, v⟩).2.world.store.statements := by
  have first : w.store.Intact ids := by
    rw [start]
    exact Store.intact_withContacts ids
  obtain ⟨before, _⟩ := Transacted.runs_intact early first
  obtain ⟨after, more⟩ := Transacted.runs_intact late before
  exact ⟨after, more, fun plan subject => plan.run_intact after⟩

end Runs

namespace Sample

def greeting : Message := ⟨⟨21⟩, ⟨1⟩, ⟨1⟩, none, "hello", moment⟩

def careless : Plan Unit :=
  .write (.insertMessages [greeting, greeting]) fun _ =>
    .write (.addMemberships [⟨⟨1⟩, ⟨5⟩⟩, ⟨⟨2⟩, ⟨5⟩⟩]) fun _ =>
      .write (.addLabels [⟨⟨21⟩, ⟨6⟩⟩, ⟨⟨22⟩, ⟨6⟩⟩]) fun _ => .done (.ok ())

def afterwards : World := (Work.transaction careless.run ⟨(), people⟩).2.world

end Sample

theorem transactions_intact_careless :
    Sample.people.store = .withContacts [⟨1⟩] ∧
      Relation.ReflTransGen Transacted Sample.people Sample.people ∧
      Relation.ReflTransGen Transacted Sample.people Sample.afterwards ∧
      Sample.afterwards.store.messages = [Sample.greeting] ∧
      Sample.afterwards.store.Intact [⟨1⟩] ∧
      Sample.people.store.statements ≤ Sample.afterwards.store.statements ∧
      ∀ {σ α : Type} (plan : Plan α) (subject : σ),
        (plan.run ⟨subject, Sample.afterwards⟩).2.world.store.Intact [⟨1⟩] ∧
          Sample.afterwards.store.statements ≤
            (plan.run ⟨subject, Sample.afterwards⟩).2.world.store.statements := by
  have run : Relation.ReflTransGen Transacted Sample.people Sample.afterwards :=
    .single (.plan Sample.careless () Sample.people)
  exact ⟨rfl, .refl, run, by decide +kernel, transactions_intact rfl .refl run⟩

end SessionBatch

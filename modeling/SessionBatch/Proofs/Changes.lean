import SessionBatch.Proofs.Hooks
import SessionBatch.Proofs.Integrity

namespace SessionBatch

namespace Store

theorem accepts_nil (s : Store) : s.Accepts [] := ⟨by simp, by simp, by simp⟩

-- What writes make of a store: of its contacts, of which none comes or goes, and of the
-- memberships; the messages they add, the contacts they cannot do without and their kinds.
structure Change where
  contacts : Std.ExtTreeMap ContactId Contact → Std.ExtTreeMap ContactId Contact := id
  memberships : Std.ExtTreeSet Membership → Std.ExtTreeSet Membership := id
  messages : List Message := []
  needs : List ContactId := []
  kinds : List WriteKind := []
  lasting : ∀ known id, (contacts known).contains id = known.contains id := by
    intros
    rfl

namespace Change

def apply (c : Change) (s : Store) : Store :=
  { s with
    contacts := c.contacts s.contacts
    memberships := c.memberships s.memberships
    messages := s.messages ++ c.messages
    statements := s.statements + c.kinds.length }

structure Allowed (c : Change) (faults : List (WriteKind × StoreError)) (s : Store) : Prop where
  spared : ∀ kind ∈ c.kinds, faults.lookup kind = none
  known : ∀ id ∈ c.needs, s.hasContact id = true
  accepted : s.Accepts c.messages

def andThen (c d : Change) : Change where
  contacts := d.contacts ∘ c.contacts
  memberships := d.memberships ∘ c.memberships
  messages := c.messages ++ d.messages
  needs := c.needs ++ d.needs
  kinds := c.kinds ++ d.kinds
  lasting known id := (d.lasting _ id).trans (c.lasting known id)

variable {c d : Change} {faults : List (WriteKind × StoreError)} {s : Store}

theorem hasContact_apply (c : Change) (s : Store) (id : ContactId) :
    (c.apply s).hasContact id = s.hasContact id := c.lasting s.contacts id

theorem apply_andThen (c d : Change) (s : Store) :
    (c.andThen d).apply s = d.apply (c.apply s) := by
  simp [apply, andThen, Nat.add_assoc]

theorem allowed_andThen :
    (c.andThen d).Allowed faults s ↔ c.Allowed faults s ∧ d.Allowed faults (c.apply s) := by
  have contacts : ∀ id, (c.apply s).hasContact id = s.hasContact id := c.hasContact_apply s
  have later : Accepts { s with messages := s.messages ++ c.messages } d.messages ↔
      (c.apply s).Accepts d.messages :=
    ⟨.of_same contacts rfl, .of_same (fun id => (contacts id).symm) rfl⟩
  constructor
  · intro ⟨spared, known, accepted⟩
    obtain ⟨first, rest⟩ := accepts_append.1 accepted
    refine ⟨⟨?_, ?_, first⟩, ?_, ?_, later.1 rest⟩
    · exact fun kind member => spared kind (List.mem_append_left _ member)
    · exact fun id member => known id (List.mem_append_left _ member)
    · exact fun kind member => spared kind (List.mem_append_right _ member)
    · exact fun id member => (contacts id).trans (known id (List.mem_append_right _ member))
  · intro ⟨first, rest⟩
    refine ⟨fun kind member => ?_, fun id member => ?_, ?_⟩
    · exact (List.mem_append.1 member).elim (first.spared kind) (rest.spared kind)
    · refine (List.mem_append.1 member).elim (first.known id) fun member => ?_
      exact (contacts id).symm.trans (rest.known id member)
    · exact accepts_append.2 ⟨first.accepted, later.2 rest.accepted⟩

def idle : Change where

def inOrder (changes : List Change) : Change := changes.foldr andThen idle

def kindsOf {β : Type} (kind : WriteKind) (rows : List β) : List WriteKind :=
  if rows.isEmpty then [] else [kind]

theorem length_kindsOf {β : Type} (kind : WriteKind) (rows : List β) :
    (kindsOf kind rows).length = if rows.isEmpty then 0 else 1 := by
  unfold kindsOf
  split <;> rfl

def update {α : Type} (set : α → Contact → Contact) (kind : WriteKind)
    (rows : Std.ExtTreeMap ContactId α) : Change where
  contacts := swept set rows
  kinds := kindsOf kind rows.toList
  lasting := contains_modifies set rows.toList

def join (rows : List Membership) : Change where
  memberships known := rows.foldl (·.insert ·) known
  needs := rows.map Membership.contact
  kinds := kindsOf .addMemberships rows

def part (rows : List Membership) : Change where
  memberships known := rows.foldl (·.erase ·) known
  kinds := kindsOf .removeMemberships rows

def send (rows : List Message) : Change where
  messages := rows
  kinds := kindsOf .insertMessages rows

end Change
end Store

def Work.Makes (change : Store.Change) (work : Work Unit EffectError Unit) : Prop := ∀ s,
  (change.Allowed s.world.faults s.world.store → ∃ t, work s = (.ok (), t) ∧
    t.world.store = change.apply s.world.store ∧ t.world.faults = s.world.faults) ∧
  (¬ change.Allowed s.world.faults s.world.store → ∃ e t, work s = (.error e, t))

namespace Work.Makes

open Store (Change)

variable {c d : Change} {work next : Work Unit EffectError Unit}

theorem pure : Makes .idle (Pure.pure ()) := by
  intro s
  have allowed : Change.idle.Allowed s.world.faults s.world.store :=
    ⟨by simp [Change.idle], by simp [Change.idle], Store.accepts_nil _⟩
  refine ⟨fun _ => ⟨s, rfl, ?_, rfl⟩, fun refused => absurd allowed refused⟩
  simp [Change.apply, Change.idle]

theorem bind (first : Makes c work) (rest : Makes d next) :
    Makes (c.andThen d) (work >>= fun _ => next) := by
  intro s
  rw [Store.Change.allowed_andThen, Store.Change.apply_andThen, bind_run]
  by_cases allowed : c.Allowed s.world.faults s.world.store
  · obtain ⟨t, ran, store, faults⟩ := (first s).1 allowed
    have after := rest t
    rw [store, faults] at after
    rw [ran]
    exact ⟨fun both => after.1 both.2, fun refused => after.2 fun second =>
      refused ⟨allowed, second⟩⟩
  · obtain ⟨e, t, ran⟩ := (first s).2 allowed
    rw [ran]
    exact ⟨fun both => absurd both.1 allowed, fun _ => ⟨e, t, rfl⟩⟩

theorem forM {items : List HookId} {change : HookId → Change}
    {work : HookId → Work Unit EffectError Unit}
    (each : ∀ item ∈ items, Makes (change item) (work item)) :
    Makes (.inOrder (items.map change)) (items.forM work) := by
  induction items with
  | nil => exact pure
  | cons item rest ih =>
    exact bind (each item (by simp)) (ih fun other member => each other (by simp [member]))

-- A fault of its kind is all that can keep a write from doing what it does to the store.
theorem writeRows {β : Type} {rows : List β} {write : List β → BulkWrite}
    (line : Nat → Nat → String) (kinds : c.kinds = Change.kindsOf (write rows).kind rows)
    (taken : ∀ s : Store, (∀ id ∈ c.needs, s.hasContact id = true) → s.Accepts c.messages →
      s.bulk rows write = .ok (c.apply s))
    (refused : ∀ s : Store, ¬ ((∀ id ∈ c.needs, s.hasContact id = true) ∧ s.Accepts c.messages) →
      ∃ e, s.bulk rows write = .error e) :
    Makes c (Effect.writeRows rows write line) := by
  intro s
  have good : c.Allowed s.world.faults s.world.store →
      s.world.store.bulk rows write = .ok (c.apply s.world.store) :=
    fun allowed => taken _ allowed.known allowed.accepted
  have bad : (∀ kind ∈ c.kinds, s.world.faults.lookup kind = none) →
      ¬ c.Allowed s.world.faults s.world.store → ∃ e, s.world.store.bulk rows write = .error e :=
    fun spared refusal => refused _ fun both => refusal ⟨spared, both.1, both.2⟩
  unfold Effect.writeRows
  unfold Store.bulk at good bad
  unfold Change.kindsOf at kinds
  by_cases empty : rows.isEmpty
  -- Without rows there is no write for a fault to meet.
  · simp only [empty, if_true] at good bad kinds ⊢
    refine ⟨fun allowed => ⟨s, rfl, Except.ok.inj (good allowed), rfl⟩, fun refusal => ?_⟩
    obtain ⟨e, failed⟩ := bad (by simp [kinds]) refusal
    cases failed
  · simp only [empty, Bool.false_eq_true, if_false] at good bad kinds ⊢
    rw [bind_run]
    unfold Work.write World.write
    cases planned : s.world.faults.lookup (write rows).kind with
    | some e =>
      refine ⟨fun allowed => ?_, fun _ => ⟨_, _, rfl⟩⟩
      rw [allowed.spared _ (by simp [kinds])] at planned
      cases planned
    | none =>
      have spared : ∀ kind ∈ c.kinds, s.world.faults.lookup kind = none := by
        intro kind member
        rw [kinds, List.mem_singleton] at member
        rw [member, planned]
      rcases wrote : s.world.store.write (write rows) with ⟨e | n, store⟩ <;>
        simp only [wrote] at good bad ⊢
      · exact ⟨fun allowed => (nomatch good allowed), fun _ => ⟨_, _, rfl⟩⟩
      · refine ⟨fun allowed => ⟨_, rfl, Except.ok.inj (good allowed), rfl⟩, fun refusal => ?_⟩
        obtain ⟨e, failed⟩ := bad spared refusal
        cases failed

end Work.Makes
end SessionBatch

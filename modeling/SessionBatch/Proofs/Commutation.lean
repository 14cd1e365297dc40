import SessionBatch.Proofs.Changes
import SessionBatch.Proofs.Sequence

namespace SessionBatch

instance (id : HookId) (entries : List SessionEvents) : Decidable (id.Fits entries) :=
  inferInstanceAs (Decidable (∀ entry ∈ entries, ∀ event ∈ entry.events, event.type = id.eventType))

def HookId.beforeCommit : List HookId :=
  [commitNameChanges, commitLanguageChanges, commitFieldChanges, commitGroupChanges,
    commitMessages]

namespace Contact

theorem setLanguage_setName (language : Option String) (name : String) (c : Contact) :
    (c.setName name).setLanguage language = (c.setLanguage language).setName name := rfl

theorem setFields_setName (changes : FieldChanges) (name : String) (c : Contact) :
    (c.setName name).setFields changes = (c.setFields changes).setName name := by
  rw [setFields_onto, setFields_onto]
  rfl

theorem setFields_setLanguage (changes : FieldChanges) (language : Option String) (c : Contact) :
    (c.setLanguage language).setFields changes = (c.setFields changes).setLanguage language := by
  rw [setFields_onto, setFields_onto]
  rfl

end Contact

namespace Store

theorem swept_comm {α β : Type} {set : α → Contact → Contact} {set' : β → Contact → Contact}
    (comm : ∀ a b c, set a (set' b c) = set' b (set a c)) (rows : Std.ExtTreeMap ContactId α)
    (rows' : Std.ExtTreeMap ContactId β) (contacts : Std.ExtTreeMap ContactId Contact) :
    swept set rows (swept set' rows' contacts) = swept set' rows' (swept set rows contacts) := by
  refine Std.ExtTreeMap.ext_getElem? fun id => ?_
  rw [getElem?_swept, getElem?_swept, getElem?_swept, getElem?_swept]
  cases rows[id]? <;> cases rows'[id]? <;> cases contacts[id]? <;> simp [comm]

namespace Change

structure Apart (c d : Change) : Prop where
  contacts : ∀ known, d.contacts (c.contacts known) = c.contacts (d.contacts known)
  memberships : ∀ known, d.memberships (c.memberships known) = c.memberships (d.memberships known)
  messages : c.messages = [] ∨ d.messages = []

def Agree (c d : Change) : Prop :=
  ∀ faults s, (c.Allowed faults s ↔ d.Allowed faults s) ∧ c.apply s = d.apply s

variable {c d e : Change}

theorem Apart.symm (apart : c.Apart d) : d.Apart c :=
  ⟨fun known => (apart.contacts known).symm, fun known => (apart.memberships known).symm,
    apart.messages.symm⟩

theorem Apart.allowed {faults : List (WriteKind × StoreError)} {s : Store} (apart : c.Apart d)
    (allowed : (c.andThen d).Allowed faults s) : (d.andThen c).Allowed faults s := by
  obtain ⟨spared, known, accepted⟩ := allowed
  refine ⟨fun kind member => spared kind ?_, fun id member => known id ?_, ?_⟩
  · exact List.mem_append.2 (List.mem_append.1 member).symm
  · exact List.mem_append.2 (List.mem_append.1 member).symm
  · unfold andThen at accepted ⊢
    rcases apart.messages with none | none <;> simpa [none] using accepted

theorem Apart.agree (apart : c.Apart d) : (c.andThen d).Agree (d.andThen c) := by
  refine fun faults s => ⟨⟨apart.allowed, apart.symm.allowed⟩, ?_⟩
  rw [apply_andThen, apply_andThen]
  unfold apply
  have messages : (s.messages ++ c.messages) ++ d.messages =
      (s.messages ++ d.messages) ++ c.messages := by
    rcases apart.messages with none | none <;> simp [none]
  rw [apart.contacts, apart.memberships, messages, Nat.add_right_comm]

theorem Agree.refl (c : Change) : c.Agree c := fun _ _ => ⟨Iff.rfl, rfl⟩

theorem Agree.andThen (agree : c.Agree d) : (e.andThen c).Agree (e.andThen d) := by
  intro faults s
  rw [allowed_andThen, allowed_andThen, apply_andThen, apply_andThen]
  exact ⟨and_congr_right fun _ => (agree faults _).1, (agree faults _).2⟩

theorem Agree.ahead (agree : (c.andThen d).Agree (d.andThen c)) :
    (c.andThen (d.andThen e)).Agree (d.andThen (c.andThen e)) := by
  intro faults s
  obtain ⟨allowed, same⟩ := agree faults s
  rw [allowed_andThen, allowed_andThen] at allowed
  rw [apply_andThen, apply_andThen] at same
  simp only [allowed_andThen, apply_andThen, ← and_assoc, allowed, same, and_self]

theorem Agree.trans (first : c.Agree d) (rest : d.Agree e) : c.Agree e := fun faults s =>
  ⟨(first faults s).1.trans (rest faults s).1, (first faults s).2.trans (rest faults s).2⟩

-- Of changes that do not see each other the order does not matter.
theorem inOrder_perm {change : HookId → Change}
    (apart : ∀ id other, id ≠ other → (change id).Apart (change other)) {order other : List HookId}
    (perm : order.Perm other) :
    (inOrder (order.map change)).Agree (inOrder (other.map change)) := by
  induction perm with
  | nil => exact .refl _
  | cons id _ ih => exact ih.andThen
  | swap id other rest =>
    by_cases same : other = id
    · cases same
      exact .refl _
    · exact (apart other id same).agree.ahead
  | trans _ _ first rest => exact first.trans rest

end Change
end Store

namespace Effect

open Store (Change)

def change (assets : Assets) (entries : List SessionEvents) : HookId → Change
  | .commitNameChanges => .update Contact.setName .updateNames (latest (taken Names.name? entries))
  | .commitLanguageChanges =>
    .update Contact.setLanguage .updateLanguages
      ((latest (taken Languages.language? entries)).map fun _ => Languages.stored)
  | .commitFieldChanges =>
    .update Contact.setFields .updateFields (Fields.merged (taken Fields.change? entries))
  | .commitGroupChanges =>
    (Change.join (Groups.rows assets true (taken Groups.change? entries))).andThen
      (.part (Groups.rows assets false (taken Groups.change? entries)))
  | .commitMessages => .send (Messages.rows assets.orgId entries)
  | .queueMessages => .idle

section Apart

variable (assets : Assets) (given : HookId → List SessionEvents) {id other : HookId}

-- Three hooks update contacts, but no two of them the same part of a contact.
theorem contacts_apart (apart : id ≠ other) (known : Std.ExtTreeMap ContactId Contact) :
    (change assets (given other) other).contacts ((change assets (given id) id).contacts known) =
      (change assets (given id) id).contacts
        ((change assets (given other) other).contacts known) := by
  cases id with
  | commitNameChanges =>
    cases other with
    | commitNameChanges => exact absurd rfl apart
    | commitLanguageChanges => exact Store.swept_comm Contact.setLanguage_setName _ _ known
    | commitFieldChanges => exact Store.swept_comm Contact.setFields_setName _ _ known
    | commitGroupChanges | commitMessages | queueMessages => rfl
  | commitLanguageChanges =>
    cases other with
    | commitNameChanges => exact (Store.swept_comm Contact.setLanguage_setName _ _ known).symm
    | commitLanguageChanges => exact absurd rfl apart
    | commitFieldChanges => exact Store.swept_comm Contact.setFields_setLanguage _ _ known
    | commitGroupChanges | commitMessages | queueMessages => rfl
  | commitFieldChanges =>
    cases other with
    | commitNameChanges => exact (Store.swept_comm Contact.setFields_setName _ _ known).symm
    | commitLanguageChanges =>
      exact (Store.swept_comm Contact.setFields_setLanguage _ _ known).symm
    | commitFieldChanges => exact absurd rfl apart
    | commitGroupChanges | commitMessages | queueMessages => rfl
  | commitGroupChanges | commitMessages | queueMessages => rfl

theorem change_memberships (entries : List SessionEvents) (stays : id ≠ .commitGroupChanges)
    (known : Std.ExtTreeSet Membership) :
    (change assets entries id).memberships known = known := by
  cases id with
  | commitGroupChanges => exact absurd rfl stays
  | _ => rfl

theorem change_messages (entries : List SessionEvents) (stays : id ≠ .commitMessages) :
    (change assets entries id).messages = [] := by
  cases id with
  | commitMessages => exact absurd rfl stays
  | _ => rfl

theorem change_apart (apart : id ≠ other) :
    (change assets (given id) id).Apart (change assets (given other) other) := by
  refine ⟨contacts_apart assets given apart, fun known => ?_, ?_⟩
  · by_cases stays : id = .commitGroupChanges
    · have still := change_memberships assets (given other) (stays ▸ apart.symm)
      rw [still, still]
    · have still := change_memberships assets (given id) stays
      rw [still, still]
  · by_cases stays : id = .commitMessages
    · exact .inr (change_messages assets _ (stays ▸ apart.symm))
    · exact .inl (change_messages assets _ stays)

end Apart

end Effect

namespace Work.Makes

open Effect
open Store (Change)

variable {assets : Assets} {entries : List SessionEvents}

theorem update {α : Type} (set : α → Contact → Contact)
    (write : List (ContactId × α) → BulkWrite) {kind : WriteKind}
    (writes : ∀ rows (s : Store), s.write (write rows) = Store.updateContacts set rows s)
    (kinds : ∀ rows, (write rows).kind = kind) (rows : Std.ExtTreeMap ContactId α)
    (line : Nat → Nat → String) :
    Makes (.update set kind rows) (Effect.writeRows rows.toList write line) := by
  refine writeRows line ?_ (fun s _ _ => ?_) fun s refused => ?_
  · rw [kinds]
    rfl
  · rw [Store.bulk_table writes, Store.updated, ← Std.ExtTreeMap.isEmpty_toList]
    simp [Change.apply, Change.update, Change.length_kindsOf]
  · exact absurd ⟨fun _ => by simp [Change.update], s.accepts_nil⟩ refused

theorem join (rows : List Membership) (line : Nat → Nat → String) :
    Makes (.join rows) (Effect.writeRows rows .addMemberships line) := by
  refine writeRows line rfl (fun s known _ => ?_) fun s refused => ?_
  · rw [Store.bulk_addMemberships fun row member => known _ (List.mem_map_of_mem member)]
    simp [Change.apply, Change.join, Store.joined, Change.length_kindsOf]
  · have unknown : ¬ ∀ row ∈ rows, s.hasContact row.contact = true := by
      refine fun known => refused ⟨fun id member => ?_, s.accepts_nil⟩
      obtain ⟨row, listed, rfl⟩ := List.mem_map.1 member
      exact known row listed
    obtain ⟨_, failed⟩ := Store.bulk_addMemberships_error unknown
    exact ⟨_, failed⟩

theorem part (rows : List Membership) (line : Nat → Nat → String) :
    Makes (.part rows) (Effect.writeRows rows .removeMemberships line) := by
  refine writeRows line rfl (fun s _ _ => ?_) fun s refused => ?_
  · rw [Store.bulk_removeMemberships]
    simp [Change.apply, Change.part, Store.parted, Change.length_kindsOf]
  · exact absurd ⟨fun _ => by simp [Change.part], s.accepts_nil⟩ refused

theorem send (rows : List Message) (line : Nat → Nat → String) :
    Makes (.send rows) (Effect.writeRows rows .insertMessages line) := by
  refine writeRows line rfl (fun s _ accepted => ?_) fun s refused => ?_
  · have all : s.Accepts rows := accepted
    rw [Store.bulk_insertMessages all]
    simp [Change.apply, Change.send, Store.extended, Change.length_kindsOf]
  · have rejected : ¬ s.Accepts rows :=
      fun accepted => refused ⟨by simp [Change.send], accepted⟩
    obtain ⟨_, failed | failed⟩ := Store.bulk_insertMessages_error rejected
    · exact ⟨_, failed⟩
    · exact ⟨_, failed⟩

theorem taking {α : Type} {expected : EventType} {pick : Payload → Option α} {c : Change}
    {next : List (Session × List α) → Work Unit EffectError Unit}
    (typed : ∀ entry ∈ entries, ∀ event ∈ entry.events, (pick event.payload).isSome = true)
    (makes : Makes c (next (taken pick entries))) :
    Makes c (Work.ofExcept (pickedOf expected pick entries) >>= next) := by
  rw [pickedOf_ok typed]
  exact makes

theorem standardHook {id : HookId} (before : id ≠ .queueMessages) (fits : id.Fits entries) :
    Makes (change assets entries id) (Registry.standardHook id assets entries) := by
  cases id with
  | commitNameChanges =>
    refine taking (fits.picks Names.picks) ?_
    exact update Contact.setName .updateNames (fun _ _ => rfl) (fun _ => rfl) _ _
  | commitLanguageChanges =>
    refine taking (fits.picks Languages.picks) ?_
    rw [← Std.ExtTreeMap.toList_map (f := fun _ => Languages.stored)]
    exact update Contact.setLanguage .updateLanguages (fun _ _ => rfl) (fun _ => rfl) _ _
  | commitFieldChanges =>
    refine taking (fits.picks Fields.picks) ?_
    exact update Contact.setFields .updateFields (fun _ _ => rfl) (fun _ => rfl) _ _
  | commitGroupChanges =>
    refine taking (fits.picks Groups.picks) ?_
    exact bind (join _ _) (part _ _)
  | commitMessages =>
    have typed := fits.picks Messages.picks
    refine taking typed ?_
    rw [Messages.rows_eq assets.orgId entries typed]
    exact send _ _
  | queueMessages => exact absurd rfl before

end Work.Makes

namespace Batch

variable {assets : Assets} {grouping : Grouping}

def inTurn (assets : Assets) (grouping : Grouping) (order : List HookId) :
    Work Unit EffectError Unit :=
  order.forM fun id => Registry.standardHook id assets (grouping.getD id [])

-- In which order the hooks before the commit run makes no difference: not to whether all of them
-- succeed, and not to the store.
theorem hooks_commute
    (typed : ∀ id ∈ HookId.beforeCommit, id.Fits (grouping.getD id [])) {order other : List HookId}
    (first : order.Perm HookId.beforeCommit) (second : other.Perm HookId.beforeCommit)
    (world : World) :
    (∃ t u, inTurn assets grouping order ⟨(), world⟩ = (.ok (), t) ∧
        inTurn assets grouping other ⟨(), world⟩ = (.ok (), u) ∧
        t.world.store = u.world.store) ∨
      ∃ e e' t u, inTurn assets grouping order ⟨(), world⟩ = (.error e, t) ∧
        inTurn assets grouping other ⟨(), world⟩ = (.error e', u) := by
  have makes : ∀ {order : List HookId}, order.Perm HookId.beforeCommit →
      Work.Makes (.inOrder (order.map fun id => Effect.change assets (grouping.getD id []) id))
        (inTurn assets grouping order) := by
    intro order perm
    refine .forM fun id member => .standardHook (fun last => ?_) (typed id (perm.mem_iff.1 member))
    cases last
    exact absurd (perm.mem_iff.1 member) (by decide)
  obtain ⟨allowed, same⟩ := Store.Change.inOrder_perm
    (fun id other apart => Effect.change_apart assets (grouping.getD · []) apart)
    (first.trans second.symm) world.faults world.store
  obtain ⟨succeeds, fails⟩ := makes first ⟨(), world⟩
  obtain ⟨succeeds', fails'⟩ := makes second ⟨(), world⟩
  by_cases admitted : (Store.Change.inOrder (order.map fun id =>
      Effect.change assets (grouping.getD id []) id)).Allowed world.faults world.store
  · obtain ⟨t, ran, store, _⟩ := succeeds admitted
    obtain ⟨u, ran', store', _⟩ := succeeds' (allowed.1 admitted)
    exact .inl ⟨t, u, ran, ran', store.trans (same.trans store'.symm)⟩
  · obtain ⟨e, t, ran⟩ := fails admitted
    obtain ⟨e', u, ran'⟩ := fails' (mt allowed.2 admitted)
    exact .inr ⟨e, e', t, u, ran, ran'⟩

end Batch

namespace Sample

def crowded : List Session :=
  [turn ⟨1⟩ [.contactNameChanged "Ann", .contactGroupsChanged [⟨⟨7⟩, "guests"⟩] [],
      .msgCreated ⟨⟨21⟩, none, "first"⟩],
    turn ⟨1⟩ [.contactFieldChanged ⟨"age", "Age"⟩ (some "7"), .contactNameChanged "Bea",
      .contactLanguageChanged "fra", .contactGroupsChanged [] [⟨⟨7⟩, "guests"⟩]]]

def crowd : Grouping :=
  Grouping.ofQueues crowded (crowded.map fun session => (session.placed assets).preCommit)

end Sample

theorem hooks_commute_crowd :
    (∀ id ∈ HookId.beforeCommit, id.Fits (Sample.crowd.getD id [])) ∧
      HookId.beforeCommit.reverse.Perm HookId.beforeCommit ∧
      ∃ t u, Batch.inTurn Sample.assets Sample.crowd HookId.beforeCommit
          ⟨(), { store := Sample.store }⟩ = (.ok (), t) ∧
        Batch.inTurn Sample.assets Sample.crowd HookId.beforeCommit.reverse
          ⟨(), { store := Sample.store }⟩ = (.ok (), u) ∧
        t.world.store = u.world.store := by
  have typed : ∀ id ∈ HookId.beforeCommit, id.Fits (Sample.crowd.getD id []) := by
    decide +kernel
  have reversed : HookId.beforeCommit.reverse.Perm HookId.beforeCommit := by decide
  obtain ⟨⟨⟩, t, done⟩ := Sample.run_ok
    (r := Batch.inTurn Sample.assets Sample.crowd HookId.beforeCommit
      ⟨(), { store := Sample.store }⟩) (by decide +kernel)
  rcases Batch.hooks_commute typed (.refl _) reversed { store := Sample.store } with
    both | ⟨e, _, t, _, failed, _⟩
  · exact ⟨typed, reversed, both⟩
  · cases done.symm.trans failed

end SessionBatch

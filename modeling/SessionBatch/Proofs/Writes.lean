import SessionBatch.Proofs.Table
import SessionBatch.Store.Write

namespace SessionBatch.Store

variable {α : Type}

theorem firstRepeated_eq_none_iff {ids seen : List ContactId} :
    firstRepeated seen ids = none ↔ ids.Nodup ∧ ∀ id ∈ ids, id ∉ seen := by
  induction ids generalizing seen with
  | nil => simp [firstRepeated]
  | cons id rest ih =>
    rw [firstRepeated]
    split
    · rename_i again
      simp [again]
    · rename_i fresh
      rw [ih, List.nodup_cons]
      constructor
      · intro ⟨distinct, apart⟩
        refine ⟨⟨fun listed => apart id listed (by simp), distinct⟩, fun other listed => ?_⟩
        rcases List.mem_cons.1 listed with rfl | listed
        · exact fresh
        · exact fun known => apart other listed (by simp [known])
      · intro ⟨⟨unlisted, distinct⟩, apart⟩
        refine ⟨distinct, fun other listed known => ?_⟩
        rcases List.mem_cons.1 known with rfl | known
        · exact unlisted listed
        · exact apart other (by simp [listed]) known

def swept (set : α → Contact → Contact) (rows : Std.ExtTreeMap ContactId α)
    (contacts : Std.ExtTreeMap ContactId Contact) : Std.ExtTreeMap ContactId Contact :=
  rows.toList.foldl (fun cs (id, value) => cs.modify id (set value)) contacts

theorem getElem?_swept (set : α → Contact → Contact) (rows : Std.ExtTreeMap ContactId α)
    (contacts : Std.ExtTreeMap ContactId Contact) (id : ContactId) :
    (swept set rows contacts)[id]? =
      rows[id]?.elim contacts[id]? fun value => contacts[id]?.map (set value) := by
  refine foldl_toList_view (·[id]?) (fun held value => held.map (set value)) ?_ rows contacts
  intro cs row
  by_cases same : row.1 = id <;> simp [Std.ExtTreeMap.getElem?_modify, same]

@[simp] theorem swept_empty (set : α → Contact → Contact)
    (contacts : Std.ExtTreeMap ContactId Contact) : swept set {} contacts = contacts := rfl

theorem swept_alter {set : α → Contact → Contact} (merge : Option α → α)
    {change : Contact → Contact} (fresh : ∀ c, set (merge none) c = change c)
    (onto : ∀ value c, set (merge (some value)) c = change (set value c))
    (rows : Std.ExtTreeMap ContactId α) (contacts : Std.ExtTreeMap ContactId Contact)
    (id : ContactId) :
    swept set (rows.alter id fun known => some (merge known)) contacts =
      (swept set rows contacts).modify id change := by
  refine Std.ExtTreeMap.ext_getElem? fun other => ?_
  rw [Std.ExtTreeMap.getElem?_modify, getElem?_swept, getElem?_swept,
    Std.ExtTreeMap.getElem?_alter]
  by_cases same : id = other
  · cases same
    cases rows[id]? <;> cases contacts[id]? <;> simp [fresh, onto]
  · simp [same, getElem?_swept]

theorem swept_insert {set : α → Contact → Contact}
    (overwrites : ∀ value value' c, set value (set value' c) = set value c)
    (rows : Std.ExtTreeMap ContactId α) (contacts : Std.ExtTreeMap ContactId Contact)
    (id : ContactId) (value : α) :
    swept set (rows.insert id value) contacts =
      (swept set rows contacts).modify id (set value) := by
  have last : rows.insert id value = rows.alter id fun _ => some value := by
    refine Std.ExtTreeMap.ext_getElem? fun other => ?_
    rw [Std.ExtTreeMap.getElem?_insert, Std.ExtTreeMap.getElem?_alter]
  rw [last]
  have onto : ∀ known c, set value c = set value (set known c) :=
    fun known c => (overwrites value known c).symm
  exact swept_alter (fun _ => value) (fun _ => rfl) onto rows contacts id

-- The store after each kind of write that succeeds. A write of no rows is left out and does not
-- count as a statement.
def updated (set : α → Contact → Contact) (rows : Std.ExtTreeMap ContactId α) (s : Store) : Store :=
  { s with
    contacts := swept set rows s.contacts
    statements := s.statements + if rows.isEmpty then 0 else 1 }

def joined (rows : List Membership) (s : Store) : Store :=
  { s with
    memberships := rows.foldl (·.insert ·) s.memberships
    statements := s.statements + if rows.isEmpty then 0 else 1 }

def parted (rows : List Membership) (s : Store) : Store :=
  { s with
    memberships := rows.foldl (·.erase ·) s.memberships
    statements := s.statements + if rows.isEmpty then 0 else 1 }

def extended (rows : List Message) (s : Store) : Store :=
  { s with
    messages := s.messages ++ rows
    statements := s.statements + if rows.isEmpty then 0 else 1 }

def labelled (rows : List MessageLabel) (s : Store) : Store :=
  { s with
    labels := (rows.filter (s.hasMessage ·.message)).foldl (·.insert ·) s.labels
    statements := s.statements + if rows.isEmpty then 0 else 1 }

theorem updateContacts_table (set : α → Contact → Contact) (rows : Std.ExtTreeMap ContactId α)
    (s : Store) :
    ∃ n, updateContacts set rows.toList s =
      (.ok n, { s.count with contacts := swept set rows s.contacts }) := by
  have distinct : (rows.toList.map Prod.fst).Nodup := by
    rw [Std.ExtTreeMap.map_fst_toList_eq_keys]
    exact Std.ExtTreeMap.nodup_keys
  unfold updateContacts
  rw [firstRepeated_eq_none_iff.2 ⟨distinct, by simp⟩]
  exact ⟨_, rfl⟩

theorem addMemberships_ok {rows : List Membership} {s : Store}
    (known : ∀ row ∈ rows, s.hasContact row.contact = true) (n : Nat) :
    ∃ m, addMemberships n rows s =
      (.ok m, { s with memberships := rows.foldl (·.insert ·) s.memberships }) := by
  induction rows generalizing n s with
  | nil => exact ⟨n, rfl⟩
  | cons row rest ih =>
    rw [addMemberships, if_pos (known row (by simp))]
    exact ih (s := { s with memberships := s.memberships.insert row })
      (fun other member => known other (by simp [member])) _

theorem addMemberships_error {rows : List Membership} {s : Store}
    (unknown : ¬ ∀ row ∈ rows, s.hasContact row.contact = true) (n : Nat) :
    ∃ contact, (addMemberships n rows s).1 = .error (noContact contact) := by
  induction rows generalizing n s with
  | nil => exact absurd (by simp) unknown
  | cons row rest ih =>
    rw [addMemberships]
    by_cases known : s.hasContact row.contact = true
    · rw [if_pos known]
      refine ih (s := { s with memberships := s.memberships.insert row }) (fun all => unknown ?_) _
      intro other member
      cases member with
      | head => exact known
      | tail _ member => exact all other member
    · rw [if_neg known]
      exact ⟨_, rfl⟩

theorem removeMemberships_ok (rows : List Membership) (s : Store) (n : Nat) :
    ∃ m, removeMemberships n rows s =
      (.ok m, { s with memberships := rows.foldl (·.erase ·) s.memberships }) := by
  induction rows generalizing n s with
  | nil => exact ⟨n, rfl⟩
  | cons row rest ih => exact ih _ _

theorem addLabels_ok (rows : List MessageLabel) (s : Store) (n : Nat) :
    ∃ m, addLabels n rows s =
      (.ok m, { s with
        labels := (rows.filter (s.hasMessage ·.message)).foldl (·.insert ·) s.labels }) := by
  induction rows generalizing n s with
  | nil => exact ⟨n, rfl⟩
  | cons row rest ih =>
    rw [addLabels]
    cases known : s.hasMessage row.message with
    | false => simpa [known] using ih s n
    | true =>
      have kept : (row :: rest).filter (s.hasMessage ·.message) =
          row :: rest.filter (s.hasMessage ·.message) := List.filter_cons_of_pos known
      rw [if_pos rfl, kept, List.foldl_cons]
      exact ih { s with labels := s.labels.insert row } _

structure Accepts (s : Store) (rows : List Message) : Prop where
  known : ∀ row ∈ rows, s.hasContact row.contactId = true
  distinct : (rows.map Message.uuid).Nodup
  fresh : ∀ row ∈ rows, s.hasMessage row.uuid = false

theorem Accepts.of_same {s t : Store} {rows : List Message}
    (contacts : ∀ id, t.hasContact id = s.hasContact id) (messages : t.messages = s.messages)
    (accepts : s.Accepts rows) : t.Accepts rows := by
  have held : ∀ uuid, t.hasMessage uuid = s.hasMessage uuid := by
    intro uuid
    unfold hasMessage
    rw [messages]
  exact ⟨fun row member => (contacts _).trans (accepts.known row member), accepts.distinct,
    fun row member => (held _).trans (accepts.fresh row member)⟩

theorem Accepts.apart {s : Store} {rows : List Message} (accepts : s.Accepts rows)
    {message row : Message} (stored : message ∈ s.messages) (listed : row ∈ rows) :
    message.uuid ≠ row.uuid := by
  intro same
  have known : s.hasMessage row.uuid = true :=
    List.any_eq_true.2 ⟨message, stored, decide_eq_true same⟩
  rw [accepts.fresh row listed] at known
  cases known

theorem Accepts.nodup_append {s : Store} {rows : List Message} (accepts : s.Accepts rows)
    (distinct : (s.messages.map Message.uuid).Nodup) :
    ((s.messages ++ rows).map Message.uuid).Nodup := by
  rw [List.map_append, List.nodup_append]
  refine ⟨distinct, accepts.distinct, ?_⟩
  intro uuid old other new same
  obtain ⟨message, stored, rfl⟩ := List.mem_map.1 old
  obtain ⟨row, listed, rfl⟩ := List.mem_map.1 new
  exact accepts.apart stored listed same

theorem accepts_count {s : Store} {rows : List Message} : s.count.Accepts rows ↔ s.Accepts rows :=
  ⟨.of_same (fun _ => rfl) rfl, .of_same (fun _ => rfl) rfl⟩

theorem hasMessage_append (s : Store) (row : Message) (uuid : Uuid) :
    hasMessage { s with messages := s.messages ++ [row] } uuid =
      (s.hasMessage uuid || row.uuid = uuid) := by
  simp [hasMessage, List.any_append]

-- Row by row: what comes later meets the rows before it as part of the store.
theorem accepts_cons {s : Store} {row : Message} {rest : List Message} :
    s.Accepts (row :: rest) ↔
      s.hasContact row.contactId = true ∧ s.hasMessage row.uuid = false ∧
        Accepts { s with messages := s.messages ++ [row] } rest := by
  constructor
  · intro ⟨known, distinct, fresh⟩
    obtain ⟨apart, distinct⟩ := List.nodup_cons.1 distinct
    refine ⟨known row (by simp), fresh row (by simp),
      fun other member => known other (by simp [member]), distinct, fun other member => ?_⟩
    have differs : row.uuid ≠ other.uuid := fun same =>
      apart (same ▸ List.mem_map_of_mem member)
    simp [hasMessage_append, fresh other (by simp [member]), differs]
  · intro ⟨contact, unused, known, distinct, fresh⟩
    have apart : ∀ other ∈ rest, s.hasMessage other.uuid = false ∧ row.uuid ≠ other.uuid := by
      intro other member
      have new := fresh other member
      rw [hasMessage_append] at new
      simpa using new
    refine ⟨?_, List.nodup_cons.2 ⟨fun listed => ?_, distinct⟩, ?_⟩
    · intro other member
      cases member with
      | head => exact contact
      | tail _ member => exact known other member
    · obtain ⟨other, member, same⟩ := List.mem_map.1 listed
      exact (apart other member).2 same.symm
    · intro other member
      cases member with
      | head => exact unused
      | tail _ member => exact (apart other member).1

theorem accepts_append {s : Store} {first rest : List Message} :
    s.Accepts (first ++ rest) ↔
      s.Accepts first ∧ Accepts { s with messages := s.messages ++ first } rest := by
  induction first generalizing s with
  | nil =>
    have all : s.Accepts [] := ⟨by simp, by simp, by simp⟩
    have same : { s with messages := s.messages ++ [] } = s := by rw [List.append_nil]
    rw [List.nil_append, same]
    exact (and_iff_right all).symm
  | cons row others ih =>
    rw [List.cons_append, accepts_cons, accepts_cons, ih, and_assoc, and_assoc]
    simp only [List.append_assoc, List.singleton_append]

theorem insertMessages_ok {rows : List Message} {s : Store} (accepted : s.Accepts rows) (n : Nat) :
    ∃ m, insertMessages n rows s = (.ok m, { s with messages := s.messages ++ rows }) := by
  induction rows generalizing n s with
  | nil => exact ⟨n, by simp [insertMessages]⟩
  | cons row rest ih =>
    obtain ⟨known, fresh, later⟩ := accepts_cons.1 accepted
    obtain ⟨m, done⟩ := ih later (n + 1)
    refine ⟨m, ?_⟩
    rw [insertMessages, if_pos known, fresh, if_neg Bool.false_ne_true, done]
    simp

theorem insertMessages_error {rows : List Message} {s : Store} (refused : ¬ s.Accepts rows)
    (n : Nat) :
    ∃ text, (insertMessages n rows s).1 = .error (.foreignKeyViolation text) ∨
      (insertMessages n rows s).1 = .error (.uniqueViolation text) := by
  -- On the rows, with the store that the rows before have made.
  induction rows generalizing n s with
  | nil => exact absurd ⟨by simp, by simp, by simp⟩ refused
  | cons row rest ih =>
    rw [insertMessages]
    by_cases known : s.hasContact row.contactId = true
    · rw [if_pos known]
      by_cases fresh : s.hasMessage row.uuid = false
      · rw [fresh, if_neg Bool.false_ne_true]
        exact ih (fun later => refused (accepts_cons.2 ⟨known, fresh, later⟩)) (n + 1)
      · rw [if_pos (by simpa using fresh)]
        exact ⟨_, .inr rfl⟩
    · rw [if_neg known]
      exact ⟨_, .inl rfl⟩

def bulk {β : Type} (rows : List β) (write : List β → BulkWrite) (s : Store) :
    Except StoreError Store :=
  if rows.isEmpty then .ok s
  else
    match s.write (write rows) with
    | (.ok _, t) => .ok t
    | (.error e, _) => .error e

section Bulk

variable {β : Type} {rows : List β} {write : List β → BulkWrite} {s t : Store}

theorem bulk_ok (quiet : rows = [] → t = s)
    (done : rows ≠ [] → ∃ n, s.write (write rows) = (.ok n, t)) : s.bulk rows write = .ok t := by
  unfold bulk
  by_cases empty : rows = []
  · simp [empty, quiet empty]
  · obtain ⟨n, done⟩ := done empty
    simp [empty, done]

theorem bulk_error {e : StoreError} (filled : rows ≠ [])
    (failed : (s.write (write rows)).1 = .error e) : s.bulk rows write = .error e := by
  unfold bulk
  rcases ran : s.write (write rows) with ⟨_ | _, u⟩ <;> rw [ran] at failed <;> cases failed
  simp [filled]

end Bulk

-- An update of contacts cannot fail: a table has one row for each contact.
theorem bulk_table {set : α → Contact → Contact} {write : List (ContactId × α) → BulkWrite}
    (writes : ∀ rows (s : Store), s.write (write rows) = updateContacts set rows s)
    (rows : Std.ExtTreeMap ContactId α) (s : Store) :
    s.bulk rows.toList write = .ok (s.updated set rows) := by
  refine bulk_ok (fun empty => ?_) fun filled => ?_
  · rw [Std.ExtTreeMap.toList_eq_nil_iff.1 empty]
    rfl
  · obtain ⟨n, done⟩ := updateContacts_table set rows s
    have some : rows.isEmpty = false := by
      simpa [← Std.ExtTreeMap.isEmpty_toList] using filled
    refine ⟨n, ?_⟩
    rw [writes, done]
    simp [updated, count, some]

theorem bulk_updateNames (rows : Std.ExtTreeMap ContactId String) (s : Store) :
    s.bulk rows.toList .updateNames = .ok (s.updated Contact.setName rows) :=
  bulk_table (fun _ _ => rfl) rows s

theorem bulk_updateLanguages (rows : Std.ExtTreeMap ContactId (Option String)) (s : Store) :
    s.bulk rows.toList .updateLanguages = .ok (s.updated Contact.setLanguage rows) :=
  bulk_table (fun _ _ => rfl) rows s

theorem bulk_updateFields (rows : Std.ExtTreeMap ContactId FieldChanges) (s : Store) :
    s.bulk rows.toList .updateFields = .ok (s.updated Contact.setFields rows) :=
  bulk_table (fun _ _ => rfl) rows s

theorem bulk_addMemberships {rows : List Membership} {s : Store}
    (known : ∀ row ∈ rows, s.hasContact row.contact = true) :
    s.bulk rows .addMemberships = .ok (s.joined rows) := by
  refine bulk_ok (fun empty => by rw [empty]; rfl) fun filled => ?_
  obtain ⟨n, done⟩ := addMemberships_ok (s := s.count) known 0
  exact ⟨n, done.trans (by simp [joined, count, filled])⟩

theorem bulk_addMemberships_error {rows : List Membership} {s : Store}
    (unknown : ¬ ∀ row ∈ rows, s.hasContact row.contact = true) :
    ∃ contact, s.bulk rows .addMemberships = .error (noContact contact) := by
  obtain ⟨contact, failed⟩ := addMemberships_error (s := s.count) unknown 0
  exact ⟨contact, bulk_error (fun empty => unknown (by simp [empty])) failed⟩

theorem bulk_removeMemberships (rows : List Membership) (s : Store) :
    s.bulk rows .removeMemberships = .ok (s.parted rows) := by
  refine bulk_ok (fun empty => by rw [empty]; rfl) fun filled => ?_
  obtain ⟨n, done⟩ := removeMemberships_ok rows s.count 0
  exact ⟨n, done.trans (by simp [parted, count, filled])⟩

theorem bulk_insertMessages {rows : List Message} {s : Store} (accepted : s.Accepts rows) :
    s.bulk rows .insertMessages = .ok (s.extended rows) := by
  refine bulk_ok (fun empty => by simp [empty, extended]) fun filled => ?_
  obtain ⟨n, done⟩ := insertMessages_ok (accepts_count.2 accepted) 0
  exact ⟨n, done.trans (by simp [extended, count, filled])⟩

theorem bulk_insertMessages_error {rows : List Message} {s : Store} (refused : ¬ s.Accepts rows) :
    ∃ text, s.bulk rows .insertMessages = .error (.foreignKeyViolation text) ∨
      s.bulk rows .insertMessages = .error (.uniqueViolation text) := by
  have filled : rows ≠ [] := fun empty => refused (empty ▸ ⟨by simp, by simp, by simp⟩)
  obtain ⟨text, failed⟩ := insertMessages_error (mt accepts_count.1 refused) 0
  exact ⟨text, failed.imp (bulk_error filled) (bulk_error filled)⟩

theorem bulk_addLabels (rows : List MessageLabel) (s : Store) :
    s.bulk rows .addLabels = .ok (s.labelled rows) := by
  refine bulk_ok (fun empty => by rw [empty]; rfl) fun filled => ?_
  obtain ⟨n, done⟩ := addLabels_ok rows s.count 0
  refine ⟨n, done.trans ?_⟩
  simp only [labelled, List.isEmpty_iff, filled, if_false]
  rfl

end SessionBatch.Store

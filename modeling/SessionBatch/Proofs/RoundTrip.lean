import SessionBatch.Proofs.Checks
import SessionBatch.Proofs.Decoding
import SessionBatch.Proofs.Texts
import SessionBatch.Reading.File
import SessionBatch.Writing

namespace SessionBatch.Reading
open SessionBatch.Json

variable {α : Type} {kind : IdKind}

@[simp] theorem readUuid_value (u : Uuid) : readUuid u.value = .ok u := by
  simp [readUuid, Uuid.value, Uuid.ofText?_text]

@[simp] theorem readString_string (s : String) : readString (.string s) = .ok s := rfl

@[simp] theorem readTimestamp_text (t : Calendar.Timestamp) :
    readTimestamp (.string t.text) = .ok t := by
  simp [readTimestamp, Calendar.Timestamp.ofText?_text]

@[simp] theorem readId_value (id : Id kind) : readId id.value = .ok id := by
  simp [readId, Id.value, Value.integer, Id.ofInt?_toInt]

@[simp] theorem readOptional_optionalText (s : Option String) :
    readOptional readString (optionalText s) = .ok s := by
  cases s <;> rfl

theorem readPair_pair {β : Type} (record : String) {one other : String} (apart : other ≠ one)
    {readOne : Value → Reads α} {readOther : Value → Reads β} {v w : Value} {a : α} {b : β}
    (first : readOne v = .ok a) (second : readOther w = .ok b) :
    readPair record one other readOne readOther (.object [(one, v), (other, w)]) = .ok (a, b) := by
  simp [readPair, readTwo, fill, present, first, second, apart, bind, Except.bind, pure, Except.pure,
    Except.map]

theorem readPair_reference (record : String) (uuid : Uuid) (name : String) :
    readPair record "uuid" "name" readUuid readString (referenceValue uuid name) =
      .ok (uuid, name) :=
  readPair_pair record (by decide) (readUuid_value uuid) (readString_string name)

theorem readGroupRef_value (g : GroupRef) : readGroupRef g.value = .ok g := by
  unfold readGroupRef
  rw [GroupRef.value, readPair_reference]
  rfl

theorem readLabelRef_value (l : LabelRef) : readLabelRef l.value = .ok l := by
  unfold readLabelRef
  rw [LabelRef.value, readPair_reference]
  rfl

@[simp] theorem readFieldRef_value (f : FieldRef) : readFieldRef f.value = .ok f := by
  have pair := readPair_pair "FieldRef" (by decide : "name" ≠ "key") (readString_string f.key)
    (readString_string f.name)
  unfold readFieldRef
  rw [FieldRef.value, pair]
  rfl

theorem readings_map {β δ ε : Type} {read : δ → Except ε β} {form : α → δ} {value : α → β}
    (known : ∀ a, read (form a) = .ok (value a)) (as : List α) :
    (as.map form).mapM read = .ok (as.map value) := by
  rw [List.mapM_map]
  exact readings_ok fun a _ => known a

theorem foldlM_step {σ ε : Type} {add : σ → α → Except ε σ} {s t : σ} {a : α} {as : List α}
    (step : add s a = .ok t) : (a :: as).foldlM add s = as.foldlM add t := by
  rw [List.foldlM_cons, step]
  rfl

theorem readList_map {read : Value → Reads α} {form : α → Value}
    (known : ∀ a, read (form a) = .ok a) (as : List α) :
    readList read (.array (as.map form)) = .ok as := by
  have all : (as.map form).mapM read = .ok (as.map id) := readings_map known as
  rwa [List.map_id] at all

@[simp] theorem readMessage_value (m : OutgoingMessage) : readMessage m.value = .ok m := by
  simp [readMessage, OutgoingMessage.value, readThree, fill, present, bind, Except.bind, pure,
    Except.pure, Except.map]

@[simp] theorem readType_value (t : EventType) : readType t.value = .ok t := by
  simp [readType, EventType.value, EventType.ofName?_name]

theorem readPayloadOf_members (p : Payload) : readPayloadOf p.members p.type = .ok p := by
  cases p with
  | contactGroupsChanged added removed =>
    have first := readList_map readGroupRef_value added
    have second := readList_map readGroupRef_value removed
    simp [readPayloadOf, Payload.members, Payload.type, readTwo, fill, first, second, bind,
      Except.bind, pure, Except.pure, Except.map]
  | inputLabelsAdded input labels =>
    have all := readList_map readLabelRef_value labels
    simp [readPayloadOf, Payload.members, Payload.type, readTwo, fill, present, all, bind,
      Except.bind, pure, Except.pure, Except.map]
  | _ =>
    simp [readPayloadOf, Payload.members, Payload.type, readOne, readTwo, fill, present, bind,
      Except.bind, pure, Except.pure, Except.map]

theorem members_keys (p : Payload) :
    ∀ m ∈ p.members, m.1 ≠ "uuid" ∧ m.1 ≠ "created_on" ∧ m.1 ≠ "type" := by
  cases p <;> simp [Payload.members]

theorem readOne_first {field : String} {read : Value → Reads α} {v : Value} {a : α} {ms : Members}
    (found : read v = .ok a) (apart : ∀ m ∈ ms, m.1 ≠ field) :
    readOne field read ((field, v) :: ms) = .ok (some a) := by
  have first : fill field none (fun _ => read v) = .ok (some a) := by simp [fill, found, Except.map]
  unfold readOne
  rw [List.foldlM_cons]
  simp only [if_true, first]
  change List.foldlM _ (some a) ms = Except.ok (some a)
  induction ms with
  | nil => rfl
  | cons m ms ih =>
    have other : m.1 ≠ field := apart m (by simp)
    rw [List.foldlM_cons]
    simp only [if_neg other]
    exact ih fun n member => apart n (by simp [member])

theorem readPayload_members (p : Payload) :
    readPayload (("type", p.type.value) :: p.members) = .ok p := by
  have keys := members_keys p
  have type := readOne_first (readType_value p.type) fun m member => (keys m member).2.2
  unfold readPayload
  rw [type, List.filter_cons_of_neg (by simp),
    List.filter_eq_self.mpr fun m member => by simpa using (keys m member).2.2]
  exact readPayloadOf_members p

section Within

variable {d : Nat}

theorem id_bounds (id : Id kind) : Id.least ≤ id.toInt ∧ id.toInt < Id.bound :=
  ⟨Int64.le_toInt id.val, Int64.toInt_lt id.val⟩

@[simp] theorem id_within (id : Id kind) : id.value.Within d :=
  .integer (id_bounds id).1 (id_bounds id).2

@[simp] theorem string_within (s : String) : (Value.string s).Within d := .string s

@[simp] theorem uuid_within (u : Uuid) : u.value.Within d := .string u.text

@[simp] theorem optionalText_within (s : Option String) : (optionalText s).Within d := by
  cases s with
  | none => exact .null
  | some s => exact .string s

theorem array_within {form : α → Value} (items : ∀ a, (form a).Within d) (as : List α) :
    (Value.array (as.map form)).Within (d + 1) := by
  refine .array fun v member => ?_
  obtain ⟨a, -, rfl⟩ := List.mem_map.mp member
  exact items a

theorem referenceValue_within (uuid : Uuid) (name : String) :
    (referenceValue uuid name).Within (d + 1) := by
  refine .object ?_
  simp

theorem members_within (p : Payload) : ∀ m ∈ p.members, m.2.Within (d + 2) := by
  cases p with
  | contactFieldChanged field value =>
    have key : field.value.Within (d + 2) := .object (by simp)
    simp [Payload.members, key]
  | contactGroupsChanged added removed =>
    have groups : ∀ gs : List GroupRef, (Value.array (gs.map GroupRef.value)).Within (d + 2) :=
      array_within fun g => referenceValue_within g.uuid g.name
    simp [Payload.members, groups]
  | msgCreated message =>
    have content : message.value.Within (d + 2) := .object (by simp)
    simp [Payload.members, content]
  | inputLabelsAdded input labels =>
    have refs : ∀ ls : List LabelRef, (Value.array (ls.map LabelRef.value)).Within (d + 2) :=
      array_within fun l => referenceValue_within l.uuid l.name
    simp [Payload.members, refs]
  | _ => simp [Payload.members]

theorem event_within (e : Event) : e.value.Within (d + 3) := by
  refine .object ?_
  have members := members_within (d := d) e.payload
  simpa [EventType.value] using fun k v => members (k, v)

theorem session_within (s : Session) : s.value.Within (d + 5) := by
  refine .object ?_
  have events := array_within (d := d + 3) event_within s.events
  simp [events]

theorem sessions_within (sessions : List Session) :
    (Value.array (sessions.map Session.value)).Within 6 :=
  array_within session_within sessions

end Within

@[simp] theorem leaf_id (id : Id kind) : leaf id.value.node = .ok id.value :=
  leaf_integer (id_bounds id).1 (id_bounds id).2

@[simp] theorem leaf_uuid (u : Uuid) : leaf u.value.node = .ok u.value := leaf_string u.text

theorem addEventMembers_rest (draft : EventDraft) {ms : Members}
    (others : ∀ m ∈ ms, m.1 ≠ "uuid" ∧ m.1 ≠ "created_on")
    (within : ∀ m ∈ ms, m.2.Within depthInEvent) :
    (memberNodes ms).foldlM addEventMember draft =
      .ok { draft with rest := draft.rest ++ ms } := by
  induction ms generalizing draft with
  | nil => simp [memberNodes, pure, Except.pure]
  | cons m ms ih =>
    obtain ⟨k, v⟩ := m
    obtain ⟨notUuid, notMoment⟩ : k ≠ "uuid" ∧ k ≠ "created_on" := others (k, v) (by simp)
    have first : addEventMember draft (spelled k, v.node) =
        .ok { draft with rest := draft.rest ++ [(k, v)] } := by
      simp [addEventMember, notUuid, notMoment, value_node (within (k, v) (by simp)), bind,
        Except.bind, pure, Except.pure]
    have more := ih { draft with rest := draft.rest ++ [(k, v)] }
      (fun n member => others n (by simp [member])) (fun n member => within n (by simp [member]))
    rw [memberNodes, foldlM_step first]
    simpa using more

def kept (e : Event) : Members := ("type", e.type.value) :: e.payload.members

theorem kept_keys (e : Event) : ∀ m ∈ kept e, m.1 ≠ "uuid" ∧ m.1 ≠ "created_on" := by
  have keys := members_keys e.payload
  intro m member
  rcases List.mem_cons.mp member with rfl | member
  · simp
  · exact ⟨(keys m member).1, (keys m member).2.1⟩

theorem kept_within (e : Event) : ∀ m ∈ kept e, m.2.Within depthInEvent := by
  intro m member
  rcases List.mem_cons.mp member with rfl | member
  · exact .string _
  · exact members_within e.payload m member

theorem readEvent_node (e : Event) : readEvent e.value.node = .ok e := by
  have name : addEventMember {} (spelled "uuid", e.uuid.value.node) =
      .ok ⟨some e.uuid, none, []⟩ := by
    simp [addEventMember, fill, bind, Except.bind, pure, Except.pure, Except.map]
  have moment : addEventMember ⟨some e.uuid, none, []⟩
      (spelled "created_on", (Value.string e.createdOn.text).node) =
      .ok ⟨some e.uuid, some e.createdOn, []⟩ := by
    simp [addEventMember, leaf_string, fill, bind, Except.bind, pure, Except.pure, Except.map]
  have rest := addEventMembers_rest ⟨some e.uuid, some e.createdOn, []⟩ (kept_keys e)
    (kept_within e)
  have payload : readPayload (kept e) = .ok e.payload := readPayload_members e.payload
  have node : e.value.node = .object (memberNodes (("uuid", e.uuid.value) ::
      ("created_on", .string e.createdOn.text) :: kept e)) none := rfl
  rw [node, readEvent, memberNodes, memberNodes, foldlM_step name, foldlM_step moment, rest]
  simp [unlessFault, present, payload, bind, Except.bind, pure, Except.pure]

theorem readEvents_node (events : List Event) :
    readEvents (Value.array (events.map Event.value)).node = .ok events := by
  have items : (events.map (Value.node ∘ Event.value)).mapM readEvent = .ok (events.map id) :=
    readings_map readEvent_node events
  simp only [List.map_id] at items
  simp [readEvents, Value.node, itemNodes_eq, readItems, items, unlessFault, bind, Except.bind,
    pure, Except.pure]

theorem readSession_node (s : Session) : readSession s.value.node = .ok s.clearQueues := by
  have events := readEvents_node s.events
  have node : s.value.node = .object (memberNodes [("id", s.id.value), ("org_id", s.orgId.value),
    ("contact_id", s.contactId.value), ("contact_uuid", s.contactUuid.value),
    ("events", .array (s.events.map Event.value))]) none := rfl
  rw [node, readSession]
  simp [memberNodes, addSessionMember, fill, events, unlessFault, SessionDraft.session, present,
    Session.clearQueues, bind, Except.bind, pure, Except.pure, Except.map]

-- Whatever its queues hold, a written session is read back with both of them empty.
theorem sessionsOfText_sessionsText (sessions : List Session) :
    sessionsOfText (sessionsText sessions) = .ok (sessions.map Session.clearQueues) := by
  have items : (sessions.map (Value.node ∘ Session.value)).mapM readSession =
      .ok (sessions.map Session.clearQueues) := readings_map readSession_node sessions
  have read : readText (sessionsText sessions) = .ok (sessions.map Session.clearQueues) := by
    unfold readText readGlyphs sessionsText
    rw [scan_text (sessions_within sessions)]
    simp [readDocument, Value.node, itemNodes_eq, readItems, items, unlessFault, bind, Except.bind,
      pure, Except.pure]
  unfold sessionsOfText
  rw [read]
  rfl

end SessionBatch.Reading

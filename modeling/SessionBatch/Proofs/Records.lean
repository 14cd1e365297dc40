import SessionBatch.Proofs.Fields

namespace SessionBatch.Reading
open SessionBatch.Json

section Readers

variable {α β : Type}

theorem readString_accepts : Accepts readString StringOf := by
  intro v s
  cases v with
  | string t =>
    constructor
    · rintro ⟨⟩
      rfl
    · rintro ⟨⟩
      rfl
  | _ =>
    constructor
    · exact fun read => absurd read wrong_ne_ok
    · rintro ⟨⟩

theorem parsed_accepts {read : Value → Reads α} {parse : String → Option α}
    (parsed : ∀ s a, read (.string s) = .ok a ↔ parse s = some a)
    (others : ∀ v, (∀ s, v ≠ .string s) → ∀ a, read v ≠ .ok a) :
    Accepts read fun v a => ∃ s, v = .string s ∧ parse s = some a := by
  intro v a
  cases v with
  | string s =>
    rw [parsed]
    constructor
    · exact fun known => ⟨s, rfl, known⟩
    · rintro ⟨_, ⟨⟩, known⟩
      exact known
  | _ =>
    constructor
    · exact fun read => absurd read (others _ (fun _ => Value.noConfusion) a)
    · rintro ⟨_, ⟨⟩, _⟩

theorem readUuid_accepts : Accepts readUuid UuidOf := by
  refine parsed_accepts ?_ ?_
  · intro s u
    rw [readUuid]
    split <;> simp [*]
  · intro v other u
    cases v with
    | string s => exact absurd rfl (other s)
    | _ => exact wrong_ne_ok

theorem readTimestamp_accepts : Accepts readTimestamp TimestampOf := by
  refine parsed_accepts ?_ ?_
  · intro s t
    rw [readTimestamp]
    split <;> simp [*]
  · intro v other t
    cases v with
    | string s => exact absurd rfl (other s)
    | _ => exact wrong_ne_ok

theorem readOptional_accepts {read : Value → Reads α} {is : Value → α → Prop}
    (accepts : Accepts read is) (notNull : ∀ a, ¬ is .null a) :
    Accepts (readOptional read) (OptionalOf is) := by
  intro v slot
  by_cases null : v = .null
  · subst null
    constructor
    · rintro ⟨⟩
      exact .null
    · rintro ⟨⟩
      · rfl
      · next a present => exact absurd present (notNull a)
  · have some : readOptional read v = (read v).map some := by
      cases v with
      | null => exact absurd rfl null
      | _ => rfl
    rw [some, ok_map_iff]
    constructor
    · rintro ⟨a, found, rfl⟩
      exact .some ((accepts v a).1 found)
    · rintro ⟨⟩
      · exact absurd rfl null
      · next a present => exact ⟨a, (accepts v a).2 present, rfl⟩

theorem readOptional_string : Accepts (readOptional readString) (OptionalOf StringOf) :=
  readOptional_accepts readString_accepts fun _ => Value.noConfusion

theorem readList_accepts {read : Value → Reads α} {is : Value → α → Prop}
    (accepts : Accepts read is) : Accepts (readList read) (ListOf is) := by
  intro v as
  cases v with
  | array vs =>
    constructor
    · exact fun found => .array ((mapM_iff fun v _ => accepts v).1 found)
    · rintro ⟨items⟩
      exact (mapM_iff fun v _ => accepts v).2 items
  | _ =>
    constructor
    · exact fun read => absurd read wrong_ne_ok
    · rintro ⟨⟩

variable {field₁ field₂ : String} {read₁ : Value → Reads α} {read₂ : Value → Reads β}
  {is₁ : Value → α → Prop} {is₂ : Value → β → Prop}

theorem readTwo_once (distinct : field₁ ≠ field₂) (first : Accepts read₁ is₁)
    (second : Accepts read₂ is₂) {members : Members} {a : α} {b : β} :
    readTwo field₁ field₂ read₁ read₂ members = .ok (some a, some b) ↔
      Once field₁ is₁ members a ∧ Once field₂ is₂ members b := by
  rw [readTwo_iff distinct]
  exact and_congr (once_iff first) (once_iff second)

theorem readPair_accepts {record : String} (distinct : field₁ ≠ field₂)
    (first : Accepts read₁ is₁) (second : Accepts read₂ is₂) :
    Accepts (readPair record field₁ field₂ read₁ read₂) (PairOf field₁ field₂ is₁ is₂) := by
  intro v pair
  obtain ⟨a, b⟩ := pair
  cases v with
  | array vs =>
    match vs with
    | [] => constructor <;> rintro ⟨⟩
    | [v] =>
      constructor
      · intro read
        obtain ⟨_, _, read⟩ := ok_bind_iff.1 read
        cases read
      · rintro ⟨⟩
    | v :: w :: rest =>
      constructor
      · intro read
        obtain ⟨a, found, read⟩ := ok_bind_iff.1 read
        obtain ⟨b, found', read⟩ := ok_bind_iff.1 read
        cases rest with
        | nil =>
          cases read
          exact .array ((first v _).1 found) ((second w _).1 found')
        | cons => cases read
      · rintro ⟨⟩
        next fits fits' =>
          refine ok_bind_iff.2 ⟨a, (first v a).2 fits, ?_⟩
          exact ok_bind_iff.2 ⟨b, (second w b).2 fits', rfl⟩
  | object members =>
    constructor
    · intro read
      obtain ⟨⟨slot₁, slot₂⟩, found, read⟩ := ok_bind_iff.1 read
      obtain ⟨a, filled, read⟩ := ok_bind_iff.1 read
      obtain ⟨b, filled', read⟩ := ok_bind_iff.1 read
      cases read
      rw [present_iff.1 filled, present_iff.1 filled'] at found
      obtain ⟨once, once'⟩ := (readTwo_once distinct first second).1 found
      exact .object once once'
    · rintro ⟨⟩
      next once once' =>
        exact ok_bind_iff.2 ⟨_, (readTwo_once distinct first second).2 ⟨once, once'⟩, rfl⟩
  | _ =>
    constructor
    · exact fun read => absurd read wrong_ne_ok
    · rintro ⟨⟩

theorem Accepts.record {read : Value → Reads α} {is : Value → α → Prop} (accepts : Accepts read is)
    {form : α → β} {fields : β → α} (formed : ∀ b, form (fields b) = b)
    (taken : ∀ a, fields (form a) = a) :
    Accepts (fun v => (read v).map form) (fun v b => is v (fields b)) := by
  intro v b
  rw [ok_map_iff]
  constructor
  · rintro ⟨a, found, rfl⟩
    rw [taken a]
    exact (accepts v a).1 found
  · exact fun fits => ⟨fields b, (accepts v _).2 fits, formed b⟩

theorem readGroupRef_accepts : Accepts readGroupRef GroupRefOf :=
  (readPair_accepts (by decide) readUuid_accepts readString_accepts).record
    (fun _ => rfl) fun _ => rfl

theorem readLabelRef_accepts : Accepts readLabelRef LabelRefOf :=
  (readPair_accepts (by decide) readUuid_accepts readString_accepts).record
    (fun _ => rfl) fun _ => rfl

theorem readFieldRef_accepts : Accepts readFieldRef FieldRefOf :=
  (readPair_accepts (by decide) readString_accepts readString_accepts).record
    (fun _ => rfl) fun _ => rfl

theorem readMessage_accepts : Accepts readMessage MessageOf := by
  intro v message
  cases v with
  | array vs =>
    match vs with
    | [] => constructor <;> rintro ⟨⟩
    | [v] =>
      constructor
      · intro read
        obtain ⟨_, _, read⟩ := ok_bind_iff.1 read
        cases read
      · rintro ⟨⟩
    | [v, w] =>
      constructor
      · intro read
        obtain ⟨_, _, read⟩ := ok_bind_iff.1 read
        obtain ⟨_, _, read⟩ := ok_bind_iff.1 read
        cases read
      · rintro ⟨⟩
    | v :: w :: x :: rest =>
      constructor
      · intro read
        obtain ⟨uuid, first, read⟩ := ok_bind_iff.1 read
        obtain ⟨urn, second, read⟩ := ok_bind_iff.1 read
        obtain ⟨text, third, read⟩ := ok_bind_iff.1 read
        cases rest with
        | nil =>
          cases read
          exact .array ((readUuid_accepts v _).1 first) ((readOptional_string w _).1 second)
            ((readString_accepts x _).1 third)
        | cons => cases read
      · rintro ⟨⟩
        next first second third =>
          refine ok_bind_iff.2 ⟨_, (readUuid_accepts v _).2 first, ?_⟩
          refine ok_bind_iff.2 ⟨_, (readOptional_string w _).2 second, ?_⟩
          exact ok_bind_iff.2 ⟨_, (readString_accepts x _).2 third, rfl⟩
  | object members =>
    constructor
    · intro read
      obtain ⟨⟨slot₁, slot₂, slot₃⟩, found, read⟩ := ok_bind_iff.1 read
      obtain ⟨uuid, filled, read⟩ := ok_bind_iff.1 read
      obtain ⟨text, filled', read⟩ := ok_bind_iff.1 read
      cases read
      cases present_iff.1 filled
      cases present_iff.1 filled'
      obtain ⟨first, found⟩ := (readThree_iff (by decide) (by decide)).1 found
      obtain ⟨second, third⟩ := (readTwo_iff (by decide)).1 found
      exact .object ((once_iff readUuid_accepts).1 first)
        ((atMostOnce_iff readOptional_string).1 ⟨slot₂, second, rfl⟩)
        ((once_iff readString_accepts).1 third)
    · rintro ⟨⟩
      next uuid urn text =>
        obtain ⟨slot, second, same⟩ := (atMostOnce_iff readOptional_string).2 urn
        have first := (once_iff readUuid_accepts).2 uuid
        have third := (once_iff readString_accepts).2 text
        have both := (readTwo_iff (by decide)).2 ⟨second, third⟩
        refine ok_bind_iff.2 ⟨_, (readThree_iff (by decide) (by decide)).2 ⟨first, both⟩, ?_⟩
        dsimp only
        rw [same]
        rfl
  | _ =>
    constructor
    · exact fun read => absurd read wrong_ne_ok
    · rintro ⟨⟩

end Readers

theorem ofName?_iff {s : String} {type : EventType} :
    EventType.ofName? s = some type ↔ s = type.name := by
  constructor
  · intro found
    have named := List.find?_some found
    exact (of_decide_eq_true named).symm
  · rintro rfl
    exact EventType.ofName?_name type

theorem readType_accepts : Accepts readType TypeOf := by
  intro v type
  cases v with
  | string s =>
    rw [readType]
    constructor
    · intro read
      split at read
      · next known =>
        cases read
        rw [ofName?_iff.1 known]
        exact .named type
      · cases read
    · rintro ⟨⟩
      rw [EventType.ofName?_name]
  | number n =>
    cases n with
    | integer n =>
      rw [readType]
      constructor
      · intro read
        split at read
        · cases read
        · next positive =>
          split at read
          · next place =>
            cases read
            obtain ⟨k, rfl⟩ := Int.eq_ofNat_of_zero_le (Int.not_lt.1 positive)
            exact .numbered place
          · cases read
      · rintro ⟨⟩
        next k place =>
          rw [if_neg (Int.not_lt.2 (Int.natCast_nonneg k)), Int.toNat_natCast, place]
    | float =>
      constructor
      · exact fun read => absurd read wrong_ne_ok
      · rintro ⟨⟩
  | _ =>
    constructor
    · exact fun read => absurd read wrong_ne_ok
    · rintro ⟨⟩

section Payloads

variable {members others : Members}

def eventKeys : List String := ["uuid", "created_on", "type"]

-- The keys that a payload of a type uses. Those of the event are not among them.
def payloadKeys : EventType → List String
  | .contactNameChanged => ["name"]
  | .contactLanguageChanged => ["language"]
  | .contactFieldChanged => ["field", "value"]
  | .contactGroupsChanged => ["groups_added", "groups_removed"]
  | .msgCreated => ["msg"]
  | .inputLabelsAdded => ["input_uuid", "labels"]
  | .error => ["text"]

theorem payloadKeys_apart (type : EventType) : ∀ key ∈ payloadKeys type, key ∉ eventKeys := by
  cases type <;> decide

def SameUnder {ν : Type} (key : String) (members others : List (String × ν)) : Prop :=
  (members.filter (·.1 = key)).Perm (others.filter (·.1 = key))

theorem Once.of_same {α ν : Type} {key : String} {is : ν → α → Prop}
    {members others : List (String × ν)} {a : α} (same : SameUnder key members others)
    (once : Once key is members a) : Once key is others a := by
  obtain ⟨v, alone, fits⟩ := once
  unfold SameUnder at same
  rw [alone, List.singleton_perm] at same
  exact ⟨v, same.symm, fits⟩

theorem AtMostOnce.of_same {α ν : Type} {key : String} {is : ν → α → Prop} {default : α}
    {members others : List (String × ν)} {a : α} (same : SameUnder key members others)
    (field : AtMostOnce key is default members a) : AtMostOnce key is default others a := by
  rcases field with once | ⟨absent, missing⟩
  · exact .inl (once.of_same same)
  · unfold SameUnder at same
    rw [filter_eq_nil_iff_absent.2 absent, List.nil_perm] at same
    exact .inr ⟨filter_eq_nil_iff_absent.1 same, missing⟩

theorem PayloadOf.of_same {payload : Payload}
    (same : ∀ key ∈ payloadKeys payload.type, SameUnder key members others)
    (fields : PayloadOf members payload) : PayloadOf others payload := by
  cases fields with
  | contactNameChanged field => exact .contactNameChanged (field.of_same (same _ (.head _)))
  | contactLanguageChanged field =>
    exact .contactLanguageChanged (field.of_same (same _ (.head _)))
  | contactFieldChanged first second =>
    exact .contactFieldChanged (first.of_same (same _ (.head _)))
      (second.of_same (same _ (.tail _ (.head _))))
  | contactGroupsChanged first second =>
    exact .contactGroupsChanged (first.of_same (same _ (.head _)))
      (second.of_same (same _ (.tail _ (.head _))))
  | msgCreated field => exact .msgCreated (field.of_same (same _ (.head _)))
  | inputLabelsAdded first second =>
    exact .inputLabelsAdded (first.of_same (same _ (.head _)))
      (second.of_same (same _ (.tail _ (.head _))))
  | error field => exact .error (field.of_same (same _ (.head _)))

theorem readPayloadOf_sound {type : EventType} {payload : Payload}
    (read : readPayloadOf members type = .ok payload) :
    payload.type = type ∧ PayloadOf members payload := by
  cases type with
  | contactNameChanged =>
    obtain ⟨slot, found, read⟩ := ok_bind_iff.1 read
    obtain ⟨name, filled, read⟩ := ok_bind_iff.1 read
    cases read
    cases present_iff.1 filled
    exact ⟨rfl, .contactNameChanged ((once_iff readString_accepts).1 found)⟩
  | contactLanguageChanged =>
    obtain ⟨slot, found, read⟩ := ok_bind_iff.1 read
    obtain ⟨language, filled, read⟩ := ok_bind_iff.1 read
    cases read
    cases present_iff.1 filled
    exact ⟨rfl, .contactLanguageChanged ((once_iff readString_accepts).1 found)⟩
  | contactFieldChanged =>
    obtain ⟨⟨slot₁, slot₂⟩, found, read⟩ := ok_bind_iff.1 read
    obtain ⟨field, filled, read⟩ := ok_bind_iff.1 read
    cases read
    cases present_iff.1 filled
    obtain ⟨first, second⟩ := (readTwo_iff (by decide)).1 found
    exact ⟨rfl, .contactFieldChanged ((once_iff readFieldRef_accepts).1 first)
      ((atMostOnce_iff readOptional_string).1 ⟨slot₂, second, rfl⟩)⟩
  | contactGroupsChanged =>
    obtain ⟨⟨slot₁, slot₂⟩, found, read⟩ := ok_bind_iff.1 read
    cases read
    obtain ⟨first, second⟩ := (readTwo_iff (by decide)).1 found
    have groups := readList_accepts readGroupRef_accepts
    exact ⟨rfl, .contactGroupsChanged ((atMostOnce_iff groups).1 ⟨slot₁, first, rfl⟩)
      ((atMostOnce_iff groups).1 ⟨slot₂, second, rfl⟩)⟩
  | msgCreated =>
    obtain ⟨slot, found, read⟩ := ok_bind_iff.1 read
    obtain ⟨message, filled, read⟩ := ok_bind_iff.1 read
    cases read
    cases present_iff.1 filled
    exact ⟨rfl, .msgCreated ((once_iff readMessage_accepts).1 found)⟩
  | inputLabelsAdded =>
    obtain ⟨⟨slot₁, slot₂⟩, found, read⟩ := ok_bind_iff.1 read
    obtain ⟨input, filled, read⟩ := ok_bind_iff.1 read
    obtain ⟨labels, filled', read⟩ := ok_bind_iff.1 read
    cases read
    cases present_iff.1 filled
    cases present_iff.1 filled'
    obtain ⟨first, second⟩ := (readTwo_once (by decide) readUuid_accepts
      (readList_accepts readLabelRef_accepts)).1 found
    exact ⟨rfl, .inputLabelsAdded first second⟩
  | error =>
    obtain ⟨slot, found, read⟩ := ok_bind_iff.1 read
    obtain ⟨text, filled, read⟩ := ok_bind_iff.1 read
    cases read
    cases present_iff.1 filled
    exact ⟨rfl, .error ((once_iff readString_accepts).1 found)⟩

theorem PayloadOf.read {payload : Payload} (fields : PayloadOf members payload) :
    readPayloadOf members payload.type = .ok payload := by
  cases fields with
  | contactNameChanged field =>
    exact ok_bind_iff.2 ⟨_, (once_iff readString_accepts).2 field, rfl⟩
  | contactLanguageChanged field =>
    exact ok_bind_iff.2 ⟨_, (once_iff readString_accepts).2 field, rfl⟩
  | contactFieldChanged first second =>
    obtain ⟨slot, found, rfl⟩ := (atMostOnce_iff readOptional_string).2 second
    have field := (once_iff readFieldRef_accepts).2 first
    exact ok_bind_iff.2 ⟨_, (readTwo_iff (by decide)).2 ⟨field, found⟩, rfl⟩
  | contactGroupsChanged first second =>
    have groups := readList_accepts readGroupRef_accepts
    obtain ⟨slot₁, found, rfl⟩ := (atMostOnce_iff groups).2 first
    obtain ⟨slot₂, found', rfl⟩ := (atMostOnce_iff groups).2 second
    exact ok_bind_iff.2 ⟨_, (readTwo_iff (by decide)).2 ⟨found, found'⟩, rfl⟩
  | msgCreated field => exact ok_bind_iff.2 ⟨_, (once_iff readMessage_accepts).2 field, rfl⟩
  | inputLabelsAdded first second =>
    have labels := readList_accepts readLabelRef_accepts
    exact ok_bind_iff.2
      ⟨_, (readTwo_once (by decide) readUuid_accepts labels).2 ⟨first, second⟩, rfl⟩
  | error field => exact ok_bind_iff.2 ⟨_, (once_iff readString_accepts).2 field, rfl⟩

theorem sameUnder_filter {p : String × Value → Bool} {key : String}
    (kept : ∀ v, p (key, v) = true) : SameUnder key (members.filter p) members := by
  unfold SameUnder
  rw [List.filter_filter]
  refine .of_eq (List.filter_congr fun m _ => ?_)
  obtain ⟨name, v⟩ := m
  by_cases same : name = key
  · subst same
    simp [kept v]
  · simp [same]

theorem readPayload_iff {payload : Payload} :
    readPayload members = .ok payload ↔
      Once "type" TypeOf members payload.type ∧ PayloadOf members payload := by
  have kept : ∀ key ∈ payloadKeys payload.type,
      SameUnder key (members.filter fun m => m.1 ≠ "type") members := by
    intro key own
    have apart : key ≠ "type" := by
      rintro rfl
      exact payloadKeys_apart payload.type _ own (by decide)
    exact sameUnder_filter fun v => by simpa using apart
  constructor
  · intro read
    obtain ⟨slot, found, read⟩ := ok_bind_iff.1 read
    obtain ⟨type, filled, read⟩ := ok_bind_iff.1 read
    cases present_iff.1 filled
    obtain ⟨rfl, fields⟩ := readPayloadOf_sound read
    exact ⟨(once_iff readType_accepts).1 found, fields.of_same kept⟩
  · rintro ⟨type, fields⟩
    refine ok_bind_iff.2 ⟨_, (once_iff readType_accepts).2 type, ?_⟩
    have moved := fields.of_same fun key own => (kept key own).symm
    exact ok_bind_iff.2 ⟨_, present_iff.2 rfl, moved.read⟩

end Payloads

end SessionBatch.Reading

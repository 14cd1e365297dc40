import SessionBatch.Proofs.Meaning
import SessionBatch.Reading.Sessions
import Mathlib.Data.List.Forall2

namespace SessionBatch.Reading
open SessionBatch.Json

section Fields

variable {α β ν : Type}

def Once (key : String) (is : ν → α → Prop) (members : List (String × ν)) (a : α) : Prop :=
  ∃ v, members.filter (·.1 = key) = [(key, v)] ∧ is v a

def AtMostOnce (key : String) (is : ν → α → Prop) (default : α) (members : List (String × ν))
    (a : α) : Prop :=
  Once key is members a ∨ (∀ m ∈ members, m.1 ≠ key) ∧ a = default

inductive OptionalOf (is : Value → α → Prop) : Value → Option α → Prop where
  | null : OptionalOf is .null none
  | some {v : Value} {a : α} (present : is v a) : OptionalOf is v (some a)

inductive ListOf (is : Value → α → Prop) : Value → List α → Prop where
  | array {vs : List Value} {as : List α} (items : List.Forall₂ is vs as) : ListOf is (.array vs) as

-- Two fields: an object that has each of them once, or an array of both in order.
inductive PairOf (key₁ key₂ : String) (is₁ : Value → α → Prop) (is₂ : Value → β → Prop) :
    Value → α × β → Prop where
  | object {members : Members} {a : α} {b : β} (first : Once key₁ is₁ members a)
      (second : Once key₂ is₂ members b) : PairOf key₁ key₂ is₁ is₂ (.object members) (a, b)
  | array {v w : Value} {a : α} {b : β} (first : is₁ v a) (second : is₂ w b) :
      PairOf key₁ key₂ is₁ is₂ (.array [v, w]) (a, b)

end Fields

def StringOf (v : Value) (s : String) : Prop := v = .string s

def UuidOf (v : Value) (u : Uuid) : Prop := ∃ s, v = .string s ∧ Uuid.ofText? s = some u

def TimestampOf (v : Value) (t : Calendar.Timestamp) : Prop :=
  ∃ s, v = .string s ∧ Calendar.Timestamp.ofText? s = some t

def GroupRefOf (v : Value) (group : GroupRef) : Prop :=
  PairOf "uuid" "name" UuidOf StringOf v (group.uuid, group.name)

def LabelRefOf (v : Value) (label : LabelRef) : Prop :=
  PairOf "uuid" "name" UuidOf StringOf v (label.uuid, label.name)

def FieldRefOf (v : Value) (field : FieldRef) : Prop :=
  PairOf "key" "name" StringOf StringOf v (field.key, field.name)

inductive MessageOf : Value → OutgoingMessage → Prop where
  | object {members : Members} {message : OutgoingMessage}
      (uuid : Once "uuid" UuidOf members message.uuid)
      (urn : AtMostOnce "urn" (OptionalOf StringOf) none members message.urn)
      (text : Once "text" StringOf members message.text) : MessageOf (.object members) message
  | array {uuid urn text : Value} {message : OutgoingMessage} (first : UuidOf uuid message.uuid)
      (second : OptionalOf StringOf urn message.urn) (third : StringOf text message.text) :
      MessageOf (.array [uuid, urn, text]) message

-- A type is named, or numbered from zero.
inductive TypeOf : Value → EventType → Prop where
  | named (type : EventType) : TypeOf (.string type.name) type
  | numbered {k : Nat} {type : EventType} (place : EventType.all[k]? = some type) :
      TypeOf (.integer k) type

inductive PayloadOf (members : Members) : Payload → Prop where
  | contactNameChanged {name : String} (field : Once "name" StringOf members name) :
      PayloadOf members (.contactNameChanged name)
  | contactLanguageChanged {language : String} (field : Once "language" StringOf members language) :
      PayloadOf members (.contactLanguageChanged language)
  | contactFieldChanged {field : FieldRef} {value : Option String}
      (first : Once "field" FieldRefOf members field)
      (second : AtMostOnce "value" (OptionalOf StringOf) none members value) :
      PayloadOf members (.contactFieldChanged field value)
  | contactGroupsChanged {added removed : List GroupRef}
      (first : AtMostOnce "groups_added" (ListOf GroupRefOf) [] members added)
      (second : AtMostOnce "groups_removed" (ListOf GroupRefOf) [] members removed) :
      PayloadOf members (.contactGroupsChanged added removed)
  | msgCreated {message : OutgoingMessage} (field : Once "msg" MessageOf members message) :
      PayloadOf members (.msgCreated message)
  | inputLabelsAdded {input : Uuid} {labels : List LabelRef}
      (first : Once "input_uuid" UuidOf members input)
      (second : Once "labels" (ListOf LabelRefOf) members labels) :
      PayloadOf members (.inputLabelsAdded input labels)
  | error {text : String} (field : Once "text" StringOf members text) :
      PayloadOf members (.error text)

inductive EventOf : Value → Event → Prop where
  | object {members : Members} {event : Event} (uuid : Once "uuid" UuidOf members event.uuid)
      (createdOn : Once "created_on" TimestampOf members event.createdOn)
      (type : Once "type" TypeOf members event.type) (payload : PayloadOf members event.payload) :
      EventOf (.object members) event

-- An integer of 64 bits, written without a fraction and without an exponent.
def IdOf {kind : IdKind} (node : Node) (id : Id kind) : Prop :=
  ∃ l n, node = .number l ∧ l.Writes n ∧ -Int.pow 2 63 ≤ n ∧ n < Int.pow 2 63 ∧ id.toInt = n

def Within {α : Type} (is : Value → α → Prop) (node : Node) (a : α) : Prop :=
  ∃ v, Means (127 - 3) node v ∧ is v a

-- At most 127 arrays and objects are open at a time; the list, a session and its events are three.
def EventsOf (node : Node) (events : List Event) : Prop :=
  ∃ nodes, node = .array nodes none ∧ List.Forall₂ (Within EventOf) nodes events

def Keyed (ms : List (Quoted × Node)) (members : List (String × Node)) : Prop :=
  List.Forall₂ (fun m member => Decoded m.1 member.1 ∧ m.2 = member.2) ms members

-- A session: an object that has its fields, and whatever else under other keys, or the array of its
-- fields in order. Only the keys of an object have to make sense, not what nobody reads.
inductive SessionOf : Node → Session → Prop where
  | object {ms : List (Quoted × Node)} {members : List (String × Node)} {id : SessionId}
      {orgId : OrgId} {contactId : ContactId} {contactUuid : Uuid} {events : List Event}
      (keys : Keyed ms members) (first : Once "id" IdOf members id)
      (second : Once "org_id" IdOf members orgId)
      (third : Once "contact_id" IdOf members contactId)
      (fourth : Once "contact_uuid" (Within UuidOf) members contactUuid)
      (fifth : AtMostOnce "events" EventsOf [] members events) :
      SessionOf (.object ms none) { id, orgId, contactId, contactUuid, events }
  | fourFields {a b c d : Node} {id : SessionId} {orgId : OrgId} {contactId : ContactId}
      {contactUuid : Uuid} (first : IdOf a id) (second : IdOf b orgId) (third : IdOf c contactId)
      (fourth : Within UuidOf d contactUuid) :
      SessionOf (.array [a, b, c, d] none) { id, orgId, contactId, contactUuid, events := [] }
  | fiveFields {a b c d e : Node} {id : SessionId} {orgId : OrgId} {contactId : ContactId}
      {contactUuid : Uuid} {events : List Event} (first : IdOf a id) (second : IdOf b orgId)
      (third : IdOf c contactId) (fourth : Within UuidOf d contactUuid) (fifth : EventsOf e events) :
      SessionOf (.array [a, b, c, d, e] none) { id, orgId, contactId, contactUuid, events }

def SessionsOf (tree : Node) (sessions : List Session) : Prop :=
  ∃ nodes, tree = .array nodes none ∧ List.Forall₂ SessionOf nodes sessions

end SessionBatch.Reading

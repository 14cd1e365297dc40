import SessionBatch.Reading.Problem
import SessionBatch.Calendar.Reading
import SessionBatch.Event
import SessionBatch.Identity

namespace SessionBatch.Reading
open SessionBatch.Json

variable {α β γ : Type} {kind : IdKind}

def integerText (n : Int) : String := (Value.integer n).described

def readId : Value → Reads (Id kind)
  | .number (.integer n) =>
    match Id.ofInt? n with
    | some id => .ok id
    | none => .error (.unfit (.wrongValue (integerText n) .integer))
  | v => wrong v .integer

def readString : Value → Reads String
  | .string s => .ok s
  | v => wrong v .string

def readUuid : Value → Reads Uuid
  | .string s =>
    match Uuid.ofText? s with
    | some u => .ok u
    | none => .error (.unfit .badUuid)
  | v => wrong v .uuid

def readTimestamp : Value → Reads Calendar.Timestamp
  | .string s =>
    match Calendar.Timestamp.ofText? s with
    | some t => .ok t
    | none => .error (.unfit .badTimestamp)
  | v => wrong v .timestamp

def readOptional (read : Value → Reads α) : Value → Reads (Option α)
  | .null => .ok none
  | v => (read v).map some

def readList (read : Value → Reads α) : Value → Reads (List α)
  | .array vs => vs.mapM read
  | v => wrong v .sequence

-- A field's first value is read and kept; a second one is refused unread.
def fill (field : String) (slot : Option α) (read : Unit → Reads α) : Reads (Option α) :=
  match slot with
  | some _ => .error (.unfit (.duplicate field))
  | none => (read ()).map some

def present (field : String) : Option α → Reads α
  | some a => .ok a
  | none => .error (.unfit (.missing field))

abbrev Members := List (String × Value)

-- Fields are read in the order of the text. Other keys are ignored.
def readOne (field : String) (read : Value → Reads α) (members : Members) : Reads (Option α) :=
  members.foldlM (fun slot (key, v) =>
    if key = field then fill field slot fun _ => read v else return slot) none

def readTwo (field₁ field₂ : String) (read₁ : Value → Reads α) (read₂ : Value → Reads β)
    (members : Members) : Reads (Option α × Option β) :=
  members.foldlM (fun (slot₁, slot₂) (key, v) => do
    if key = field₁ then return (← fill field₁ slot₁ fun _ => read₁ v, slot₂)
    else if key = field₂ then return (slot₁, ← fill field₂ slot₂ fun _ => read₂ v)
    else return (slot₁, slot₂)) (none, none)

def readThree (field₁ field₂ field₃ : String) (read₁ : Value → Reads α) (read₂ : Value → Reads β)
    (read₃ : Value → Reads γ) (members : Members) : Reads (Option α × Option β × Option γ) :=
  members.foldlM (fun (slot₁, slot₂, slot₃) (key, v) => do
    if key = field₁ then return (← fill field₁ slot₁ fun _ => read₁ v, slot₂, slot₃)
    else if key = field₂ then return (slot₁, ← fill field₂ slot₂ fun _ => read₂ v, slot₃)
    else if key = field₃ then return (slot₁, slot₂, ← fill field₃ slot₃ fun _ => read₃ v)
    else return (slot₁, slot₂, slot₃)) (none, none, none)

def tooShort (count : Nat) (record : String) (fields : Nat) : Reads α :=
  .error (.unfit (.wrongLength count (.recordOf record fields)))

def tooLong (count fields : Nat) : Reads α :=
  .error (.unfit (.wrongLength count (.elements fields)))

def readPair (record field₁ field₂ : String) (read₁ : Value → Reads α) (read₂ : Value → Reads β) :
    Value → Reads (α × β)
  | .array [] => tooShort 0 record 2
  | .array [a] => do
    let _ ← read₁ a
    tooShort 1 record 2
  | .array (a :: b :: rest) => do
    let a ← read₁ a
    let b ← read₂ b
    if rest.isEmpty then return (a, b) else tooLong (2 + rest.length) 2
  | .object members => do
    let (a, b) ← readTwo field₁ field₂ read₁ read₂ members
    return (← present field₁ a, ← present field₂ b)
  | v => wrong v (.record record)

def readGroupRef (v : Value) : Reads GroupRef :=
  (readPair "GroupRef" "uuid" "name" readUuid readString v).map fun (uuid, name) => ⟨uuid, name⟩

def readLabelRef (v : Value) : Reads LabelRef :=
  (readPair "LabelRef" "uuid" "name" readUuid readString v).map fun (uuid, name) => ⟨uuid, name⟩

def readFieldRef (v : Value) : Reads FieldRef :=
  (readPair "FieldRef" "key" "name" readString readString v).map fun (key, name) => ⟨key, name⟩

-- The urn may be left out of an object; in an array it has its place.
def readMessage : Value → Reads OutgoingMessage
  | .array [] => tooShort 0 "MsgOut" 3
  | .array [uuid] => do
    let _ ← readUuid uuid
    tooShort 2 "MsgOut" 3
  | .array [uuid, urn] => do
    let _ ← readUuid uuid
    let _ ← readOptional readString urn
    tooShort 2 "MsgOut" 3
  | .array (uuid :: urn :: text :: rest) => do
    let uuid ← readUuid uuid
    let urn ← readOptional readString urn
    let text ← readString text
    if rest.isEmpty then return ⟨uuid, urn, text⟩ else tooLong (3 + rest.length) 3
  | .object members => do
    let (uuid, urn, text) ←
      readThree "uuid" "urn" "text" readUuid (readOptional readString) readString members
    let uuid ← present "uuid" uuid
    return ⟨uuid, urn.getD none, ← present "text" text⟩
  | v => wrong v (.record "MsgOut")

-- A type is named, or numbered from zero.
def readType : Value → Reads EventType
  | .string s =>
    match EventType.ofName? s with
    | some type => .ok type
    | none => .error (.unfit (.unknownVariant s (EventType.all.map EventType.name)))
  | .number (.integer n) =>
    if n < 0 then wrong (.integer n) .variant
    else match EventType.all[n.toNat]? with
      | some type => .ok type
      | none =>
        .error (.unfit (.wrongValue (integerText n) (.variantIndex EventType.all.length)))
  | v => wrong v .variant

def readPayloadOf (members : Members) : EventType → Reads Payload
  | .contactNameChanged => do
    let name ← readOne "name" readString members
    return .contactNameChanged (← present "name" name)
  | .contactLanguageChanged => do
    let language ← readOne "language" readString members
    return .contactLanguageChanged (← present "language" language)
  | .contactFieldChanged => do
    let (field, value) ← readTwo "field" "value" readFieldRef (readOptional readString) members
    return .contactFieldChanged (← present "field" field) (value.getD none)
  | .contactGroupsChanged => do
    let (added, removed) ← readTwo "groups_added" "groups_removed" (readList readGroupRef)
      (readList readGroupRef) members
    return .contactGroupsChanged (added.getD []) (removed.getD [])
  | .msgCreated => do
    let message ← readOne "msg" readMessage members
    return .msgCreated (← present "msg" message)
  | .inputLabelsAdded => do
    let (input, labels) ← readTwo "input_uuid" "labels" readUuid (readList readLabelRef) members
    let input ← present "input_uuid" input
    return .inputLabelsAdded input (← present "labels" labels)
  | .error => do
    let text ← readOne "text" readString members
    return .error (← present "text" text)

-- The type comes first, wherever it stands; then the members that it uses.
def readPayload (members : Members) : Reads Payload := do
  let type ← readOne "type" readType members
  let type ← present "type" type
  readPayloadOf (members.filter fun (key, _) => key ≠ "type") type

end SessionBatch.Reading

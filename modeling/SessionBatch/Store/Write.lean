import SessionBatch.Store
import SessionBatch.Error.Store

namespace SessionBatch

-- New values of a contact's fields; no value removes the field.
abbrev FieldChanges := Std.ExtTreeMap String (Option String)

-- Each is one statement, whatever the number of its rows.
inductive BulkWrite where
  | updateNames (rows : List (ContactId × String))
  | updateLanguages (rows : List (ContactId × Option String))
  | updateFields (rows : List (ContactId × FieldChanges))
  | addMemberships (rows : List Membership)
  | removeMemberships (rows : List Membership)
  | insertMessages (rows : List Message)
  | addLabels (rows : List MessageLabel)
  deriving DecidableEq

inductive WriteKind where
  | updateNames
  | updateLanguages
  | updateFields
  | addMemberships
  | removeMemberships
  | insertMessages
  | addLabels
  deriving DecidableEq

def BulkWrite.kind : BulkWrite → WriteKind
  | updateNames _ => .updateNames
  | updateLanguages _ => .updateLanguages
  | updateFields _ => .updateFields
  | addMemberships _ => .addMemberships
  | removeMemberships _ => .removeMemberships
  | insertMessages _ => .insertMessages
  | addLabels _ => .addLabels

def BulkWrite.named : BulkWrite → List ContactId
  | updateNames rows => rows.map Prod.fst
  | updateLanguages rows => rows.map Prod.fst
  | updateFields rows => rows.map Prod.fst
  | _ => []

namespace Contact

def setName (name : String) (c : Contact) : Contact := { c with name := some name }
def setLanguage (language : Option String) (c : Contact) : Contact := { c with language }

def setField (c : Contact) (key : String) (value : Option String) : Contact :=
  match value with
  | some v => { c with fields := c.fields.insert key v }
  | none => { c with fields := c.fields.erase key }

def setFields (changes : FieldChanges) (c : Contact) : Contact :=
  changes.toList.foldl (fun c (key, value) => setField c key value) c

end Contact

namespace Store

def firstRepeated (seen : List ContactId) : List ContactId → Option ContactId
  | [] => none
  | id :: ids => if id ∈ seen then some id else firstRepeated (id :: seen) ids

def count (s : Store) : Store := { s with statements := s.statements + 1 }

def noContact (id : ContactId) : StoreError :=
  .foreignKeyViolation ("contact " ++ id.text ++ " does not exist")

-- Two rows for one contact are refused before anything is written; rows for unknown contacts have
-- no effect.
def updateContacts {α : Type} (set : α → Contact → Contact) (rows : List (ContactId × α))
    (s : Store) : Except StoreError Nat × Store :=
  match firstRepeated [] (rows.map Prod.fst) with
  | some id => (.error (.other ("contact " ++ id.text ++ " updated twice in one statement")), s)
  | none =>
    let contacts := rows.foldl (fun cs (id, value) => cs.modify id (set value)) s.contacts
    (.ok (rows.countP fun (id, _) => s.hasContact id), { s.count with contacts })

-- Row by row; a row whose contact is unknown ends the write, and the rows before it stay.
def addMemberships (n : Nat) : List Membership → Store → Except StoreError Nat × Store
  | [], s => (.ok n, s)
  | row :: rows, s =>
    if s.hasContact row.contact then
      addMemberships (if s.memberships.contains row then n else n + 1) rows
        { s with memberships := s.memberships.insert row }
    else (.error (noContact row.contact), s)

def removeMemberships (n : Nat) : List Membership → Store → Except StoreError Nat × Store
  | [], s => (.ok n, s)
  | row :: rows, s =>
    removeMemberships (if s.memberships.contains row then n + 1 else n) rows
      { s with memberships := s.memberships.erase row }

-- Row by row; an unknown contact or a known message ends the write, and the
-- rows before it stay.
def insertMessages (n : Nat) : List Message → Store → Except StoreError Nat × Store
  | [], s => (.ok n, s)
  | row :: rows, s =>
    if s.hasContact row.contactId then
      if s.hasMessage row.uuid then
        (.error (.uniqueViolation ("msg " ++ row.uuid.text ++ " already exists")), s)
      else insertMessages (n + 1) rows { s with messages := s.messages ++ [row] }
    else (.error (noContact row.contactId), s)

-- Labels of unknown messages have no effect.
def addLabels (n : Nat) : List MessageLabel → Store → Except StoreError Nat × Store
  | [], s => (.ok n, s)
  | row :: rows, s =>
    if s.hasMessage row.message then
      addLabels (if s.labels.contains row then n else n + 1) rows
        { s with labels := s.labels.insert row }
    else addLabels n rows s

-- Every write counts as a statement, save an update that names a contact twice.
def write (w : BulkWrite) (s : Store) : Except StoreError Nat × Store :=
  match w with
  | .updateNames rows => updateContacts Contact.setName rows s
  | .updateLanguages rows => updateContacts Contact.setLanguage rows s
  | .updateFields rows => updateContacts Contact.setFields rows s
  | .addMemberships rows => addMemberships 0 rows s.count
  | .removeMemberships rows => removeMemberships 0 rows s.count
  | .insertMessages rows => insertMessages 0 rows s.count
  | .addLabels rows => addLabels 0 rows s.count

end Store
end SessionBatch

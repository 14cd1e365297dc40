import SessionBatch.Effect.Payloads
import SessionBatch.Text.Quoted

namespace SessionBatch.Effect.Fields

def change? : Payload → Option (FieldRef × Option String)
  | .contactFieldChanged field value => some (field, value)
  | _ => none

-- A field may have been removed from the org since the session began; a change
-- to it is dropped.
def handler : Handler := fun assets event => do
  let session := (← get).subject
  match change? event.payload with
  | none => throw (.unexpectedPayload .contactFieldChanged event.type)
  | some (field, value) =>
    let place := "contact_uuid=" ++ session.contactUuid.text ++ " session_id=" ++
      session.id.text ++ " field=" ++ field.key
    if (assets.field? field.key).isNone then
      Work.note .warn ("ignoring change to unknown field " ++ place)
    else
      Work.note .debug ("changing contact field " ++ place ++ " value=" ++ Text.quotedOption value)
      modify fun s => { s with subject := s.subject.deferPre .commitFieldChanges event }

-- The changes of a contact's sessions in batch order; of several values for a
-- field the last counts.
def merged (taken : List (Session × List (FieldRef × Option String))) :
    Std.ExtTreeMap ContactId FieldChanges :=
  taken.foldl (fun contacts (session, changes) =>
    if changes.isEmpty then contacts
    else contacts.alter session.contactId fun known =>
      some (changes.foldl (fun values (field, value) => values.insert field.key value)
        (known.getD {}))) {}

def line (contacts rows : Nat) : String :=
  "commit_field_changes:done contacts=" ++ toString contacts ++ " rows=" ++ toString rows

def hook : HookAction := fun _ entries => do
  let taken ← Work.ofExcept (pickedOf .contactFieldChanged change? entries)
  writeRows (merged taken).toList .updateFields line

end SessionBatch.Effect.Fields

import SessionBatch.Effect.Payloads

namespace SessionBatch.Effect.Names

def name? : Payload → Option String
  | .contactNameChanged name => some name
  | _ => none

def handler : Handler := fun _ event => do
  let session := (← get).subject
  match name? event.payload with
  | none => throw (.unexpectedPayload .contactNameChanged event.type)
  | some name =>
    Work.note .debug <| "changing contact name contact_uuid=" ++ session.contactUuid.text ++
      " session_id=" ++ session.id.text ++ " name=" ++ name
    modify fun s => { s with subject := s.subject.deferPre .commitNameChanges event }

def line (contacts rows : Nat) : String :=
  "commit_name_changes:done contacts=" ++ toString contacts ++ " rows=" ++ toString rows

def hook : HookAction := fun _ entries => do
  let taken ← Work.ofExcept (pickedOf .contactNameChanged name? entries)
  writeRows (latest taken).toList .updateNames line

end SessionBatch.Effect.Names

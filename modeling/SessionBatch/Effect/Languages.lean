import SessionBatch.Effect.Payloads
import SessionBatch.Text.Quoted

namespace SessionBatch.Effect.Languages

def language? : Payload → Option String
  | .contactLanguageChanged language => some language
  | _ => none

def isCode (language : String) : Bool := language.isEmpty || language.length = 3

def handler : Handler := fun _ event => do
  let session := (← get).subject
  match language? event.payload with
  | none => throw (.unexpectedPayload .contactLanguageChanged event.type)
  | some language =>
    if isCode language then
      Work.note .debug <| "changing contact language contact_uuid=" ++ session.contactUuid.text ++
        " session_id=" ++ session.id.text ++ " language=" ++ language
      modify fun s => { s with subject := s.subject.deferPre .commitLanguageChanges event }
    else
      throw (.invalid ("language must be an ISO 639-3 code, got " ++ Text.quoted language))

def stored (language : String) : Option String :=
  if language.isEmpty then none else some language

def line (contacts rows : Nat) : String :=
  "commit_language_changes:done contacts=" ++ toString contacts ++ " rows=" ++ toString rows

def hook : HookAction := fun _ entries => do
  let taken ← Work.ofExcept (pickedOf .contactLanguageChanged language? entries)
  let rows := (latest taken).toList.map fun (contact, language) => (contact, stored language)
  writeRows rows .updateLanguages line

end SessionBatch.Effect.Languages

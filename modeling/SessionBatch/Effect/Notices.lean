import SessionBatch.Effect.Payloads

namespace SessionBatch.Effect.Notices

-- An error of the flow itself leaves nothing but a line in the log.
def handler : Handler := fun _ event => do
  let session := (← get).subject
  match event.payload with
  | .error text =>
    Work.note .warn <| "flow error event contact_uuid=" ++ session.contactUuid.text ++
      " session_id=" ++ session.id.text ++ " text=" ++ text
  | _ => throw (.unexpectedPayload .error event.type)

end SessionBatch.Effect.Notices

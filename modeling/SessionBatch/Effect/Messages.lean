import SessionBatch.Effect.Payloads

namespace SessionBatch.Effect.Messages

def message? : Payload → Option OutgoingMessage
  | .msgCreated message => some message
  | _ => none

def handler : Handler := fun _ event => do
  let session := (← get).subject
  match message? event.payload with
  | none => throw (.unexpectedPayload .msgCreated event.type)
  | some message =>
    if message.text.isEmpty then
      throw (.invalid ("msg " ++ message.uuid.text ++ " has no text"))
    else
      Work.note .debug <| "msg created contact_uuid=" ++ session.contactUuid.text ++
        " session_id=" ++ session.id.text ++ " msg_uuid=" ++ message.uuid.text ++ " text=" ++
        message.text
      modify fun s =>
        let session := s.subject.deferPre .commitMessages event
        { s with subject := session.deferPost .queueMessages event }

def stored (org : OrgId) (entry : SessionEvents) (messages : List OutgoingMessage) :
    List Message :=
  (entry.events.zip messages).map fun (event, message) =>
    { uuid := message.uuid, orgId := org, contactId := entry.session.contactId,
      urn := message.urn, text := message.text, createdOn := event.createdOn }

def insertedLine (_ rows : Nat) : String := "commit_messages:done inserted=" ++ toString rows

def commitHook : HookAction := fun assets entries => do
  let taken ← Work.ofExcept (pickedOf .msgCreated message? entries)
  let rows := (entries.zip taken).flatMap fun (entry, _, messages) =>
    stored assets.orgId entry messages
  writeRows rows .insertMessages insertedLine

def queued (session : Session) (message : OutgoingMessage) : QueuedMessage :=
  { uuid := message.uuid, contactId := session.contactId, contactUuid := session.contactUuid,
    urn := message.urn, text := message.text }

def queueHook : HookAction := fun assets entries => do
  let taken ← Work.ofExcept (pickedOf .msgCreated message? entries)
  let messages := taken.flatMap fun (session, messages) => messages.map (queued session)
  if messages.isEmpty then return
  else
    Work.push assets.orgId messages
    Work.note .debug <| "queue_messages:done org_id=" ++ assets.orgId.text ++ " queued=" ++
      toString messages.length

end SessionBatch.Effect.Messages

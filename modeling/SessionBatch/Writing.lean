import SessionBatch.Batch
import SessionBatch.Json.Value

namespace SessionBatch
open SessionBatch.Json

variable {kind : IdKind}

def Id.value (id : Id kind) : Value := .integer id.toInt
def Uuid.value (u : Uuid) : Value := .string u.text

def referenceValue (uuid : Uuid) (name : String) : Value :=
  .object [("uuid", uuid.value), ("name", .string name)]

def GroupRef.value (g : GroupRef) : Value := referenceValue g.uuid g.name
def LabelRef.value (l : LabelRef) : Value := referenceValue l.uuid l.name

def FieldRef.value (f : FieldRef) : Value :=
  .object [("key", .string f.key), ("name", .string f.name)]

def optionalText (s : Option String) : Value := Value.ofOption .string s

def OutgoingMessage.value (m : OutgoingMessage) : Value :=
  .object [("uuid", m.uuid.value), ("urn", optionalText m.urn), ("text", .string m.text)]

def Payload.members : Payload → List (String × Value)
  | contactNameChanged name => [("name", .string name)]
  | contactLanguageChanged language => [("language", .string language)]
  | contactFieldChanged field value => [("field", field.value), ("value", optionalText value)]
  | contactGroupsChanged added removed =>
    [("groups_added", .array (added.map GroupRef.value)),
      ("groups_removed", .array (removed.map GroupRef.value))]
  | msgCreated message => [("msg", message.value)]
  | inputLabelsAdded input labels =>
    [("input_uuid", input.value), ("labels", .array (labels.map LabelRef.value))]
  | error text => [("text", .string text)]

def EventType.value (t : EventType) : Value := .string t.name
def HookId.value (h : HookId) : Value := .string h.name

def Payload.value (p : Payload) : Value := .object (("type", p.type.value) :: p.members)

def Event.value (e : Event) : Value :=
  .object ([("uuid", e.uuid.value), ("created_on", .string e.createdOn.text),
    ("type", e.type.value)] ++ e.payload.members)

def Session.value (s : Session) : Value :=
  .object [("id", s.id.value), ("org_id", s.orgId.value), ("contact_id", s.contactId.value),
    ("contact_uuid", s.contactUuid.value), ("events", .array (s.events.map Event.value))]

def sessionsText (sessions : List Session) : String :=
  (Value.array (sessions.map Session.value)).text

def Outcome.value (o : Outcome) : Value :=
  .object [("sessions", .integer o.sessions), ("events_dispatched", .integer o.eventsDispatched),
    ("hooks_applied", .array (o.hooksApplied.map HookId.value)),
    ("post_commit_hooks_applied", .array (o.postCommitApplied.map HookId.value)),
    ("post_commit_failures",
      .array (o.postCommitFailures.map fun (id, message) => .array [id.value, .string message]))]

end SessionBatch

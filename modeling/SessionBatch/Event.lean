import SessionBatch.Uuid
import SessionBatch.Calendar.Timestamp

namespace SessionBatch

-- The order of the constructors is the order of the types.
inductive EventType where
  | contactNameChanged
  | contactLanguageChanged
  | contactFieldChanged
  | contactGroupsChanged
  | msgCreated
  | inputLabelsAdded
  | error
  deriving DecidableEq

namespace EventType

def all : List EventType :=
  [contactNameChanged, contactLanguageChanged, contactFieldChanged, contactGroupsChanged,
    msgCreated, inputLabelsAdded, error]

def name : EventType → String
  | contactNameChanged => "contact_name_changed"
  | contactLanguageChanged => "contact_language_changed"
  | contactFieldChanged => "contact_field_changed"
  | contactGroupsChanged => "contact_groups_changed"
  | msgCreated => "msg_created"
  | inputLabelsAdded => "input_labels_added"
  | error => "error"

def title : EventType → String
  | contactNameChanged => "ContactNameChanged"
  | contactLanguageChanged => "ContactLanguageChanged"
  | contactFieldChanged => "ContactFieldChanged"
  | contactGroupsChanged => "ContactGroupsChanged"
  | msgCreated => "MsgCreated"
  | inputLabelsAdded => "InputLabelsAdded"
  | error => "Error"

def ofName? (s : String) : Option EventType := all.find? (·.name = s)

theorem mem_all (t : EventType) : t ∈ all := by cases t <;> decide
theorem ofName?_name (t : EventType) : ofName? t.name = some t := by cases t <;> decide

end EventType

-- A group as an event names it; the org's assets decide whether it exists.
structure GroupRef where
  uuid : Uuid
  name : String
  deriving DecidableEq

structure LabelRef where
  uuid : Uuid
  name : String
  deriving DecidableEq

structure FieldRef where
  key : String
  name : String
  deriving DecidableEq

structure OutgoingMessage where
  uuid : Uuid
  urn : Option String
  text : String
  deriving DecidableEq

-- An empty language means none, an absent field value clears the field.
inductive Payload where
  | contactNameChanged (name : String)
  | contactLanguageChanged (language : String)
  | contactFieldChanged (field : FieldRef) (value : Option String)
  | contactGroupsChanged (added removed : List GroupRef)
  | msgCreated (message : OutgoingMessage)
  | inputLabelsAdded (input : Uuid) (labels : List LabelRef)
  | error (text : String)
  deriving DecidableEq

def Payload.type : Payload → EventType
  | contactNameChanged _ => .contactNameChanged
  | contactLanguageChanged _ => .contactLanguageChanged
  | contactFieldChanged _ _ => .contactFieldChanged
  | contactGroupsChanged _ _ => .contactGroupsChanged
  | msgCreated _ => .msgCreated
  | inputLabelsAdded _ _ => .inputLabelsAdded
  | error _ => .error

structure Event where
  uuid : Uuid
  createdOn : Calendar.Timestamp
  payload : Payload
  deriving DecidableEq

def Event.type (e : Event) : EventType := e.payload.type

end SessionBatch

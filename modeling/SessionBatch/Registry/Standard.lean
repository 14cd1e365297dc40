import SessionBatch.Effect.Fields
import SessionBatch.Effect.Groups
import SessionBatch.Effect.Labels
import SessionBatch.Effect.Languages
import SessionBatch.Effect.Messages
import SessionBatch.Effect.Names
import SessionBatch.Effect.Notices

namespace SessionBatch.Registry

def standardHandler : EventType → Handler
  | .contactNameChanged => Effect.Names.handler
  | .contactLanguageChanged => Effect.Languages.handler
  | .contactFieldChanged => Effect.Fields.handler
  | .contactGroupsChanged => Effect.Groups.handler
  | .msgCreated => Effect.Messages.handler
  | .inputLabelsAdded => Effect.Labels.handler
  | .error => Effect.Notices.handler

def standardHook : HookId → HookAction
  | .commitNameChanges => Effect.Names.hook
  | .commitLanguageChanges => Effect.Languages.hook
  | .commitFieldChanges => Effect.Fields.hook
  | .commitGroupChanges => Effect.Groups.hook
  | .commitMessages => Effect.Messages.commitHook
  | .queueMessages => Effect.Messages.queueHook

def hooksFor : EventType → List HookId
  | .contactNameChanged => [.commitNameChanges]
  | .contactLanguageChanged => [.commitLanguageChanges]
  | .contactFieldChanged => [.commitFieldChanges]
  | .contactGroupsChanged => [.commitGroupChanges]
  | .msgCreated => [.commitMessages, .queueMessages]
  | .inputLabelsAdded => []
  | .error => []

def entriesFor (type : EventType) : List Entry :=
  .handler type (standardHandler type) ::
    (hooksFor type).map fun id => .hook id (standardHook id)

def standardEntries : List Entry := EventType.all.flatMap entriesFor

def standard : Registry := (addAll standardEntries {}).2

theorem addAll_standardEntries : (addAll standardEntries {}).1.isOk = true := by decide

theorem handler?_standard (type : EventType) :
    standard.handler? type = some (standardHandler type) := by
  cases type <;> rfl

theorem hook?_standard (id : HookId) : standard.hook? id = some (standardHook id) := by
  cases id <;> rfl

theorem lookup_standard (type : EventType) :
    standard.lookup type = .ok (standardHandler type) := by
  unfold lookup
  rw [handler?_standard]

theorem lookupHook_standard (id : HookId) : standard.lookupHook id = .ok (standardHook id) := by
  unfold lookupHook
  rw [hook?_standard]

end SessionBatch.Registry

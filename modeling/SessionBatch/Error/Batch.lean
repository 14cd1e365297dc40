import SessionBatch.Error.Store
import SessionBatch.Event
import SessionBatch.Hook
import SessionBatch.Identity

namespace SessionBatch

inductive Phase where
  | collecting
  | dispatching
  | grouping
  | committing
  | committed
  | rolledBack
  deriving DecidableEq

def Phase.name : Phase → String
  | collecting => "collecting"
  | dispatching => "dispatching"
  | grouping => "grouping"
  | committing => "committing"
  | committed => "committed"
  | rolledBack => "rolled_back"

inductive EffectError where
  | unexpectedPayload (expected found : EventType)
  | invalid (detail : String)
  | store (error : StoreError)
  deriving DecidableEq

namespace EffectError

def message : EffectError → String
  | unexpectedPayload expected found =>
    "unexpected payload: expected " ++ expected.name ++ ", found " ++ found.name
  | invalid detail => "invalid event: " ++ detail
  | store error => error.message

def retryable : EffectError → Bool
  | store error => error.retryable
  | _ => false

end EffectError

inductive BatchError where
  | duplicateHandler (type : EventType)
  | duplicateHook (id : HookId)
  | missingHandler (type : EventType)
  | missingHook (id : HookId)
  | mixedOrgs (expected found : OrgId)
  | handler (type : EventType) (session : SessionId) (source : EffectError)
  | hook (id : HookId) (source : EffectError)
  | resource (error : StoreError)
  | cancelled (phase : Phase)
  deriving DecidableEq

namespace BatchError

def message : BatchError → String
  | duplicateHandler type => "handler already registered for event type " ++ type.name
  | duplicateHook id => "hook " ++ id.name ++ " already registered"
  | missingHandler type => "no handler registered for event type " ++ type.name
  | missingHook id => "no hook registered for " ++ id.name
  | mixedOrgs expected found =>
    "batch mixes sessions of org " ++ expected.text ++ " and org " ++ found.text
  | handler type session source =>
    "handler for " ++ type.name ++ " failed in session " ++ session.text ++ ": " ++ source.message
  | hook id source => "hook " ++ id.name ++ " failed: " ++ source.message
  | resource error => "resource error: " ++ error.message
  | cancelled phase => "batch cancelled during " ++ phase.name

def retryable : BatchError → Bool
  | handler _ _ source => source.retryable
  | hook _ source => source.retryable
  | resource error => error.retryable
  | _ => false

def causes : BatchError → List String
  | handler _ _ source => [source.message]
  | hook _ source => [source.message]
  | resource error => [error.message]
  | _ => []

end BatchError
end SessionBatch

import SessionBatch.Error.Backend
import SessionBatch.Identity
import SessionBatch.Log
import SessionBatch.Text.Integer

namespace SessionBatch

abbrev Environment := String → Option String

namespace Settings

def required (env : Environment) (key : String) : Except BackendError String :=
  match env key with
  | some value => .ok value
  | none => .error (.configuration (key ++ " no definido"))

-- What is no 32-bit number counts as absent.
def connections (env : Environment) (key : String) (default : Nat) : Nat :=
  ((env key).bind (Text.unsigned? (Nat.pow 2 32))).getD default

end Settings

structure DatabaseSettings where
  url : String
  least : Nat
  most : Nat
  deriving DecidableEq

def DatabaseSettings.ofEnvironment (env : Environment) : Except BackendError DatabaseSettings := do
  let url ← Settings.required env "DATABASE_URL"
  return { url, least := Settings.connections env "DATABASE_MIN_CONNECTIONS" 2,
           most := Settings.connections env "DATABASE_MAX_CONNECTIONS" 16 }

structure QueueSettings where
  url : String
  most : Nat
  stem : String
  deriving DecidableEq

def QueueSettings.ofEnvironment (env : Environment) : Except BackendError QueueSettings := do
  let url ← Settings.required env "REDIS_URL"
  return { url, most := Settings.connections env "REDIS_MAX_CONNECTIONS" 8,
           stem := (env "MSG_QUEUE_PREFIX").getD "msgs" }

def queueKey (stem : String) (org : OrgId) : String := stem ++ ":" ++ org.text

structure PoolBounds where
  least : Nat
  most : Nat
  one_le : 1 ≤ least
  le : least ≤ most

namespace PoolBounds

-- The bounds nearest to those asked for: at least one connection, and no more
-- kept than opened.
def fit (least most : Nat) : PoolBounds where
  least := min (max least 1) (max most 1)
  most := max most 1
  one_le := by omega
  le := by omega

def warning? (least most : Nat) : Option LogEntry :=
  let bounds := fit least most
  if bounds.least = max least 1 then none
  else some
    { level := .warn
      text := "build_pool:bounds DATABASE_MIN_CONNECTIONS=" ++ toString least ++
        " > DATABASE_MAX_CONNECTIONS=" ++ toString bounds.most ++ ", usando min=" ++
        toString bounds.least }

end PoolBounds
end SessionBatch

import SessionBatch.Error.Store
import SessionBatch.Text.LowerCase

namespace SessionBatch

inductive BackendError where
  | uniqueViolation (detail : String)
  | checkViolation (detail : String)
  | foreignKeyViolation (detail : String)
  | notFound
  | serializationConflict
  | transientIo (detail : String)
  | configuration (detail : String)
  | cache (detail : String)
  | unknown (detail : String)
  deriving DecidableEq

namespace BackendError

def message : BackendError → String
  | uniqueViolation detail => "unique violation: " ++ detail
  | checkViolation detail => "check violation: " ++ detail
  | foreignKeyViolation detail => "foreign key violation: " ++ detail
  | notFound => "not found"
  | serializationConflict => "serialization conflict (retryable)"
  | transientIo detail => "transient IO / connection pool error: " ++ detail
  | configuration detail => "configuration error: " ++ detail
  | cache detail => "cache error: " ++ detail
  | unknown detail => "unknown database error: " ++ detail

def transientPhrases : List String :=
  ["deadlock detected", "could not serialize access due to concurrent update",
    "terminating connection due to administrator command", "connection closed",
    "connection refused", "timeout"]

def retryable : BackendError → Bool
  | serializationConflict => true
  | transientIo _ => true
  | unknown detail => transientPhrases.any (Text.mentions detail)
  | _ => false

def toStore (e : BackendError) : StoreError :=
  match e with
  | uniqueViolation detail => .uniqueViolation detail
  | checkViolation detail => .checkViolation detail
  | foreignKeyViolation detail => .foreignKeyViolation detail
  | serializationConflict => .serializationConflict
  | transientIo detail => .unavailable detail
  | unknown detail => if e.retryable then .unavailable detail else .other e.message
  | _ => .other e.message

theorem toStore_retryable (e : BackendError) : e.toStore.retryable = e.retryable := by
  cases e with
  | unknown detail =>
    by_cases h : (unknown detail).retryable = true <;> simp [toStore, h, StoreError.retryable]
  | _ => rfl

end BackendError

inductive Rejection where
  | uniqueViolation
  | checkViolation
  | foreignKeyViolation
  | serializationFailure
  | closedConnection
  | other (name : String)
  deriving DecidableEq

def Rejection.ofName (name : String) : Rejection :=
  if name = "UniqueViolation" then uniqueViolation
  else if name = "CheckViolation" then checkViolation
  else if name = "ForeignKeyViolation" then foreignKeyViolation
  else if name = "SerializationFailure" then serializationFailure
  else if name = "ClosedConnection" then closedConnection
  else other name

-- What a query can fail with. What gets no treatment of its own comes with its
-- two texts: the one that shows how it is built, and the one to read.
inductive QueryError where
  | notFound
  | rejected (kind : Rejection) (detail : String)
  | undecodable (detail : String)
  | unencodable (detail : String)
  | unbuildable (detail : String)
  | nulByte (position : Nat)
  | alreadyInTransaction
  | notInTransaction
  | rollbackRequested
  | brokenTransactionManager
  | rollbackFailed (rollback commit : QueryError)
  | unhandled (shown detail : String)
  deriving DecidableEq

namespace QueryError

def negativeCount : QueryError :=
  .unhandled "IntegerConversion(TryFromIntError(NegOverflow))" "Internal integer conversion failed"

-- A text that holds a NUL cannot be passed on; its place is counted in bytes.
def nulByteIn (text : String) : QueryError :=
  .nulByte (((text.toList.takeWhile (· ≠ '\x00')).map Char.utf8Size).foldr (· + ·) 0)

def message : QueryError → String
  | notFound => "Record not found"
  | rejected _ detail => detail
  | undecodable detail => detail
  | unencodable detail => detail
  | unbuildable detail => detail
  | nulByte position => "nul byte found in provided data at position: " ++ toString position
  | alreadyInTransaction => "Cannot perform this operation while a transaction is open"
  | notInTransaction => "Cannot perform this operation outside of a transaction"
  | rollbackRequested => "You have asked diesel to rollback the transaction"
  | brokenTransactionManager => "The transaction manager is broken"
  | rollbackFailed rollback commit =>
    "Transaction rollback failed: " ++ rollback.message ++
      " (rollback attempted because of failure to commit: " ++ commit.message ++ ")"
  | unhandled _ detail => detail

def toBackend : QueryError → BackendError
  | notFound => .notFound
  | rejected kind detail =>
    match kind with
    | .uniqueViolation => .uniqueViolation detail
    | .checkViolation => .checkViolation detail
    | .foreignKeyViolation => .foreignKeyViolation detail
    | .serializationFailure => .serializationConflict
    | .closedConnection => .transientIo detail
    | .other name => .unknown ("db error kind " ++ name ++ ": " ++ detail)
  | undecodable detail => .unknown ("deser: " ++ detail)
  | unencodable detail => .unknown ("ser: " ++ detail)
  | unbuildable detail => .unknown ("query builder: " ++ detail)
  | nulByte position => .unknown ("invalid cstring: " ++ (nulByte position).message)
  | alreadyInTransaction => .unknown "already in transaction"
  | notInTransaction => .unknown "not in transaction"
  | rollbackRequested => .unknown "rollback transaction"
  | brokenTransactionManager => .transientIo "broken transaction manager"
  | rollbackFailed rollback commit =>
    .unknown ("rollback=" ++ rollback.message ++ "; commit=" ++ commit.message)
  | unhandled shown _ => .unknown ("unhandled diesel error: " ++ shown)

end QueryError

inductive CacheError where
  | transport (kind detail : String)
  | reply (kind summary : String) (detail : Option String)
  | extension (code detail : String)
  deriving DecidableEq

namespace CacheError

def message : CacheError → String
  | transport _ detail => detail
  | reply kind summary none => summary ++ "- " ++ kind
  | reply kind summary (some detail) => summary ++ " - " ++ kind ++ ": " ++ detail
  | extension code detail => code ++ ": " ++ detail

def isIo : CacheError → Bool
  | transport _ _ => true
  | reply kind _ _ => kind = "IoError"
  | extension _ _ => false

def isTimeout : CacheError → Bool
  | transport kind _ => kind = "TimedOut" || kind = "WouldBlock"
  | _ => false

def isConnectionDropped : CacheError → Bool
  | transport kind _ =>
    kind = "BrokenPipe" || kind = "ConnectionReset" || kind = "UnexpectedEof"
  | _ => false

def toBackend (e : CacheError) : BackendError :=
  if e.isIo || e.isConnectionDropped || e.isTimeout then .transientIo ("redis: " ++ e.message)
  else .cache e.message

end CacheError
end SessionBatch

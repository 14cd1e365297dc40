namespace SessionBatch

inductive StoreError where
  | uniqueViolation (detail : String)
  | foreignKeyViolation (detail : String)
  | checkViolation (detail : String)
  | serializationConflict
  | unavailable (detail : String)
  | other (detail : String)
  deriving DecidableEq

namespace StoreError

def message : StoreError → String
  | uniqueViolation detail => "unique violation: " ++ detail
  | foreignKeyViolation detail => "foreign key violation: " ++ detail
  | checkViolation detail => "check violation: " ++ detail
  | serializationConflict => "serialization conflict (retryable)"
  | unavailable detail => "store unavailable: " ++ detail
  | other detail => "store error: " ++ detail

-- A conflict between transactions and a lost connection pass; a whole batch may
-- be tried again after them.
def retryable : StoreError → Bool
  | serializationConflict => true
  | unavailable _ => true
  | _ => false

end StoreError
end SessionBatch

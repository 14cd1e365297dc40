import SessionBatch.Error.Backend
import SessionBatch.Error.Batch
import SessionBatch.Reading.Problem

namespace SessionBatch

inductive ServiceError where
  | backend (error : BackendError)
  | batch (error : BatchError)
  | io (detail : String)
  | batchFile (error : Reading.ReadError)
  deriving DecidableEq

namespace ServiceError

-- The message of a list of sessions that does not read, as far as the text
-- itself decides it.
def readMessage : Reading.ReadError → String
  | .unfit problem => problem.message
  | .ended => "EOF while parsing"
  | .malformed => "expected value"
  | .unreadable => "Is a directory (os error 21)"

def message : ServiceError → String
  | backend error => "Error de persistencia: " ++ error.message
  | batch error => "Batch fallido: " ++ error.message
  | io detail => "Error en IO: " ++ detail
  | batchFile error => "Batch inválido: " ++ readMessage error

def causes : ServiceError → List String
  | backend error => [error.message]
  | batch error => error.message :: error.causes
  | io detail => [detail]
  | batchFile _ => []

end ServiceError
end SessionBatch

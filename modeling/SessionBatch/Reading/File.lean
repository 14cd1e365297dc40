import SessionBatch.Error.Service
import SessionBatch.Reading.Sessions

namespace SessionBatch.Reading

inductive OpenFailure where
  | absent
  | forbidden
  | notDirectory
  | nameTooLong
  | looped
  deriving DecidableEq

namespace OpenFailure

def all : List OpenFailure := [absent, forbidden, notDirectory, nameTooLong, looped]

def code : OpenFailure → Nat
  | absent => 2
  | forbidden => 13
  | notDirectory => 20
  | nameTooLong => 36
  | looped => 40

def reason : OpenFailure → String
  | absent => "No such file or directory"
  | forbidden => "Permission denied"
  | notDirectory => "Not a directory"
  | nameTooLong => "File name too long"
  | looped => "Too many levels of symbolic links"

def message (f : OpenFailure) : String := f.reason ++ " (os error " ++ toString f.code ++ ")"

def ofCode? (code : Nat) : Option OpenFailure := all.find? (·.code = code)

theorem ofCode?_code (f : OpenFailure) : ofCode? f.code = some f := by cases f <;> decide

end OpenFailure

-- A directory can be opened, but not read.
inductive FileContent where
  | closed (why : OpenFailure)
  | directory
  | bytes (content : List UInt8)
  deriving DecidableEq

def sessionsOfText (text : String) : Except ServiceError (List Session) :=
  (readText text).mapError .batchFile

def sessionsOfFile : FileContent → Except ServiceError (List Session)
  | .closed why => .error (.io why.message)
  | .directory => .error (.batchFile .unreadable)
  | .bytes content => (readBytes content).mapError .batchFile

end SessionBatch.Reading

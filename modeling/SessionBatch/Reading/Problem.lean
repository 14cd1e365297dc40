import SessionBatch.Json.Value

namespace SessionBatch.Reading
open SessionBatch.Json

inductive Wanted where
  | integer
  | string
  | sequence
  | uuid
  | timestamp
  | record (name : String)
  | variant
  | variantIndex (count : Nat)
  | recordOf (name : String) (count : Nat)
  | elements (count : Nat)
  | nameOrMap
  | singleKey
  | unit
  deriving DecidableEq

def Wanted.text : Wanted → String
  | integer => "i64"
  | string => "a string"
  | sequence => "a sequence"
  | uuid => "a formatted UUID string"
  | timestamp => "an RFC 3339 formatted date and time string"
  | record name => "struct " ++ name
  | variant => "variant identifier"
  | variantIndex count => "variant index 0 <= i < " ++ toString count
  | recordOf name count => "struct " ++ name ++ " with " ++ toString count ++ " elements"
  | elements count => toString count ++ " elements in sequence"
  | nameOrMap => "string or map"
  | singleKey => "map with a single key"
  | unit => "unit"

inductive Problem where
  | missing (field : String)
  | duplicate (field : String)
  | wrongType (found : String) (wanted : Wanted)
  | wrongValue (found : String) (wanted : Wanted)
  | wrongLength (count : Nat) (wanted : Wanted)
  | unknownVariant (name : String) (known : List String)
  | badUuid
  | badTimestamp
  deriving DecidableEq

def backquoted (s : String) : String := "`" ++ s ++ "`"

def Problem.message : Problem → String
  | missing field => "missing field " ++ backquoted field
  | duplicate field => "duplicate field " ++ backquoted field
  | wrongType found wanted => "invalid type: " ++ found ++ ", expected " ++ wanted.text
  | wrongValue found wanted => "invalid value: " ++ found ++ ", expected " ++ wanted.text
  | wrongLength count wanted => "invalid length " ++ toString count ++ ", expected " ++ wanted.text
  | unknownVariant name known =>
    "unknown variant " ++ backquoted name ++ ", expected one of " ++
      ", ".intercalate (known.map backquoted)
  | badUuid => "UUID parsing failed"
  | badTimestamp => "invalid timestamp"

inductive ReadError where
  | ended
  | malformed
  | unfit (problem : Problem)
  | unreadable
  deriving DecidableEq

abbrev Reads (α : Type) := Except ReadError α

def whenRead : Fault → ReadError
  | .ended => .ended
  | .endedInNumber => .ended
  | .malformed => .malformed

def whenSkipped : Fault → ReadError
  | .ended => .ended
  | .endedInNumber => .malformed
  | .malformed => .malformed

def unlessFault (fault : Option Fault) : Reads Unit :=
  match fault with
  | none => .ok ()
  | some fault => .error (whenRead fault)

def wrong {α : Type} (v : Value) (wanted : Wanted) : Reads α := .error (.unfit (.wrongType v.described wanted))

end SessionBatch.Reading

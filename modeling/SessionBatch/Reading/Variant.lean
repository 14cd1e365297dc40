import SessionBatch.Reading.Problem

namespace SessionBatch.Reading
open SessionBatch.Json

variable {α : Type}

def namedVariant (known : List α) (name : α → String) (s : String) : Reads α :=
  match known.find? (name · = s) with
  | some a => .ok a
  | none => .error (.unfit (.unknownVariant s (known.map name)))

-- One of several names: a string, or an object whose only key is the name and
-- whose value is null.
def readVariant (known : List α) (name : α → String) : Value → Reads α
  | .string s => namedVariant known name s
  | .object [(key, content)] => do
    let a ← namedVariant known name key
    match content with
    | .null => return a
    | v => wrong v .unit
  | .object members => .error (.unfit (.wrongValue (Value.object members).described .singleKey))
  | v => wrong v .nameOrMap

end SessionBatch.Reading

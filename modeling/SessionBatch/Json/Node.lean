import SessionBatch.Json.Glyph

namespace SessionBatch.Json

-- Why a text cannot be read past some place: it ends too early, it ends inside
-- a number, or what stands there is no JSON. The second differs from the first
-- only where values are skipped: a number cut short is no number.
inductive Fault where
  | ended
  | endedInNumber
  | malformed
  deriving DecidableEq

inductive Piece where
  | plain (g : Glyph)
  | short (c : Char)
  | code (unit : Nat)
  deriving DecidableEq

-- Without a fault it was closed.
structure Quoted where
  pieces : List Piece
  fault : Option Fault
  deriving DecidableEq

-- Digits are most significant first; the flag of an exponent says whether it is negative.
structure Literal where
  negative : Bool
  whole : List Nat
  fraction : Option (List Nat)
  exponent : Option (Bool × List Nat)
  deriving DecidableEq

-- The tree of a JSON text as far as it can be read. Strings and numbers are
-- kept as written, so that what nobody looks at need not make sense. A fault
-- stands where the text stops and in every array, object or string around that
-- place; of what the text says before it nothing is lost.
inductive Node where
  | null
  | bool (value : Bool)
  | number (literal : Literal)
  | string (text : Quoted)
  | array (items : List Node) (fault : Option Fault)
  | object (members : List (Quoted × Node)) (fault : Option Fault)
  | broken (fault : Fault)

def Node.fault? : Node → Option Fault
  | .string text => text.fault
  | .array _ fault => fault
  | .object _ fault => fault
  | .broken fault => some fault
  | _ => none

structure Document where
  root : Node
  trailing : Bool

end SessionBatch.Json

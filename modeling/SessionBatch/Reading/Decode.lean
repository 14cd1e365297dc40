import SessionBatch.Reading.Problem

namespace SessionBatch.Reading
open SessionBatch.Json

def isHigh (unit : Nat) : Bool := 0xD800 ≤ unit && unit < 0xDC00
def isLow (unit : Nat) : Bool := 0xDC00 ≤ unit && unit < 0xE000

def paired (high low : Nat) : Char :=
  Char.ofNat (0x10000 + (high - 0xD800) * 0x400 + (low - 0xDC00))

-- Escaped surrogates have to come in pairs; a fault counts where the pieces end.
def pieceChars (fault : Option Fault) : List Piece → Reads (List Char)
  | [] => (unlessFault fault).map fun _ => []
  | .plain (.char c) :: rest => (pieceChars fault rest).map (c :: ·)
  | .plain (.stray _) :: rest => pieceChars fault rest
  | .short c :: rest => (pieceChars fault rest).map (c :: ·)
  | .code unit :: rest =>
    if isLow unit then .error .malformed
    else if isHigh unit then
      match rest with
      | [] => (unlessFault fault).bind fun _ => .error .malformed
      | .code low :: rest =>
        if isLow low then (pieceChars fault rest).map (paired unit low :: ·) else .error .malformed
      | _ :: _ => .error .malformed
    else (pieceChars fault rest).map (Char.ofNat unit :: ·)

def isStray : Piece → Bool
  | .plain (.stray _) => true
  | _ => false

def text (q : Quoted) : Reads String := do
  let cs ← pieceChars q.fault q.pieces
  if q.pieces.any isStray then .error .malformed else return String.ofList cs

-- At most `depth` arrays and objects are open inside one another. The first problem in the order
-- of the text is the one reported.
mutual

def value (depth : Nat) : Node → Reads Value
  | .null => .ok .null
  | .bool b => .ok (.bool b)
  | .number l =>
    match l.number? with
    | some n => .ok (.number n)
    | none => .error .malformed
  | .string q => (text q).map .string
  | .array items fault =>
    if depth = 0 then .error .malformed
    else do
      let vs ← values (depth - 1) items
      unlessFault fault
      return .array vs
  | .object members fault =>
    if depth = 0 then .error .malformed
    else do
      let ms ← memberValues (depth - 1) members
      unlessFault fault
      return .object ms
  | .broken fault => .error (whenRead fault)

def values (depth : Nat) : List Node → Reads (List Value)
  | [] => .ok []
  | item :: items => do
    let v ← value depth item
    let vs ← values depth items
    return v :: vs

def memberValues (depth : Nat) : List (Quoted × Node) → Reads (List (String × Value))
  | [] => .ok []
  | (key, item) :: members => do
    let k ← text key
    let v ← value depth item
    let ms ← memberValues depth members
    return (k, v) :: ms

end

-- As much of a value as is read before its type is found to be wrong: nothing
-- inside an array or an object.
def leaf : Node → Reads Value
  | .array _ _ => .ok (.array [])
  | .object _ _ => .ok (.object [])
  | node => value 0 node

end SessionBatch.Reading

import SessionBatch.Json.Node
import SessionBatch.Text.Digit

namespace SessionBatch.Json

def isSpace : Glyph → Bool
  | .char c => c = ' ' || c = '\t' || c = '\n' || c = '\r'
  | .stray _ => false

def skipSpace (text : List Glyph) : List Glyph := text.dropWhile isSpace

def digit? : Glyph → Option Nat
  | .char c => Text.digit? c
  | .stray _ => none

def isDigit (g : Glyph) : Bool := (digit? g).isSome

def digits (text : List Glyph) : List Nat × List Glyph :=
  ((text.takeWhile isDigit).filterMap digit?, text.dropWhile isDigit)

def noDigit : List Glyph → Fault
  | [] => .endedInNumber
  | _ => .malformed

def wholePart (text : List Glyph) : Except Fault (List Nat × List Glyph) :=
  match digits text with
  | ([], rest) => .error (noDigit rest)
  | (0 :: _ :: _, _) => .error .malformed
  | (ds, rest) => .ok (ds, rest)

def fractionPart : List Glyph → Except Fault (Option (List Nat) × List Glyph)
  | .char '.' :: rest =>
    match digits rest with
    | ([], rest) => .error (noDigit rest)
    | (ds, rest) => .ok (some ds, rest)
  | text => .ok (none, text)

def exponentSign : List Glyph → Bool × List Glyph
  | .char '-' :: rest => (true, rest)
  | .char '+' :: rest => (false, rest)
  | text => (false, text)

def exponentPart : List Glyph → Except Fault (Option (Bool × List Nat) × List Glyph)
  | .char c :: rest =>
    if c = 'e' ∨ c = 'E' then
      let (negative, rest) := exponentSign rest
      match digits rest with
      | ([], rest) => .error (noDigit rest)
      | (ds, rest) => .ok (some (negative, ds), rest)
    else .ok (none, .char c :: rest)
  | text => .ok (none, text)

def minusSign : List Glyph → Bool × List Glyph
  | .char '-' :: rest => (true, rest)
  | text => (false, text)

def number (text : List Glyph) : Except Fault (Literal × List Glyph) := do
  let (negative, text) := minusSign text
  let (whole, text) ← wholePart text
  let (fraction, text) ← fractionPart text
  let (exponent, text) ← exponentPart text
  return (⟨negative, whole, fraction, exponent⟩, text)

def hexDigit? : Glyph → Option Nat
  | .char c => Text.hexDigit? c
  | .stray _ => none

def shortEscape? : Char → Option Char
  | '"' => some '"'
  | '\\' => some '\\'
  | '/' => some '/'
  | 'b' => some '\x08'
  | 'f' => some '\x0c'
  | 'n' => some '\n'
  | 'r' => some '\r'
  | 't' => some '\t'
  | _ => none

-- Four bytes have to be there before any is looked at.
def fourDigits (text : List Glyph) : Except Fault Nat :=
  match text with
  | a :: b :: c :: d :: _ =>
    match hexDigit? a, hexDigit? b, hexDigit? c, hexDigit? d with
    | some a, some b, some c, some d => .ok (Text.ofDigits 16 [a, b, c, d])
    | _, _, _, _ => .error .malformed
  | text => .error (if (text.map Glyph.size).foldr (· + ·) 0 < 4 then .ended else .malformed)

def piece (g : Glyph) (rest : List Glyph) : Except Fault (Piece × Nat) :=
  match g, rest with
  | .char '\\', [] => .error .ended
  | .char '\\', .char 'u' :: rest => (fourDigits rest).map fun unit => (.code unit, 5)
  | .char '\\', .char c :: _ =>
    match shortEscape? c with
    | some value => .ok (.short value, 1)
    | none => .error .malformed
  | .char '\\', .stray _ :: _ => .error .malformed
  | .char c, _ => if c.toNat < 0x20 then .error .malformed else .ok (.plain (.char c), 0)
  | .stray b, _ => .ok (.plain (.stray b), 0)

def Quoted.cons (p : Piece) (q : Quoted) : Quoted := { q with pieces := p :: q.pieces }

def quotedAfter : Nat → List Glyph → Quoted × List Glyph
  | _, [] => (⟨[], some .ended⟩, [])
  | skip + 1, _ :: rest => quotedAfter skip rest
  | 0, g :: rest =>
    if g = .char '"' then (⟨[], none⟩, rest)
    else match piece g rest with
      | .error fault => (⟨[], some fault⟩, rest)
      | .ok (p, more) =>
        let (q, left) := quotedAfter more rest
        (q.cons p, left)

def quoted (text : List Glyph) : Quoted × List Glyph := quotedAfter 0 text

def word (value : Node) : List Char → List Glyph → Node × List Glyph
  | [], text => (value, text)
  | _ :: _, [] => (.broken .ended, [])
  | c :: cs, g :: rest => if g = .char c then word value cs rest else (.broken .malformed, rest)

-- An array has an item after each comma, broken or not. Reading stops at the first fault.
mutual

def scanValue : Nat → List Glyph → Node × List Glyph
  | 0, text => (.broken .malformed, text)
  | fuel + 1, text =>
    match skipSpace text with
    | [] => (.broken .ended, [])
    | .stray b :: rest => (.broken .malformed, .stray b :: rest)
    | .char c :: rest =>
      if c = '[' then
        match skipSpace rest with
        | [] => (.array [] (some .ended), [])
        | .char ']' :: rest => (.array [] none, rest)
        | rest =>
          let (items, fault, left) := scanItems fuel rest
          (.array items fault, left)
      else if c = '\x7b' then
        match skipSpace rest with
        | [] => (.object [] (some .ended), [])
        | .char '\x7d' :: rest => (.object [] none, rest)
        | rest =>
          let (members, fault, left) := scanMembers fuel rest
          (.object members fault, left)
      else if c = '"' then
        let (text, left) := quoted rest
        (.string text, left)
      else if c = 'n' then word .null ['u', 'l', 'l'] rest
      else if c = 't' then word (.bool true) ['r', 'u', 'e'] rest
      else if c = 'f' then word (.bool false) ['a', 'l', 's', 'e'] rest
      else if c = '-' ∨ isDigit (.char c) then
        match number (.char c :: rest) with
        | .ok (literal, left) => (.number literal, left)
        | .error fault => (.broken fault, rest)
      else (.broken .malformed, rest)

def scanItems : Nat → List Glyph → List Node × Option Fault × List Glyph
  | 0, text => ([], some .malformed, text)
  | fuel + 1, text =>
    let (item, rest) := scanValue fuel text
    match item.fault? with
    | some fault => ([item], some fault, rest)
    | none =>
      match skipSpace rest with
      | [] => ([item], some .ended, [])
      | .char ']' :: rest => ([item], none, rest)
      | .char ',' :: rest =>
        let (items, fault, left) := scanItems fuel rest
        (item :: items, fault, left)
      | rest => ([item], some .malformed, rest)

def scanMembers : Nat → List Glyph → List (Quoted × Node) × Option Fault × List Glyph
  | 0, text => ([], some .malformed, text)
  | fuel + 1, text =>
    match skipSpace text with
    | [] => ([], some .ended, [])
    | .char '"' :: rest =>
      let (key, rest) := quoted rest
      match key.fault with
      | some fault => ([(key, .broken fault)], some fault, rest)
      | none =>
        match skipSpace rest with
        | [] => ([(key, .broken .ended)], some .ended, [])
        | .char ':' :: rest =>
          let (value, rest) := scanValue fuel rest
          match value.fault? with
          | some fault => ([(key, value)], some fault, rest)
          | none =>
            match skipSpace rest with
            | [] => ([(key, value)], some .ended, [])
            | .char '\x7d' :: rest => ([(key, value)], none, rest)
            | .char ',' :: rest =>
              let (members, fault, left) := scanMembers fuel rest
              ((key, value) :: members, fault, left)
            | rest => ([(key, value)], some .malformed, rest)
        | rest => ([(key, .broken .malformed)], some .malformed, rest)
    | rest => ([], some .malformed, rest)

end

-- Enough for any text: two steps for a unit.
def fuelFor (text : List Glyph) : Nat := 2 * text.length + 2

def scan (text : List Glyph) : Document :=
  let (root, rest) := scanValue (fuelFor text) text
  ⟨root, !(skipSpace rest).isEmpty⟩

end SessionBatch.Json

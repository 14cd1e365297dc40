import SessionBatch.Calendar.Timestamp
import SessionBatch.Text.Blank
import SessionBatch.Text.Digit

namespace SessionBatch.Calendar
open SessionBatch.Text

abbrev Step (α : Type) := List Char → Option (α × List Char)

def takeDigits : Nat → List Char → List Nat × List Char
  | 0, cs => ([], cs)
  | _ + 1, [] => ([], [])
  | most + 1, c :: cs =>
    match digit? c with
    | none => ([], c :: cs)
    | some d =>
      let (ds, rest) := takeDigits most cs
      (d :: ds, rest)

def number (most : Nat) : Step Nat := fun cs =>
  match takeDigits most cs with
  | ([], _) => none
  | (ds, rest) => some (ofDigits 10 ds, rest)

def literal (c : Char) : Step Unit
  | [] => none
  | d :: cs => if d = c then some ((), cs) else none

-- At most four digits, more only after a sign.
def year : Step Int := fun cs =>
  match skipBlank cs with
  | '-' :: cs => (number cs.length cs).map fun (n, rest) => (-(n : Int), rest)
  | '+' :: cs => (number cs.length cs).map fun (n, rest) => ((n : Int), rest)
  | cs => (number 4 cs).map fun (n, rest) => ((n : Int), rest)

def part : Step Nat := fun cs => number 2 (skipBlank cs)

def separator (c : Char) : Step Unit := fun cs => literal c (skipBlank cs)

-- Nanoseconds after a point, none of it required; digits past the ninth are
-- dropped.
def fraction : Step Nat
  | '.' :: cs =>
    match takeDigits 9 cs with
    | ([], _) => none
    | (ds, rest) =>
      some (ofDigits 10 ds * Nat.pow 10 (9 - ds.length),
        rest.dropWhile fun c => (digit? c).isSome)
  | cs => some (0, cs)

-- The minus sign may be the hyphen or U+2212.
def sign : Step Int
  | c :: cs =>
    if c = '+' then some (1, cs)
    else if c = '-' ∨ c.toNat = 0x2212 then some (-1, cs)
    else none
  | [] => none

def twoDigits : Step Nat
  | a :: b :: cs =>
    match digit? a, digit? b with
    | some x, some y => some (10 * x + y, cs)
    | _, _ => none
  | _ => none

-- Minutes ahead of UTC: a letter Z, the word UTC, or hours and minutes with
-- colons or blanks between them.
def offset : Step Int := fun cs =>
  if (cs.take 3).map Char.toLower = ['u', 't', 'c'] then some (0, cs.drop 3)
  else match cs with
    | 'Z' :: cs => some (0, cs)
    | 'z' :: cs => some (0, cs)
    | cs => do
      let (sign, cs) ← sign cs
      let (hours, cs) ← twoDigits cs
      let (minutes, cs) ← twoDigits (cs.dropWhile fun c => c = ':' || isBlank c)
      if minutes < 60 ∧ hours < 24 then some (sign * (60 * hours + minutes), cs) else none

def dateTimeSeparator : Step Unit
  | c :: cs => if c = 'T' ∨ c = 't' ∨ c = ' ' then some ((), cs) else none
  | [] => none

def reading? (year : Int) (month day hour minute second nano : Nat) : Option Timestamp := do
  let date ← Date.of? year month day
  if inRange : hour < 24 ∧ minute < 60 ∧ second < 61 ∧ nano < 1000000000 then
    some ⟨date, ⟨hour, inRange.1⟩, ⟨minute, inRange.2.1⟩, ⟨second, inRange.2.2.1⟩,
      ⟨nano, inRange.2.2.2⟩⟩
  else none

-- RFC 3339 read leniently: a space or a letter T of either case stands between
-- date and time, and blanks are allowed before numbers and separators, before
-- the offset and at the end.
def Timestamp.ofChars? (cs : List Char) : Option Timestamp := do
  let (year, cs) ← year cs
  let ((), cs) ← separator '-' cs
  let (month, cs) ← part cs
  let ((), cs) ← separator '-' cs
  let (day, cs) ← part cs
  let ((), cs) ← dateTimeSeparator cs
  let (hour, cs) ← part cs
  let ((), cs) ← separator ':' cs
  let (minute, cs) ← part cs
  let ((), cs) ← separator ':' cs
  let (second, cs) ← part cs
  let (nano, cs) ← fraction cs
  let (offset, cs) ← offset (skipBlank cs)
  if skipBlank cs = [] then (← reading? year month day hour minute second nano).atOffset? offset
  else none

def Timestamp.ofText? (s : String) : Option Timestamp := Timestamp.ofChars? s.toList

end SessionBatch.Calendar

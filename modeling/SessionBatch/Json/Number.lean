import SessionBatch.Json.Node
import SessionBatch.Decimal.Shortest
import SessionBatch.Text.Digit

namespace SessionBatch.Json
open SessionBatch.Decimal

inductive Number where
  | integer (n : Int)
  | float (x : Signed)
  deriving DecidableEq

def significandBound : Nat := Nat.pow 2 64

def absorb (significand : Nat) : List Nat → Nat × List Nat
  | [] => (significand, [])
  | d :: ds =>
    if 10 * significand + d < significandBound then absorb (10 * significand + d) ds
    else (significand, d :: ds)

def greatestPower : Nat := 308

def power? (k : Nat) : Option Binary := Binary.nearest? (Nat.pow 10 k) 1

-- x · 10 ^ e with one rounding for each power of ten; none when too large.
-- Three divisions bring every significand to zero.
def scale? : Nat → Binary → Int → Option Binary
  | 0, _, _ => some .zero
  | steps + 1, x, e =>
    if e.natAbs ≤ greatestPower then
      (power? e.natAbs).bind fun p => if 0 ≤ e then x.mul? p else x.div? p
    else if x.mantissa = 0 then some x
    else if 0 ≤ e then none
    else (power? greatestPower).bind fun p => (x.div? p).bind fun y => scale? steps y (e + greatestPower)

def exponentValue : Option (Bool × List Nat) → Int
  | none => 0
  | some (negative, ds) => if negative then -(Text.ofDigits 10 ds : Int) else Text.ofDigits 10 ds

-- The number a literal stands for, none when it is out of range. Digits of the
-- whole part that do not fit count as powers of ten, those of the fraction are
-- dropped. Minus zero is no integer.
def Literal.number? (l : Literal) : Option Number :=
  let (whole, beyond) := absorb 0 l.whole
  let float (significand : Nat) (e : Int) : Option Number :=
    (Binary.nearest? significand 1).bind fun x => (scale? 4 x e).map fun m => .float ⟨l.negative, m⟩
  match l.fraction, l.exponent, beyond with
  | none, none, [] =>
    if l.negative then
      if whole = 0 ∨ Nat.pow 2 63 < whole then float whole 0 else some (.integer (-(whole : Int)))
    else some (.integer whole)
  | fraction, exponent, beyond =>
    let ds := fraction.getD []
    let (significand, dropped) := absorb whole ds
    let kept := ds.length - dropped.length
    float significand (beyond.length - kept + exponentValue exponent)

end SessionBatch.Json

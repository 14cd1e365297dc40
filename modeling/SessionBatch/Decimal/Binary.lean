namespace SessionBatch.Decimal

-- The magnitude mantissa · 2 ^ exponent of a finite binary64 number. Rounding
-- gives 53 significant bits, fewer only at the least exponent.
structure Binary where
  mantissa : Nat
  exponent : Int
  deriving DecidableEq

namespace Binary

def zero : Binary := ⟨0, -1074⟩

def leastExponent : Int := -1074
def greatestExponent : Int := 971

def scaled (num den : Nat) (e : Int) : Nat × Nat × Nat :=
  let n := if e < 0 then num * Nat.pow 2 e.natAbs else num
  let d := if e < 0 then den else den * Nat.pow 2 e.natAbs
  (n / d, n % d, d)

def exponentFor (num den : Nat) : Int :=
  let e := (Nat.log2 num : Int) - Nat.log2 den - 53
  let e := if Nat.pow 2 53 ≤ (scaled num den e).1 then e + 1 else e
  max e leastExponent

-- A tie goes to the even mantissa. None when it is too large.
def nearest? (num den : Nat) : Option Binary :=
  if num = 0 then some zero
  else
    let e := exponentFor num den
    let (q, r, d) := scaled num den e
    let q := if d < 2 * r ∨ (d = 2 * r ∧ q % 2 = 1) then q + 1 else q
    let rounded : Binary := if q = Nat.pow 2 53 then ⟨Nat.pow 2 52, e + 1⟩ else ⟨q, e⟩
    if greatestExponent < rounded.exponent then none else some rounded

def num (b : Binary) : Nat :=
  if b.exponent < 0 then b.mantissa else b.mantissa * Nat.pow 2 b.exponent.natAbs

def den (b : Binary) : Nat := if b.exponent < 0 then Nat.pow 2 b.exponent.natAbs else 1

def mul? (a b : Binary) : Option Binary := nearest? (a.num * b.num) (a.den * b.den)
def div? (a b : Binary) : Option Binary := nearest? (a.num * b.den) (a.den * b.num)

end Binary

structure Signed where
  negative : Bool
  magnitude : Binary
  deriving DecidableEq

end SessionBatch.Decimal

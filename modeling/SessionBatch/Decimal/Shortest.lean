import SessionBatch.Decimal.Binary

namespace SessionBatch.Decimal

structure Digits where
  digits : Nat
  exponent : Int
  deriving DecidableEq

-- The interval of reals that round to a number, over a common divisor: the
-- number itself, its lower and upper end, and whether the ends belong to it.
structure Rounding where
  value : Nat
  low : Nat
  high : Nat
  closed : Bool
  divisor : Nat

-- Below a power of two the numbers lie twice as close, save at the least
-- exponent.
def Binary.rounding (b : Binary) : Rounding :=
  let narrow := b.mantissa = Nat.pow 2 52 ∧ Binary.leastExponent < b.exponent
  let unit := if b.exponent < 2 then 1 else Nat.pow 2 (b.exponent - 2).natAbs
  { value := 4 * b.mantissa * unit
    low := (4 * b.mantissa - if narrow then 1 else 2) * unit
    high := (4 * b.mantissa + 2) * unit
    closed := b.mantissa % 2 = 0
    divisor := if b.exponent < 2 then Nat.pow 2 (b.exponent - 2).natAbs else 1 }

def Rounding.holds (r : Rounding) (num den : Nat) : Bool :=
  let x := num * r.divisor
  if r.closed then r.low * den ≤ x && x ≤ r.high * den else r.low * den < x && x < r.high * den

def powerNum (k : Int) : Nat := if k < 0 then 1 else Nat.pow 10 k.natAbs
def powerDen (k : Int) : Nat := if k < 0 then Nat.pow 10 k.natAbs else 1

-- The multiple of 10 ^ k that reads back and lies nearest. Only the two
-- neighbours of the value on that grid need be tried; a tie goes to the even one.
def onGrid? (r : Rounding) (k : Int) : Option Digits :=
  let below := r.value * powerDen k / (r.divisor * powerNum k)
  let reads (c : Nat) := r.holds (c * powerNum k) (powerDen k)
  let gapBelow := r.value * powerDen k - below * powerNum k * r.divisor
  let gapAbove := (below + 1) * powerNum k * r.divisor - r.value * powerDen k
  let pick := fun c => some (Digits.mk c k)
  match reads below, reads (below + 1) with
  | true, true =>
    if gapBelow < gapAbove ∨ (gapBelow = gapAbove ∧ below % 2 = 0) then pick below
    else pick (below + 1)
  | true, false => pick below
  | false, true => pick (below + 1)
  | false, false => none

def leadingPower (r : Rounding) : Nat → Int → Int
  | 0, k => k
  | steps + 1, k =>
    if powerNum k * r.divisor ≤ r.value * powerDen k then k else leadingPower r steps (k - 1)

def trimZeros : Nat → Digits → Digits
  | 0, d => d
  | steps + 1, d =>
    if d.digits % 10 = 0 ∧ d.digits ≠ 0 then trimZeros steps ⟨d.digits / 10, d.exponent + 1⟩ else d

-- The fewest digits that read back. Seventeen always do.
def Binary.shortest (b : Binary) : Digits :=
  if b.mantissa = 0 then ⟨0, 0⟩
  else
    let r := b.rounding
    let lead := leadingPower r 640 309
    let grids := (List.range 17).map fun (n : Nat) => lead - (n : Int)
    trimZeros 20 ((grids.findSome? (onGrid? r)).getD ⟨b.mantissa, 0⟩)

def leastPositional : Int := -5
def greatestPositional : Int := 15

def Digits.chars (d : Digits) : List Char :=
  let ds := Nat.toDigits 10 d.digits
  let lead := d.exponent + ds.length - 1
  if leastPositional ≤ lead ∧ lead ≤ greatestPositional then
    if 0 ≤ d.exponent then ds ++ List.replicate d.exponent.natAbs '0' ++ ['.', '0']
    else if 0 ≤ lead then
      ds.take (lead.natAbs + 1) ++ '.' :: ds.drop (lead.natAbs + 1)
    else ['0', '.'] ++ List.replicate (lead.natAbs - 1) '0' ++ ds
  else
    ds.take 1 ++ (if ds.length = 1 then [] else '.' :: ds.drop 1) ++
      'e' :: (if lead < 0 then '-' else '+') :: Nat.toDigits 10 lead.natAbs

def Signed.text (x : Signed) : String :=
  String.ofList ((if x.negative then ['-'] else []) ++ x.magnitude.shortest.chars)

end SessionBatch.Decimal

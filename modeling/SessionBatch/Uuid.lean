import SessionBatch.Text.Digit
import Std.Data.ExtTreeMap

namespace SessionBatch

-- Compared as an unsigned number, which is the order of the sixteen bytes.
structure Uuid where
  bits : BitVec 128
  deriving DecidableEq

namespace Uuid

instance : Ord Uuid := ⟨compareOn fun u => u.bits.toNat⟩
instance : Std.TransOrd Uuid :=
  inferInstanceAs (Std.TransCmp (compareOn fun u : Uuid => u.bits.toNat))
instance : Std.LawfulEqOrd Uuid where
  eq_of_compare {a b} same := by
    cases a
    cases b
    exact congrArg mk (BitVec.eq_of_toNat_eq (Std.LawfulEqOrd.eq_of_compare (α := Nat) same))

def digits (u : Uuid) : List Char :=
  (List.range 32).map fun i => (u.bits.toNat / Nat.pow 16 (31 - i) % 16).digitChar

def hyphenated (ds : List Char) : List Char :=
  ds.take 8 ++ '-' :: (ds.drop 8).take 4 ++ '-' :: (ds.drop 12).take 4 ++
    '-' :: (ds.drop 16).take 4 ++ '-' :: ds.drop 20

def text (u : Uuid) : String := String.ofList (hyphenated u.digits)

def ofDigits? (cs : List Char) : Option Uuid :=
  if cs.length = 32 then
    (cs.mapM Text.hexDigit?).map fun ds => ⟨BitVec.ofNat 128 (Text.ofDigits 16 ds)⟩
  else none

def ofHyphenated? (cs : List Char) : Option Uuid :=
  if cs[8]? = some '-' ∧ cs[13]? = some '-' ∧ cs[18]? = some '-' ∧ cs[23]? = some '-' then
    ofDigits? (cs.take 8 ++ (cs.drop 9).take 4 ++ (cs.drop 14).take 4 ++
      (cs.drop 19).take 4 ++ cs.drop 24)
  else none

-- The name space marker is read in any case.
def urn : List Char := "urn:uuid:".toList

-- Four written forms: the digits alone, hyphenated, hyphenated in braces, and
-- hyphenated after the name space marker. The length decides which is tried.
def ofChars? (cs : List Char) : Option Uuid :=
  match cs.length with
  | 32 => ofDigits? cs
  | 36 => ofHyphenated? cs
  | 38 =>
    if cs.head? = some '{' ∧ cs.getLast? = some '}' then ofHyphenated? cs.tail.dropLast else none
  | 45 =>
    if (cs.take 9).map Char.toLower = urn then ofHyphenated? (cs.drop 9) else none
  | _ => none

def ofText? (s : String) : Option Uuid := ofChars? s.toList

end Uuid
end SessionBatch

import Std.Data.ExtTreeMap

namespace SessionBatch

-- The kinds share one representation and are never mixed.
inductive IdKind where
  | session
  | contact
  | org
  | group
  | label
  deriving DecidableEq

structure Id (kind : IdKind) where
  val : Int64
  deriving DecidableEq

abbrev SessionId := Id .session
abbrev ContactId := Id .contact
abbrev OrgId := Id .org
abbrev GroupId := Id .group
abbrev LabelId := Id .label

variable {kind : IdKind}

instance : Ord (Id kind) := ⟨compareOn Id.val⟩
instance : Std.TransOrd (Id kind) := inferInstanceAs (Std.TransCmp (compareOn Id.val))
instance : Std.LawfulEqOrd (Id kind) where
  eq_of_compare {a b} same := by
    cases a
    cases b
    exact congrArg Id.mk (Std.LawfulEqOrd.eq_of_compare (α := Int64) same)

def Id.least : Int := -Int.pow 2 63
def Id.bound : Int := Int.pow 2 63

def Id.ofInt? (n : Int) : Option (Id kind) :=
  if Id.least ≤ n ∧ n < Id.bound then some ⟨Int64.ofInt n⟩ else none

def Id.toInt (id : Id kind) : Int := id.val.toInt

def Id.text (id : Id kind) : String := toString id.toInt

theorem Id.ofInt?_toInt (id : Id kind) : ofInt? id.toInt = some id := by
  have low : Id.least ≤ id.val.toInt := Int64.le_toInt id.val
  have high : id.val.toInt < Id.bound := Int64.toInt_lt id.val
  simp [Id.ofInt?, Id.toInt, low, high, Int64.ofInt_toInt]

theorem Id.toInt_of_ofInt? {n : Int} {id : Id kind} (read : ofInt? n = some id) : id.toInt = n := by
  unfold Id.ofInt? at read
  split at read
  case isTrue bounds =>
    cases read
    exact Int64.toInt_ofInt_of_le bounds.1 bounds.2
  case isFalse => cases read

end SessionBatch

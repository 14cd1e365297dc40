import SessionBatch.Text.Integer

namespace SessionBatch.Address

def isOctet (cs : List Char) : Bool :=
  (cs.head? ≠ some '0' || cs.length = 1) && (Text.digits? cs).any (· ≤ 255)

def isDotted (cs : List Char) : Bool :=
  let parts := cs.splitOn '.'
  parts.length = 4 && parts.all isOctet

def hexRun (cs : List Char) : List Char := (cs.take 4).takeWhile fun c => (Text.hexDigit? c).isSome

theorem length_drop_hexRun (c : Char) (cs rest : List Char)
    (left : (c :: cs).drop (hexRun (c :: cs)).length = ':' :: rest) : rest.length < cs.length + 1 := by
  have lengths := congrArg List.length left
  simp only [List.length_drop, List.length_cons] at lengths
  omega

-- The groups of a numeric address after `count` of them, of which there are
-- eight. Two colons stand once for one group or more; the last two groups may
-- have the dotted form.
def areGroups (count : Nat) (gap : Bool) : List Char → Bool
  | [] => gap || count = 8
  | c :: cs =>
    if 8 ≤ count then false
    else if c = ':' then !gap && areGroups (count + 1) true cs
    else
      match left : (c :: cs).drop (hexRun (c :: cs)).length with
      | [] => gap || count + 1 = 8
      | ':' :: rest =>
        have := length_drop_hexRun c cs rest left
        !rest.isEmpty && areGroups (count + 1) gap rest
      | '.' :: _ => count ≤ 6 && isDotted (c :: cs) && (gap || count + 2 = 8)
      | _ => false
  termination_by cs => cs.length

def isNumeric : List Char → Bool
  | ':' :: ':' :: cs => areGroups 1 true cs
  | ':' :: _ => false
  | cs => areGroups 0 false cs

def isForbidden (c : Char) : Bool := c.toNat = 0 || "\t\n\r #/:<>?@[\\]^|".toList.contains c

def isHost : List Char → Bool
  | '[' :: cs => cs.getLast? = some ']' && isNumeric cs.dropLast
  | cs => cs.all fun c => !isForbidden c

def hostLength (bracketed : Bool) : List Char → Nat
  | [] => 0
  | c :: cs =>
    if c = ':' ∧ !bracketed then 0
    else hostLength (c = '[' || (bracketed && c ≠ ']')) cs + 1

-- A port may be left out. What follows a backslash is none of it.
def isPort (cs : List Char) : Bool :=
  let ds := cs.takeWhile (· ≠ '\\')
  ds.isEmpty || (Text.digits? ds).any (· < Nat.pow 2 16)

end SessionBatch.Address

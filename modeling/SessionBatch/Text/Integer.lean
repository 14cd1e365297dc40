import SessionBatch.Text.Digit

namespace SessionBatch.Text

def digits? : List Char → Option Nat
  | [] => none
  | cs => (cs.mapM digit?).map (ofDigits 10)

def unsignedChars? : List Char → Option Nat
  | '+' :: cs => digits? cs
  | cs => digits? cs

def signedChars? : List Char → Option Int
  | '-' :: cs => (digits? cs).map fun n => -(n : Int)
  | cs => (unsignedChars? cs).map fun n => n

def unsigned? (bound : Nat) (s : String) : Option Nat :=
  (unsignedChars? s.toList).filter (· < bound)

def signed? (s : String) : Option Int := signedChars? s.toList

end SessionBatch.Text

import SessionBatch.Json.Scan

namespace SessionBatch.Json

-- The grammar of JSON texts. Each relation says what stands at the front of a text and what is left
-- of the text behind it.
inductive Blanks : List Char → List Char → Prop where
  | none (text : List Char) : Blanks text text
  | blank {c : Char} {text rest : List Char} (blank : c ∈ [' ', '\t', '\n', '\r'])
      (more : Blanks text rest) : Blanks (c :: text) rest

inductive Digits : List Nat → List Char → List Char → Prop where
  | last {c : Char} {d : Nat} (digit : Text.digit? c = some d) (rest : List Char) :
      Digits [d] (c :: rest) rest
  | more {c : Char} {d : Nat} {ds : List Nat} {text rest : List Char}
      (digit : Text.digit? c = some d) (others : Digits ds text rest) :
      Digits (d :: ds) (c :: text) rest

-- No whole part but zero starts with a zero.
inductive Whole : List Nat → List Char → List Char → Prop where
  | zero (rest : List Char) : Whole [0] ('0' :: rest) rest
  | digits {d : Nat} {ds : List Nat} {text rest : List Char} (nonzero : d ≠ 0)
      (digits : Digits (d :: ds) text rest) : Whole (d :: ds) text rest

inductive Fraction : Option (List Nat) → List Char → List Char → Prop where
  | absent (text : List Char) : Fraction none text text
  | digits {ds : List Nat} {text rest : List Char} (digits : Digits ds text rest) :
      Fraction (some ds) ('.' :: text) rest

inductive Minus : Bool → List Char → List Char → Prop where
  | minus (text : List Char) : Minus true ('-' :: text) text
  | absent (text : List Char) : Minus false text text

inductive Sign : Bool → List Char → List Char → Prop where
  | minus (text : List Char) : Sign true ('-' :: text) text
  | plus (text : List Char) : Sign false ('+' :: text) text
  | absent (text : List Char) : Sign false text text

inductive Exponent : Option (Bool × List Nat) → List Char → List Char → Prop where
  | absent (text : List Char) : Exponent none text text
  | digits {e : Char} {negative : Bool} {ds : List Nat} {text unsigned rest : List Char}
      (mark : e = 'e' ∨ e = 'E') (sign : Sign negative text unsigned)
      (digits : Digits ds unsigned rest) : Exponent (some (negative, ds)) (e :: text) rest

inductive Numeral : Literal → List Char → List Char → Prop where
  | parts {l : Literal} {text unsigned point mark rest : List Char}
      (minus : Minus l.negative text unsigned) (whole : Whole l.whole unsigned point)
      (fraction : Fraction l.fraction point mark) (exponent : Exponent l.exponent mark rest) :
      Numeral l text rest

-- A unit of a string: a character that needs no escape, a short escape, or four digits.
inductive Spelling : Piece → List Char → List Char → Prop where
  | plain {c : Char} (open_ : c ≠ '"') (unescaped : c ≠ '\\') (visible : 0x20 ≤ c.toNat)
      (rest : List Char) : Spelling (.plain (.char c)) (c :: rest) rest
  | short {e c : Char} (escape : shortEscape? e = some c) (rest : List Char) :
      Spelling (.short c) ('\\' :: e :: rest) rest
  | code {a b c d : Char} {w x y z : Nat} (first : Text.hexDigit? a = some w)
      (second : Text.hexDigit? b = some x) (third : Text.hexDigit? c = some y)
      (fourth : Text.hexDigit? d = some z) (rest : List Char) :
      Spelling (.code (Text.ofDigits 16 [w, x, y, z])) ('\\' :: 'u' :: a :: b :: c :: d :: rest) rest

inductive Spellings : List Piece → List Char → List Char → Prop where
  | close (rest : List Char) : Spellings [] ('"' :: rest) rest
  | piece {p : Piece} {ps : List Piece} {text others rest : List Char}
      (first : Spelling p text others) (more : Spellings ps others rest) :
      Spellings (p :: ps) text rest

-- What a text is made of: values, values with blanks around them, and what stands between the
-- brackets of an array or of an object that is not empty.
inductive Part where
  | value (node : Node)
  | spaced (node : Node)
  | items (nodes : List Node)
  | members (members : List (Quoted × Node))

inductive Front : Part → List Char → List Char → Prop where
  | null (rest : List Char) : Front (.value .null) ('n' :: 'u' :: 'l' :: 'l' :: rest) rest
  | yes (rest : List Char) : Front (.value (.bool true)) ('t' :: 'r' :: 'u' :: 'e' :: rest) rest
  | no (rest : List Char) :
      Front (.value (.bool false)) ('f' :: 'a' :: 'l' :: 's' :: 'e' :: rest) rest
  | number {l : Literal} {text rest : List Char} (numeral : Numeral l text rest) :
      Front (.value (.number l)) text rest
  | string {ps : List Piece} {text rest : List Char} (spellings : Spellings ps text rest) :
      Front (.value (.string ⟨ps, none⟩)) ('"' :: text) rest
  | emptyArray {text rest : List Char} (blanks : Blanks text (']' :: rest)) :
      Front (.value (.array [] none)) ('[' :: text) rest
  | array {nodes : List Node} {text rest : List Char}
      (items : Front (.items nodes) text (']' :: rest)) :
      Front (.value (.array nodes none)) ('[' :: text) rest
  | emptyObject {text rest : List Char} (blanks : Blanks text ('\x7d' :: rest)) :
      Front (.value (.object [] none)) ('\x7b' :: text) rest
  | object {ms : List (Quoted × Node)} {text rest : List Char}
      (members : Front (.members ms) text ('\x7d' :: rest)) :
      Front (.value (.object ms none)) ('\x7b' :: text) rest
  | spaced {node : Node} {text solid behind rest : List Char} (before : Blanks text solid)
      (value : Front (.value node) solid behind) (after : Blanks behind rest) :
      Front (.spaced node) text rest
  | lastItem {node : Node} {text rest : List Char} (item : Front (.spaced node) text rest) :
      Front (.items [node]) text rest
  | nextItem {node : Node} {nodes : List Node} {text others rest : List Char}
      (item : Front (.spaced node) text (',' :: others)) (more : Front (.items nodes) others rest) :
      Front (.items (node :: nodes)) text rest
  | lastMember {ps : List Piece} {node : Node} {text quoted behind content rest : List Char}
      (before : Blanks text ('"' :: quoted)) (key : Spellings ps quoted behind)
      (after : Blanks behind (':' :: content)) (value : Front (.spaced node) content rest) :
      Front (.members [(⟨ps, none⟩, node)]) text rest
  | nextMember {ps : List Piece} {node : Node} {ms : List (Quoted × Node)}
      {text quoted behind content others rest : List Char}
      (before : Blanks text ('"' :: quoted)) (key : Spellings ps quoted behind)
      (after : Blanks behind (':' :: content))
      (value : Front (.spaced node) content (',' :: others))
      (more : Front (.members ms) others rest) :
      Front (.members ((⟨ps, none⟩, node) :: ms)) text rest

def IsText (tree : Node) (text : String) : Prop := Front (.spaced tree) text.toList []

theorem Blanks.trans {text middle rest : List Char} (first : Blanks text middle)
    (second : Blanks middle rest) : Blanks text rest := by
  induction first with
  | none => exact second
  | blank c _ ih => exact .blank c (ih second)

theorem Blanks.length_le {text rest : List Char} (blanks : Blanks text rest) :
    rest.length ≤ text.length := by
  induction blanks with
  | none => exact Nat.le_refl _
  | blank _ _ ih => exact Nat.le_succ_of_le ih

section Lengths

variable {text rest : List Char}

theorem Digits.length_lt {ds : List Nat} (written : Digits ds text rest) :
    rest.length < text.length := by
  induction written with
  | last => exact Nat.lt_succ_self _
  | more _ _ ih => exact Nat.lt_succ_of_lt ih

theorem Whole.length_lt {ds : List Nat} (written : Whole ds text rest) :
    rest.length < text.length := by
  cases written with
  | zero => exact Nat.lt_succ_self _
  | digits _ written => exact written.length_lt

theorem Fraction.length_le {fraction : Option (List Nat)} (written : Fraction fraction text rest) :
    rest.length ≤ text.length := by
  cases written with
  | absent => exact Nat.le_refl _
  | digits written => exact Nat.le_succ_of_le (Nat.le_of_lt written.length_lt)

theorem Minus.length_le {negative : Bool} (minus : Minus negative text rest) :
    rest.length ≤ text.length := by
  cases minus with
  | minus => exact Nat.le_succ _
  | absent => exact Nat.le_refl _

theorem Sign.length_le {negative : Bool} (sign : Sign negative text rest) :
    rest.length ≤ text.length := by
  cases sign with
  | minus => exact Nat.le_succ _
  | plus => exact Nat.le_succ _
  | absent => exact Nat.le_refl _

theorem Exponent.length_le {exponent : Option (Bool × List Nat)}
    (written : Exponent exponent text rest) : rest.length ≤ text.length := by
  cases written with
  | absent => exact Nat.le_refl _
  | digits _ sign written =>
    have behind := written.length_lt
    have signed := sign.length_le
    simp only [List.length_cons]
    omega

theorem Numeral.length_lt {l : Literal} (numeral : Numeral l text rest) :
    rest.length < text.length := by
  cases numeral with
  | parts minus whole fraction exponent =>
    have signed := minus.length_le
    have point := whole.length_lt
    have mark := fraction.length_le
    have behind := exponent.length_le
    omega

theorem Spelling.length_lt {p : Piece} (spelling : Spelling p text rest) :
    rest.length < text.length := by
  cases spelling <;> simp only [List.length_cons] <;> omega

theorem Spellings.length_lt {ps : List Piece} (spellings : Spellings ps text rest) :
    rest.length < text.length := by
  induction spellings with
  | close => exact Nat.lt_succ_self _
  | piece first _ ih => exact Nat.lt_trans ih first.length_lt

theorem Front.length_lt {part : Part} (front : Front part text rest) :
    rest.length < text.length := by
  induction front with
  | null | yes | no => simp only [List.length_cons]; omega
  | number numeral => exact numeral.length_lt
  | string spellings => exact Nat.lt_succ_of_lt spellings.length_lt
  | emptyArray blanks | emptyObject blanks =>
    have inside := blanks.length_le
    simp only [List.length_cons] at inside ⊢
    omega
  | array _ ih | object _ ih =>
    simp only [List.length_cons] at ih ⊢
    omega
  | spaced before _ after ih =>
    calc _ ≤ _ := after.length_le
      _ < _ := ih
      _ ≤ _ := before.length_le
  | lastItem _ ih => exact ih
  | nextItem _ _ ih ih' =>
    simp only [List.length_cons] at ih
    omega
  | lastMember before key after _ ih =>
    have opened := before.length_le
    have named := key.length_lt
    have colon := after.length_le
    simp only [List.length_cons] at opened colon
    omega
  | nextMember before key after _ _ ih ih' =>
    have opened := before.length_le
    have named := key.length_lt
    have colon := after.length_le
    simp only [List.length_cons] at opened colon ih
    omega

end Lengths
end SessionBatch.Json

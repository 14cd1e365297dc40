import SessionBatch.Proofs.Grammar

namespace SessionBatch.Json

def Exactly (form : List Char → List Char → Prop) (front : List Char) : Prop :=
  ∀ rest, form (front ++ rest) rest

inductive Heading (ps : List Piece) : List Char → List Char → Prop where
  | key {text quoted behind content : List Char} (before : Blanks text ('"' :: quoted))
      (key : Spellings ps quoted behind) (after : Blanks behind (':' :: content)) :
      Heading ps text content

namespace Exactly

variable {before front others after : List Char} {node : Node} {nodes : List Node} {ps : List Piece}
  {m : Quoted × Node} {ms : List (Quoted × Node)}

theorem noBlanks : Exactly Blanks [] := .none

theorem blanks (first : Exactly Blanks before) (more : Exactly Blanks after) :
    Exactly Blanks (before ++ after) := by
  intro rest
  rw [List.append_assoc]
  exact (first _).trans (more rest)

theorem exponent {e : Char} {negative : Bool} {ds : List Nat} (mark : e = 'e' ∨ e = 'E')
    (sign : Exactly (Sign negative) before) (digits : Exactly (Digits ds) front) :
    Exactly (Exponent (some (negative, ds))) (e :: (before ++ front)) := by
  intro rest
  rw [List.cons_append, List.append_assoc]
  exact .digits mark (sign _) (digits rest)

theorem numeral {l : Literal} (minus : Exactly (Minus l.negative) before)
    (whole : Exactly (Whole l.whole) front) (fraction : Exactly (Fraction l.fraction) others)
    (exponent : Exactly (Exponent l.exponent) after) :
    Exactly (Numeral l) (before ++ (front ++ (others ++ after))) := by
  intro rest
  rw [List.append_assoc, List.append_assoc, List.append_assoc]
  exact .parts (minus _) (whole _) (fraction _) (exponent rest)

theorem spellings {p : Piece} (first : Exactly (Spelling p) front)
    (more : Exactly (Spellings ps) others) : Exactly (Spellings (p :: ps)) (front ++ others) := by
  intro rest
  rw [List.append_assoc]
  exact .piece (first _) (more rest)

theorem heading (blanks : Exactly Blanks before) (key : Exactly (Spellings ps) front)
    (colon : Exactly Blanks after) :
    Exactly (Heading ps) (before ++ '"' :: (front ++ (after ++ [':']))) := by
  intro rest
  rw [List.append_assoc, List.cons_append, List.append_assoc, List.append_assoc]
  exact .key (blanks _) (key _) (colon _)

theorem null : Exactly (Front (.value .null)) ['n', 'u', 'l', 'l'] := Front.null

theorem yes : Exactly (Front (.value (.bool true))) ['t', 'r', 'u', 'e'] := Front.yes

theorem no : Exactly (Front (.value (.bool false))) ['f', 'a', 'l', 's', 'e'] := Front.no

theorem number {l : Literal} (numeral : Exactly (Numeral l) front) :
    Exactly (Front (.value (.number l))) front :=
  fun rest => .number (numeral rest)

theorem string (spellings : Exactly (Spellings ps) front) :
    Exactly (Front (.value (.string ⟨ps, none⟩))) ('"' :: front) :=
  fun rest => .string (spellings rest)

theorem emptyArray (blanks : Exactly Blanks before) :
    Exactly (Front (.value (.array [] none))) ('[' :: (before ++ [']'])) := by
  intro rest
  rw [List.cons_append, List.append_assoc]
  exact .emptyArray (blanks _)

theorem array (items : Exactly (Front (.items nodes)) front) :
    Exactly (Front (.value (.array nodes none))) ('[' :: (front ++ [']'])) := by
  intro rest
  rw [List.cons_append, List.append_assoc]
  exact .array (items _)

theorem emptyObject (blanks : Exactly Blanks before) :
    Exactly (Front (.value (.object [] none))) ('\x7b' :: (before ++ ['\x7d'])) := by
  intro rest
  rw [List.cons_append, List.append_assoc]
  exact .emptyObject (blanks _)

theorem object (members : Exactly (Front (.members ms)) front) :
    Exactly (Front (.value (.object ms none))) ('\x7b' :: (front ++ ['\x7d'])) := by
  intro rest
  rw [List.cons_append, List.append_assoc]
  exact .object (members _)

theorem spaced (leading : Exactly Blanks before) (value : Exactly (Front (.value node)) front)
    (trailing : Exactly Blanks after) :
    Exactly (Front (.spaced node)) (before ++ (front ++ after)) := by
  intro rest
  rw [List.append_assoc, List.append_assoc]
  exact .spaced (leading _) (value _) (trailing rest)

theorem item (spaced : Exactly (Front (.spaced node)) front) :
    Exactly (Front (.items [node])) front :=
  fun rest => .lastItem (spaced rest)

theorem items (first : Exactly (Front (.items [node])) front)
    (more : Exactly (Front (.items nodes)) others) :
    Exactly (Front (.items (node :: nodes))) (front ++ ',' :: others) := by
  intro rest
  rw [List.append_assoc]
  cases first (',' :: (others ++ rest)) with
  | lastItem item => exact .nextItem item (more rest)
  | nextItem _ none => cases none

theorem member (heading : Exactly (Heading ps) front)
    (value : Exactly (Front (.spaced node)) others) :
    Exactly (Front (.members [(⟨ps, none⟩, node)])) (front ++ others) := by
  intro rest
  rw [List.append_assoc]
  cases heading (others ++ rest) with
  | key before key after => exact .lastMember before key after (value rest)

theorem members (first : Exactly (Front (.members [m])) front)
    (more : Exactly (Front (.members ms)) others) :
    Exactly (Front (.members (m :: ms))) (front ++ ',' :: others) := by
  intro rest
  rw [List.append_assoc]
  cases first (',' :: (others ++ rest)) with
  | lastMember before key after value => exact .nextMember before key after value (more rest)
  | nextMember _ _ _ _ none => cases none

end Exactly
end SessionBatch.Json

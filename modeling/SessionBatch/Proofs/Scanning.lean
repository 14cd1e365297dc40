import SessionBatch.Proofs.Digits
import SessionBatch.Identity
import SessionBatch.Json.Scan
import SessionBatch.Json.Value

namespace SessionBatch.Json

def charPiece (c : Char) : Piece :=
  match c with
  | '"' | '\\' | '\x08' | '\x0c' | '\n' | '\r' | '\t' => .short c
  | c => if c.toNat < 0x20 then .code c.toNat else .plain (.char c)

def spelled (s : String) : Quoted := ⟨s.toList.map charPiece, none⟩

@[simp] theorem spelled_fault (s : String) : (spelled s).fault = none := rfl

theorem fourDigits_fourHex {n : Nat} (small : n < 0x10000) (text : List Glyph) :
    fourDigits ((fourHex n).map .char ++ text) = .ok n := by
  have value : Text.ofDigits 16 [n / 4096 % 16, n / 256 % 16, n / 16 % 16, n % 16] = n := by
    simp only [Text.ofDigits, List.foldl_cons, List.foldl_nil]
    omega
  simp [fourDigits, fourHex, hexDigit?, Text.hexDigit?_digitChar, Nat.mod_lt, value]

theorem piece_plain {c : Char} (unescaped : c ≠ '\\') (visible : ¬ c.toNat < 0x20)
    (text : List Glyph) : piece (.char c) text = .ok (.plain (.char c), 0) := by
  unfold piece
  split <;> simp_all

theorem quotedAfter_escaped (c : Char) (text : List Glyph) :
    quotedAfter 0 ((escaped c).map .char ++ text) =
      ((quotedAfter 0 text).1.cons (charPiece c), (quotedAfter 0 text).2) := by
  unfold escaped
  split
  case h_8 quote backslash _ _ _ _ _ =>
    have alone : charPiece c = if c.toNat < 0x20 then .code c.toNat else .plain (.char c) := by
      unfold charPiece
      split <;> simp_all
    rw [alone]
    split
    case isTrue control =>
      have code := fourDigits_fourHex (n := c.toNat) (by omega) text
      simp only [List.map_cons, List.cons_append, quotedAfter, piece, code, Except.map]
      simp [fourHex, quotedAfter]
    case isFalse visible =>
      have plain := piece_plain backslash visible text
      have inside : Glyph.char c ≠ .char '"' := by simpa using quote
      simp [quotedAfter, inside, plain]
  all_goals simp [quotedAfter, piece, shortEscape?, charPiece]

@[simp] theorem quoted_escaped (s : String) (text : List Glyph) :
    quoted ((s.toList.flatMap escaped).map .char ++ .char '"' :: text) = (spelled s, text) := by
  unfold quoted spelled
  induction s.toList with
  | nil => simp [quotedAfter]
  | cons c cs ih =>
    rw [List.flatMap_cons, List.map_append, List.append_assoc, quotedAfter_escaped, ih]
    rfl

def Ends : List Glyph → Prop
  | [] => True
  | g :: _ => g = .char ',' ∨ g = .char ']' ∨ g = .char '\x7d'

theorem digits_written {ds : List Nat} (small : ∀ d ∈ ds, d < 10) {rest : List Glyph}
    (ends : Ends rest) : digits (ds.map (Glyph.char ·.digitChar) ++ rest) = (ds, rest) := by
  induction ds with
  | nil =>
    cases rest with
    | nil => rfl
    | cons g rest => rcases ends with rfl | rfl | rfl <;> rfl
  | cons d ds ih =>
    have read := Text.digit?_digitChar d (small d (by simp))
    have others := ih fun e member => small e (by simp [member])
    simp only [digits, Prod.mk.injEq] at others
    simp [digits, isDigit, digit?, read, others.1, others.2]

theorem wholePart_decimals (n : Nat) {rest : List Glyph} (ends : Ends rest) :
    wholePart ((Text.decimals n).map (Glyph.char ·.digitChar) ++ rest) =
      .ok (Text.decimals n, rest) := by
  unfold wholePart
  rw [digits_written (fun d => Text.lt_ten_of_mem_decimals) ends]
  split
  case h_1 none => exact absurd (Prod.mk.inj none).1 (Text.decimals_ne_nil n)
  case h_2 zero => exact absurd (Prod.mk.inj zero).1 (Text.decimals_ne_zero_cons n _ _)
  case h_3 same => cases same; rfl

theorem fractionPart_ends {rest : List Glyph} (ends : Ends rest) :
    fractionPart rest = .ok (none, rest) := by
  cases rest with
  | nil => rfl
  | cons g rest => rcases ends with rfl | rfl | rfl <;> rfl

theorem exponentPart_ends {rest : List Glyph} (ends : Ends rest) :
    exponentPart rest = .ok (none, rest) := by
  cases rest with
  | nil => rfl
  | cons g rest => rcases ends with rfl | rfl | rfl <;> rfl

theorem toList_toString (n : Int) :
    (toString n).toList =
      (if n < 0 then ['-'] else []) ++ (Text.decimals n.natAbs).map Nat.digitChar := by
  rw [Int.toString_eq_repr, Int.repr_eq_if, ← Text.toDigits_ten]
  by_cases negative : n < 0
  · have size : (-n).toNat = n.natAbs := by omega
    simp [negative, Int.not_le.mpr negative, size, Nat.toList_repr]
  · have size : n.toNat = n.natAbs := by omega
    simp [negative, Int.not_lt.mp negative, size, Nat.toList_repr]

def literalOf (n : Int) : Literal := ⟨decide (n < 0), Text.decimals n.natAbs, none, none⟩

theorem minusSign_digits (n : Nat) (rest : List Glyph) :
    minusSign ((Text.decimals n).map (Glyph.char ·.digitChar) ++ rest) =
      (false, (Text.decimals n).map (Glyph.char ·.digitChar) ++ rest) := by
  cases front : Text.decimals n with
  | nil => exact absurd front (Text.decimals_ne_nil n)
  | cons d ds =>
    have small : d < 10 := Text.lt_ten_of_mem_decimals (n := n) (by simp [front])
    have unsigned : ∀ d < 10, d.digitChar ≠ '-' := by decide
    unfold minusSign
    split
    case h_1 same =>
      simp only [List.map_cons, List.cons_append, List.cons.injEq, Glyph.char.injEq] at same
      exact absurd same.1 (unsigned d small)
    case h_2 => rfl

theorem number_toString (n : Int) {rest : List Glyph} (ends : Ends rest) :
    number ((toString n).toList.map .char ++ rest) = .ok (literalOf n, rest) := by
  have signed : minusSign ((toString n).toList.map .char ++ rest) =
      (decide (n < 0), (Text.decimals n.natAbs).map (Glyph.char ·.digitChar) ++ rest) := by
    rw [toList_toString]
    by_cases negative : n < 0
    · simp [negative, minusSign, Function.comp_def]
    · simpa [negative, Function.comp_def] using minusSign_digits n.natAbs rest
  unfold number
  rw [signed]
  simp only [wholePart_decimals _ ends, fractionPart_ends ends, exponentPart_ends ends, bind,
    Except.bind, pure, Except.pure, literalOf]

def Number.node (n : Number) : Node := (scanValue 1 (glyphs n.text)).1

mutual

def Value.node : Value → Node
  | .null => .null
  | .bool b => .bool b
  | .number n => n.node
  | .string s => .string (spelled s)
  | .array vs => .array (itemNodes vs) none
  | .object ms => .object (memberNodes ms) none

def itemNodes : List Value → List Node
  | [] => []
  | v :: vs => v.node :: itemNodes vs

def memberNodes : List (String × Value) → List (Quoted × Node)
  | [] => []
  | (k, v) :: ms => (spelled k, v.node) :: memberNodes ms

end

theorem itemNodes_eq (vs : List Value) : itemNodes vs = vs.map Value.node := by
  induction vs with
  | nil => rfl
  | cons v vs ih => simp [itemNodes, ih]

-- Values with at most `d` arrays and objects inside one another, and with
-- signed integers of 64 bits for numbers.
inductive Value.Within : Nat → Value → Prop
  | null {d : Nat} : Within d .null
  | bool {d : Nat} (b : Bool) : Within d (.bool b)
  | integer {d : Nat} {n : Int} (low : Id.least ≤ n) (high : n < Id.bound) :
    Within d (.integer n)
  | string {d : Nat} (s : String) : Within d (.string s)
  | array {d : Nat} {vs : List Value} (items : ∀ v ∈ vs, Within d v) : Within (d + 1) (.array vs)
  | object {d : Nat} {ms : List (String × Value)} (members : ∀ m ∈ ms, Within d m.2) :
    Within (d + 1) (.object ms)

def Numeric (c : Char) : Prop := c = '-' ∨ isDigit (.char c) = true

instance (c : Char) : Decidable (Numeric c) := inferInstanceAs (Decidable (_ ∨ _))

theorem toString_front (n : Int) : ∃ c cs, (toString n).toList = c :: cs ∧ Numeric c := by
  rw [toList_toString]
  by_cases negative : n < 0
  · exact ⟨'-', (Text.decimals n.natAbs).map Nat.digitChar, by simp [negative], .inl rfl⟩
  · cases digits : Text.decimals n.natAbs with
    | nil => exact absurd digits (Text.decimals_ne_nil _)
    | cons d ds =>
      have small : d < 10 := Text.lt_ten_of_mem_decimals (n := n.natAbs) (by simp [digits])
      have digit : isDigit (.char d.digitChar) = true := by
        simp [isDigit, digit?, Text.digit?_digitChar d small]
      exact ⟨d.digitChar, ds.map Nat.digitChar, by simp [negative], .inr digit⟩

theorem Numeric.ne {c d : Char} (numeric : Numeric c) (other : ¬ Numeric d) : c ≠ d :=
  fun same => other (same ▸ numeric)

theorem Numeric.solid {c : Char} (numeric : Numeric c) : isSpace (.char c) = false := by
  simp [isSpace, numeric.ne (d := ' ') (by decide), numeric.ne (d := '\t') (by decide),
    numeric.ne (d := '\n') (by decide), numeric.ne (d := '\r') (by decide)]

theorem scanValue_integer (fuel : Nat) (n : Int) {rest : List Glyph} (ends : Ends rest) :
    scanValue (fuel + 1) ((toString n).toList.map .char ++ rest) =
      (.number (literalOf n), rest) := by
  have whole := number_toString n ends
  obtain ⟨c, cs, front, numeric⟩ := toString_front n
  have apart := fun d => numeric.ne (d := d)
  have solid := numeric.solid
  unfold Numeric at numeric
  rw [front] at whole ⊢
  simp only [List.map_cons, List.cons_append] at whole ⊢
  simp only [scanValue, skipSpace, List.dropWhile_cons, solid, apart '[' (by decide),
    apart '\x7b' (by decide), apart '"' (by decide), apart 'n' (by decide), apart 't' (by decide),
    apart 'f' (by decide), numeric, whole, Bool.false_eq_true, if_false, if_true]

@[simp] theorem node_integer (n : Int) : (Number.integer n).node = .number (literalOf n) := by
  have nothing : Ends [] := trivial
  have whole := scanValue_integer 0 n nothing
  rw [List.append_nil] at whole
  unfold Number.node glyphs
  rw [Number.text, whole]

theorem Value.Within.fault {d : Nat} {v : Value} (within : v.Within d) :
    v.node.fault? = none := by
  cases within with
  | integer => simp [Value.integer, Value.node, Node.fault?]
  | _ => rfl

theorem Value.Within.front {d : Nat} {v : Value} (within : v.Within d) :
    ∃ c cs, v.chars = c :: cs ∧ isSpace (.char c) = false ∧ c ≠ ']' := by
  cases within with
  | null => exact ⟨'n', _, rfl, by decide, by decide⟩
  | bool b => cases b <;> exact ⟨_, _, rfl, by decide, by decide⟩
  | integer =>
    obtain ⟨c, cs, front, numeric⟩ := toString_front _
    exact ⟨c, cs, front, numeric.solid, numeric.ne (by decide)⟩
  | string s => exact ⟨'"', _, rfl, by decide, by decide⟩
  | @array _ vs => cases vs <;> exact ⟨'[', _, rfl, by decide, by decide⟩
  | @object _ ms =>
    cases ms with
    | nil => exact ⟨'\x7b', _, rfl, by decide, by decide⟩
    | cons m ms => exact ⟨'\x7b', _, rfl, by decide, by decide⟩

theorem Value.Within.some_step {d : Nat} {v : Value} (within : v.Within d) {fuel : Nat}
    (enough : v.chars.length ≤ fuel) : ∃ less, fuel = less + 1 := by
  obtain ⟨c, cs, front, -⟩ := within.front
  simp only [front, List.length_cons] at enough
  exact ⟨fuel - 1, by omega⟩

def Value.Scans (v : Value) : Prop :=
  ∀ (fuel : Nat) (rest : List Glyph), v.chars.length ≤ fuel → Ends rest →
    scanValue fuel (v.chars.map .char ++ rest) = (v.node, rest)

theorem scanItems_last {d : Nat} {v : Value} (within : v.Within d) (scans : v.Scans) {fuel : Nat}
    (enough : v.chars.length ≤ fuel) (text : List Glyph) :
    scanItems (fuel + 1) (v.chars.map .char ++ .char ']' :: text) = ([v.node], none, text) := by
  have item := scans fuel (.char ']' :: text) enough (.inr (.inl rfl))
  simp [scanItems, item, within.fault, skipSpace, isSpace]

theorem scanItems_next {d : Nat} {v : Value} (within : v.Within d) (scans : v.Scans) {fuel : Nat}
    (enough : v.chars.length ≤ fuel) (text : List Glyph) :
    scanItems (fuel + 1) (v.chars.map .char ++ .char ',' :: text) =
      (v.node :: (scanItems fuel text).1, (scanItems fuel text).2) := by
  have item := scans fuel (.char ',' :: text) enough (.inl rfl)
  simp [scanItems, item, within.fault, skipSpace, isSpace]

theorem scanItems_chars {d : Nat} {v : Value} {vs : List Value}
    (known : ∀ w ∈ v :: vs, w.Within d ∧ w.Scans) (fuel : Nat)
    (enough : v.chars.length + (itemChars vs).length ≤ fuel) (rest : List Glyph) :
    scanItems fuel ((v.chars ++ itemChars vs).map .char ++ rest) =
      (itemNodes (v :: vs), none, rest) := by
  obtain ⟨within, scans⟩ := known v (by simp)
  induction vs generalizing v fuel with
  | nil =>
    simp only [itemChars, List.length_singleton] at enough
    obtain ⟨fuel, rfl⟩ : ∃ less, fuel = less + 1 := ⟨fuel - 1, by omega⟩
    have last := scanItems_last within scans (Nat.le_of_add_le_add_right enough) rest
    simpa [itemChars, itemNodes] using last
  | cons w ws ih =>
    simp only [itemChars, List.cons_append, List.length_cons, List.length_append] at enough
    obtain ⟨fuel, rfl⟩ : ∃ less, fuel = less + 1 := ⟨fuel - 1, by omega⟩
    have others := ih (v := w) (fun u member => known u (List.mem_cons_of_mem v member)) fuel
      (by omega) (known w (by simp)).1 (known w (by simp)).2
    have fits : v.chars.length ≤ fuel := by omega
    have next := scanItems_next within scans fits
      ((w.chars ++ itemChars ws).map .char ++ rest)
    rw [others] at next
    simpa [itemChars, itemNodes] using next

theorem scanMembers_last {d : Nat} {v : Value} (within : v.Within d) (scans : v.Scans) {fuel : Nat}
    (enough : v.chars.length ≤ fuel) (k : String) (text : List Glyph) :
    scanMembers (fuel + 1)
        ((stringChars k).map .char ++ .char ':' :: (v.chars.map .char ++ .char '\x7d' :: text)) =
      ([(spelled k, v.node)], none, text) := by
  have value := scans fuel (.char '\x7d' :: text) enough (.inr (.inr rfl))
  simp [stringChars, scanMembers, skipSpace, isSpace, value, within.fault]

theorem scanMembers_next {d : Nat} {v : Value} (within : v.Within d) (scans : v.Scans) {fuel : Nat}
    (enough : v.chars.length ≤ fuel) (k : String) (text : List Glyph) :
    scanMembers (fuel + 1)
        ((stringChars k).map .char ++ .char ':' :: (v.chars.map .char ++ .char ',' :: text)) =
      ((spelled k, v.node) :: (scanMembers fuel text).1, (scanMembers fuel text).2) := by
  have value := scans fuel (.char ',' :: text) enough (.inl rfl)
  simp [stringChars, scanMembers, skipSpace, isSpace, value, within.fault]

theorem scanMembers_chars {d : Nat} {k : String} {v : Value} {ms : List (String × Value)}
    (known : ∀ m ∈ (k, v) :: ms, m.2.Within d ∧ m.2.Scans) (fuel : Nat)
    (enough : v.chars.length + (memberChars ms).length ≤ fuel) (rest : List Glyph) :
    scanMembers fuel ((stringChars k ++ ':' :: v.chars ++ memberChars ms).map .char ++ rest) =
      (memberNodes ((k, v) :: ms), none, rest) := by
  obtain ⟨within, scans⟩ := known (k, v) (by simp)
  induction ms generalizing k v fuel with
  | nil =>
    simp only [memberChars, List.length_singleton] at enough
    obtain ⟨fuel, rfl⟩ : ∃ less, fuel = less + 1 := ⟨fuel - 1, by omega⟩
    have last := scanMembers_last within scans (Nat.le_of_add_le_add_right enough) k rest
    simpa [memberChars, memberNodes] using last
  | cons m ms ih =>
    obtain ⟨l, w⟩ := m
    simp only [memberChars, List.cons_append, List.append_assoc, List.length_cons,
      List.length_append] at enough
    obtain ⟨fuel, rfl⟩ : ∃ less, fuel = less + 1 := ⟨fuel - 1, by omega⟩
    have others := ih (fun n member => known n (List.mem_cons_of_mem _ member)) fuel (by omega)
      (known (l, w) (by simp)).1 (known (l, w) (by simp)).2
    have fits : v.chars.length ≤ fuel := by omega
    have next := scanMembers_next within scans fits k
      ((stringChars l ++ ':' :: w.chars ++ memberChars ms).map .char ++ rest)
    rw [others] at next
    simpa [memberChars, memberNodes] using next

theorem scanValue_array {c : Char} (solid : isSpace (.char c) = false) (item : c ≠ ']')
    (fuel : Nat) (text : List Glyph) :
    scanValue (fuel + 1) (.char '[' :: .char c :: text) =
      (.array (scanItems fuel (.char c :: text)).1 (scanItems fuel (.char c :: text)).2.1,
        (scanItems fuel (.char c :: text)).2.2) := by
  have bracket : skipSpace (.char '[' :: .char c :: text) = .char '[' :: .char c :: text := rfl
  have first : skipSpace (.char c :: text) = .char c :: text := by simp [skipSpace, solid]
  simp [scanValue, bracket, first, item]

theorem scanValue_object (fuel : Nat) (text : List Glyph) :
    scanValue (fuel + 1) (.char '\x7b' :: .char '"' :: text) =
      (.object (scanMembers fuel (.char '"' :: text)).1 (scanMembers fuel (.char '"' :: text)).2.1,
        (scanMembers fuel (.char '"' :: text)).2.2) := by
  simp [scanValue, skipSpace, isSpace]

theorem Value.Within.scans {d : Nat} {v : Value} (within : v.Within d) : v.Scans := by
  induction within with
  | null =>
    intro fuel rest enough ends
    obtain ⟨fuel, rfl⟩ := (Within.null (d := 0)).some_step enough
    simp [Value.chars, Value.node, scanValue, skipSpace, isSpace, word]
  | bool b =>
    intro fuel rest enough ends
    obtain ⟨fuel, rfl⟩ := (Within.bool (d := 0) b).some_step enough
    cases b <;> simp [Value.chars, Value.node, scanValue, skipSpace, isSpace, word]
  | @integer d n low high =>
    intro fuel rest enough ends
    obtain ⟨fuel, rfl⟩ := (Within.integer (d := 0) low high).some_step enough
    have whole := scanValue_integer fuel n ends
    rwa [← node_integer] at whole
  | string s =>
    intro fuel rest enough ends
    obtain ⟨fuel, rfl⟩ := (Within.string (d := 0) s).some_step enough
    simp [Value.chars, stringChars, Value.node, scanValue, skipSpace, isSpace]
  | @array d vs items ih =>
    intro fuel rest enough ends
    obtain ⟨fuel, rfl⟩ := (Within.array items).some_step enough
    cases vs with
    | nil => simp [Value.chars, Value.node, itemNodes, scanValue, skipSpace, isSpace]
    | cons v vs =>
      obtain ⟨c, cs, front, solid, item⟩ := (items v (by simp)).front
      simp only [Value.chars, List.cons_append, List.length_cons, List.length_append] at enough
      have all := scanItems_chars (fun w member => ⟨items w member, ih w member⟩) fuel
        (by omega) rest
      have scanned := scanValue_array solid item fuel ((cs ++ itemChars vs).map .char ++ rest)
      simp only [front, List.cons_append, List.map_cons] at all
      rw [all] at scanned
      simpa [Value.chars, front, Value.node] using scanned
  | @object d ms members ih =>
    intro fuel rest enough ends
    obtain ⟨fuel, rfl⟩ := (Within.object members).some_step enough
    cases ms with
    | nil => simp [Value.chars, Value.node, memberNodes, scanValue, skipSpace, isSpace]
    | cons m ms =>
      obtain ⟨k, v⟩ := m
      simp only [Value.chars, List.cons_append, List.append_assoc, List.length_cons,
        List.length_append] at enough
      have all := scanMembers_chars (fun n member => ⟨members n member, ih n member⟩)
        fuel (by omega) rest
      simp only [stringChars, List.cons_append, List.map_cons] at all
      have scanned := scanValue_object fuel
        ((k.toList.flatMap escaped ++ ['"'] ++ ':' :: v.chars ++ memberChars ms).map .char ++ rest)
      simp only [List.append_assoc, List.cons_append, List.nil_append] at all scanned
      rw [all] at scanned
      simpa [Value.chars, stringChars, Value.node] using scanned

theorem scan_text {d : Nat} {v : Value} (within : v.Within d) :
    scan (glyphs v.text) = ⟨v.node, false⟩ := by
  have whole := within.scans (fuelFor (glyphs v.text)) []
    (by simp [fuelFor, glyphs, Value.text]; omega) trivial
  rw [List.append_nil] at whole
  unfold scan
  simp only [glyphs, Value.text, String.toList_ofList] at whole ⊢
  rw [whole]
  rfl

end SessionBatch.Json

import SessionBatch.Proofs.Scanning
import SessionBatch.Proofs.Stored

namespace SessionBatch

theorem ok_bind_iff {ε α β : Type} {first : Except ε α} {next : α → Except ε β} {b : β} :
    first.bind next = .ok b ↔ ∃ a, first = .ok a ∧ next a = .ok b := by
  cases first with
  | error e =>
    constructor
    · intro read
      cases read
    · rintro ⟨a, read, _⟩
      cases read
  | ok a =>
    constructor
    · exact fun read => ⟨a, rfl, read⟩
    · rintro ⟨_, ⟨⟩, read⟩
      exact read

namespace Json

-- What a number may be followed by, and what a value with all its blanks.
def Stops (rest : List Char) : Prop := ∀ c ∈ rest.head?, c ∈ [',', ']', '\x7d']

def Closes (rest : List Char) : Prop := ∃ after, Blanks rest after ∧ Stops after

theorem isSpace_iff {c : Char} : isSpace (.char c) = true ↔ c ∈ [' ', '\t', '\n', '\r'] := by
  simp [isSpace, or_assoc]

theorem skipSpace_sound (text : List Glyph) :
    ∃ blanks, Exactly Blanks blanks ∧ text = chars blanks ++ skipSpace text := by
  induction text with
  | nil => exact ⟨[], .noBlanks, rfl⟩
  | cons g text ih =>
    cases blank : isSpace g with
    | false => exact ⟨[], .noBlanks, by simp [skipSpace, blank]⟩
    | true =>
      cases g with
      | stray => cases blank
      | char c =>
        obtain ⟨blanks, form, same⟩ := ih
        refine ⟨c :: blanks, fun rest => .blank (isSpace_iff.1 blank) (form rest), ?_⟩
        simpa [skipSpace, blank] using same

theorem Blanks.skipSpace {text rest : List Char} (blanks : Blanks text rest)
    (solid : ∀ c ∈ rest.head?, isSpace (.char c) = false) :
    skipSpace (chars text) = chars rest := by
  induction blanks with
  | none text =>
    cases text with
    | nil => rfl
    | cons c text => simp [Json.skipSpace, solid c (by simp)]
  | @blank c text rest blank _ ih =>
    have skips : isSpace (.char c) = true := isSpace_iff.2 blank
    simpa [Json.skipSpace, skips] using ih solid

theorem Stops.solid {rest : List Char} (stops : Stops rest) :
    ∀ c ∈ rest.head?, isSpace (.char c) = false := by
  intro c front
  have closing := stops c front
  simp only [List.mem_cons, List.not_mem_nil, or_false] at closing
  rcases closing with rfl | rfl | rfl <;> rfl

theorem Closes.front {rest : List Char} (closes : Closes rest) :
    ∀ c ∈ rest.head?, c ∈ [' ', '\t', '\n', '\r'] ∨ c ∈ [',', ']', '\x7d'] := by
  obtain ⟨after, blanks, stops⟩ := closes
  cases blanks with
  | none => exact fun c front => .inr (stops c front)
  | blank blank =>
    intro c front
    cases front
    exact .inl blank

theorem Closes.apart {rest : List Char} (closes : Closes rest) :
    ∀ c ∈ rest.head?, Text.digit? c = none ∧ c ≠ '.' ∧ c ≠ 'e' ∧ c ≠ 'E' := by
  intro c front
  have closing := closes.front c front
  simp only [List.mem_cons, List.not_mem_nil, or_false] at closing
  rcases closing with (rfl | rfl | rfl | rfl) | rfl | rfl | rfl <;>
    exact ⟨rfl, by decide, by decide, by decide⟩

section Numerals

variable {text rest : List Char} {ds : List Nat}

theorem digit?_char {g : Glyph} {d : Nat} (digit : digit? g = some d) :
    ∃ c, g = .char c ∧ Text.digit? c = some d := by
  cases g with
  | char c => exact ⟨c, rfl, digit⟩
  | stray => cases digit

theorem digits_none {g : Glyph} (other : digit? g = none) (text : List Glyph) :
    digits (g :: text) = ([], g :: text) := by
  simp [digits, isDigit, other]

theorem digits_some {g : Glyph} {d : Nat} (digit : digit? g = some d) (text : List Glyph) :
    digits (g :: text) = (d :: (digits text).1, (digits text).2) := by
  simp [digits, isDigit, digit]

theorem digits_sound (text : List Glyph) :
    digits text = ([], text) ∨
      ∃ ds front left, digits text = (ds, left) ∧ text = chars front ++ left ∧
        Exactly (Digits ds) front := by
  induction text with
  | nil => exact .inl rfl
  | cons g text ih =>
    cases digit : digit? g with
    | none => exact .inl (digits_none digit text)
    | some d =>
      rw [digits_some digit]
      obtain ⟨c, rfl, digit⟩ := digit?_char digit
      rcases ih with none | ⟨ds, front, left, found, same, others⟩
      · rw [none]
        exact .inr ⟨[d], [c], text, rfl, rfl, .last digit⟩
      · rw [found]
        exact .inr ⟨d :: ds, c :: front, left, rfl, congrArg (.char c :: ·) same, fun rest =>
          .more digit (others rest)⟩

theorem Digits.ne_nil (written : Digits ds text rest) : ds ≠ [] := by
  cases written <;> exact List.cons_ne_nil _ _

theorem Digits.front (written : Digits ds text rest) :
    ∃ c others, text = c :: others ∧ isDigit (.char c) = true := by
  cases written with
  | last digit => exact ⟨_, _, rfl, by simp [isDigit, digit?, digit]⟩
  | more digit => exact ⟨_, _, rfl, by simp [isDigit, digit?, digit]⟩

theorem Digits.scanned (written : Digits ds text rest)
    (stops : ∀ c ∈ rest.head?, Text.digit? c = none) :
    digits (chars text) = (ds, chars rest) := by
  induction written with
  | last digit rest =>
    rw [chars_cons, digits_some (g := .char _) digit]
    cases rest with
    | nil => rfl
    | cons c rest => rw [chars_cons, digits_none (g := .char c) (stops c rfl)]
  | more digit _ ih => rw [chars_cons, digits_some (g := .char _) digit, ih stops]

theorem minusSign_sound (text : List Glyph) :
    ∃ front, Exactly (Minus (minusSign text).1) front ∧
      text = chars front ++ (minusSign text).2 := by
  unfold minusSign
  split
  · exact ⟨['-'], .minus, rfl⟩
  · exact ⟨[], .absent, rfl⟩

theorem eq_zero_of_digit? {c : Char} (digit : Text.digit? c = some 0) : c = '0' := by
  unfold Text.digit? at digit
  split at digit
  · next range =>
    have low : '0'.toNat ≤ c.toNat := range.1
    have value := Option.some.inj digit
    have code : c.toNat = '0'.toNat := by
      simp only [Char.reduceToNat] at low ⊢
      omega
    rw [← Char.ofNat_toNat c, code, Char.ofNat_toNat]
  · cases digit

theorem wholePart_sound {text left : List Glyph} (read : wholePart text = .ok (ds, left)) :
    ∃ front, Exactly (Whole ds) front ∧ text = chars front ++ left := by
  unfold wholePart at read
  rcases digits_sound text with none | ⟨es, front, left', found, same, written⟩
  · rw [none] at read
    cases read
  · rw [found] at read
    match es, written, read with
    | [], written, _ => exact absurd rfl (written []).ne_nil
    | [0], written, read =>
      cases read
      have alone := written []
      rw [List.append_nil] at alone
      cases alone with
      | last digit =>
        rw [eq_zero_of_digit? digit] at same
        exact ⟨['0'], .zero, same⟩
      | more _ others => exact absurd rfl others.ne_nil
    | 0 :: _ :: _, _, read => cases read
    | (d + 1) :: _, written, read =>
      cases read
      exact ⟨front, fun rest => .digits (Nat.succ_ne_zero d) (written rest), same⟩

theorem Whole.scanned (written : Whole ds text rest)
    (stops : ∀ c ∈ rest.head?, Text.digit? c = none) :
    wholePart (chars text) = .ok (ds, chars rest) := by
  unfold wholePart
  cases written with
  | zero =>
    have alone : Digits [0] ('0' :: rest) rest := .last rfl rest
    rw [alone.scanned stops]
    rfl
  | @digits d ds _ _ nonzero written =>
    rw [written.scanned stops]
    cases d with
    | zero => exact absurd rfl nonzero
    | succ d => rfl

theorem fractionPart_other {g : Glyph} (other : g ≠ .char '.') (text : List Glyph) :
    fractionPart (g :: text) = .ok (none, g :: text) := by
  unfold fractionPart
  split
  · next same =>
    cases same
    exact absurd rfl other
  · rfl

theorem fractionPart_sound {fraction : Option (List Nat)} {text left : List Glyph}
    (read : fractionPart text = .ok (fraction, left)) :
    ∃ front, Exactly (Fraction fraction) front ∧ text = chars front ++ left := by
  unfold fractionPart at read
  split at read
  · next text =>
    rcases digits_sound text with none | ⟨es, front, left', found, same, written⟩
    · rw [none] at read
      cases read
    · rw [found] at read
      cases es with
      | nil => exact absurd rfl (written []).ne_nil
      | cons d es =>
        cases read
        exact ⟨'.' :: front, fun rest => .digits (written rest), congrArg (.char '.' :: ·) same⟩
  · cases read
    exact ⟨[], .absent, rfl⟩

theorem Fraction.scanned {fraction : Option (List Nat)} (written : Fraction fraction text rest)
    (stops : ∀ c ∈ rest.head?, Text.digit? c = none ∧ c ≠ '.') :
    fractionPart (chars text) = .ok (fraction, chars rest) := by
  cases written with
  | absent =>
    cases text with
    | nil => rfl
    | cons c text =>
      exact fractionPart_other (fun same => (stops c rfl).2 (Glyph.char.inj same)) _
  | @digits ds _ _ written =>
    have found := written.scanned fun c front => (stops c front).1
    cases ds with
    | nil => exact absurd rfl written.ne_nil
    | cons d ds => rw [chars_cons, fractionPart, found]

theorem exponentSign_sound (text : List Glyph) :
    ∃ front, Exactly (Sign (exponentSign text).1) front ∧
      text = chars front ++ (exponentSign text).2 := by
  unfold exponentSign
  split
  · exact ⟨['-'], .minus, rfl⟩
  · exact ⟨['+'], .plus, rfl⟩
  · exact ⟨[], .absent, rfl⟩

theorem Digits.unsigned (written : Digits ds text rest) :
    exponentSign (chars text) = (false, chars text) ∧
      minusSign (chars text) = (false, chars text) := by
  obtain ⟨c, others, rfl, digit⟩ := written.front
  have minus : c ≠ '-' := by
    rintro rfl
    cases digit
  have plus : c ≠ '+' := by
    rintro rfl
    cases digit
  constructor
  · unfold exponentSign
    split
    · next same => exact absurd (Glyph.char.inj (List.cons.inj same).1) minus
    · next same => exact absurd (Glyph.char.inj (List.cons.inj same).1) plus
    · rfl
  · unfold minusSign
    split
    · next same => exact absurd (Glyph.char.inj (List.cons.inj same).1) minus
    · rfl

theorem exponentPart_sound {exponent : Option (Bool × List Nat)} {text left : List Glyph}
    (read : exponentPart text = .ok (exponent, left)) :
    ∃ front, Exactly (Exponent exponent) front ∧ text = chars front ++ left := by
  unfold exponentPart at read
  split at read
  · next e text =>
    split at read
    · next mark =>
      obtain ⟨signed, sign, split⟩ := exponentSign_sound text
      dsimp only at read
      rcases digits_sound (exponentSign text).2 with none | ⟨es, front, left', found, same, written⟩
      · rw [none] at read
        cases read
      · rw [found] at read
        cases es with
        | nil => exact absurd rfl (written []).ne_nil
        | cons d es =>
          cases read
          refine ⟨_, .exponent mark sign written, ?_⟩
          rw [chars_cons, chars_append, List.cons_append, List.append_assoc, ← same, ← split]
    · cases read
      exact ⟨[], .absent, rfl⟩
  · cases read
    exact ⟨[], .absent, rfl⟩

theorem Exponent.scanned {exponent : Option (Bool × List Nat)}
    (written : Exponent exponent text rest)
    (stops : ∀ c ∈ rest.head?, Text.digit? c = none ∧ c ≠ 'e' ∧ c ≠ 'E') :
    exponentPart (chars text) = .ok (exponent, chars rest) := by
  cases written with
  | absent =>
    cases text with
    | nil => rfl
    | cons c text =>
      obtain ⟨_, small, large⟩ := stops c rfl
      rw [chars_cons, exponentPart, if_neg (not_or.2 ⟨small, large⟩)]
  | @digits e negative ds text unsigned _ mark sign written =>
    have signed : exponentSign (chars text) = (negative, chars unsigned) := by
      cases sign with
      | minus => rfl
      | plus => rfl
      | absent => exact written.unsigned.1
    have found := written.scanned fun c front => (stops c front).1
    rw [chars_cons, exponentPart, if_pos mark, signed]
    dsimp only
    rw [found]
    cases ds with
    | nil => exact absurd rfl written.ne_nil
    | cons d ds => rfl

theorem number_sound {l : Literal} {text left : List Glyph} (read : number text = .ok (l, left)) :
    ∃ front, Exactly (Numeral l) front ∧ text = chars front ++ left := by
  obtain ⟨signed, minus, split⟩ := minusSign_sound text
  unfold number at read
  dsimp only at read
  obtain ⟨⟨ds, _⟩, wholeRead, read⟩ := ok_bind_iff.1 read
  obtain ⟨unsigned, whole, wholeSplit⟩ := wholePart_sound wholeRead
  obtain ⟨⟨fs, _⟩, fractionRead, read⟩ := ok_bind_iff.1 read
  obtain ⟨point, fraction, fractionSplit⟩ := fractionPart_sound fractionRead
  obtain ⟨⟨es, _⟩, exponentRead, read⟩ := ok_bind_iff.1 read
  obtain ⟨mark, exponent, exponentSplit⟩ := exponentPart_sound exponentRead
  cases read
  refine ⟨_, .numeral minus whole fraction exponent, ?_⟩
  simp only [chars_append, List.append_assoc]
  rw [← exponentSplit, ← fractionSplit, ← wholeSplit, ← split]

theorem Minus.scanned {negative : Bool} {unsigned : List Char}
    (minus : Minus negative text unsigned) (whole : Whole ds unsigned rest) :
    minusSign (chars text) = (negative, chars unsigned) := by
  cases minus with
  | minus => rfl
  | absent =>
    cases whole with
    | zero => rfl
    | digits _ written => exact written.unsigned.2

theorem Exponent.apart {exponent : Option (Bool × List Nat)}
    (written : Exponent exponent text rest)
    (stops : ∀ c ∈ rest.head?, Text.digit? c = none ∧ c ≠ '.') :
    ∀ c ∈ text.head?, Text.digit? c = none ∧ c ≠ '.' := by
  cases written with
  | absent => exact stops
  | digits mark =>
    intro c front
    cases front
    rcases mark with rfl | rfl <;> exact ⟨rfl, by decide⟩

theorem Fraction.apart {fraction : Option (List Nat)} (written : Fraction fraction text rest)
    (stops : ∀ c ∈ rest.head?, Text.digit? c = none) :
    ∀ c ∈ text.head?, Text.digit? c = none := by
  cases written with
  | absent => exact stops
  | digits =>
    intro c front
    cases front
    rfl

theorem Numeral.scanned {l : Literal} (written : Numeral l text rest) (closes : Closes rest) :
    number (chars text) = .ok (l, chars rest) := by
  cases written with
  | @parts unsigned point mark _ minus whole fraction exponent =>
    have behind := closes.apart
    have beforeExponent := exponent.apart fun c front => ⟨(behind c front).1, (behind c front).2.1⟩
    have beforeFraction := fraction.apart fun c front => (beforeExponent c front).1
    unfold number
    rw [minus.scanned whole]
    refine ok_bind_iff.2 ⟨_, whole.scanned beforeFraction, ?_⟩
    refine ok_bind_iff.2 ⟨_, fraction.scanned beforeExponent, ?_⟩
    refine ok_bind_iff.2 ⟨_, exponent.scanned fun c front => ?_, rfl⟩
    exact ⟨(behind c front).1, (behind c front).2.2⟩

end Numerals

section Strings

variable {text rest others : List Char} {p : Piece} {ps : List Piece}

theorem hexDigit?_char {g : Glyph} {d : Nat} (digit : hexDigit? g = some d) :
    ∃ c, g = .char c ∧ Text.hexDigit? c = some d := by
  cases g with
  | char c => exact ⟨c, rfl, digit⟩
  | stray => cases digit

theorem fourDigits_sound {unit : Nat} {text : List Glyph} (read : fourDigits text = .ok unit) :
    ∃ front, Exactly (Spelling (.code unit)) ('\\' :: 'u' :: front) ∧
      text = chars front ++ text.drop 4 := by
  unfold fourDigits at read
  split at read
  · split at read
    · next first second third fourth =>
      cases read
      obtain ⟨a, rfl, first⟩ := hexDigit?_char first
      obtain ⟨b, rfl, second⟩ := hexDigit?_char second
      obtain ⟨c, rfl, third⟩ := hexDigit?_char third
      obtain ⟨d, rfl, fourth⟩ := hexDigit?_char fourth
      exact ⟨[a, b, c, d], .code first second third fourth, rfl⟩
    · cases read
  · cases read

theorem piece_letter {e : Char} (letter : e ≠ 'u') (text : List Glyph) :
    piece (.char '\\') (.char e :: text) =
      match shortEscape? e with
      | some value => .ok (.short value, 1)
      | none => .error .malformed := by
  unfold piece
  split
  case h_2 same =>
    cases same
    exact absurd rfl letter
  case h_3 same =>
    cases same
    rfl
  case h_5 same _ _ other _ => exact (other e text rfl (Glyph.char.inj same).symm).elim
  all_goals simp_all

theorem piece_control {c : Char} (control : c.toNat < 0x20) (text : List Glyph) :
    piece (.char c) text = .error .malformed := by
  have unescaped : c ≠ '\\' := by
    rintro rfl
    exact absurd control (by decide)
  unfold piece
  split <;> simp_all

theorem piece_sound {c : Char} {more : Nat} {text : List Glyph} (open_ : c ≠ '"')
    (read : piece (.char c) text = .ok (p, more)) :
    ∃ front, Exactly (Spelling p) (c :: front) ∧ text = chars front ++ text.drop more := by
  by_cases escape : c = '\\'
  · subst escape
    cases text with
    | nil => cases read
    | cons g text =>
      cases g with
      | stray => cases read
      | char e =>
        by_cases four : e = 'u'
        · subst four
          rw [piece] at read
          cases digits : fourDigits text with
          | error fault =>
            rw [digits] at read
            cases read
          | ok unit =>
            rw [digits] at read
            cases read
            obtain ⟨front, spelling, same⟩ := fourDigits_sound digits
            exact ⟨'u' :: front, spelling, congrArg (.char 'u' :: ·) same⟩
        · rw [piece_letter four] at read
          split at read
          · next value short =>
            cases read
            exact ⟨[e], .short short, rfl⟩
          · cases read
  · by_cases visible : c.toNat < 0x20
    · rw [piece_control visible] at read
      cases read
    · rw [piece_plain escape visible] at read
      cases read
      exact ⟨[], .plain open_ escape (Nat.not_lt.1 visible), rfl⟩

theorem quotedAfter_sound {q : Quoted} {text left : List Glyph} {skip : Nat}
    (read : quotedAfter skip text = (q, left)) (closed : q.fault = none) :
    ∃ front, Spread q.pieces front ∧ text.drop skip = front ++ left := by
  induction text generalizing skip q with
  | nil =>
    cases skip <;> cases read <;> cases closed
  | cons g text ih =>
    cases skip with
    | succ skip => exact ih read closed
    | zero =>
      rw [quotedAfter] at read
      split at read
      · next quote =>
        cases read
        exact ⟨[.char '"'], .close, by rw [quote]; rfl⟩
      · next quote =>
        split at read
        · cases read
          cases closed
        · next p more first =>
          cases others : quotedAfter more text with
          | mk q' left' =>
            rw [others] at read
            cases read
            obtain ⟨front, spread, same⟩ := ih others closed
            cases g with
            | stray b =>
              cases first
              exact ⟨_, .stray b spread, congrArg (Glyph.stray b :: ·) same⟩
            | char c =>
              obtain ⟨taken, spelling, split⟩ := piece_sound (fun same => quote (same ▸ rfl)) first
              refine ⟨_, .piece spelling spread, ?_⟩
              rw [chars_cons, List.cons_append, List.cons_append, List.append_assoc, ← same,
                ← split, List.drop_zero]

theorem quoted_sound {q : Quoted} {text left : List Glyph} (read : quoted text = (q, left))
    (closed : q.fault = none) : ∃ front, Spread q.pieces front ∧ text = front ++ left :=
  quotedAfter_sound read closed

theorem Spelling.scanned (spelling : Spelling p text others) :
    quotedAfter 0 (chars text) =
      ((quotedAfter 0 (chars others)).1.cons p, (quotedAfter 0 (chars others)).2) := by
  cases spelling with
  | plain open_ unescaped visible =>
    have quote : Glyph.char _ ≠ .char '"' := fun same => open_ (Glyph.char.inj same)
    rw [chars_cons, quotedAfter, if_neg quote, piece_plain unescaped (Nat.not_lt.2 visible)]
  | @short e _ escape =>
    have letter : e ≠ 'u' := by
      rintro rfl
      cases escape
    have quote : Glyph.char '\\' ≠ .char '"' := by decide
    rw [chars_cons, chars_cons, quotedAfter, if_neg quote, piece_letter letter, escape]
    rfl
  | code first second third fourth =>
    have quote : Glyph.char '\\' ≠ .char '"' := by decide
    simp [quotedAfter, piece, fourDigits, hexDigit?, first, second, third, fourth, Except.map]

theorem Spellings.scanned (spellings : Spellings ps text rest) :
    quoted (chars text) = (⟨ps, none⟩, chars rest) := by
  unfold quoted
  induction spellings with
  | close => rfl
  | piece first _ ih =>
    rw [first.scanned, ih]
    rfl

end Strings

end Json
end SessionBatch

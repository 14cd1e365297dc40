import SessionBatch.Calendar.Reading
import SessionBatch.Proofs.Digits
import SessionBatch.Uuid

namespace SessionBatch.Uuid

theorem mapM_hexDigit? {ds : List Nat} (small : ∀ d ∈ ds, d < 16) :
    (ds.map Nat.digitChar).mapM Text.hexDigit? = some ds := by
  induction ds with
  | nil => rfl
  | cons d ds ih =>
    rw [List.map_cons, List.mapM_cons, Text.hexDigit?_digitChar d (small d (by simp)),
      ih fun e member => small e (by simp [member])]
    rfl

theorem digits_eq (u : Uuid) : u.digits = (Text.places 16 32 u.bits.toNat).map Nat.digitChar := by
  simp [digits, Text.places]

theorem ofDigits?_digits (u : Uuid) : ofDigits? u.digits = some u := by
  have size : u.digits.length = 32 := by simp [digits]
  have small : ∀ d ∈ Text.places 16 32 u.bits.toNat, d < 16 := by
    intro d member
    obtain ⟨i, -, rfl⟩ := List.mem_map.mp member
    exact Nat.mod_lt _ (by decide)
  have value : Text.ofDigits 16 (Text.places 16 32 u.bits.toNat) = u.bits.toNat := by
    rw [Text.ofDigits_places]
    exact Nat.mod_eq_of_lt u.bits.isLt
  unfold ofDigits?
  rw [if_pos size, digits_eq, mapM_hexDigit? small]
  simp [value]

theorem ofHyphenated?_groups {a b c d e : List Char} (la : a.length = 8) (lb : b.length = 4)
    (lc : c.length = 4) (ld : d.length = 4) :
    ofHyphenated? (a ++ '-' :: (b ++ '-' :: (c ++ '-' :: (d ++ '-' :: e)))) =
      ofDigits? (a ++ b ++ c ++ d ++ e) := by
  simp [ofHyphenated?, List.getElem?_append, List.drop_append, la, lb, lc, ld,
    List.drop_of_length_le]

theorem ofHyphenated?_hyphenated {ds : List Char} (size : ds.length = 32) :
    ofHyphenated? (hyphenated ds) = ofDigits? ds := by
  have groups := ofHyphenated?_groups (a := ds.take 8) (b := (ds.drop 8).take 4)
    (c := (ds.drop 12).take 4) (d := (ds.drop 16).take 4) (e := ds.drop 20) (by simp [size])
    (by simp [size]) (by simp [size]) (by simp [size])
  have four : ∀ i, (ds.drop i).take 4 ++ ds.drop (i + 4) = ds.drop i := by
    intro i
    rw [← List.drop_drop, List.take_append_drop]
  simp only [List.append_assoc, four, List.take_append_drop] at groups
  simpa [hyphenated] using groups

theorem ofText?_text (u : Uuid) : ofText? u.text = some u := by
  have size : u.digits.length = 32 := by simp [digits]
  have length : (hyphenated u.digits).length = 36 := by simp [hyphenated, size]
  unfold ofText? text ofChars?
  rw [String.toList_ofList, length]
  exact (ofHyphenated?_hyphenated size).trans (ofDigits?_digits u)

end SessionBatch.Uuid

namespace SessionBatch.Calendar
open SessionBatch.Text

def filled (width n : Nat) : List Nat :=
  List.replicate (width - (decimals n).length) 0 ++ decimals n

theorem padded_eq (width n : Nat) : padded width n = (filled width n).map Nat.digitChar := by
  have zeros : ∀ k, List.replicate k '0' = (List.replicate k 0).map Nat.digitChar := by
    intro k
    simp
  simp [padded, filled, toDigits_ten]

theorem ofDigits_filled (width n : Nat) : ofDigits 10 (filled width n) = n := by
  simp [filled]

theorem lt_ten_of_mem_filled {width n d : Nat} (member : d ∈ filled width n) : d < 10 := by
  rcases List.mem_append.mp member with zero | digit
  · have := List.eq_of_mem_replicate zero
    omega
  · exact lt_ten_of_mem_decimals digit

theorem filled_ne_nil (width n : Nat) : filled width n ≠ [] := by
  simp [filled, decimals_ne_nil]

theorem length_filled {width : Nat} (positive : 0 < width) {n : Nat}
    (small : n < Nat.pow 10 width) : (filled width n).length = width := by
  have short := length_decimals_le positive small
  simp only [filled, List.length_append, List.length_replicate]
  omega

def NoDigit (cs : List Char) : Prop := ∀ c ∈ cs.head?, digit? c = none

theorem noDigit_cons {c : Char} (other : digit? c = none) (cs : List Char) : NoDigit (c :: cs) := by
  intro d member
  cases member
  exact other

theorem takeDigits_noDigit {rest : List Char} (stops : NoDigit rest) (most : Nat) :
    takeDigits most rest = ([], rest) := by
  cases most with
  | zero => rfl
  | succ most =>
    cases rest with
    | nil => rfl
    | cons c cs => simp [takeDigits, stops c rfl]

theorem takeDigits_digits {ds : List Nat} (small : ∀ d ∈ ds, d < 10) {most : Nat} {rest : List Char}
    (fits : ds.length ≤ most) (stops : ds.length = most ∨ NoDigit rest) :
    takeDigits most (ds.map Nat.digitChar ++ rest) = (ds, rest) := by
  induction ds generalizing most with
  | nil =>
    rcases stops with full | stops
    · cases full
      rfl
    · exact takeDigits_noDigit stops most
  | cons d ds ih =>
    cases most with
    | zero => simp at fits
    | succ most =>
      simp only [List.length_cons, Nat.add_le_add_iff_right, Nat.add_right_cancel_iff] at fits stops
      have others := ih (fun e member => small e (by simp [member])) fits stops
      simp [takeDigits, digit?_digitChar d (small d (by simp)), others]

theorem number_filled {width n most : Nat} {rest : List Char}
    (fits : (filled width n).length ≤ most)
    (stops : (filled width n).length = most ∨ NoDigit rest) :
    number most (padded width n ++ rest) = some (n, rest) := by
  have taken := takeDigits_digits (fun _ => lt_ten_of_mem_filled) fits stops
  have value := ofDigits_filled width n
  unfold number
  rw [padded_eq, taken]
  cases digits : filled width n with
  | nil => exact absurd digits (filled_ne_nil width n)
  | cons d ds =>
    rw [digits] at value
    simp [value]

theorem padded_front (width n : Nat) : ∃ d < 10, ∃ cs, padded width n = Nat.digitChar d :: cs := by
  rw [padded_eq]
  cases digits : filled width n with
  | nil => exact absurd digits (filled_ne_nil width n)
  | cons d ds =>
    have member : d ∈ filled width n := by simp [digits]
    exact ⟨d, lt_ten_of_mem_filled member, _, rfl⟩

theorem skipBlank_padded (width n : Nat) (rest : List Char) :
    skipBlank (padded width n ++ rest) = padded width n ++ rest := by
  obtain ⟨d, small, cs, front⟩ := padded_front width n
  simp [front, skipBlank, isBlank_digitChar d small]

theorem part_padded {n : Nat} (small : n < 100) (rest : List Char) :
    part (padded 2 n ++ rest) = some (n, rest) := by
  have length := length_filled (by decide : 0 < 2) small
  unfold part
  rw [skipBlank_padded]
  exact number_filled (Nat.le_of_eq length) (.inl length)

theorem number_signed (n : Nat) {rest : List Char} (stops : NoDigit rest) :
    number ((padded 4 n).length + rest.length) (padded 4 n ++ rest) = some (n, rest) := by
  refine number_filled ?_ (.inr stops)
  simp [padded_eq]

theorem year_minus (cs : List Char) :
    year ('-' :: cs) = (number cs.length cs).map fun (n, rest) => (-(n : Int), rest) := rfl

theorem year_plus (cs : List Char) :
    year ('+' :: cs) = (number cs.length cs).map fun (n, rest) => ((n : Int), rest) := rfl

theorem year_yearChars (y : Int) {rest : List Char} (stops : NoDigit rest) :
    year (yearChars y ++ rest) = some (y, rest) := by
  have signed := number_signed y.natAbs stops
  unfold yearChars
  split
  case isTrue negative =>
    have value : -(y.natAbs : Int) = y := by omega
    rw [List.cons_append, year_minus, List.length_append, signed]
    simp only [Option.map_some, value]
  case isFalse positive =>
    have value : (y.natAbs : Int) = y := by omega
    split
    case isTrue large =>
      rw [List.cons_append, year_plus, List.length_append, signed]
      simp only [Option.map_some, value]
    case isFalse small =>
      have four : y.natAbs < Nat.pow 10 4 := by
        simp only [Nat.pow_eq]
        omega
      have length := length_filled (by decide) four
      have whole : number 4 (padded 4 y.natAbs ++ rest) = some (y.natAbs, rest) :=
        number_filled (Nat.le_of_eq length) (.inl length)
      obtain ⟨d, digit, cs, front⟩ := padded_front 4 y.natAbs
      have unsigned : ∀ e < 10, Nat.digitChar e ≠ '-' ∧ Nat.digitChar e ≠ '+' := by decide
      unfold year
      rw [skipBlank_padded]
      split
      case h_1 same => simp [front, (unsigned d digit).1] at same
      case h_2 same => simp [front, (unsigned d digit).2] at same
      case h_3 => simp only [whole, Option.map_some, value]

theorem fraction_padded {width n : Nat} (positive : 0 < width) (most : width ≤ 9)
    (small : n < Nat.pow 10 width) {rest : List Char} (stops : NoDigit rest) :
    fraction ('.' :: (padded width n ++ rest)) = some (n * Nat.pow 10 (9 - width), rest) := by
  have length := length_filled positive small
  have value := ofDigits_filled width n
  have taken : takeDigits 9 (padded width n ++ rest) = (filled width n, rest) := by
    rw [padded_eq]
    exact takeDigits_digits (fun _ => lt_ten_of_mem_filled) (by omega) (.inr stops)
  have spare : (rest.dropWhile fun c => (digit? c).isSome) = rest := by
    cases rest with
    | nil => rfl
    | cons c cs => simp [stops c rfl]
  simp only [fraction, taken]
  cases digits : filled width n with
  | nil => exact absurd digits (filled_ne_nil width n)
  | cons d ds =>
    rw [digits] at length value
    simp [length, value, spare]

theorem fraction_fractionChars {nano : Nat} (small : nano < 1000000000) {rest : List Char}
    (stops : NoDigit rest) (past : rest.head? ≠ some '.') :
    fraction (fractionChars nano ++ rest) = some (nano, rest) := by
  unfold fractionChars
  split
  case isTrue zero =>
    rw [List.nil_append, zero]
    unfold fraction
    split
    case h_1 => exact absurd rfl past
    case h_2 => rfl
  case isFalse =>
    split
    case isTrue millis =>
      have whole : nano / 1000000 * Nat.pow 10 (9 - 3) = nano := by
        simp only [Nat.pow_eq]
        omega
      have digits : nano / 1000000 < Nat.pow 10 3 := by
        simp only [Nat.pow_eq]
        omega
      rw [List.cons_append, fraction_padded (by decide) (by decide) digits stops, whole]
    case isFalse =>
      split
      case isTrue micros =>
        have whole : nano / 1000 * Nat.pow 10 (9 - 6) = nano := by
          simp only [Nat.pow_eq]
          omega
        have digits : nano / 1000 < Nat.pow 10 6 := by
          simp only [Nat.pow_eq]
          omega
        rw [List.cons_append, fraction_padded (by decide) (by decide) digits stops, whole]
      case isFalse =>
        rw [List.cons_append, fraction_padded (by decide) (by decide) (by omega) stops]
        simp

theorem reading?_self (t : Timestamp) :
    reading? t.date.year t.date.month t.date.day t.hour t.minute t.second t.nano = some t := by
  have date : Date.of? t.date.year t.date.month t.date.day = some t.date := dif_pos t.date.valid
  have inRange : t.hour.val < 24 ∧ t.minute.val < 60 ∧ t.second.val < 61 ∧ t.nano.val < 1000000000 :=
    ⟨t.hour.isLt, t.minute.isLt, t.second.isLt, t.nano.isLt⟩
  unfold reading?
  rw [date]
  exact dif_pos inRange

theorem Timestamp.atOffset?_zero (t : Timestamp) : t.atOffset? 0 = some t := by
  obtain ⟨date, ⟨hour, hourFits⟩, ⟨minute, minuteFits⟩, second, nano⟩ := t
  have sameDay : ¬ ((hour : Int) * 60 + minute - 0 < 0) ∧
      ¬ (1440 ≤ (hour : Int) * 60 + minute - 0) := by omega
  have ofDay : (((hour : Int) * 60 + minute - 0) % 1440).toNat = hour * 60 + minute := by omega
  have parts : (hour * 60 + minute) / 60 % 24 = hour ∧ (hour * 60 + minute) % 60 % 60 = minute := by
    omega
  simp only [atOffset?, if_neg sameDay.1, if_neg sameDay.2, ofDay, Option.map_some, Fin.ofNat,
    parts.1, parts.2]

theorem daysIn_le (year : Int) (month : Nat) : daysIn year month ≤ 31 := by
  unfold daysIn
  split
  · split <;> decide
  · split <;> decide

theorem separator_cons {c : Char} (solid : isBlank c = false) (cs : List Char) :
    separator c (c :: cs) = some ((), cs) := by
  simp [separator, skipBlank, solid, literal]

theorem bind_found {α β : Type} {o : Option α} {a : α} {next : α → Option β} (found : o = some a) :
    o.bind next = next a := by
  rw [found, Option.bind_some]

theorem Timestamp.ofText?_text (t : Timestamp) : ofText? t.text = some t := by
  obtain ⟨-, -, -, month, -, day⟩ := t.date.valid
  have days := daysIn_le t.date.year t.date.month
  have yearRead : ∀ cs, year (yearChars t.date.year ++ '-' :: cs) =
      some (t.date.year, '-' :: cs) := fun cs =>
    year_yearChars t.date.year (noDigit_cons rfl cs)
  have nanoRead : fraction (fractionChars t.nano ++ ['Z']) = some (t.nano.val, ['Z']) :=
    fraction_fractionChars t.nano.isLt (noDigit_cons rfl []) (by decide)
  have monthRead := part_padded (n := t.date.month) (by omega)
  have dayRead := part_padded (n := t.date.day) (by omega)
  have hourRead := part_padded (n := t.hour) (by omega)
  have minuteRead := part_padded (n := t.minute) (by omega)
  have secondRead := part_padded (n := t.second) (by omega)
  have hyphen := separator_cons (c := '-') rfl
  have colon := separator_cons (c := ':') rfl
  have middle : ∀ cs, dateTimeSeparator ('T' :: cs) = some ((), cs) := fun _ => rfl
  have utc : offset (skipBlank ['Z']) = some (0, []) := rfl
  unfold ofText? text chars
  rw [String.toList_ofList]
  simp only [List.append_assoc, List.cons_append]
  refine (bind_found (yearRead _)).trans ?_
  refine (bind_found (hyphen _)).trans ?_
  refine (bind_found (monthRead _)).trans ?_
  refine (bind_found (hyphen _)).trans ?_
  refine (bind_found (dayRead _)).trans ?_
  refine (bind_found (middle _)).trans ?_
  refine (bind_found (hourRead _)).trans ?_
  refine (bind_found (colon _)).trans ?_
  refine (bind_found (minuteRead _)).trans ?_
  refine (bind_found (colon _)).trans ?_
  refine (bind_found (secondRead _)).trans ?_
  refine (bind_found nanoRead).trans ?_
  refine (bind_found utc).trans ?_
  exact (bind_found (reading?_self t)).trans (atOffset?_zero t)

end SessionBatch.Calendar

import Mathlib.Algebra.Group.Nat.Defs
import Mathlib.Data.List.Basic
import SessionBatch.Json.Glyph

namespace SessionBatch.Json

def Glyph.bytes : Glyph → List UInt8
  | .char c => String.utf8EncodeChar c
  | .stray b => [b]

-- The first byte of a character says by its mark how many bytes follow.
def mark : Nat → Nat
  | 0 => 0
  | 1 => 0xC0
  | 2 => 0xE0
  | _ => 0xF0

-- The bytes that follow hold six bits of the code point each, the lowest last.
def continued : Nat → Nat → List Nat
  | 0, _ => []
  | count + 1, code => (code / 64 ^ count % 64 + 0x80) :: continued count code

theorem lead?_iff {b : UInt8} {share count : Nat} :
    lead? b = some (share, count) ↔
      b.toNat = share + mark count ∧
        (count = 0 ∧ share < 0x80 ∨ count = 1 ∧ share < 0x20 ∨ count = 2 ∧ share < 0x10 ∨
          count = 3 ∧ share < 0x08) := by
  have small : b.toNat < 256 := b.toNat_lt
  simp only [lead?, UInt8.lt_iff_toNat_lt, UInt8.reduceToNat]
  constructor
  · intro read
    split_ifs at read
    all_goals
      simp only [Option.some.injEq, Prod.mk.injEq] at read
      obtain ⟨rfl, rfl⟩ := read
      simp only [mark, true_and]
      omega
  · rintro ⟨value, ⟨rfl, bound⟩ | ⟨rfl, bound⟩ | ⟨rfl, bound⟩ | ⟨rfl, bound⟩⟩
    all_goals
      simp only [mark] at value
      split_ifs
      all_goals first
        | omega
        | simp only [Option.some.injEq, Prod.mk.injEq, and_true]; omega

theorem continuation?_iff {b : UInt8} {bits : Nat} :
    continuation? b = some bits ↔ bits < 64 ∧ b.toNat = bits + 0x80 := by
  simp only [continuation?, UInt8.le_iff_toNat_le, UInt8.reduceToNat]
  split_ifs <;> simp only [Option.some.injEq, false_iff] <;> omega

theorem codeOf?_succ_iff {share count code : Nat} {bytes : List UInt8} :
    codeOf? share (count + 1) bytes = some code ↔
      ∃ b rest bits, bytes = b :: rest ∧ bits < 64 ∧ b.toNat = bits + 0x80 ∧
        codeOf? (64 * share + bits) count rest = some code := by
  cases bytes with
  | nil => simp [codeOf?]
  | cons b rest =>
    rw [codeOf?]
    split
    · next none =>
      constructor
      · rintro ⟨⟩
      · rintro ⟨_, _, bits, ⟨⟩, small, value, _⟩
        rw [continuation?_iff.2 ⟨small, value⟩] at none
        cases none
    · next bits found =>
      obtain ⟨small, value⟩ := continuation?_iff.1 found
      constructor
      · exact fun read => ⟨b, rest, bits, rfl, small, value, read⟩
      · rintro ⟨_, _, other, ⟨⟩, _, value', read⟩
        rwa [show bits = other by omega]

theorem codeOf?_iff {share count code : Nat} {bytes : List UInt8} :
    codeOf? share count bytes = some code ↔
      share = code / 64 ^ count ∧ ∃ front rest, bytes = front ++ rest ∧
        front.map UInt8.toNat = continued count code := by
  induction count generalizing share bytes with
  | zero =>
    rw [codeOf?, Option.some.injEq, Nat.pow_zero, Nat.div_one]
    exact (and_iff_left ⟨[], bytes, rfl, rfl⟩).symm
  | succ count ih =>
    have shares (bits : Nat) (small : bits < 64) : 64 * share + bits = code / 64 ^ count ↔
        share = code / 64 ^ (count + 1) ∧ code / 64 ^ count % 64 = bits := by
      rw [Nat.pow_succ, ← Nat.div_div_eq_div_mul]
      omega
    rw [codeOf?_succ_iff]
    constructor
    · rintro ⟨b, rest, bits, rfl, small, value, others⟩
      obtain ⟨shared, front, rest, rfl, more⟩ := ih.1 others
      obtain ⟨shared, same⟩ := (shares bits small).1 shared
      refine ⟨shared, b :: front, rest, rfl, ?_⟩
      rw [List.map_cons, more, value, continued, same]
    · rintro ⟨shared, front, rest, rfl, more⟩
      rw [continued, List.map_eq_cons_iff] at more
      obtain ⟨b, front, rfl, value, more⟩ := more
      have small : code / 64 ^ count % 64 < 64 := Nat.mod_lt _ (by decide)
      exact ⟨b, front ++ rest, _, rfl, small, value,
        ih.2 ⟨(shares _ small).2 ⟨shared, rfl⟩, front, rest, rfl, more⟩⟩

theorem isScalar_valid {count code : Nat} (scalar : IsScalar count code = true) :
    code.isValidChar := by
  unfold IsScalar at scalar
  unfold Nat.isValidChar
  split at scalar <;> simp at scalar <;> omega

theorem toNat_ofNat {code : Nat} (valid : code.isValidChar) : (Char.ofNat code).toNat = code := by
  rw [Char.ofNat, dif_pos valid]
  rfl

theorem exists_scalar (c : Char) : ∃ more < 4, IsScalar more c.toNat = true := by
  have valid : c.toNat < 0xD800 ∨ 0xDFFF < c.toNat ∧ c.toNat < 0x110000 := c.valid
  simp only [IsScalar]
  rcases Nat.lt_or_ge c.toNat 0x80 with one | one
  · exact ⟨0, by decide, by simpa using one⟩
  rcases Nat.lt_or_ge c.toNat 0x800 with two | two
  · exact ⟨1, by decide, by simp; omega⟩
  rcases Nat.lt_or_ge c.toNat 0x10000 with three | three
  · exact ⟨2, by decide, by simp; omega⟩
  · exact ⟨3, by decide, by simp; omega⟩

theorem toNat_encoded {c : Char} {more : Nat} (few : more < 4)
    (scalar : IsScalar more c.toNat = true) :
    (String.utf8EncodeChar c).map UInt8.toNat =
      (c.toNat / 64 ^ more + mark more) :: continued more c.toNat := by
  rw [String.utf8EncodeChar.eq_1, Char.toNat_val]
  match more, few with
  | 0, _ | 1, _ | 2, _ | 3, _ =>
    simp [IsScalar] at scalar
    split_ifs
    all_goals first
      | omega
      | simp only [List.map_cons, List.map_nil, UInt8.toNat_ofNat', mark, continued,
          List.cons.injEq, and_true]
        omega

theorem lead?_encoded {c : Char} {b : UInt8} {more : Nat} (few : more < 4)
    (scalar : IsScalar more c.toNat = true) (first : b.toNat = c.toNat / 64 ^ more + mark more) :
    lead? b = some (c.toNat / 64 ^ more, more) := by
  refine lead?_iff.2 ⟨first, ?_⟩
  match more, few with
  | 0, _ | 1, _ | 2, _ | 3, _ =>
    simp [IsScalar] at scalar
    omega

theorem leading?_iff {bytes : List UInt8} {c : Char} {more : Nat} :
    leading? bytes = some (c, more) ↔
      more < 4 ∧ IsScalar more c.toNat = true ∧ String.utf8EncodeChar c <+: bytes := by
  constructor
  · intro read
    cases bytes with
    | nil => cases read
    | cons b rest =>
      rw [leading?] at read
      split at read
      · cases read
      · next share count first =>
        split at read
        · cases read
        · next code found =>
          split at read
          · next scalar =>
            cases read
            obtain ⟨value, bounds⟩ := lead?_iff.1 first
            obtain ⟨rfl, front, rest, rfl, others⟩ := codeOf?_iff.1 found
            have same := toNat_ofNat (isScalar_valid scalar)
            rw [same]
            have few : more < 4 := by omega
            refine ⟨few, scalar, rest, ?_⟩
            have encoded := toNat_encoded few (same.symm ▸ scalar)
            rw [same, ← value, ← others, ← List.map_cons] at encoded
            rw [(List.map_injective_iff.2 fun _ _ => UInt8.toNat_inj.1) encoded]
            rfl
          · cases read
  · rintro ⟨few, scalar, rest, rfl⟩
    have encoded := toNat_encoded few scalar
    rw [List.map_eq_cons_iff] at encoded
    obtain ⟨b, front, same, first, others⟩ := encoded
    rw [same, List.cons_append, leading?, lead?_encoded few scalar first]
    dsimp only
    rw [codeOf?_iff.2 ⟨rfl, front, rest, rfl, others⟩]
    dsimp only
    rw [if_pos scalar, Char.ofNat_toNat]

theorem length_continued (count code : Nat) : (continued count code).length = count := by
  induction count with
  | zero => rfl
  | succ count ih => rw [continued, List.length_cons, ih]

theorem length_encoded {c : Char} {more : Nat} (few : more < 4)
    (scalar : IsScalar more c.toNat = true) : (String.utf8EncodeChar c).length = more + 1 := by
  rw [← List.length_map UInt8.toNat, toNat_encoded few scalar, List.length_cons, length_continued]

theorem decodeAfter_drop (skip : Nat) (bytes : List UInt8) :
    decodeAfter skip bytes = decode (bytes.drop skip) := by
  induction bytes generalizing skip with
  | nil => cases skip <;> rfl
  | cons b bytes ih =>
    cases skip with
    | zero => rfl
    | succ skip => exact ih skip

theorem decode_encoded (c : Char) (rest : List UInt8) :
    decode (String.utf8EncodeChar c ++ rest) = .char c :: decode rest := by
  obtain ⟨more, few, scalar⟩ := exists_scalar c
  have length := length_encoded few scalar
  have leads := leading?_iff.2 ⟨few, scalar, rest, rfl⟩
  cases same : String.utf8EncodeChar c with
  | nil =>
    rw [same] at length
    cases length
  | cons b front =>
    rw [same, List.length_cons, Nat.add_right_cancel_iff] at length
    rw [same, List.cons_append] at leads
    rw [List.cons_append, decode, decodeAfter, leads]
    dsimp only
    rw [decodeAfter_drop, ← length, List.drop_left]

theorem decode_toUTF8_append (text : String) (rest : List UInt8) :
    decode (text.toUTF8.data.toList ++ rest) = glyphs text ++ decode rest := by
  have bytes : text.toUTF8.data.toList = text.toList.flatMap String.utf8EncodeChar := by
    rw [String.toUTF8_eq_toByteArray, ← String.utf8Encode_toList, List.utf8Encode,
      List.toList_data_toByteArray]
  rw [bytes, glyphs]
  induction text.toList with
  | nil => rfl
  | cons c text ih => rw [List.flatMap_cons, List.append_assoc, decode_encoded, ih, List.map_cons,
      List.cons_append]

theorem decode_toUTF8 (text : String) : decode text.toUTF8.data.toList = glyphs text := by
  have all := decode_toUTF8_append text []
  rwa [List.append_nil, show decode [] = [] from rfl, List.append_nil] at all

theorem bytes_decodeAfter (skip : Nat) (bytes : List UInt8) :
    (decodeAfter skip bytes).flatMap Glyph.bytes = bytes.drop skip := by
  induction bytes generalizing skip with
  | nil => cases skip <;> rfl
  | cons b bytes ih =>
    cases skip with
    | succ skip => exact ih skip
    | zero =>
      rw [decodeAfter]
      split
      · next c more leads =>
        obtain ⟨few, scalar, rest, same⟩ := leading?_iff.1 leads
        have behind : bytes.drop more = rest := by
          rw [← List.drop_succ_cons (a := b), ← same, ← length_encoded few scalar, List.drop_left]
        rw [List.flatMap_cons, ih, behind, Glyph.bytes, same, List.drop_zero]
      · rw [List.flatMap_cons, ih]
        rfl

theorem bytes_decode (bytes : List UInt8) : (decode bytes).flatMap Glyph.bytes = bytes :=
  bytes_decodeAfter 0 bytes

end SessionBatch.Json

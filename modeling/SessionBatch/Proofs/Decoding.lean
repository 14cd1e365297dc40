import SessionBatch.Proofs.Scanning
import SessionBatch.Reading.Payload
import SessionBatch.Reading.Decode

namespace SessionBatch.Json

theorem absorb_append {significand all : Nat} {ds : List Nat}
    (taken : absorb significand ds = (all, [])) (es : List Nat) :
    absorb significand (ds ++ es) = absorb all es := by
  induction ds generalizing significand with
  | nil =>
    cases taken
    rfl
  | cons d ds ih =>
    rw [absorb] at taken
    rw [List.cons_append, absorb]
    split at taken
    case isTrue fits => rw [if_pos fits, ih taken]
    case isFalse => cases taken

theorem absorb_decimals {n : Nat} (small : n < significandBound) :
    absorb 0 (Text.decimals n) = (n, []) := by
  fun_induction Text.decimals n with
  | case1 n digit => simp [absorb, small]
  | case2 n large ih =>
    have value : 10 * (n / 10) + n % 10 = n := by omega
    rw [absorb_append (ih (by omega)), absorb, value, if_pos small, absorb]

theorem number?_literalOf {n : Int} (low : Id.least ≤ n) (high : n < Id.bound) :
    (literalOf n).number? = some (.integer n) := by
  have least : Id.least = -9223372036854775808 := rfl
  have bound : Id.bound = 9223372036854775808 := rfl
  have size : n.natAbs < significandBound := by
    simp only [significandBound, Nat.pow_eq]
    omega
  unfold Literal.number?
  simp only [literalOf, absorb_decimals size]
  by_cases negative : n < 0
  · have fits : ¬ (n.natAbs = 0 ∨ Nat.pow 2 63 < n.natAbs) := by
      simp only [Nat.pow_eq]
      omega
    have value : -(n.natAbs : Int) = n := by omega
    simp only [negative, decide_true, if_true, if_neg fits, value]
  · have value : (n.natAbs : Int) = n := by omega
    simp [negative, value]

end SessionBatch.Json

namespace SessionBatch.Reading
open SessionBatch.Json

theorem pieceChars_charPiece (c : Char) (rest : List Piece) :
    pieceChars none (charPiece c :: rest) = (pieceChars none rest).map (c :: ·) := by
  unfold charPiece
  split
  case h_8 =>
    split
    case isTrue control =>
      have apart : isLow c.toNat = false ∧ isHigh c.toNat = false := by
        simp only [isLow, isHigh, Bool.and_eq_false_iff, decide_eq_false_iff_not]
        omega
      rw [pieceChars.eq_def none (.code c.toNat :: rest)]
      simp [apart.1, apart.2, Char.ofNat_toNat]
    case isFalse => simp [pieceChars]
  all_goals simp [pieceChars]

theorem isStray_charPiece (c : Char) : isStray (charPiece c) = false := by
  unfold charPiece
  split
  case h_8 => split <;> rfl
  all_goals rfl

@[simp] theorem text_spelled (s : String) : text (spelled s) = .ok s := by
  have whole : pieceChars none (s.toList.map charPiece) = .ok s.toList := by
    induction s.toList with
    | nil => rfl
    | cons c cs ih => rw [List.map_cons, pieceChars_charPiece, ih]; rfl
  have clean : (s.toList.map charPiece).any isStray = false := by
    simp [isStray_charPiece]
  unfold text
  simp only [spelled, whole, clean]
  simp [bind, Except.bind, pure, Except.pure]

theorem values_nodes {d : Nat} {vs : List Value} (known : ∀ v ∈ vs, value d v.node = .ok v) :
    values d (itemNodes vs) = .ok vs := by
  induction vs with
  | nil => rfl
  | cons v vs ih =>
    rw [itemNodes, values, known v (by simp), ih fun w member => known w (by simp [member])]
    rfl

theorem memberValues_nodes {d : Nat} {ms : Members}
    (known : ∀ m ∈ ms, value d m.2.node = .ok m.2) : memberValues d (memberNodes ms) = .ok ms := by
  induction ms with
  | nil => rfl
  | cons m ms ih =>
    obtain ⟨k, v⟩ := m
    have first : value d v.node = .ok v := known (k, v) (by simp)
    rw [memberNodes, memberValues, text_spelled, first,
      ih fun n member => known n (by simp [member])]
    rfl

theorem value_node {d : Nat} {v : Value} (within : v.Within d) : value d v.node = .ok v := by
  induction within with
  | null => rfl
  | bool b => rfl
  | integer low high =>
    simp [Value.integer, Value.node, value, number?_literalOf low high]
  | string s => simp [Value.node, value, Except.map]
  | @array d vs items ih =>
    simp [Value.node, value, values_nodes ih, unlessFault, bind, Except.bind, pure, Except.pure]
  | @object d ms members ih =>
    simp [Value.node, value, memberValues_nodes ih, unlessFault, bind, Except.bind, pure,
      Except.pure]

theorem leaf_string (s : String) : leaf (Value.string s).node = .ok (.string s) :=
  value_node (.string s)

theorem leaf_integer {n : Int} (low : Id.least ≤ n) (high : n < Id.bound) :
    leaf (Value.integer n).node = .ok (.integer n) := by
  have same : leaf (Value.integer n).node = value 0 (Value.integer n).node := by
    simp [Value.integer, Value.node, leaf]
  exact same.trans (value_node (.integer low high))

end SessionBatch.Reading

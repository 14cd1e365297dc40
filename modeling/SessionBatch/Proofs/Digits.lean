import SessionBatch.Text.Blank
import SessionBatch.Text.Digit

namespace SessionBatch.Text

-- The decimal digits of a number, most significant first; zero has one.
def decimals (n : Nat) : List Nat := if n < 10 then [n] else decimals (n / 10) ++ [n % 10]

theorem toDigits_ten (n : Nat) : Nat.toDigits 10 n = (decimals n).map Nat.digitChar := by
  fun_induction decimals n with
  | case1 n small => rw [Nat.toDigits_of_lt_base small]; rfl
  | case2 n large ih =>
    rw [Nat.toDigits_eq_if (by decide), if_neg large, ih]
    simp

theorem lt_ten_of_mem_decimals {n d : Nat} (member : d ∈ decimals n) : d < 10 := by
  fun_induction decimals n with
  | case1 n small =>
    simp only [List.mem_singleton] at member
    omega
  | case2 n large ih =>
    simp only [List.mem_append, List.mem_singleton] at member
    rcases member with earlier | rfl
    · exact ih earlier
    · omega

@[simp] theorem ofDigits_decimals (n : Nat) : ofDigits 10 (decimals n) = n := by
  fun_induction decimals n with
  | case1 n small => simp [ofDigits]
  | case2 n large ih =>
    rw [ofDigits_concat, ih]
    omega

theorem length_decimals_le {n k : Nat} (positive : 0 < k) (small : n < Nat.pow 10 k) :
    (decimals n).length ≤ k := by
  have short := (Nat.length_toDigits_le_iff (b := 10) (by decide) positive).mpr small
  rwa [toDigits_ten, List.length_map] at short

theorem decimals_ne_nil (n : Nat) : decimals n ≠ [] := by
  fun_induction decimals n <;> simp

theorem decimals_ne_zero_cons (n d : Nat) (ds : List Nat) : decimals n ≠ 0 :: d :: ds := by
  fun_induction decimals n generalizing d ds with
  | case1 n small => simp
  | case2 n large ih =>
    intro same
    cases front : decimals (n / 10) with
    | nil => exact decimals_ne_nil _ front
    | cons first rest =>
      rw [front] at same
      obtain ⟨rfl, tail⟩ := List.cons.inj same
      cases rest with
      | nil =>
        have value := ofDigits_decimals (n / 10)
        rw [front] at value
        simp only [ofDigits, List.foldl_cons, List.foldl_nil] at value
        omega
      | cons second rest => exact ih second rest front

@[simp] theorem ofDigits_replicate_zero (base k : Nat) (ds : List Nat) :
    ofDigits base (List.replicate k 0 ++ ds) = ofDigits base ds := by
  unfold ofDigits
  rw [List.foldl_append]
  congr 1
  induction k with
  | zero => rfl
  | succ k ih => simpa [List.replicate_succ] using ih

def places (base k n : Nat) : List Nat := (List.range k).map fun i => n / Nat.pow base (k - 1 - i) % base

theorem places_succ (base k n : Nat) :
    places base (k + 1) n = places base k (n / base) ++ [n % base] := by
  unfold places
  rw [List.range_succ, List.map_append, List.map_singleton]
  congr 1
  · apply List.map_congr_left
    intro i member
    have below : i < k := List.mem_range.mp member
    have exponent : k + 1 - 1 - i = k - 1 - i + 1 := by omega
    rw [exponent, Nat.pow_eq, Nat.pow_eq, Nat.pow_succ', Nat.div_div_eq_div_mul]
  · simp

theorem ofDigits_places (base k n : Nat) : ofDigits base (places base k n) = n % Nat.pow base k := by
  induction k generalizing n with
  | zero => simp [places, ofDigits, Nat.mod_one]
  | succ k ih =>
    rw [places_succ, ofDigits_concat, ih, Nat.pow_eq, Nat.pow_eq, Nat.pow_succ', Nat.mod_mul]
    omega

theorem isBlank_digitChar : ∀ d < 10, isBlank d.digitChar = false := by decide

end SessionBatch.Text

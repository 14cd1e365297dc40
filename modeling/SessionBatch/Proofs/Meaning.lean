import SessionBatch.Proofs.Parsing
import SessionBatch.Reading.Decode
import SessionBatch.Reading.Payload

namespace SessionBatch.Json

-- A literal that writes an integer: it has neither a fraction nor an exponent and is not minus zero.
structure Literal.Writes (l : Literal) (n : Int) : Prop where
  noFraction : l.fraction = none
  noExponent : l.exponent = none
  value : n = if l.negative then -(Text.ofDigits 10 l.whole : Int) else Text.ofDigits 10 l.whole
  notMinusZero : l.negative = true → n ≠ 0

theorem le_foldl_digits (s : Nat) (ds : List Nat) : s ≤ ds.foldl (10 * · + ·) s := by
  induction ds generalizing s with
  | nil => exact Nat.le_refl s
  | cons d ds ih =>
    have further := ih (10 * s + d)
    rw [List.foldl_cons]
    omega

theorem absorb_iff {s n : Nat} {ds : List Nat} (small : s < significandBound) :
    absorb s ds = (n, []) ↔ ds.foldl (10 * · + ·) s = n ∧ n < significandBound := by
  induction ds generalizing s with
  | nil =>
    constructor
    · rintro ⟨⟩
      exact ⟨rfl, small⟩
    · rintro ⟨rfl, _⟩
      rfl
  | cons d ds ih =>
    rw [absorb, List.foldl_cons]
    split
    · next fits => exact ih fits
    · next large =>
      have further := le_foldl_digits (10 * s + d) ds
      constructor
      · rintro ⟨⟩
      · rintro ⟨rfl, bound⟩
        omega

theorem float_ne_integer {x : Option Decimal.Binary}
    {scaled : Decimal.Binary → Option Decimal.Binary} {negative : Bool} {n : Int} :
    (x.bind fun x => (scaled x).map fun m => Number.float ⟨negative, m⟩) ≠ some (.integer n) := by
  intro same
  obtain ⟨x, _, same⟩ := Option.bind_eq_some_iff.1 same
  obtain ⟨m, _, same⟩ := Option.map_eq_some_iff.1 same
  cases same

theorem number?_integer_iff {l : Literal} {n : Int} :
    l.number? = some (.integer n) ↔ l.Writes n ∧ Id.least ≤ n ∧ n < significandBound := by
  have least : Id.least = -9223372036854775808 := rfl
  have half : Nat.pow 2 63 = 9223372036854775808 := rfl
  have bound : significandBound = 18446744073709551616 := rfl
  have positive : 0 < significandBound := by omega
  constructor
  · intro read
    unfold Literal.number? at read
    cases taken : absorb 0 l.whole with
    | mk whole beyond =>
      rw [taken] at read
      dsimp only at read
      split at read
      · next noFraction noExponent =>
        obtain ⟨value, fits⟩ := (absorb_iff positive).1 taken
        have digits : Text.ofDigits 10 l.whole = whole := value
        split at read
        · next negative =>
          split at read
          · exact absurd read float_ne_integer
          · next within =>
            cases read
            refine ⟨⟨noFraction, noExponent, ?_, ?_⟩, ?_, ?_⟩
            · rw [if_pos negative, digits]
            · omega
            · omega
            · omega
        · next negative =>
          cases read
          refine ⟨⟨noFraction, noExponent, ?_, ?_⟩, ?_, ?_⟩
          · rw [if_neg negative, digits]
          · exact fun minus => absurd minus negative
          · omega
          · exact_mod_cast fits
      · exact absurd read float_ne_integer
  · rintro ⟨⟨noFraction, noExponent, value, notMinusZero⟩, low, high⟩
    have small : Text.ofDigits 10 l.whole < significandBound := by
      split at value <;> omega
    have taken : absorb 0 l.whole = (Text.ofDigits 10 l.whole, []) :=
      (absorb_iff positive).2 ⟨rfl, small⟩
    unfold Literal.number?
    rw [taken, noFraction, noExponent]
    dsimp only
    split
    · next negative =>
      rw [if_pos negative] at value
      have nonzero := notMinusZero negative
      rw [if_neg (by omega), value]
    · next negative =>
      rw [if_neg negative] at value
      rw [value]

end SessionBatch.Json

namespace SessionBatch.Reading
open SessionBatch.Json

-- The characters that the pieces of a string stand for: escaped surrogates come in pairs.
inductive Spells : List Piece → List Char → Prop where
  | ended : Spells [] []
  | plain {ps : List Piece} {cs : List Char} (c : Char) (more : Spells ps cs) :
      Spells (.plain (.char c) :: ps) (c :: cs)
  | short {ps : List Piece} {cs : List Char} (c : Char) (more : Spells ps cs) :
      Spells (.short c :: ps) (c :: cs)
  | code {ps : List Piece} {cs : List Char} {unit : Nat} (notHigh : isHigh unit = false)
      (notLow : isLow unit = false) (more : Spells ps cs) :
      Spells (.code unit :: ps) (Char.ofNat unit :: cs)
  | pair {ps : List Piece} {cs : List Char} {high low : Nat} (first : isHigh high = true)
      (second : isLow low = true) (more : Spells ps cs) :
      Spells (.code high :: .code low :: ps) (paired high low :: cs)

structure Decoded (q : Quoted) (s : String) : Prop where
  closed : q.fault = none
  spells : Spells q.pieces s.toList

mutual

inductive Means : Nat → Node → Value → Prop where
  | null (depth : Nat) : Means depth .null .null
  | bool (depth : Nat) (b : Bool) : Means depth (.bool b) (.bool b)
  | number (depth : Nat) {l : Literal} {n : Number} (number : l.number? = some n) :
      Means depth (.number l) (.number n)
  | string (depth : Nat) {q : Quoted} {s : String} (decoded : Decoded q s) :
      Means depth (.string q) (.string s)
  | array {depth : Nat} {nodes : List Node} {vs : List Value} (items : ItemsMean depth nodes vs) :
      Means (depth + 1) (.array nodes none) (.array vs)
  | object {depth : Nat} {ms : List (Quoted × Node)} {vs : List (String × Value)}
      (members : MembersMean depth ms vs) : Means (depth + 1) (.object ms none) (.object vs)

inductive ItemsMean : Nat → List Node → List Value → Prop where
  | nil (depth : Nat) : ItemsMean depth [] []
  | cons {depth : Nat} {node : Node} {nodes : List Node} {v : Value} {vs : List Value}
      (item : Means depth node v) (items : ItemsMean depth nodes vs) :
      ItemsMean depth (node :: nodes) (v :: vs)

inductive MembersMean : Nat → List (Quoted × Node) → List (String × Value) → Prop where
  | nil (depth : Nat) : MembersMean depth [] []
  | cons {depth : Nat} {q : Quoted} {key : String} {node : Node} {v : Value}
      {ms : List (Quoted × Node)} {vs : List (String × Value)} (decoded : Decoded q key)
      (content : Means depth node v) (members : MembersMean depth ms vs) :
      MembersMean depth ((q, node) :: ms) ((key, v) :: vs)

end

theorem unlessFault_iff {fault : Option Fault} {u : Unit} :
    unlessFault fault = .ok u ↔ fault = none := by
  cases fault <;> simp [unlessFault]

theorem ok_map_iff {ε α β : Type} {read : Except ε α} {f : α → β} {b : β} :
    read.map f = .ok b ↔ ∃ a, read = .ok a ∧ f a = b := by
  cases read <;> simp [Except.map]

theorem ok_fmap_iff {ε α β : Type} {read : Except ε α} {f : α → β} {b : β} :
    f <$> read = .ok b ↔ ∃ a, read = .ok a ∧ f a = b := ok_map_iff

theorem ok_pure_iff {ε α : Type} {a b : α} : (pure a : Except ε α) = .ok b ↔ a = b :=
  Except.ok.injEq a b ▸ Iff.rfl

theorem pieceChars_sound {fault : Option Fault} {ps : List Piece} {cs : List Char}
    (read : pieceChars fault ps = .ok cs) (whole : ps.any isStray = false) :
    fault = none ∧ Spells ps cs := by
  fun_induction pieceChars fault ps generalizing cs with
  | case1 =>
    obtain ⟨_, unbroken, rfl⟩ := ok_map_iff.1 read
    exact ⟨unlessFault_iff.1 unbroken, .ended⟩
  | case2 c ps ih =>
    obtain ⟨cs, others, rfl⟩ := ok_map_iff.1 read
    obtain ⟨closed, spells⟩ := ih others (by simpa [isStray] using whole)
    exact ⟨closed, .plain c spells⟩
  | case3 => simp [isStray] at whole
  | case4 c ps ih =>
    obtain ⟨cs, others, rfl⟩ := ok_map_iff.1 read
    obtain ⟨closed, spells⟩ := ih others (by simpa [isStray] using whole)
    exact ⟨closed, .short c spells⟩
  | case5 => cases read
  | case6 =>
    obtain ⟨_, _, read⟩ := ok_bind_iff.1 read
    cases read
  | case7 high _ first low ps second ih =>
    obtain ⟨cs, others, rfl⟩ := ok_map_iff.1 read
    obtain ⟨closed, spells⟩ := ih others (by simpa [isStray] using whole)
    exact ⟨closed, .pair first second spells⟩
  | case8 => cases read
  | case9 => cases read
  | case10 unit ps notLow notHigh ih =>
    obtain ⟨cs, others, rfl⟩ := ok_map_iff.1 read
    obtain ⟨closed, spells⟩ := ih others (by simpa [isStray] using whole)
    exact ⟨closed, .code (by simpa using notHigh) (by simpa using notLow) spells⟩

theorem isLow_of_isHigh {unit : Nat} (high : isHigh unit = true) : isLow unit = false := by
  simp only [isHigh, Bool.and_eq_true, decide_eq_true_eq] at high
  simp only [isLow, Bool.and_eq_false_iff, decide_eq_false_iff_not]
  omega

theorem Spells.decoded {ps : List Piece} {cs : List Char} (spells : Spells ps cs) :
    pieceChars none ps = .ok cs ∧ ps.any isStray = false := by
  induction spells with
  | ended => exact ⟨rfl, rfl⟩
  | plain c _ ih | short c _ ih =>
    rw [pieceChars, ih.1, List.any_cons, ih.2]
    exact ⟨rfl, rfl⟩
  | code notHigh notLow _ ih =>
    rw [pieceChars.eq_def, List.any_cons, ih.2]
    simp only [notHigh, notLow, ih.1]
    exact ⟨rfl, rfl⟩
  | pair first second _ ih =>
    rw [pieceChars.eq_def, List.any_cons, List.any_cons, ih.2]
    simp only [isLow_of_isHigh first, first, second, ih.1]
    exact ⟨rfl, rfl⟩

theorem text_iff {q : Quoted} {s : String} : text q = .ok s ↔ Decoded q s := by
  unfold text
  constructor
  · intro read
    obtain ⟨cs, pieces, read⟩ := ok_bind_iff.1 read
    split at read
    · cases read
    · next whole =>
      cases read
      obtain ⟨closed, spells⟩ := pieceChars_sound pieces (by simpa using whole)
      exact ⟨closed, by rwa [String.toList_ofList]⟩
  · intro decoded
    obtain ⟨pieces, whole⟩ := decoded.spells.decoded
    rw [decoded.closed, pieces]
    simp [whole, bind, Except.bind, pure, Except.pure, String.ofList_toList]

mutual

theorem value_iff (depth : Nat) (node : Node) (v : Value) :
    value depth node = .ok v ↔ Means depth node v := by
  cases node with
  | null =>
    constructor
    · rintro ⟨⟩
      exact .null depth
    · rintro ⟨⟩
      rfl
  | bool b =>
    constructor
    · rintro ⟨⟩
      exact .bool depth b
    · rintro ⟨⟩
      rfl
  | number l =>
    rw [value]
    constructor
    · intro read
      split at read
      · next n number =>
        cases read
        exact .number depth number
      · cases read
    · rintro ⟨⟩
      next number => rw [number]
  | string q =>
    rw [value, ok_map_iff]
    constructor
    · rintro ⟨s, decoded, rfl⟩
      exact .string depth (text_iff.1 decoded)
    · rintro ⟨⟩
      next s decoded => exact ⟨s, text_iff.2 decoded, rfl⟩
  | array nodes fault =>
    rw [value]
    constructor
    · intro read
      split at read
      · cases read
      · next positive =>
        obtain ⟨vs, items, read⟩ := ok_bind_iff.1 read
        obtain ⟨_, unbroken, read⟩ := ok_bind_iff.1 read
        cases read
        obtain ⟨depth, rfl⟩ := Nat.exists_eq_succ_of_ne_zero positive
        rw [unlessFault_iff.1 unbroken]
        exact .array ((values_iff depth nodes vs).1 items)
    · rintro ⟨⟩
      next depth vs items =>
        rw [if_neg (Nat.succ_ne_zero depth)]
        refine ok_bind_iff.2 ⟨vs, (values_iff depth nodes vs).2 items, ?_⟩
        exact ok_bind_iff.2 ⟨(), unlessFault_iff.2 rfl, rfl⟩
  | object ms fault =>
    rw [value]
    constructor
    · intro read
      split at read
      · cases read
      · next positive =>
        obtain ⟨vs, members, read⟩ := ok_bind_iff.1 read
        obtain ⟨_, unbroken, read⟩ := ok_bind_iff.1 read
        cases read
        obtain ⟨depth, rfl⟩ := Nat.exists_eq_succ_of_ne_zero positive
        rw [unlessFault_iff.1 unbroken]
        exact .object ((memberValues_iff depth ms vs).1 members)
    · rintro ⟨⟩
      next depth vs members =>
        rw [if_neg (Nat.succ_ne_zero depth)]
        refine ok_bind_iff.2 ⟨vs, (memberValues_iff depth ms vs).2 members, ?_⟩
        exact ok_bind_iff.2 ⟨(), unlessFault_iff.2 rfl, rfl⟩
  | broken fault =>
    constructor <;> rintro ⟨⟩

theorem values_iff (depth : Nat) (nodes : List Node) (vs : List Value) :
    values depth nodes = .ok vs ↔ ItemsMean depth nodes vs := by
  cases nodes with
  | nil =>
    constructor
    · rintro ⟨⟩
      exact .nil depth
    · rintro ⟨⟩
      rfl
  | cons node nodes =>
    rw [values]
    constructor
    · intro read
      obtain ⟨v, item, read⟩ := ok_bind_iff.1 read
      obtain ⟨vs, items, read⟩ := ok_bind_iff.1 read
      cases read
      exact .cons ((value_iff depth node v).1 item) ((values_iff depth nodes vs).1 items)
    · rintro ⟨⟩
      next v vs item items =>
        refine ok_bind_iff.2 ⟨v, (value_iff depth node v).2 item, ?_⟩
        exact ok_bind_iff.2 ⟨vs, (values_iff depth nodes vs).2 items, rfl⟩

theorem memberValues_iff (depth : Nat) (ms : List (Quoted × Node)) (vs : List (String × Value)) :
    memberValues depth ms = .ok vs ↔ MembersMean depth ms vs := by
  cases ms with
  | nil =>
    constructor
    · rintro ⟨⟩
      exact .nil depth
    · rintro ⟨⟩
      rfl
  | cons m ms =>
    obtain ⟨q, node⟩ := m
    rw [memberValues]
    constructor
    · intro read
      obtain ⟨key, decoded, read⟩ := ok_bind_iff.1 read
      obtain ⟨v, content, read⟩ := ok_bind_iff.1 read
      obtain ⟨vs, members, read⟩ := ok_bind_iff.1 read
      cases read
      exact .cons (text_iff.1 decoded) ((value_iff depth node v).1 content)
        ((memberValues_iff depth ms vs).1 members)
    · rintro ⟨⟩
      next key v vs decoded content members =>
        refine ok_bind_iff.2 ⟨key, text_iff.2 decoded, ?_⟩
        refine ok_bind_iff.2 ⟨v, (value_iff depth node v).2 content, ?_⟩
        exact ok_bind_iff.2 ⟨vs, (memberValues_iff depth ms vs).2 members, rfl⟩

end

theorem Means.anywhere {node : Node} {v : Value} (means : Means 0 node v) (depth : Nat) :
    Means depth node v := by
  cases means with
  | null => exact .null depth
  | bool => exact .bool depth _
  | number _ number => exact .number depth number
  | string _ decoded => exact .string depth decoded

-- A reader of what is neither an array nor an object.
structure Plain {α : Type} (read : Value → Reads α) : Prop where
  array (vs : List Value) (a : α) : read (.array vs) ≠ .ok a
  object (ms : Members) (a : α) : read (.object ms) ≠ .ok a

theorem wrong_ne_ok {α : Type} {v : Value} {wanted : Wanted} {a : α} : wrong v wanted ≠ .ok a := by
  rintro ⟨⟩

theorem plain_readId {kind : IdKind} : Plain (@readId kind) where
  array _ _ := wrong_ne_ok
  object _ _ := wrong_ne_ok

theorem plain_readUuid : Plain readUuid where
  array _ _ := wrong_ne_ok
  object _ _ := wrong_ne_ok

theorem plain_readTimestamp : Plain readTimestamp where
  array _ _ := wrong_ne_ok
  object _ _ := wrong_ne_ok

-- Such a reader finds out as much from the front of a value as from all of it.
theorem leaf_bind_iff {α : Type} {read : Value → Reads α} (plain : Plain read) (depth : Nat)
    {node : Node} {a : α} :
    (leaf node).bind read = .ok a ↔ ∃ v, Means depth node v ∧ read v = .ok a := by
  have leaf_value (same : leaf node = value 0 node)
      (flat : ∀ v, Means depth node v → Means 0 node v) :
      (leaf node).bind read = .ok a ↔ ∃ v, Means depth node v ∧ read v = .ok a := by
    rw [same, ok_bind_iff]
    constructor
    · rintro ⟨v, found, fits⟩
      exact ⟨v, ((value_iff 0 node v).1 found).anywhere depth, fits⟩
    · rintro ⟨v, means, fits⟩
      exact ⟨v, (value_iff 0 node v).2 (flat v means), fits⟩
  cases node with
  | null =>
    refine leaf_value rfl ?_
    rintro _ ⟨⟩
    exact .null 0
  | bool b =>
    refine leaf_value rfl ?_
    rintro _ ⟨⟩
    exact .bool 0 b
  | number l =>
    refine leaf_value rfl ?_
    rintro _ ⟨⟩
    next number => exact .number 0 number
  | string q =>
    refine leaf_value rfl ?_
    rintro _ ⟨⟩
    next decoded => exact .string 0 decoded
  | array nodes fault =>
    constructor
    · exact fun found => absurd found (plain.array [] a)
    · rintro ⟨_, ⟨⟩, fits⟩
      exact absurd fits (plain.array _ a)
  | object ms fault =>
    constructor
    · exact fun found => absurd found (plain.object [] a)
    · rintro ⟨_, ⟨⟩, fits⟩
      exact absurd fits (plain.object _ a)
  | broken fault =>
    refine leaf_value rfl ?_
    rintro _ ⟨⟩

end SessionBatch.Reading

import Mathlib.Data.List.Forall2
import Mathlib.Data.List.Infix
import SessionBatch.Error.Backend
import SessionBatch.Error.Batch

namespace SessionBatch

namespace Text

-- The character is this letter of a lower-case phrase, in whatever case. The Kelvin sign is a K.
def SameLetter (c letter : Char) : Prop :=
  c.toLower = letter ∨ c = '\u212A' ∧ letter = 'k'

def Contains (text phrase : String) : Prop :=
  ∃ before part after, text.toList = before ++ part ++ after ∧
    List.Forall₂ SameLetter part phrase.toList

-- A phrase in ASCII. It does not end where a dotted capital I would still go on.
structure Plain (phrase : List Char) : Prop where
  ascii : ∀ c ∈ phrase, c.toNat < 128
  closed : phrase.getLast? ≠ some 'i'

theorem Plain.tail {c : Char} {rest : List Char} (plain : Plain (c :: rest)) : Plain rest where
  ascii d within := plain.ascii d (List.mem_cons_of_mem _ within)
  closed last := plain.closed (by rw [List.getLast?_cons, last]; rfl)

theorem lowerChars_cons (c : Char) (rest : List Char) :
    lowerChars (c :: rest) = lowerChar c ++ lowerChars rest := rfl

theorem lowerChar_cases (c : Char) :
    (∃ d, lowerChar c = [d] ∧ (d.toNat < 128 → SameLetter c d)) ∨
      lowerChar c = ['i', Char.ofNat 0x307] := by
  unfold lowerChar
  by_cases kelvin : c.toNat = 0x212A
  · rw [if_pos kelvin]
    have sign : c = '\u212A' := by rw [← Char.ofNat_toNat c, kelvin]
    exact .inl ⟨'k', rfl, fun _ => .inr ⟨sign, rfl⟩⟩
  · rw [if_neg kelvin]
    by_cases dotted : c.toNat = 0x130
    · rw [if_pos dotted]
      exact .inr rfl
    · rw [if_neg dotted]
      exact .inl ⟨c.toLower, rfl, fun _ => .inl rfl⟩

theorem toNat_lt_of_toLower {c : Char} (ascii : c.toLower.toNat < 128) : c.toNat < 128 := by
  unfold Char.toLower at ascii
  split at ascii
  next upper => exact Nat.lt_of_le_of_lt (UInt32.le_iff_toNat_le.1 upper.2) (by decide)
  next => exact ascii

theorem lowerChar_of_sameLetter {c letter : Char} (ascii : letter.toNat < 128)
    (same : SameLetter c letter) : lowerChar c = [letter] := by
  rcases same with rfl | ⟨rfl, rfl⟩
  · have small := toNat_lt_of_toLower ascii
    unfold lowerChar
    rw [if_neg (by omega), if_neg (by omega)]
  · rfl

theorem lowerChars_of_same {part phrase : List Char} (ascii : ∀ c ∈ phrase, c.toNat < 128)
    (same : List.Forall₂ SameLetter part phrase) : lowerChars part = phrase := by
  induction same with
  | nil => rfl
  | cons letter _ ih =>
    rw [List.forall_mem_cons] at ascii
    rw [lowerChars_cons, lowerChar_of_sameLetter ascii.1 letter, ih ascii.2, List.singleton_append]

theorem prefix_lowerChars {phrase text : List Char} (plain : Plain phrase)
    (opens : phrase <+: lowerChars text) :
    ∃ part, part <+: text ∧ List.Forall₂ SameLetter part phrase := by
  induction text generalizing phrase with
  | nil =>
    rw [List.prefix_nil.1 opens]
    exact ⟨[], List.nil_prefix, .nil⟩
  | cons c rest ih =>
    cases phrase with
    | nil => exact ⟨[], List.nil_prefix, .nil⟩
    | cons letter others =>
      rw [lowerChars_cons] at opens
      rcases lowerChar_cases c with ⟨d, lower, same⟩ | dotted
      · rw [lower, List.singleton_append, List.cons_prefix_cons] at opens
        obtain ⟨rfl, opens⟩ := opens
        obtain ⟨part, front, alike⟩ := ih plain.tail opens
        have letter := same (plain.ascii _ List.mem_cons_self)
        exact ⟨c :: part, List.cons_prefix_cons.2 ⟨rfl, front⟩, .cons letter alike⟩
      -- The second half of a dotted I is no letter of a phrase, and its first half ends none.
      · rw [dotted, List.cons_append, List.cons_prefix_cons] at opens
        obtain ⟨rfl, opens⟩ := opens
        cases others with
        | nil => exact absurd rfl plain.closed
        | cons next _ =>
          rw [List.singleton_append, List.cons_prefix_cons] at opens
          have ascii := plain.ascii next (List.mem_cons_of_mem _ List.mem_cons_self)
          rw [opens.1] at ascii
          exact absurd ascii (by decide)

theorem infix_lowerChars {phrase text : List Char} (plain : Plain phrase)
    (within : phrase <:+: lowerChars text) :
    ∃ part, part <:+: text ∧ List.Forall₂ SameLetter part phrase := by
  induction text with
  | nil =>
    rw [List.infix_nil.1 within]
    exact ⟨[], List.nil_infix, .nil⟩
  | cons c rest ih =>
    have opens_or : phrase <+: lowerChars (c :: rest) ∨ phrase <:+: lowerChars rest := by
      rw [lowerChars_cons] at within ⊢
      rcases lowerChar_cases c with ⟨d, lower, _⟩ | dotted
      · rw [lower] at within ⊢
        exact List.infix_cons_iff.1 within
      · rw [dotted] at within ⊢
        refine (List.infix_cons_iff.1 within).imp_right fun within => ?_
        rcases List.infix_cons_iff.1 within with opens | within
        · cases phrase with
          | nil => exact List.nil_infix
          | cons letter _ =>
            have ascii := plain.ascii letter List.mem_cons_self
            rw [(List.cons_prefix_cons.1 opens).1] at ascii
            exact absurd ascii (by decide)
        · exact within
    rcases opens_or with opens | within
    · obtain ⟨part, front, alike⟩ := prefix_lowerChars plain opens
      exact ⟨part, front.isInfix, alike⟩
    · obtain ⟨part, inside, alike⟩ := ih within
      exact ⟨part, inside.trans (List.infix_cons_iff.2 (.inr List.infix_rfl)), alike⟩

theorem occursIn_iff {phrase text : List Char} :
    occursIn phrase text = true ↔ phrase <:+: text := by
  induction text with
  | nil => simp [occursIn]
  | cons c rest ih =>
    rw [occursIn, Bool.or_eq_true, ih, List.isPrefixOf_iff_prefix, List.infix_cons_iff]

theorem mentions_iff {text phrase : String} (plain : Plain phrase.toList) :
    mentions text phrase = true ↔ Contains text phrase := by
  unfold mentions Contains
  rw [occursIn_iff]
  constructor
  · intro within
    obtain ⟨part, ⟨before, after, whole⟩, alike⟩ := infix_lowerChars plain within
    exact ⟨before, part, after, whole.symm, alike⟩
  · rintro ⟨before, part, after, whole, alike⟩
    have split : lowerChars text.toList =
        lowerChars before ++ phrase.toList ++ lowerChars after := by
      rw [whole, ← lowerChars_of_same plain.ascii alike]
      unfold lowerChars
      rw [List.flatMap_append, List.flatMap_append]
    exact ⟨_, _, split.symm⟩

end Text

def StoreError.violation? : StoreError → Option (Rejection × String)
  | uniqueViolation detail => some (.uniqueViolation, detail)
  | checkViolation detail => some (.checkViolation, detail)
  | foreignKeyViolation detail => some (.foreignKeyViolation, detail)
  | _ => none

def QueryError.violation? : QueryError → Option (Rejection × String)
  | rejected .uniqueViolation detail => some (.uniqueViolation, detail)
  | rejected .checkViolation detail => some (.checkViolation, detail)
  | rejected .foreignKeyViolation detail => some (.foreignKeyViolation, detail)
  | _ => none

def Text.Passing (text : String) : Prop :=
  ∃ phrase ∈ BackendError.transientPhrases, Text.Contains text phrase

namespace BackendError

theorem transientPhrases_plain : ∀ phrase ∈ transientPhrases, Text.Plain phrase.toList := by
  have plain {phrase : String} {cs : List Char} (chars : phrase.toList = cs)
      (ascii : cs.all (·.toNat < 128) = true) (closed : cs.getLast? ≠ some 'i') :
      Text.Plain phrase.toList := by
    rw [chars]
    exact ⟨fun c within => of_decide_eq_true (List.all_eq_true.1 ascii c within), closed⟩
  unfold transientPhrases
  simp only [List.forall_mem_cons]
  refine ⟨plain String.toList_ofList ?_ ?_, plain String.toList_ofList ?_ ?_,
    plain String.toList_ofList ?_ ?_, plain String.toList_ofList ?_ ?_,
    plain String.toList_ofList ?_ ?_, plain String.toList_ofList ?_ ?_, by simp⟩
  all_goals decide

theorem retryable_unknown {text : String} :
    (unknown text).retryable = true ↔ Text.Passing text := by
  unfold retryable Text.Passing
  rw [List.any_eq_true]
  exact exists_congr fun phrase =>
    and_congr_right fun listed => Text.mentions_iff (transientPhrases_plain phrase listed)

theorem violation?_unknown (text : String) : (unknown text).toStore.violation? = none := by
  unfold toStore
  cases (unknown text).retryable <;> rfl

end BackendError

namespace QueryError

theorem violation?_toStore (q : QueryError) : q.toBackend.toStore.violation? = q.violation? := by
  cases q with
  | rejected kind detail =>
    cases kind with
    | other name => exact BackendError.violation?_unknown _
    | _ => rfl
  | notFound | brokenTransactionManager => rfl
  | _ => exact BackendError.violation?_unknown _

-- Only two rejections and a broken transaction manager are known to pass. Any other failure passes
-- just if its text says so.
theorem retryable_toBackend (q : QueryError) :
    q.toBackend.retryable = true ↔
      (∃ detail, q = .rejected .serializationFailure detail) ∨
        (∃ detail, q = .rejected .closedConnection detail) ∨ q = .brokenTransactionManager ∨
          ∃ text, q.toBackend = .unknown text ∧ Text.Passing text := by
  have told {text : String} (mapped : q.toBackend = .unknown text) :
      q.toBackend.retryable = true ↔ ∃ text, q.toBackend = .unknown text ∧ Text.Passing text := by
    rw [mapped, BackendError.retryable_unknown]
    simp
  cases q with
  | rejected kind detail =>
    cases kind with
    | other name => simpa using told rfl
    | _ => simp [toBackend, BackendError.retryable]
  | notFound | brokenTransactionManager => simp [toBackend, BackendError.retryable]
  | _ => simpa using told rfl

-- A conflict found while rolling back is told only by its words.
example :
    (rollbackFailed (rejected .serializationFailure "conflict") notFound).toBackend.retryable =
      false := by decide +kernel

end QueryError

theorem CacheError.retryable_toBackend (c : CacheError) :
    c.toBackend.retryable = true ↔
      c.isIo = true ∨ c.isConnectionDropped = true ∨ c.isTimeout = true := by
  unfold toBackend
  rw [← or_assoc, ← Bool.or_eq_true, ← Bool.or_eq_true]
  split
  next passing => exact iff_of_true rfl passing
  next lasting => exact iff_of_false nofun lasting

-- Whether a failure may be tried again is the same on every layer it passes, from the database or
-- the cache up to the batch.
theorem retryability_kept :
    (∀ e : BackendError, e.toStore.retryable = e.retryable ∧
      (BatchError.resource e.toStore).retryable = e.retryable ∧
      (∀ type session,
        (BatchError.handler type session (.store e.toStore)).retryable = e.retryable) ∧
      ∀ id, (BatchError.hook id (.store e.toStore)).retryable = e.retryable) ∧
    (∀ q : QueryError, q.toBackend.toStore.violation? = q.violation? ∧
      (q.toBackend.toStore.retryable = true ↔
        (∃ detail, q = .rejected .serializationFailure detail) ∨
          (∃ detail, q = .rejected .closedConnection detail) ∨ q = .brokenTransactionManager ∨
            ∃ text, q.toBackend = .unknown text ∧ Text.Passing text)) ∧
    ∀ c : CacheError, c.toBackend.toStore.retryable = true ↔
      c.isIo = true ∨ c.isConnectionDropped = true ∨ c.isTimeout = true := by
  refine ⟨fun e => ?_, fun q => ⟨q.violation?_toStore, ?_⟩, fun c => ?_⟩
  · have kept := e.toStore_retryable
    exact ⟨kept, kept, fun _ _ => kept, fun _ => kept⟩
  · rw [BackendError.toStore_retryable]
    exact q.retryable_toBackend
  · rw [BackendError.toStore_retryable]
    exact c.retryable_toBackend

end SessionBatch

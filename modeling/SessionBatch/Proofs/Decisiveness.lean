import Mathlib.Logic.Function.Iterate
import SessionBatch.Proofs.Retrial

namespace SessionBatch.Work

variable {σ ε δ α : Type} [Failure ε]

-- What comes between a failed call and the next one: a line that tells of it, and 15 milliseconds
-- for each call so far.
def rested (n : Nat) : Except ε α × Scene σ → Scene σ
  | (.ok _, s) => s
  | (.error e, s) =>
    let s := s.note .warn (pauseLine n (Failure.message e))
    { s with world.clock.now := s.world.clock.now + 15 * n * 1000000 }

def tries (work : Work σ ε α) (s : Scene σ) : Nat → Except ε α × Scene σ
  | 0 => work s
  | n + 1 => work (rested (n + 1) (tries work s n))

def Decisive (n : Nat) : Except ε α → Prop
  | .ok _ => True
  | .error e => Failure.retryable e = false ∨ n = 3

def waiting : Nat → Nat
  | 0 => 0
  | n + 1 => waiting n + 15 * (n + 1)

theorem waiting_le {n : Nat} (few : n ≤ 3) : waiting n ≤ 90 := by
  have most : ∀ n < 4, waiting n ≤ 90 := by decide
  exact most n (Nat.lt_succ_of_le few)

theorem now_rested {n : Nat} {call : Except ε α × Scene σ} (failed : ∀ a, call.1 ≠ .ok a) :
    (rested n call).world.clock.now = call.2.world.clock.now + 15 * n * 1000000 := by
  obtain ⟨result, t⟩ := call
  cases result with
  | ok a => exact absurd rfl (failed a)
  | error e => rfl

theorem ne_ok_of_not_decisive {n : Nat} {result : Except ε α} (undecided : ¬ Decisive n result)
    (a : α) : result ≠ .ok a := by
  rintro rfl
  exact undecided trivial

theorem tries_eq (work : Work σ ε α) (s : Scene σ) (n : Nat) :
    tries work s n = work (onset work s n) := by
  induction n with
  | zero => rfl
  | succ n ih =>
    rw [tries, ih]
    unfold onset
    rw [Retry.onset]
    cases work (Retry.onset (fun n e => pause n (Failure.message e)) (fun s => work s) s n) with
    | mk result t => cases result <;> rfl

theorem retried_tries (work : Work σ ε α) (s : Scene σ) :
    ∃ k ≤ 3, Decisive k (tries work s k).1 ∧ (∀ i < k, ¬ Decisive i (tries work s i).1) ∧
      (retried work : Work σ δ _) s = (.ok ⟨(tries work s k).1, k + 1⟩, (tries work s k).2) := by
  obtain ⟨k, ⟨result, calls⟩, t, run, tried⟩ := retried_tried (δ := δ) work s
  have few : k ≤ 3 := tried.few
  have last : tries work s k = (result, t) := (tries_eq work s k).trans tried.last
  refine ⟨k, few, ?_, ?_, ?_⟩
  · rw [last]
    cases result with
    | ok a => trivial
    | error e => exact tried.decisive e rfl
  · intro i sooner
    obtain ⟨e, u, failed, again⟩ := tried.earlier i sooner
    have failed' : tries work s i = (.error e, u) := (tries_eq work s i).trans failed
    rw [failed']
    rintro (permanent | final)
    · rw [permanent] at again
      cases again
    · omega
  · have same : calls = k + 1 := tried.calls
    rw [run, last, same]

-- Work that sees and changes nothing but its subject.
section Own

variable (f : σ → Except ε α × σ) (s : Scene σ)

def own : Work σ ε α := fun s => ((f s.subject).1, { s with subject := (f s.subject).2 })

def subjectAfter (n : Nat) : σ := (fun subject => (f subject).2)^[n] s.subject

def resultAfter (n : Nat) : Except ε α := (f (subjectAfter f s n)).1

theorem rested_rest (n : Nat) (call : Except ε α × Scene σ) :
    (rested n call).subject = call.2.subject ∧
      (rested n call).world.store = call.2.world.store ∧
      (rested n call).world.cache = call.2.world.cache := by
  obtain ⟨result, t⟩ := call
  cases result with
  | ok a => exact ⟨rfl, rfl, rfl⟩
  | error e => exact later_rest _ _

theorem tries_own (n : Nat) :
    (tries (own f) s n).1 = resultAfter f s n ∧
      (tries (own f) s n).2.subject = subjectAfter f s (n + 1) ∧
      (tries (own f) s n).2.world.store = s.world.store ∧
      (tries (own f) s n).2.world.cache = s.world.cache := by
  induction n with
  | zero => exact ⟨rfl, rfl, rfl, rfl⟩
  | succ n ih =>
    obtain ⟨_, subject, store, cache⟩ := ih
    obtain ⟨kept, store', cache'⟩ := rested_rest (n + 1) (tries (own f) s n)
    refine ⟨?_, ?_, store'.trans store, cache'.trans cache⟩
    · exact congrArg (fun subject => (f subject).1) (kept.trans subject)
    · unfold subjectAfter
      rw [Function.iterate_succ_apply']
      exact congrArg (fun subject => (f subject).2) (kept.trans subject)

theorem now_tries_own (n : Nat) (failed : ∀ i < n, ∀ a, resultAfter f s i ≠ .ok a) :
    (tries (own f) s n).2.world.clock.now = s.world.clock.now + waiting n * 1000000 := by
  induction n with
  | zero =>
    have none : waiting 0 = 0 := rfl
    rw [none, Nat.zero_mul]
    rfl
  | succ n ih =>
    have before := ih fun i sooner => failed i (Nat.lt_succ_of_lt sooner)
    have last : ∀ a, (tries (own f) s n).1 ≠ .ok a := by
      rw [(tries_own f s n).1]
      exact failed n (Nat.lt_succ_self n)
    have rest := now_rested (n := n + 1) last
    have called : (tries (own f) s (n + 1)).2.world.clock.now =
        (rested (n + 1) (tries (own f) s n)).world.clock.now := rfl
    rw [called, rest, before, waiting]
    omega

theorem retried_own :
    ∃ k t, Decisive k (resultAfter f s k) ∧ (∀ i < k, ¬ Decisive i (resultAfter f s i)) ∧
      (retried (own f) : Work σ δ _) s = (.ok ⟨resultAfter f s k, k + 1⟩, t) ∧
      t.subject = subjectAfter f s (k + 1) ∧
      t.world.clock.now = s.world.clock.now + waiting k * 1000000 ∧
      t.world.store = s.world.store ∧ t.world.cache = s.world.cache := by
  obtain ⟨k, _, decisive, first, run⟩ := retried_tries (δ := δ) (own f) s
  obtain ⟨result, subject, store, cache⟩ := tries_own f s k
  have earlier : ∀ i < k, ¬ Decisive i (resultAfter f s i) := by
    intro i sooner
    rw [← (tries_own f s i).1]
    exact first i sooner
  have failed : ∀ i < k, ∀ a, resultAfter f s i ≠ .ok a := fun i sooner =>
    ne_ok_of_not_decisive (earlier i sooner)
  rw [result] at decisive run
  exact ⟨k, _, decisive, earlier, run, subject, now_tries_own f s k failed, store, cache⟩

end Own

-- Work that is retried gives the first decisive result, as it is, and leaves what that call left.
-- Each call before it is followed by its wait. It ends after four calls and 90 milliseconds of
-- waiting at the latest.
theorem retried_decides (work : Work σ ε α) (s : Scene σ) :
    ∃ k, Decisive k (tries work s k).1 ∧
      (∀ i < k, ¬ Decisive i (tries work s i).1 ∧
        (rested (i + 1) (tries work s i)).world.clock.now =
          (tries work s i).2.world.clock.now + 15 * (i + 1) * 1000000) ∧
      (retried work : Work σ δ _) s = (.ok ⟨(tries work s k).1, k + 1⟩, (tries work s k).2) ∧
      k + 1 ≤ 4 ∧ waiting k ≤ 90 := by
  obtain ⟨k, few, decisive, first, run⟩ := retried_tries (δ := δ) work s
  have waits : ∀ i < k, ¬ Decisive i (tries work s i).1 ∧
      (rested (i + 1) (tries work s i)).world.clock.now =
        (tries work s i).2.world.clock.now + 15 * (i + 1) * 1000000 := by
    intro i sooner
    exact ⟨first i sooner, now_rested (ne_ok_of_not_decisive (first i sooner))⟩
  exact ⟨k, decisive, waits, run, Nat.succ_le_succ few, waiting_le few⟩

end SessionBatch.Work

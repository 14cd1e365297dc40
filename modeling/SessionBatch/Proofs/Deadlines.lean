import Mathlib.Data.List.Induction
import SessionBatch.Program

namespace SessionBatch

structure Handle where
  flag : Nat
  deadline : Option Nat
  deriving DecidableEq

structure Holding where
  flags : List Bool
  handles : List Handle
  now : Nat
  shared : ∀ handle ∈ handles, handle.flag < flags.length

inductive Use where
  | build (timeoutSecs : Option Nat)
  | copy (place : Nat)
  | cancel (place : Nat)
  | wait (time : Nat)

namespace Holding

def contextOf (h : Holding) (handle : Handle) : Context :=
  { cancelled := h.flags.getD handle.flag false, deadline := handle.deadline }

def isCancelled (h : Holding) (place : Nat) : Option Bool :=
  h.handles[place]?.map fun handle => (h.contextOf handle).isCancelled h.now

def built (h : Holding) (c : Context) : Holding where
  flags := h.flags ++ [c.cancelled]
  handles := h.handles ++ [⟨h.flags.length, c.deadline⟩]
  now := h.now
  shared := by
    intro handle member
    rw [List.length_append, List.length_singleton]
    rcases List.mem_append.1 member with old | new
    · exact Nat.lt_succ_of_lt (h.shared handle old)
    · rw [List.mem_singleton.1 new]
      exact Nat.lt_succ_self _

def copied (h : Holding) (place : Nat) (there : place < h.handles.length) : Holding where
  flags := h.flags
  handles := h.handles ++ [h.handles[place]]
  now := h.now
  shared := by
    intro handle member
    rcases List.mem_append.1 member with old | new
    · exact h.shared handle old
    · rw [List.mem_singleton.1 new]
      exact h.shared _ (List.getElem_mem there)

def cancelled (h : Holding) (place : Nat) (there : place < h.handles.length) : Holding where
  flags := h.flags.set h.handles[place].flag (h.contextOf h.handles[place]).cancel.cancelled
  handles := h.handles
  now := h.now
  shared := by
    rw [List.length_set]
    exact h.shared

-- Nothing comes after a use when a deadline cannot be counted or a place is empty.
def step (h : Holding) : Use → Option Holding
  | .build timeoutSecs => (Program.context? h.now timeoutSecs).map h.built
  | .copy place =>
    if there : place < h.handles.length then some (h.copied place there) else none
  | .cancel place =>
    if there : place < h.handles.length then some (h.cancelled place there) else none
  | .wait time => some { h with now := h.now + time }

def run (h : Holding) (uses : List Use) : Option Holding := uses.foldlM step h

theorem run_concat {h after : Holding} {uses : List Use} {use : Use} :
    h.run (uses ++ [use]) = some after ↔
      ∃ before, h.run uses = some before ∧ before.step use = some after := by
  unfold run
  rw [List.foldlM_append, Option.bind_eq_bind, Option.bind_eq_some_iff]
  simp

theorem run_append {h between after : Holding} {uses more : List Use}
    (first : h.run uses = some between) (second : between.run more = some after) :
    h.run (uses ++ more) = some after := by
  unfold run at first second ⊢
  rw [List.foldlM_append, first]
  exact second

end Holding

structure Kin where
  count : Nat
  places : List Nat

def Kin.after (kin : Kin) : Use → Kin
  | .build _ => { kin with count := kin.count + 1 }
  | .copy place =>
    ⟨kin.count + 1, if place ∈ kin.places then kin.places ++ [kin.count] else kin.places⟩
  | .cancel _ => kin
  | .wait _ => kin

def kinAfter (count : Nat) (uses : List Use) : Kin := uses.foldl Kin.after ⟨count + 1, [count]⟩

def Revoked (count : Nat) (uses : List Use) : Prop :=
  ∃ before place rest, uses = before ++ .cancel place :: rest ∧
    place ∈ (kinAfter count before).places

theorem kinAfter_concat (count : Nat) (uses : List Use) (use : Use) :
    kinAfter count (uses ++ [use]) = (kinAfter count uses).after use := by
  simp [kinAfter]

theorem revoked_concat {count : Nat} {uses : List Use} {use : Use} :
    Revoked count (uses ++ [use]) ↔ Revoked count uses ∨
      ∃ place, use = .cancel place ∧ place ∈ (kinAfter count uses).places := by
  constructor
  · rintro ⟨before, place, rest, split, kin⟩
    rcases List.eq_nil_or_concat rest with rfl | ⟨rest, last, rfl⟩
    · obtain ⟨rfl, ⟨⟩⟩ := List.append_inj' split rfl
      exact .inr ⟨place, rfl, kin⟩
    · rw [List.concat_eq_append, ← List.cons_append, ← List.append_assoc] at split
      exact .inl ⟨before, place, rest, (List.append_inj' split rfl).1, kin⟩
  · rintro (⟨before, place, rest, rfl, kin⟩ | ⟨place, rfl, kin⟩)
    · exact ⟨before, place, rest ++ [use], by simp, kin⟩
    · exact ⟨uses, place, [], rfl, kin⟩

theorem Revoked.append {count : Nat} {uses : List Use} (revoked : Revoked count uses)
    (more : List Use) : Revoked count (uses ++ more) := by
  obtain ⟨before, place, rest, rfl, kin⟩ := revoked
  exact ⟨before, place, rest ++ more, by simp, kin⟩

theorem getElem?_concat_iff {α : Type} {xs : List α} {x y : α} {i : Nat} :
    (xs ++ [x])[i]? = some y ↔ xs[i]? = some y ∨ i = xs.length ∧ x = y := by
  rcases Nat.lt_trichotomy i xs.length with inside | rfl | outside
  · rw [List.getElem?_append_left inside]
    simp [Nat.ne_of_lt inside]
  · simp
  · have past : (xs ++ [x]).length ≤ i := by
      rw [List.length_append]
      exact outside
    rw [List.getElem?_eq_none past, List.getElem?_eq_none (Nat.le_of_lt outside)]
    simp [Nat.ne_of_gt outside]

-- What is true of the kin of a context, and of no other, as long as it is held.
structure Kin.Holds (kin : Kin) (flag : Nat) (deadline : Option Nat) (start : Nat)
    (revoked : Prop) (h : Holding) : Prop where
  count : kin.count = h.handles.length
  within : ∀ place ∈ kin.places, place < kin.count
  own : ∀ place handle, h.handles[place]? = some handle →
    (place ∈ kin.places ↔ handle.flag = flag)
  deadline : ∀ handle ∈ h.handles, handle.flag = flag → handle.deadline = deadline
  flag : ∃ set, h.flags[flag]? = some set ∧ (set = true ↔ revoked)
  now : start ≤ h.now

namespace Kin.Holds

variable {kin : Kin} {flag start : Nat} {deadline : Option Nat} {revoked : Prop}
  {h after : Holding}

theorem started (h : Holding) (c : Context) (live : c.cancelled = false) :
    Kin.Holds ⟨h.handles.length + 1, [h.handles.length]⟩ h.flags.length c.deadline h.now False
      (h.built c) where
  count := by simp [Holding.built]
  within := by simp
  own := by
    intro place handle found
    rw [List.mem_singleton]
    rcases getElem?_concat_iff.1 found with old | ⟨rfl, rfl⟩
    · obtain ⟨before, _⟩ := List.getElem?_eq_some_iff.1 old
      have other := h.shared handle (List.mem_of_getElem? old)
      omega
    · exact iff_of_true rfl rfl
  deadline := by
    intro handle member same
    rcases List.mem_append.1 member with old | new
    · exact absurd same (Nat.ne_of_lt (h.shared handle old))
    · rw [List.mem_singleton.1 new]
  flag := ⟨c.cancelled, by simp [Holding.built], by simp [live]⟩
  now := Nat.le_refl _

theorem flag_lt (holds : kin.Holds flag deadline start revoked h) : flag < h.flags.length := by
  obtain ⟨_, found, _⟩ := holds.flag
  exact (List.getElem?_eq_some_iff.1 found).1

theorem built (holds : kin.Holds flag deadline start revoked h) (c : Context)
    (timeoutSecs : Option Nat) :
    (kin.after (.build timeoutSecs)).Holds flag deadline start revoked (h.built c) where
  count := by simp [Kin.after, Holding.built, holds.count]
  within place member := Nat.lt_succ_of_lt (holds.within place member)
  own := by
    intro place handle found
    rcases getElem?_concat_iff.1 found with old | ⟨rfl, rfl⟩
    · exact holds.own place handle old
    · have apart := holds.flag_lt
      have beyond := holds.within h.handles.length
      rw [holds.count] at beyond
      exact iff_of_false (fun member => absurd (beyond member) (Nat.lt_irrefl _))
        (Nat.ne_of_gt apart)
  deadline := by
    intro handle member same
    rcases List.mem_append.1 member with old | new
    · exact holds.deadline handle old same
    · rw [List.mem_singleton.1 new] at same
      exact absurd same (Nat.ne_of_gt holds.flag_lt)
  flag := by
    obtain ⟨set, found, known⟩ := holds.flag
    exact ⟨set, (List.getElem?_append_left holds.flag_lt).trans found, known⟩
  now := holds.now

theorem copied (holds : kin.Holds flag deadline start revoked h) {place : Nat}
    (there : place < h.handles.length) :
    (kin.after (.copy place)).Holds flag deadline start revoked (h.copied place there) where
  count := by simp [Kin.after, Holding.copied, holds.count]
  within := by
    intro other member
    dsimp only [Kin.after] at member ⊢
    split at member
    · rcases List.mem_append.1 member with old | new
      · exact Nat.lt_succ_of_lt (holds.within other old)
      · rw [List.mem_singleton.1 new]
        exact Nat.lt_succ_self _
    · exact Nat.lt_succ_of_lt (holds.within other member)
  own := by
    intro other handle found
    have source := holds.own place _ (List.getElem?_eq_getElem there)
    dsimp only [Kin.after]
    rcases getElem?_concat_iff.1 found with old | ⟨rfl, rfl⟩
    · obtain ⟨before, _⟩ := List.getElem?_eq_some_iff.1 old
      rw [← holds.own other handle old]
      have apart : other ≠ kin.count := by
        rw [holds.count]
        exact Nat.ne_of_lt before
      split <;> simp [apart]
    · have beyond := holds.within h.handles.length
      rw [← source, holds.count]
      rw [holds.count] at beyond
      split
      · next kinship => simp [kinship]
      · next stranger =>
        exact iff_of_false (fun member => absurd (beyond member) (Nat.lt_irrefl _)) stranger
  deadline := by
    intro handle member
    rcases List.mem_append.1 member with old | new
    · exact holds.deadline handle old
    · rw [List.mem_singleton.1 new]
      exact holds.deadline _ (List.getElem_mem there)
  flag := holds.flag
  now := holds.now

theorem cancelled (holds : kin.Holds flag deadline start revoked h) {place : Nat}
    (there : place < h.handles.length) :
    kin.Holds flag deadline start (revoked ∨ place ∈ kin.places) (h.cancelled place there) where
  count := holds.count
  within := holds.within
  own := holds.own
  deadline := holds.deadline
  flag := by
    obtain ⟨set, found, known⟩ := holds.flag
    have shares := holds.own place _ (List.getElem?_eq_getElem there)
    by_cases same : h.handles[place].flag = flag
    · refine ⟨true, ?_, by simp [shares.2 same]⟩
      dsimp only [Holding.cancelled]
      rw [same]
      exact List.getElem?_set_self holds.flag_lt
    · refine ⟨set, ?_, by simp [known, mt shares.1 same]⟩
      dsimp only [Holding.cancelled]
      rw [List.getElem?_set_ne same, found]
  now := holds.now

theorem step (holds : kin.Holds flag deadline start revoked h) {use : Use}
    (done : h.step use = some after) :
    (kin.after use).Holds flag deadline start
      (revoked ∨ ∃ place, use = .cancel place ∧ place ∈ kin.places) after := by
  cases use with
  | build timeoutSecs =>
    obtain ⟨c, _, rfl⟩ := Option.map_eq_some_iff.1 done
    simpa using holds.built c timeoutSecs
  | copy place =>
    rw [Holding.step] at done
    split at done
    · next there =>
      cases done
      simpa using holds.copied there
    · cases done
  | cancel place =>
    rw [Holding.step] at done
    split at done
    · next there =>
      cases done
      simpa [Kin.after] using holds.cancelled there
    · cases done
  | wait time =>
    cases done
    simpa using { holds with now := Nat.le_add_right_of_le holds.now }

-- On the uses, from the last: what came before it left the kin as it should be.
theorem run {first : Holding} {count : Nat}
    (holds : (kinAfter count []).Holds flag deadline start (Revoked count []) first)
    {uses : List Use} (done : first.run uses = some after) :
    (kinAfter count uses).Holds flag deadline start (Revoked count uses) after := by
  induction uses using List.reverseRecOn generalizing after with
  | nil =>
    cases done
    exact holds
  | append_singleton uses use ih =>
    obtain ⟨before, earlier, last⟩ := Holding.run_concat.1 done
    rw [kinAfter_concat, revoked_concat]
    exact (ih earlier).step last

theorem asked (holds : kin.Holds flag deadline start revoked h) {place : Nat}
    (member : place ∈ kin.places) :
    ∃ asked, h.isCancelled place = some asked ∧
      (asked = true ↔ revoked ∨ ∃ d, deadline = some d ∧ d ≤ h.now) := by
  have there : place < h.handles.length := holds.count ▸ holds.within place member
  have found := List.getElem?_eq_getElem there
  have shares := (holds.own place _ found).1 member
  have kept := holds.deadline _ (List.getElem_mem there) shares
  obtain ⟨set, flagged, known⟩ := holds.flag
  refine ⟨_, congrArg (Option.map _) found, ?_⟩
  simp [Context.isCancelled, Holding.contextOf, shares, kept, flagged, known, Option.any_eq_true]

end Kin.Holds

theorem revoked_nil (count : Nat) : ¬ Revoked count [] := by
  rintro ⟨before, place, rest, split, _⟩
  simp at split

theorem context?_seconds (now secs : Nat) :
    Program.context? now (some secs) =
      if now / Clock.perSecond + secs ≤ Clock.greatestSecond then
        some { deadline := some (now + secs * Clock.perSecond) }
      else none := by
  have second : (now + secs * Clock.perSecond) / Clock.perSecond = now / Clock.perSecond + secs :=
    Nat.add_mul_div_right now secs (by decide)
  rw [Program.context?, Context.withTimeout?, second]

namespace Holding

variable {h first after : Holding} {secs : Nat} {uses : List Use}

theorem holds_run (begun : h.step (.build (some secs)) = some first)
    (done : first.run uses = some after) :
    (kinAfter h.handles.length uses).Holds h.flags.length (some (h.now + secs * Clock.perSecond))
      h.now (Revoked h.handles.length uses) after := by
  obtain ⟨c, made, rfl⟩ := Option.map_eq_some_iff.1 begun
  rw [context?_seconds] at made
  split at made
  · cases made
    refine Kin.Holds.run ?_ done
    rw [eq_false (revoked_nil h.handles.length)]
    exact .started h { deadline := some (h.now + secs * Clock.perSecond) } rfl
  · cases made

theorem asked_run (begun : h.step (.build (some secs)) = some first)
    (done : first.run uses = some after) {place : Nat}
    (member : place ∈ (kinAfter h.handles.length uses).places) :
    ∃ asked, after.isCancelled place = some asked ∧
      (asked = true ↔ Revoked h.handles.length uses ∨
        secs * Clock.perSecond ≤ after.now - h.now) := by
  have holds := holds_run begun done
  obtain ⟨asked, answer, meaning⟩ := holds.asked member
  refine ⟨asked, answer, meaning.trans (or_congr_right ?_)⟩
  have later := holds.now
  simp
  omega

theorem now_le_step {use : Use} (done : h.step use = some after) : h.now ≤ after.now := by
  cases use with
  | build =>
    obtain ⟨c, _, rfl⟩ := Option.map_eq_some_iff.1 done
    exact Nat.le_refl _
  | copy place | cancel place =>
    rw [step] at done
    split at done
    · cases done
      exact Nat.le_refl _
    · cases done
  | wait time =>
    cases done
    exact Nat.le_add_right _ _

theorem now_le_run (done : h.run uses = some after) : h.now ≤ after.now := by
  induction uses using List.reverseRecOn generalizing after with
  | nil =>
    cases done
    exact Nat.le_refl _
  | append_singleton uses use ih =>
    obtain ⟨before, earlier, last⟩ := run_concat.1 done
    exact Nat.le_trans (ih earlier) (now_le_step last)

theorem asked_later (begun : h.step (.build (some secs)) = some first)
    (done : first.run uses = some after)
    (ended : Revoked h.handles.length uses ∨ secs * Clock.perSecond ≤ after.now - h.now)
    {more : List Use} {later : Holding} (further : after.run more = some later) {other : Nat}
    (member : other ∈ (kinAfter h.handles.length (uses ++ more)).places) :
    later.isCancelled other = some true := by
  obtain ⟨asked, answer, meaning⟩ := asked_run begun (run_append done further) member
  have time := now_le_run further
  rw [answer, meaning.2 (ended.imp (·.append more) fun up => by omega)]

end Holding

-- A context with a timeout is there exactly when the clock can count up to its deadline. Then any
-- copy of it, at any later time, counts as cancelled exactly when some copy was cancelled before or
-- the time is up, and from then on for ever.
theorem timeout_kept (h : Holding) (secs : Nat) :
    (h.step (.build (some secs)) = none ↔
        Clock.greatestSecond < h.now / Clock.perSecond + secs) ∧
      ∀ first, h.step (.build (some secs)) = some first →
        ∀ uses after, first.run uses = some after →
          ∀ place ∈ (kinAfter h.handles.length uses).places,
            ∃ asked, after.isCancelled place = some asked ∧
              (asked = true ↔ Revoked h.handles.length uses ∨
                secs * Clock.perSecond ≤ after.now - h.now) ∧
              (asked = true → ∀ more later, after.run more = some later →
                ∀ other ∈ (kinAfter h.handles.length (uses ++ more)).places,
                  later.isCancelled other = some true) := by
  constructor
  · rw [Holding.step, Option.map_eq_none_iff, context?_seconds]
    split
    · next within => simpa using within
    · next beyond => simpa using beyond
  · intro first begun uses after done place member
    obtain ⟨asked, answer, meaning⟩ := Holding.asked_run begun done member
    refine ⟨asked, answer, meaning, fun yes more later further other kin => ?_⟩
    exact Holding.asked_later begun done (meaning.1 yes) further kin

abbrev Sample.unheld : Holding := ⟨[], [], 0, List.forall_mem_nil _⟩

def Sample.passedOn : List Use := [.copy 0, .build none, .wait 1000000000, .copy 1, .cancel 3]

theorem timeout_kept_passed_on :
    ∃ first after later : Holding, Sample.unheld.step (.build (some 2)) = some first ∧
      first.run Sample.passedOn = some after ∧ 0 ∈ (kinAfter 0 Sample.passedOn).places ∧
      after.run [.wait 5, .copy 0] = some later ∧
      4 ∈ (kinAfter 0 (Sample.passedOn ++ [.wait 5, .copy 0])).places ∧
      later.isCancelled 4 = some true := by
  refine ⟨_, _, _, rfl, rfl, by decide, rfl, by decide, ?_⟩
  obtain ⟨asked, answer, _, lasts⟩ :=
    (timeout_kept Sample.unheld 2).2 _ rfl Sample.passedOn _ rfl 0 (by decide)
  cases answer
  exact lasts rfl [.wait 5, .copy 0] _ rfl 4 (by decide)

-- The greatest timeout that can be given stops the program.
theorem far_timeout_stops :
    (Program.run (fun _ => none) 0 (.bytes [0x5b, 0x5d])
      (CommandLine.parse ["process", "--org", "1", "--batch", "turn.json", "--timeout-secs",
        "18446744073709551615"])).status = 101 := by
  decide +kernel

end SessionBatch

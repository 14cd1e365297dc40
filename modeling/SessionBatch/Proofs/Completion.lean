import SessionBatch.Proofs.Availability
import SessionBatch.Proofs.Delivery

namespace SessionBatch

open Effect

theorem World.meet_around {w u : World} (same : w.around = u.around) :
    w.meet.1 = u.meet.1 ∧ w.meet.2.cache = u.meet.2.cache := by
  unfold around at same
  rw [Prod.mk.injEq, Prod.mk.injEq] at same
  obtain ⟨cache, _, ahead⟩ := same
  unfold meet
  simp [cache, ahead]

namespace Batch

variable {assets : Assets}

def afterQueueing (messages : List QueuedMessage) (outage : Option StoreError) : Aftermath :=
  if messages.isEmpty then {}
  else
    match outage with
    | some cause =>
      { failures :=
          [(.queueMessages, (BatchError.hook .queueMessages (.store cause)).message)] }
    | none => { applied := [.queueMessages] }

theorem Epilogue.afterQueueing {entries : List SessionEvents} {world final : World}
    {after : Aftermath} (epilogue : Epilogue assets entries world after final)
    (fits : HookId.queueMessages.Fits entries) (each : ∀ entry ∈ entries, entry.events ≠ [])
    (available : world.Available) :
    after = Batch.afterQueueing (Messages.outgoing entries) world.meet.2.cache.outage := by
  have run : entries ≠ [] → ∃ v : Scene Aftermath,
      Work.transaction (attempts assets [(.queueMessages, entries)]) ⟨{}, world⟩ = (.ok (), v) ∧
        v.subject =
          Batch.afterQueueing (Messages.outgoing entries) world.meet.2.cache.outage := by
    intro present
    have filled := outgoing_filled fits each present
    have same : ((Scene.met ⟨({} : Aftermath), world⟩).did .begun).world.cache.outage =
        world.meet.2.cache.outage := rfl
    have inside : attempts assets [(.queueMessages, entries)]
        ((Scene.met ⟨{}, world⟩).did .begun) =
        attemptHook .standard assets .queueMessages entries
          ((Scene.met ⟨{}, world⟩).did .begun) :=
      attempts_run fits filled _
    rw [attemptHook_run fits filled, same] at inside
    have some : (Messages.outgoing entries).isEmpty = false := by simpa using filled
    unfold Batch.afterQueueing
    rw [some, if_neg Bool.false_ne_true]
    cases outage : world.meet.2.cache.outage with
    | some cause =>
      rw [outage] at inside
      exact ⟨_, Work.transaction_available available inside, rfl⟩
    | none =>
      rw [outage] at inside
      exact ⟨_, Work.transaction_available available inside, rfl⟩
  cases epilogue with
  | quiet none =>
    rw [none]
    rfl
  | closed present ran =>
    obtain ⟨v, done, subject⟩ := run present
    rw [done] at ran
    cases ran
    exact subject
  | broken present ran =>
    obtain ⟨v, done, _⟩ := run present
    rw [done] at ran
    cases ran

theorem transaction_counts {s t : Scene (List Session)} {done : Nat × List HookId}
    (ran : Work.transaction (body .standard assets) (opened assets s) = (.ok done, t)) :
    done = (((s.subject.map Session.clearQueues).map (·.events.length)).foldr (· + ·) 0,
      waited assets (s.subject.map Session.clearQueues)) := by
  obtain ⟨u, inside, _⟩ := Work.transaction_ok ran
  have known := (body_follows assets s).sound inside
  rw [opened_stage] at known
  unfold Rule.body at known
  split at known
  · cases known
  · dsimp only at known
    cases made : settled assets (s.subject.map Session.clearQueues) _ <;> rw [made] at known
    · cases known
    · exact (congrArg Prod.fst (Except.ok.inj known)).symm

-- The outcome of a batch that is committed in an available world. Of the world it depends on the
-- cache alone, as the transaction after the commit finds it.
theorem process_outcome {s t : Scene (List Session)} {outcome : Outcome}
    (available : s.world.Available) (done : process .standard assets s = (.ok outcome, t)) :
    let after := afterQueueing (outgoing s.subject) s.world.meet.2.meet.2.cache.outage
    outcome =
      { sessions := s.subject.length
        eventsDispatched :=
          ((s.subject.map Session.clearQueues).map (·.events.length)).foldr (· + ·) 0
        hooksApplied := waited assets (s.subject.map Session.clearQueues)
        postCommitApplied := after.applied
        postCommitFailures := after.failures } := by
  have course : Course .standard assets s _ _ := process_course s
  rw [done] at course
  cases course with
  | empty none =>
    rw [none]
    rfl
  | @committed events hooks u _ after present valid live ran closed =>
    obtain ⟨_, opening⟩ := opened_available assets available
    obtain ⟨_, _, met⟩ := opening.meet
    obtain ⟨v, inside, _⟩ := Work.transaction_ok ran
    have same := Work.transaction_available opening inside
    rw [ran] at same
    cases same
    have follows := body_follows assets s
    have calm := (follows.calm (met.did .begun).toCalm).1
    have around := follows.around
    rw [inside] at calm around
    have later : v.world.Available := (met.did .begun).of_around calm around
    obtain ⟨entries, epilogue, fits, each, messages⟩ := committed_epilogue ran closed
    have left := epilogue.afterQueueing fits each (((later.note _ _).did _).note _ _)
    have cache : (v.concluded.world.note .info (committedLine assets events hooks)).meet.2.cache =
        s.world.meet.2.meet.2.cache := (World.meet_around around).2
    rw [messages, cache] at left
    have counts := transaction_counts ran
    rw [Prod.mk.injEq] at counts
    rw [counts.1, counts.2, left]

end Batch
end SessionBatch

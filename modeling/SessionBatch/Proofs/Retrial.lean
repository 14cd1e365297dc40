import SessionBatch.Proofs.SendQueue
import SessionBatch.Retry

namespace SessionBatch

namespace Retry

section Tries

variable {ε α σ : Type}

def onset (pause : Nat → ε → σ → σ) (operation : σ → Except ε α × σ) (s : σ) : Nat → σ
  | 0 => s
  | n + 1 =>
    match operation (onset pause operation s n) with
    | (.error e, t) => pause (n + 1) e t
    | (.ok _, t) => t

-- A decision that falls with the try after n others, all of which failed for a reason that may
-- pass.
structure Tried (mayPass : ε → Bool) (pause : Nat → ε → σ → σ) (operation : σ → Except ε α × σ)
    (most : Nat) (s : σ) (n : Nat) (decision : Decision ε α) (t : σ) : Prop where
  last : operation (onset pause operation s n) = (decision.result, t)
  calls : decision.calls = n + 1
  few : n ≤ most
  earlier : ∀ k < n, ∃ e u, operation (onset pause operation s k) = (.error e, u) ∧
    mayPass e = true
  decisive : ∀ e, decision.result = .error e → mayPass e = false ∨ n = most

variable (mayPass : ε → Bool) (pause : Nat → ε → σ → σ) (operation : σ → Except ε α × σ)

theorem attempts_tried (s : σ) (calls left : Nat)
    (earlier : ∀ k < calls, ∃ e u, operation (onset pause operation s k) = (.error e, u) ∧
      mayPass e = true) :
    ∃ n, Tried mayPass pause operation (calls + left) s n
      (attempts mayPass pause operation calls left (onset pause operation s calls)).1
      (attempts mayPass pause operation calls left (onset pause operation s calls)).2 := by
  induction left generalizing calls with
  | zero => exact ⟨calls, rfl, rfl, Nat.le_refl _, earlier, fun _ _ => .inr rfl⟩
  | succ left ih =>
    rw [attempts]
    rcases ran : operation (onset pause operation s calls) with ⟨e | a, t⟩
    · dsimp only
      by_cases again : mayPass e = true
      · have next : onset pause operation s (calls + 1) = pause (calls + 1) e t := by
          rw [onset, ran]
        rw [if_pos again, ← next, ← Nat.succ_add_eq_add_succ]
        refine ih (calls + 1) fun k before => ?_
        rcases Nat.lt_succ_iff_lt_or_eq.1 before with sooner | rfl
        · exact earlier k sooner
        · exact ⟨e, t, ran, again⟩
      · rw [if_neg again]
        refine ⟨calls, ran, rfl, by omega, earlier, fun _ same => ?_⟩
        cases same
        exact .inl (by simpa using again)
    · refine ⟨calls, ran, rfl, by omega, earlier, fun _ same => ?_⟩
      cases same

theorem run_tried (s : σ) :
    ∃ n, Tried mayPass pause operation greatest s n (run mayPass pause operation s).1
      (run mayPass pause operation s).2 := by
  have tried := attempts_tried mayPass pause operation s 0 greatest fun k none =>
    absurd none (Nat.not_lt_zero k)
  rw [Nat.zero_add] at tried
  exact tried

end Tries
end Retry

namespace Work

variable {σ ε δ α : Type} [Failure ε]

-- The time has a name here, lest the kernel count it out.
theorem later_rest (s : Scene σ) (now : Nat) :
    ({ s with world.clock.now := now } : Scene σ).subject = s.subject ∧
      ({ s with world.clock.now := now } : Scene σ).world.store = s.world.store ∧
      ({ s with world.clock.now := now } : Scene σ).world.cache = s.world.cache :=
  ⟨rfl, rfl, rfl⟩

theorem pause_rest (n : Nat) (message : String) (s : Scene σ) :
    (pause n message s).subject = s.subject ∧ (pause n message s).world.store = s.world.store ∧
      (pause n message s).world.cache = s.world.cache := by
  unfold pause
  exact later_rest (s.note .warn (pauseLine n message)) _

def onset (work : Work σ ε α) (s : Scene σ) (n : Nat) : Scene σ :=
  Retry.onset (fun n e => pause n (Failure.message e)) (fun s => work s) s n

theorem onset_zero (work : Work σ ε α) (s : Scene σ) : onset work s 0 = s := rfl

theorem onset_succ {work : Work σ ε α} {s t : Scene σ} {n : Nat} {e : ε}
    (failed : work (onset work s n) = (.error e, t)) :
    onset work s (n + 1) = pause (n + 1) (Failure.message e) t := by
  unfold onset at failed ⊢
  rw [Retry.onset, failed]

theorem retried_tried (work : Work σ ε α) (s : Scene σ) :
    ∃ n decision t, (retried work : Work σ δ _) s = (.ok decision, t) ∧
      Retry.Tried Failure.retryable (fun n e => pause n (Failure.message e)) (fun s => work s)
        Retry.greatest s n decision t := by
  obtain ⟨n, tried⟩ := Retry.run_tried Failure.retryable
    (fun n e => pause n (Failure.message e)) (fun s => work s) s
  exact ⟨n, _, _, rfl, tried⟩

end Work

namespace Batch

open Work

variable {assets : Assets} {s t u : Scene (List Session)}

theorem process_offered {sessions again : List Session} (offered : Offered assets sessions again)
    (w : World) : process .standard assets ⟨again, w⟩ = process .standard assets ⟨sessions, w⟩ := by
  rcases offered with rfl | ⟨present, valid, rfl⟩
  · rfl
  · have filled : sessions.map Session.clearQueues ≠ [] := mt List.map_eq_nil_iff.1 present
    have valid' : validate .standard assets (sessions.map Session.clearQueues) = .ok () :=
      validate_ok_iff.2 (List.forall_mem_map.2 (validate_ok_iff.1 valid))
    have length : (sessions.map Session.clearQueues).length = sessions.length :=
      List.length_map _
    have line : startLine assets (sessions.map Session.clearQueues) =
        startLine assets sessions := by
      unfold startLine
      rw [length, List.map_map]
      rfl
    have opening : opened assets ⟨sessions.map Session.clearQueues, w⟩ =
        opened assets ⟨sessions, w⟩ := by
      unfold opened started
      dsimp only [Scene.note]
      rw [line, List.map_map]
      rfl
    have looking : (started assets ⟨sessions.map Session.clearQueues, w⟩).world =
        (started assets ⟨sessions, w⟩).world := by
      unfold started
      dsimp only [Scene.note]
      rw [line]
    rw [process_run filled, process_run present, valid', valid]
    dsimp only
    rw [opening, looking, length]

theorem Offered.trans {sessions again last : List Session} (first : Offered assets sessions again)
    (second : Offered assets again last) : Offered assets sessions last := by
  rcases second with rfl | ⟨_, _, rfl⟩
  · exact first
  · rcases first with rfl | ⟨present, valid, rfl⟩
    · exact .inr ⟨‹_›, ‹_›, rfl⟩
    · refine .inr ⟨present, valid, ?_⟩
      rw [List.map_map]
      rfl

structure Renewed (assets : Assets) (s u : Scene (List Session)) : Prop where
  store : u.world.store = s.world.store
  queues : u.world.cache.queues = s.world.cache.queues
  offered : Offered assets s.subject u.subject

theorem onset_renewed (s : Scene (List Session)) (n : Nat)
    (earlier : ∀ k < n, ∃ e u,
      process .standard assets (onset (process .standard assets) s k) = (.error e, u)) :
    Renewed assets s (onset (process .standard assets) s n) := by
  induction n with
  | zero =>
    rw [onset_zero]
    exact ⟨rfl, rfl, .inl rfl⟩
  | succ n ih =>
    have before := ih fun k sooner => earlier k (Nat.lt_succ_of_lt sooner)
    obtain ⟨e, u, failed⟩ := earlier n (Nat.lt_succ_self n)
    obtain ⟨store, queues, offered⟩ := process_failed failed
    obtain ⟨subject, store', cache⟩ := pause_rest (n + 1) (Failure.message e) u
    rw [onset_succ failed]
    refine ⟨?_, ?_, ?_⟩
    · rw [store', store, before.store]
    · rw [cache, queues, before.queues]
    · rw [subject]
      exact before.offered.trans offered

def Commits (assets : Assets) (s : Scene (List Session)) : Prop :=
  s.subject ≠ [] ∧ validate .standard assets s.subject = .ok () ∧
    (started assets s).world.look.1 = false ∧
    ∃ done t, transaction (body .standard assets) (opened assets s) = (.ok done, t)

-- What goes wrong after the commit is no failure of the batch.
theorem Commits.process_ok (commits : Commits assets s) :
    ∃ outcome t, process .standard assets s = (.ok outcome, t) := by
  obtain ⟨present, valid, live, ⟨events, hooks⟩, t, ran⟩ := commits
  obtain ⟨after, u, closed⟩ : ∃ after u, (postCommit .standard assets : Work _ BatchError _)
      (t.note .info (committedLine assets events hooks)) = (.ok after, u) :=
    postCommit_ok .standard assets _
  rw [process_run present, valid]
  dsimp only
  rw [live, if_neg Bool.false_ne_true, commit_run, ran]
  dsimp only
  rw [closed]
  exact ⟨_, _, rfl⟩

theorem Posted.countP_le {sessions : List Session} {w u : World}
    {failures : List (HookId × String)} (posted : Posted assets sessions w u failures)
    (org : OrgId) (uuid : Uuid) :
    (u.cache.queued org).countP (·.uuid = uuid) ≤
      (w.cache.queued org).countP (·.uuid = uuid) + 1 := by
  have slips : ∀ queue : List QueuedMessage, queue.countP (·.uuid = uuid) =
      (queue.map QueuedMessage.slip).countP (·.uuid = uuid) := by
    intro queue
    rw [List.countP_map]
    rfl
  have few : (sent assets sessions).countP (·.uuid = uuid) ≤ 1 := by
    have uuids := List.nodup_iff_count_le_one.1 posted.accepts.distinct uuid
    rw [List.count, List.countP_map] at uuids
    exact uuids
  rw [slips, slips, posted.queued, List.countP_append]
  refine Nat.add_le_add_left ?_ _
  split
  · rw [List.countP_map]
    exact Nat.le_trans (List.filter_sublist.countP_le) few
  · exact Nat.zero_le _

-- One batch has been applied to a store and queues as they were: the tries before it make no
-- difference, nor does the world that a batch meets on its way.
structure Applied (assets : Assets) (s : Scene (List Session)) (outcome : Outcome)
    (t : Scene (List Session)) : Prop where
  once : ∃ w : World, w.store = s.world.store ∧ w.cache.queues = s.world.cache.queues ∧
    process .standard assets ⟨s.subject, w⟩ = (.ok outcome, t)
  same : ∀ w outcome' t', w.store = s.world.store →
    process .standard assets ⟨s.subject, w⟩ = (.ok outcome', t') →
      t.world.store = t'.world.store
  queued : ∀ org uuid, (t.world.cache.queued org).countP (·.uuid = uuid) ≤
    (s.world.cache.queued org).countP (·.uuid = uuid) + 1

theorem Renewed.applied {outcome : Outcome} (renewed : Renewed assets s u)
    (done : process .standard assets u = (.ok outcome, t)) : Applied assets s outcome t := by
  have again : process .standard assets ⟨s.subject, u.world⟩ = (.ok outcome, t) :=
    (process_offered renewed.offered u.world).symm.trans done
  refine ⟨⟨u.world, renewed.store, renewed.queues, again⟩, ?_, ?_⟩
  · intro w outcome' t' store done'
    have made := process_result again
    have made' := process_result done'
    dsimp only at made made'
    rw [store, ← renewed.store, made] at made'
    exact Except.ok.inj made'
  · intro org uuid
    have most := (process_posted again).countP_le org uuid
    unfold Cache.queued at most ⊢
    dsimp only at most
    rw [renewed.queues] at most
    exact most

theorem Renewed.undone {e : BatchError} (renewed : Renewed assets s u)
    (failed : process .standard assets u = (.error e, t)) :
    t.world.store = s.world.store ∧ t.world.cache.queues = s.world.cache.queues := by
  obtain ⟨store, queues, _⟩ := process_failed failed
  exact ⟨store.trans renewed.store, queues.trans renewed.queues⟩

structure Retried (assets : Assets) (s : Scene (List Session))
    (decision : Retry.Decision BatchError Outcome) (t : Scene (List Session)) : Prop where
  applied : ∀ outcome, decision.result = .ok outcome → Applied assets s outcome t
  undone : ∀ e, decision.result = .error e →
    t.world.store = s.world.store ∧ t.world.cache.queues = s.world.cache.queues
  calls : 1 ≤ decision.calls ∧ decision.calls ≤ 4
  ended : ∀ e, decision.result = .error e → e.retryable = false ∨ decision.calls = 4
  passed : ∀ n, n + 1 < decision.calls → ∃ e u,
    process .standard assets (onset (process .standard assets) s n) = (.error e, u) ∧
      e.retryable = true
  last : ∀ n, n + 1 = decision.calls →
    process .standard assets (onset (process .standard assets) s n) = (decision.result, t)
  committed : ∀ n < decision.calls, Commits assets (onset (process .standard assets) s n) →
    n + 1 = decision.calls ∧ ∃ outcome, decision.result = .ok outcome

theorem onset_error {most n : Nat} {decision : Retry.Decision BatchError Outcome}
    (tried : Retry.Tried Failure.retryable (fun n e => pause n (Failure.message e))
      (fun s => process .standard assets s) most s n decision t) (k : Nat) (sooner : k < n) :
    ∃ e u, process .standard assets (onset (process .standard assets) s k) = (.error e, u) ∧
      e.retryable = true := tried.earlier k sooner

-- A batch that is tried again as a whole is applied once or not at all. A failure that cannot pass
-- ends the tries, and so does a commit, whatever follows it.
theorem retried_once {δ : Type} (assets : Assets) (s : Scene (List Session)) :
    ∃ decision t, (retried (process .standard assets) : Work _ δ _) s = (.ok decision, t) ∧
      Retried assets s decision t := by
  obtain ⟨n, decision, t, run, tried⟩ := retried_tried (process .standard assets) s
  refine ⟨decision, t, run, ?_⟩
  have calls : decision.calls = n + 1 := tried.calls
  have few : n ≤ 3 := tried.few
  have last : process .standard assets (onset (process .standard assets) s n) =
      (decision.result, t) := tried.last
  have renewed : Renewed assets s (onset (process .standard assets) s n) := by
    refine onset_renewed s n fun k sooner => ?_
    obtain ⟨e, u, failed, _⟩ := onset_error tried k sooner
    exact ⟨e, u, failed⟩
  refine ⟨?_, ?_, ⟨?_, ?_⟩, ?_, ?_, ?_, ?_⟩
  · intro outcome ok
    rw [ok] at last
    exact renewed.applied last
  · intro e failed
    rw [failed] at last
    exact renewed.undone last
  · omega
  · omega
  · intro e failed
    have ended : e.retryable = false ∨ n = 3 := tried.decisive e failed
    exact ended.imp_right fun most => by omega
  · intro k sooner
    exact onset_error tried k (by omega)
  · intro k at_last
    have same : k = n := by omega
    rw [same]
    exact last
  · intro k within commits
    obtain ⟨outcome, u, done⟩ := commits.process_ok
    rcases Nat.lt_or_eq_of_le (Nat.lt_succ_iff.1 (calls ▸ within)) with sooner | same
    · obtain ⟨e, v, failed, _⟩ := onset_error tried k sooner
      rw [done] at failed
      cases failed
    · rw [same, last] at done
      exact ⟨by omega, outcome, congrArg Prod.fst done⟩

end Batch

def Sample.flickering : World :=
  { people with ahead := [{ refused := some (.unavailable "away") }, {},
      { refused := some (.unavailable "away") }] }

example :
    ((Work.retried (Batch.process .standard Sample.assets) : Work _ Unit _)
      ⟨Sample.sending ⟨21⟩ "first", Sample.flickering⟩).1.toOption.map
        (fun decision => (decision.calls, decision.result.toOption.map (·.postCommitApplied))) =
      some (2, some []) := by
  decide +kernel

end SessionBatch

import SessionBatch.Proofs.Completion
import SessionBatch.Proofs.Indifference
import SessionBatch.Proofs.Resubmission

namespace SessionBatch

open Effect

-- Two worlds that are the same for the next transaction. They may differ in the cache and in all
-- that comes after it.
structure World.Alike (w u : World) : Prop where
  core : w.core = u.core
  outage : w.outage = u.outage
  refused : w.meet.1.refused = u.meet.1.refused
  commitFails : w.meet.1.commitFails = u.meet.1.commitFails

namespace World

variable {w u : World}

theorem Alike.look (alike : w.Alike u) : w.look.1 = u.look.1 ∧ w.look.2.Alike u.look.2 := by
  obtain ⟨seen, core⟩ := look_core alike.core
  exact ⟨seen, core, alike.outage, alike.refused, alike.commitFails⟩

end World

theorem Work.transaction_alike {σ α : Type} {body : Work σ BatchError α} {s t : Scene σ}
    (alike : s.world.Alike t.world)
    (inside : (body (s.met.did .begun)).1 = (body (t.met.did .begun)).1) :
    (transaction body s).1 = (transaction body t).1 := by
  obtain ⟨_, outage, refused, commitFails⟩ := alike
  cases barred : t.world.meet.1.refused with
  | some e => rw [transaction_barred barred, transaction_barred (refused.trans barred)]
  | none =>
    cases away : t.world.outage with
    | some e =>
      rw [transaction_away barred away, transaction_away (refused.trans barred) (outage.trans away)]
    | none =>
      rw [transaction_open barred away,
        transaction_open (refused.trans barred) (outage.trans away), commitFails]
      unfold closing
      rcases ran : body (s.met.did .begun) with ⟨e | a, u⟩ <;>
        rcases ran' : body (t.met.did .begun) with ⟨e' | a', v⟩ <;>
        rw [ran, ran'] at inside <;> cases inside
      · rfl
      · cases t.world.meet.1.commitFails <;> rfl

theorem Work.transaction_never {σ α : Type} {body : Work σ BatchError α} {s : Scene σ}
    {e : StoreError} (fate : s.world.fate = .refused e) :
    ∃ t, transaction body s = (.error (.resource e), t) ∧ t.subject = s.subject ∧
      t.world.cache.queues = s.world.cache.queues := by
  rcases World.fate_eq_refused.1 fate with barred | ⟨admitted, away⟩
  · exact ⟨_, transaction_barred barred, rfl, s.met_queues⟩
  · exact ⟨_, transaction_away admitted away, rfl, s.met_queues⟩

theorem Work.transaction_concluded {σ α : Type} {body : Work σ BatchError α} {s t : Scene σ} {a : α}
    (done : transaction body s = (.ok a, t)) :
    ∃ u, body (s.met.did .begun) = (.ok a, u) ∧ t = u.concluded := by
  obtain ⟨admitted, present⟩ := transaction_begins (by rw [done]; nofun)
  rw [transaction_open admitted present] at done
  rcases closed : closing s.world.meet.1.commitFails body (s.met.did .begun) with ⟨e | b, u⟩ <;>
    rw [closed] at done <;> cases done
  exact ⟨u, (closing_ok closed).2, rfl⟩

open Work

namespace Batch

variable {assets : Assets} {sessions : List Session} {s t u v : Scene (List Session)}
  {o o' : Outcome}

theorem outgoing_eq_nil_iff : outgoing sessions = [] ↔
    ∀ session ∈ sessions, ∀ event ∈ session.events, event.type ≠ .msgCreated := by
  constructor
  · intro none session within event among sends
    unfold outgoing at none
    rw [List.flatMap_eq_nil_iff] at none
    have mine := none session within
    rw [List.map_eq_nil_iff, List.filterMap_eq_nil_iff] at mine
    have message := (Messages.picks _).2 sends
    rw [mine event among] at message
    cases message
  · exact outgoing_eq_nil

-- Once a batch is committed it has no messages, or they are at the end of the org's queue, or no
-- queue is changed and the hook is on record as failed.
inductive Finale (org : OrgId) (sessions : List Session) (before after : SendQueues) :
    List HookId → List (HookId × String) → Prop
  | quiet (silent : ∀ session ∈ sessions, ∀ event ∈ session.events, event.type ≠ .msgCreated)
      (unchanged : after = before) : Finale org sessions before after [] []
  | queued (sends : ∃ session ∈ sessions, ∃ event ∈ session.events, event.type = .msgCreated)
      (extended : after.getD org [] = before.getD org [] ++ outgoing sessions)
      (others : ∀ other, other ≠ org → after.getD other [] = before.getD other []) :
      Finale org sessions before after [.queueMessages] []
  | missed {text : String}
      (sends : ∃ session ∈ sessions, ∃ event ∈ session.events, event.type = .msgCreated)
      (unchanged : after = before) :
      Finale org sessions before after [] [(.queueMessages, text)]

theorem Epilogue.finale {entries : List SessionEvents} {world final : World} {after : Aftermath}
    (epilogue : Epilogue assets entries world after final)
    (fits : HookId.queueMessages.Fits entries) (each : ∀ entry ∈ entries, entry.events ≠ [])
    (same : Messages.outgoing entries = outgoing sessions)
    (unbroken : ∀ e, world.fate ≠ .broken e) :
    Finale assets.orgId sessions world.cache.queues final.cache.queues after.applied
      after.failures := by
  have sends : entries ≠ [] →
      ∃ session ∈ sessions, ∃ event ∈ session.events, event.type = .msgCreated := by
    intro present
    have filled := outgoing_filled fits each present
    rw [same, ne_eq, outgoing_eq_nil_iff] at filled
    simpa using filled
  cases epilogue with
  | quiet none =>
    refine .quiet (outgoing_eq_nil_iff.1 ?_) rfl
    rw [← same, none]
    rfl
  | closed present ran =>
    have filled := outgoing_filled fits each present
    have queues : (Scene.met ⟨({} : Aftermath), world⟩).world.cache.queues = world.cache.queues :=
      Scene.met_queues _
    obtain ⟨x, inside, rfl⟩ := transaction_concluded ran
    rw [attempts_run fits filled, attemptHook_run fits filled] at inside
    split at inside
    · cases inside
      exact .missed (sends present) queues
    · cases inside
      refine .queued (sends present) ?_ fun other apart => ?_
      · rw [← queues, ← same]
        refine (SendQueues.getD_append ..).trans ?_
        rw [if_pos rfl]
        rfl
      · rw [← queues]
        refine (SendQueues.getD_append ..).trans ?_
        rw [if_neg apart.symm]
        rfl
  | @broken e x present ran =>
    obtain ⟨_, inside, _⟩ := attempts_delivery assets fits (outgoing_filled fits each present) world
    cases fate : world.fate with
    | refused cause =>
      obtain ⟨_, never, subject, queues⟩ := transaction_never (s := ⟨({} : Aftermath), world⟩) fate
      rw [never] at ran
      cases ran
      rw [subject]
      exact .missed (sends present) queues
    | committed =>
      obtain ⟨_, again⟩ := transaction_fate inside
      have kept : (Scene.mk ({} : Aftermath) world).world.fate = .committed := fate
      rw [kept, ran] at again
      cases again
    | broken cause => exact absurd fate (unbroken cause)

-- What was to be sent is queued as a whole or not at all, and the outcome tells which.
theorem process_finale (done : process .standard assets s = (.ok o, t))
    (kept : s.world.meet.2.meet.1.commitFails = none) :
    Finale assets.orgId s.subject s.world.cache.queues t.world.cache.queues o.postCommitApplied
      o.postCommitFailures := by
  have course : Course .standard assets s _ _ := process_course s
  rw [done] at course
  cases course with
  | empty none =>
    refine .quiet (fun session within => ?_) rfl
    rw [none] at within
    cases within
  | @committed events hooks u _ after present valid live ran closed =>
    obtain ⟨_, queues, _⟩ := transaction_committed ran
    obtain ⟨_, epilogue, fits, each, same⟩ := committed_epilogue ran closed
    rw [← queues]
    refine epilogue.finale fits each same fun e fate => ?_
    -- The body used up none of what lies ahead.
    obtain ⟨v, inside, rfl⟩ := transaction_concluded ran
    have around := (body_follows assets s).around
    rw [inside] at around
    have met : (v.concluded.world.note .info (committedLine assets events hooks)).meet.1 =
        s.world.meet.2.meet.1 := (World.meet_around around).1
    obtain ⟨_, _, fails⟩ := World.fate_eq_broken.1 fate
    rw [met, kept] at fails
    cases fails

def tally (o : Outcome) : Nat × Nat × List HookId :=
  (o.sessions, o.eventsDispatched, o.hooksApplied)

-- Whether a batch fails, and what its outcome tells of the time before the commit, is settled once
-- its transaction has ended.
theorem process_tally {registry : Registry} (s : Scene (List Session)) :
    (process registry assets s).1.map tally =
      if s.subject = [] then .ok (0, 0, [])
      else
        validate registry assets s.subject >>= fun _ =>
          if (started assets s).world.look.1 then .error (.cancelled .dispatching)
          else
            (transaction (body registry assets) (opened assets s)).1.map fun count =>
              (s.subject.length, count.1, count.2) := by
  have course : Course registry assets s _ _ := process_course s
  rcases ran : process registry assets s with ⟨result, t⟩
  rw [ran] at course
  cases course with
  | empty none =>
    rw [if_pos none]
    rfl
  | refused present problem =>
    rw [if_neg present, problem]
    rfl
  | cancelled present valid late =>
    rw [if_neg present, valid]
    simp only [late]
    rfl
  | rolledBack present valid live failed =>
    rw [if_neg present, valid]
    simp only [live, failed]
    rfl
  | committed present valid live done closed =>
    rw [if_neg present, valid]
    simp only [live, done]
    rfl

theorem opened_alike (assets : Assets) (subject : s.subject = t.subject)
    (alike : s.world.Alike t.world) :
    (started assets s).world.look.1 = (started assets t).world.look.1 ∧
      (opened assets s).subject = (opened assets t).subject ∧
      (opened assets s).world.Alike (opened assets t).world := by
  have noted : (started assets s).world.Alike (started assets t).world :=
    ⟨alike.core, alike.outage, alike.refused, alike.commitFails⟩
  obtain ⟨seen, later⟩ := noted.look
  exact ⟨seen, congrArg (List.map Session.clearQueues) subject, later⟩

theorem process_alike (assets : Assets) (subject : s.subject = t.subject)
    (alike : s.world.Alike t.world) :
    (process .standard assets s).1.map tally = (process .standard assets t).1.map tally := by
  obtain ⟨seen, subjects, later⟩ := opened_alike assets subject alike
  have same : ((opened assets s).met.did .begun).core = ((opened assets t).met.did .begun).core :=
    Scene.core_eq.2 ⟨subjects, later.core⟩
  have inside := (body_indifferent assets same fun _ member =>
    (clearQueues_fresh member).1).1
  rw [process_tally, process_tally, subject, seen, transaction_alike later inside]

-- Trouble with the cache, or with the backend once the batch is committed, is no trouble of the
-- batch. The assumption is that a transaction which has run is committed, as in-memory ones are.
theorem trouble_contained (subject : s.subject = t.subject) (alike : s.world.Alike t.world)
    (kept : s.world.meet.2.meet.1.commitFails = none)
    (kept' : t.world.meet.2.meet.1.commitFails = none) :
    (∃ e u v, process .standard assets s = (.error e, u) ∧
      process .standard assets t = (.error e, v)) ∨
    ∃ o o' u v, process .standard assets s = (.ok o, u) ∧
      process .standard assets t = (.ok o', v) ∧
      u.world.store = v.world.store ∧ u.subject = v.subject ∧
      o.sessions = o'.sessions ∧ o.eventsDispatched = o'.eventsDispatched ∧
      o.hooksApplied = o'.hooksApplied ∧
      Finale assets.orgId s.subject s.world.cache.queues u.world.cache.queues o.postCommitApplied
        o.postCommitFailures ∧
      Finale assets.orgId t.subject t.world.cache.queues v.world.cache.queues o'.postCommitApplied
        o'.postCommitFailures := by
  have settled := process_alike assets subject alike
  rcases ran : process .standard assets s with ⟨e | o, u⟩ <;>
    rcases ran' : process .standard assets t with ⟨e' | o', v⟩ <;>
    rw [ran, ran'] at settled
  · cases settled
    exact .inl ⟨e, u, v, rfl, rfl⟩
  · cases settled
  · cases settled
  · simp only [Except.map, Except.ok.injEq, tally, Prod.mk.injEq] at settled
    obtain ⟨sessions, events, hooks⟩ := settled
    have store := process_result ran
    rw [subject, (World.core_eq.1 alike.core).1, process_result ran', Except.ok.injEq] at store
    have left : u.subject = v.subject := by
      rw [process_ok_subject ran, process_ok_subject ran', subject]
    exact .inr ⟨o, o', u, v, rfl, rfl, store.symm, left, sessions, events, hooks,
      process_finale ran kept, process_finale ran' kept'⟩

end Batch
namespace Sample

def uncached : World := people.setCacheFailing true
def deserted : World := { people with ahead := [{}, { refused := some (.unavailable "away") }] }

theorem uncached_alike : uncached.Alike deserted := ⟨rfl, rfl, rfl, rfl⟩

def reported (run : Except BatchError Outcome × Scene (List Session)) : List String :=
  match run.1 with
  | .ok o => o.postCommitFailures.map Prod.snd
  | .error _ => []

end Sample

theorem trouble_contained_twice :
    Sample.uncached.Alike Sample.deserted ∧
      Sample.uncached.meet.2.meet.1.commitFails = none ∧
      Sample.deserted.meet.2.meet.1.commitFails = none ∧
      ∃ o o' u v,
        Batch.process .standard Sample.assets ⟨Sample.sendingOn.subject, Sample.uncached⟩ =
          (.ok o, u) ∧
        Batch.process .standard Sample.assets ⟨Sample.sendingOn.subject, Sample.deserted⟩ =
          (.ok o', v) ∧
        u.world.store = v.world.store ∧ o.postCommitFailures ≠ o'.postCommitFailures ∧
        u.world.cache.queues = {} ∧ v.world.cache.queues = {} := by
  have uncached : Sample.reported
      (Batch.process .standard Sample.assets ⟨Sample.sendingOn.subject, Sample.uncached⟩) =
        ["hook queue_messages failed: store unavailable: in-memory cache marked failing"] := by
    decide +kernel
  have deserted : Sample.reported
      (Batch.process .standard Sample.assets ⟨Sample.sendingOn.subject, Sample.deserted⟩) =
        ["resource error: store unavailable: away"] := by
    decide +kernel
  obtain ⟨_, _, _, failed, _⟩ | ⟨o, o', u, v, ran, ran', store, _, _, _, _, finale, finale'⟩ :=
    @Batch.trouble_contained Sample.assets ⟨Sample.sendingOn.subject, Sample.uncached⟩
      ⟨Sample.sendingOn.subject, Sample.deserted⟩ rfl Sample.uncached_alike rfl rfl
  · rw [failed] at uncached
    cases uncached
  · rw [ran] at uncached
    rw [ran'] at deserted
    have apart : o.postCommitFailures ≠ o'.postCommitFailures := by
      intro same
      have texts : Sample.reported (.ok o, u) = Sample.reported (.ok o', v) :=
        congrArg (List.map Prod.snd) same
      rw [uncached, deserted] at texts
      simp at texts
    refine ⟨Sample.uncached_alike, rfl, rfl, o, o', u, v, ran, ran', store, apart, ?_, ?_⟩
    · rcases o with ⟨_, _, _, applied, failures⟩
      cases finale with
      | missed _ unchanged => exact unchanged
      | _ => cases uncached
    · rcases o' with ⟨_, _, _, applied, failures⟩
      cases finale' with
      | missed _ unchanged => exact unchanged
      | _ => cases deserted

end SessionBatch

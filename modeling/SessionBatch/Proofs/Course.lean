import SessionBatch.Batch
import SessionBatch.Proofs.Work

namespace SessionBatch.Batch

variable (registry : Registry) (assets : Assets)

def startLine (sessions : List Session) : String :=
  "process_batch:start org_id=" ++ assets.orgId.text ++ " sessions=" ++
    toString sessions.length ++ " events=" ++
    toString ((sessions.map (·.events.length)).foldr (· + ·) 0)

def committedLine (events : Nat) (hooks : List HookId) : String :=
  "process_batch:" ++ Phase.committed.name ++ " org_id=" ++ assets.orgId.text ++ " events=" ++
    toString events ++ " hooks=" ++ toString hooks.length

def rolledBackLine (e : BatchError) : String :=
  "process_batch:" ++ Phase.rolledBack.name ++ " org_id=" ++ assets.orgId.text ++ " err=" ++
    e.message

def started (s : Scene (List Session)) : Scene (List Session) :=
  s.note .info (startLine assets s.subject)

def opened (s : Scene (List Session)) : Scene (List Session) :=
  let s := started assets s
  { subject := s.subject.map Session.clearQueues, world := s.world.look.2 }

def withdrawn (e : BatchError) (s : Scene (List Session)) : Scene (List Session) :=
  let s := s.note .warn (rolledBackLine assets e)
  { s with subject := s.subject.map Session.clearQueues }

-- The ways a batch can go. Past validation every failure clears the queues, and nothing that
-- comes after the commit is a failure of the batch.
inductive Course (s : Scene (List Session)) :
    Except BatchError Outcome → Scene (List Session) → Prop where
  | empty (none : s.subject = []) : Course s (.ok {}) (started assets s)
  | refused {e : BatchError} (present : s.subject ≠ [])
      (problem : validate registry assets s.subject = .error e) :
      Course s (.error e) (started assets s)
  | cancelled (present : s.subject ≠ []) (valid : validate registry assets s.subject = .ok ())
      (late : (started assets s).world.look.1 = true) :
      Course s (.error (.cancelled .dispatching)) (opened assets s)
  | rolledBack {e : BatchError} {t : Scene (List Session)} (present : s.subject ≠ [])
      (valid : validate registry assets s.subject = .ok ())
      (live : (started assets s).world.look.1 = false)
      (failed : Work.transaction (body registry assets) (opened assets s) = (.error e, t)) :
      Course s (.error e) (withdrawn assets e t)
  | committed {events : Nat} {hooks : List HookId} {t u : Scene (List Session)}
      {after : Aftermath} (present : s.subject ≠ [])
      (valid : validate registry assets s.subject = .ok ())
      (live : (started assets s).world.look.1 = false)
      (done : Work.transaction (body registry assets) (opened assets s) = (.ok (events, hooks), t))
      (closed : (postCommit registry assets : Work _ BatchError _)
        (t.note .info (committedLine assets events hooks)) = (.ok after, u)) :
      Course s (.ok { sessions := s.subject.length, eventsDispatched := events,
                      hooksApplied := hooks, postCommitApplied := after.applied,
                      postCommitFailures := after.failures }) u

theorem postCommit_ok {ε : Type} (s : Scene (List Session)) :
    ∃ after t, (postCommit registry assets : Work _ ε _) s = (.ok after, t) := by
  unfold postCommit gather
  simp only [Work.bind_run, Work.get_run, Work.modify_run, Work.pure_run]
  split
  · exact ⟨_, _, rfl⟩
  · simp only [Work.bind_run, Work.beside_run]
    generalize Work.transaction _ _ = run
    rcases run with ⟨_ | _, t⟩
    · simp only [Work.bind_run, Work.note_run]
      exact ⟨_, _, rfl⟩
    · exact ⟨_, _, rfl⟩

variable {registry assets}

theorem commit_run (s : Scene (List Session)) :
    commit registry assets s =
      match Work.transaction (body registry assets) s with
      | (.ok a, t) => (.ok a, t)
      | (.error e, t) => (.error e, withdrawn assets e t) := by
  unfold commit
  rw [Work.tryCatch_run]
  generalize Work.transaction (body registry assets) s = run
  rcases run with ⟨e | _, t⟩
  · simp only [Work.bind_run, Work.note_run, clearQueues, Work.modify_run, Work.throw_run]
    rfl
  · rfl

theorem process_run {s : Scene (List Session)} (present : s.subject ≠ []) :
    process registry assets s =
      match validate registry assets s.subject with
      | .error e => (.error e, started assets s)
      | .ok _ =>
        if (started assets s).world.look.1 then (.error (.cancelled .dispatching), opened assets s)
        else
          match commit registry assets (opened assets s) with
          | (.error e, t) => (.error e, t)
          | (.ok (events, hooks), t) =>
            match (postCommit registry assets : Work _ BatchError _)
              (t.note .info (committedLine assets events hooks)) with
            | (.error e, u) => (.error e, u)
            | (.ok after, u) =>
              (.ok { sessions := s.subject.length, eventsDispatched := events,
                     hooksApplied := hooks, postCommitApplied := after.applied,
                     postCommitFailures := after.failures }, u) := by
  have filled : s.subject.isEmpty = false := by simpa using present
  unfold process
  simp only [Work.bind_run, Work.get_run, Work.note_run, filled, Work.ofExcept_run, clearQueues,
    Work.modify_run, Work.ensureActive, Work.pure_run, Bool.false_eq_true, if_false]
  unfold opened started startLine committedLine
  generalize Scene.note Level.info _ s = noted
  generalize validate registry assets s.subject = verdict
  cases verdict with
  | error e => rfl
  | ok =>
    dsimp only
    generalize noted.world.look.1 = late
    cases late with
    | true => rfl
    | false =>
      simp only [Bool.false_eq_true, if_false]
      generalize commit registry assets _ = run
      rcases run with ⟨_ | ⟨events, hooks⟩, t⟩
      · rfl
      · dsimp only
        generalize postCommit registry assets _ = run
        rcases run with ⟨_ | _, _⟩ <;> rfl

theorem process_course (s : Scene (List Session)) :
    Course registry assets s (process registry assets s).1 (process registry assets s).2 := by
  by_cases present : s.subject = []
  · have filled : s.subject.isEmpty = true := by simpa using present
    unfold process
    simp only [Work.bind_run, Work.get_run, Work.note_run, filled, if_true, Work.pure_run]
    exact .empty present
  · rw [process_run present]
    cases valid : validate registry assets s.subject with
    | error e => exact .refused present valid
    | ok =>
      cases live : (started assets s).world.look.1 with
      | true => exact .cancelled present valid live
      | false =>
        simp only [commit_run, Bool.false_eq_true, if_false]
        rcases ran : Work.transaction (body registry assets) (opened assets s) with
          ⟨e | ⟨events, hooks⟩, t⟩
        · exact .rolledBack present valid live ran
        · obtain ⟨after, u, closed⟩ :
              ∃ after u, (postCommit registry assets : Work _ BatchError _)
                (t.note .info (committedLine assets events hooks)) = (.ok after, u) :=
            postCommit_ok registry assets _
          simp only [closed]
          exact .committed present valid live ran closed

end SessionBatch.Batch

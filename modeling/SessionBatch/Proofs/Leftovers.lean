import SessionBatch.Proofs.Attribution
import SessionBatch.Proofs.Rollback

namespace SessionBatch

def SameTurns (first second : List Session) : Prop :=
  first.map Session.clearQueues = second.map Session.clearQueues

def Session.Drained (session : Session) : Prop := session.preCommit = {} ∧ session.postCommit = {}

variable {first second : List Session}

theorem SameTurns.map {β : Type} {look : Session → β}
    (unseen : ∀ session : Session, look session.clearQueues = look session)
    (same : SameTurns first second) : first.map look = second.map look := by
  have seen : ∀ sessions : List Session,
      sessions.map look = (sessions.map Session.clearQueues).map look := by
    intro sessions
    rw [List.map_map]
    exact List.map_congr_left fun session _ => (unseen session).symm
  rw [seen first, seen second, same]

namespace Batch

variable {registry : Registry} {assets : Assets} {w : World}

theorem validate_clearQueues (sessions : List Session) :
    validate registry assets (sessions.map Session.clearQueues) =
      validate registry assets sessions := by
  unfold validate
  induction sessions with
  | nil => rfl
  | cons session rest ih => exact congrArg (_ >>= fun _ : Unit => ·) ih

theorem validate_present {sessions : List Session} {e : BatchError}
    (problem : validate registry assets sessions = .error e) : sessions ≠ [] := by
  rintro rfl
  cases problem

theorem startLine_same (same : SameTurns first second) :
    startLine assets first = startLine assets second := by
  have lengths : first.map (·.events.length) = second.map (·.events.length) :=
    same.map fun _ => rfl
  have count : first.length = second.length := by
    simpa using congrArg List.length lengths
  unfold startLine
  rw [lengths, count]

theorem started_same (same : SameTurns first second) :
    (started assets ⟨first, w⟩).world = (started assets ⟨second, w⟩).world :=
  congrArg (w.note .info ·) (startLine_same same)

theorem opened_same (same : SameTurns first second) :
    opened assets ⟨first, w⟩ = opened assets ⟨second, w⟩ := by
  unfold opened
  dsimp only
  rw [started_same same]
  exact congrArg (Scene.mk · _) same

theorem process_same (same : SameTurns first second)
    (valid : validate registry assets first = .ok ()) :
    process registry assets ⟨first, w⟩ = process registry assets ⟨second, w⟩ := by
  have valid' : validate registry assets second = .ok () := by
    rw [← validate_clearQueues, ← same, validate_clearQueues, valid]
  have count : first.length = second.length := by
    simpa using congrArg List.length same
  by_cases present : first = []
  · have absent : second = [] := List.length_eq_zero_iff.1 (by rw [← count, present]; rfl)
    rw [present, absent]
  · have present' : second ≠ [] := fun absent =>
      present (List.length_eq_zero_iff.1 (by rw [count, absent]; rfl))
    rw [process_run present, process_run present', valid, valid', started_same same,
      opened_same same, count]

theorem body_taken {s t : Scene (List Session)} {reached : Nat × List HookId}
    (done : body registry assets s = (.ok reached, t)) :
    ∀ session ∈ t.subject, session.preCommit = {} := by
  rw [body_run] at done
  rcases ran : dispatchAll registry assets s with ⟨e | count, u⟩ <;> rw [ran] at done
  · cases done
  · dsimp only at done
    cases found : resolve registry (collected u).1 with
    | error e =>
      rw [found] at done
      cases done
    | ok rows =>
      have applying : Work.Fixes id (fun _ => ()) (rows.forM (applyRow assets)) :=
        .forM fun _ _ => applyHook_fixes
      have kept := (applying (collected u).2).1
      rw [found] at done
      dsimp only at done
      rcases applied : rows.forM (applyRow assets) (collected u).2 with ⟨e | _, v⟩ <;>
        rw [applied] at done kept
      · cases done
      · have subject : t.subject = v.subject := congrArg (·.2.subject) done.symm
        have sessions : v.subject = u.subject.map (·.takePre.2) :=
          kept.trans (collected_subject u)
        intro session member
        rw [subject, sessions] at member
        obtain ⟨_, _, rfl⟩ := List.mem_map.1 member
        rfl

theorem process_drained {s t : Scene (List Session)} {result : Except BatchError Outcome}
    (ran : process registry assets s = (result, t))
    (passed : ∀ e, result = .error e → e.isRefusal = false) :
    ∀ session ∈ t.subject, session.Drained := by
  have course : Course registry assets s _ _ := process_course s
  rw [ran] at course
  intro session member
  cases course with
  | empty none =>
    dsimp only [started, Scene.note] at member
    rw [none] at member
    cases member
  | refused _ problem =>
    have refusal := validate_error problem
    rw [passed _ rfl] at refusal
    cases refusal
  | cancelled => exact clearQueues_fresh member
  | rolledBack => exact clearQueues_fresh member
  | @committed events hooks u _ after _ _ _ inside closed =>
    obtain ⟨v, inside, subject, _⟩ := Work.transaction_ok inside
    have given := postCommit_subject (ε := BatchError) registry assets
      (u.note .info (committedLine assets events hooks))
    rw [closed] at given
    dsimp only at given
    rw [given, Scene.note, subject] at member
    obtain ⟨before, within, rfl⟩ := List.mem_map.1 member
    exact ⟨body_taken inside before within, rfl⟩

-- What earlier attempts left in the queues is of no account: batches of the same turns end with
-- the same result in the same world. Unless they are refused at the outset, their sessions end
-- the same as well, with no event in any queue.
theorem leftovers_ignored {one two : Except BatchError Outcome} {s t : Scene (List Session)}
    (same : SameTurns first second) (ran : process registry assets ⟨first, w⟩ = (one, s))
    (ran' : process registry assets ⟨second, w⟩ = (two, t)) :
    one = two ∧ s.world = t.world ∧
      ((∃ e, one = .error e ∧ e.isRefusal = true) ∨
        s.subject = t.subject ∧ ∀ session ∈ s.subject, session.Drained) := by
  cases valid : validate registry assets first with
  | error e =>
    have valid' : validate registry assets second = .error e := by
      rw [← validate_clearQueues, ← same, validate_clearQueues, valid]
    have refused : (Except.error e, started assets ⟨first, w⟩) = (one, s) := by
      rw [← ran, process_run (validate_present valid), valid]
    have refused' : (Except.error e, started assets ⟨second, w⟩) = (two, t) := by
      rw [← ran', process_run (validate_present valid'), valid']
    cases refused
    cases refused'
    exact ⟨rfl, started_same same, .inl ⟨e, rfl, validate_error valid⟩⟩
  | ok =>
    rw [← process_same same valid, ran] at ran'
    cases ran'
    refine ⟨rfl, rfl, ?_⟩
    by_cases refused : ∃ e, one = .error e ∧ e.isRefusal = true
    · exact .inl refused
    · refine .inr ⟨rfl, process_drained ran fun e failed => ?_⟩
      rw [← Bool.not_eq_true]
      exact fun refusal => refused ⟨e, failed, refusal⟩

end Batch

namespace Sample

def littered : List Session :=
  let old : Event := ⟨⟨9⟩, moment, .msgCreated ⟨⟨21⟩, none, "old"⟩⟩
  [((turn ⟨1⟩ [.contactNameChanged "Ann"]).deferPre .commitMessages old).deferPost
    .queueMessages old]

def tidy : List Session := [turn ⟨1⟩ [.contactNameChanged "Ann"]]

end Sample

theorem leftovers_ignored_littered :
    SameTurns Sample.littered Sample.tidy ∧ Sample.littered ≠ Sample.tidy ∧
      ∃ outcome t u,
        Batch.process .standard Sample.assets ⟨Sample.littered, Sample.people⟩ =
            (.ok outcome, t) ∧
          Batch.process .standard Sample.assets ⟨Sample.tidy, Sample.people⟩ =
            (.ok outcome, u) ∧
          t.world = u.world ∧ t.subject = u.subject ∧
          ∀ session ∈ t.subject, session.Drained := by
  have same : SameTurns Sample.littered Sample.tidy := rfl
  obtain ⟨outcome, t, done⟩ := Sample.run_ok
    (r := Batch.process .standard Sample.assets ⟨Sample.littered, Sample.people⟩)
    (by decide +kernel)
  obtain ⟨outcome', u, done'⟩ := Sample.run_ok
    (r := Batch.process .standard Sample.assets ⟨Sample.tidy, Sample.people⟩)
    (by decide +kernel)
  obtain ⟨result, world, ⟨_, failed, _⟩ | ⟨subject, drained⟩⟩ :=
    Batch.leftovers_ignored same done done'
  · cases failed
  · cases result
    exact ⟨same, by decide +kernel, outcome, t, u, done, done', world, subject, drained⟩

end SessionBatch

import SessionBatch.Proofs.Commitment
import SessionBatch.Proofs.Validation

namespace SessionBatch

namespace Batch

variable {registry : Registry} {assets : Assets}

structure Sound (registry : Registry) (assets : Assets) (session : Session) : Prop where
  org : session.orgId = assets.orgId
  handled : ∀ event ∈ session.events, (registry.handler? event.type).isSome

-- What is wrong first with a session: its org comes before its events, and these in their order.
inductive Problem (registry : Registry) (assets : Assets) (session : Session) : BatchError → Prop
  | org (other : session.orgId ≠ assets.orgId) :
      Problem registry assets session (.mixedOrgs assets.orgId session.orgId)
  | event {before after : List Event} {event : Event} (org : session.orgId = assets.orgId)
      (events : session.events = before ++ event :: after)
      (handled : ∀ earlier ∈ before, (registry.handler? earlier.type).isSome)
      (missing : registry.handler? event.type = none) :
      Problem registry assets session (.missingHandler event.type)

def FirstProblem (registry : Registry) (assets : Assets) (sessions : List Session)
    (e : BatchError) : Prop :=
  ∃ before session after, sessions = before ++ session :: after ∧
    (∀ earlier ∈ before, Sound registry assets earlier) ∧ Problem registry assets session e

theorem lookup_handled {type : EventType} :
    (registry.lookup type).map (fun _ => ()) = .ok () ↔ (registry.handler? type).isSome := by
  unfold Registry.lookup
  cases registry.handler? type <;> simp [Except.map]

theorem lookup_missing {type : EventType} {e : BatchError} :
    (registry.lookup type).map (fun _ => ()) = .error e ↔
      registry.handler? type = none ∧ e = .missingHandler type := by
  unfold Registry.lookup
  cases registry.handler? type <;> simp [Except.map, eq_comm]

def check (registry : Registry) (assets : Assets) (session : Session) : Except BatchError Unit :=
  if session.orgId ≠ assets.orgId then .error (.mixedOrgs assets.orgId session.orgId)
  else session.events.forM fun event => (registry.lookup event.type).map fun _ => ()

theorem validate_eq (sessions : List Session) :
    validate registry assets sessions = sessions.forM (check registry assets) := rfl

theorem check_ok_iff {session : Session} :
    check registry assets session = .ok () ↔ Sound registry assets session := by
  unfold check
  by_cases other : session.orgId ≠ assets.orgId
  · rw [if_pos other]
    constructor
    · intro passed
      cases passed
    · intro sound
      exact absurd sound.org other
  · rw [if_neg other, checks_ok_iff]
    simp only [lookup_handled]
    exact ⟨fun handled => ⟨Decidable.not_not.1 other, handled⟩, Sound.handled⟩

theorem check_error_iff {session : Session} {e : BatchError} :
    check registry assets session = .error e ↔ Problem registry assets session e := by
  unfold check
  by_cases other : session.orgId ≠ assets.orgId
  · rw [if_pos other]
    constructor
    · intro problem
      cases problem
      exact .org other
    · intro problem
      cases problem with
      | org => rfl
      | event org => exact absurd org other
  · have org := Decidable.not_not.1 other
    rw [if_neg other, checks_error_iff]
    simp only [lookup_handled, lookup_missing]
    constructor
    · intro ⟨before, event, after, events, handled, missing, same⟩
      rw [same]
      exact .event org events handled missing
    · intro problem
      cases problem with
      | org different => exact absurd org different
      | event _ events handled missing => exact ⟨_, _, _, events, handled, missing, rfl⟩

theorem validate_error_iff {sessions : List Session} {e : BatchError} :
    validate registry assets sessions = .error e ↔ FirstProblem registry assets sessions e := by
  rw [validate_eq, checks_error_iff]
  simp only [check_ok_iff, check_error_iff]
  rfl

theorem validate_ok_iff_sound {sessions : List Session} :
    validate registry assets sessions = .ok () ↔
      ∀ session ∈ sessions, Sound registry assets session := by
  rw [validate_eq, checks_ok_iff]
  simp only [check_ok_iff]

theorem FirstProblem.refusal {sessions : List Session} {e : BatchError}
    (problem : FirstProblem registry assets sessions e) : e.isRefusal = true :=
  validate_error (validate_error_iff.2 problem)

theorem exists_firstProblem_iff {sessions : List Session} :
    (∃ e, FirstProblem registry assets sessions e) ↔
      ∃ session ∈ sessions, session.orgId ≠ assets.orgId ∨
        ∃ event ∈ session.events, registry.handler? event.type = none := by
  have unsound : (∃ e, FirstProblem registry assets sessions e) ↔
      ¬ ∀ session ∈ sessions, Sound registry assets session := by
    simp only [← validate_error_iff, ← validate_ok_iff_sound]
    cases validate registry assets sessions <;> simp
  rw [unsound]
  constructor
  · intro problem
    apply Classical.byContradiction
    intro fine
    refine problem fun session member => ⟨?_, fun event listed => ?_⟩
    · exact Decidable.not_not.1 fun other => fine ⟨session, member, .inl other⟩
    · rw [Option.isSome_iff_ne_none]
      exact fun missing => fine ⟨session, member, .inr ⟨event, listed, missing⟩⟩
  · intro ⟨session, member, problem⟩ all
    have sound := all session member
    rcases problem with other | ⟨event, listed, missing⟩
    · exact other sound.org
    · have handled := sound.handled event listed
      rw [missing] at handled
      cases handled

theorem validate_congr {other : Registry} (sessions : List Session)
    (same : ∀ type, (other.handler? type).isSome = (registry.handler? type).isSome) :
    validate other assets sessions = validate registry assets sessions := by
  have looked : ∀ type, (other.lookup type).map (fun _ => ()) =
      (registry.lookup type).map (fun _ => ()) := by
    intro type
    have handled := same type
    unfold Registry.lookup
    cases mine : registry.handler? type <;> cases theirs : other.handler? type
    · rfl
    · simp [mine, theirs] at handled
    · simp [mine, theirs] at handled
    · rfl
  unfold validate
  simp only [looked]

theorem process_refused {s : Scene (List Session)} {e : BatchError} (present : s.subject ≠ [])
    (problem : FirstProblem registry assets s.subject e) :
    process registry assets s = (.error e, started assets s) := by
  rw [process_run present, validate_error_iff.2 problem]

theorem process_refusal {s : Scene (List Session)} {e : BatchError} (refusal : e.isRefusal = true)
    (failed : (process registry assets s).1 = .error e) :
    FirstProblem registry assets s.subject e := by
  have course : Course registry assets s _ _ := process_course s
  rw [failed] at course
  generalize (process registry assets s).2 = u at course
  cases course with
  | refused _ problem => exact validate_error_iff.1 problem
  | cancelled => cases refusal
  | @rolledBack _ t _ valid _ ran =>
    -- Handlers may leave a session as they like; its events were those that were validated.
    have handled : ∀ session ∈ (opened assets s).subject, Handled registry session := by
      intro session member
      obtain ⟨before, listed, rfl⟩ := List.mem_map.1 member
      exact (validate_ok_iff.1 valid before listed).2
    obtain ⟨_, ⟨_, _, _, rfl⟩ | ⟨_, _, inside | ⟨_, rfl⟩⟩⟩ := Work.transaction_error ran
    · cases refusal
    · have own : e.isRefusal = false := body_raises handled _ e inside
      rw [refusal] at own
      cases own
    · cases refusal

-- Validation comes first: a batch is refused just when a session is of another org or an event
-- has no handler, for the first of these problems. No handler, hook or transaction has run then,
-- and nothing is changed but for the line that tells of the start.
theorem validation_precedes {s : Scene (List Session)} (present : s.subject ≠ []) :
    ((∃ e, e.isRefusal = true ∧ (process registry assets s).1 = .error e) ↔
      ∃ session ∈ s.subject, session.orgId ≠ assets.orgId ∨
        ∃ event ∈ session.events, registry.handler? event.type = none) ∧
    (∀ e, e.isRefusal = true →
      ((process registry assets s).1 = .error e ↔ FirstProblem registry assets s.subject e)) ∧
    ∀ e, FirstProblem registry assets s.subject e →
      process registry assets s = (.error e, s.note .info (startLine assets s.subject)) ∧
      ∀ other : Registry,
        (∀ type, (other.handler? type).isSome = (registry.handler? type).isSome) →
        process other assets s = process registry assets s := by
  have exact : ∀ e, e.isRefusal = true →
      ((process registry assets s).1 = .error e ↔ FirstProblem registry assets s.subject e) := by
    intro e refusal
    constructor
    · exact process_refusal refusal
    · intro problem
      rw [process_refused present problem]
  refine ⟨?_, exact, fun e problem => ⟨process_refused present problem, fun other same => ?_⟩⟩
  · rw [← exists_firstProblem_iff]
    constructor
    · intro ⟨e, refusal, failed⟩
      exact ⟨e, (exact e refusal).1 failed⟩
    · intro ⟨e, problem⟩
      exact ⟨e, problem.refusal, (exact e problem.refusal).2 problem⟩
  · have found := validate_error_iff.2 problem
    rw [← validate_congr s.subject same] at found
    rw [process_refused present problem, process_refused present (validate_error_iff.1 found)]

end Batch

namespace Sample

def narrow : Registry := { handler? := fun
  | .error => some fun _ _ => throw (.invalid "never called")
  | _ => none }

def known : Event := ⟨⟨9⟩, moment, .error "known"⟩

def leftover : Session := (turn ⟨1⟩ [.error "known"]).deferPost .queueMessages
  ⟨⟨9⟩, moment, .msgCreated ⟨⟨21⟩, none, "before"⟩⟩

def unknown : Event := ⟨⟨9⟩, moment, .msgCreated ⟨⟨22⟩, none, "unknown"⟩⟩

def unknowing : Session := { turn ⟨1⟩ [] with events := [known, unknown, unknown] }

def stranger : Session := { turn ⟨1⟩ [] with orgId := ⟨2⟩ }

def amiss : Scene (List Session) :=
  ⟨[leftover, unknowing, stranger], (people.cancel.setUnavailable true).setCacheFailing true⟩

theorem amiss_problem : Batch.FirstProblem narrow assets amiss.subject
    (.missingHandler .msgCreated) := by
  refine ⟨[leftover], unknowing, [stranger], rfl, ?_, ?_⟩
  · intro earlier member
    cases List.mem_singleton.1 member
    exact ⟨rfl, by decide⟩
  · have events : unknowing.events = [known] ++ unknown :: [unknown] := rfl
    have missing : narrow.handler? unknown.type = none := rfl
    exact .event rfl events (by decide) missing

end Sample

theorem validation_precedes_amiss :
    Sample.amiss.subject ≠ [] ∧
      Batch.FirstProblem Sample.narrow Sample.assets Sample.amiss.subject
        (.missingHandler .msgCreated) ∧
      Batch.process Sample.narrow Sample.assets Sample.amiss =
        (.error (.missingHandler .msgCreated),
          Sample.amiss.note .info (Batch.startLine Sample.assets Sample.amiss.subject)) := by
  have present : Sample.amiss.subject ≠ [] := by decide
  obtain ⟨_, _, refused⟩ := @Batch.validation_precedes Sample.narrow Sample.assets _ present
  exact ⟨present, Sample.amiss_problem, (refused _ Sample.amiss_problem).1⟩

end SessionBatch

import SessionBatch.Proofs.Checks
import SessionBatch.Proofs.Course
import SessionBatch.Proofs.Frame

namespace SessionBatch

def BatchError.isRefusal : BatchError → Bool
  | .mixedOrgs _ _ => true
  | .missingHandler _ => true
  | _ => false

namespace Batch

variable {registry : Registry} {assets : Assets}

def Handled (registry : Registry) (session : Session) : Prop :=
  ∀ event ∈ session.events, ∃ run, registry.lookup event.type = .ok run

theorem lookup_error {type : EventType} {e : BatchError}
    (missing : registry.lookup type = .error e) : e.isRefusal = true := by
  unfold Registry.lookup at missing
  split at missing <;> cases missing
  rfl

theorem validate_error {sessions : List Session} {e : BatchError}
    (problem : validate registry assets sessions = .error e) : e.isRefusal = true := by
  obtain ⟨session, _, problem⟩ := checks_error problem
  split at problem
  · cases problem
    rfl
  · obtain ⟨event, _, problem⟩ := checks_error problem
    cases found : registry.lookup event.type with
    | error cause =>
      rw [found] at problem
      cases problem
      exact lookup_error found
    | ok run =>
      rw [found] at problem
      cases problem

theorem validate_ok_iff {sessions : List Session} :
    validate registry assets sessions = .ok () ↔
      ∀ session ∈ sessions, session.orgId = assets.orgId ∧ Handled registry session := by
  unfold validate
  rw [checks_ok_iff]
  refine forall₂_congr fun session _ => ?_
  by_cases same : session.orgId = assets.orgId
  · simp only [same, ne_eq, not_true_eq_false, if_false, checks_ok_iff, true_and]
    refine forall₂_congr fun event _ => ?_
    cases registry.lookup event.type <;> simp [Except.map]
  · simp [same]

theorem dispatch_raises {event : Event} (handled : ∃ run, registry.lookup event.type = .ok run)
    (s : Scene Session) : Work.Raises (·.isRefusal = false) (dispatch registry assets event) s := by
  obtain ⟨run, found⟩ := handled
  unfold dispatch
  simp only [found]
  refine Work.Raises.bind (.of_ok (Work.get_run s)) fun session _ _ => ?_
  refine Work.Raises.bind (.of_ok (Work.ofExcept_run _ _)) fun _ _ ran => ?_
  cases ran
  refine Work.Raises.bind (.of_ok (Work.note_run _ _ _)) fun _ _ _ => ?_
  refine Work.Raises.adapt (fun _ => ?_) _
  rfl

theorem ensureActive_raises {σ : Type} {phase : Phase} (s : Scene σ) :
    Work.Raises (·.isRefusal = false) (Work.ensureActive phase) s := by
  intro e failed
  rw [Work.ensureActive_run] at failed
  cases late : s.world.look.1 <;> rw [late] at failed <;> cases failed
  rfl

theorem dispatchSession_raises {session : Session} (handled : Handled registry session)
    (world : World) :
    Work.Raises (·.isRefusal = false) (dispatchSession registry assets) ⟨session, world⟩ := by
  refine Work.Raises.bind (ensureActive_raises _) fun _ t ran => ?_
  -- A look at the context changes no session, so the events are those that were validated.
  have subject : t.subject = session := congrArg (·.2.subject) ran.symm
  refine Work.Raises.bind (.of_ok (Work.get_run t)) fun _ _ ran => ?_
  cases ran
  refine Work.Raises.bind ?_ fun _ _ _ => .of_ok (Work.pure_run _ _)
  refine Work.Raises.forM (fun event member => ?_) t
  exact dispatch_raises (handled event (subject ▸ member))

theorem applyHook_raises {σ : Type} {id : HookId} {action : HookAction}
    {entries : List SessionEvents} (s : Scene σ) :
    Work.Raises (·.isRefusal = false) (applyHook assets id action entries) s := by
  refine Work.Raises.bind (ensureActive_raises s) fun _ _ _ => ?_
  refine Work.Raises.bind (.of_ok (Work.note_run _ _ _)) fun _ _ _ => ?_
  refine Work.Raises.bind (.of_ok (Work.beside_run _ _ _)) fun ⟨result, _⟩ t _ => ?_
  refine Work.Raises.ofExcept (fun e failed => ?_) t
  cases result <;> cases failed
  rfl

theorem resolve_error {grouping : Grouping} {e : BatchError}
    (missing : resolve registry grouping = .error e) : ∃ id, e = .missingHook id := by
  obtain ⟨⟨id, entries⟩, _, problem⟩ := readings_error missing
  dsimp only at problem
  unfold Registry.lookupHook at problem
  split at problem <;> cases problem
  exact ⟨id, rfl⟩

theorem body_raises {sessions : List Session}
    (handled : ∀ session ∈ sessions, Handled registry session) (world : World) :
    Work.Raises (·.isRefusal = false) (body registry assets) ⟨sessions, world⟩ := by
  refine Work.Raises.bind ?_ fun _ t _ => ?_
  · refine Work.Raises.bind (.each (fun session member => ?_) world) fun _ _ _ =>
      .of_ok (Work.pure_run _ _)
    exact dispatchSession_raises (handled session member)
  refine Work.Raises.bind (.of_ok (Work.note_run _ _ t)) fun _ t _ => ?_
  refine Work.Raises.bind (.of_ok (a := _) rfl) fun grouping t _ => ?_
  refine Work.Raises.bind (.of_ok (Work.note_run _ _ t)) fun _ t _ => ?_
  refine Work.Raises.bind ?_ fun _ t _ => ?_
  · refine Work.Raises.bind (Work.Raises.ofExcept (fun e failed => ?_) t) fun _ t _ => ?_
    · obtain ⟨id, rfl⟩ := resolve_error failed
      rfl
    · refine Work.Raises.bind ?_ fun _ _ _ => .of_ok (Work.pure_run _ _)
      exact Work.Raises.forM (fun _ _ => applyHook_raises) t
  · exact Work.Raises.bind (ensureActive_raises t) fun _ _ _ => .of_ok (Work.pure_run _ _)

end Batch
end SessionBatch

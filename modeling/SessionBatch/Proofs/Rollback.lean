import SessionBatch.Proofs.Commitment
import SessionBatch.Proofs.Composition
import SessionBatch.Proofs.Validation

namespace SessionBatch

open Work

variable {β : Type} {look : Session → β}

def Registry.Spares (look : Session → β) (registry : Registry) : Prop :=
  ∀ type run, registry.lookup type = .ok run →
    ∀ assets event, Fixes look (fun _ => ()) (run assets event)

namespace Batch

variable {registry : Registry} {assets : Assets}

theorem dispatch_fixes (spares : registry.Spares look) (event : Event) :
    Fixes look (fun _ => ()) (dispatch registry assets event) := by
  refine .bind .get fun session => .given fun run found => ?_
  have handling := spares event.type run found assets event
  exact .bind (.note fun _ => rfl) fun _ => .adapt _ handling

theorem dispatchAll_fixes (spares : registry.Spares look) :
    Fixes (List.map look) (fun _ => ()) (dispatchAll registry assets) := by
  have one : Fixes look (fun _ => ()) (dispatchSession registry assets) :=
    .bind (.ensureActive fun _ => rfl) fun _ => .bind .get fun _ =>
      .bind (.forM fun event _ => dispatch_fixes spares event) fun _ => .pure _
  exact .bind (.each one) fun _ => .pure _

theorem applyHook_fixes {σ : Type} {look : σ → β} {id : HookId} {action : HookAction}
    {entries : List SessionEvents} :
    Fixes look (fun _ => ()) (applyHook assets id action entries) := by
  have apart : Fixes (fun _ => ()) (fun _ => ()) (action assets entries) := fun _ => ⟨rfl, rfl⟩
  exact .bind (.ensureActive fun _ => rfl) fun _ => .bind (.note fun _ => rfl) fun _ =>
    .bind (.beside apart) fun _ => .ofExcept _

-- Hooks see copies of the sessions, so what the handlers spare is spared by the whole body.
theorem body_fixes (spares : registry.Spares look)
    (taken : ∀ session : Session, look session.takePre.2 = look session) :
    Fixes (List.map look) (fun _ => ()) (body registry assets) := by
  have gathering : Fixes (List.map look) (fun _ => ())
      (gather Session.takePre : Work (List Session) BatchError Grouping) := by
    refine fun s => ⟨?_, rfl⟩
    change ((s.subject.map Session.takePre).map Prod.snd).map look = _
    rw [List.map_map, List.map_map]
    exact List.map_congr_left fun session _ => taken session
  have applying : ∀ grouping, Fixes (List.map look) (fun _ => ())
      (applyHooks registry assets grouping) :=
    fun grouping => .bind (.ofExcept _) fun _ =>
      .bind (.forM fun _ _ => applyHook_fixes) fun _ => .pure _
  exact .bind (dispatchAll_fixes spares) fun _ => .bind (.note fun _ => rfl) fun _ =>
    .bind gathering fun grouping => .bind (.note fun _ => rfl) fun _ =>
      .bind (applying grouping) fun _ => .bind (.ensureActive fun _ => rfl) fun _ => .pure _

end Batch

namespace Registry

theorem standard_spares (kept : ∀ change, Session.Defers change → ∀ session,
    look (change session) = look session) : Spares look .standard := by
  intro type run found assets event
  rw [lookup_standard] at found
  cases found
  have composed : Composed Session.Defers False (standardHandler type assets event) :=
    standardHandler_composed type assets event
  exact composed.fixes kept

end Registry

namespace Batch

variable {registry : Registry} {assets : Assets} {s t : Scene (List Session)} {e : BatchError}

theorem failed_sessions (spares : registry.Spares look)
    (taken : ∀ session : Session, look session.takePre.2 = look session)
    (failed : transaction (body registry assets) s = (.error e, t)) :
    t.subject.map look = s.subject.map look := by
  obtain ⟨_, ⟨subject, _⟩ | ⟨subject, _⟩⟩ := transaction_error failed
  · rw [subject]
  · rw [subject]
    exact (body_fixes spares taken _).1

theorem failed_length
    (failed : transaction (body registry assets) (opened assets s) = (.error e, t)) :
    t.subject.length = s.subject.length := by
  have count : t.subject.map (fun _ => ()) = (opened assets s).subject.map fun _ => () :=
    failed_sessions (fun _ _ _ _ _ _ => ⟨rfl, rfl⟩) (fun _ => rfl) failed
  have same := congrArg List.length count
  rw [List.length_map, List.length_map] at same
  exact same.trans (List.length_map _)

theorem failed_standard
    (failed : transaction (body .standard assets) (opened assets s) = (.error e, t)) :
    t.subject.map Session.clearQueues = s.subject.map Session.clearQueues := by
  have kept : t.subject.map Session.clearQueues =
      (s.subject.map Session.clearQueues).map Session.clearQueues :=
    failed_sessions (Registry.standard_spares fun _ defers => defers.clearQueues) (fun _ => rfl)
      failed
  rw [kept, List.map_map]
  rfl

theorem failed_queues
    (failed : transaction (body .standard assets) (opened assets s) = (.error e, t)) :
    t.world.cache.queues = s.world.cache.queues := by
  have met : ((opened assets s).met.did .begun).world.cache.queues = s.world.cache.queues :=
    (opened assets s).met_queues
  obtain ⟨_, ⟨_, queues, _⟩ | ⟨_, cache, _⟩⟩ := transaction_error failed
  · exact queues
  · rw [cache, (body_follows assets s).cache, met]

theorem failed_cause (valid : validate registry assets s.subject = .ok ())
    (failed : transaction (body registry assets) (opened assets s) = (.error e, t)) :
    e.isRefusal = false := by
  have handled : ∀ session ∈ ((opened assets s).met.did .begun).subject,
      Handled registry session := by
    intro session member
    obtain ⟨before, within, rfl⟩ := List.mem_map.1 member
    exact (validate_ok_iff.1 valid before within).2
  obtain ⟨_, ⟨_, _, _, rfl⟩ | ⟨_, _, own | ⟨_, rfl⟩⟩⟩ := transaction_error failed
  · rfl
  · exact body_raises handled _ e own
  · rfl

-- A batch as it may be offered again: as it was, or, once it has passed validation, without what
-- its queues held.
def Offered (assets : Assets) (sessions again : List Session) : Prop :=
  again = sessions ∨ sessions ≠ [] ∧ validate .standard assets sessions = .ok () ∧
    again = sessions.map Session.clearQueues

theorem process_failed (failed : process .standard assets s = (.error e, t)) :
    t.world.store = s.world.store ∧ t.world.cache.queues = s.world.cache.queues ∧
      Offered assets s.subject t.subject := by
  have course : Course .standard assets s _ _ := process_course s
  rw [failed] at course
  cases course with
  | refused => exact ⟨rfl, rfl, .inl rfl⟩
  | cancelled present valid => exact ⟨rfl, rfl, .inr ⟨present, valid, rfl⟩⟩
  | @rolledBack _ u present valid _ ran =>
    have queues : u.world.cache.queues = s.world.cache.queues := failed_queues ran
    have sessions : u.subject.map Session.clearQueues = s.subject.map Session.clearQueues :=
      failed_standard ran
    exact ⟨(transaction_error ran).1, queues, .inr ⟨present, valid, sessions⟩⟩

-- A batch that fails leaves the store as it was. Where it is refused its sessions are as they
-- were, else their queues are empty. With the standard registry no more messages wait to be sent
-- than before, and the sessions have lost nothing but their queues.
theorem process_error (failed : process registry assets s = (.error e, t)) :
    t.world.store = s.world.store ∧
      (if e.isRefusal then t.subject = s.subject
        else t.subject.length = s.subject.length ∧
          ∀ session ∈ t.subject, session.preCommit = {} ∧ session.postCommit = {}) ∧
      (registry = .standard →
        t.world.cache.queues = s.world.cache.queues ∧
          t.subject = if e.isRefusal then s.subject else s.subject.map Session.clearQueues) := by
  have course : Course registry assets s _ _ := process_course s
  rw [failed] at course
  cases course with
  | refused _ problem =>
    rw [validate_error problem]
    exact ⟨rfl, rfl, fun _ => ⟨rfl, rfl⟩⟩
  | cancelled =>
    exact ⟨rfl, ⟨List.length_map _, fun _ member => clearQueues_fresh member⟩,
      fun _ => ⟨rfl, rfl⟩⟩
  | @rolledBack _ u _ valid _ ran =>
    have length : u.subject.length = s.subject.length := failed_length ran
    rw [failed_cause valid ran]
    refine ⟨(transaction_error ran).1, ⟨?_, fun _ member => clearQueues_fresh member⟩, ?_⟩
    · exact (List.length_map _).trans length
    · rintro rfl
      have queues : u.world.cache.queues = s.world.cache.queues := failed_queues ran
      have sessions : u.subject.map Session.clearQueues = s.subject.map Session.clearQueues :=
        failed_standard ran
      exact ⟨queues, sessions⟩

end Batch

def Sample.repeated : List Session :=
  [turn ⟨1⟩ [.contactGroupsChanged [⟨⟨7⟩, "guests"⟩] [], .inputLabelsAdded ⟨20⟩ [⟨⟨8⟩, "urgent"⟩],
      .msgCreated ⟨⟨21⟩, none, "first"⟩],
    turn ⟨1⟩ [.msgCreated ⟨⟨21⟩, none, "again"⟩]]

theorem process_error_repeated : ∃ e t,
    Batch.process .standard Sample.assets (Sample.scene Sample.repeated) = (.error e, t) ∧
      t.world.store = Sample.store ∧
      (if e.isRefusal then t.subject = Sample.repeated
        else t.subject.length = 2 ∧
          ∀ session ∈ t.subject, session.preCommit = {} ∧ session.postCommit = {}) ∧
      t.world.cache.queues = {} ∧
      t.subject =
        if e.isRefusal then Sample.repeated else Sample.repeated.map Session.clearQueues := by
  obtain ⟨e, t, failed⟩ :=
    Sample.run_error (r := Batch.process .standard Sample.assets (Sample.scene Sample.repeated))
      (by decide +kernel)
  obtain ⟨store, queues, standard⟩ := Batch.process_error failed
  obtain ⟨cache, sessions⟩ := standard rfl
  exact ⟨e, t, failed, store, queues, cache, sessions⟩

end SessionBatch

import SessionBatch.Proofs.Attribution
import SessionBatch.Proofs.Composition
import SessionBatch.Proofs.Rollback

namespace SessionBatch

variable {σ τ ε δ α β κ : Type}

-- What the transaction of a batch goes by. The cache is not part of it, nor is anything that
-- later transactions are going to meet.
def World.core (w : World) : Store × List (WriteKind × StoreError) × Context × Clock :=
  (w.store, w.faults, w.context, w.clock)

def Scene.core (s : Scene σ) :
    σ × Store × List (WriteKind × StoreError) × Context × Clock := (s.subject, s.world.core)

theorem Scene.core_eq {s t : Scene σ} :
    s.core = t.core ↔ s.subject = t.subject ∧ s.world.core = t.world.core := by
  simp only [Scene.core, Prod.mk.injEq]

theorem Scene.subject_eq (s t : Scene σ) (same : s.core = t.core) : s.subject = t.subject :=
  (Scene.core_eq.1 same).1

namespace World

variable {w u : World}

theorem core_eq : w.core = u.core ↔
    w.store = u.store ∧ w.faults = u.faults ∧ w.context = u.context ∧ w.clock = u.clock := by
  simp [core]

theorem look_core (same : w.core = u.core) :
    w.look.1 = u.look.1 ∧ w.look.2.core = u.look.2.core := by
  obtain ⟨store, faults, context, clock⟩ := core_eq.1 same
  simp [look, core, store, faults, context, clock]

theorem write_core (same : w.core = u.core) (b : BulkWrite) :
    (w.write b).1 = (u.write b).1 ∧ (w.write b).2.core = (u.write b).2.core := by
  obtain ⟨store, faults, context, clock⟩ := core_eq.1 same
  unfold write
  rw [store, faults]
  split
  · simp [core, did, context, clock]
  · simp [core, did, context, clock]

end World

namespace Work
namespace Respects

theorem note (level : Level) (text : String) :
    Respects Scene.core (Work.note level text : Work σ ε Unit) := fun _ _ same => ⟨rfl, same⟩

theorem turn (change : σ → σ) :
    Respects Scene.core
      (modify fun s => { s with subject := change s.subject } : Work σ ε PUnit) := by
  intro s t same
  obtain ⟨subject, core⟩ := Scene.core_eq.1 same
  exact ⟨rfl, Scene.core_eq.2 ⟨congrArg change subject, core⟩⟩

theorem write (b : BulkWrite) : Respects Scene.core (Work.write b : Work σ EffectError Nat) := by
  intro s t same
  obtain ⟨subject, core⟩ := Scene.core_eq.1 same
  obtain ⟨result, after⟩ := World.write_core core b
  refine ⟨?_, Scene.core_eq.2 ⟨subject, after⟩⟩
  simp [Work.write, result]

theorem ensureActive (phase : Phase) :
    Respects Scene.core (Work.ensureActive phase : Work σ BatchError Unit) := by
  intro s t same
  obtain ⟨subject, core⟩ := Scene.core_eq.1 same
  obtain ⟨seen, after⟩ := World.look_core core
  refine ⟨?_, Scene.core_eq.2 ⟨subject, after⟩⟩
  simp [ensureActive_run, seen]

theorem beside {subject : τ} {work : Work τ δ α} (respects : Respects Scene.core work) :
    Respects Scene.core (Work.beside subject work : Work σ ε _) := by
  intro s t same
  obtain ⟨outer, core⟩ := Scene.core_eq.1 same
  have started : (Scene.mk subject s.world).core = (Scene.mk subject t.world).core :=
    Scene.core_eq.2 ⟨rfl, core⟩
  obtain ⟨result, after⟩ := respects _ _ started
  obtain ⟨inner, core⟩ := Scene.core_eq.1 after
  refine ⟨?_, Scene.core_eq.2 ⟨outer, core⟩⟩
  simp [beside_run, result, inner]

theorem each {work : Work σ ε α} (one : Respects Scene.core work) :
    Respects Scene.core (Work.each work) := by
  intro ⟨subjects, w⟩ ⟨subjects', u⟩ same
  obtain ⟨rfl, core⟩ := Scene.core_eq.1 same
  induction subjects generalizing w u with
  | nil => exact ⟨rfl, same⟩
  | cons subject rest ih =>
    have started : (Scene.mk subject w).core = (Scene.mk subject u).core :=
      Scene.core_eq.2 ⟨rfl, core⟩
    obtain ⟨result, after⟩ := one _ _ started
    rw [each_cons, each_cons]
    rcases ran : work ⟨subject, w⟩ with ⟨e | a, s⟩ <;>
      rcases ran' : work ⟨subject, u⟩ with ⟨e' | a', t⟩ <;>
      rw [ran, ran'] at result after <;> cases result <;>
      obtain ⟨mine, core⟩ := Scene.core_eq.1 after
    · exact ⟨rfl, Scene.core_eq.2 ⟨congrArg (· :: rest) mine, core⟩⟩
    · have later : (Scene.mk rest s.world).core = (Scene.mk rest t.world).core :=
        Scene.core_eq.2 ⟨rfl, core⟩
      obtain ⟨results, others⟩ := ih s.world t.world later core
      obtain ⟨subjects, core⟩ := Scene.core_eq.1 others
      refine ⟨congrArg (Except.map (a :: ·)) results, Scene.core_eq.2 ⟨?_, core⟩⟩
      change s.subject :: (Work.each work ⟨rest, s.world⟩).2.subject =
        t.subject :: (Work.each work ⟨rest, t.world⟩).2.subject
      have first : s.subject = t.subject := mine
      rw [first, subjects]

end Respects

theorem Composed.indifferent {turns : (σ → σ) → Prop} {pushes : Prop} (pushless : ¬ pushes)
    {work : Work σ EffectError α} (composed : Composed turns pushes work) :
    Respects Scene.core work := by
  induction composed with
  | pure a => exact .pure a
  | throw e => exact .throw e
  | note level text => exact .note level text
  | turn => exact .turn _
  | write b => exact .write b
  | push org messages allowed => exact absurd allowed pushless
  | bind _ _ first rest => exact .bind first rest
  | peek unseen _ each => exact .peek Scene.subject_eq unseen each

end Work

open Work

namespace Batch

variable {assets : Assets}

theorem dispatch_indifferent (event : Event) :
    Respects Scene.core (dispatch .standard assets event) := by
  have handling : Composed Session.Defers False
      (Registry.standardHandler event.type assets event) :=
    Registry.standardHandler_composed event.type assets event
  unfold dispatch
  refine .peek Scene.subject_eq (fun s t same => by simp only [same]) fun s => ?_
  refine .given fun run found => ?_
  rw [Registry.lookup_standard] at found
  cases found
  exact .bind (.note _ _) fun _ => .adapt (handling.indifferent not_false)

theorem dispatchAll_indifferent (assets : Assets) :
    Respects Scene.core (dispatchAll .standard assets) := by
  have one : Respects Scene.core (dispatchSession .standard assets) := by
    apply Respects.bind (.ensureActive _)
    intro _
    refine .peek Scene.subject_eq (fun s t same => by simp only [same]) fun s => ?_
    exact .bind (.forM fun event _ => dispatch_indifferent event) fun _ => .pure _
  exact .bind (.each one) fun _ => .pure _

theorem applyRow_indifferent {row : HookId × HookAction × List SessionEvents}
    (found : Registry.standard.lookupHook row.1 = .ok row.2.1) (before : row.1 ≠ .queueMessages) :
    Respects Scene.core (applyRow assets row) := by
  rw [Registry.lookupHook_standard] at found
  have action : row.2.1 = Registry.standardHook row.1 := (Except.ok.inj found).symm
  have applying : Composed (fun _ => False) (row.1 = .queueMessages)
      (row.2.1 assets row.2.2) := by
    rw [action]
    exact Registry.standardHook_composed row.1 assets row.2.2
  unfold applyRow applyHook runHook
  refine .bind (.ensureActive _) fun _ => .bind (.note _ _) fun _ => ?_
  exact .bind (.beside (applying.indifferent before)) fun _ => .ofExcept _

theorem deferred_before {sessions : List Session}
    (empty : ∀ session ∈ sessions, session.preCommit[HookId.queueMessages]?.getD [] = []) :
    ∀ row ∈ deferred sessions, row.1 ≠ .queueMessages := by
  intro row listed wrong
  obtain ⟨listed, filled⟩ := List.mem_filter.1 listed
  obtain ⟨id, _, rfl⟩ := List.mem_map.1 listed
  cases wrong
  have entry := of_decide_eq_true filled
  rw [ne_eq, List.filter_eq_nil_iff] at entry
  apply entry
  intro held member
  obtain ⟨session, within, rfl⟩ := List.mem_map.1 member
  simp [empty session within]

theorem dispatched_before {s t : Scene (List Session)} {count : Nat}
    (fresh : ∀ session ∈ s.subject, session.preCommit = {})
    (ran : dispatchAll .standard assets s = (.ok count, t)) :
    ∀ row ∈ deferred t.subject, row.1 ≠ .queueMessages := by
  have spares : Registry.standard.Spares fun session : Session =>
      session.preCommit[HookId.queueMessages]?.getD [] :=
    Registry.standard_spares fun _ defers => defers.preCommit
  have kept : (dispatchAll .standard assets s).2.subject.map _ = s.subject.map _ :=
    (dispatchAll_fixes spares s).1
  rw [ran] at kept
  apply deferred_before
  intro session within
  have listed := List.mem_map_of_mem (f := fun session : Session =>
    session.preCommit[HookId.queueMessages]?.getD []) within
  rw [kept] at listed
  obtain ⟨origin, member, same⟩ := List.mem_map.1 listed
  rw [← same, fresh origin member]
  simp

theorem collected_core {s t : Scene (List Session)} (same : s.core = t.core) :
    (collected s).1 = (collected t).1 ∧ (collected s).2.core = (collected t).2.core := by
  obtain ⟨subject, core⟩ := Scene.core_eq.1 same
  unfold collected
  simp only [Scene.note, subject, Scene.core_eq]
  exact ⟨trivial, trivial, core⟩

-- The body of a batch goes the same way, whatever the cache is like and whatever is to come.
theorem body_indifferent (assets : Assets) {s t : Scene (List Session)} (same : s.core = t.core)
    (fresh : ∀ session ∈ s.subject, session.preCommit = {}) :
    (body .standard assets s).1 = (body .standard assets t).1 ∧
      (body .standard assets s).2.core = (body .standard assets t).2.core := by
  obtain ⟨count, dispatched⟩ := dispatchAll_indifferent assets s t same
  rw [body_run, body_run]
  rcases ran : dispatchAll .standard assets s with ⟨e | n, u⟩ <;>
    rcases ran' : dispatchAll .standard assets t with ⟨e' | n', v⟩ <;>
    rw [ran, ran'] at count dispatched <;> cases count
  · exact ⟨rfl, dispatched⟩
  · obtain ⟨grouping, after⟩ := collected_core dispatched
    dsimp only
    rw [← grouping]
    cases found : resolve .standard (collected u).1 with
    | error e => exact ⟨rfl, after⟩
    | ok rows =>
      have before : ∀ row ∈ rows, row.1 ≠ .queueMessages := by
        intro row listed
        have due : (row.1, row.2.2) ∈ deferred u.subject := by
          rw [← resolve_deferred found]
          exact List.mem_map_of_mem (f := fun row => (row.1, row.2.2)) listed
        exact dispatched_before fresh ran _ due
      have applying : Respects Scene.core (rows.forM (applyRow assets)) := .forM fun row listed =>
        applyRow_indifferent (resolve_found found row listed) (before row listed)
      obtain ⟨result, applied⟩ := applying _ _ after
      dsimp only
      rcases done : rows.forM (applyRow assets) (collected u).2 with ⟨e | _, x⟩ <;>
        rcases done' : rows.forM (applyRow assets) (collected v).2 with ⟨e' | _, y⟩ <;>
        rw [done, done'] at result applied <;> cases result
      · exact ⟨rfl, applied⟩
      · obtain ⟨subject, core⟩ := Scene.core_eq.1 applied
        obtain ⟨seen, last⟩ := World.look_core core
        refine ⟨?_, Scene.core_eq.2 ⟨subject, last⟩⟩
        dsimp only
        rw [seen]

end Batch
end SessionBatch

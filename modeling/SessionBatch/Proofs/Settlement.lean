import SessionBatch.Batch
import SessionBatch.Proofs.Grouping
import SessionBatch.Proofs.Hooks
import SessionBatch.Proofs.Turns

namespace SessionBatch

def Session.waiting (assets : Assets) (id : HookId) (s : Session) : SessionEvents :=
  ⟨(s.placed assets).takePre.2, s.events.filter (·.payload.waitsFor? assets = some id)⟩

theorem Payload.waitsFor?_type {assets : Assets} {id : HookId} {payload : Payload}
    (waits : payload.waitsFor? assets = some id) : payload.type = id.eventType := by
  unfold waitsFor? at waits
  split at waits <;> try cases waits
  all_goals first | rfl | split at waits <;> cases waits; rfl

theorem Payload.waitsFor?_ne {assets : Assets} {payload : Payload} :
    payload.waitsFor? assets ≠ some .queueMessages := by
  intro waits
  cases payload <;> simp only [waitsFor?] at waits <;> try cases waits
  split at waits <;> cases waits

namespace Batch

variable (assets : Assets)

def waiting (sessions : List Session) (id : HookId) : List SessionEvents :=
  (sessions.map (Session.waiting assets id)).filter (·.events ≠ [])

theorem waiting_fits (sessions : List Session) (id : HookId) :
    id.Fits (waiting assets sessions id) := by
  intro entry member event within
  obtain ⟨member, _⟩ := List.mem_filter.1 member
  obtain ⟨session, _, rfl⟩ := List.mem_map.1 member
  obtain ⟨_, waits⟩ := List.mem_filter.1 within
  exact Payload.waitsFor?_type (of_decide_eq_true waits)

theorem waiting_queueMessages (sessions : List Session) :
    waiting assets sessions .queueMessages = [] := by
  unfold waiting
  rw [List.filter_eq_nil_iff]
  intro entry member
  obtain ⟨session, _, rfl⟩ := List.mem_map.1 member
  simp [Session.waiting, Payload.waitsFor?_ne]

def settled (sessions : List Session) (store : Store) : Except BatchError Store :=
  HookId.all.foldlM (fun store id =>
    (Effect.settle assets id (waiting assets sessions id) store).mapError (.hook id ∘ .store)) store

theorem settled_clearQueues (sessions : List Session) (store : Store) :
    settled assets (sessions.map Session.clearQueues) store = settled assets sessions store := by
  have bare : ∀ id, (waiting assets (sessions.map Session.clearQueues) id).map SessionEvents.bare =
      (waiting assets sessions id).map SessionEvents.bare := by
    intro id
    unfold waiting
    rw [List.map_map, List.filter_map, List.filter_map, List.map_map, List.map_map]
    rfl
  unfold settled
  congr 1
  funext store id
  rw [← Effect.settle_bare, bare, Effect.settle_bare]

def waited (sessions : List Session) : List HookId :=
  HookId.all.filter (waiting assets sessions · ≠ [])

theorem toList_grouping {sessions : List Session}
    (fresh : ∀ session ∈ sessions, session.preCommit = {}) :
    (Grouping.ofQueues (((sessions.map (Session.placed assets)).map Session.takePre).map Prod.snd)
        (((sessions.map (Session.placed assets)).map Session.takePre).map Prod.fst)).toList =
      (HookId.all.map fun id => (id, waiting assets sessions id)).filter (·.2 ≠ []) := by
  rw [Grouping.toList_ofQueues]
  congr 1
  refine List.map_congr_left fun id _ => ?_
  unfold Grouping.entries waiting
  rw [List.zip_map', List.map_map, List.map_map, List.map_map]
  congr 2
  refine List.map_congr_left fun session member => ?_
  have queued := HookQueue.getElem?_fill (·.payload.waitsFor? assets) session.preCommit
    session.events id
  have empty : session.preCommit[id]?.getD [] = [] := by
    rw [fresh session member]
    simp
  rw [empty] at queued
  exact congrArg (SessionEvents.mk _) queued

theorem map_fst_rows (sessions : List Session) :
    ((HookId.all.map fun id => (id, waiting assets sessions id)).filter (·.2 ≠ [])).map Prod.fst =
      waited assets sessions := by
  rw [List.filter_map, List.map_map]
  exact List.map_id _

theorem settled_eq (sessions : List Session) (store : Store) :
    ((HookId.all.map fun id => (id, waiting assets sessions id)).filter (·.2 ≠ [])).foldlM
      (fun store row =>
        (Effect.settle assets row.1 row.2 store).mapError (.hook row.1 ∘ .store)) store =
      settled assets sessions store := by
  rw [List.foldlM_filter, List.foldlM_map]
  unfold settled
  congr 1
  funext store id
  by_cases none : waiting assets sessions id = []
  · simp only [none, Effect.settle_nil]
    rfl
  · simp [none]

end Batch

namespace Rule

def gathering {ε : Type} (take : Session → HookQueue × Session) :
    Rule (List Session) ε Grouping := fun stage =>
  .ok (Grouping.ofQueues ((stage.subject.map take).map Prod.snd)
      ((stage.subject.map take).map Prod.fst),
    { stage with subject := (stage.subject.map take).map Prod.snd })

def applying {σ : Type} (assets : Assets) (grouping : Grouping) : Rule σ BatchError (List HookId) :=
  onStore (grouping.toList.foldlM (fun store row =>
      (Effect.settle assets row.1 row.2 store).mapError (.hook row.1 ∘ .store)) ·) >>= fun _ =>
    pure (grouping.toList.map Prod.fst)

def body (assets : Assets) : Rule (List Session) BatchError (Nat × List HookId) := fun stage =>
  match Session.firstRefusal? stage.subject with
  | some e => .error e
  | none =>
    (Batch.settled assets stage.subject
        (stage.store.labelledBy assets (stage.subject.flatMap (·.events)))).map fun store =>
      (((stage.subject.map (·.events.length)).foldr (· + ·) 0, Batch.waited assets stage.subject),
        ⟨stage.subject.map fun session => (session.placed assets).takePre.2, store⟩)

theorem body_steps {assets : Assets} {stage : Stage (List Session)}
    (fresh : ∀ session ∈ stage.subject, session.preCommit = {}) :
    (dispatching assets >>= fun count => gathering Session.takePre >>= fun grouping =>
      applying assets grouping >>= fun applied =>
        pure () >>= fun _ => pure (count, applied)) stage = body assets stage := by
  rw [bind_run]
  unfold dispatching body
  cases Session.firstRefusal? stage.subject with
  | some e => rfl
  | none =>
    dsimp only
    rw [bind_run]
    unfold gathering
    dsimp only
    rw [bind_run]
    unfold applying
    rw [bind_run]
    unfold onStore
    dsimp only
    rw [Batch.toList_grouping assets fresh, Batch.settled_eq, Batch.map_fst_rows]
    simp only [List.map_map]
    cases Batch.settled assets stage.subject _ <;> rfl

end Rule

namespace Follows

variable {σ : Type} {assets : Assets}

theorem gather {ε : Type} (take : Session → HookQueue × Session) :
    Follows (Batch.gather take : Work (List Session) ε Grouping) (.gathering take) := by
  refine fun s => ⟨fun ran => ?_, fun quiet => ⟨quiet, rfl⟩, rfl⟩
  cases ran
  rfl

theorem applyHook {id : HookId} {entries : List SessionEvents} (before : id ≠ .queueMessages)
    (fits : id.Fits entries) :
    Follows (Batch.applyHook assets id (Registry.standardHook id) entries : Work σ BatchError Unit)
      (.onStore fun store =>
        (Effect.settle assets id entries store).mapError (.hook id ∘ .store)) := by
  have run : Follows
      (Batch.applyHook assets id (Registry.standardHook id) entries : Work σ BatchError Unit)
      (Pure.pure () >>= fun _ => .onStore fun store =>
        ((Effect.settle assets id entries store).mapError .store).mapError (.hook id)) :=
    bind (ensureActive _) fun _ => noting (runHook (standardHook before fits))
  refine run.congr fun (stage : Stage σ) => ?_
  rw [Rule.bind_run]
  change Rule.onStore _ stage = _
  unfold Rule.onStore
  dsimp only
  cases Effect.settle assets id entries stage.store <;> rfl

theorem applyHooks {grouping : Grouping}
    (standard : ∀ row ∈ grouping.toList, row.1 ≠ .queueMessages ∧ row.1.Fits row.2) :
    Follows (Batch.applyHooks .standard assets grouping : Work σ BatchError (List HookId))
      (.applying assets grouping) := by
  have resolved : Batch.resolve .standard grouping =
      .ok (grouping.toList.map fun row => (row.1, Registry.standardHook row.1, row.2)) := by
    refine readings_ok fun row _ => ?_
    dsimp only
    rw [Registry.lookupHook_standard]
    rfl
  have each : Follows
      ((grouping.toList.map fun row => (row.1, Registry.standardHook row.1, row.2)).forM
        fun item => Batch.applyHook assets item.1 item.2.1 item.2.2 : Work σ BatchError PUnit)
      ((grouping.toList.map fun row =>
        (row.1, Registry.standardHook row.1, row.2)).forM fun item =>
          .onStore fun store =>
            (Effect.settle assets item.1 item.2.2 store).mapError (.hook item.1 ∘ .store)) := by
    refine forM fun item member => ?_
    obtain ⟨row, listed, rfl⟩ := List.mem_map.1 member
    exact applyHook (standard row listed).1 (standard row listed).2
  have named : (grouping.toList.map fun row =>
      (row.1, Registry.standardHook row.1, row.2)).map Prod.fst =
        grouping.toList.map Prod.fst := by
    rw [List.map_map]
    rfl
  unfold Batch.applyHooks Rule.applying
  rw [resolved, ← named]
  refine (bind each fun _ => pure _).congr fun stage => ?_
  rw [Rule.bind_run, Rule.bind_run, Rule.onStore_forM]
  simp only [List.foldlM_map]

end Follows

theorem FollowsOn.body {assets : Assets} {s : Scene (List Session)}
    (fresh : ∀ session ∈ s.subject, session.preCommit = {}) :
    FollowsOn s (Batch.body .standard assets) (.body assets) := by
  have steps : FollowsOn s (Batch.body .standard assets)
      (.dispatching assets >>= fun count => .gathering Session.takePre >>= fun grouping =>
        .applying assets grouping >>= fun applied =>
          pure () >>= fun _ => pure (count, applied)) := by
    refine (Follows.dispatchAll assets s).bind fun count t known => noting ?_
    refine (Follows.gather Session.takePre _).bind fun grouping u known' => noting ?_
    refine (Follows.applyHooks ?_ _).bind fun applied v _ =>
      (Follows.bind (Follows.ensureActive _) fun _ => Follows.pure _) v
    have placed : t.subject = s.subject.map (Session.placed assets) := by
      unfold Rule.dispatching at known
      split at known
      · cases known
      · exact (congrArg (·.2.subject) (Except.ok.inj known)).symm
    have grouped : grouping =
        Grouping.ofQueues ((t.subject.map Session.takePre).map Prod.snd)
          ((t.subject.map Session.takePre).map Prod.fst) :=
      (congrArg Prod.fst (Except.ok.inj known')).symm
    intro row listed
    rw [grouped, placed, Batch.toList_grouping assets fresh] at listed
    obtain ⟨listed, filled⟩ := List.mem_filter.1 listed
    obtain ⟨id, _, rfl⟩ := List.mem_map.1 listed
    refine ⟨fun last => ?_, Batch.waiting_fits assets s.subject id⟩
    cases last
    rw [Batch.waiting_queueMessages] at filled
    simp at filled
  exact steps.congr (Rule.body_steps fresh)

end SessionBatch

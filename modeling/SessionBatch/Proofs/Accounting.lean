import Mathlib.Data.List.Nodup
import SessionBatch.Proofs.Availability
import SessionBatch.Rehearsal

namespace SessionBatch

inductive Fate where
  | refused (e : StoreError)
  | committed
  | broken (e : StoreError)
  deriving DecidableEq

def World.fate (w : World) : Fate :=
  match w.meet.1.refused, w.outage, w.meet.1.commitFails with
  | some e, _, _ => .refused e
  | none, some e, _ => .refused e
  | none, none, some e => .broken e
  | none, none, none => .committed

namespace World

variable {w : World} {e : StoreError}

theorem fate_eq_refused : w.fate = .refused e ↔
    w.meet.1.refused = some e ∨ w.meet.1.refused = none ∧ w.outage = some e := by
  unfold fate
  cases w.meet.1.refused <;> cases w.outage <;> cases w.meet.1.commitFails <;> simp

theorem fate_eq_committed : w.fate = .committed ↔
    w.meet.1.refused = none ∧ w.outage = none ∧ w.meet.1.commitFails = none := by
  unfold fate
  cases w.meet.1.refused <;> cases w.outage <;> cases w.meet.1.commitFails <;> simp

theorem fate_eq_broken : w.fate = .broken e ↔
    w.meet.1.refused = none ∧ w.outage = none ∧ w.meet.1.commitFails = some e := by
  unfold fate
  cases w.meet.1.refused <;> cases w.outage <;> cases w.meet.1.commitFails <;> simp

end World

-- What the body did to its subject stays done when the commit fails.
theorem Work.transaction_fate {σ α : Type} {body : Work σ BatchError α} {s u : Scene σ} {a : α}
    (inside : body (s.met.did .begun) = (.ok a, u)) :
    ∃ world, transaction body s =
      match s.world.fate with
      | .refused e => (.error (.resource e), ⟨s.subject, world⟩)
      | .committed => (.ok a, ⟨u.subject, world⟩)
      | .broken e => (.error (.resource e), ⟨u.subject, world⟩) := by
  unfold World.fate
  cases admitted : s.world.meet.1.refused with
  | some e =>
    simp only [transaction, admitted]
    exact ⟨_, rfl⟩
  | none =>
    cases present : s.world.outage with
    | some e =>
      have present' : s.world.meet.2.outage = some e := present
      simp only [transaction, admitted, present']
      exact ⟨_, rfl⟩
    | none =>
      rw [transaction_open admitted present]
      unfold closing
      rw [inside]
      cases s.world.meet.1.commitFails with
      | some e => exact ⟨_, rfl⟩
      | none => exact ⟨_, rfl⟩

def Session.Postpones (sessions : List Session) (id : HookId) : Prop :=
  ∃ session ∈ sessions, session.postCommit[id]?.getD [] ≠ []

instance (sessions : List Session) (id : HookId) : Decidable (Session.Postpones sessions id) :=
  inferInstanceAs (Decidable (∃ session ∈ sessions, session.postCommit[id]?.getD [] ≠ []))

namespace Batch

variable (registry : Registry) (assets : Assets)

def postponed (sessions : List Session) : List (HookId × List SessionEvents) :=
  (Grouping.ofQueues ((sessions.map Session.takePost).map Prod.snd)
    ((sessions.map Session.takePost).map Prod.fst)).toList

def answer (id : HookId) (entries : List SessionEvents) (w : World) :
    Except BatchError Unit × World :=
  match registry.hook? id with
  | none => (.error (.missingHook id), w)
  | some action =>
    let (result, s) := action assets entries ⟨(), w⟩
    (result.mapError (.hook id), s.world)

-- The next hook finds a failure in the log.
def heard (id : HookId) : Except BatchError Unit × World → World
  | (.ok _, w) => w
  | (.error e, w) =>
    w.note .error ("post_commit:hook_failed hook=" ++ id.name ++ " err=" ++ e.message)

def answers : List (HookId × List SessionEvents) → World → List (HookId × Except BatchError Unit)
  | [], _ => []
  | (id, entries) :: rows, w =>
    (id, (answer registry assets id entries w).1) ::
      answers rows (heard id (answer registry assets id entries w))

def Aftermath.record (after : Aftermath) (id : HookId) : Except BatchError Unit → Aftermath
  | .ok _ => { after with applied := after.applied ++ [id] }
  | .error e => { after with failures := after.failures ++ [(id, e.message)] }

def Aftermath.records (after : Aftermath) (answers : List (HookId × Except BatchError Unit)) :
    Aftermath :=
  answers.foldl (fun after (id, answer) => after.record id answer) after

variable {registry assets}

theorem attemptHook_answer (id : HookId) (entries : List SessionEvents) (after : Aftermath)
    (w : World) :
    attemptHook registry assets id entries ⟨after, w⟩ =
      (.ok (), ⟨after.record id (answer registry assets id entries w).1,
        heard id (answer registry assets id entries w)⟩) := by
  unfold attemptHook runHook answer Registry.lookupHook
  rw [Work.tryCatch_run]
  cases registry.hook? id with
  | none => rfl
  | some action =>
    simp only [Work.bind_run, Work.ofExcept_run, Work.beside_run]
    rcases action assets entries ⟨(), w⟩ with ⟨e | _, s⟩
    · rfl
    · rfl

theorem attempts_answers (rows : List (HookId × List SessionEvents)) (after : Aftermath)
    (w : World) :
    ∃ u, (rows.forM fun (id, entries) => attemptHook registry assets id entries) ⟨after, w⟩ =
      (.ok (), ⟨after.records (answers registry assets rows w), u⟩) := by
  induction rows generalizing after w with
  | nil => exact ⟨w, rfl⟩
  | cons row rest ih =>
    obtain ⟨id, entries⟩ := row
    obtain ⟨u, ran⟩ := ih (after.record id (answer registry assets id entries w).1)
      (heard id (answer registry assets id entries w))
    refine ⟨u, ?_⟩
    change (attemptHook registry assets id entries >>= fun _ =>
      rest.forM fun (id, entries) => attemptHook registry assets id entries) ⟨after, w⟩ = _
    rw [Work.bind_run, attemptHook_answer]
    exact ran

theorem map_fst_answers (rows : List (HookId × List SessionEvents)) (w : World) :
    (answers registry assets rows w).map Prod.fst = rows.map Prod.fst := by
  induction rows generalizing w with
  | nil => rfl
  | cons row rest ih => exact congrArg (row.1 :: ·) (ih _)

namespace Aftermath

def named (after : Aftermath) : List HookId := after.applied ++ after.failures.map Prod.fst

variable {after : Aftermath} {answered : List (HookId × Except BatchError Unit)}

theorem named_record (after : Aftermath) (id : HookId) (answer : Except BatchError Unit) :
    (after.record id answer).named.Perm (after.named ++ [id]) := by
  cases answer with
  | ok =>
    have shifted : ([id] ++ after.failures.map Prod.fst).Perm
        (after.failures.map Prod.fst ++ [id]) := List.perm_append_comm
    have whole := shifted.append_left after.applied
    rw [← List.append_assoc, ← List.append_assoc] at whole
    exact whole
  | error e =>
    unfold record named
    rw [List.map_append, List.append_assoc]
    exact .refl _

theorem named_records (after : Aftermath) (answered : List (HookId × Except BatchError Unit)) :
    (after.records answered).named.Perm (after.named ++ answered.map Prod.fst) := by
  induction answered generalizing after with
  | nil => simp [records]
  | cons row rest ih =>
    have first := (named_record after row.1 row.2).append_right (rest.map Prod.fst)
    rw [List.append_assoc] at first
    exact (ih (after.record row.1 row.2)).trans first

theorem mem_applied_records {id : HookId} :
    id ∈ (after.records answered).applied ↔ id ∈ after.applied ∨ (id, .ok ()) ∈ answered := by
  induction answered generalizing after with
  | nil => simp [records]
  | cons row rest ih =>
    obtain ⟨other, _ | _⟩ := row
    · refine Iff.trans ih ?_
      simp [record]
    · refine Iff.trans ih ?_
      simp [record, or_assoc]

theorem mentions_iff {id : HookId} : after.mentions id = true ↔ id ∈ after.named := by
  unfold mentions named
  rw [Bool.or_eq_true, List.contains_iff_mem, List.contains_iff_mem, List.mem_append]

theorem spoiled_failures {hooks : List HookId} (all : ∀ id ∈ hooks, id ∈ after.named)
    (e : BatchError) : (after.spoiled hooks e).failures = after.failures := by
  have none : (hooks.filter fun id => !after.mentions id) = [] := by
    rw [List.filter_eq_nil_iff]
    intro id member
    simp [mentions_iff.2 (all id member)]
  unfold spoiled
  rw [none, List.map_nil, List.append_nil]

theorem named_spoiled (hooks : List HookId) (e : BatchError) :
    (({} : Aftermath).spoiled hooks e).named = hooks := by
  have every : (hooks.filter fun id => !({} : Aftermath).mentions id) = hooks :=
    List.filter_eq_self.2 fun _ _ => rfl
  unfold spoiled named
  rw [every]
  simp only [List.nil_append, List.map_map]
  exact List.map_id _

end Aftermath

variable (registry assets) in
def tried (sessions : List Session) (w : World) : Aftermath :=
  Aftermath.records {} (answers registry assets (postponed sessions) (w.meet.2.did .begun))

variable (registry assets) in
def concluded (sessions : List Session) (w : World) : Aftermath :=
  let hooks := (postponed sessions).map Prod.fst
  match w.fate with
  | .refused e => ({} : Aftermath).spoiled hooks (.resource e)
  | .committed => tried registry assets sessions w
  | .broken e => (tried registry assets sessions w).spoiled hooks (.resource e)

theorem postCommit_concluded {ε : Type} (s : Scene (List Session)) :
    ∃ u, (postCommit registry assets : Work _ ε _) s =
      (.ok (concluded registry assets s.subject s.world), u) := by
  unfold postCommit gather concluded tried postponed
  simp only [Work.bind_run, Work.get_run, Work.modify_run, Work.pure_run]
  generalize Grouping.ofQueues _ _ = grouping
  cases quiet : grouping.isEmpty with
  | true =>
    have none : grouping.toList = [] := by
      rw [← List.isEmpty_iff, Std.ExtTreeMap.isEmpty_toList, quiet]
    rw [none, if_pos rfl]
    cases s.world.fate with
    | refused e => exact ⟨_, rfl⟩
    | committed => exact ⟨_, rfl⟩
    | broken e => exact ⟨_, rfl⟩
  | false =>
    have hooks : grouping.hooks = grouping.toList.map Prod.fst :=
      Std.ExtTreeMap.map_fst_toList_eq_keys.symm
    rw [if_neg Bool.false_ne_true, Work.bind_run, Work.beside_run, hooks]
    obtain ⟨u, inside⟩ := @attempts_answers registry assets
      grouping.toList {} (s.world.meet.2.did .begun)
    obtain ⟨world, ran⟩ := Work.transaction_fate (s := ⟨({} : Aftermath), s.world⟩) inside
    rw [ran]
    cases s.world.fate with
    | refused e => exact ⟨_, rfl⟩
    | committed => exact ⟨_, rfl⟩
    | broken e => exact ⟨_, rfl⟩

theorem mem_postponed {sessions : List Session} {id : HookId} :
    id ∈ (postponed sessions).map Prod.fst ↔ Session.Postpones sessions id := by
  have mine : Grouping.entries id (((sessions.map Session.takePost).map Prod.snd).zip
      ((sessions.map Session.takePost).map Prod.fst)) ≠ [] ↔ Session.Postpones sessions id := by
    unfold Grouping.entries Session.Postpones
    rw [List.zip_map', List.map_map, List.map_map, ne_eq, List.filter_eq_nil_iff]
    simp [Session.takePost]
  rw [← mine]
  unfold postponed
  rw [Grouping.toList_ofQueues]
  simp [HookId.mem_all]

theorem nodup_postponed (sessions : List Session) :
    ((postponed sessions).map Prod.fst).Nodup := by
  unfold postponed
  rw [Grouping.toList_ofQueues, List.filter_map, List.map_map]
  have each : HookId.all.Nodup := by decide
  exact (each.filter _).map fun _ _ same => same

def Succeeds (registry : Registry) (assets : Assets) (sessions : List Session) (w : World)
    (id : HookId) : Prop :=
  (id, .ok ()) ∈ answers registry assets (postponed sessions) (w.meet.2.did .begun)

-- A hook that has succeeded is passed over when the commit of its transaction fails.
def PassedOver (registry : Registry) (assets : Assets) (sessions : List Session) (w : World)
    (id : HookId) : Prop :=
  (∃ e, w.fate = .broken e) ∧ Succeeds registry assets sessions w id

end Batch

def Outcome.named (outcome : Outcome) : List HookId :=
  outcome.postCommitApplied ++ outcome.postCommitFailures.map Prod.fst

namespace Batch

structure Accounted (registry : Registry) (assets : Assets) (sessions : List Session) (w : World)
    (outcome : Outcome) : Prop where
  none_else : ∀ id ∈ outcome.named, Session.Postpones sessions id
  once : ∀ id, Session.Postpones sessions id →
    (outcome.named.count id = 1 ↔ ¬ PassedOver registry assets sessions w id)
  lost : ∀ id, PassedOver registry assets sessions w id → id ∉ outcome.named
  applied : ∀ id, id ∈ outcome.postCommitApplied ↔
    Succeeds registry assets sessions w id ∧ w.fate = .committed

variable {sessions : List Session} {w : World}

theorem Accounted.of_all {outcome : Outcome}
    (all : outcome.named.Perm ((postponed sessions).map Prod.fst))
    (unbroken : ∀ e, w.fate ≠ .broken e)
    (applied : ∀ id, id ∈ outcome.postCommitApplied ↔
      Succeeds registry assets sessions w id ∧ w.fate = .committed) :
    Accounted registry assets sessions w outcome := by
  have kept : ∀ id, ¬ PassedOver registry assets sessions w id := by
    rintro id ⟨⟨e, broken⟩, _⟩
    exact unbroken e broken
  refine ⟨fun id member => ?_, fun id due => ?_, fun id lost => absurd lost (kept id), applied⟩
  · exact mem_postponed.1 (all.mem_iff.1 member)
  · have one := List.count_eq_one_of_mem (nodup_postponed sessions) (mem_postponed.2 due)
    exact iff_of_true ((all.count_eq id).trans one) (kept id)

theorem mem_applied_tried {id : HookId} :
    id ∈ (tried registry assets sessions w).applied ↔
      Succeeds registry assets sessions w id := by
  unfold tried
  rw [Aftermath.mem_applied_records]
  exact or_iff_right List.not_mem_nil

theorem named_tried :
    (tried registry assets sessions w).named.Perm ((postponed sessions).map Prod.fst) := by
  have all := Aftermath.named_records {}
    (answers registry assets (postponed sessions) (w.meet.2.did .begun))
  rw [map_fst_answers] at all
  exact all

theorem Accounted.of_failures {outcome : Outcome} {e : StoreError} (broken : w.fate = .broken e)
    (applied : outcome.postCommitApplied = [])
    (failures : outcome.postCommitFailures = (tried registry assets sessions w).failures) :
    Accounted registry assets sessions w outcome := by
  have named : outcome.named = (tried registry assets sessions w).failures.map Prod.fst := by
    unfold Outcome.named
    rw [applied, failures, List.nil_append]
  have passed : ∀ id, PassedOver registry assets sessions w id ↔
      id ∈ (tried registry assets sessions w).applied := by
    intro id
    rw [mem_applied_tried]
    exact and_iff_right ⟨e, broken⟩
  have known : ∀ id, id ∈ (tried registry assets sessions w).named →
      Session.Postpones sessions id :=
    fun id member => mem_postponed.1 (named_tried.mem_iff.1 member)
  -- A hook has succeeded or failed, and not both.
  have either : ∀ id, Session.Postpones sessions id →
      (tried registry assets sessions w).applied.count id + outcome.named.count id = 1 := by
    intro id due
    have one := List.count_eq_one_of_mem (nodup_postponed sessions) (mem_postponed.2 due)
    rw [named, ← List.count_append]
    exact (named_tried.count_eq id).trans one
  refine ⟨fun id member => ?_, fun id due => ?_, fun id lost => ?_, fun id => ?_⟩
  · rw [named] at member
    exact known id (List.mem_append_right _ member)
  · have whole := either id due
    rw [passed, ← List.count_eq_zero]
    omega
  · have member := (passed id).1 lost
    have whole := either id (known id (List.mem_append_left _ member))
    have some := List.count_pos_iff.2 member
    rw [← List.count_eq_zero]
    omega
  · rw [applied, broken]
    simp

theorem concluded_accounts {outcome : Outcome}
    (applied : outcome.postCommitApplied = (concluded registry assets sessions w).applied)
    (failures : outcome.postCommitFailures = (concluded registry assets sessions w).failures) :
    Accounted registry assets sessions w outcome := by
  have named : outcome.named = (concluded registry assets sessions w).named := by
    unfold Outcome.named
    rw [applied, failures]
    rfl
  unfold concluded at named applied failures
  cases fate : w.fate with
  | refused e =>
    rw [fate] at named applied
    refine .of_all (by rw [named, Aftermath.named_spoiled]) (fun e => ?_) fun id => ?_
    · rw [fate]
      exact Fate.noConfusion
    · rw [applied, fate]
      simp [Aftermath.spoiled]
  | committed =>
    rw [fate] at named applied
    refine .of_all (by rw [named]; exact named_tried) (fun e => ?_) fun id => ?_
    · rw [fate]
      exact Fate.noConfusion
    · rw [applied, fate]
      simp [mem_applied_tried]
  | broken e =>
    rw [fate] at applied failures
    refine .of_failures fate applied ?_
    rw [failures, Aftermath.spoiled_failures fun id member => named_tried.mem_iff.2 member]

-- After the commit of its transaction a batch ends with an outcome, and the outcome speaks of
-- every hook that events were postponed for, save one that is passed over.
theorem process_accounts {s t : Scene (List Session)} {events : Nat} {hooks : List HookId}
    (present : s.subject ≠ []) (valid : validate registry assets s.subject = .ok ())
    (live : (started assets s).world.look.1 = false)
    (done : Work.transaction (body registry assets) (opened assets s) = (.ok (events, hooks), t)) :
    ∃ outcome u, process registry assets s = (.ok outcome, u) ∧
      Accounted registry assets t.subject (t.note .info (committedLine assets events hooks)).world
        outcome := by
  obtain ⟨u, closed⟩ := @postCommit_concluded registry assets BatchError
    (t.note .info (committedLine assets events hooks))
  refine ⟨{ sessions := s.subject.length, eventsDispatched := events, hooksApplied := hooks,
            postCommitApplied := _, postCommitFailures := _ },
    u, ?_, concluded_accounts rfl rfl⟩
  rw [process_run present, valid]
  dsimp only
  rw [live, if_neg Bool.false_ne_true, commit_run, done]
  dsimp only
  rw [closed]
  rfl

end Batch

namespace Sample

def divided : Registry where
  handler? _ := some (Rehearsal.handler
    [.deferPost .commitNameChanges, .deferPost .commitGroupChanges, .deferPost .queueMessages])
  hook?
    | .commitNameChanges => some (Rehearsal.hook .commitNameChanges [])
    | .commitGroupChanges =>
      some (Rehearsal.hook .commitGroupChanges [.fail (.invalid "no such group")])
    | _ => none

def breaking (payload : Payload) : Scene (List Session) :=
  ⟨[turn ⟨1⟩ [payload]],
    { people with ahead := [{}, { commitFails := some .serializationConflict }] }⟩

end Sample

theorem process_accounts_divided : ∃ events hooks t outcome u,
    (Sample.breaking (.contactNameChanged "Ann")).subject ≠ [] ∧
      Batch.validate Sample.divided Sample.assets
        (Sample.breaking (.contactNameChanged "Ann")).subject = .ok () ∧
      (Batch.started Sample.assets
        (Sample.breaking (.contactNameChanged "Ann"))).world.look.1 = false ∧
      Work.transaction (Batch.body Sample.divided Sample.assets)
        (Batch.opened Sample.assets (Sample.breaking (.contactNameChanged "Ann"))) =
          (.ok (events, hooks), t) ∧
      Batch.process Sample.divided Sample.assets (Sample.breaking (.contactNameChanged "Ann")) =
        (.ok outcome, u) ∧
      Batch.Accounted Sample.divided Sample.assets t.subject
        (t.note .info (Batch.committedLine Sample.assets events hooks)).world outcome := by
  have present : (Sample.breaking (.contactNameChanged "Ann")).subject ≠ [] := by decide
  have live : (Batch.started Sample.assets
      (Sample.breaking (.contactNameChanged "Ann"))).world.look.1 = false := by decide
  have valid : Batch.validate Sample.divided Sample.assets
      (Sample.breaking (.contactNameChanged "Ann")).subject = .ok () := by rfl
  obtain ⟨⟨events, hooks⟩, t, done⟩ := Sample.run_ok
    (r := Work.transaction (Batch.body Sample.divided Sample.assets)
      (Batch.opened Sample.assets (Sample.breaking (.contactNameChanged "Ann"))))
    (by decide +kernel)
  obtain ⟨outcome, u, closed, accounts⟩ := Batch.process_accounts present valid live done
  exact ⟨events, hooks, t, outcome, u, present, valid, live, done, closed, accounts⟩

-- The message is queued, then the commit fails, and the outcome does not speak of the hook.
theorem queued_unnamed : ∃ events hooks t outcome u,
    Work.transaction (Batch.body .standard Sample.assets)
        (Batch.opened Sample.assets (Sample.breaking (.msgCreated ⟨⟨22⟩, none, "second"⟩))) =
      (.ok (events, hooks), t) ∧
      Session.Postpones t.subject .queueMessages ∧
      Batch.process .standard Sample.assets
        (Sample.breaking (.msgCreated ⟨⟨22⟩, none, "second"⟩)) = (.ok outcome, u) ∧
      .queueMessages ∉ outcome.named := by
  have queued : Session.Postpones (Work.transaction (Batch.body .standard Sample.assets)
      (Batch.opened Sample.assets
        (Sample.breaking (.msgCreated ⟨⟨22⟩, none, "second"⟩)))).2.subject .queueMessages := by
    decide +kernel
  have named : (Batch.process .standard Sample.assets
      (Sample.breaking (.msgCreated ⟨⟨22⟩, none, "second"⟩))).1.toOption.map Outcome.named =
        some [] := by decide +kernel
  obtain ⟨⟨events, hooks⟩, t, done⟩ := Sample.run_ok
    (r := Work.transaction (Batch.body .standard Sample.assets)
      (Batch.opened Sample.assets (Sample.breaking (.msgCreated ⟨⟨22⟩, none, "second"⟩))))
    (by decide +kernel)
  obtain ⟨outcome, u, closed⟩ := Sample.run_ok
    (r := Batch.process .standard Sample.assets
      (Sample.breaking (.msgCreated ⟨⟨22⟩, none, "second"⟩))) (by decide +kernel)
  rw [done] at queued
  rw [closed] at named
  have none : outcome.named = [] := Option.some.inj named
  refine ⟨events, hooks, t, outcome, u, done, queued, closed, ?_⟩
  rw [none]
  exact List.not_mem_nil

end SessionBatch

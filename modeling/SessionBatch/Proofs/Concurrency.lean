import Mathlib.Logic.Function.Basic
import SessionBatch.Proofs.Completion
import SessionBatch.Proofs.SendQueue
import SessionBatch.Proofs.Splitting

namespace SessionBatch

open Effect

namespace Batch

variable (registry : Registry) (assets : Assets)

-- The first step of a batch: all up to the end of the transaction that commits it.
def enter : Work (List Session) BatchError (Nat × List HookId) := do
  let sessions := (← get).subject
  Work.note .info (startLine assets sessions)
  Work.ofExcept (validate registry assets sessions)
  clearQueues
  Work.ensureActive .dispatching
  commit registry assets

def leave (count : Nat) (done : Nat × List HookId) : Work (List Session) BatchError Outcome := do
  Work.note .info (committedLine assets done.1 done.2)
  let after ← postCommit registry assets
  return { sessions := count, eventsDispatched := done.1, hooksApplied := done.2,
           postCommitApplied := after.applied, postCommitFailures := after.failures }

variable {registry assets}

theorem enter_run (s : Scene (List Session)) :
    enter registry assets s =
      match validate registry assets s.subject with
      | .error e => (.error e, started assets s)
      | .ok _ =>
        if (started assets s).world.look.1 then (.error (.cancelled .dispatching), opened assets s)
        else commit registry assets (opened assets s) := by
  unfold enter
  simp only [Work.bind_run, Work.get_run, Work.note_run, Work.ofExcept_run, clearQueues,
    Work.modify_run, Work.ensureActive]
  unfold opened started
  generalize Scene.note Level.info _ s = noted
  generalize validate registry assets s.subject = verdict
  cases verdict with
  | error e => rfl
  | ok =>
    dsimp only
    generalize noted.world.look.1 = late
    cases late <;> rfl

theorem process_steps {s : Scene (List Session)} (present : s.subject ≠ []) :
    process registry assets s =
      (enter registry assets >>= leave registry assets s.subject.length) s := by
  rw [process_run present, Work.bind_run, enter_run]
  cases validate registry assets s.subject with
  | error e => rfl
  | ok =>
    dsimp only
    cases (started assets s).world.look.1 with
    | true => rfl
    | false =>
      simp only [Bool.false_eq_true, if_false]
      rcases commit registry assets (opened assets s) with ⟨e | ⟨events, hooks⟩, t⟩
      · rfl
      · dsimp only
        unfold leave
        rw [Work.bind_run, Work.note_run]
        dsimp only
        rw [Work.bind_run]
        generalize (postCommit registry assets : Work _ BatchError _) _ = run
        rcases run with ⟨_ | _, _⟩ <;> rfl

theorem leave_ok (registry : Registry) (assets : Assets) (count : Nat) (done : Nat × List HookId)
    (s : Scene (List Session)) :
    ∃ after u, (postCommit registry assets : Work _ BatchError _)
        (s.note .info (committedLine assets done.1 done.2)) = (.ok after, u) ∧
      leave registry assets count done s =
        (.ok { sessions := count, eventsDispatched := done.1, hooksApplied := done.2,
               postCommitApplied := after.applied, postCommitFailures := after.failures }, u) := by
  obtain ⟨after, u, closed⟩ : ∃ after u, (postCommit registry assets : Work _ BatchError _)
      (s.note .info (committedLine assets done.1 done.2)) = (.ok after, u) :=
    postCommit_ok registry assets _
  refine ⟨after, u, closed, ?_⟩
  unfold leave
  rw [Work.bind_run, Work.note_run]
  dsimp only
  rw [Work.bind_run, closed]
  rfl

end Batch

-- Backend and cache are there for each call.
structure Shared where
  store : Store
  queues : SendQueues := {}

-- Nobody cancels the context of a call.
structure Call where
  assets : Assets
  sessions : List Session
  context : Context := {}
  clock : Clock := {}
  active : context.Outlasts clock

structure Pending where
  sessions : List Session
  context : Context
  clock : Clock
  done : Nat × List HookId

inductive Progress where
  | offered
  | committed (pending : Pending)
  | finished (result : Except BatchError Outcome)

def Progress.hasFailed : Progress → Bool
  | .finished (.error _) => true
  | _ => false

def Shared.world (shared : Shared) (context : Context) (clock : Clock) : World :=
  { store := shared.store, cache.queues := shared.queues, context, clock }

def World.shared (w : World) : Shared := ⟨w.store, w.cache.queues⟩

namespace Call

def scene (call : Call) (shared : Shared) : Scene (List Session) :=
  ⟨call.sessions, shared.world call.context call.clock⟩

def alone (call : Call) (shared : Shared) : Except BatchError Outcome × Shared :=
  let (result, t) := Batch.process .standard call.assets (call.scene shared)
  (result, t.world.shared)

-- A call without sessions has nothing to commit.
def enter (call : Call) (shared : Shared) : Progress × Shared :=
  if call.sessions.isEmpty then (.finished (.ok {}), shared)
  else
    match Batch.enter .standard call.assets (call.scene shared) with
    | (.ok done, t) => (.committed ⟨t.subject, t.world.context, t.world.clock, done⟩, t.world.shared)
    | (.error e, t) => (.finished (.error e), t.world.shared)

def leave (call : Call) (pending : Pending) (shared : Shared) :
    Except BatchError Outcome × Shared :=
  let (result, t) := Batch.leave .standard call.assets call.sessions.length pending.done
    ⟨pending.sessions, shared.world pending.context pending.clock⟩
  (result, t.world.shared)

end Call

theorem Shared.clear (shared : Shared) {context : Context} {clock : Clock}
    (active : context.Outlasts clock) : (shared.world context clock).Clear :=
  ⟨⟨rfl, active⟩, rfl, rfl, fun _ none => absurd none List.not_mem_nil⟩

namespace Call

variable {call : Call} {shared : Shared}

def verdict (call : Call) (store : Store) : Except BatchError Store := do
  Batch.validate .standard call.assets call.sessions
  Batch.result call.assets call.sessions store

theorem verdict_ok {store made : Store} (passes : call.verdict store = .ok made) :
    Batch.validate .standard call.assets call.sessions = .ok () ∧
      Batch.result call.assets call.sessions store = .ok made := by
  unfold verdict at passes
  cases valid : Batch.validate .standard call.assets call.sessions with
  | error e =>
    rw [valid] at passes
    cases passes
  | ok =>
    rw [valid] at passes
    exact ⟨rfl, passes⟩

def report (call : Call) : Outcome :=
  let cleared := call.sessions.map Session.clearQueues
  { sessions := call.sessions.length
    eventsDispatched := (cleared.map (·.events.length)).foldr (· + ·) 0
    hooksApplied := Batch.waited call.assets cleared
    postCommitApplied := if (Batch.outgoing call.sessions).isEmpty then [] else [.queueMessages] }

structure Awaits (call : Call) (pending : Pending) : Prop where
  sessions : pending.sessions =
    (call.sessions.map Session.clearQueues).map (Batch.finished call.assets)
  active : pending.context.Outlasts pending.clock
  done : pending.done = (call.report.eventsDispatched, call.report.hooksApplied)

theorem alone_error {e : BatchError} (fails : call.verdict shared.store = .error e) :
    (call.alone shared).1 = .error e ∧ (call.alone shared).2 = shared := by
  have present : call.sessions ≠ [] := by
    intro none
    unfold verdict at fails
    rw [none] at fails
    cases fails
  have failed : (Batch.process .standard call.assets (call.scene shared)).1 = .error e := by
    unfold verdict at fails
    cases valid : Batch.validate .standard call.assets call.sessions with
    | error cause =>
      rw [valid] at fails
      cases fails
      rw [Batch.process_run present]
      have valid' : Batch.validate .standard call.assets (call.scene shared).subject =
        .error e := valid
      rw [valid']
    | ok =>
      rw [valid] at fails
      have ran := Batch.process_serving (s := call.scene shared) present valid
        (shared.clear call.active).serving
      have made : Batch.result call.assets (call.scene shared).subject
        (call.scene shared).world.store = .error e := fails
      rw [made] at ran
      exact ran
  rcases ran : Batch.process .standard call.assets (call.scene shared) with ⟨_ | _, t⟩ <;>
    rw [ran] at failed <;> cases failed
  obtain ⟨store, queues, _⟩ := Batch.process_failed ran
  unfold alone World.shared
  rw [ran]
  dsimp only
  rw [store, queues]
  exact ⟨rfl, rfl⟩

theorem afterQueueing_there (messages : List QueuedMessage) :
    Batch.afterQueueing messages none =
      { applied := if messages.isEmpty then [] else [.queueMessages] } := by
  unfold Batch.afterQueueing
  cases messages.isEmpty <;> rfl

theorem alone_ok {store : Store} (passes : call.verdict shared.store = .ok store) :
    (call.alone shared).1 = .ok call.report ∧ (call.alone shared).2.store = store := by
  have clear := shared.clear call.active
  obtain ⟨valid, made⟩ := verdict_ok passes
  have succeeds : ∃ outcome,
      (Batch.process .standard call.assets (call.scene shared)).1 = .ok outcome := by
    by_cases present : call.sessions = []
    · have none : call.scene shared = ⟨[], shared.world call.context call.clock⟩ := by
        unfold scene
        rw [present]
      rw [none]
      exact ⟨{}, rfl⟩
    · have ran := Batch.process_serving (s := call.scene shared) present valid clear.serving
      have made' : Batch.result call.assets (call.scene shared).subject
        (call.scene shared).world.store = .ok store := made
      rw [made'] at ran
      exact ran
  obtain ⟨outcome, succeeds⟩ := succeeds
  rcases ran : Batch.process .standard call.assets (call.scene shared) with ⟨_ | _, t⟩ <;>
    rw [ran] at succeeds <;> cases succeeds
  have stored : Batch.result call.assets call.sessions shared.store = .ok t.world.store :=
    Batch.process_result ran
  have reported := Batch.process_outcome clear.available ran
  have outage : (call.scene shared).world.meet.2.meet.2.cache.outage = none := rfl
  rw [outage, afterQueueing_there] at reported
  rw [made] at stored
  unfold alone
  rw [ran]
  exact ⟨congrArg Except.ok reported, (Except.ok.inj stored).symm⟩

theorem enter_error {e : BatchError} (fails : call.verdict shared.store = .error e) :
    call.enter shared = (.finished (.error e), shared) := by
  have present : call.sessions ≠ [] := by
    intro none
    unfold verdict at fails
    rw [none] at fails
    cases fails
  have filled : call.sessions.isEmpty = false := by simpa using present
  obtain ⟨failed, _⟩ := alone_error fails
  unfold alone at failed
  unfold enter
  rw [filled, if_neg Bool.false_ne_true]
  rcases ran : Batch.process .standard call.assets (call.scene shared) with ⟨cause | _, t⟩ <;>
    rw [ran] at failed <;> cases failed
  obtain ⟨store, queues, _⟩ := Batch.process_failed ran
  rw [Batch.process_steps present, Work.bind_run] at ran
  rcases entered : Batch.enter .standard call.assets (call.scene shared) with ⟨cause | done, u⟩ <;>
    rw [entered] at ran
  · cases ran
    dsimp only
    unfold World.shared
    rw [store, queues]
    rfl
  · obtain ⟨_, _, _, left⟩ :=
      Batch.leave_ok .standard call.assets call.sessions.length done u
    dsimp only at ran
    have same : (call.scene shared).subject = call.sessions := rfl
    rw [same, left] at ran
    cases ran

theorem enter_ok {store : Store} (present : call.sessions ≠ [])
    (passes : call.verdict shared.store = .ok store) :
    ∃ pending, call.enter shared = (.committed pending, ⟨store, shared.queues⟩) ∧
      call.Awaits pending := by
  have filled : call.sessions.isEmpty = false := by simpa using present
  have clear := shared.clear call.active
  obtain ⟨valid, made⟩ := verdict_ok passes
  obtain ⟨live, opening⟩ := Batch.opened_available call.assets
    (s := call.scene shared) clear.available
  -- Its two steps succeed together, so the first succeeds, and with it the transaction.
  obtain ⟨succeeds, _⟩ := alone_ok passes
  unfold alone at succeeds
  rw [Batch.process_steps present, Work.bind_run, Batch.enter_run] at succeeds
  unfold enter
  rw [filled, if_neg Bool.false_ne_true, Batch.enter_run]
  have valid' : Batch.validate .standard call.assets (call.scene shared).subject = .ok () := valid
  rw [valid'] at succeeds ⊢
  dsimp only at succeeds ⊢
  rw [live, if_neg Bool.false_ne_true, Batch.commit_run] at succeeds
  rw [live, if_neg Bool.false_ne_true, Batch.commit_run]
  rcases ran : Work.transaction (Batch.body .standard call.assets)
      (Batch.opened call.assets (call.scene shared)) with ⟨e | done, t⟩
  · rw [ran] at succeeds
    cases succeeds
  · obtain ⟨made', queues, subject⟩ := Batch.transaction_committed ran
    have stored : store = t.world.store := Except.ok.inj (made.symm.trans made')
    have later : t.world.context.Outlasts t.world.clock := by
      obtain ⟨_, _, met⟩ := opening.meet
      obtain ⟨u, inside, _⟩ := Work.transaction_ok ran
      have calm := ((Batch.body_follows call.assets (call.scene shared)).calm
        (met.did .begun).toCalm).1
      rw [inside] at calm
      rw [Work.transaction_available opening inside] at ran
      cases ran
      exact calm.active
    refine ⟨⟨t.subject, t.world.context, t.world.clock, done⟩, ?_, subject, later,
      Batch.transaction_counts ran⟩
    unfold World.shared
    dsimp only
    rw [stored, queues]
    rfl

theorem leave_run {pending : Pending} (awaits : call.Awaits pending) :
    call.leave pending shared =
      (.ok call.report,
        ⟨shared.store, shared.queues.append call.assets.orgId (Batch.outgoing call.sessions)⟩) := by
  have clear := shared.clear awaits.active
  obtain ⟨after, u, closed, left⟩ := Batch.leave_ok .standard call.assets call.sessions.length
    pending.done ⟨pending.sessions, shared.world pending.context pending.clock⟩
  have fresh : ∀ session ∈ call.sessions.map Session.clearQueues, session.postCommit = {} :=
    fun _ member => (Batch.clearQueues_fresh member).2
  have only : Batch.OnlyMessages pending.sessions := by
    rw [awaits.sessions]
    exact Batch.onlyMessages_placed fresh
  have store : ((Batch.postCommit .standard call.assets : Work _ BatchError _)
      (Scene.note .info (Batch.committedLine call.assets pending.done.1 pending.done.2)
        ⟨pending.sessions, shared.world pending.context pending.clock⟩)).2.world.store =
      shared.store := Batch.store_postCommit only
  rw [closed] at store
  have epilogue : Batch.Epilogue call.assets (Batch.departing pending.sessions)
      (World.note .info (Batch.committedLine call.assets pending.done.1 pending.done.2)
        (shared.world pending.context pending.clock)) after u.world :=
    Batch.postCommit_epilogue only closed
  have fits : HookId.queueMessages.Fits (Batch.departing pending.sessions) := by
    rw [awaits.sessions]
    exact Batch.departing_fits fresh
  have messages : Messages.outgoing (Batch.departing pending.sessions) =
      Batch.outgoing call.sessions := by
    rw [awaits.sessions, Batch.outgoing_departing fresh]
    exact List.flatMap_map ..
  have each : ∀ entry ∈ Batch.departing pending.sessions, entry.events ≠ [] := fun _ member =>
    of_decide_eq_true (List.mem_filter.1 member).2
  have recorded := epilogue.afterQueueing fits each (clear.note _ _).available
  have delivery := epilogue.delivery fits each
  have outage : (World.note .info (Batch.committedLine call.assets pending.done.1 pending.done.2)
      (shared.world pending.context pending.clock)).meet.2.cache.outage = none := rfl
  rw [outage, afterQueueing_there, messages] at recorded
  rw [recorded, messages] at delivery
  have queues : u.world.cache.queues =
      shared.queues.append call.assets.orgId (Batch.outgoing call.sessions) := by
    cases delivery with
    | made queued => exact queued
  unfold leave
  rw [left, awaits.done, recorded]
  dsimp only
  unfold World.shared
  rw [queues, show u.world.store = shared.store from store]
  rfl

inductive Entered (call : Call) : Progress → Prop where
  | idle (none : call.sessions = []) : Entered call (.finished (.ok call.report))
  | awaiting {pending : Pending} (awaits : call.Awaits pending) : Entered call (.committed pending)

theorem enter_entered {store : Store} (passes : call.verdict shared.store = .ok store) :
    ∃ progress, call.enter shared = (progress, ⟨store, shared.queues⟩) ∧
      call.Entered progress := by
  by_cases none : call.sessions = []
  · obtain ⟨result, made⟩ := alone_ok passes
    have same : call.alone shared = (.ok {}, shared) := by
      unfold alone scene
      rw [none]
      rfl
    rw [same] at result made
    refine ⟨.finished (.ok {}), ?_, ?_⟩
    · unfold enter
      rw [none, ← show shared.store = store from made]
      rfl
    · rw [Except.ok.inj result]
      exact .idle none
  · obtain ⟨pending, entered, awaits⟩ := enter_ok none passes
    exact ⟨_, entered, .awaiting awaits⟩

def held (call : Call) (progress : Progress) (org : OrgId) : List QueuedMessage :=
  match progress with
  | .committed _ => if call.assets.orgId = org then Batch.outgoing call.sessions else []
  | _ => []

theorem Entered.held {progress : Progress} (entered : call.Entered progress) (org : OrgId) :
    call.held progress org =
      if call.assets.orgId = org then Batch.outgoing call.sessions else [] := by
  cases entered with
  | awaiting awaits => rfl
  | idle none =>
    have nothing : Batch.outgoing call.sessions = [] := by
      rw [none]
      rfl
    rw [nothing, ite_self]
    rfl

end Call

structure Store.Backs (store : Store) (org : OrgId) (queue : List QueuedMessage) : Prop where
  once : (queue.map QueuedMessage.uuid).Nodup
  stored : ∀ message ∈ queue, ∃ row ∈ store.messages, row.orgId = org ∧ row.slip = message.slip

def Shared.Sound (shared : Shared) : Prop :=
  ∀ org, shared.store.Backs org (shared.queues.getD org [])

namespace Store.Backs

variable {store made : Store} {org : OrgId} {queue more : List QueuedMessage}

theorem perm (backs : store.Backs org queue) (perm : more.Perm queue) : store.Backs org more :=
  ⟨(perm.map _).nodup_iff.2 backs.once, fun message listed =>
    backs.stored message (perm.mem_iff.1 listed)⟩

theorem part (backs : store.Backs org queue) (part : more.Sublist queue) :
    store.Backs org more :=
  ⟨backs.once.sublist (part.map _), fun message listed =>
    backs.stored message (part.subset listed)⟩

theorem grown {assets : Assets} {sessions : List Session} (backs : store.Backs org queue)
    (passes : Batch.result assets sessions store = .ok made) :
    made.Backs org (queue ++ if assets.orgId = org then Batch.outgoing sessions else []) := by
  obtain ⟨accepts, messages⟩ := Batch.result_messages passes
  have slips := Batch.slips_outgoing assets sessions
  have older : made.Backs org queue := by
    refine ⟨backs.once, fun message listed => ?_⟩
    obtain ⟨row, stored, found⟩ := backs.stored message listed
    exact ⟨row, messages ▸ List.mem_append_left _ stored, found⟩
  split
  · next own =>
    have sent : ∀ message ∈ Batch.outgoing sessions,
        ∃ row ∈ Batch.sent assets sessions, row.slip = message.slip := by
      intro message listed
      have slip : message.slip ∈ (Batch.outgoing sessions).map QueuedMessage.slip :=
        List.mem_map_of_mem listed
      rw [slips] at slip
      exact List.mem_map.1 slip
    refine ⟨?_, fun message listed => ?_⟩
    · rw [List.map_append, List.nodup_append]
      refine ⟨backs.once, ?_, ?_⟩
      · have uuids := congrArg (List.map Slip.uuid) slips
        rw [List.map_map, List.map_map] at uuids
        exact uuids ▸ accepts.distinct
      · intro uuid old other new same
        obtain ⟨message, waiting, rfl⟩ := List.mem_map.1 old
        obtain ⟨message', leaving, rfl⟩ := List.mem_map.1 new
        obtain ⟨row, stored, _, slip⟩ := backs.stored message waiting
        obtain ⟨row', listed, slip'⟩ := sent message' leaving
        have uuids : row.uuid = row'.uuid :=
          (congrArg Slip.uuid slip).trans (same.trans (congrArg Slip.uuid slip').symm)
        exact accepts.apart stored listed uuids
    · rcases List.mem_append.1 listed with old | new
      · exact older.stored message old
      · obtain ⟨row, listed, slip⟩ := sent message new
        refine ⟨row, messages ▸ List.mem_append_right _ listed, ?_, slip⟩
        exact (Batch.sent_org listed).trans own
  · rw [List.append_nil]
    exact older

end Store.Backs

structure System (ι : Type) where
  shared : Shared
  progress : ι → Progress := fun _ => .offered
  turns : List ι := []

section Calls

variable {ι : Type} (calls : ι → Call)

def serial (start : Shared) (order : List ι) : Shared :=
  order.foldl (fun shared i => ((calls i).alone shared).2) start

theorem serial_concat (start : Shared) (order : List ι) (i : ι) :
    serial calls start (order ++ [i]) = ((calls i).alone (serial calls start order)).2 :=
  List.foldl_concat ..

def standing (progress : ι → Progress) (order : List ι) : List ι :=
  order.filter fun i => !(progress i).hasFailed

def Call.Agrees (call : Call) (before : Shared) : Progress → Prop
  | .offered => False
  | .committed pending => call.Awaits pending ∧ (call.alone before).1 = .ok call.report
  | .finished result => result = (call.alone before).1

-- The calls have come as far as they would have, one after the other in the order of their turns.
structure Serial (start : Shared) (s : System ι) : Prop where
  once : s.turns.Nodup
  turned : ∀ i, i ∈ s.turns ↔ s.progress i ≠ .offered
  store : s.shared.store = (serial calls start (standing s.progress s.turns)).store
  agrees : ∀ before i after, s.turns = before ++ i :: after →
    (calls i).Agrees (serial calls start (standing s.progress before)) (s.progress i)

theorem Serial.begins (start : Shared) : Serial calls start { shared := start } where
  once := List.nodup_nil
  turned _ := iff_of_false List.not_mem_nil (fun moved => moved rfl)
  store := rfl
  agrees before _ _ split := by
    cases before <;> cases split

theorem Serial.awaits {start : Shared} {s : System ι} {i : ι} (known : Serial calls start s)
    {pending : Pending} (committed : s.progress i = .committed pending) :
    (calls i).Awaits pending := by
  have listed : i ∈ s.turns := by
    rw [known.turned, committed]
    nofun
  obtain ⟨before, after, split⟩ := List.append_of_mem listed
  have agreed := known.agrees before i after split
  rw [committed] at agreed
  exact agreed.1

def System.due (s : System ι) (org : OrgId) : List QueuedMessage :=
  s.shared.queues.getD org [] ++ s.turns.flatMap fun i => (calls i).held (s.progress i) org

def System.Sound (s : System ι) : Prop :=
  ∀ org, s.shared.store.Backs org (s.due calls org)

theorem Shared.Sound.begins {start : Shared} (sound : start.Sound) :
    System.Sound calls { shared := start } := by
  intro org
  unfold System.due
  rw [List.flatMap_nil, List.append_nil]
  exact sound org

theorem System.Sound.shared {s : System ι} (sound : s.Sound calls) : s.shared.Sound :=
  fun org => (sound org).part (List.sublist_append_left _ _)

variable [DecidableEq ι]

theorem standing_update_new {progress : ι → Progress} {order : List ι} {i : ι}
    (new : i ∉ order) (p : Progress) :
    standing (Function.update progress i p) order = standing progress order :=
  List.filter_congr fun j listed => by
    rw [Function.update_of_ne (ne_of_mem_of_not_mem listed new)]

theorem standing_update_same {progress : ι → Progress} {i : ι} {p : Progress}
    (same : p.hasFailed = (progress i).hasFailed) (order : List ι) :
    standing (Function.update progress i p) order = standing progress order :=
  List.filter_congr fun j _ => by
    by_cases own : j = i
    · rw [own, Function.update_self, same]
    · rw [Function.update_of_ne own]

namespace System

-- A call that is over takes no step.
def advance (s : System ι) (i : ι) : System ι :=
  match s.progress i with
  | .offered =>
    let (progress, shared) := (calls i).enter s.shared
    { shared, progress := Function.update s.progress i progress, turns := s.turns ++ [i] }
  | .committed pending =>
    let (result, shared) := (calls i).leave pending s.shared
    { s with shared, progress := Function.update s.progress i (.finished result) }
  | .finished _ => s

def run (start : Shared) (schedule : List ι) : System ι :=
  schedule.foldl (advance calls) { shared := start }

end System

namespace Serial

variable {calls} {start : Shared} {s : System ι} {i : ι}

-- A first step is the turn of its call. One that fails leaves no trace but its result.
theorem entered (known : Serial calls start s) (offered : s.progress i = .offered)
    {progress : Progress} {shared : Shared}
    (agrees : (calls i).Agrees (serial calls start (standing s.progress s.turns)) progress)
    (store : shared.store = (serial calls start (standing s.progress s.turns ++
      if progress.hasFailed then [] else [i])).store) :
    Serial calls start
      { shared, progress := Function.update s.progress i progress, turns := s.turns ++ [i] } := by
  have new : i ∉ s.turns := fun listed => (known.turned i).1 listed offered
  have moved : progress ≠ .offered := by
    rintro rfl
    exact agrees
  refine ⟨?_, fun j => ?_, ?_, fun before j after split => ?_⟩
  · exact List.nodup_append.2 ⟨known.once, List.nodup_singleton i, fun j old k last same =>
      new (List.mem_singleton.1 last ▸ same ▸ old)⟩
  · dsimp only
    rw [List.mem_append, List.mem_singleton, known.turned]
    by_cases own : j = i
    · rw [own, Function.update_self]
      exact iff_of_true (.inr rfl) moved
    · rw [Function.update_of_ne own]
      exact or_iff_left own
  · dsimp only
    rw [store]
    have last : standing (Function.update s.progress i progress) (s.turns ++ [i]) =
        standing s.progress s.turns ++ if progress.hasFailed then [] else [i] := by
      unfold standing
      rw [List.filter_append]
      refine congrArg₂ (· ++ ·) (standing_update_new new progress) ?_
      rw [List.filter_singleton, Function.update_self]
      cases progress.hasFailed <;> rfl
    rw [last]
  · dsimp only at split ⊢
    rcases List.eq_nil_or_concat after with rfl | ⟨earlier, last, rfl⟩
    · obtain ⟨rfl, same⟩ := List.append_inj' split rfl
      cases same
      rw [standing_update_new new, Function.update_self]
      exact agrees
    · rw [List.concat_eq_append, ← List.cons_append, ← List.append_assoc] at split
      obtain ⟨turns, _⟩ := List.append_inj' split rfl
      have listed : j ∈ s.turns := turns ▸ List.mem_append_right _ List.mem_cons_self
      have apart : i ∉ before := fun old => new (turns ▸ List.mem_append_left _ old)
      rw [standing_update_new apart, Function.update_of_ne (ne_of_mem_of_not_mem listed new)]
      exact known.agrees before j earlier turns

theorem left (known : Serial calls start s) {pending : Pending}
    (committed : s.progress i = .committed pending) {shared : Shared}
    (store : shared.store = s.shared.store) :
    Serial calls start
      { s with shared,
               progress := Function.update s.progress i (.finished (.ok (calls i).report)) } := by
  have same : (Progress.finished (.ok (calls i).report)).hasFailed = (s.progress i).hasFailed := by
    rw [committed]
    rfl
  refine ⟨known.once, fun j => ?_, ?_, fun before j after split => ?_⟩
  · dsimp only
    rw [known.turned]
    by_cases own : j = i
    · rw [own, Function.update_self, committed]
      exact iff_of_true nofun nofun
    · rw [Function.update_of_ne own]
  · dsimp only
    rw [standing_update_same same, store]
    exact known.store
  · dsimp only at split ⊢
    have agreed := known.agrees before j after split
    rw [standing_update_same same]
    by_cases own : j = i
    · cases own
      rw [committed] at agreed
      rw [Function.update_self]
      exact agreed.2.symm
    · rw [Function.update_of_ne own]
      exact agreed

-- What a call does first depends on the store alone, and the store is that of its place.
theorem enter (known : Serial calls start s) (offered : s.progress i = .offered) :
    Serial calls start (s.advance calls i) := by
  unfold System.advance
  rw [offered]
  dsimp only
  have store := known.store
  cases verdict : (calls i).verdict s.shared.store with
  | error e =>
    rw [Call.enter_error verdict]
    rw [store] at verdict
    refine known.entered offered (Call.alone_error verdict).1.symm ?_
    simp only [Progress.hasFailed, if_true, List.append_nil]
    exact store
  | ok made =>
    obtain ⟨progress, entered, kind⟩ := Call.enter_entered verdict
    rw [entered]
    rw [store] at verdict
    obtain ⟨result, left⟩ := Call.alone_ok verdict
    cases kind with
    | idle =>
      refine known.entered offered result.symm ?_
      simp only [Progress.hasFailed, Bool.false_eq_true, if_false, serial_concat]
      exact left.symm
    | awaiting awaits =>
      refine known.entered offered ⟨awaits, result⟩ ?_
      simp only [Progress.hasFailed, Bool.false_eq_true, if_false, serial_concat]
      exact left.symm

theorem advance (known : Serial calls start s) (i : ι) :
    Serial calls start (s.advance calls i) := by
  cases stage : s.progress i with
  | offered => exact known.enter stage
  | committed pending =>
    unfold System.advance
    rw [stage]
    dsimp only
    rw [Call.leave_run (known.awaits calls stage)]
    exact known.left stage rfl
  | finished =>
    unfold System.advance
    rw [stage]
    exact known

end Serial

namespace System

variable {calls} {start : Shared} {s : System ι} {i : ι}

theorem due_entered (new : i ∉ s.turns) {progress : Progress} {shared : Shared}
    (queues : shared.queues = s.shared.queues) (org : OrgId) :
    due calls { shared, progress := Function.update s.progress i progress, turns := s.turns ++ [i] }
        org =
      due calls s org ++ (calls i).held progress org := by
  have others : (s.turns.flatMap fun j =>
      (calls j).held (Function.update s.progress i progress j) org) =
      s.turns.flatMap fun j => (calls j).held (s.progress j) org :=
    List.flatMap_congr fun j listed => by
      rw [Function.update_of_ne (ne_of_mem_of_not_mem listed new)]
  unfold due
  dsimp only
  rw [queues, List.flatMap_append, others, List.flatMap_singleton, Function.update_self,
    List.append_assoc]

theorem due_left (known : Serial calls start s) {pending : Pending}
    (committed : s.progress i = .committed pending) (org : OrgId) :
    (due calls { s with
        shared := ⟨s.shared.store, s.shared.queues.append (calls i).assets.orgId
          (Batch.outgoing (calls i).sessions)⟩
        progress := Function.update s.progress i (.finished (.ok (calls i).report)) } org).Perm
      (due calls s org) := by
  have listed : i ∈ s.turns := by
    rw [known.turned, committed]
    nofun
  obtain ⟨before, after, split⟩ := List.append_of_mem listed
  have once := known.once
  rw [split, List.nodup_append, List.nodup_cons] at once
  have others : ∀ order : List ι, i ∉ order → (order.flatMap fun j => (calls j).held
      (Function.update s.progress i (.finished (.ok (calls i).report)) j) org) =
      order.flatMap fun j => (calls j).held (s.progress j) org := fun order apart =>
    List.flatMap_congr fun j member => by
      rw [Function.update_of_ne (ne_of_mem_of_not_mem member apart)]
  have earlier : i ∉ before := fun old => once.2.2 i old i List.mem_cons_self rfl
  have moved : (calls i).held (s.progress i) org =
      if (calls i).assets.orgId = org then Batch.outgoing (calls i).sessions else [] := by
    rw [committed]
    rfl
  have queue : (s.shared.queues.append (calls i).assets.orgId
      (Batch.outgoing (calls i).sessions)).getD org [] =
      s.shared.queues.getD org [] ++ (calls i).held (s.progress i) org := by
    rw [SendQueues.getD_append, moved]
    split
    · next own => rw [own]
    · rw [List.append_nil]
  have through : (calls i).held (.finished (.ok (calls i).report)) org = [] := rfl
  unfold due
  dsimp only
  rw [queue, split, List.flatMap_append, List.flatMap_append, List.flatMap_cons, List.flatMap_cons,
    others before earlier, others after once.2.1.1, Function.update_self, through,
    List.nil_append, List.append_assoc]
  exact List.Perm.append_left _ (List.perm_append_comm_assoc ..)

theorem Sound.advance (sound : s.Sound calls) (known : Serial calls start s) (i : ι) :
    (s.advance calls i).Sound calls := by
  intro org
  unfold System.advance
  cases stage : s.progress i with
  | finished => exact sound org
  | offered =>
    have new : i ∉ s.turns := fun listed => (known.turned i).1 listed stage
    dsimp only
    cases verdict : (calls i).verdict s.shared.store with
    | error e =>
      rw [Call.enter_error verdict, due_entered new rfl]
      exact (sound org).part (by simp [Call.held])
    | ok made =>
      obtain ⟨progress, entered, kind⟩ := Call.enter_entered verdict
      have queues : (Shared.mk made s.shared.queues).queues = s.shared.queues := rfl
      rw [entered]
      dsimp only
      rw [due_entered new queues, kind.held]
      exact (sound org).grown (Call.verdict_ok verdict).2
  | committed pending =>
    dsimp only
    rw [Call.leave_run (known.awaits calls stage)]
    exact (sound org).perm (due_left known stage org)

end System

theorem System.run_serial (start : Shared) (schedule : List ι) :
    Serial calls start (run calls start schedule) ∧
      (start.Sound → (run calls start schedule).Sound calls) := by
  have rest : ∀ s : System ι, Serial calls start s →
      Serial calls start (schedule.foldl (advance calls) s) ∧
        (s.Sound calls → (schedule.foldl (advance calls) s).Sound calls) := by
    induction schedule with
    | nil => exact fun s known => ⟨known, id⟩
    | cons i later ih =>
      intro s known
      obtain ⟨after, still⟩ := ih (s.advance calls i) (known.advance i)
      exact ⟨after, fun sound => still (sound.advance known i)⟩
  obtain ⟨known, sound⟩ := rest { shared := start } (.begins calls start)
  exact ⟨known, fun begins => sound (begins.begins calls)⟩

-- However the steps of the calls alternate: the store is what the calls that were committed leave,
-- one after the other in the order of their turns; each result is what the call gives at its
-- place in that order; and no queue comes to hold a message twice, or one that is not stored.
theorem concurrent_calls_serialize (start : Shared) (schedule : List ι) :
    let s := System.run calls start schedule
    s.turns.Nodup ∧ (∀ i, i ∈ s.turns ↔ s.progress i ≠ .offered) ∧
      s.shared.store = (serial calls start (standing s.progress s.turns)).store ∧
      (∀ before i after, s.turns = before ++ i :: after → ∀ result, s.progress i = .finished result →
        result = ((calls i).alone (serial calls start (standing s.progress before))).1) ∧
      (start.Sound → s.shared.Sound) := by
  obtain ⟨known, sound⟩ := System.run_serial calls start schedule
  refine ⟨known.once, known.turned, known.store, fun before i after split result finished => ?_,
    fun begins => (sound begins).shared⟩
  have agreed := known.agrees before i after split
  rw [finished] at agreed
  exact agreed

end Calls

theorem Shared.sound_idle (store : Store) : Shared.Sound { store } := by
  intro org
  dsimp only
  rw [Std.ExtTreeMap.getD_empty]
  exact ⟨List.nodup_nil, fun _ listed => absurd listed List.not_mem_nil⟩

namespace Sample

theorem outlasts : Context.Outlasts {} {} :=
  ⟨rfl, fun _ listed => absurd listed List.not_mem_nil, nofun⟩

def rivals : Fin 3 → Call
  | 0 => { assets, sessions := sending ⟨21⟩ "first", active := outlasts }
  | 1 => { assets, sessions := sending ⟨22⟩ "second", active := outlasts }
  | 2 => { assets, sessions := sending ⟨21⟩ "again", active := outlasts }

def idle : Shared := { store := .withContacts [⟨1⟩] }

def crossing : List (Fin 3) := [0, 1, 2, 1, 0]

end Sample

theorem concurrent_calls_serialize_crossing :
    Sample.idle.Sound ∧
      let s := System.run Sample.rivals Sample.idle Sample.crossing
      s.turns = [0, 1, 2] ∧ standing s.progress s.turns = [0, 1] ∧
        s.shared.store = (serial Sample.rivals Sample.idle [0, 1]).store ∧
        (s.shared.queues.getD ⟨1⟩ []).map QueuedMessage.uuid = [⟨22⟩, ⟨21⟩] ∧ s.shared.Sound := by
  obtain ⟨_, _, store, _, sound⟩ :=
    concurrent_calls_serialize Sample.rivals Sample.idle Sample.crossing
  have begins : Sample.idle.Sound := Shared.sound_idle _
  have winners : standing (System.run Sample.rivals Sample.idle Sample.crossing).progress
      (System.run Sample.rivals Sample.idle Sample.crossing).turns = [0, 1] := by
    decide +kernel
  rw [winners] at store
  exact ⟨begins, by decide +kernel, winners, store, by decide +kernel, sound begins⟩

end SessionBatch

import SessionBatch.Proofs.PostCommit

namespace SessionBatch

structure World.Serving (w : World) : Prop extends World.Calm w where
  reachable : w.outage = none
  admitted : w.meet.1.refused = none
  commits : w.meet.1.commitFails = none

namespace Work

variable {σ α : Type} {body : Work σ BatchError α} {rule : Rule σ BatchError α} {s : Scene σ}

theorem transaction_serving (serving : s.world.Serving)
    (follows : FollowsOn (s.met.did .begun) body rule) :
    (transaction body s).1 = (rule s.stage).map Prod.fst := by
  have result : (body (s.met.did .begun)).1 = (rule s.stage).map Prod.fst :=
    (follows.calm ⟨serving.faults, serving.active⟩).2
  rw [transaction_open serving.admitted serving.reachable, serving.commits, ← result]
  unfold closing
  rcases body (s.met.did .begun) with ⟨_ | _, t⟩ <;> rfl

end Work

namespace Batch

variable {assets : Assets} {s t : Scene (List Session)}

def result (assets : Assets) (sessions : List Session) (store : Store) : Except BatchError Store :=
  match Session.firstRefusal? sessions with
  | some e => .error e
  | none => settled assets sessions (store.labelledBy assets (sessions.flatMap (·.events)))

theorem body_result (assets : Assets) (stage : Stage (List Session)) :
    (Rule.body assets stage).map (·.2.store) = result assets stage.subject stage.store := by
  unfold Rule.body result
  cases Session.firstRefusal? stage.subject with
  | some e => rfl
  | none =>
    dsimp only
    cases settled assets stage.subject _ <;> rfl

theorem body_subject {stage stage' : Stage (List Session)} {done : Nat × List HookId}
    (ran : Rule.body assets stage = .ok (done, stage')) :
    stage'.subject = stage.subject.map fun session => (session.placed assets).takePre.2 := by
  unfold Rule.body at ran
  split at ran
  · cases ran
  · cases made : settled assets stage.subject _ <;> rw [made] at ran <;> cases ran
    rfl

theorem result_nil (store : Store) : result assets [] store = .ok store := rfl

theorem result_clearQueues (assets : Assets) (sessions : List Session) (store : Store) :
    result assets (sessions.map Session.clearQueues) store = result assets sessions store := by
  have accepted : Session.firstRefusal? (sessions.map Session.clearQueues) =
      Session.firstRefusal? sessions := by
    unfold Session.firstRefusal?
    rw [List.findSome?_map]
    rfl
  have events : (sessions.map Session.clearQueues).flatMap (·.events) =
      sessions.flatMap (·.events) := by
    rw [List.flatMap_map]
    rfl
  unfold result
  rw [accepted, events, settled_clearQueues]

theorem clearQueues_fresh {sessions : List Session} {session : Session}
    (member : session ∈ sessions.map Session.clearQueues) :
    session.preCommit = {} ∧ session.postCommit = {} := by
  obtain ⟨_, _, rfl⟩ := List.mem_map.1 member
  exact ⟨rfl, rfl⟩

theorem body_follows (assets : Assets) (s : Scene (List Session)) :
    FollowsOn ((opened assets s).met.did .begun) (body .standard assets) (.body assets) :=
  .body fun _ member => (clearQueues_fresh member).1

theorem onlyMessages_placed {sessions : List Session}
    (fresh : ∀ session ∈ sessions, session.postCommit = {}) :
    OnlyMessages (sessions.map fun session => (session.placed assets).takePre.2) := by
  intro session member id other
  obtain ⟨session, within, rfl⟩ := List.mem_map.1 member
  have queued :=
    HookQueue.getElem?_fill (·.payload.followedBy?) session.postCommit session.events id
  have empty : session.postCommit[id]?.getD [] = [] := by
    rw [fresh session within]
    simp
  have none : session.events.filter (·.payload.followedBy? = some id) = [] := by
    rw [List.filter_eq_nil_iff]
    intro event _
    cases event.payload <;> simp [Payload.followedBy?, Ne.symm other]
  rw [empty, none] at queued
  exact queued

theorem opened_stage (assets : Assets) (s : Scene (List Session)) :
    ((opened assets s).met.did .begun).stage =
      ⟨s.subject.map Session.clearQueues, s.world.store⟩ := rfl

def finished (assets : Assets) (session : Session) : Session := (session.placed assets).takePre.2

theorem transaction_committed {done : Nat × List HookId}
    (ran : Work.transaction (body .standard assets) (opened assets s) = (.ok done, t)) :
    result assets s.subject s.world.store = .ok t.world.store ∧
      t.world.cache.queues = s.world.cache.queues ∧
      t.subject = (s.subject.map Session.clearQueues).map (finished assets) := by
  obtain ⟨u, inside, subject, store, cache⟩ := Work.transaction_ok ran
  have known := (body_follows assets s).sound inside
  rw [opened_stage] at known
  refine ⟨?_, ?_, ?_⟩
  · have made := body_result assets ⟨s.subject.map Session.clearQueues, s.world.store⟩
    rw [known, result_clearQueues] at made
    rw [← made, store]
    rfl
  · have kept := (body_follows assets s).cache
    rw [inside] at kept
    rw [cache, kept]
    exact (opened assets s).met_queues
  · rw [subject]
    exact body_subject known

-- What runs after the commit could still write, were anything but messages left for it.
theorem committed_onlyMessages {done : Nat × List HookId}
    (ran : Work.transaction (body .standard assets) (opened assets s) = (.ok done, t)) :
    OnlyMessages t.subject := by
  rw [(transaction_committed ran).2.2]
  exact onlyMessages_placed fun _ member => (clearQueues_fresh member).2

theorem committed_store {done : Nat × List HookId} {after : Aftermath} {level : Level}
    {text : String} {u : Scene (List Session)}
    (ran : Work.transaction (body .standard assets) (opened assets s) = (.ok done, t))
    (closed : (postCommit .standard assets : Work _ BatchError _) (t.note level text) =
      (.ok after, u)) :
    u.world.store = t.world.store := by
  have only : OnlyMessages t.subject := committed_onlyMessages ran
  have kept : (postCommit .standard assets (t.note level text) :
      Except BatchError Aftermath × _).2.world.store = t.world.store := store_postCommit only
  rw [closed] at kept
  exact kept

-- Whatever the world around it did, a batch that succeeds has made of the store what it should.
theorem process_result {outcome : Outcome} (done : process .standard assets s = (.ok outcome, t)) :
    result assets s.subject s.world.store = .ok t.world.store := by
  have course : Course .standard assets s _ _ := process_course s
  rw [done] at course
  cases course with
  | empty none =>
    rw [none]
    exact result_nil s.world.store
  | committed _ _ _ ran closed =>
    rw [(transaction_committed ran).1]
    exact congrArg Except.ok (committed_store ran closed).symm

-- Where nothing disturbs it, a batch fails only where it must.
theorem process_serving (present : s.subject ≠ [])
    (valid : validate .standard assets s.subject = .ok ()) (serving : s.world.Serving) :
    match result assets s.subject s.world.store with
    | .ok _ => ∃ outcome, (process .standard assets s).1 = .ok outcome
    | .error e => (process .standard assets s).1 = .error e := by
  obtain ⟨live, later⟩ := World.Calm.look (w := (started assets s).world)
    ⟨serving.faults, serving.active⟩
  have opened_serving : (opened assets s).world.Serving :=
    { later with
      reachable := serving.reachable
      admitted := serving.admitted
      commits := serving.commits }
  have ran := Work.transaction_serving opened_serving (body_follows assets s)
  rw [← result_clearQueues, ← body_result assets ⟨s.subject.map Session.clearQueues, s.world.store⟩]
  rw [process_run present, valid]
  dsimp only
  rw [live, if_neg Bool.false_ne_true, commit_run]
  have same : (opened assets s).stage = ⟨s.subject.map Session.clearQueues, s.world.store⟩ := rfl
  rw [same] at ran
  generalize Work.transaction (body .standard assets) (opened assets s) = run at ran ⊢
  -- The transaction ends as its rule does, which leaves two of the four pairs of results.
  rcases run with ⟨e | ⟨events, hooks⟩, t⟩ <;>
    rcases made : Rule.body assets ⟨s.subject.map Session.clearQueues, s.world.store⟩ with
      _ | ⟨_, _⟩ <;> rw [made] at ran <;> cases ran
  · rfl
  · obtain ⟨after, u, closed⟩ : ∃ after u, (postCommit .standard assets : Work _ BatchError _)
        (t.note .info (committedLine assets events hooks)) = (.ok after, u) :=
      postCommit_ok .standard assets _
    dsimp only [Except.map]
    rw [closed]
    exact ⟨_, rfl⟩

end Batch

-- A small org and turns of its contacts, for batches at fixed inputs.
namespace Sample

def assets : Assets where
  orgId := ⟨1⟩
  groups := ({} : Std.ExtTreeMap Uuid GroupAsset).insert ⟨7⟩ ⟨⟨5⟩, ⟨7⟩, "guests"⟩
  labels := ({} : Std.ExtTreeMap Uuid LabelAsset).insert ⟨8⟩ ⟨⟨6⟩, ⟨8⟩, "urgent"⟩
  fields := ({} : Std.ExtTreeMap String FieldAsset).insert "age" ⟨"age", "Age"⟩

theorem isDate_moment : Calendar.IsDate 2016 12 31 := by decide

-- A day that ended in a leap second, just before it was over.
def moment : Calendar.Timestamp :=
  ⟨⟨2016, 12, 31, isDate_moment⟩, .last _, .last _, .last _, .last _⟩

def turn (contact : ContactId) (payloads : List Payload) : Session where
  id := ⟨100⟩
  orgId := ⟨1⟩
  contactId := contact
  contactUuid := ⟨3⟩
  events := payloads.map (⟨⟨9⟩, moment, ·⟩)

def store : Store :=
  { Store.withContacts [⟨1⟩] with messages := [⟨⟨20⟩, ⟨1⟩, ⟨1⟩, none, "hello", moment⟩] }

def scene (turns : List Session) : Scene (List Session) := ⟨turns, { store }⟩

def people : World := { store := .withContacts [⟨1⟩] }

theorem run_ok {ε α β : Type} {r : Except ε α × β} (succeeds : r.1.isOk = true) :
    ∃ a b, r = (.ok a, b) := by
  rcases r with ⟨e | a, b⟩
  · cases succeeds
  · exact ⟨a, b, rfl⟩

theorem run_error {ε α β : Type} {r : Except ε α × β} (fails : r.1.isOk = false) :
    ∃ e b, r = (.error e, b) := by
  rcases r with ⟨e | a, b⟩
  · exact ⟨e, b, rfl⟩
  · cases fails

end Sample
end SessionBatch

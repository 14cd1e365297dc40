import Mathlib.Data.List.Nodup
import Mathlib.Logic.Relation
import SessionBatch.Proofs.Delivery
import SessionBatch.Proofs.Rollback
import SessionBatch.Proofs.Outcome

namespace SessionBatch

open Effect

structure Slip where
  uuid : Uuid
  contactId : ContactId
  urn : Option String
  text : String
  deriving DecidableEq

def Message.slip (message : Message) : Slip :=
  ⟨message.uuid, message.contactId, message.urn, message.text⟩

def QueuedMessage.slip (message : QueuedMessage) : Slip :=
  ⟨message.uuid, message.contactId, message.urn, message.text⟩

-- The queue of each org holds stored messages of that org, in the order of the store. No message
-- is stored twice, so none waits twice, be it in one queue or in those of two orgs.
structure Faithful (messages : List Message) (queued : OrgId → List QueuedMessage) : Prop where
  distinct : (messages.map Message.uuid).Nodup
  inOrder : ∀ org, ((queued org).map QueuedMessage.slip).Sublist
    ((messages.filter (·.orgId = org)).map Message.slip)
  once : ∀ org, ((queued org).map QueuedMessage.uuid).Nodup
  apart : ∀ {org other : OrgId} {one two : QueuedMessage}, one ∈ queued org → two ∈ queued other →
    one.uuid = two.uuid → org = other

abbrev World.Faithful (w : World) : Prop :=
  SessionBatch.Faithful w.store.messages w.cache.queued

namespace Faithful

variable {messages : List Message} {queued : OrgId → List QueuedMessage}

theorem stored_of_queued
    (inOrder : ∀ org, ((queued org).map QueuedMessage.slip).Sublist
      ((messages.filter (·.orgId = org)).map Message.slip))
    {org : OrgId} {slip : Slip} (waits : slip ∈ (queued org).map QueuedMessage.slip) :
    ∃ message ∈ messages, message.orgId = org ∧ message.slip = slip := by
  obtain ⟨message, listed, same⟩ := List.mem_map.1 ((inOrder org).subset waits)
  obtain ⟨stored, own⟩ := List.mem_filter.1 listed
  exact ⟨message, stored, of_decide_eq_true own, same⟩

theorem of_inOrder (distinct : (messages.map Message.uuid).Nodup)
    (inOrder : ∀ org, ((queued org).map QueuedMessage.slip).Sublist
      ((messages.filter (·.orgId = org)).map Message.slip)) : Faithful messages queued := by
  refine ⟨distinct, inOrder, fun org => ?_, fun {org other one two} listed listed' same => ?_⟩
  · have uuids := ((inOrder org).map Slip.uuid).trans
      ((List.filter_sublist.map Message.slip).map Slip.uuid)
    rw [List.map_map, List.map_map] at uuids
    exact distinct.sublist uuids
  · obtain ⟨message, stored, rfl, slip⟩ := stored_of_queued inOrder (List.mem_map_of_mem listed)
    obtain ⟨message', stored', rfl, slip'⟩ :=
      stored_of_queued inOrder (List.mem_map_of_mem listed')
    have uuids : message.uuid = message'.uuid :=
      (congrArg Slip.uuid slip).trans (same.trans (congrArg Slip.uuid slip').symm)
    rw [List.inj_on_of_nodup_map distinct stored stored' uuids]

end Faithful

namespace Batch

variable {assets : Assets} {sessions : List Session} {s t : Scene (List Session)}
  {failures : List (HookId × String)}

theorem slips_outgoing (assets : Assets) (sessions : List Session) :
    (outgoing sessions).map QueuedMessage.slip = (sent assets sessions).map Message.slip := by
  rw [sent_eq]
  unfold outgoing Session.turns
  rw [List.map_flatMap, List.filterMap_flatMap, List.map_flatMap]
  refine congrArg (sessions.flatMap ·) (funext fun session => ?_)
  rw [List.map_map, List.map_filterMap, List.filterMap_map, List.map_filterMap]
  refine congrArg (session.events.filterMap ·) (funext fun event => ?_)
  dsimp only [Function.comp_apply]
  cases Messages.message? event.payload <;> rfl

theorem sent_org {row : Message} (listed : row ∈ sent assets sessions) :
    row.orgId = assets.orgId := by
  rw [sent_eq] at listed
  obtain ⟨turn, _, made⟩ := List.mem_filterMap.1 listed
  obtain ⟨message, _, rfl⟩ := Option.map_eq_some_iff.1 made
  rfl

structure Posted (assets : Assets) (sessions : List Session) (w u : World)
    (failures : List (HookId × String)) : Prop where
  accepts : w.store.Accepts (sent assets sessions)
  messages : u.store.messages = w.store.messages ++ sent assets sessions
  delivery : Delivery assets.orgId (outgoing sessions) w.cache.queues u.cache.queues failures

theorem result_messages {store store' : Store} (made : result assets sessions store = .ok store') :
    store.Accepts (sent assets sessions) ∧
      store'.messages = store.messages ++ sent assets sessions := by
  obtain ⟨_, settles, rfl⟩ := result_ok made
  obtain ⟨_, _, messages⟩ := Store.labelledBy_rest assets (sessions.flatMap (·.events)) store
  refine ⟨settles.sending, ?_⟩
  rw [← messages]
  rfl

theorem process_posted {outcome : Outcome} (done : process .standard assets s = (.ok outcome, t)) :
    Posted assets s.subject s.world t.world outcome.postCommitFailures := by
  obtain ⟨accepts, messages⟩ := result_messages (process_result done)
  exact ⟨accepts, messages, process_delivery done⟩

namespace Posted

variable {w u : World}

theorem listed (posted : Posted assets sessions w u failures) :
    .queueMessages ∈ failures.map Prod.fst ↔ failures ≠ [] := by
  cases posted.delivery with
  | made => simp
  | missed => simp

-- Each queue gets all the new messages of its org, or none where the failure is on record.
theorem queued (posted : Posted assets sessions w u failures) (org : OrgId) :
    (u.cache.queued org).map QueuedMessage.slip =
      (w.cache.queued org).map QueuedMessage.slip ++
        if failures = [] then ((sent assets sessions).filter (·.orgId = org)).map Message.slip
        else [] := by
  unfold Cache.queued
  cases posted.delivery with
  | made queued =>
    rw [queued, SendQueues.getD_append, if_pos rfl]
    by_cases own : assets.orgId = org
    · cases own
      have all : (sent assets sessions).filter (·.orgId = assets.orgId) = sent assets sessions :=
        List.filter_eq_self.2 fun row member => decide_eq_true (sent_org member)
      rw [if_pos rfl, all, List.map_append, slips_outgoing assets]
    · have none : (sent assets sessions).filter (·.orgId = org) = [] :=
        List.filter_eq_nil_iff.2 fun row member => by
          rw [sent_org member]
          exact mt of_decide_eq_true own
      rw [if_neg own, none, List.map_nil, List.append_nil]
  | missed filled unchanged =>
    rw [unchanged, if_neg (List.cons_ne_nil _ _), List.append_nil]

end Posted
end Batch

theorem Store.Accepts.slip_not_mem {store : Store} {rows : List Message}
    (accepts : store.Accepts rows) {message : Message} (stored : message ∈ store.messages) :
    message.slip ∉ rows.map Message.slip := by
  intro listed
  obtain ⟨row, member, same⟩ := List.mem_map.1 listed
  exact accepts.apart stored member (congrArg Slip.uuid same).symm

namespace Faithful

variable {w u : World} {rows : List Message}

theorem grown (faithful : w.Faithful) (accepts : w.store.Accepts rows)
    (messages : u.store.messages = w.store.messages ++ rows)
    (queued : ∀ org, ∃ more : List Slip,
      more.Sublist ((rows.filter (·.orgId = org)).map Message.slip) ∧
        (u.cache.queued org).map QueuedMessage.slip =
          (w.cache.queued org).map QueuedMessage.slip ++ more) : u.Faithful := by
  refine of_inOrder ?_ fun org => ?_
  · rw [messages]
    exact accepts.nodup_append faithful.distinct
  · obtain ⟨more, part, grew⟩ := queued org
    rw [grew, messages, List.filter_append, List.map_append]
    exact (faithful.inOrder org).append part

theorem committed (faithful : w.Faithful) (accepts : w.store.Accepts rows)
    (messages : u.store.messages = w.store.messages ++ rows)
    (queues : u.cache.queues = w.cache.queues) : u.Faithful := by
  refine faithful.grown accepts messages fun org => ⟨[], List.nil_sublist _, ?_⟩
  unfold Cache.queued
  rw [queues, List.append_nil]

theorem posted {assets : Assets} {sessions : List Session} {failures : List (HookId × String)}
    (faithful : w.Faithful) (posted : Batch.Posted assets sessions w u failures) :
    u.Faithful := by
  refine faithful.grown posted.accepts posted.messages fun org => ⟨_, ?_, posted.queued org⟩
  split
  · exact List.Sublist.refl _
  · exact List.nil_sublist _

theorem of_same (faithful : w.Faithful) (store : u.store = w.store)
    (queues : u.cache.queues = w.cache.queues) : u.Faithful := by
  unfold World.Faithful Cache.queued at *
  rw [store, queues]
  exact faithful

end Faithful

-- What may happen to a world: a batch of some org, or anything that concerns neither the store nor
-- what waits to be sent. So the backend and the cache may come and go between two batches, and
-- what lies ahead of a batch may change them between its two transactions.
inductive Batched : World → World → Prop where
  | batch (assets : Assets) (sessions : List Session) (w : World) :
      Batched w (Batch.process .standard assets ⟨sessions, w⟩).2.world
  | outside {w u : World} (store : u.store = w.store)
      (queues : u.cache.queues = w.cache.queues) : Batched w u

namespace Batched

variable {w u v : World}

theorem foreseen (w : World) (ahead : List Circumstance) : Batched w { w with ahead } :=
  .outside rfl rfl

theorem cases_step (step : Batched w u) :
    (u.store = w.store ∧ u.cache.queues = w.cache.queues) ∨
      ∃ assets sessions failures, Batch.Posted assets sessions w u failures := by
  cases step with
  | outside store queues => exact .inl ⟨store, queues⟩
  | batch assets sessions =>
    rcases ran : Batch.process .standard assets ⟨sessions, w⟩ with ⟨e | outcome, t⟩
    · obtain ⟨store, queues, _⟩ := Batch.process_failed ran
      exact .inl ⟨store, queues⟩
    · exact .inr ⟨assets, sessions, _, Batch.process_posted ran⟩

theorem faithful (step : Batched w u) (before : w.Faithful) : u.Faithful := by
  rcases step.cases_step with ⟨store, queues⟩ | ⟨_, _, _, posted⟩
  · exact before.of_same store queues
  · exact before.posted posted

theorem waiting_iff (step : Batched w u) {message : Message} (stored : message ∈ w.store.messages)
    (org : OrgId) :
    message ∈ u.store.messages ∧
      (message.slip ∈ (u.cache.queued org).map QueuedMessage.slip ↔
        message.slip ∈ (w.cache.queued org).map QueuedMessage.slip) := by
  rcases step.cases_step with ⟨store, queues⟩ | ⟨assets, sessions, failures, posted⟩
  · unfold Cache.queued
    rw [store, queues]
    exact ⟨stored, Iff.rfl⟩
  · have new : message.slip ∉ if failures = [] then
        ((Batch.sent assets sessions).filter (·.orgId = org)).map Message.slip else [] := by
      split
      · intro listed
        exact posted.accepts.slip_not_mem stored ((List.filter_sublist.map _).subset listed)
      · exact List.not_mem_nil
    rw [posted.messages, posted.queued, List.mem_append, List.mem_append]
    exact ⟨.inl stored, or_iff_left new⟩

theorem runs_faithful (run : Relation.ReflTransGen Batched w u) (before : w.Faithful) :
    u.Faithful := by
  induction run with
  | refl => exact before
  | tail _ step ih => exact step.faithful ih

theorem runs_waiting_iff (run : Relation.ReflTransGen Batched w u) {message : Message}
    (stored : message ∈ w.store.messages) (org : OrgId) :
    message ∈ u.store.messages ∧
      (message.slip ∈ (u.cache.queued org).map QueuedMessage.slip ↔
        message.slip ∈ (w.cache.queued org).map QueuedMessage.slip) := by
  induction run with
  | refl => exact ⟨stored, Iff.rfl⟩
  | tail _ step ih =>
    obtain ⟨still, waits⟩ := ih
    obtain ⟨stays, same⟩ := step.waiting_iff still org
    exact ⟨stays, same.trans waits⟩

end Batched

theorem Batch.Posted.missing_iff {assets : Assets} {sessions : List Session} {w u : World}
    {failures : List (HookId × String)} (posted : Posted assets sessions w u failures)
    (faithful : w.Faithful) {message : Message} (stored : message ∈ u.store.messages)
    (new : message ∉ w.store.messages) :
    message.slip ∉ (u.cache.queued message.orgId).map QueuedMessage.slip ↔
      .queueMessages ∈ failures.map Prod.fst := by
  rw [posted.messages] at stored
  have sent : message ∈ Batch.sent assets sessions :=
    (List.mem_append.1 stored).resolve_left new
  -- Before the batch it did not wait: what waits is stored, under a name that was not new.
  have idle : message.slip ∉ (w.cache.queued message.orgId).map QueuedMessage.slip := by
    intro waits
    obtain ⟨other, known, _, same⟩ := Faithful.stored_of_queued faithful.inOrder waits
    exact posted.accepts.apart known sent (congrArg Slip.uuid same)
  have own : message.slip ∈ ((Batch.sent assets sessions).filter
      (·.orgId = message.orgId)).map Message.slip :=
    List.mem_map_of_mem (List.mem_filter.2 ⟨sent, decide_eq_true rfl⟩)
  rw [posted.listed, posted.queued, List.mem_append]
  by_cases made : failures = []
  · simp [made, own]
  · simp [made, idle]

theorem withContacts_faithful {w : World} {ids : List ContactId}
    (start : w.store = .withContacts ids) (idle : w.cache.queues = {}) : w.Faithful := by
  have none : w.store.messages = [] := by
    rw [start]
    rfl
  refine Faithful.of_inOrder ?_ fun org => ?_
  · rw [none]
    exact List.nodup_nil
  · unfold Cache.queued
    rw [none, idle, Std.ExtTreeMap.getD_empty]
    exact List.Sublist.refl _

-- From contacts and empty queues on, what waits to be sent follows what is stored: after every
-- batch, and between its two transactions as well. What a batch stores waits from its end on,
-- unless the batch reports a failure of the queue; then it never does.
theorem queues_follow_store {ids : List ContactId} {w u : World}
    (start : w.store = .withContacts ids) (idle : w.cache.queues = {})
    (run : Relation.ReflTransGen Batched w u) :
    u.Faithful ∧
      ∀ (assets : Assets) (sessions : List Session),
        (Work.transaction (Batch.body .standard assets)
          (Batch.opened assets ⟨sessions, u⟩)).2.world.Faithful ∧
        ∀ outcome t, Batch.process .standard assets ⟨sessions, u⟩ = (.ok outcome, t) →
          ∀ v, Relation.ReflTransGen Batched t.world v →
            ∀ message ∈ t.world.store.messages, message ∉ u.store.messages →
              (message.slip ∉ (v.cache.queued message.orgId).map QueuedMessage.slip ↔
                .queueMessages ∈ outcome.postCommitFailures.map Prod.fst) := by
  have now : u.Faithful := Batched.runs_faithful run (withContacts_faithful start idle)
  refine ⟨now, fun assets sessions => ⟨?_, ?_⟩⟩
  · rcases ran : Work.transaction (Batch.body .standard assets)
      (Batch.opened assets ⟨sessions, u⟩) with ⟨e | done, t⟩
    · exact now.of_same (Work.transaction_error ran).1 (Batch.failed_queues ran)
    · obtain ⟨made, queues, _⟩ := Batch.transaction_committed ran
      obtain ⟨accepts, messages⟩ := Batch.result_messages made
      exact now.committed accepts messages queues
  · intro outcome t done v later message stored new
    have posted := Batch.process_posted done
    obtain ⟨_, same⟩ := Batched.runs_waiting_iff later stored message.orgId
    rw [same]
    exact posted.missing_iff now stored new

namespace Sample

def sending (uuid : Uuid) (text : String) : List Session :=
  [turn ⟨1⟩ [.msgCreated ⟨uuid, none, text⟩]]

def waiting : World := (Batch.process .standard assets ⟨sending ⟨21⟩ "first", people⟩).2.world

def failing : World :=
  { waiting with ahead := [{}, { cache := some (some (.unavailable "away")) }] }

def unsent : Message := ⟨⟨22⟩, ⟨1⟩, ⟨1⟩, none, "second", moment⟩

def lost : Except BatchError Outcome × Scene (List Session) :=
  Batch.process .standard assets ⟨sending ⟨22⟩ "second", failing⟩

end Sample

theorem queues_follow_store_failing :
    Sample.people.store = .withContacts [⟨1⟩] ∧ Sample.people.cache.queues = {} ∧
      Relation.ReflTransGen Batched Sample.people Sample.failing ∧ Sample.failing.Faithful ∧
      ∃ outcome t, Batch.process .standard Sample.assets
          ⟨Sample.sending ⟨22⟩ "second", Sample.failing⟩ = (.ok outcome, t) ∧
        Sample.unsent ∈ t.world.store.messages ∧ Sample.unsent ∉ Sample.failing.store.messages ∧
        .queueMessages ∈ outcome.postCommitFailures.map Prod.fst ∧
        Sample.unsent.slip ∉ (t.world.cache.queued ⟨1⟩).map QueuedMessage.slip := by
  have first : Batched Sample.people Sample.waiting := .batch Sample.assets _ _
  have second : Batched Sample.waiting Sample.failing := .foreseen Sample.waiting _
  have run : Relation.ReflTransGen Batched Sample.people Sample.failing :=
    .tail (.single first) second
  have stored : Sample.unsent ∈ Sample.lost.2.world.store.messages := by decide +kernel
  have new : Sample.unsent ∉ Sample.failing.store.messages := by decide +kernel
  have reported : Sample.lost.1.toOption.map (·.postCommitFailures.map Prod.fst) =
      some [.queueMessages] := by decide +kernel
  obtain ⟨outcome, t, lost⟩ := Sample.run_ok (r := Sample.lost) (by decide +kernel)
  rw [lost] at stored reported
  have names : outcome.postCommitFailures.map Prod.fst = [.queueMessages] :=
    Option.some.inj reported
  have listed : .queueMessages ∈ outcome.postCommitFailures.map Prod.fst := by
    rw [names]
    exact List.mem_singleton_self _
  have start : Sample.people.store = .withContacts [⟨1⟩] := rfl
  obtain ⟨now, later⟩ := queues_follow_store start rfl run
  have missing := ((later _ _).2 outcome t lost t.world .refl Sample.unsent stored new).2 listed
  exact ⟨start, rfl, run, now, outcome, t, lost, stored, new, listed, missing⟩

end SessionBatch

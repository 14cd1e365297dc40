import SessionBatch.Proofs.Acceptance
import SessionBatch.Proofs.Availability
import SessionBatch.Proofs.Delivery
import SessionBatch.Proofs.Sequential

namespace SessionBatch

open Effect

structure World.Clear (w : World) : Prop extends World.Calm w where
  reachable : w.outage = none
  cached : w.cache.outage = none
  harmless : ∀ c ∈ w.ahead, c.refused = none ∧ c.commitFails = none ∧
    ∀ outage ∈ c.cache, outage = none

namespace World.Clear

variable {w u : World}

theorem of_around (clear : w.Clear) (calm : u.Calm) (same : u.around = w.around) : u.Clear := by
  unfold around at same
  rw [Prod.mk.injEq, Prod.mk.injEq] at same
  obtain ⟨cache, outage, ahead⟩ := same
  refine ⟨calm, ?_, ?_, ?_⟩
  · rw [outage]
    exact clear.reachable
  · rw [cache]
    exact clear.cached
  · rw [ahead]
    exact clear.harmless

theorem look (clear : w.Clear) : w.look.1 = false ∧ w.look.2.Clear := by
  obtain ⟨live, later⟩ := clear.toCalm.look
  exact ⟨live, clear.of_around later rfl⟩

theorem note (clear : w.Clear) (level : Level) (text : String) : (w.note level text).Clear :=
  clear.of_around ⟨clear.faults, clear.active⟩ rfl

theorem did (clear : w.Clear) (deed : Deed) : (w.did deed).Clear :=
  clear.of_around ⟨clear.faults, clear.active⟩ rfl

theorem available (clear : w.Clear) : w.Available := by
  refine ⟨clear.toCalm, clear.reachable, ?_⟩
  intro c member
  obtain ⟨admitted, commits, _⟩ := clear.harmless c member
  exact ⟨admitted, commits⟩

theorem meet (clear : w.Clear) :
    w.meet.1.refused = none ∧ w.meet.1.commitFails = none ∧ w.meet.2.Clear := by
  obtain ⟨admitted, commits, available⟩ := clear.available.meet
  have later : ∀ c ∈ w.meet.2.ahead, c.refused = none ∧ c.commitFails = none ∧
      ∀ outage ∈ c.cache, outage = none := fun c member =>
    clear.harmless c (List.mem_of_mem_tail member)
  have there : ∀ outage ∈ w.meet.1.cache, outage = none := by
    unfold World.meet
    cases upcoming : w.ahead with
    | nil => simp
    | cons c rest => exact (clear.harmless c (by simp [upcoming])).2.2
  refine ⟨admitted, commits, available.toCalm, available.reachable, ?_, later⟩
  have cached := clear.cached
  unfold World.meet at there ⊢
  dsimp only at there ⊢
  split
  · rename_i outage change
    exact there outage change
  · exact cached

theorem serving (clear : w.Clear) : w.Serving := clear.available.serving

end World.Clear

theorem Work.transaction_clear {σ α : Type} {body : Work σ BatchError α} {s t : Scene σ}
    {result : Except BatchError α} (clear : s.world.Clear)
    (inside : (body (s.met.did .begun)).2.world.Clear)
    (ran : transaction body s = (result, t)) :
    (body (s.met.did .begun)).1 = result ∧ t.world.Clear := by
  obtain ⟨admitted, commits, _⟩ := clear.meet
  rw [transaction_open admitted clear.reachable, commits] at ran
  unfold closing at ran
  rcases within : body (s.met.did .begun) with ⟨e | a, u⟩ <;> rw [within] at inside ran <;>
    cases ran
  · have reverted : World.Clear { u.world with store := s.world.store } :=
      inside.of_around ⟨inside.faults, inside.active⟩ rfl
    exact ⟨rfl, (reverted.note _ _).did _⟩
  · exact ⟨rfl, (inside.note _ _).did _⟩

namespace Batch

open Work

variable {assets : Assets} {entries : List SessionEvents}

theorem attempts_clear (assets : Assets) (fits : HookId.queueMessages.Fits entries)
    (filled : Messages.outgoing entries ≠ []) {s : Scene Aftermath} (clear : s.world.Clear) :
    ∃ u, attempts assets [(.queueMessages, entries)] s = (.ok (), u) ∧
      u.subject.failures = s.subject.failures ∧ u.world.Clear := by
  rw [attempts_run fits filled, attemptHook_run fits filled, clear.cached]
  refine ⟨_, rfl, rfl, World.Clear.note ?_ _ _⟩
  exact ⟨⟨clear.faults, clear.active⟩, clear.reachable, clear.cached, clear.harmless⟩

theorem Epilogue.clear {world final : World} {after : Aftermath}
    (epilogue : Epilogue assets entries world after final)
    (fits : HookId.queueMessages.Fits entries) (each : ∀ entry ∈ entries, entry.events ≠ [])
    (clear : world.Clear) : final.Clear ∧ after.failures = [] := by
  have run : entries ≠ [] → ∃ v, attempts assets [(.queueMessages, entries)]
      ((Scene.met ⟨{}, world⟩).did .begun) = (.ok (), v) ∧ v.subject.failures = [] ∧
        v.world.Clear := by
    intro present
    obtain ⟨_, _, met⟩ := clear.meet
    exact attempts_clear assets fits (outgoing_filled fits each present) (met.did .begun)
  cases epilogue with
  | quiet => exact ⟨clear, rfl⟩
  | closed present ran =>
    obtain ⟨v, inside, failures, later⟩ := run present
    obtain ⟨_, inside', subject, _⟩ := transaction_ok ran
    rw [inside] at inside'
    cases inside'
    rw [subject]
    exact ⟨(transaction_clear clear (by rw [inside]; exact later) ran).2, failures⟩
  | broken present ran =>
    obtain ⟨v, inside, _, later⟩ := run present
    have same := (transaction_clear clear (by rw [inside]; exact later) ran).1
    rw [inside] at same
    cases same

theorem process_clear {s t : Scene (List Session)} {outcome : Outcome} (clear : s.world.Clear)
    (done : process .standard assets s = (.ok outcome, t)) :
    t.world.Clear ∧ outcome.postCommitFailures = [] := by
  have course : Course .standard assets s _ _ := process_course s
  rw [done] at course
  cases course with
  | empty none => exact ⟨clear.note _ _, rfl⟩
  | @committed events hooks u _ after present valid live ran closed =>
    have opening : (opened assets s).world.Clear := (clear.note _ _).look.2
    obtain ⟨_, _, met⟩ := opening.meet
    have follows := body_follows assets s
    have inside := (met.did .begun).of_around
      (follows.calm (met.did .begun).toCalm).1 follows.around
    obtain ⟨_, committed⟩ := transaction_clear opening inside ran
    obtain ⟨_, epilogue, fits, each, _⟩ := committed_epilogue ran closed
    exact epilogue.clear fits each (committed.note _ _)

end Batch

def Event.labels? (event : Event) : Option Uuid :=
  match event.payload with
  | .inputLabelsAdded input _ => some input
  | _ => none

-- Two batches that have no business with one another: no contact whose groups change in both, and
-- no label of the second on a message of the first.
structure Separate (first second : List Session) : Prop where
  groups : ∀ one ∈ first, ∀ two ∈ second, one.contactId = two.contactId →
    ∀ event ∈ one.events, event.type = .contactGroupsChanged →
      ∀ later ∈ two.events, later.type ≠ .contactGroupsChanged
  labels : ∀ uuid ∈ (second.flatMap (·.events)).filterMap Event.labels?,
    uuid ∉ (first.flatMap (·.events)).filterMap Event.creates?

theorem Session.type_of_lastMention {assets : Assets} {group : GroupId} {session : Session}
    {added : Bool} (ends : session.lastMention assets group = some added) :
    ∃ event ∈ session.events, event.type = .contactGroupsChanged := by
  unfold lastMention at ends
  obtain ⟨event, within, listed⟩ := List.mem_flatMap.1 (List.mem_of_getLast? ends)
  refine ⟨event, within, ?_⟩
  unfold Event.mentions at listed
  unfold Event.type
  cases payload : event.payload <;> rw [payload] at listed <;> first | rfl | cases listed

theorem Session.turns_append (first second : List Session) :
    turns (first ++ second) = turns first ++ turns second := List.flatMap_append

theorem exists_mem_append {α : Type} {first second : List α} {p : α → Prop} :
    (∃ a ∈ first ++ second, p a) ↔ (∃ a ∈ first, p a) ∨ ∃ a ∈ second, p a := by
  simp only [List.mem_append, or_and_right, exists_or]

namespace Sequel

variable {assets : Assets} {first second : List Session} {start middle final other : Store}

theorem hasContact (sequel : Sequel assets first start final) (id : ContactId) :
    final.hasContact id = start.hasContact id := by
  unfold Store.hasContact
  rw [sequel.contacts]
  exact Batch.hasContact_told assets _ _ id

theorem hasMessage (sequel : Sequel assets first start final) (uuid : Uuid) :
    final.hasMessage uuid = true ↔ start.hasMessage uuid = true ∨
      uuid ∈ (first.flatMap (·.events)).filterMap Event.creates? := by
  unfold Store.hasMessage
  rw [sequel.messages, ← sent_stored, List.any_append, Bool.or_eq_true, ← Batch.sent_uuids assets]
  simp

theorem append (separate : Separate first second) (before : Sequel assets first start middle)
    (after : Sequel assets second middle final) :
    Sequel assets (first ++ second) start final := by
  refine ⟨?_, ?_, fun row => ?_, fun row => ?_⟩
  · rw [after.contacts, before.contacts, Session.turns_append, List.foldl_append]
  · rw [after.messages, before.messages, Session.turns_append, List.filterMap_append,
      List.append_assoc]
  · -- What the second labels is not what the first has stored.
    have known : (∃ session ∈ second, ∃ event ∈ session.events, event.Puts assets row) →
        (middle.hasMessage row.message = true ↔ start.hasMessage row.message = true) := by
      rintro ⟨session, within, event, among, refs, payload, _⟩
      have labels : row.message ∈ (second.flatMap (·.events)).filterMap Event.labels? := by
        refine List.mem_filterMap.2 ⟨event, List.mem_flatMap.2 ⟨session, within, among⟩, ?_⟩
        unfold Event.labels?
        rw [payload]
      rw [before.hasMessage]
      exact or_iff_left (separate.labels row.message labels)
    rw [after.labels, before.labels, exists_mem_append, and_congr_left known, and_or_left,
      or_assoc]
  · -- Whoever joins with the second has not parted with the first.
    have apart : (∃ session ∈ second, session.contactId = row.contact ∧
          session.lastMention assets row.group = some true) →
        ¬ ∃ session ∈ first, session.contactId = row.contact ∧
          session.lastMention assets row.group = some false := by
      rintro ⟨two, within, contact, joins⟩ ⟨one, within', contact', parts⟩
      obtain ⟨event, among, type⟩ := Session.type_of_lastMention parts
      obtain ⟨later, among', type'⟩ := Session.type_of_lastMention joins
      exact separate.groups one within' two within (contact'.trans contact.symm) event among type
        later among' type'
    rw [after.memberships, before.memberships, exists_mem_append, exists_mem_append,
      or_congr_right (and_iff_left_of_imp apart).symm, ← or_and_right, and_assoc, ← not_or,
      or_assoc]

theorem unique (one : Sequel assets first start final) (two : Sequel assets first start other) :
    final.contacts = other.contacts ∧ final.memberships = other.memberships ∧
      final.messages = other.messages ∧ final.labels = other.labels := by
  refine ⟨one.contacts.trans two.contacts.symm, ?_, one.messages.trans two.messages.symm, ?_⟩
  · refine Std.ExtTreeSet.ext_mem fun row => ?_
    rw [one.memberships, two.memberships]
  · refine Std.ExtTreeSet.ext_mem fun row => ?_
    rw [one.labels, two.labels]

end Sequel

theorem SendQueues.append_append (queues : SendQueues) (org : OrgId)
    (first second : List QueuedMessage) :
    (queues.append org first).append org second = queues.append org (first ++ second) := by
  by_cases some : first = []
  · simp [append, some]
  by_cases more : second = []
  · simp [append, some, more]
  refine Std.ExtTreeMap.ext_getElem? fun other => ?_
  by_cases same : org = other <;>
    simp [append, some, more, same, Std.ExtTreeMap.getElem?_insert]

structure World.Agrees (w u : World) : Prop where
  contacts : w.store.contacts = u.store.contacts
  memberships : w.store.memberships = u.store.memberships
  messages : w.store.messages = u.store.messages
  labels : w.store.labels = u.store.labels
  queues : w.cache.queues = u.cache.queues

namespace Batch

variable {assets : Assets} {first second : List Session} {store middle : Store}

theorem waiting_append (assets : Assets) (first second : List Session) (id : HookId) :
    waiting assets (first ++ second) id = waiting assets first id ++ waiting assets second id := by
  unfold waiting
  rw [List.map_append, List.filter_append]

theorem joins_append (assets : Assets) (first second : List Session) :
    joins assets (first ++ second) = joins assets first ++ joins assets second := by
  unfold joins taken Groups.rows
  rw [waiting_append, List.map_append, List.flatMap_append]

theorem sent_append (assets : Assets) (first second : List Session) :
    sent assets (first ++ second) = sent assets first ++ sent assets second := by
  rw [sent_eq, sent_eq, sent_eq, Session.turns_append, List.filterMap_append]

theorem outgoing_append (first second : List Session) :
    outgoing (first ++ second) = outgoing first ++ outgoing second := List.flatMap_append

theorem settles_append (sequel : Sequel assets first store middle) :
    Settles assets (first ++ second) store ↔
      Settles assets first store ∧ Settles assets second middle := by
  have contacts := sequel.hasContact
  have messages : middle.messages = store.messages ++ sent assets first := by
    rw [sent_stored]
    exact sequel.messages
  have accepts : Store.Accepts { store with messages := store.messages ++ sent assets first }
      (sent assets second) ↔ middle.Accepts (sent assets second) :=
    ⟨.of_same contacts messages, .of_same (fun id => (contacts id).symm) messages.symm⟩
  constructor
  · rintro ⟨joining, sending⟩
    rw [joins_append, List.forall_mem_append] at joining
    rw [sent_append, Store.accepts_append, accepts] at sending
    refine ⟨⟨joining.1, sending.1⟩, fun row listed => ?_, sending.2⟩
    rw [contacts]
    exact joining.2 row listed
  · rintro ⟨⟨joining, sending⟩, ⟨joining', sending'⟩⟩
    refine ⟨?_, ?_⟩
    · rw [joins_append, List.forall_mem_append]
      refine ⟨joining, fun row listed => ?_⟩
      rw [← contacts]
      exact joining' row listed
    · rw [sent_append, Store.accepts_append, accepts]
      exact ⟨sending, sending'⟩

theorem acceptable_append (sequel : Sequel assets first store middle) :
    Acceptable assets (first ++ second) store ↔
      Acceptable assets first store ∧ Acceptable assets second middle := by
  have accepted : Session.firstRefusal? (first ++ second) = none ↔
      Session.firstRefusal? first = none ∧ Session.firstRefusal? second = none := by
    unfold Session.firstRefusal?
    rw [List.findSome?_append, Option.or_eq_none_iff]
  rw [acceptable_iff, acceptable_iff, acceptable_iff, List.forall_mem_append, accepted,
    settles_append sequel]
  constructor
  · rintro ⟨⟨org, org'⟩, ⟨sound, sound'⟩, settles, settles'⟩
    exact ⟨⟨org, sound, settles⟩, org', sound', settles'⟩
  · rintro ⟨⟨org, sound, settles⟩, org', sound', settles'⟩
    exact ⟨⟨org, org'⟩, ⟨sound, sound'⟩, settles, settles'⟩

theorem process_acceptable {sessions : List Session} {w : World} (clear : w.Clear) :
    (∃ outcome u, process .standard assets ⟨sessions, w⟩ = (.ok outcome, u)) ↔
      Acceptable assets sessions w.store := by
  rw [acceptable_iff]
  refine Iff.trans ?_ (process_ok_settles (s := ⟨sessions, w⟩) clear.serving)
  constructor
  · rintro ⟨outcome, u, done⟩
    exact ⟨outcome, congrArg Prod.fst done⟩
  · rintro ⟨outcome, done⟩
    exact ⟨outcome, _, Prod.ext done rfl⟩

structure Passed (assets : Assets) (sessions : List Session) (w u : World) : Prop where
  clear : u.Clear
  sequel : Sequel assets sessions w.store u.store
  queues : u.cache.queues = SendQueues.append w.cache.queues assets.orgId (outgoing sessions)

theorem process_passed {sessions : List Session} {w : World} {outcome : Outcome}
    {u : Scene (List Session)} (clear : w.Clear)
    (done : process .standard assets ⟨sessions, w⟩ = (.ok outcome, u)) :
    Passed assets sessions w u.world := by
  obtain ⟨later, failures⟩ := process_clear clear done
  obtain ⟨_, _, made⟩ := result_ok (process_result done)
  have delivery := process_delivery done
  rw [failures] at delivery
  refine ⟨later, ?_, ?_⟩
  · rw [made]
    exact final_sequel assets sessions w.store
  · cases delivery with
    | made queued => exact queued

-- In a clear world a batch of two separate parts succeeds just if the first part does and then the
-- second, and it comes to the same.
theorem split_process (assets : Assets) {w : World} (clear : w.Clear)
    (separate : Separate first second) :
    ((∃ outcome t, process .standard assets ⟨first ++ second, w⟩ = (.ok outcome, t)) ↔
        ∃ outcome u, process .standard assets ⟨first, w⟩ = (.ok outcome, u) ∧
          ∃ outcome v, process .standard assets ⟨second, u.world⟩ = (.ok outcome, v)) ∧
      ∀ {whole one two : Outcome} {t u v : Scene (List Session)},
        process .standard assets ⟨first ++ second, w⟩ = (.ok whole, t) →
          process .standard assets ⟨first, w⟩ = (.ok one, u) →
            process .standard assets ⟨second, u.world⟩ = (.ok two, v) →
              t.world.Agrees v.world := by
  constructor
  · rw [process_acceptable clear]
    constructor
    · intro acceptable
      obtain ⟨early, _⟩ := (acceptable_append (final_sequel assets first w.store)).1 acceptable
      obtain ⟨outcome, u, done⟩ := (process_acceptable clear).2 early
      have passed := process_passed clear done
      obtain ⟨_, late⟩ := (acceptable_append passed.sequel).1 acceptable
      exact ⟨outcome, u, done, (process_acceptable passed.clear).2 late⟩
    · rintro ⟨outcome, u, done, done'⟩
      have passed := process_passed clear done
      have early := (process_acceptable clear).1 ⟨outcome, u, done⟩
      exact (acceptable_append passed.sequel).2 ⟨early, (process_acceptable passed.clear).1 done'⟩
  · intro whole one two t u v all before after
    have passed := process_passed clear all
    have passed₁ := process_passed clear before
    have passed₂ := process_passed passed₁.clear after
    obtain ⟨contacts, memberships, messages, labels⟩ :=
      passed.sequel.unique (passed₁.sequel.append separate passed₂.sequel)
    refine ⟨contacts, memberships, messages, labels, ?_⟩
    rw [passed.queues, passed₂.queues, passed₁.queues, SendQueues.append_append, outgoing_append]

end Batch

namespace Sample

def earlier : List Session := alternating.take 1
def later : List Session := alternating.drop 1

theorem clear_store : World.Clear { store } := by
  refine ⟨⟨rfl, rfl, fun _ none => ?_, fun _ none => ?_⟩, rfl, rfl, fun _ none => ?_⟩ <;> cases none

theorem separate_turns : Separate earlier later := by
  constructor
  · decide +kernel
  · decide +kernel

end Sample

theorem split_process_alternating :
    World.Clear { store := Sample.store } ∧ Separate Sample.earlier Sample.later ∧
      ∃ whole one two t u v,
        Batch.process .standard Sample.assets
            ⟨Sample.earlier ++ Sample.later, { store := Sample.store }⟩ = (.ok whole, t) ∧
          Batch.process .standard Sample.assets ⟨Sample.earlier, { store := Sample.store }⟩ =
              (.ok one, u) ∧
            Batch.process .standard Sample.assets ⟨Sample.later, u.world⟩ = (.ok two, v) ∧
              t.world.Agrees v.world := by
  obtain ⟨same, agree⟩ := Batch.split_process Sample.assets Sample.clear_store
    Sample.separate_turns
  obtain ⟨whole, t, all⟩ := Sample.run_ok (r := Batch.process .standard Sample.assets
    ⟨Sample.earlier ++ Sample.later, { store := Sample.store }⟩) (by decide +kernel)
  obtain ⟨one, u, before, two, v, after⟩ := same.1 ⟨whole, t, all⟩
  exact ⟨Sample.clear_store, Sample.separate_turns, whole, one, two, t, u, v, all, before, after,
    agree all before after⟩

end SessionBatch

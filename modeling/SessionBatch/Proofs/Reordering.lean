import SessionBatch.Proofs.Acceptance
import SessionBatch.Proofs.Completion
import SessionBatch.Proofs.Sequential

namespace SessionBatch

open Effect

def Reordered (first second : List Session) : Prop :=
  ∀ contact, first.filter (·.contactId = contact) = second.filter (·.contactId = contact)

variable {first second : List Session} {assets : Assets} {store : Store}

theorem Reordered.perm (reordered : Reordered first second) : first.Perm second := by
  rw [List.perm_iff_count]
  intro session
  have kept : ∀ sessions : List Session, sessions.count session =
      (sessions.filter (·.contactId = session.contactId)).count session := by
    intro sessions
    rw [List.count_filter (by simp)]
  rw [kept first, kept second, reordered]

theorem Session.turns_perm (perm : first.Perm second) : (turns first).Perm (turns second) :=
  perm.flatMap_right _

theorem Session.turns_filter (sessions : List Session) (contact : ContactId) :
    (turns sessions).filter (·.1 = contact) =
      turns (sessions.filter (·.contactId = contact)) := by
  unfold turns
  induction sessions with
  | nil => rfl
  | cons session rest ih =>
    rw [List.flatMap_cons, List.filter_append, ih, List.filter_cons]
    have mine : (session.events.map (session.contactId, ·)).filter (·.1 = contact) =
        if session.contactId = contact then session.events.map (session.contactId, ·) else [] := by
      by_cases own : session.contactId = contact <;> simp [own]
    rw [mine]
    by_cases own : session.contactId = contact <;> simp [own]

theorem foldl_eq_empty {κ α β : Type} [Ord κ] {step : Std.ExtTreeMap κ α → β → Std.ExtTreeMap κ α}
    (grows : ∀ m b, step m b ≠ ∅) (items : List β) (m : Std.ExtTreeMap κ α) :
    items.foldl step m = ∅ ↔ items = [] ∧ m = ∅ := by
  induction items generalizing m with
  | nil => simp
  | cons item rest ih => simp [ih, grows]

namespace Effect

theorem byContact_perm {α : Type} {pick : Payload → Option α} {entries entries' : List SessionEvents}
    (perm : entries.Perm entries') :
    (byContact (taken pick entries)).Perm (byContact (taken pick entries')) :=
  (perm.map _).flatMap_right _

theorem latest_eq_empty {α : Type} (taken : List (Session × List α)) :
    latest taken = ∅ ↔ byContact taken = [] := by
  rw [latest_eq, foldl_eq_empty]
  · simp
  · simp

theorem merged_eq_empty (taken : List (Session × List (FieldRef × Option String))) :
    Fields.merged taken = ∅ ↔ byContact taken = [] := by
  rw [merged_eq, foldl_eq_empty]
  · simp
  · simp [Std.ExtTreeMap.alter_eq_empty_iff]

end Effect

namespace Store

theorem statements_labelledBy (assets : Assets) (events : List Event) (store : Store) :
    (store.labelledBy assets events).statements =
      store.statements + events.countP fun event => event.payload.labelRows assets ≠ [] := by
  induction events generalizing store with
  | nil => rfl
  | cons event rest ih =>
    refine (ih (store.labelled (event.payload.labelRows assets))).trans ?_
    rw [List.countP_cons]
    change store.statements + _ + _ = _
    cases event.payload.labelRows assets <;> simp
    omega

end Store

namespace Batch

theorem told_reordered (reordered : Reordered first second)
    (contacts : Std.ExtTreeMap ContactId Contact) :
    told assets (Session.turns first) contacts = told assets (Session.turns second) contacts := by
  refine Std.ExtTreeMap.ext_getElem? fun id => ?_
  rw [getElem?_told, getElem?_told, Session.turns_filter, Session.turns_filter, reordered]

theorem waiting_perm (perm : first.Perm second) (id : HookId) :
    (waiting assets first id).Perm (waiting assets second id) := (perm.map _).filter _

theorem waited_perm (perm : first.Perm second) : waited assets first = waited assets second := by
  refine List.filter_congr fun id _ => ?_
  have empty : waiting assets first id = [] ↔ waiting assets second id = [] := by
    rw [← List.isEmpty_iff, ← List.isEmpty_iff, (waiting_perm perm id).isEmpty_eq]
  simp [empty]

theorem sent_perm (perm : first.Perm second) : (sent assets first).Perm (sent assets second) := by
  rw [sent_stored, sent_stored]
  exact (Session.turns_perm perm).filterMap _

theorem outgoing_perm (perm : first.Perm second) : (outgoing first).Perm (outgoing second) :=
  perm.flatMap_right _

theorem isEmpty_changes (perm : first.Perm second) (member : Bool) :
    (Groups.rows assets member
        (taken Groups.change? (waiting assets first .commitGroupChanges))).isEmpty =
      (Groups.rows assets member
        (taken Groups.change? (waiting assets second .commitGroupChanges))).isEmpty := by
  rw [Bool.eq_iff_iff, List.isEmpty_iff, List.isEmpty_iff, List.eq_nil_iff_forall_not_mem,
    List.eq_nil_iff_forall_not_mem]
  simp only [mem_changes, perm.mem_iff]

theorem final_statements (assets : Assets) (sessions : List Session) (store : Store) :
    (final assets sessions store).statements =
      store.statements +
        (if (latest (taken Names.name?
          (waiting assets sessions .commitNameChanges))).isEmpty then 0 else 1) +
        (if ((latest (taken Languages.language? (waiting assets sessions
          .commitLanguageChanges))).map fun _ => Languages.stored).isEmpty then 0 else 1) +
        (if (Fields.merged (taken Fields.change?
          (waiting assets sessions .commitFieldChanges))).isEmpty then 0 else 1) +
        (if (joins assets sessions).isEmpty then 0 else 1) +
        (if (partings assets sessions).isEmpty then 0 else 1) +
        (if (sent assets sessions).isEmpty then 0 else 1) := rfl

theorem statements_perm (perm : first.Perm second) {other : Store}
    (same : store.statements = other.statements) :
    (final assets first store).statements = (final assets second other).statements := by
  have rows : ∀ {α : Type} (pick : Payload → Option α) (id : HookId),
      byContact (taken pick (waiting assets first id)) = [] ↔
        byContact (taken pick (waiting assets second id)) = [] := by
    intro α pick id
    rw [← List.isEmpty_iff, (byContact_perm (waiting_perm perm id)).isEmpty_eq, List.isEmpty_iff]
  rw [final_statements, final_statements, same, (sent_perm perm).isEmpty_eq]
  simp only [Std.ExtTreeMap.isEmpty_iff, Std.ExtTreeMap.map_eq_empty_iff, latest_eq_empty,
    merged_eq_empty, rows]
  unfold joins partings
  rw [isEmpty_changes perm, isEmpty_changes perm]

theorem labelled_perm (perm : first.Perm second) (store : Store) :
    (store.labelledBy assets (first.flatMap (·.events))).statements =
      (store.labelledBy assets (second.flatMap (·.events))).statements := by
  have events : (first.flatMap (·.events)).Perm (second.flatMap (·.events)) :=
    perm.flatMap_right _
  rw [Store.statements_labelledBy, Store.statements_labelledBy, events.countP_eq]

theorem acceptable_perm (perm : first.Perm second) :
    Acceptable assets first store → Acceptable assets second store := by
  intro ⟨org, sound, members, senders, distinct, fresh⟩
  have created : ((first.flatMap (·.events)).filterMap Event.creates?).Perm
      ((second.flatMap (·.events)).filterMap Event.creates?) :=
    (perm.flatMap_right _).filterMap _
  simp only [perm.mem_iff] at org sound members senders
  refine ⟨org, sound, members, senders, created.nodup_iff.1 distinct, ?_⟩
  intro uuid member
  exact fresh uuid (created.mem_iff.2 member)

theorem afterQueueing_perm (perm : first.Perm second) (outage : Option StoreError) :
    afterQueueing (outgoing first) outage = afterQueueing (outgoing second) outage := by
  unfold afterQueueing
  rw [(outgoing_perm perm).isEmpty_eq]

theorem final_reordered (reordered : Reordered first second) {one two start : Store}
    (done : result assets first start = .ok one) (done' : result assets second start = .ok two) :
    one.contacts = two.contacts ∧ one.memberships = two.memberships ∧ one.labels = two.labels ∧
      one.statements = two.statements ∧ one.messages.Perm two.messages := by
  obtain ⟨_, _, rfl⟩ := result_ok done
  obtain ⟨_, _, rfl⟩ := result_ok done'
  have before := final_sequel assets first start
  have after := final_sequel assets second start
  have perm := reordered.perm
  refine ⟨?_, ?_, ?_, ?_, ?_⟩
  · rw [before.contacts, after.contacts]
    exact told_reordered reordered start.contacts
  · apply Std.ExtTreeSet.ext_mem
    intro row
    simp only [before.memberships, after.memberships, perm.mem_iff]
  · apply Std.ExtTreeSet.ext_mem
    intro row
    simp only [before.labels, after.labels, perm.mem_iff]
  · exact statements_perm perm (labelled_perm perm start)
  · rw [before.messages, after.messages]
    exact ((Session.turns_perm perm).filterMap _).append_left _

end Batch

structure World.Matches (w u : World) : Prop where
  contacts : w.store.contacts = u.store.contacts
  memberships : w.store.memberships = u.store.memberships
  labels : w.store.labels = u.store.labels
  statements : w.store.statements = u.store.statements
  messages : w.store.messages.Perm u.store.messages
  queues : ∀ org, (w.cache.queued org).Perm (u.cache.queued org)

namespace Batch

theorem Delivery.perm {org : OrgId} {messages messages' : List QueuedMessage}
    {before after after' : SendQueues} {failures : List (HookId × String)}
    (one : Delivery org messages before after failures)
    (two : Delivery org messages' before after' failures) (perm : messages.Perm messages')
    (other : OrgId) : (after.getD other []).Perm (after'.getD other []) := by
  cases one with
  | made queued =>
    cases two with
    | made queued' =>
      rw [queued, queued', SendQueues.getD_append, SendQueues.getD_append]
      by_cases same : org = other
      · simpa [same] using perm.append_left _
      · simp [same]
  | missed _ unchanged =>
    cases two with
    | missed _ unchanged' => rw [unchanged, unchanged']

theorem process_ok_perm {w : World} (available : w.Available) (perm : first.Perm second)
    {outcome : Outcome} {t : Scene (List Session)}
    (done : process .standard assets ⟨first, w⟩ = (.ok outcome, t)) :
    ∃ outcome u, process .standard assets ⟨second, w⟩ = (.ok outcome, u) := by
  have acceptable : Acceptable assets first w.store := by
    rw [acceptable_iff]
    exact (process_ok_settles (s := ⟨first, w⟩) available.serving).1
      ⟨outcome, congrArg Prod.fst done⟩
  have acceptable' := acceptable_iff.1 (acceptable_perm perm acceptable)
  obtain ⟨outcome, done⟩ := (process_ok_settles (s := ⟨second, w⟩) available.serving).2 acceptable'
  exact ⟨outcome, _, Prod.ext done rfl⟩

-- The order of sessions that share no contact makes no difference: two such orders of a batch
-- succeed together, with one outcome and to the same effect.
theorem reordered_process (assets : Assets) {w : World} (available : w.Available)
    (reordered : Reordered first second) :
    ((∃ outcome t, process .standard assets ⟨first, w⟩ = (.ok outcome, t)) ↔
        ∃ outcome u, process .standard assets ⟨second, w⟩ = (.ok outcome, u)) ∧
      ∀ {one two : Outcome} {t u : Scene (List Session)},
        process .standard assets ⟨first, w⟩ = (.ok one, t) →
          process .standard assets ⟨second, w⟩ = (.ok two, u) →
            one = two ∧ t.world.Matches u.world := by
  have perm := reordered.perm
  refine ⟨⟨?_, ?_⟩, ?_⟩
  · rintro ⟨outcome, t, done⟩
    exact process_ok_perm available perm done
  · rintro ⟨outcome, u, done⟩
    exact process_ok_perm available perm.symm done
  · intro one two t u done done'
    have outcomes : one = two := by
      have cleared := perm.map Session.clearQueues
      have counts := (cleared.map (·.events.length)).foldr_eq' (f := (· + ·))
        (fun _ _ _ _ _ => by omega) 0
      have one := process_outcome available done
      have two := process_outcome available done'
      dsimp only at one two
      rw [one, two, perm.length_eq, counts, waited_perm cleared, afterQueueing_perm perm]
    obtain ⟨contacts, memberships, labels, statements, messages⟩ :=
      final_reordered reordered (process_result done) (process_result done')
    refine ⟨outcomes, contacts, memberships, labels, statements, messages, fun org => ?_⟩
    have delivery := process_delivery done'
    rw [← outcomes] at delivery
    exact (process_delivery done).perm delivery (outgoing_perm perm) org

end Batch
namespace Sample

def couple : World := { store := .withContacts [⟨1⟩, ⟨2⟩] }

def ann : Session := turn ⟨1⟩ [.contactNameChanged "Ann", .msgCreated ⟨⟨21⟩, none, "first"⟩]
def cleo : Session :=
  turn ⟨2⟩ [.contactGroupsChanged [⟨⟨7⟩, "guests"⟩] [], .msgCreated ⟨⟨22⟩, none, "second"⟩]
def bea : Session := turn ⟨1⟩ [.contactNameChanged "Bea"]

theorem couple_available : couple.Available := by
  refine ⟨⟨rfl, rfl, fun _ none => ?_, fun _ none => ?_⟩, rfl, fun _ none => ?_⟩ <;> cases none

theorem cleo_aside : Reordered [ann, cleo, bea] [cleo, ann, bea] := by
  intro contact
  by_cases one : contact = ⟨1⟩
  · rw [one]
    rfl
  · have other : ann.contactId ≠ contact := Ne.symm one
    simp [List.filter_cons, other]

end Sample

theorem reordered_process_aside :
    Sample.couple.Available ∧
      Reordered [Sample.ann, Sample.cleo, Sample.bea] [Sample.cleo, Sample.ann, Sample.bea] ∧
      ∃ outcome t u,
        Batch.process .standard Sample.assets
            ⟨[Sample.ann, Sample.cleo, Sample.bea], Sample.couple⟩ = (.ok outcome, t) ∧
          Batch.process .standard Sample.assets
            ⟨[Sample.cleo, Sample.ann, Sample.bea], Sample.couple⟩ = (.ok outcome, u) ∧
          t.world.Matches u.world := by
  obtain ⟨together, alike⟩ :=
    Batch.reordered_process Sample.assets Sample.couple_available Sample.cleo_aside
  obtain ⟨one, t, done⟩ := Sample.run_ok (r := Batch.process .standard Sample.assets
    ⟨[Sample.ann, Sample.cleo, Sample.bea], Sample.couple⟩) (by decide +kernel)
  obtain ⟨two, u, done'⟩ := together.1 ⟨one, t, done⟩
  obtain ⟨rfl, same⟩ := alike done done'
  exact ⟨Sample.couple_available, Sample.cleo_aside, one, t, u, done, done', same⟩

end SessionBatch

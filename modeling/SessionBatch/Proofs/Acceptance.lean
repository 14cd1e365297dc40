import SessionBatch.Proofs.Outcome
import SessionBatch.Proofs.Validation

namespace SessionBatch

open Effect

def Event.Sound (event : Event) : Prop :=
  match event.payload with
  | .contactLanguageChanged language => language = "" ∨ language.length = 3
  | .msgCreated message => message.text ≠ ""
  | _ => True

def Event.creates? (event : Event) : Option Uuid :=
  match event.payload with
  | .msgCreated message => some message.uuid
  | _ => none

structure Acceptable (assets : Assets) (sessions : List Session) (store : Store) : Prop where
  org : ∀ session ∈ sessions, session.orgId = assets.orgId
  sound : ∀ session ∈ sessions, ∀ event ∈ session.events, event.Sound
  members : ∀ session ∈ sessions, (∃ group, session.lastMention assets group = some true) →
    store.hasContact session.contactId = true
  senders : ∀ session ∈ sessions, (∃ event ∈ session.events, event.type = .msgCreated) →
    store.hasContact session.contactId = true
  distinct : ((sessions.flatMap (·.events)).filterMap Event.creates?).Nodup
  fresh : ∀ uuid ∈ (sessions.flatMap (·.events)).filterMap Event.creates?,
    store.hasMessage uuid = false

def BatchError.Blames : BatchError → Prop
  | .mixedOrgs _ _ => True
  | .handler .contactLanguageChanged _ (.invalid _) => True
  | .handler .msgCreated _ (.invalid _) => True
  | .hook .commitGroupChanges (.store (.foreignKeyViolation _)) => True
  | .hook .commitMessages (.store (.foreignKeyViolation _)) => True
  | .hook .commitMessages (.store (.uniqueViolation _)) => True
  | _ => False

theorem Event.refusal?_eq_none {event : Event} : event.payload.refusal? = none ↔ event.Sound := by
  unfold Sound
  cases event.payload with
  | contactLanguageChanged language =>
    by_cases empty : language = "" <;> simp [Payload.refusal?, Languages.isCode, empty]
  | msgCreated message => simp [Payload.refusal?]
  | _ => simp [Payload.refusal?]

theorem Event.refusal?_blames {event : Event} {session : SessionId} {e : EffectError}
    (refused : event.payload.refusal? = some e) :
    (BatchError.handler event.type session e).Blames := by
  unfold Event.type
  cases payload : event.payload <;> rw [payload] at refused <;>
    simp only [Payload.refusal?] at refused <;> try cases refused
  all_goals
    split at refused <;> cases refused
    exact trivial

namespace Session

variable {sessions : List Session}

theorem firstRefusal?_eq_none :
    firstRefusal? sessions = none ↔
      ∀ session ∈ sessions, ∀ event ∈ session.events, event.Sound := by
  unfold firstRefusal?
  rw [List.findSome?_eq_none_iff]
  refine forall₂_congr fun session _ => ?_
  unfold refusal?
  rw [List.findSome?_eq_none_iff]
  refine forall₂_congr fun event _ => ?_
  rw [Option.map_eq_none_iff, Event.refusal?_eq_none]

theorem firstRefusal?_blames {e : BatchError} (refused : firstRefusal? sessions = some e) :
    e.Blames := by
  obtain ⟨session, _, own⟩ := List.exists_of_findSome?_eq_some refused
  obtain ⟨event, _, cause⟩ := List.exists_of_findSome?_eq_some own
  obtain ⟨problem, found, rfl⟩ := Option.map_eq_some_iff.1 cause
  exact Event.refusal?_blames found

end Session

namespace Batch

variable {assets : Assets} {sessions : List Session} {store : Store}

theorem sent_uuids (assets : Assets) (sessions : List Session) :
    (sent assets sessions).map Message.uuid =
      (sessions.flatMap (·.events)).filterMap Event.creates? := by
  rw [sent_eq, ← Session.map_snd_turns, List.filterMap_map, List.map_filterMap]
  congr 1
  funext turn
  unfold Event.creates?
  dsimp only [Function.comp_apply]
  cases turn.2.payload <;> rfl

theorem sent_contacts {p : ContactId → Prop} :
    (∀ row ∈ sent assets sessions, p row.contactId) ↔
      ∀ session ∈ sessions, (∃ event ∈ session.events, event.type = .msgCreated) →
        p session.contactId := by
  rw [sent_eq]
  constructor
  · rintro each session within ⟨event, among, type⟩
    obtain ⟨message, found⟩ := Option.isSome_iff_exists.1 ((Messages.picks _).2 type)
    refine each (Messages.row assets.orgId session.contactId event message) ?_
    refine List.mem_filterMap.2 ⟨(session.contactId, event), ?_, by rw [found]; rfl⟩
    exact List.mem_flatMap.2 ⟨session, within, List.mem_map_of_mem among⟩
  · intro each row listed
    obtain ⟨turn, taken, found⟩ := List.mem_filterMap.1 listed
    obtain ⟨session, within, own⟩ := List.mem_flatMap.1 taken
    obtain ⟨event, among, rfl⟩ := List.mem_map.1 own
    obtain ⟨message, created, rfl⟩ := Option.map_eq_some_iff.1 found
    refine each session within ⟨event, among, ?_⟩
    unfold Event.type
    dsimp only at created
    cases payload : event.payload <;> rw [payload] at created <;> cases created
    rfl

theorem joins_contacts {p : ContactId → Prop} :
    (∀ row ∈ joins assets sessions, p row.contact) ↔
      ∀ session ∈ sessions, (∃ group, session.lastMention assets group = some true) →
        p session.contactId := by
  constructor
  · rintro each session within ⟨group, ends⟩
    exact each ⟨session.contactId, group⟩ ((mem_changes assets sessions).2
      ⟨session, within, rfl, ends⟩)
  · intro each row listed
    obtain ⟨session, within, contact, ends⟩ := (mem_changes assets sessions).1 listed
    rw [← contact]
    exact each session within ⟨row.group, ends⟩

theorem acceptable_iff :
    Acceptable assets sessions store ↔
      (∀ session ∈ sessions, session.orgId = assets.orgId) ∧
        Session.firstRefusal? sessions = none ∧ Settles assets sessions store := by
  rw [Session.firstRefusal?_eq_none]
  constructor
  -- Rows of memberships and messages stand for the sessions and events that they come from.
  · intro ⟨org, sound, members, senders, distinct, fresh⟩
    rw [← sent_uuids assets] at distinct fresh
    have joining : ∀ row ∈ joins assets sessions, store.hasContact row.contact = true :=
      joins_contacts (p := (store.hasContact · = true)).2 members
    have known : ∀ row ∈ sent assets sessions, store.hasContact row.contactId = true :=
      sent_contacts (p := (store.hasContact · = true)).2 senders
    refine ⟨org, sound, joining, known, distinct, ?_⟩
    exact fun row member => fresh row.uuid (List.mem_map_of_mem member)
  · intro ⟨org, sound, joining, known, distinct, fresh⟩
    rw [sent_uuids] at distinct
    have members := joins_contacts (p := (store.hasContact · = true)).1 joining
    have senders := sent_contacts (p := (store.hasContact · = true)).1 known
    refine ⟨org, sound, members, senders, distinct, ?_⟩
    rw [← sent_uuids assets]
    intro uuid member
    obtain ⟨row, listed, rfl⟩ := List.mem_map.1 member
    exact fresh row listed

theorem result_outcome (assets : Assets) (sessions : List Session) (store : Store) :
    match result assets sessions store with
    | .ok _ => Session.firstRefusal? sessions = none ∧ Settles assets sessions store
    | .error e =>
      e.Blames ∧ ¬ (Session.firstRefusal? sessions = none ∧ Settles assets sessions store) := by
  cases made : result assets sessions store with
  | ok t =>
    obtain ⟨accepted, settles, _⟩ := result_ok made
    exact ⟨accepted, settles⟩
  | error e =>
    dsimp only
    unfold result at made
    split at made
    · rename_i refused
      cases made
      exact ⟨Session.firstRefusal?_blames refused, by simp [refused]⟩
    · rename_i accepted
      by_cases settles : Settles assets sessions
          (store.labelledBy assets (sessions.flatMap (·.events)))
      · rw [settled_ok settles] at made
        cases made
      · refine ⟨?_, fun both => settles (labelledBy_settles.2 both.2)⟩
        obtain ⟨text, failed | failed | failed⟩ := settled_error settles <;>
          rw [failed] at made <;> cases made <;> exact trivial

theorem validate_standard :
    validate .standard assets sessions = .ok () ↔
      ∀ session ∈ sessions, session.orgId = assets.orgId := by
  rw [validate_ok_iff]
  refine forall₂_congr fun session _ => and_iff_left fun event _ => ?_
  exact ⟨Registry.standardHandler event.type, Registry.lookup_standard event.type⟩

-- Since no handler is missing, only a session of another org is refused at once.
theorem validate_standard_error {e : BatchError}
    (problem : validate .standard assets sessions = .error e) : e.Blames := by
  obtain ⟨session, _, problem⟩ := checks_error problem
  split at problem
  · cases problem
    exact trivial
  · obtain ⟨event, _, problem⟩ := checks_error problem
    rw [Registry.lookup_standard] at problem
    cases problem

theorem process_ok_settles {s : Scene (List Session)} (serving : s.world.Serving) :
    (∃ outcome, (process .standard assets s).1 = .ok outcome) ↔
      (∀ session ∈ s.subject, session.orgId = assets.orgId) ∧
        Session.firstRefusal? s.subject = none ∧ Settles assets s.subject s.world.store := by
  rw [← validate_standard]
  have outcome := result_outcome assets s.subject s.world.store
  by_cases present : s.subject = []
  · obtain ⟨_, w⟩ := s
    cases present
    exact ⟨fun _ => ⟨rfl, outcome⟩, fun _ => ⟨_, rfl⟩⟩
  cases valid : validate .standard assets s.subject with
  | error e =>
    rw [process_run present, valid]
    simp
  | ok =>
    have run := process_serving present valid serving
    cases made : result assets s.subject s.world.store with
    | ok =>
      rw [made] at run outcome
      exact ⟨fun _ => ⟨rfl, outcome⟩, fun _ => run⟩
    | error e =>
      rw [made] at run outcome
      have failed : (process .standard assets s).1 = .error e := run
      rw [failed]
      simp [outcome.2]

-- Where nothing disturbs it a batch succeeds just if it is acceptable, and any error tells what
-- it lacks.
theorem process_ok_iff {s : Scene (List Session)} (present : s.subject ≠ [])
    (serving : s.world.Serving) :
    ((∃ outcome, (process .standard assets s).1 = .ok outcome) ↔
        Acceptable assets s.subject s.world.store) ∧
      ∀ e, (process .standard assets s).1 = .error e → e.Blames := by
  rw [acceptable_iff, ← validate_standard]
  cases valid : validate .standard assets s.subject with
  | error e =>
    have refused : (process .standard assets s).1 = .error e := by
      rw [process_run present, valid]
    rw [refused]
    refine ⟨by simp, fun _ same => ?_⟩
    cases same
    exact validate_standard_error valid
  | ok =>
    have run := process_serving present valid serving
    have outcome := result_outcome assets s.subject s.world.store
    cases made : result assets s.subject s.world.store with
    | ok =>
      rw [made] at run outcome
      obtain ⟨_, done⟩ := run
      refine ⟨⟨fun _ => ⟨rfl, outcome⟩, fun _ => ⟨_, done⟩⟩, fun e failed => ?_⟩
      rw [done] at failed
      cases failed
    | error e =>
      rw [made] at run outcome
      obtain ⟨blames, unmet⟩ := outcome
      have failed : (process .standard assets s).1 = .error e := run
      rw [failed]
      refine ⟨by simp [unmet], fun _ same => ?_⟩
      cases same
      exact blames

end Batch

def Sample.passing : List Session :=
  [turn ⟨1⟩ [.contactLanguageChanged "", .msgCreated ⟨⟨21⟩, none, "first"⟩],
    turn ⟨2⟩ [.contactGroupsChanged [⟨⟨7⟩, "guests"⟩] [],
      .contactGroupsChanged [] [⟨⟨7⟩, "guests"⟩]]]

theorem process_ok_iff_passing :
    Sample.passing ≠ [] ∧ (Sample.scene Sample.passing).world.Serving ∧
      ((∃ outcome, (Batch.process .standard Sample.assets (Sample.scene Sample.passing)).1 =
          .ok outcome) ↔ Acceptable Sample.assets Sample.passing Sample.store) ∧
      ∀ e, (Batch.process .standard Sample.assets (Sample.scene Sample.passing)).1 = .error e →
        e.Blames := by
  have present : Sample.passing ≠ [] := List.cons_ne_nil _ _
  have serving : (Sample.scene Sample.passing).world.Serving := by
    refine ⟨⟨rfl, rfl, fun _ none => ?_, fun _ none => ?_⟩, rfl, rfl, rfl⟩
    · cases none
    · cases none
  exact ⟨present, serving, Batch.process_ok_iff present serving⟩

end SessionBatch

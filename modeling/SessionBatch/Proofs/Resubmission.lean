import SessionBatch.Proofs.Retrial
import SessionBatch.Proofs.Splitting

namespace SessionBatch

section Writes

variable {σ α β : Type} (view : σ → β) (write? : α → Option β) {step : σ → α → σ}

-- Steps that either write what is seen or leave it alone: the last write stays.
theorem foldl_writes (seen : ∀ s a, view (step s a) = (write? a).getD (view s)) (items : List α)
    (s : σ) : view (items.foldl step s) = (items.filterMap write?).getLast?.getD (view s) := by
  induction items generalizing s with
  | nil => rfl
  | cons a rest ih =>
    rw [List.foldl_cons, ih, seen, List.filterMap_cons]
    cases write? a <;> simp [List.getLast?_cons]

theorem foldl_writes_twice (seen : ∀ s a, view (step s a) = (write? a).getD (view s))
    (items : List α) (s : σ) :
    view (items.foldl step (items.foldl step s)) = view (items.foldl step s) := by
  rw [foldl_writes view write? seen, foldl_writes view write? seen]
  cases (items.filterMap write?).getLast? <;> rfl

end Writes

variable {assets : Assets}

namespace Event

def name? (event : Event) : Option (Option String) :=
  match event.payload with
  | .contactNameChanged name => some (some name)
  | _ => none

def language? (event : Event) : Option (Option String) :=
  match event.payload with
  | .contactLanguageChanged language => some (if language.isEmpty then none else some language)
  | _ => none

def value? (assets : Assets) (key : String) (event : Event) : Option (Option String) :=
  match event.payload with
  | .contactFieldChanged field value =>
    if assets.fields.contains field.key && field.key = key then some value else none
  | _ => none

end Event

namespace Contact

variable {event : Event} {c : Contact}

theorem after_change {field : FieldRef} {value : Option String}
    (payload : event.payload = .contactFieldChanged field value) :
    c.after assets event =
      if assets.fields.contains field.key then c.setField field.key value else c := by
  unfold after
  rw [payload]
  rfl

theorem name_after : (c.after assets event).name = event.name?.getD c.name := by
  unfold Event.name?
  cases payload : event.payload with
  | contactFieldChanged field value =>
    rw [after_change payload]
    cases assets.fields.contains field.key with
    | true => exact (setField_rest c field.key value).1
    | false => rfl
  | _ => simp [after, payload]

theorem language_after : (c.after assets event).language = event.language?.getD c.language := by
  unfold Event.language?
  cases payload : event.payload with
  | contactFieldChanged field value =>
    rw [after_change payload]
    cases assets.fields.contains field.key with
    | true => exact (setField_rest c field.key value).2
    | false => rfl
  | _ => simp [after, payload]

theorem value_after (key : String) :
    (c.after assets event).fields[key]? = (event.value? assets key).getD c.fields[key]? := by
  unfold Event.value?
  cases payload : event.payload with
  | contactFieldChanged field value =>
    rw [after_change payload]
    dsimp only
    cases assets.fields.contains field.key with
    | true =>
      rw [if_pos rfl, getElem?_setField]
      by_cases same : field.key = key <;> simp [same]
    | false => rfl
  | _ => simp [after, payload]

theorem after_twice (turns : List (ContactId × Event)) (c : Contact) :
    turns.foldl (fun c turn => c.after assets turn.2)
        (turns.foldl (fun c turn => c.after assets turn.2) c) =
      turns.foldl (fun c turn => c.after assets turn.2) c := by
  apply eq_of_parts
  · exact foldl_writes_twice name (fun turn => turn.2.name?) (fun _ _ => name_after) turns c
  · exact foldl_writes_twice language (fun turn => turn.2.language?) (fun _ _ => language_after)
      turns c
  · intro key
    exact foldl_writes_twice (fun c : Contact => c.fields[key]?)
      (fun turn => turn.2.value? assets key) (fun _ _ => value_after key) turns c

end Contact

theorem Store.bulk_insertMessages_repeated {row : Message} {rest : List Message} {s : Store}
    (known : s.hasContact row.contactId = true) (stored : s.hasMessage row.uuid = true) :
    s.bulk (row :: rest) .insertMessages =
      .error (.uniqueViolation ("msg " ++ row.uuid.text ++ " already exists")) := by
  have known' : s.count.hasContact row.contactId = true := known
  have stored' : s.count.hasMessage row.uuid = true := stored
  apply bulk_error (List.cons_ne_nil row rest)
  simp [write, insertMessages, known', stored']

namespace Batch

theorem told_twice (turns : List (ContactId × Event))
    (contacts : Std.ExtTreeMap ContactId Contact) :
    told assets turns (told assets turns contacts) = told assets turns contacts := by
  apply Std.ExtTreeMap.ext_getElem?
  intro id
  rw [getElem?_told, getElem?_told]
  cases contacts[id]? with
  | none => rfl
  | some c =>
    rw [Option.map_some, Option.map_some]
    exact congrArg some (Contact.after_twice _ c)

variable {sessions : List Session} {start store : Store}

theorem sent_eq_nil :
    sent assets sessions = [] ↔
      ∀ session ∈ sessions, ∀ event ∈ session.events, event.type ≠ .msgCreated := by
  have created : ∀ event : Event, event.creates? = none ↔ event.type ≠ .msgCreated := by
    intro event
    unfold Event.creates? Event.type
    cases event.payload <;> simp [Payload.type]
  rw [← List.map_eq_nil_iff, sent_uuids, List.filterMap_eq_nil_iff]
  simp only [List.mem_flatMap, created]
  constructor
  · intro each session within event among
    exact each event ⟨session, within, among⟩
  · rintro each event ⟨session, within, among⟩
    exact each session within event among

theorem outgoing_eq_nil
    (silent : ∀ session ∈ sessions, ∀ event ∈ session.events, event.type ≠ .msgCreated) :
    outgoing sessions = [] := by
  unfold outgoing
  rw [List.flatMap_eq_nil_iff]
  intro session within
  rw [List.map_eq_nil_iff, List.filterMap_eq_nil_iff]
  intro event among
  have type := silent session within event among
  unfold Event.type at type
  cases payload : event.payload <;> rw [payload] at type <;> first | rfl | exact absurd rfl type

theorem settled_repeated {row : Message} {rest : List Message}
    (joining : ∀ row ∈ joins assets sessions, store.hasContact row.contact = true)
    (sends : sent assets sessions = row :: rest)
    (known : store.hasContact row.contactId = true) (stored : store.hasMessage row.uuid = true) :
    settled assets sessions store = .error (.hook .commitMessages (.store
      (.uniqueViolation ("msg " ++ row.uuid.text ++ " already exists")))) := by
  have joining' : ∀ row ∈ joins assets sessions,
      (revised assets sessions store).hasContact row.contact = true := by
    intro row member
    rw [hasContact_revised]
    exact joining row member
  have known' : (((revised assets sessions store).joined (joins assets sessions)).parted
      (partings assets sessions)).hasContact row.contactId = true :=
    (hasContact_revised assets sessions store row.contactId).trans known
  have stored' : (((revised assets sessions store).joined (joins assets sessions)).parted
      (partings assets sessions)).hasMessage row.uuid = true := stored
  rw [settled_run, Store.bulk_addMemberships joining', sends]
  change ((Store.parted _ _).bulk _ _).mapError _ = _
  rw [Store.bulk_insertMessages_repeated known' stored']
  rfl

end Batch

theorem Sequel.again {sessions : List Session} {start middle final : Store}
    (one : Sequel assets sessions start middle) (two : Sequel assets sessions middle final)
    (silent : Batch.sent assets sessions = []) :
    final.contacts = middle.contacts ∧ final.memberships = middle.memberships ∧
      final.messages = middle.messages ∧ final.labels = middle.labels := by
  rw [sent_stored] at silent
  refine ⟨?_, ?_, ?_, ?_⟩
  · rw [two.contacts, one.contacts]
    exact Batch.told_twice (Session.turns sessions) start.contacts
  · apply Std.ExtTreeSet.ext_mem
    intro row
    rw [two.memberships, one.memberships]
    tauto
  · rw [two.messages, silent, List.append_nil]
  · have messages : middle.messages = start.messages := by
      rw [one.messages, silent, List.append_nil]
    apply Std.ExtTreeSet.ext_mem
    intro row
    rw [two.labels, one.labels]
    unfold Store.hasMessage
    rw [messages]
    tauto

namespace Batch

variable {s t : Scene (List Session)} {outcome : Outcome} {sessions : List Session}
  {start store : Store}

theorem process_ok_valid (done : process .standard assets s = (.ok outcome, t)) :
    validate .standard assets s.subject = .ok () := by
  have course : Course .standard assets s _ _ := process_course s
  rw [done] at course
  cases course with
  | empty none =>
    rw [none]
    rfl
  | committed _ valid => exact valid

theorem process_ok_subject (done : process .standard assets s = (.ok outcome, t)) :
    t.subject = s.subject.map Session.clearQueues := by
  have course : Course .standard assets s _ _ := process_course s
  rw [done] at course
  cases course with
  | empty none =>
    change s.subject = _
    rw [none, List.map_nil]
  | @committed events hooks u _ after present valid live ran closed =>
    obtain ⟨_, _, subject⟩ := transaction_committed ran
    have taken : t.subject = u.subject.map (·.takePost.2) := by
      have left : (postCommit .standard assets (u.note .info (committedLine assets events hooks)) :
          Except BatchError Aftermath × _).2.subject = _ := postCommit_subject .standard assets _
      rw [closed] at left
      exact left
    rw [taken, subject, List.map_map, List.map_map]
    rfl

theorem process_ok_offered (done : process .standard assets s = (.ok outcome, t)) :
    Offered assets s.subject t.subject := by
  by_cases present : s.subject = []
  · left
    rw [process_ok_subject done, present, List.map_nil]
  · exact .inr ⟨present, process_ok_valid done, process_ok_subject done⟩

theorem sequel_of_result (made : result assets sessions start = .ok store) :
    Sequel assets sessions start store := by
  obtain ⟨_, _, rfl⟩ := result_ok made
  exact final_sequel assets sessions start

theorem settles_again (made : result assets sessions start = .ok store)
    (silent : sent assets sessions = []) : Settles assets sessions store := by
  obtain ⟨_, settles, _⟩ := result_ok made
  refine ⟨?_, ?_⟩
  · intro row member
    rw [(sequel_of_result made).hasContact]
    exact settles.joining row member
  · rw [silent]
    exact ⟨by simp, by simp, by simp⟩

theorem result_again {row : Message} {rest : List Message}
    (made : result assets sessions start = .ok store) (sends : sent assets sessions = row :: rest) :
    result assets sessions store = .error (.hook .commitMessages (.store
      (.uniqueViolation ("msg " ++ row.uuid.text ++ " already exists")))) := by
  obtain ⟨accepted, settles, _⟩ := result_ok made
  have sequel := sequel_of_result made
  obtain ⟨contacts, _, messages⟩ :=
    Store.labelledBy_rest assets (sessions.flatMap (·.events)) store
  have held : ∀ id, (store.labelledBy assets (sessions.flatMap (·.events))).hasContact id =
      start.hasContact id := by
    intro id
    rw [← sequel.hasContact]
    unfold Store.hasContact
    rw [contacts]
  unfold result
  rw [accepted]
  apply settled_repeated
  · intro row member
    rw [held]
    exact settles.joining row member
  · exact sends
  · rw [held]
    apply settles.sending.known
    simp [sends]
  · unfold Store.hasMessage
    rw [messages, sequel.messages, ← sent_stored, sends]
    simp

theorem Delivery.unchanged {org : OrgId} {before after : SendQueues}
    {failures : List (HookId × String)} (delivery : Delivery org [] before after failures) :
    after = before := by
  cases delivery with
  | made queued => exact queued
  | missed _ same => exact same

-- A batch that succeeded and is submitted again as it was left duplicates nothing. Without new
-- messages it succeeds and changes nothing; with some it is refused for the first of them.
theorem process_again (done : process .standard assets s = (.ok outcome, t)) {w : World}
    (serving : w.Serving) (unchanged : w.store = t.world.store)
    (waiting : w.cache.queues = t.world.cache.queues) :
    ((∀ session ∈ s.subject, ∀ event ∈ session.events, event.type ≠ .msgCreated) →
        ∃ outcome u, process .standard assets ⟨t.subject, w⟩ = (.ok outcome, u) ∧
          u.world.Agrees t.world) ∧
      ((∃ session ∈ s.subject, ∃ event ∈ session.events, event.type = .msgCreated) →
        ∃ detail u,
          process .standard assets ⟨t.subject, w⟩ =
              (.error (.hook .commitMessages (.store (.uniqueViolation detail))), u) ∧
            u.world.store = t.world.store ∧ u.world.cache.queues = t.world.cache.queues) := by
  have valid := process_ok_valid done
  have made := process_result done
  rw [← unchanged] at made
  rw [process_offered (process_ok_offered done)]
  constructor
  · intro silent
    have none : sent assets s.subject = [] := sent_eq_nil.2 silent
    obtain ⟨accepted, _, _⟩ := result_ok made
    obtain ⟨outcome, done'⟩ := (process_ok_settles (s := ⟨s.subject, w⟩) serving).2
      ⟨validate_standard.1 valid, accepted, settles_again made none⟩
    rcases ran : process .standard assets ⟨s.subject, w⟩ with ⟨result, u⟩
    rw [ran] at done'
    cases done'
    have again := sequel_of_result (process_result ran)
    obtain ⟨contacts, memberships, messages, labels⟩ := (sequel_of_result made).again again none
    have delivery := process_delivery ran
    rw [outgoing_eq_nil silent] at delivery
    refine ⟨outcome, u, rfl, ?_, ?_, ?_, ?_, ?_⟩
    · rw [contacts, unchanged]
    · rw [memberships, unchanged]
    · rw [messages, unchanged]
    · rw [labels, unchanged]
    · exact delivery.unchanged.trans waiting
  · rintro ⟨session, within, event, among, type⟩
    have present : s.subject ≠ [] := List.ne_nil_of_mem within
    cases sends : sent assets s.subject with
    | nil => exact absurd type (sent_eq_nil.1 sends session within event among)
    | cons row rest =>
      have refused := process_serving (s := ⟨s.subject, w⟩) present valid serving
      dsimp only at refused
      rw [result_again made sends] at refused
      rcases ran : process .standard assets ⟨s.subject, w⟩ with ⟨result, u⟩
      rw [ran] at refused
      cases refused
      obtain ⟨store, queues, _⟩ := process_failed ran
      exact ⟨_, u, rfl, store.trans unchanged, queues.trans waiting⟩

end Batch
namespace Sample

def anew (w : World) : World := { store := w.store, cache := { queues := w.cache.queues } }

theorem anew_serving (w : World) : (anew w).Serving := by
  refine ⟨⟨rfl, rfl, fun _ none => ?_, fun _ none => ?_⟩, rfl, rfl, rfl⟩ <;> cases none

def quiet : List Session :=
  [turn ⟨1⟩ [.contactNameChanged "Ann", .contactGroupsChanged [⟨⟨7⟩, "guests"⟩] []],
    turn ⟨1⟩ [.inputLabelsAdded ⟨20⟩ [⟨⟨8⟩, "urgent"⟩]]]

end Sample

theorem process_again_both :
    (∃ outcome t,
        Batch.process .standard Sample.assets (Sample.scene Sample.quiet) = (.ok outcome, t) ∧
          (Sample.anew t.world).Serving ∧
          ∃ outcome u, Batch.process .standard Sample.assets
              ⟨t.subject, Sample.anew t.world⟩ = (.ok outcome, u) ∧ u.world.Agrees t.world) ∧
      ∃ outcome t,
        Batch.process .standard Sample.assets (Sample.scene Sample.alternating) =
            (.ok outcome, t) ∧
          ∃ detail u, Batch.process .standard Sample.assets
                ⟨t.subject, Sample.anew t.world⟩ =
              (.error (.hook .commitMessages (.store (.uniqueViolation detail))), u) ∧
            u.world.store = t.world.store ∧ u.world.cache.queues = t.world.cache.queues := by
  constructor
  · obtain ⟨outcome, t, done⟩ := Sample.run_ok
      (r := Batch.process .standard Sample.assets (Sample.scene Sample.quiet)) (by decide +kernel)
    have silent : ∀ session ∈ Sample.quiet, ∀ event ∈ session.events, event.type ≠ .msgCreated := by
      decide
    have serving := Sample.anew_serving t.world
    exact ⟨outcome, t, done, serving, (Batch.process_again done serving rfl rfl).1 silent⟩
  · obtain ⟨outcome, t, done⟩ := Sample.run_ok
      (r := Batch.process .standard Sample.assets (Sample.scene Sample.alternating))
      (by decide +kernel)
    have sends : ∃ session ∈ Sample.alternating, ∃ event ∈ session.events,
        event.type = .msgCreated := by decide
    have serving := Sample.anew_serving t.world
    exact ⟨outcome, t, done, (Batch.process_again done serving rfl rfl).2 sends⟩

end SessionBatch

import SessionBatch.Proofs.Outcome

namespace SessionBatch

def Event.stored? (org : OrgId) (contact : ContactId) (event : Event) : Option Message :=
  match event.payload with
  | .msgCreated message =>
    some { uuid := message.uuid, orgId := org, contactId := contact, urn := message.urn,
           text := message.text, createdOn := event.createdOn }
  | _ => none

def Event.Puts (assets : Assets) (row : MessageLabel) (event : Event) : Prop :=
  ∃ refs, event.payload = .inputLabelsAdded row.message refs ∧
    ∃ ref ∈ refs, (assets.label? ref.uuid).map LabelAsset.id = some row.label

-- What a store becomes when the events of sessions have their effects one by one, in batch order.
-- Labels go to the messages of the start alone. Groups are settled by session.
structure Sequel (assets : Assets) (sessions : List Session) (start final : Store) : Prop where
  contacts : final.contacts = (Session.turns sessions).foldl
    (fun contacts (contact, event) => contacts.modify contact (.after assets event)) start.contacts
  messages : final.messages = start.messages ++ (Session.turns sessions).filterMap
    fun (contact, event) => event.stored? assets.orgId contact
  labels : ∀ row, row ∈ final.labels ↔ row ∈ start.labels ∨
    start.hasMessage row.message = true ∧
      ∃ session ∈ sessions, ∃ event ∈ session.events, event.Puts assets row
  memberships : ∀ row, row ∈ final.memberships ↔
    (row ∈ start.memberships ∨ ∃ session ∈ sessions, session.contactId = row.contact ∧
      session.lastMention assets row.group = some true) ∧
    ¬ ∃ session ∈ sessions, session.contactId = row.contact ∧
      session.lastMention assets row.group = some false

theorem mem_labelRows {assets : Assets} {row : MessageLabel} {event : Event} :
    row ∈ event.payload.labelRows assets ↔ event.Puts assets row := by
  unfold Event.Puts
  cases event.payload with
  | inputLabelsAdded input refs =>
    constructor
    · intro listed
      obtain ⟨ref, named, found⟩ := List.mem_filterMap.1 listed
      obtain ⟨asset, known, rfl⟩ := Option.map_eq_some_iff.1 found
      exact ⟨refs, rfl, ref, named, by rw [known]; rfl⟩
    · rintro ⟨_, same, ref, named, known⟩
      cases same
      obtain ⟨asset, known, label⟩ := Option.map_eq_some_iff.1 known
      refine List.mem_filterMap.2 ⟨ref, named, ?_⟩
      rw [known, Option.map_some, label]
  | _ =>
    constructor
    · intro listed
      cases listed
    · rintro ⟨_, same, _⟩
      cases same

theorem mem_labelRows_batch {assets : Assets} {row : MessageLabel} {sessions : List Session} :
    (∃ event ∈ sessions.flatMap (·.events), row ∈ event.payload.labelRows assets) ↔
      ∃ session ∈ sessions, ∃ event ∈ session.events, event.Puts assets row := by
  constructor
  · rintro ⟨event, listed, puts⟩
    obtain ⟨session, within, among⟩ := List.mem_flatMap.1 listed
    exact ⟨session, within, event, among, mem_labelRows.1 puts⟩
  · rintro ⟨session, within, event, among, puts⟩
    exact ⟨event, List.mem_flatMap.2 ⟨session, within, among⟩, mem_labelRows.2 puts⟩

theorem sent_stored (assets : Assets) (sessions : List Session) :
    Batch.sent assets sessions = (Session.turns sessions).filterMap
      fun (contact, event) => event.stored? assets.orgId contact := by
  rw [Batch.sent_eq]
  congr 1
  funext (contact, event)
  unfold Event.stored?
  dsimp only
  cases event.payload <;> rfl

theorem final_sequel (assets : Assets) (sessions : List Session) (store : Store) :
    Sequel assets sessions store (Batch.final assets sessions
      (store.labelledBy assets (sessions.flatMap (·.events)))) := by
  obtain ⟨contacts, memberships, messages⟩ :=
    Store.labelledBy_rest assets (sessions.flatMap (·.events)) store
  refine ⟨?_, ?_, fun row => ?_, fun row => ?_⟩
  · refine (Batch.revised_contacts assets sessions _).trans ?_
    rw [contacts]
    rfl
  · rw [← sent_stored, ← messages]
    rfl
  · refine (Store.mem_labelledBy _ store row).trans ?_
    rw [mem_labelRows_batch]
  · rw [Batch.mem_final, memberships]

theorem committed_sequel {assets : Assets} {s t : Scene (List Session)} {outcome : Outcome}
    (done : Batch.process .standard assets s = (.ok outcome, t)) :
    Sequel assets s.subject s.world.store t.world.store := by
  obtain ⟨_, _, made⟩ := Batch.result_ok (Batch.process_result done)
  rw [made]
  exact final_sequel assets s.subject s.world.store

def Sample.alternating : List Session :=
  [turn ⟨1⟩ [.contactNameChanged "Ann", .contactFieldChanged ⟨"age", "Age"⟩ (some "7"),
      .contactGroupsChanged [⟨⟨7⟩, "guests"⟩] [], .msgCreated ⟨⟨21⟩, none, "first"⟩],
    turn ⟨1⟩ [.contactLanguageChanged "eng", .contactNameChanged "Bea",
      .contactFieldChanged ⟨"age", "Age"⟩ none, .msgCreated ⟨⟨22⟩, none, "second"⟩,
      .inputLabelsAdded ⟨20⟩ [⟨⟨8⟩, "urgent"⟩]]]

theorem committed_sequel_alternating : ∃ outcome t,
    Batch.process .standard Sample.assets (Sample.scene Sample.alternating) = (.ok outcome, t) ∧
      Sequel Sample.assets Sample.alternating Sample.store t.world.store := by
  obtain ⟨outcome, t, done⟩ :=
    Sample.run_ok (r := Batch.process .standard Sample.assets (Sample.scene Sample.alternating))
      (by decide +kernel)
  exact ⟨outcome, t, done, committed_sequel done⟩

end SessionBatch

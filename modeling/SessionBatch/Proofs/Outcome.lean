import SessionBatch.Proofs.Sequence

namespace SessionBatch

open Effect

-- The memberships that an event mentions in a group, and whether it adds or removes them.
-- Additions come first.
def Event.mentions (assets : Assets) (group : GroupId) (event : Event) : List Bool :=
  let names := fun ref : GroupRef => (assets.group? ref.uuid).map GroupAsset.id = some group
  match event.payload with
  | .contactGroupsChanged added removed =>
    (added.filter names).map (fun _ => true) ++ (removed.filter names).map (fun _ => false)
  | _ => []

def Session.lastMention (assets : Assets) (group : GroupId) (session : Session) : Option Bool :=
  (session.events.flatMap (·.mentions assets group)).getLast?

namespace Store

variable {assets : Assets}

theorem labelledBy_rest (assets : Assets) (events : List Event) (store : Store) :
    (store.labelledBy assets events).contacts = store.contacts ∧
      (store.labelledBy assets events).memberships = store.memberships ∧
      (store.labelledBy assets events).messages = store.messages := by
  induction events generalizing store with
  | nil => exact ⟨rfl, rfl, rfl⟩
  | cons event rest ih => exact ih (store.labelled (event.payload.labelRows assets))

theorem mem_labelledBy (events : List Event) (store : Store) (row : MessageLabel) :
    row ∈ (store.labelledBy assets events).labels ↔
      row ∈ store.labels ∨ store.hasMessage row.message = true ∧
        ∃ event ∈ events, row ∈ event.payload.labelRows assets := by
  induction events generalizing store with
  | nil => simp [labelledBy]
  | cons event rest ih =>
    refine (ih (store.labelled (event.payload.labelRows assets))).trans ?_
    have first : row ∈ (store.labelled (event.payload.labelRows assets)).labels ↔
        row ∈ store.labels ∨
          row ∈ event.payload.labelRows assets ∧ store.hasMessage row.message = true :=
      (mem_inserts _ _ _).trans (or_congr_right List.mem_filter)
    have same : (store.labelled (event.payload.labelRows assets)).hasMessage row.message =
        store.hasMessage row.message := rfl
    have either : (∃ e ∈ event :: rest, row ∈ e.payload.labelRows assets) ↔
        row ∈ event.payload.labelRows assets ∨ ∃ e ∈ rest, row ∈ e.payload.labelRows assets := by
      simp
    rw [first, same, either, and_or_left, or_assoc, and_comm (b := store.hasMessage _ = true)]

end Store

namespace Effect.Groups

variable {assets : Assets}

theorem known_filter (group : GroupId) (refs : List GroupRef) (added : Bool) :
    (((known assets refs).map (·, added)).filter (·.1 = group)).map Prod.snd =
      (refs.filter fun ref => (assets.group? ref.uuid).map GroupAsset.id = some group).map
        fun _ => added := by
  unfold known
  induction refs with
  | nil => rfl
  | cons ref rest ih =>
    rw [List.filterMap_cons, List.filter_cons]
    cases found : assets.group? ref.uuid with
    | none => simpa [found] using ih
    | some asset =>
      by_cases same : asset.id = group
      · simpa [same] using ih
      · simpa [same] using ih

theorem getElem?_settled (changes : List Change) (group : GroupId) :
    (settled assets changes)[group]? =
      (((changes.flatMap (mentions assets)).filter (·.1 = group)).map Prod.snd).getLast? := by
  unfold settled
  rw [getElem?_inserts]
  simp

theorem mem_rows {taken : List (Session × List Change)} {member : Bool} {row : Membership} :
    row ∈ rows assets member taken ↔
      ∃ one ∈ taken, one.1.contactId = row.contact ∧
        (settled assets one.2)[row.group]? = some member := by
  unfold rows
  rw [List.mem_flatMap]
  refine exists_congr fun one => and_congr_right fun _ => ?_
  rw [List.mem_map]
  constructor
  · rintro ⟨⟨group, ends⟩, listed, rfl⟩
    obtain ⟨listed, same⟩ := List.mem_filter.1 listed
    cases (of_decide_eq_true same : ends = member)
    exact ⟨rfl, Std.ExtTreeMap.mem_toList_iff_getElem?_eq_some.1 listed⟩
  · rintro ⟨contact, ends⟩
    refine ⟨(row.group, member), List.mem_filter.2 ⟨?_, decide_eq_true rfl⟩, ?_⟩
    · exact Std.ExtTreeMap.mem_toList_iff_getElem?_eq_some.2 ends
    · rw [contact]

theorem settled_changes (group : GroupId) (session : Session) :
    (settled assets (session.events.filterMap (change? ·.payload)))[group]? =
      session.lastMention assets group := by
  rw [getElem?_settled]
  unfold Session.lastMention
  congr 1
  induction session.events with
  | nil => rfl
  | cons event rest ih =>
    rw [List.filterMap_cons, List.flatMap_cons, ← ih]
    unfold Event.mentions
    cases event.payload with
    | contactGroupsChanged added removed =>
      simp only [change?, List.flatMap_cons, List.filter_append, List.map_append, mentions,
        known_filter]
    | _ => rfl

end Effect.Groups

namespace Batch

variable (assets : Assets) (sessions : List Session)

def joins : List Membership :=
  Groups.rows assets true (taken Groups.change? (waiting assets sessions .commitGroupChanges))

def partings : List Membership :=
  Groups.rows assets false (taken Groups.change? (waiting assets sessions .commitGroupChanges))

def sent : List Message := Messages.rows assets.orgId (waiting assets sessions .commitMessages)

theorem changes_waiting (session : Session) :
    (Session.waiting assets .commitGroupChanges session).events.filterMap
        (Groups.change? ·.payload) =
      session.events.filterMap (Groups.change? ·.payload) := by
  unfold Session.waiting
  rw [List.filterMap_filter]
  congr 1
  funext event
  cases event.payload with
  | contactFieldChanged => simp [Groups.change?]
  | _ => rfl

theorem mem_changes {member : Bool} {row : Membership} :
    row ∈ Groups.rows assets member
        (taken Groups.change? (waiting assets sessions .commitGroupChanges)) ↔
      ∃ session ∈ sessions, session.contactId = row.contact ∧
        session.lastMention assets row.group = some member := by
  rw [Groups.mem_rows]
  constructor
  · rintro ⟨one, listed, contact, ends⟩
    obtain ⟨entry, waits, rfl⟩ := List.mem_map.1 listed
    obtain ⟨session, within, rfl⟩ := List.mem_map.1 (List.mem_filter.1 waits).1
    dsimp only at ends
    rw [changes_waiting, Groups.settled_changes] at ends
    exact ⟨session, within, contact, ends⟩
  · rintro ⟨session, within, contact, ends⟩
    rw [← Groups.settled_changes, ← changes_waiting] at ends
    refine ⟨_, List.mem_map.2 ⟨Session.waiting assets .commitGroupChanges session,
      List.mem_filter.2 ⟨List.mem_map.2 ⟨session, within, rfl⟩, ?_⟩, rfl⟩, contact, ends⟩
    refine decide_eq_true fun empty => ?_
    rw [empty] at ends
    cases ends

theorem sent_eq :
    sent assets sessions = (Session.turns sessions).filterMap fun turn =>
      (Messages.message? turn.2.payload).map (Messages.row assets.orgId turn.1 turn.2) := by
  unfold sent Messages.rows
  rw [flatMap_waiting sessions .commitMessages fun contact event =>
    (Messages.message? event.payload).map (Messages.row assets.orgId contact event),
    List.filterMap_filter]
  congr 1
  funext turn
  cases turn.2.payload with
  | contactFieldChanged => simp [Messages.message?]
  | _ => rfl

variable (store : Store)

theorem settled_run :
    settled assets sessions store =
      (((revised assets sessions store).bulk (joins assets sessions) .addMemberships).mapError
          (.hook .commitGroupChanges ∘ .store) >>= fun store =>
        ((store.parted (partings assets sessions)).bulk (sent assets sessions)
          .insertMessages).mapError (.hook .commitMessages ∘ .store)) := by
  unfold settled HookId.all
  simp only [List.foldlM_cons, List.foldlM_nil, settle]
  change ((Store.bulk (joins assets sessions) _ (revised assets sessions store) >>=
    _).mapError _ >>= _) = _
  cases (revised assets sessions store).bulk (joins assets sessions) .addMemberships with
  | error e => rfl
  | ok joined =>
    change (((joined.parted (partings assets sessions)).bulk (sent assets sessions)
      _).mapError _ >>= _) =
        ((joined.parted (partings assets sessions)).bulk (sent assets sessions) _).mapError _
    cases (joined.parted (partings assets sessions)).bulk (sent assets sessions) .insertMessages <;>
      rfl

theorem hasContact_told (turns : List (ContactId × Event))
    (contacts : Std.ExtTreeMap ContactId Contact) (id : ContactId) :
    (told assets turns contacts).contains id = contacts.contains id := by
  unfold told
  induction turns generalizing contacts with
  | nil => rfl
  | cons turn rest ih => exact (ih _).trans Std.ExtTreeMap.contains_modify

theorem hasContact_revised (id : ContactId) :
    (revised assets sessions store).hasContact id = store.hasContact id := by
  unfold Store.hasContact
  rw [revised_contacts]
  exact hasContact_told assets _ store.contacts id

def final : Store :=
  (((revised assets sessions store).joined (joins assets sessions)).parted
    (partings assets sessions)).extended (sent assets sessions)

structure Settles : Prop where
  joining : ∀ row ∈ joins assets sessions, store.hasContact row.contact = true
  sending : store.Accepts (sent assets sessions)

-- The memberships of a batch are those that were there or that a session ends with, save those
-- that a session ends without.
theorem mem_final {row : Membership} :
    row ∈ (final assets sessions store).memberships ↔
      (row ∈ store.memberships ∨ ∃ session ∈ sessions, session.contactId = row.contact ∧
        session.lastMention assets row.group = some true) ∧
      ¬ ∃ session ∈ sessions, session.contactId = row.contact ∧
        session.lastMention assets row.group = some false := by
  rw [← mem_changes, ← mem_changes]
  change row ∈ (partings assets sessions).foldl (·.erase ·)
    ((joins assets sessions).foldl (·.insert ·) store.memberships) ↔ _
  rw [mem_erases, mem_inserts]
  rfl

variable {assets sessions store}

theorem accepts_joined {rows : List Message} {joins partings : List Membership} :
    (((revised assets sessions store).joined joins).parted partings).Accepts rows ↔
      store.Accepts rows := by
  have contact : ∀ id, (((revised assets sessions store).joined joins).parted partings).hasContact
      id = store.hasContact id := hasContact_revised assets sessions store
  exact ⟨.of_same (fun id => (contact id).symm) rfl, .of_same contact rfl⟩

theorem settled_ok (settles : Settles assets sessions store) :
    settled assets sessions store = .ok (final assets sessions store) := by
  have known : ∀ row ∈ joins assets sessions,
      (revised assets sessions store).hasContact row.contact = true := by
    intro row member
    rw [hasContact_revised]
    exact settles.joining row member
  rw [settled_run, Store.bulk_addMemberships known]
  change ((Store.parted _ _).bulk _ _).mapError _ = _
  rw [Store.bulk_insertMessages (accepts_joined.2 settles.sending)]
  rfl

theorem settled_error (unsettled : ¬ Settles assets sessions store) :
    ∃ text, settled assets sessions store =
        .error (.hook .commitGroupChanges (.store (.foreignKeyViolation text))) ∨
      settled assets sessions store =
        .error (.hook .commitMessages (.store (.foreignKeyViolation text))) ∨
      settled assets sessions store =
        .error (.hook .commitMessages (.store (.uniqueViolation text))) := by
  rw [settled_run]
  -- Memberships are written first, so what they lack is found before what messages lack.
  by_cases joining : ∀ row ∈ joins assets sessions,
      (revised assets sessions store).hasContact row.contact = true
  · rw [Store.bulk_addMemberships joining]
    have refused : ¬ (((revised assets sessions store).joined (joins assets sessions)).parted
        (partings assets sessions)).Accepts (sent assets sessions) := by
      refine fun accepted => unsettled ⟨fun row member => ?_, accepts_joined.1 accepted⟩
      rw [← hasContact_revised assets sessions]
      exact joining row member
    obtain ⟨text, failed⟩ := Store.bulk_insertMessages_error refused
    refine ⟨text, .inr ?_⟩
    change ((Store.parted _ _).bulk _ _).mapError _ = _ ∨
      ((Store.parted _ _).bulk _ _).mapError _ = _
    rcases failed with failed | failed <;> rw [failed]
    · exact .inl rfl
    · exact .inr rfl
  · obtain ⟨contact, failed⟩ := Store.bulk_addMemberships_error joining
    rw [failed]
    exact ⟨_, .inl rfl⟩

theorem Settles.of_same {s t : Store} (contacts : t.contacts = s.contacts)
    (messages : t.messages = s.messages) (settles : Settles assets sessions s) :
    Settles assets sessions t := by
  have held : ∀ id, t.hasContact id = s.hasContact id := by
    intro id
    unfold Store.hasContact
    rw [contacts]
  exact ⟨fun row member => (held _).trans (settles.joining row member),
    settles.sending.of_same held messages⟩

theorem labelledBy_settles {events : List Event} :
    Settles assets sessions (store.labelledBy assets events) ↔ Settles assets sessions store := by
  obtain ⟨contacts, _, messages⟩ := Store.labelledBy_rest assets events store
  exact ⟨.of_same contacts.symm messages.symm, .of_same contacts messages⟩

theorem result_ok {t : Store} (made : result assets sessions store = .ok t) :
    Session.firstRefusal? sessions = none ∧ Settles assets sessions store ∧
      t = final assets sessions (store.labelledBy assets (sessions.flatMap (·.events))) := by
  unfold result at made
  split at made
  · cases made
  · rename_i accepted
    by_cases settles : Settles assets sessions
        (store.labelledBy assets (sessions.flatMap (·.events)))
    · rw [settled_ok settles] at made
      cases made
      exact ⟨accepted, labelledBy_settles.1 settles, rfl⟩
    · obtain ⟨text, failed | failed | failed⟩ := settled_error settles <;> rw [failed] at made <;>
        cases made

end Batch
end SessionBatch

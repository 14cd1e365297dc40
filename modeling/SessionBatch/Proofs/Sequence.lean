import SessionBatch.Proofs.Commitment

namespace SessionBatch

def Contact.after (assets : Assets) (event : Event) (c : Contact) : Contact :=
  match event.payload with
  | .contactNameChanged name => { c with name := some name }
  | .contactLanguageChanged language =>
    { c with language := if language.isEmpty then none else some language }
  | .contactFieldChanged field value =>
    if assets.fields.contains field.key then
      match value with
      | some text => { c with fields := c.fields.insert field.key text }
      | none => { c with fields := c.fields.erase field.key }
    else c
  | _ => c

def Session.turns (sessions : List Session) : List (ContactId × Event) :=
  sessions.flatMap fun session => session.events.map (session.contactId, ·)

theorem Session.map_snd_turns (sessions : List Session) :
    (turns sessions).map Prod.snd = sessions.flatMap (·.events) := by
  unfold turns
  rw [List.map_flatMap]
  simp only [List.map_map, Function.comp_def, List.map_id']

namespace Contact

variable {assets : Assets} {event : Event}

theorem after_name (waits : event.payload.waitsFor? assets = some .commitNameChanges) :
    ∃ name, Effect.Names.name? event.payload = some name ∧ after assets event = setName name := by
  have type := Payload.waitsFor?_type waits
  cases payload : event.payload <;> rw [payload] at type <;> cases type
  refine ⟨_, rfl, funext fun c => ?_⟩
  simp only [after, payload]
  rfl

theorem after_language (waits : event.payload.waitsFor? assets = some .commitLanguageChanges) :
    ∃ language, Effect.Languages.language? event.payload = some language ∧
      after assets event = setLanguage (Effect.Languages.stored language) := by
  have type := Payload.waitsFor?_type waits
  cases payload : event.payload <;> rw [payload] at type <;> cases type
  refine ⟨_, rfl, funext fun c => ?_⟩
  simp only [after, payload]
  rfl

theorem after_field (waits : event.payload.waitsFor? assets = some .commitFieldChanges) :
    ∃ change, Effect.Fields.change? event.payload = some change ∧
      after assets event = (setField · change.1.key change.2) := by
  have type := Payload.waitsFor?_type waits
  cases payload : event.payload <;> rw [payload] at type <;> cases type
  rename_i field value
  refine ⟨_, rfl, funext fun c => ?_⟩
  have known : assets.fields.contains field.key = true := by
    rw [payload] at waits
    simp only [Payload.waitsFor?, Assets.field?] at waits
    rw [Std.ExtTreeMap.contains_eq_isSome_getElem?]
    cases held : assets.fields[field.key]? <;> simp [held] at waits ⊢
  simp only [after, payload, known, if_true]
  rfl

theorem after_rest (names : event.payload.waitsFor? assets ≠ some .commitNameChanges)
    (languages : event.payload.waitsFor? assets ≠ some .commitLanguageChanges)
    (fields : event.payload.waitsFor? assets ≠ some .commitFieldChanges) :
    after assets event = id := by
  funext c
  unfold after
  cases payload : event.payload with
  | contactNameChanged => simp [payload, Payload.waitsFor?] at names
  | contactLanguageChanged => simp [payload, Payload.waitsFor?] at languages
  | contactFieldChanged field value =>
    have unknown : assets.fields.contains field.key = false := by
      rw [payload] at fields
      simp only [Payload.waitsFor?, Assets.field?] at fields
      rw [Std.ExtTreeMap.contains_eq_isSome_getElem?]
      cases held : assets.fields[field.key]? <;> simp [held] at fields ⊢
    simp [unknown]
  | contactGroupsChanged | msgCreated | inputLabelsAdded | error => rfl

theorem after_parts (assets : Assets) (event : Event) :
    ∃ name language fields,
      (after assets event = fun c => ⟨name c.name, language c.language, fields c.fields⟩) ∧
      (event.payload.waitsFor? assets ≠ some .commitNameChanges → name = id) ∧
      (event.payload.waitsFor? assets ≠ some .commitLanguageChanges → language = id) ∧
      (event.payload.waitsFor? assets ≠ some .commitFieldChanges → fields = id) := by
  by_cases names : event.payload.waitsFor? assets = some .commitNameChanges
  · obtain ⟨name, _, change⟩ := after_name names
    exact ⟨fun _ => some name, id, id, change, fun other => absurd names other, fun _ => rfl,
      fun _ => rfl⟩
  by_cases languages : event.payload.waitsFor? assets = some .commitLanguageChanges
  · obtain ⟨language, _, change⟩ := after_language languages
    exact ⟨id, fun _ => Effect.Languages.stored language, id, change, fun _ => rfl,
      fun other => absurd languages other, fun _ => rfl⟩
  by_cases fields : event.payload.waitsFor? assets = some .commitFieldChanges
  · obtain ⟨⟨field, value⟩, _, change⟩ := after_field fields
    refine ⟨id, id, fun held => value.elim (held.erase field.key) (held.insert field.key ·), ?_,
      fun _ => rfl, fun _ => rfl, fun other => absurd fields other⟩
    rw [change]
    cases value <;> rfl
  · exact ⟨id, id, id, after_rest names languages fields, fun _ => rfl, fun _ => rfl, fun _ => rfl⟩

theorem part_comm {α : Type} {p q : Prop} {f g : α → α} (one : ¬ p → f = id) (other : ¬ q → g = id)
    (apart : ¬ (p ∧ q)) (a : α) : g (f a) = f (g a) := by
  by_cases held : p
  · rw [other fun held' => apart ⟨held, held'⟩]
    rfl
  · rw [one held]
    rfl

theorem after_comm {other : Event}
    (apart : event.payload.waitsFor? assets ≠ other.payload.waitsFor? assets) (c : Contact) :
    after assets other (after assets event c) = after assets event (after assets other c) := by
  obtain ⟨name, language, fields, change, unnamed, unspoken, unset⟩ := after_parts assets event
  obtain ⟨name', language', fields', change', unnamed', unspoken', unset'⟩ :=
    after_parts assets other
  have differ : ∀ hook, ¬ (event.payload.waitsFor? assets = some hook ∧
      other.payload.waitsFor? assets = some hook) :=
    fun hook both => apart (both.1.trans both.2.symm)
  rw [change, change']
  dsimp only
  rw [part_comm unnamed unnamed' (differ _), part_comm unspoken unspoken' (differ _),
    part_comm unset unset' (differ _)]

end Contact

theorem modify_comm {κ α : Type} [Ord κ] [Std.TransOrd κ] [Std.LawfulEqOrd κ] {f g : α → α}
    (comm : ∀ a, g (f a) = f (g a)) (m : Std.ExtTreeMap κ α) (one other : κ) :
    (m.modify one f).modify other g = (m.modify other g).modify one f := by
  have composed : g ∘ f = f ∘ g := funext comm
  refine Std.ExtTreeMap.ext_getElem? fun key => ?_
  simp only [Std.ExtTreeMap.getElem?_modify, Std.compare_eq_iff_eq]
  by_cases first : one = key <;> by_cases second : other = key <;> simp [first, second, composed]

namespace Batch

variable {assets : Assets}

def told (assets : Assets) (turns : List (ContactId × Event))
    (contacts : Std.ExtTreeMap ContactId Contact) : Std.ExtTreeMap ContactId Contact :=
  turns.foldl (fun contacts (contact, event) => contacts.modify contact (.after assets event))
    contacts

-- The turns of a hook may be taken before the others.
theorem told_first (id : HookId) (turns : List (ContactId × Event))
    (contacts : Std.ExtTreeMap ContactId Contact) :
    told assets turns contacts =
      told assets (turns.filter (·.2.payload.waitsFor? assets ≠ some id))
        (told assets (turns.filter (·.2.payload.waitsFor? assets = some id)) contacts) := by
  have swap : ∀ (contacts : Std.ExtTreeMap ContactId Contact) (one other : ContactId × Event),
      decide (one.2.payload.waitsFor? assets = some id) = false →
        decide (other.2.payload.waitsFor? assets = some id) = true →
          (contacts.modify one.1 (.after assets one.2)).modify other.1 (.after assets other.2) =
            (contacts.modify other.1 (.after assets other.2)).modify one.1
              (.after assets one.2) := by
    intro contacts one other late early
    -- Even for one contact the order does not matter, as the hooks are not the same.
    refine modify_comm (Contact.after_comm fun same => ?_) contacts one.1 other.1
    rw [same, early] at late
    cases late
  unfold told
  rw [foldl_first swap]
  simp only [← decide_not]

theorem flatMap_waiting {α : Type} (sessions : List Session) (id : HookId)
    (yield : ContactId → Event → Option α) :
    ((Batch.waiting assets sessions id).flatMap fun entry =>
        entry.events.filterMap (yield entry.session.contactId)) =
      ((Session.turns sessions).filter (·.2.payload.waitsFor? assets = some id)).filterMap
        fun turn => yield turn.1 turn.2 := by
  unfold Batch.waiting Session.turns
  rw [List.filter_flatMap, List.filterMap_flatMap]
  induction sessions with
  | nil => rfl
  | cons session rest ih =>
    rw [List.map_cons, List.flatMap_cons, ← ih, List.filter_cons]
    have mine : ((session.events.map (session.contactId, ·)).filter
          (·.2.payload.waitsFor? assets = some id)).filterMap (fun turn => yield turn.1 turn.2) =
        (Session.waiting assets id session).events.filterMap (yield session.contactId) := by
      rw [List.filter_map, List.filterMap_map]
      rfl
    rw [mine]
    by_cases empty : (Session.waiting assets id session).events = []
    · rw [if_neg (by simp [empty]), empty]
      rfl
    · rw [if_pos (by simp [empty]), List.flatMap_cons]
      rfl

theorem byContact_waiting {α : Type} (pick : Payload → Option α) (sessions : List Session)
    (id : HookId) :
    Effect.byContact (Effect.taken pick (Batch.waiting assets sessions id)) =
      ((Session.turns sessions).filter (·.2.payload.waitsFor? assets = some id)).filterMap
        fun turn => (pick turn.2.payload).map (turn.1, ·) := by
  rw [← flatMap_waiting sessions id fun contact event => (pick event.payload).map (contact, ·)]
  unfold Effect.byContact Effect.taken
  rw [List.flatMap_map]
  simp only [List.map_filterMap]

theorem told_waiting {α : Type} {pick : Payload → Option α} {set : α → Contact → Contact}
    {id : HookId}
    (takes : ∀ event : Event, event.payload.waitsFor? assets = some id →
      ∃ a, pick event.payload = some a ∧ Contact.after assets event = set a)
    (sessions : List Session) (contacts : Std.ExtTreeMap ContactId Contact) :
    (Effect.byContact (Effect.taken pick (Batch.waiting assets sessions id))).foldl
        (fun contacts (contact, a) => contacts.modify contact (set a)) contacts =
      told assets ((Session.turns sessions).filter (·.2.payload.waitsFor? assets = some id))
        contacts := by
  rw [byContact_waiting]
  induction Session.turns sessions generalizing contacts with
  | nil => rfl
  | cons turn rest ih =>
    rw [List.filter_cons]
    by_cases waits : turn.2.payload.waitsFor? assets = some id
    · obtain ⟨a, found, change⟩ := takes turn.2 waits
      rw [if_pos (by simpa using waits), List.filterMap_cons, found]
      refine (ih _).trans ?_
      unfold told
      rw [List.foldl_cons]
      dsimp only
      rw [change]
    · rw [if_neg (by simpa using waits)]
      exact ih contacts

theorem getElem?_told (turns : List (ContactId × Event))
    (contacts : Std.ExtTreeMap ContactId Contact) (id : ContactId) :
    (told assets turns contacts)[id]? =
      contacts[id]?.map ((turns.filter (·.1 = id)).foldl fun c turn => c.after assets turn.2) := by
  induction turns generalizing contacts with
  | nil => simp [told]
  | cons turn rest ih =>
    refine (ih _).trans ?_
    by_cases same : turn.1 = id <;> simp [Std.ExtTreeMap.getElem?_modify, same, Function.comp_def]

theorem told_rest {turns : List (ContactId × Event)}
    (rest : ∀ turn ∈ turns, Contact.after assets turn.2 = id)
    (contacts : Std.ExtTreeMap ContactId Contact) : told assets turns contacts = contacts := by
  unfold told
  induction turns with
  | nil => rfl
  | cons turn others ih =>
    have same : contacts.modify turn.1 id = contacts := by
      refine Std.ExtTreeMap.ext_getElem? fun key => ?_
      rw [Std.ExtTreeMap.getElem?_modify]
      by_cases here : turn.1 = key <;> simp [here]
    rw [List.foldl_cons]
    dsimp only
    rw [rest turn (by simp), same]
    exact ih fun other member => rest other (by simp [member])

end Batch

namespace Store

theorem swept_map {α β : Type} (set : β → Contact → Contact) (rows : Std.ExtTreeMap ContactId α)
    (f : α → β) (contacts : Std.ExtTreeMap ContactId Contact) :
    swept set (rows.map fun _ => f) contacts = swept (fun a => set (f a)) rows contacts := by
  refine Std.ExtTreeMap.ext_getElem? fun id => ?_
  rw [getElem?_swept, getElem?_swept, Std.ExtTreeMap.getElem?_map]
  cases rows[id]? <;> rfl

end Store

namespace Batch

open Effect

variable (assets : Assets) (sessions : List Session)

def revised (store : Store) : Store :=
  ((store.updated Contact.setName (latest (taken Names.name?
      (waiting assets sessions .commitNameChanges)))).updated Contact.setLanguage
    ((latest (taken Languages.language? (waiting assets sessions .commitLanguageChanges))).map
      fun _ => Languages.stored)).updated Contact.setFields
    (Fields.merged (taken Fields.change? (waiting assets sessions .commitFieldChanges)))

theorem filter_others {turns : List (ContactId × Event)} {id other : HookId} (apart : id ≠ other) :
    (turns.filter (·.2.payload.waitsFor? assets ≠ some other)).filter
        (·.2.payload.waitsFor? assets = some id) =
      turns.filter (·.2.payload.waitsFor? assets = some id) := by
  rw [List.filter_filter]
  refine List.filter_congr fun turn _ => ?_
  by_cases waits : turn.2.payload.waitsFor? assets = some id <;> simp [waits, apart]

theorem told_sorted (turns : List (ContactId × Event))
    (contacts : Std.ExtTreeMap ContactId Contact) :
    told assets turns contacts =
      told assets (turns.filter (·.2.payload.waitsFor? assets = some .commitFieldChanges))
        (told assets (turns.filter (·.2.payload.waitsFor? assets = some .commitLanguageChanges))
          (told assets (turns.filter (·.2.payload.waitsFor? assets = some .commitNameChanges))
            contacts)) := by
  rw [told_first .commitNameChanges turns, told_first .commitLanguageChanges (turns.filter _),
    filter_others assets (by decide), told_first .commitFieldChanges ((turns.filter _).filter _),
    filter_others assets (by decide), filter_others assets (by decide)]
  refine told_rest (fun turn member => ?_) _
  obtain ⟨member, fields⟩ := List.mem_filter.1 member
  obtain ⟨member, languages⟩ := List.mem_filter.1 member
  obtain ⟨_, names⟩ := List.mem_filter.1 member
  exact Contact.after_rest (of_decide_eq_true names) (of_decide_eq_true languages)
    (of_decide_eq_true fields)

theorem swept_names (contacts : Std.ExtTreeMap ContactId Contact) :
    Store.swept Contact.setName (latest (taken Names.name?
        (waiting assets sessions .commitNameChanges))) contacts =
      told assets ((Session.turns sessions).filter
        (·.2.payload.waitsFor? assets = some .commitNameChanges)) contacts := by
  refine (swept_latest Contact.setName (fun _ _ _ => rfl) _ contacts).trans ?_
  exact told_waiting (fun _ => Contact.after_name) sessions contacts

theorem swept_languages (contacts : Std.ExtTreeMap ContactId Contact) :
    Store.swept Contact.setLanguage ((latest (taken Languages.language?
        (waiting assets sessions .commitLanguageChanges))).map fun _ => Languages.stored) contacts =
      told assets ((Session.turns sessions).filter
        (·.2.payload.waitsFor? assets = some .commitLanguageChanges)) contacts := by
  rw [Store.swept_map]
  refine (swept_latest (Contact.setLanguage ∘ Languages.stored) (fun _ _ _ => rfl) _ contacts).trans
    ?_
  exact told_waiting (fun _ => Contact.after_language) sessions contacts

theorem swept_fields (contacts : Std.ExtTreeMap ContactId Contact) :
    Store.swept Contact.setFields (Fields.merged (taken Fields.change?
        (waiting assets sessions .commitFieldChanges))) contacts =
      told assets ((Session.turns sessions).filter
        (·.2.payload.waitsFor? assets = some .commitFieldChanges)) contacts := by
  rw [swept_merged]
  exact told_waiting (fun _ => Contact.after_field) sessions contacts

-- Three updates by hook do what the events do one after the other.
theorem revised_contacts (store : Store) :
    (revised assets sessions store).contacts =
      told assets (Session.turns sessions) store.contacts := by
  rw [told_sorted, ← swept_names, ← swept_languages, ← swept_fields]
  rfl

end Batch
end SessionBatch

import SessionBatch.Proofs.Reduction

namespace SessionBatch

def HookId.eventType : HookId → EventType
  | commitNameChanges => .contactNameChanged
  | commitLanguageChanges => .contactLanguageChanged
  | commitFieldChanges => .contactFieldChanged
  | commitGroupChanges => .contactGroupsChanged
  | commitMessages => .msgCreated
  | queueMessages => .msgCreated

def HookId.Fits (id : HookId) (entries : List SessionEvents) : Prop :=
  ∀ entry ∈ entries, ∀ event ∈ entry.events, event.type = id.eventType

def Effect.Picks {α : Type} (type : EventType) (pick : Payload → Option α) : Prop :=
  ∀ payload : Payload, (pick payload).isSome = true ↔ payload.type = type

theorem HookId.Fits.picks {α : Type} {id : HookId} {entries : List SessionEvents}
    {pick : Payload → Option α} (fits : id.Fits entries) (picks : Effect.Picks id.eventType pick) :
    ∀ entry ∈ entries, ∀ event ∈ entry.events, (pick event.payload).isSome = true :=
  fun entry member event within => (picks event.payload).2 (fits entry member event within)

def SessionEvents.bare (entry : SessionEvents) : SessionEvents :=
  { entry with session := entry.session.clearQueues }

namespace Effect

theorem Names.picks : Picks .contactNameChanged name? := by
  intro payload
  cases payload <;> simp [name?, Payload.type]

theorem Languages.picks : Picks .contactLanguageChanged language? := by
  intro payload
  cases payload <;> simp [language?, Payload.type]

theorem Fields.picks : Picks .contactFieldChanged change? := by
  intro payload
  cases payload <;> simp [change?, Payload.type]

theorem Groups.picks : Picks .contactGroupsChanged change? := by
  intro payload
  cases payload <;> simp [change?, Payload.type]

theorem Messages.picks : Picks .msgCreated message? := by
  intro payload
  cases payload <;> simp [message?, Payload.type]

def Messages.row (org : OrgId) (contact : ContactId) (event : Event) (message : OutgoingMessage) :
    Message :=
  { uuid := message.uuid, orgId := org, contactId := contact, urn := message.urn,
    text := message.text, createdOn := event.createdOn }

def Messages.rows (org : OrgId) (entries : List SessionEvents) : List Message :=
  entries.flatMap fun entry => entry.events.filterMap fun event =>
    (message? event.payload).map (row org entry.session.contactId event)

def settle (assets : Assets) (id : HookId) (entries : List SessionEvents) (store : Store) :
    Except StoreError Store :=
  match id with
  | .commitNameChanges =>
    .ok (store.updated Contact.setName (latest (taken Names.name? entries)))
  | .commitLanguageChanges =>
    .ok (store.updated Contact.setLanguage
      ((latest (taken Languages.language? entries)).map fun _ => Languages.stored))
  | .commitFieldChanges =>
    .ok (store.updated Contact.setFields (Fields.merged (taken Fields.change? entries)))
  | .commitGroupChanges =>
    let changes := taken Groups.change? entries
    store.bulk (Groups.rows assets true changes) .addMemberships >>= fun store =>
      .ok (store.parted (Groups.rows assets false changes))
  | .commitMessages => store.bulk (Messages.rows assets.orgId entries) .insertMessages
  | .queueMessages => .ok store

theorem settle_nil (assets : Assets) (id : HookId) (store : Store) :
    settle assets id [] store = .ok store := by
  cases id <;> rfl

theorem taken_bare {α : Type} (pick : Payload → Option α) (entries : List SessionEvents) :
    taken pick (entries.map SessionEvents.bare) =
      (taken pick entries).map (Prod.map Session.clearQueues id) := by
  unfold taken
  rw [List.map_map, List.map_map]
  rfl

theorem settle_bare (assets : Assets) (id : HookId) (entries : List SessionEvents) (store : Store) :
    settle assets id (entries.map SessionEvents.bare) store = settle assets id entries store := by
  cases id with
  | commitNameChanges | commitLanguageChanges =>
    unfold settle latest
    dsimp only
    rw [taken_bare, List.foldl_map]
    rfl
  | commitFieldChanges =>
    unfold settle Fields.merged
    dsimp only
    rw [taken_bare, List.foldl_map]
    rfl
  | commitGroupChanges =>
    unfold settle Groups.rows
    dsimp only
    rw [taken_bare, List.flatMap_map, List.flatMap_map]
    rfl
  | commitMessages =>
    unfold settle Messages.rows
    dsimp only
    rw [List.flatMap_map]
    rfl
  | queueMessages => rfl

theorem Messages.stored_eq (org : OrgId) (entry : SessionEvents)
    (typed : ∀ event ∈ entry.events, (message? event.payload).isSome = true) :
    stored org entry (entry.events.filterMap (message? ·.payload)) =
      entry.events.filterMap fun event =>
        (message? event.payload).map (row org entry.session.contactId event) := by
  obtain ⟨session, events⟩ := entry
  unfold stored
  dsimp only at typed ⊢
  induction events with
  | nil => rfl
  | cons event rest ih =>
    obtain ⟨message, found⟩ := Option.isSome_iff_exists.1 (typed event (by simp))
    have others := ih fun other member => typed other (by simp [member])
    rw [List.filterMap_cons, found, List.filterMap_cons, found, Option.map_some, ← others]
    rfl

theorem Messages.rows_eq (org : OrgId) (entries : List SessionEvents)
    (typed : ∀ entry ∈ entries, ∀ event ∈ entry.events, (message? event.payload).isSome = true) :
    ((entries.zip (taken message? entries)).flatMap fun (entry, _, messages) =>
      stored org entry messages) = rows org entries := by
  induction entries with
  | nil => rfl
  | cons entry rest ih =>
    have others := ih fun other member => typed other (by simp [member])
    have first := stored_eq org entry (typed entry (by simp))
    unfold rows at others ⊢
    rw [List.flatMap_cons, ← others, ← first]
    rfl

end Effect

namespace Follows

open Effect

variable {assets : Assets} {entries : List SessionEvents}

theorem writeRows {β : Type} (rows : List β) (write : List β → BulkWrite)
    (line : Nat → Nat → String) :
    Follows (Effect.writeRows rows write line)
      (.onStore fun store => (store.bulk rows write).mapError .store) :=
  bulk fun _ => note _ _

theorem taking {α : Type} {expected : EventType} {pick : Payload → Option α}
    {next : List (Session × List α) → Work Unit EffectError Unit}
    {rule : Rule Unit EffectError Unit}
    (typed : ∀ entry ∈ entries, ∀ event ∈ entry.events, (pick event.payload).isSome = true)
    (follows : Follows (next (taken pick entries)) rule) :
    Follows (Work.ofExcept (pickedOf expected pick entries) >>= next) rule := by
  rw [pickedOf_ok typed]
  exact follows

theorem nameHook (fits : HookId.commitNameChanges.Fits entries) :
    Follows (Names.hook assets entries)
      (.onStore fun store => (settle assets .commitNameChanges entries store).mapError .store) := by
  have typed := fits.picks Names.picks
  refine taking typed ((writeRows _ _ _).congr fun stage => ?_)
  simp only [Rule.onStore, Store.bulk_updateNames]
  rfl

theorem languageHook (fits : HookId.commitLanguageChanges.Fits entries) :
    Follows (Languages.hook assets entries)
      (.onStore fun store =>
        (settle assets .commitLanguageChanges entries store).mapError .store) := by
  have typed := fits.picks Languages.picks
  refine taking typed ((writeRows _ _ _).congr fun stage => ?_)
  rw [← Std.ExtTreeMap.toList_map (f := fun _ => Languages.stored)]
  simp only [Rule.onStore, Store.bulk_updateLanguages]
  rfl

theorem fieldHook (fits : HookId.commitFieldChanges.Fits entries) :
    Follows (Fields.hook assets entries)
      (.onStore fun store =>
        (settle assets .commitFieldChanges entries store).mapError .store) := by
  have typed := fits.picks Fields.picks
  refine taking typed ((writeRows _ _ _).congr fun stage => ?_)
  simp only [Rule.onStore, Store.bulk_updateFields]
  rfl

theorem groupHook (fits : HookId.commitGroupChanges.Fits entries) :
    Follows (Groups.hook assets entries)
      (.onStore fun store =>
        (settle assets .commitGroupChanges entries store).mapError .store) := by
  have typed := fits.picks Groups.picks
  refine taking typed ((bind (writeRows _ _ _) fun _ => writeRows _ _ _).congr fun stage => ?_)
  rw [Rule.onStore_bind]
  simp only [Rule.onStore, Store.bulk_removeMemberships, settle]
  cases stage.store.bulk _ BulkWrite.addMemberships <;> rfl

theorem messageHook (fits : HookId.commitMessages.Fits entries) :
    Follows (Messages.commitHook assets entries)
      (.onStore fun store => (settle assets .commitMessages entries store).mapError .store) := by
  have typed := fits.picks Messages.picks
  refine taking typed ?_
  rw [Messages.rows_eq assets.orgId entries typed]
  exact writeRows _ _ _

theorem standardHook {id : HookId} (before : id ≠ .queueMessages) (fits : id.Fits entries) :
    Follows (Registry.standardHook id assets entries)
      (.onStore fun store => (settle assets id entries store).mapError .store) := by
  cases id with
  | commitNameChanges => exact nameHook fits
  | commitLanguageChanges => exact languageHook fits
  | commitFieldChanges => exact fieldHook fits
  | commitGroupChanges => exact groupHook fits
  | commitMessages => exact messageHook fits
  | queueMessages => exact absurd rfl before

end Follows
end SessionBatch

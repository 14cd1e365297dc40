import SessionBatch.Proofs.Rule
import SessionBatch.Proofs.Writes
import SessionBatch.Registry.Standard

namespace SessionBatch

def Payload.refusal? : Payload → Option EffectError
  | .contactLanguageChanged language =>
    if Effect.Languages.isCode language then none
    else some (.invalid ("language must be an ISO 639-3 code, got " ++ Text.quoted language))
  | .msgCreated message =>
    if message.text.isEmpty then some (.invalid ("msg " ++ message.uuid.text ++ " has no text"))
    else none
  | _ => none

def Payload.waitsFor? (assets : Assets) : Payload → Option HookId
  | .contactNameChanged _ => some .commitNameChanges
  | .contactLanguageChanged _ => some .commitLanguageChanges
  | .contactFieldChanged field _ =>
    if (assets.field? field.key).isNone then none else some .commitFieldChanges
  | .contactGroupsChanged _ _ => some .commitGroupChanges
  | .msgCreated _ => some .commitMessages
  | _ => none

def Payload.followedBy? : Payload → Option HookId
  | .msgCreated _ => some .queueMessages
  | _ => none

def Payload.labelRows (assets : Assets) : Payload → List MessageLabel
  | .inputLabelsAdded input labels => Effect.Labels.rows assets input labels
  | _ => []

def HookQueue.fill (choose : Event → Option HookId) (queue : HookQueue) (events : List Event) :
    HookQueue :=
  events.foldl (fun queue event => (choose event).elim queue (HookQueue.defer queue · event)) queue

theorem HookQueue.getElem?_fill (choose : Event → Option HookId) (queue : HookQueue)
    (events : List Event) (hook : HookId) :
    (fill choose queue events)[hook]?.getD [] =
      queue[hook]?.getD [] ++ events.filter (choose · = some hook) := by
  induction events generalizing queue with
  | nil => simp [fill]
  | cons event rest ih =>
    refine (ih ((choose event).elim queue (HookQueue.defer queue · event))).trans ?_
    cases chosen : choose event with
    | none => simp [chosen]
    | some other =>
      by_cases same : other = hook <;> simp [chosen, HookQueue.getElem?_defer, same]

namespace Session

def place (assets : Assets) (events : List Event) (s : Session) : Session :=
  { s with
    preCommit := HookQueue.fill (·.payload.waitsFor? assets) s.preCommit events
    postCommit := HookQueue.fill (·.payload.followedBy?) s.postCommit events }

-- The first refusal among a session's events ends the batch.
def refusal? (s : Session) : Option BatchError :=
  s.events.findSome? fun event => event.payload.refusal?.map (.handler event.type s.id)

end Session

def Store.labelledBy (assets : Assets) (events : List Event) (store : Store) : Store :=
  events.foldl (fun store event => store.labelled (event.payload.labelRows assets)) store

namespace Rule

def handling (assets : Assets) (event : Event) : Rule Session EffectError Unit := fun stage =>
  match event.payload.refusal? with
  | some e => .error e
  | none =>
    .ok ((), ⟨stage.subject.place assets [event], stage.store.labelledBy assets [event]⟩)

end Rule

namespace Follows

variable {assets : Assets} {event : Event}

theorem notings {σ ε α β : Type} {next : Work σ ε α} {rule : Rule σ ε α} (items : List β)
    (level : Level) (text : β → String) (follows : Follows next rule) :
    Follows ((items.forM fun item => Work.note level (text item)) >>= fun _ => next) rule := by
  induction items with
  | nil => exact follows
  | cons item rest ih => exact noting ih

theorem resting (accepted : event.payload.refusal? = none)
    (waits : event.payload.waitsFor? assets = none) (last : event.payload.followedBy? = none)
    (bare : event.payload.labelRows assets = []) :
    Follows (Pure.pure () : Work Session EffectError Unit) (.handling assets event) := by
  refine (pure ()).congr fun stage => ?_
  simp only [Rule.handling, accepted]
  simp only [Session.place, HookQueue.fill, List.foldl_cons, List.foldl_nil, waits, last,
    Option.elim_none, Store.labelledBy, bare]
  rfl

theorem deferring {hook : HookId} (accepted : event.payload.refusal? = none)
    (waits : event.payload.waitsFor? assets = some hook)
    (last : event.payload.followedBy? = none) (bare : event.payload.labelRows assets = []) :
    Follows (modify fun s => { s with subject := s.subject.deferPre hook event })
      (.handling assets event) := by
  refine (turn (Session.deferPre · hook event)).congr fun stage => ?_
  simp only [Rule.handling, accepted]
  simp only [Session.place, HookQueue.fill, List.foldl_cons, List.foldl_nil, waits, last,
    Option.elim_none, Option.elim_some, Store.labelledBy, bare]
  rfl

theorem refusing {e : EffectError} (refused : event.payload.refusal? = some e) :
    Follows (MonadExcept.throw e : Work Session EffectError Unit) (.handling assets event) := by
  refine (throw e).congr fun stage => ?_
  simp only [Rule.handling, refused]
  rfl

theorem names {name : String} (payload : event.payload = .contactNameChanged name) :
    Follows (Effect.Names.handler assets event) (.handling assets event) := by
  unfold Effect.Names.handler
  simp only [payload, Effect.Names.name?]
  refine peek fun s => noting (deferring ?_ ?_ ?_ ?_) <;> rw [payload] <;> rfl

theorem languages {language : String} (payload : event.payload = .contactLanguageChanged language) :
    Follows (Effect.Languages.handler assets event) (.handling assets event) := by
  unfold Effect.Languages.handler
  simp only [payload, Effect.Languages.language?]
  refine peek fun s => ?_
  by_cases code : Effect.Languages.isCode language = true
  · rw [if_pos code]
    refine noting (deferring ?_ ?_ ?_ ?_) <;> rw [payload]
    · exact if_pos code
    all_goals rfl
  · rw [if_neg code]
    refine refusing ?_
    rw [payload]
    exact if_neg code

theorem fields {field : FieldRef} {value : Option String}
    (payload : event.payload = .contactFieldChanged field value) :
    Follows (Effect.Fields.handler assets event) (.handling assets event) := by
  unfold Effect.Fields.handler
  simp only [payload, Effect.Fields.change?]
  refine peek fun s => ?_
  by_cases unknown : (assets.field? field.key).isNone = true
  · rw [if_pos unknown, ← bind_pure (Work.note _ _)]
    refine noting (resting ?_ ?_ ?_ ?_) <;> rw [payload]
    · rfl
    · exact if_pos unknown
    all_goals rfl
  · rw [if_neg unknown]
    refine noting (deferring ?_ ?_ ?_ ?_) <;> rw [payload]
    · rfl
    · exact if_neg unknown
    all_goals rfl

theorem groups {added removed : List GroupRef}
    (payload : event.payload = .contactGroupsChanged added removed) :
    Follows (Effect.Groups.handler assets event) (.handling assets event) := by
  unfold Effect.Groups.handler
  simp only [payload, Effect.Groups.change?]
  refine peek fun s => notings _ _ _ (noting (deferring ?_ ?_ ?_ ?_)) <;> rw [payload] <;> rfl

theorem messages {message : OutgoingMessage} (payload : event.payload = .msgCreated message) :
    Follows (Effect.Messages.handler assets event) (.handling assets event) := by
  unfold Effect.Messages.handler
  simp only [payload, Effect.Messages.message?]
  refine peek fun s => ?_
  by_cases empty : message.text.isEmpty = true
  · rw [if_pos empty]
    refine refusing ?_
    rw [payload]
    exact if_pos empty
  · rw [if_neg empty]
    refine noting ((turn fun session : Session =>
      (session.deferPre .commitMessages event).deferPost .queueMessages event).congr ?_)
    intro stage
    have accepted : event.payload.refusal? = none := by
      rw [payload]
      exact if_neg empty
    simp only [Rule.handling, accepted]
    simp only [Session.place, HookQueue.fill, List.foldl_cons, List.foldl_nil, payload,
      Payload.waitsFor?, Payload.followedBy?, Option.elim_some, Store.labelledBy,
      Payload.labelRows]
    rfl

theorem labels {input : Uuid} {labels : List LabelRef}
    (payload : event.payload = .inputLabelsAdded input labels) :
    Follows (Effect.Labels.handler assets event) (.handling assets event) := by
  unfold Effect.Labels.handler
  simp only [payload]
  refine peek fun s => notings _ _ _ ((bulk fun _ => note _ _).congr ?_)
  intro stage
  have accepted : event.payload.refusal? = none := by
    rw [payload]
    rfl
  simp only [Rule.handling, accepted, Rule.onStore, Store.bulk_addLabels]
  simp only [Session.place, HookQueue.fill, List.foldl_cons, List.foldl_nil, payload,
    Payload.waitsFor?, Payload.followedBy?, Option.elim_none, Store.labelledBy, Payload.labelRows]
  rfl

theorem notices {text : String} (payload : event.payload = .error text) :
    Follows (Effect.Notices.handler assets event) (.handling assets event) := by
  unfold Effect.Notices.handler
  simp only [payload]
  refine peek fun s => ?_
  rw [← bind_pure (Work.note _ _)]
  refine noting (resting ?_ ?_ ?_ ?_) <;> rw [payload] <;> rfl

theorem standardHandler (assets : Assets) (event : Event) :
    Follows (Registry.standardHandler event.type assets event) (.handling assets event) := by
  unfold Event.type
  cases payload : event.payload with
  | contactNameChanged => exact names payload
  | contactLanguageChanged => exact languages payload
  | contactFieldChanged => exact fields payload
  | contactGroupsChanged => exact groups payload
  | msgCreated => exact messages payload
  | inputLabelsAdded => exact labels payload
  | error => exact notices payload

end Follows
end SessionBatch

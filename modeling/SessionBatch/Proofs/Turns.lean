import SessionBatch.Proofs.Dispatch

namespace SessionBatch

namespace Session

def placed (assets : Assets) (s : Session) : Session := s.place assets s.events

def firstRefusal? (sessions : List Session) : Option BatchError := sessions.findSome? refusal?

end Session

namespace Rule

def oneTurn (assets : Assets) (event : Event) : Rule Session BatchError Unit :=
  about fun session => wrapped (.handler event.type session.id) (handling assets event)

def turns (assets : Assets) : Rule Session BatchError Nat := fun stage =>
  match stage.subject.refusal? with
  | some e => .error e
  | none =>
    .ok (stage.subject.events.length,
      ⟨stage.subject.placed assets, stage.store.labelledBy assets stage.subject.events⟩)

theorem forM_oneTurn (assets : Assets) (events : List Event) (stage : Stage Session) :
    events.forM (oneTurn assets) stage =
      match events.findSome? fun event =>
        event.payload.refusal?.map (.handler event.type stage.subject.id) with
      | some e => .error e
      | none =>
        .ok ((), ⟨stage.subject.place assets events, stage.store.labelledBy assets events⟩) := by
  induction events generalizing stage with
  | nil => rfl
  | cons event rest ih =>
    change (oneTurn assets event >>= fun _ => rest.forM (oneTurn assets)) stage = _
    rw [bind_run, List.findSome?_cons]
    unfold oneTurn about wrapped handling
    cases event.payload.refusal? with
    | some e => rfl
    | none => exact ih _

theorem each_turns (assets : Assets) (sessions : List Session) (store : Store) :
    each (turns assets) ⟨sessions, store⟩ =
      match Session.firstRefusal? sessions with
      | some e => .error e
      | none =>
        .ok (sessions.map (·.events.length),
          ⟨sessions.map (Session.placed assets),
            store.labelledBy assets (sessions.flatMap (·.events))⟩) := by
  -- On the sessions, with the store that the labels of those before have made.
  induction sessions generalizing store with
  | nil => rfl
  | cons session rest ih =>
    change (turns assets ⟨session, store⟩ >>= fun (a, stage) =>
      each (turns assets) ⟨rest, stage.store⟩ >>= _) = _
    unfold Session.firstRefusal? turns at *
    rw [List.findSome?_cons]
    cases session.refusal? with
    | some e => rfl
    | none =>
      change (each (turns assets) ⟨rest, store.labelledBy assets session.events⟩ >>= _) = _
      have labels : store.labelledBy assets ((session :: rest).flatMap (·.events)) =
          (store.labelledBy assets session.events).labelledBy assets
            (rest.flatMap (·.events)) := by
        rw [List.flatMap_cons]
        exact List.foldl_append
      rw [labels]
      unfold turns
      rw [ih]
      cases rest.findSome? Session.refusal? <;> rfl

-- The turns of all events: either one is refused, or each is where it waits and its labels are
-- in the store.
def dispatching (assets : Assets) : Rule (List Session) BatchError Nat := fun stage =>
  match Session.firstRefusal? stage.subject with
  | some e => .error e
  | none =>
    .ok ((stage.subject.map (·.events.length)).foldr (· + ·) 0,
      ⟨stage.subject.map (Session.placed assets),
        stage.store.labelledBy assets (stage.subject.flatMap (·.events))⟩)

end Rule

namespace Follows

theorem dispatch (assets : Assets) (event : Event) :
    Follows (Batch.dispatch .standard assets event) (.oneTurn assets event) := by
  unfold Batch.dispatch
  rw [Registry.lookup_standard]
  exact about fun s => noting (adapt _ (standardHandler assets event))

theorem dispatchSession (assets : Assets) :
    Follows (Batch.dispatchSession .standard assets) (.turns assets) := by
  have each : ∀ s : Scene Session,
      Follows (s.subject.events.forM (Batch.dispatch .standard assets) >>= fun _ =>
          Pure.pure s.subject.events.length)
        (s.subject.events.forM (Rule.oneTurn assets) >>= fun _ =>
          Pure.pure s.subject.events.length) :=
    fun s => bind (forM fun event _ => dispatch assets event) fun _ => pure _
  have looked : Follows (Batch.dispatchSession .standard assets)
      (Pure.pure () >>= fun _ => Rule.about fun session =>
        session.events.forM (Rule.oneTurn assets) >>= fun _ => Pure.pure session.events.length) :=
    bind (ensureActive _) fun _ => about each
  refine looked.congr fun stage => ?_
  change (stage.subject.events.forM (Rule.oneTurn assets) >>= fun _ => Pure.pure _) stage = _
  rw [Rule.bind_run, Rule.forM_oneTurn]
  unfold Rule.turns Session.refusal?
  cases List.findSome? _ stage.subject.events <;> rfl

theorem dispatchAll (assets : Assets) :
    Follows (Batch.dispatchAll .standard assets) (.dispatching assets) := by
  have summed : Follows (Batch.dispatchAll .standard assets)
      (Rule.each (Rule.turns assets) >>= fun counts => Pure.pure (counts.foldr (· + ·) 0)) :=
    bind (each (dispatchSession assets)) fun _ => pure _
  refine summed.congr fun stage => ?_
  rw [Rule.bind_run, Rule.each_turns]
  unfold Rule.dispatching
  cases Session.firstRefusal? stage.subject <;> rfl

end Follows
end SessionBatch

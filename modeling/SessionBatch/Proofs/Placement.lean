import SessionBatch.Proofs.Outcome

namespace SessionBatch

namespace HookQueue

def Keeps (queue : HookQueue) (hook : HookId) (events : List Event) : Prop :=
  queue[hook]? = if events = [] then none else some events

theorem fill_ne_nil (choose : Event → Option HookId) {queue : HookQueue}
    (filled : ∀ hook : HookId, queue[hook]? ≠ some []) (events : List Event) (hook : HookId) :
    (fill choose queue events)[hook]? ≠ some [] := by
  induction events generalizing queue with
  | nil => exact filled hook
  | cons event rest ih =>
    refine ih fun other => ?_
    dsimp only
    cases choose event with
    | none => exact filled other
    | some chosen =>
      rw [Option.elim_some, getElem?_defer]
      by_cases same : chosen = other
      · simp [same]
      · simpa [same] using filled other

theorem fill_keeps (choose : Event → Option HookId) (events : List Event) (hook : HookId) :
    (fill choose {} events).Keeps hook (events.filter (choose · = some hook)) := by
  have none : ∀ other : HookId, ({} : HookQueue)[other]? ≠ some [] := by simp
  have entry := fill_ne_nil choose none events hook
  have queued := getElem?_fill choose {} events hook
  rw [Std.ExtTreeMap.getElem?_empty, Option.getD_none, List.nil_append] at queued
  unfold Keeps
  rw [← queued]
  cases held : (fill choose {} events)[hook]? with
  | none => rfl
  | some kept =>
    rw [Option.getD_some, if_neg]
    rintro rfl
    exact entry held

theorem Keeps.of_same {queue : HookQueue} {hook : HookId} {events : List Event}
    {choose other : Event → Bool} (keeps : queue.Keeps hook (events.filter choose))
    (same : ∀ event, choose event = other event) : queue.Keeps hook (events.filter other) := by
  rw [← List.filter_congr fun event _ => same event]
  exact keeps

theorem Keeps.absent {queue : HookQueue} {hook : HookId} {events : List Event}
    {choose : Event → Bool} (keeps : queue.Keeps hook (events.filter choose))
    (never : ∀ event, choose event = false) : queue[hook]? = none := by
  unfold Keeps at keeps
  rw [keeps, if_pos (by simp [never])]

end HookQueue

structure Store.Labelled (s t : Store) : Prop where
  contacts : t.contacts = s.contacts
  memberships : t.memberships = s.memberships
  messages : t.messages = s.messages

def Event.changesField (assets : Assets) (event : Event) : Bool :=
  match event.payload with
  | .contactFieldChanged field _ => (assets.field? field.key).isSome
  | _ => false

-- Where the events of a session have gone once all of them had their turns. Labels and notices
-- have gone nowhere.
structure Placed (assets : Assets) (s t : Session) : Prop where
  names : t.preCommit.Keeps .commitNameChanges (s.events.filter (·.type = .contactNameChanged))
  languages :
    t.preCommit.Keeps .commitLanguageChanges (s.events.filter (·.type = .contactLanguageChanged))
  fields : t.preCommit.Keeps .commitFieldChanges (s.events.filter (·.changesField assets))
  groups :
    t.preCommit.Keeps .commitGroupChanges (s.events.filter (·.type = .contactGroupsChanged))
  messages : t.preCommit.Keeps .commitMessages (s.events.filter (·.type = .msgCreated))
  unqueued : t.preCommit[HookId.queueMessages]? = none
  queued : t.postCommit.Keeps .queueMessages (s.events.filter (·.type = .msgCreated))
  nothingElse : ∀ hook : HookId, hook ≠ .queueMessages → t.postCommit[hook]? = none
  session : t.clearQueues = s.clearQueues

namespace Payload

variable {assets : Assets}

-- An event waits for a hook just if it is of the hook's type, save changes of unknown fields.
theorem waitsFor?_eq {payload : Payload} {hook : HookId} (fields : hook ≠ .commitFieldChanges)
    (queue : hook ≠ .queueMessages) :
    payload.waitsFor? assets = some hook ↔ payload.type = hook.eventType := by
  refine ⟨waitsFor?_type, fun type => ?_⟩
  cases payload <;> cases hook <;> cases type <;>
    first | rfl | exact absurd rfl fields | exact absurd rfl queue

theorem waitsFor?_fields (event : Event) :
    decide (event.payload.waitsFor? assets = some .commitFieldChanges) =
      event.changesField assets := by
  unfold Event.changesField
  cases event.payload with
  | contactFieldChanged field =>
    cases known : assets.field? field.key <;> simp [waitsFor?, known]
  | _ => rfl

theorem followedBy?_eq {payload : Payload} {hook : HookId} :
    payload.followedBy? = some hook ↔ payload.type = .msgCreated ∧ hook = .queueMessages := by
  cases payload <;> simp [followedBy?, type, eq_comm]

end Payload

namespace Session

variable {assets : Assets}

theorem placed_keeps (s : Session) (fresh : s.preCommit = {}) {hook : HookId}
    (fields : hook ≠ .commitFieldChanges) (queue : hook ≠ .queueMessages) :
    (s.placed assets).preCommit.Keeps hook (s.events.filter (·.type = hook.eventType)) := by
  unfold placed place
  rw [fresh]
  refine (HookQueue.fill_keeps _ s.events hook).of_same fun event => ?_
  exact decide_eq_decide.2 (Payload.waitsFor?_eq fields queue)

theorem placed_spec (s : Session) (fresh : s.preCommit = {}) (fresh' : s.postCommit = {}) :
    Placed assets s (s.placed assets) := by
  have waits := HookQueue.fill_keeps (·.payload.waitsFor? assets) s.events
  have follows := HookQueue.fill_keeps (·.payload.followedBy?) s.events
  refine
    { names := s.placed_keeps fresh (by decide) (by decide)
      languages := s.placed_keeps fresh (by decide) (by decide)
      fields := ?_
      groups := s.placed_keeps fresh (by decide) (by decide)
      messages := s.placed_keeps fresh (by decide) (by decide)
      unqueued := ?_
      queued := ?_
      nothingElse := fun hook other => ?_
      session := rfl } <;> unfold placed place <;> dsimp only
  · rw [fresh]
    exact (waits .commitFieldChanges).of_same Payload.waitsFor?_fields
  · rw [fresh]
    exact (waits .queueMessages).absent fun _ => decide_eq_false Payload.waitsFor?_ne
  · rw [fresh']
    refine (follows .queueMessages).of_same fun event => decide_eq_decide.2 ?_
    exact Payload.followedBy?_eq.trans (and_iff_left rfl)
  · rw [fresh']
    exact (follows hook).absent fun _ => decide_eq_false fun last =>
      other (Payload.followedBy?_eq.1 last).2

end Session

namespace Batch

variable {assets : Assets}

-- Dispatch puts every event into just the queues that are meant for it. Besides that it labels
-- messages, and writes and queues nothing else.
theorem dispatch_places {session : Session} {world : World} {t : Scene Session}
    (fresh : session.preCommit = {}) (fresh' : session.postCommit = {})
    (done : session.events.forM (dispatch .standard assets) ⟨session, world⟩ = (.ok (), t)) :
    Placed assets session t.subject ∧ world.store.Labelled t.world.store ∧
      t.world.cache = world.cache := by
  have follows : Follows (session.events.forM (dispatch .standard assets))
      (session.events.forM (Rule.oneTurn assets)) :=
    .forM fun event _ => .dispatch assets event
  have cache := (follows ⟨session, world⟩).cache
  have turns := (follows ⟨session, world⟩).sound done
  rw [done] at cache
  rw [Rule.forM_oneTurn] at turns
  split at turns
  · cases turns
  · have stage := congrArg Prod.snd (Except.ok.inj turns)
    have subject : t.subject = session.placed assets := congrArg Stage.subject stage.symm
    have store : t.world.store = world.store.labelledBy assets session.events :=
      congrArg Stage.store stage.symm
    obtain ⟨contacts, memberships, messages⟩ :=
      Store.labelledBy_rest assets session.events world.store
    rw [subject, store]
    exact ⟨session.placed_spec fresh fresh', ⟨contacts, memberships, messages⟩, cache⟩

end Batch

namespace Sample

def mixture : Session :=
  turn ⟨1⟩ [.contactNameChanged "Ann", .contactFieldChanged ⟨"age", "Age"⟩ (some "7"),
    .contactFieldChanged ⟨"size", "Size"⟩ (some "8"), .contactNameChanged "Bea",
    .msgCreated ⟨⟨21⟩, none, "first"⟩, .inputLabelsAdded ⟨20⟩ [⟨⟨8⟩, "urgent"⟩]]

end Sample

theorem dispatch_places_mixture :
    Sample.mixture.preCommit = {} ∧ Sample.mixture.postCommit = {} ∧
      ∃ t, Sample.mixture.events.forM (Batch.dispatch .standard Sample.assets)
          ⟨Sample.mixture, { store := Sample.store }⟩ = (.ok (), t) ∧
        Placed Sample.assets Sample.mixture t.subject ∧ Sample.store.Labelled t.world.store ∧
        t.world.cache = {} := by
  obtain ⟨⟨⟩, t, done⟩ := Sample.run_ok
    (r := Sample.mixture.events.forM (Batch.dispatch .standard Sample.assets)
      ⟨Sample.mixture, { store := Sample.store }⟩) (by decide +kernel)
  exact ⟨rfl, rfl, t, done, Batch.dispatch_places rfl rfl done⟩

end SessionBatch

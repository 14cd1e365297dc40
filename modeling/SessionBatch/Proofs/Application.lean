import SessionBatch.Proofs.Checks
import SessionBatch.Proofs.Course
import SessionBatch.Proofs.Deferral
import SessionBatch.Proofs.Steps
import SessionBatch.Proofs.Validation
import SessionBatch.Rehearsal

namespace SessionBatch

namespace Registry

def Ready (registry : Registry) (assets : Assets) (hook : HookId) : Prop :=
  ∃ action, registry.hook? hook = some action ∧ ∀ entries (w : World), w.Available →
    ∃ u : World, action assets entries ⟨(), w⟩ = (.ok (), ⟨(), u⟩) ∧ u.Available

structure Routes (registry : Registry) (assets : Assets) (routing : Routing) : Prop where
  handlers : ∀ type, ∃ run, registry.handler? type = some run ∧
    ∀ event : Event, event.type = type → ∀ session (w : World), w.Available →
      ∃ u : World, run assets event ⟨session, w⟩ = (.ok (), ⟨session.route routing event, u⟩) ∧
        u.Available
  hooks : ∀ type, ∀ hook ∈ routing.pre type ++ routing.post type, registry.Ready assets hook

variable {registry : Registry} {assets : Assets} {routing : Routing} {sessions : List Session}

theorem Routes.ready_pre (routes : registry.Routes assets routing) {hook : HookId}
    (named : hook ∈ namedHooks routing.pre sessions) : registry.Ready assets hook := by
  obtain ⟨_, _, event, _, member⟩ := mem_namedHooks.1 named
  exact routes.hooks event.type hook (List.mem_append_left _ member)

theorem Routes.ready_post (routes : registry.Routes assets routing) {hook : HookId}
    (named : hook ∈ namedHooks routing.post sessions) : registry.Ready assets hook := by
  obtain ⟨_, _, event, _, member⟩ := mem_namedHooks.1 named
  exact routes.hooks event.type hook (List.mem_append_right _ member)

def actionOf (registry : Registry) (hook : HookId) : HookAction :=
  (registry.hook? hook).getD fun _ _ => pure ()

variable {hook : HookId}

theorem Ready.found (ready : registry.Ready assets hook) :
    registry.lookupHook hook = .ok (registry.actionOf hook) := by
  obtain ⟨action, found, _⟩ := ready
  simp [lookupHook, actionOf, found]

theorem Ready.goes (ready : registry.Ready assets hook) (entries : List SessionEvents) :
    registry.Goes assets (registry.actionOf hook assets entries) () [.applied hook entries] ()
      () := by
  obtain ⟨action, found, runs⟩ := ready
  intro w available
  obtain ⟨u, ran, later⟩ := runs entries w available
  have same : registry.actionOf hook = action := by simp [actionOf, found]
  rw [same]
  exact ⟨u, ran, .single (.applied found ran), later⟩

end Registry

namespace Batch

open Registry

variable {registry : Registry} {assets : Assets} {routing : Routing} {σ : Type}

theorem dispatch_goes (routes : registry.Routes assets routing) (event : Event)
    (session : Session) :
    registry.Goes assets (dispatch registry assets event) session [.handled event] ()
      (session.route routing event) := by
  obtain ⟨run, found, runs⟩ := routes.handlers event.type
  have known : registry.lookup event.type = .ok run := by simp [lookup, found]
  have called : registry.Goes assets (run assets event) session [.handled event] ()
      (session.route routing event) := by
    intro w available
    obtain ⟨u, ran, later⟩ := runs event rfl session w available
    exact ⟨u, ran, .single (.handled found ran), later⟩
  exact .peek fun w => .given known (.noting called.adapt)

theorem dispatchSession_goes (routes : registry.Routes assets routing) (session : Session) :
    registry.Goes assets (dispatchSession registry assets) session
      (session.events.map .handled) session.events.length (session.routed routing) := by
  have turns : registry.Goes assets (session.events.forM (dispatch registry assets)) session
      (session.events.flatMap fun event => [.handled event]) ()
      (session.events.foldl (fun s event => s.route routing event) session) :=
    .forM (fun event _ x => dispatch_goes routes event x) session
  rw [← List.map_eq_flatMap, Session.foldl_route] at turns
  exact .ensureActive (.peek fun w => turns.ending (.pure _ _))

theorem dispatchAll_goes (routes : registry.Routes assets routing) (sessions : List Session) :
    registry.Goes assets (dispatchAll registry assets) sessions
      ((sessions.flatMap (·.events)).map .handled)
      ((sessions.map (·.events.length)).foldr (· + ·) 0)
      (sessions.map (Session.routed routing)) := by
  have turns : registry.Goes assets (Work.each (dispatchSession registry assets)) sessions
      (sessions.flatMap fun session => session.events.map .handled)
      (sessions.map (·.events.length)) (sessions.map (Session.routed routing)) :=
    .each fun session _ => dispatchSession_goes routes session
  rw [← List.map_flatMap] at turns
  exact turns.ending (.pure _ _)

theorem gather_goes (registry : Registry) (assets : Assets) (ε : Type) {choose : EventType → List HookId}
    {take : Session → HookQueue × Session} {before sessions : List Session}
    {shown : Session → Session}
    (taken : before.map take = sessions.map fun session =>
      (HookQueue.spread choose {} session.events, shown session)) :
    ∃ grouping : Grouping,
      registry.Goes assets (gather take : Work (List Session) ε Grouping) before [] grouping
          (sessions.map shown) ∧
        grouping.toList = (namedHooks choose sessions).map fun hook =>
          (hook, deferredEntries choose sessions shown hook) := by
  refine ⟨_, fun w available => ⟨w, ?_, .rest (.refl w), available⟩,
    Grouping.toList_spread taken⟩
  have left : (before.map take).map Prod.snd = sessions.map shown := by
    rw [taken, List.map_map]
    rfl
  rw [← left]
  rfl

theorem runHook_goes {hook : HookId} (ready : registry.Ready assets hook)
    (entries : List SessionEvents) (x : σ) :
    registry.Goes assets (runHook assets hook (registry.actionOf hook) entries) x
      [.applied hook entries] () x :=
  ((ready.goes entries).beside x).bind (Goes.pure () x)

theorem applyHook_goes {hook : HookId} (ready : registry.Ready assets hook)
    (entries : List SessionEvents) (x : σ) :
    registry.Goes assets (applyHook assets hook (registry.actionOf hook) entries) x
      [.applied hook entries] () x :=
  .ensureActive (.noting (runHook_goes ready entries x))

theorem applyHooks_goes {grouping : Grouping} {hooks : List HookId}
    {entriesOf : HookId → List SessionEvents}
    (listed : grouping.toList = hooks.map fun hook => (hook, entriesOf hook))
    (ready : ∀ hook ∈ hooks, registry.Ready assets hook) (x : σ) :
    registry.Goes assets (applyHooks registry assets grouping) x
      (hooks.map fun hook => .applied hook (entriesOf hook)) hooks x := by
  have resolved : resolve registry grouping =
      .ok (hooks.map fun hook => (hook, registry.actionOf hook, entriesOf hook)) := by
    unfold resolve
    rw [listed, List.mapM_map]
    refine readings_ok fun hook member => ?_
    simp only [Function.comp_apply, (ready hook member).found]
    rfl
  have each : registry.Goes assets
      ((hooks.map fun hook => (hook, registry.actionOf hook, entriesOf hook)).forM
        fun item => applyHook assets item.1 item.2.1 item.2.2) x
      ((hooks.map fun hook => (hook, registry.actionOf hook, entriesOf hook)).map
        fun item => .applied item.1 item.2.2) () x := by
    refine .forM_still fun item member => ?_
    obtain ⟨hook, among, rfl⟩ := List.mem_map.1 member
    exact applyHook_goes (ready hook among) (entriesOf hook) x
  rw [List.map_map] at each
  have named : (hooks.map fun hook => (hook, registry.actionOf hook, entriesOf hook)).map
      Prod.fst = hooks := by
    rw [List.map_map]
    exact List.map_id _
  refine .given resolved (each.ending ?_)
  rw [named]
  exact .pure _ _

theorem attemptHook_goes {hook : HookId} (ready : registry.Ready assets hook)
    (entries : List SessionEvents) (after : Aftermath) :
    registry.Goes assets (attemptHook registry assets hook entries) after
      [.applied hook entries] () { after with applied := after.applied ++ [hook] } := by
  have recorded : registry.Goes assets
      (modify fun s => { s with subject.applied := s.subject.applied ++ [hook] } :
        Work Aftermath BatchError PUnit) after [] ()
      { after with applied := after.applied ++ [hook] } :=
    Goes.turn (fun after => { after with applied := after.applied ++ [hook] }) after
  exact .catching (.given ready.found ((runHook_goes ready entries after).bind recorded))

theorem body_goes (routes : registry.Routes assets routing) (sessions : List Session) :
    registry.Goes assets (body registry assets) (sessions.map Session.clearQueues)
      ((sessions.flatMap (·.events)).map .handled ++
        (namedHooks routing.pre sessions).map fun hook =>
          .applied hook (deferredEntries routing.pre sessions (Session.awaiting routing) hook))
      ((sessions.map (·.events.length)).foldr (· + ·) 0, namedHooks routing.pre sessions)
      (sessions.map (Session.awaiting routing)) := by
  have turns := dispatchAll_goes routes (sessions.map Session.clearQueues)
  rw [List.flatMap_map, List.map_map, List.map_map] at turns
  have taken : (sessions.map (Session.routed routing ∘ Session.clearQueues)).map
        Session.takePre =
      sessions.map fun session =>
        (HookQueue.spread routing.pre {} session.events, session.awaiting routing) := by
    rw [List.map_map]
    rfl
  obtain ⟨grouping, gathered, listed⟩ := gather_goes registry assets BatchError taken
  have applied := applyHooks_goes listed (fun _ named => routes.ready_pre named)
    (sessions.map (Session.awaiting routing))
  refine turns.bind (.noting (gathered.opening (.noting ?_)))
  exact applied.ending (.ensureActive (.pure _ _))

theorem attempts_goes {hooks : List HookId} (entriesOf : HookId → List SessionEvents)
    (ready : ∀ hook ∈ hooks, registry.Ready assets hook) (after : Aftermath) :
    registry.Goes assets
      ((hooks.map fun hook => (hook, entriesOf hook)).forM fun (hook, entries) =>
        attemptHook registry assets hook entries) after
      (hooks.map fun hook => .applied hook (entriesOf hook)) ()
      { after with applied := after.applied ++ hooks } := by
  induction hooks generalizing after with
  | nil =>
    rw [List.append_nil]
    exact .pure () after
  | cons hook rest ih =>
    have first := attemptHook_goes (ready hook (by simp)) (entriesOf hook) after
    have others := ih (fun other member => ready other (by simp [member]))
      { after with applied := after.applied ++ [hook] }
    rw [List.append_assoc] at others
    exact first.bind others

theorem postCommit_goes {ε : Type} (routes : registry.Routes assets routing)
    (sessions : List Session) :
    registry.Goes assets (postCommit registry assets : Work _ ε Aftermath)
      (sessions.map (Session.awaiting routing))
      (if namedHooks routing.post sessions = [] then []
        else .begun :: ((namedHooks routing.post sessions).map fun hook =>
          .applied hook (deferredEntries routing.post sessions Session.clearQueues hook)) ++
            [.committed])
      { applied := namedHooks routing.post sessions } (sessions.map Session.clearQueues) := by
  have taken : (sessions.map (Session.awaiting routing)).map Session.takePost =
      sessions.map fun session =>
        (HookQueue.spread routing.post {} session.events, session.clearQueues) := by
    rw [List.map_map]
    rfl
  obtain ⟨grouping, gathered, listed⟩ := gather_goes registry assets ε taken
  refine gathered.opening ?_
  by_cases none : namedHooks routing.post sessions = []
  · have empty : grouping.isEmpty = true := by
      rw [← Std.ExtTreeMap.isEmpty_toList, listed, none]
      rfl
    rw [if_pos empty, if_pos none, none]
    exact .pure _ _
  · have present : grouping.isEmpty = false := by
      rw [← Std.ExtTreeMap.isEmpty_toList, listed]
      simpa using none
    rw [present, if_neg Bool.false_ne_true, if_neg none, listed]
    have ready : ∀ hook ∈ namedHooks routing.post sessions, registry.Ready assets hook :=
      fun _ named => routes.ready_post named
    have attempts :=
      attempts_goes (deferredEntries routing.post sessions Session.clearQueues) ready {}
    exact (attempts.transaction.beside _).ending (.pure _ _)

end Batch

-- The steps of a batch whose hooks are applied before the commit and after it. Where there are
-- none for the time after it, no second transaction is begun.
def Routing.steps (routing : Routing) (sessions : List Session) (pre post : List HookId) :
    List Step :=
  (.begun :: ((sessions.flatMap (·.events)).map .handled ++
    pre.map fun hook =>
      .applied hook (deferredEntries routing.pre sessions (Session.awaiting routing) hook)) ++
    [.committed]) ++
  if post = [] then []
  else .begun :: (post.map fun hook =>
    .applied hook (deferredEntries routing.post sessions Session.clearQueues hook)) ++ [.committed]

namespace Batch

open Registry

variable {registry : Registry} {assets : Assets} {routing : Routing} {sessions : List Session}

theorem validate_routes (routes : registry.Routes assets routing)
    (own : ∀ session ∈ sessions, session.orgId = assets.orgId) :
    validate registry assets sessions = .ok () := by
  rw [validate_ok_iff]
  intro session member
  refine ⟨own session member, ?_⟩
  intro event _
  obtain ⟨run, found, _⟩ := routes.handlers event.type
  exact ⟨run, by simp [lookup, found]⟩

theorem process_goes (routes : registry.Routes assets routing) (present : sessions ≠ [])
    (own : ∀ session ∈ sessions, session.orgId = assets.orgId) :
    registry.Goes assets (process registry assets) sessions
      (routing.steps sessions (namedHooks routing.pre sessions) (namedHooks routing.post sessions))
      { sessions := sessions.length
        eventsDispatched := (sessions.map (·.events.length)).foldr (· + ·) 0
        hooksApplied := namedHooks routing.pre sessions
        postCommitApplied := namedHooks routing.post sessions }
      (sessions.map Session.clearQueues) := by
  have filled : sessions.isEmpty = false := by simpa using present
  refine .peek fun w => .noting ?_
  dsimp only
  rw [filled, if_neg Bool.false_ne_true]
  refine .given (validate_routes routes own) ?_
  have cleared : registry.Goes assets (clearQueues : Work (List Session) BatchError Unit) sessions
      [] () (sessions.map Session.clearQueues) := .turn (List.map Session.clearQueues) sessions
  refine cleared.opening (.ensureActive ?_)
  refine ((body_goes routes sessions).transaction.catching).bind (.noting ?_)
  exact (postCommit_goes routes sessions).ending (.pure _ _)

theorem validate_mixed (routes : registry.Routes assets routing)
    (mixed : ¬ ∀ session ∈ sessions, session.orgId = assets.orgId) :
    ∃ found, validate registry assets sessions = .error (.mixedOrgs assets.orgId found) := by
  cases verdict : validate registry assets sessions with
  | ok =>
    have own := validate_ok_iff.1 verdict
    exact absurd (fun session member => (own session member).1) mixed
  | error e =>
    obtain ⟨session, _, problem⟩ := checks_error verdict
    split at problem
    · cases problem
      exact ⟨session.orgId, rfl⟩
    · obtain ⟨event, _, problem⟩ := checks_error problem
      obtain ⟨run, found, _⟩ := routes.handlers event.type
      simp [lookup, found] at problem
      cases problem

-- Every hook that an event is deferred under is applied once, in the order of hooks, and gets for
-- each session just the events that are deferred under it there.
structure AppliedOnce (registry : Registry) (assets : Assets) (routing : Routing)
    (s t : Scene (List Session)) (outcome : Outcome) : Prop where
  sessions : outcome.sessions = s.subject.length
  events : outcome.eventsDispatched = (s.subject.map (·.events.length)).foldr (· + ·) 0
  ordered : outcome.hooksApplied.Pairwise (compare · · = .lt)
  named : ∀ hook, hook ∈ outcome.hooksApplied ↔
    ∃ session ∈ s.subject, ∃ event ∈ session.events, hook ∈ routing.pre event.type
  orderedPost : outcome.postCommitApplied.Pairwise (compare · · = .lt)
  namedPost : ∀ hook, hook ∈ outcome.postCommitApplied ↔
    ∃ session ∈ s.subject, ∃ event ∈ session.events, hook ∈ routing.post event.type
  failures : outcome.postCommitFailures = []
  took : registry.Took assets
    (if s.subject = [] then []
      else routing.steps s.subject outcome.hooksApplied outcome.postCommitApplied)
    s.world t.world
  left : t.subject = s.subject.map Session.clearQueues

-- A batch whose events are all deferred, in an available world: it succeeds unless a session is of
-- another org, and then it has applied every hook once.
theorem process_applies_once (routes : registry.Routes assets routing)
    {s : Scene (List Session)} (available : s.world.Available) :
    ((∀ session ∈ s.subject, session.orgId = assets.orgId) →
        ∃ outcome t, process registry assets s = (.ok outcome, t) ∧
          AppliedOnce registry assets routing s t outcome) ∧
      ((∃ session ∈ s.subject, session.orgId ≠ assets.orgId) →
        ∃ found, process registry assets s =
          (.error (.mixedOrgs assets.orgId found), started assets s)) := by
  constructor
  · intro own
    by_cases present : s.subject = []
    · obtain ⟨_, w⟩ := s
      cases present
      have idle : w.Idle (started assets ⟨[], w⟩).world := ⟨rfl, rfl, rfl⟩
      exact ⟨{}, started assets ⟨[], w⟩, rfl, rfl, rfl, .nil, by simp, .nil, by simp, rfl,
        .rest idle, rfl⟩
    · obtain ⟨u, ran, took, _⟩ := process_goes routes present own s.world available
      refine ⟨_, _, ran, rfl, rfl, namedHooks_ordered, fun _ => mem_namedHooks,
        namedHooks_ordered, fun _ => mem_namedHooks, rfl, ?_, rfl⟩
      rw [if_neg present]
      exact took
  · rintro ⟨session, member, other⟩
    have present : s.subject ≠ [] := List.ne_nil_of_mem member
    obtain ⟨found, refused⟩ := validate_mixed routes fun own => other (own session member)
    refine ⟨found, ?_⟩
    rw [process_run present, refused]

end Batch
namespace Rehearsal

def deferring (routing : Routing) : Registry where
  handler? type :=
    some (handler ((routing.pre type).map .defer ++ (routing.post type).map .deferPost))
  hook? id := some (hook id [])

variable {assets : Assets} {routing : Routing}

theorem forM_defer (hooks : List HookId) (event : Event) (s : Scene Session) :
    (hooks.map Act.defer).forM (Act.onEvent event) s =
      (.ok (), { s with subject :=
        { s.subject with preCommit := s.subject.preCommit.deferAll hooks event } }) := by
  induction hooks generalizing s with
  | nil => rfl
  | cons hook rest ih => exact ih { s with subject := s.subject.deferPre hook event }

theorem forM_deferPost (hooks : List HookId) (event : Event) (s : Scene Session) :
    (hooks.map Act.deferPost).forM (Act.onEvent event) s =
      (.ok (), { s with subject :=
        { s.subject with postCommit := s.subject.postCommit.deferAll hooks event } }) := by
  induction hooks generalizing s with
  | nil => rfl
  | cons hook rest ih => exact ih { s with subject := s.subject.deferPost hook event }

theorem handler_run (event : Event) (s : Scene Session) :
    handler ((routing.pre event.type).map .defer ++ (routing.post event.type).map .deferPost)
        assets event s =
      (.ok (), { s with subject := s.subject.route routing event }) := by
  unfold handler
  rw [List.forM_eq_forM, List.forM_append, Work.bind_run, ← List.forM_eq_forM, forM_defer]
  exact forM_deferPost _ _ _

theorem hook_run (id : HookId) (entries : List SessionEvents) (s : Scene Unit) :
    hook id [] assets entries s = (.ok (), s.did (.hookCalled id entries)) := rfl

theorem deferring_routes (assets : Assets) (routing : Routing) :
    (deferring routing).Routes assets routing := by
  constructor
  · intro type
    refine ⟨_, rfl, ?_⟩
    rintro event rfl session w available
    exact ⟨w, handler_run event ⟨session, w⟩, available⟩
  · intro type id _
    refine ⟨_, rfl, ?_⟩
    intro entries w available
    exact ⟨w.did (.hookCalled id entries), hook_run id entries ⟨(), w⟩, available.did _⟩

end Rehearsal

namespace Sample

def repeating : Routing where
  pre
    | .contactNameChanged => [.commitGroupChanges, .commitNameChanges, .commitGroupChanges]
    | .msgCreated => [.commitMessages]
    | _ => []
  post
    | .msgCreated => [.queueMessages, .commitNameChanges]
    | _ => []

def talkative : List Session :=
  [turn ⟨1⟩ [.contactNameChanged "Ann", .msgCreated ⟨⟨21⟩, none, "first"⟩,
      .contactNameChanged "Bea"],
    turn ⟨2⟩ [.error "no such flow"], turn ⟨1⟩ [.msgCreated ⟨⟨22⟩, none, "second"⟩]]

theorem scene_available (turns : List Session) : (scene turns).world.Available := by
  refine ⟨⟨rfl, rfl, fun _ none => ?_, fun _ none => ?_⟩, rfl, fun _ none => ?_⟩ <;> cases none

end Sample

theorem process_applies_once_repeating :
    (Rehearsal.deferring Sample.repeating).Routes Sample.assets Sample.repeating ∧
      (Sample.scene Sample.talkative).world.Available ∧
      ∃ outcome t,
        Batch.process (Rehearsal.deferring Sample.repeating) Sample.assets
            (Sample.scene Sample.talkative) = (.ok outcome, t) ∧
          Batch.AppliedOnce (Rehearsal.deferring Sample.repeating) Sample.assets Sample.repeating
            (Sample.scene Sample.talkative) t outcome := by
  have routes := Rehearsal.deferring_routes Sample.assets Sample.repeating
  have available := Sample.scene_available Sample.talkative
  have own : ∀ session ∈ Sample.talkative, session.orgId = Sample.assets.orgId := by decide
  exact ⟨routes, available, (Batch.process_applies_once routes available).1 own⟩

end SessionBatch

import SessionBatch.Proofs.Accounting
import SessionBatch.Proofs.Grouping
import SessionBatch.Proofs.Interruption

namespace SessionBatch

namespace World

variable {w u v : World}

def Rests (w u : World) : Prop := ∃ clock log, u = { w with clock, log }

theorem Rests.refl (w : World) : w.Rests w := ⟨w.clock, w.log, rfl⟩

theorem rests_note (level : Level) (text : String) (w : World) : w.Rests (w.note level text) :=
  ⟨w.clock, _, rfl⟩

theorem Rests.trans (first : w.Rests u) (later : u.Rests v) : w.Rests v := by
  obtain ⟨_, _, rfl⟩ := first
  obtain ⟨clock, log, rfl⟩ := later
  exact ⟨clock, log, rfl⟩

theorem rests_look (live : w.look.1 = false) : w.Rests w.look.2 := by
  unfold look at live ⊢
  cases cancels : w.clock.nextInterval.cancels with
  | true =>
    simp only [cancels, if_true] at live
    cases live
  | false => exact ⟨_, _, rfl⟩

end World

-- What the sessions hold for the hooks before the commit, in the order of hooks. An entry is a
-- session with its events; it no longer holds them in its queue.
def deferred (sessions : List Session) : List (HookId × List SessionEvents) :=
  (HookId.all.map fun id => (id, (sessions.map fun session =>
    ⟨session.takePre.2, session.preCommit[id]?.getD []⟩).filter (·.events ≠ []))).filter
      (·.2 ≠ [])

theorem deferred_eq (sessions : List Session) :
    (Grouping.ofQueues ((sessions.map Session.takePre).map Prod.snd)
      ((sessions.map Session.takePre).map Prod.fst)).toList = deferred sessions := by
  rw [Grouping.toList_ofQueues, List.zip_map']
  unfold Grouping.entries deferred
  simp only [List.map_map]
  rfl

theorem deferred_ordered (sessions : List Session) :
    (deferred sessions).Pairwise (compare ·.1 ·.1 = .lt) := by
  unfold deferred
  refine List.Pairwise.filter _ ?_
  rw [List.pairwise_map]
  exact HookId.all_ordered

namespace Batch

variable (registry : Registry) (assets : Assets)

-- Handlers are called for the events of a session one after the other, each where the one before
-- it left session and world. The first that fails is the last.
inductive Handling : List Event → Scene Session → Except BatchError Unit → Scene Session → Prop
  | done (s : Scene Session) : Handling [] s (.ok ()) s
  | next {event : Event} {rest : List Event} {s t v : Scene Session} {w : World} {run : Handler}
      {result : Except BatchError Unit} (found : registry.handler? event.type = some run)
      (rests : s.world.Rests w) (ran : run assets event ⟨s.subject, w⟩ = (.ok (), t))
      (later : Handling rest t result v) : Handling (event :: rest) s result v
  | failed {event : Event} {rest : List Event} {s t : Scene Session} {w : World} {run : Handler}
      {cause : EffectError} (found : registry.handler? event.type = some run)
      (rests : s.world.Rests w) (ran : run assets event ⟨s.subject, w⟩ = (.error cause, t)) :
      Handling (event :: rest) s (.error (.handler event.type s.subject.id cause)) t

-- Sessions take their turns with the events they hold at the start. Those after a failure stay as
-- they are.
inductive Dispatching :
    List Session → World → Except BatchError Unit → List Session → World → Prop
  | done (w : World) : Dispatching [] w (.ok ()) [] w
  | next {session : Session} {rest left : List Session} {w u v : World} {t : Scene Session}
      {result : Except BatchError Unit} (rests : w.Rests u)
      (handled : Handling registry assets session.events ⟨session, u⟩ (.ok ()) t)
      (later : Dispatching rest t.world result left v) :
      Dispatching (session :: rest) w result (t.subject :: left) v
  | failed {session : Session} {rest : List Session} {w u : World} {t : Scene Session}
      {e : BatchError} (rests : w.Rests u)
      (handled : Handling registry assets session.events ⟨session, u⟩ (.error e) t) :
      Dispatching (session :: rest) w (.error e) (t.subject :: rest) t.world

inductive Applying :
    List (HookId × List SessionEvents) → World → Except BatchError Unit → World → Prop
  | done (w : World) : Applying [] w (.ok ()) w
  | next {id : HookId} {entries : List SessionEvents} {rows : List (HookId × List SessionEvents)}
      {action : HookAction} {w u v : World} {t : Scene Unit} {result : Except BatchError Unit}
      (found : registry.hook? id = some action) (rests : w.Rests u)
      (ran : action assets entries ⟨(), u⟩ = (.ok (), t))
      (later : Applying rows t.world result v) : Applying ((id, entries) :: rows) w result v
  | failed {id : HookId} {entries : List SessionEvents} {rows : List (HookId × List SessionEvents)}
      {action : HookAction} {w u : World} {t : Scene Unit} {cause : EffectError}
      (found : registry.hook? id = some action) (rests : w.Rests u)
      (ran : action assets entries ⟨(), u⟩ = (.error cause, t)) :
      Applying ((id, entries) :: rows) w (.error (.hook id cause)) t.world

inductive Executes (sessions : List Session) (w : World) :
    Except BatchError (Nat × List HookId) → List Session → World → Prop
  | handler {e : BatchError} {left : List Session} {v : World}
      (dispatched : Dispatching registry assets sessions w (.error e) left v) :
      Executes sessions w (.error e) left v
  | unresolved {held : List Session} {u v : World} {id : HookId}
      (dispatched : Dispatching registry assets sessions w (.ok ()) held u) (rests : u.Rests v)
      (due : id ∈ (deferred held).map Prod.fst) (missing : registry.hook? id = none)
      (least : ∀ other ∈ (deferred held).map Prod.fst, registry.hook? other = none →
        other = id ∨ compare id other = .lt) :
      Executes sessions w (.error (.missingHook id)) (held.map (·.takePre.2)) v
  | hook {held : List Session} {u u' v : World} {e : BatchError}
      (dispatched : Dispatching registry assets sessions w (.ok ()) held u)
      (resolved : ∀ id ∈ (deferred held).map Prod.fst, (registry.hook? id).isSome)
      (rests : u.Rests u') (applied : Applying registry assets (deferred held) u' (.error e) v) :
      Executes sessions w (.error e) (held.map (·.takePre.2)) v
  | completed {held : List Session} {u u' v v' : World}
      (dispatched : Dispatching registry assets sessions w (.ok ()) held u)
      (resolved : ∀ id ∈ (deferred held).map Prod.fst, (registry.hook? id).isSome)
      (rests : u.Rests u') (applied : Applying registry assets (deferred held) u' (.ok ()) v)
      (rests' : v.Rests v') :
      Executes sessions w
        (.ok ((sessions.map (·.events.length)).foldr (· + ·) 0, (deferred held).map Prod.fst))
        (held.map (·.takePre.2)) v'

variable {registry assets}

def Uncancelled {α : Type} (result : Except BatchError α) : Prop :=
  ∀ phase, result ≠ .error (.cancelled phase)

theorem Uncancelled.ok {α : Type} {a : α} : Uncancelled (.ok a) := by
  intro phase failed
  cases failed

theorem Uncancelled.error {α β : Type} {e : BatchError}
    (active : Uncancelled (.error e : Except BatchError α)) :
    Uncancelled (.error e : Except BatchError β) := by
  intro phase failed
  cases failed
  exact active phase rfl

theorem dispatch_handled {event : Event} {run : Handler}
    (found : registry.handler? event.type = some run) (assets : Assets) (s : Scene Session) :
    ∃ w, s.world.Rests w ∧ dispatch registry assets event s =
      ((run assets event ⟨s.subject, w⟩).1.mapError (.handler event.type s.subject.id),
        (run assets event ⟨s.subject, w⟩).2) := by
  refine ⟨_, World.rests_note .trace ("dispatch session_id=" ++ s.subject.id.text ++
    " event_type=" ++ event.type.name ++ " event_uuid=" ++ event.uuid.text) s.world, ?_⟩
  unfold dispatch Registry.lookup
  rw [found]
  rfl

theorem handling_of_run {events : List Event} {s t : Scene Session}
    {result : Except BatchError Unit}
    (handled : ∀ event ∈ events, (registry.handler? event.type).isSome)
    (ran : events.forM (dispatch registry assets) s = (result, t)) :
    Handling registry assets events s result t := by
  induction events generalizing s with
  | nil =>
    cases ran
    exact .done _
  | cons event rest ih =>
    obtain ⟨run, found⟩ := Option.isSome_iff_exists.1 (handled event (by simp))
    obtain ⟨w, rests, first⟩ := dispatch_handled found assets s
    change (dispatch registry assets event >>= fun _ => rest.forM (dispatch registry assets)) s =
      (result, t) at ran
    rw [Work.bind_run, first] at ran
    rcases called : run assets event ⟨s.subject, w⟩ with ⟨cause | _, u⟩ <;> rw [called] at ran
    · cases ran
      exact .failed found rests called
    · exact .next found rests called (ih (fun other listed => handled other (by simp [listed])) ran)

theorem dispatching_of_run {sessions : List Session} {w : World} {t : Scene (List Session)}
    {result : Except BatchError (List Nat)}
    (handled : ∀ session ∈ sessions, ∀ event ∈ session.events,
      (registry.handler? event.type).isSome)
    (ran : Work.each (dispatchSession registry assets) ⟨sessions, w⟩ = (result, t))
    (active : Uncancelled result) :
    Dispatching registry assets sessions w (result.map fun _ => ()) t.subject t.world ∧
      ∀ counts, result = .ok counts → counts = sessions.map (·.events.length) := by
  induction sessions generalizing w t result with
  | nil =>
    cases ran
    exact ⟨.done w, fun counts same => by cases same; rfl⟩
  | cons session rest ih =>
    rw [Work.each_cons, dispatchSession_run] at ran
    cases seen : w.look.1 with
    | true =>
      rw [seen] at ran
      cases ran
      exact absurd rfl (active .dispatching)
    | false =>
      rw [seen, if_neg Bool.false_ne_true] at ran
      have rests := World.rests_look seen
      have mine := handled session (by simp)
      rcases events : session.events.forM (dispatch registry assets) ⟨session, w.look.2⟩ with
        ⟨e | _, u⟩ <;> rw [events] at ran
      · cases ran
        exact ⟨.failed rests (handling_of_run mine events), nofun⟩
      · dsimp only at ran
        rcases others : Work.each (dispatchSession registry assets) ⟨rest, u.world⟩ with
          ⟨later, v⟩
        rw [others] at ran
        cases ran
        have first := handling_of_run mine events
        have rest := ih (fun other listed => handled other (by simp [listed])) others
        cases later with
        | error e => exact ⟨.next rests first (rest active.error).1, nofun⟩
        | ok counts =>
          obtain ⟨dispatched, counted⟩ := rest .ok
          refine ⟨.next rests first dispatched, fun all same => ?_⟩
          cases same
          rw [List.map_cons, ← counted counts rfl]

theorem applyRow_live (assets : Assets) {u : Scene (List Session)} (live : u.world.look.1 = false)
    (row : HookId × HookAction × List SessionEvents) :
    ∃ w, u.world.Rests w ∧ applyRow assets row u =
      ((row.2.1 assets row.2.2 ⟨(), w⟩).1.mapError (.hook row.1),
        ⟨u.subject, (row.2.1 assets row.2.2 ⟨(), w⟩).2.world⟩) := by
  refine ⟨_, (World.rests_look live).trans (World.rests_note .debug
    ("apply_hook:start hook=" ++ row.1.name ++ " sessions=" ++ toString row.2.2.length) _), ?_⟩
  unfold applyRow applyHook runHook
  simp only [Work.bind_run, Work.ensureActive_run, live, Bool.false_eq_true, if_false,
    Work.note_run, Work.beside_run, Work.ofExcept_run]
  rfl

theorem applying_of_run {rows : List (HookId × HookAction × List SessionEvents)}
    {u v : Scene (List Session)} {result : Except BatchError Unit}
    (found : ∀ row ∈ rows, registry.hook? row.1 = some row.2.1)
    (ran : rows.forM (applyRow assets) u = (result, v))
    (active : Uncancelled result) :
    Applying registry assets (rows.map fun row => (row.1, row.2.2)) u.world result v.world ∧
      v.subject = u.subject := by
  induction rows generalizing u with
  | nil =>
    cases ran
    exact ⟨.done _, rfl⟩
  | cons row rest ih =>
    change (applyRow assets row >>= fun _ => rest.forM (applyRow assets)) u = (result, v) at ran
    rw [Work.bind_run] at ran
    cases seen : u.world.look.1 with
    | true =>
      rw [applyRow_seen seen] at ran
      cases ran
      exact absurd rfl (active .committing)
    | false =>
      have mine := found row (by simp)
      obtain ⟨w, rests, first⟩ := applyRow_live assets seen row
      rw [first] at ran
      rcases called : row.2.1 assets row.2.2 ⟨(), w⟩ with ⟨cause | _, t⟩ <;> rw [called] at ran
      · cases ran
        exact ⟨.failed mine rests called, rfl⟩
      · obtain ⟨later, same⟩ := ih (fun other listed => found other (by simp [listed])) ran
        exact ⟨.next mine rests called later, same⟩

theorem lookupHook_ok {id : HookId} {action : HookAction} :
    registry.lookupHook id = .ok action ↔ registry.hook? id = some action := by
  unfold Registry.lookupHook
  cases registry.hook? id <;> simp

theorem resolve_rows {grouping : Grouping} {rows : List (HookId × HookAction × List SessionEvents)}
    (found : resolve registry grouping = .ok rows) :
    rows.map (fun row => (row.1, row.2.2)) = grouping.toList := by
  refine readings_back (fun item value read => ?_) found
  cases known : registry.lookupHook item.1 with
  | error e =>
    simp only [known] at read
    cases read
  | ok action =>
    simp only [known] at read
    cases read
    rfl

theorem resolve_first {sessions : List Session} {grouping : Grouping} {e : BatchError}
    (rows : grouping.toList = deferred sessions) (missed : resolve registry grouping = .error e) :
    ∃ id, e = .missingHook id ∧ id ∈ (deferred sessions).map Prod.fst ∧
      registry.hook? id = none ∧ ∀ other ∈ (deferred sessions).map Prod.fst,
        registry.hook? other = none → other = id ∨ compare id other = .lt := by
  obtain ⟨before, ⟨id, entries⟩, after, split, passed, problem⟩ := readings_error_split missed
  have ordered := deferred_ordered sessions
  rw [rows] at split
  rw [split] at ordered ⊢
  obtain ⟨_, later, _⟩ := List.pairwise_append.1 ordered
  unfold Registry.lookupHook at problem
  cases known : registry.hook? id with
  | some action =>
    simp only [known] at problem
    cases problem
  | none =>
    simp only [known] at problem
    cases problem
    refine ⟨id, rfl, by simp, known, fun other listed absent => ?_⟩
    obtain ⟨row, member, rfl⟩ := List.mem_map.1 listed
    rcases List.mem_append.1 member with earlier | member
    · obtain ⟨value, read⟩ := passed row earlier
      simp only [Registry.lookupHook, absent] at read
      cases read
    · rcases List.mem_cons.1 member with rfl | member
      · exact .inl rfl
      · exact .inr ((List.pairwise_cons.1 later).1 row member)

theorem collected_subject (u : Scene (List Session)) :
    (collected u).2.subject = u.subject.map (·.takePre.2) := by
  unfold collected
  simp [Scene.note]

theorem rests_collected (u : Scene (List Session)) : u.world.Rests (collected u).2.world :=
  (World.rests_note _ _ u.world).trans (World.rests_note _ _ _)

theorem resolve_deferred {u : Scene (List Session)}
    {rows : List (HookId × HookAction × List SessionEvents)}
    (found : resolve registry (collected u).1 = .ok rows) :
    rows.map (fun row => (row.1, row.2.2)) = deferred u.subject :=
  (resolve_rows found).trans (deferred_eq u.subject)

theorem executes_of_resolved {sessions : List Session} {w : World} {u v : Scene (List Session)}
    {rows : List (HookId × HookAction × List SessionEvents)} {outcome : Except BatchError Unit}
    (dispatched : Dispatching registry assets sessions w (.ok ()) u.subject u.world)
    (found : resolve registry (collected u).1 = .ok rows)
    (applied : rows.forM (applyRow assets) (collected u).2 = (outcome, v))
    (active : Uncancelled outcome) :
    (∀ e, outcome = .error e →
      Executes registry assets sessions w (.error e) v.subject v.world) ∧
    (outcome = .ok () → v.world.look.1 = false → Executes registry assets sessions w
      (.ok ((sessions.map (·.events.length)).foldr (· + ·) 0, rows.map Prod.fst)) v.subject
      v.world.look.2) := by
  have back := resolve_deferred found
  have hooks : rows.map Prod.fst = (deferred u.subject).map Prod.fst := by
    rw [← back, List.map_map]
    rfl
  have known : ∀ row ∈ rows, registry.hook? row.1 = some row.2.1 := fun row listed =>
    lookupHook_ok.1 (resolve_found found row listed)
  have all : ∀ id ∈ (deferred u.subject).map Prod.fst, (registry.hook? id).isSome := by
    intro id due
    rw [← hooks] at due
    obtain ⟨row, listed, rfl⟩ := List.mem_map.1 due
    simp [known row listed]
  obtain ⟨applying, same⟩ := applying_of_run known applied active
  rw [back] at applying
  rw [same, collected_subject, hooks]
  constructor
  · intro e failed
    rw [failed] at applying
    exact .hook dispatched all (rests_collected u) applying
  · intro done live
    rw [done] at applying
    exact .completed dispatched all (rests_collected u) applying (World.rests_look live)

theorem body_executes {s t : Scene (List Session)} {result : Except BatchError (Nat × List HookId)}
    (handled : ∀ session ∈ s.subject, ∀ event ∈ session.events,
      (registry.handler? event.type).isSome)
    (ran : body registry assets s = (result, t)) (active : Uncancelled result) :
    Executes registry assets s.subject s.world result t.subject t.world := by
  rw [body_run, dispatchAll_run] at ran
  rcases each : Work.each (dispatchSession registry assets) s with ⟨e | counts, u⟩ <;>
    rw [each] at ran
  · cases ran
    exact .handler (dispatching_of_run handled each active.error).1
  · obtain ⟨dispatched, counted⟩ := dispatching_of_run handled each .ok
    cases counted counts rfl
    dsimp only [Except.map] at ran
    cases found : resolve registry (collected u).1 with
    | error e =>
      rw [found] at ran
      cases ran
      obtain ⟨id, rfl, due, missing, least⟩ := resolve_first (deferred_eq u.subject) found
      rw [collected_subject]
      exact .unresolved dispatched (rests_collected u) due missing least
    | ok rows =>
      rw [found] at ran
      dsimp only at ran
      rcases applied : rows.forM (applyRow assets) (collected u).2 with ⟨e | _, v⟩ <;>
        rw [applied] at ran
      · cases ran
        exact (executes_of_resolved dispatched found applied active.error).1 e rfl
      · have completes := (executes_of_resolved dispatched found applied .ok).2 rfl
        cases seen : v.world.look.1 with
        | true =>
          simp only [seen] at ran
          cases ran
          exact absurd rfl (active .committing)
        | false =>
          simp only [seen] at ran
          cases ran
          exact completes seen

variable {s : Scene (List Session)}

theorem begins_of_committed (live : (started assets s).world.look.1 = false)
    (fate : s.world.fate = .committed) : Begins assets s := by
  obtain ⟨admitted, present, _⟩ := World.fate_eq_committed.1 fate
  exact ⟨live, admitted, present⟩

theorem handled_clearQueues (valid : validate registry assets s.subject = .ok ()) :
    ∀ session ∈ s.subject.map Session.clearQueues, ∀ event ∈ session.events,
      (registry.handler? event.type).isSome := by
  intro session listed event held
  obtain ⟨origin, member, rfl⟩ := List.mem_map.1 listed
  obtain ⟨run, found⟩ := (validate_ok_iff.1 valid origin member).2 event held
  unfold Registry.lookup at found
  cases known : registry.handler? event.type with
  | none =>
    rw [known] at found
    cases found
  | some run => rfl

theorem process_completes (present : s.subject ≠ [])
    (valid : validate registry assets s.subject = .ok ()) (begins : Begins assets s)
    (fate : s.world.fate = .committed) {events : Nat} {hooks : List HookId}
    {t : Scene (List Session)}
    (done : body registry assets (begun assets s) = (.ok (events, hooks), t)) :
    ∃ outcome u, process registry assets s = (.ok outcome, u) ∧
      outcome.eventsDispatched = events ∧ outcome.hooksApplied = hooks := by
  obtain ⟨world, ran⟩ := Work.transaction_fate (s := opened assets s) done
  have same : (opened assets s).world.fate = .committed := fate
  rw [same] at ran
  obtain ⟨after, u, closed⟩ := @postCommit_ok registry assets BatchError
    ((⟨t.subject, world⟩ : Scene _).note .info (committedLine assets events hooks))
  refine ⟨{ sessions := s.subject.length, eventsDispatched := events, hooksApplied := hooks,
            postCommitApplied := after.applied, postCommitFailures := after.failures },
    u, ?_, rfl, rfl⟩
  rw [process_run present, valid]
  dsimp only
  rw [begins.live, if_neg Bool.false_ne_true, commit_run, ran]
  dsimp only
  rw [closed]

-- Of a valid batch whose context stays active, on a backend that is there, the result tells what
-- has happened: the failure of the last handler that was called, the first hook that is missing,
-- the failure of the last hook that was called, or the number of its events.
theorem process_executes (valid : validate registry assets s.subject = .ok ())
    (fate : s.world.fate = .committed)
    (unseen : ∀ stop v, Passes registry assets s (some stop) v → v.world.look.1 = false) :
    ∃ result left v, Executes registry assets (s.subject.map Session.clearQueues)
        (begun assets s).world result left v ∧
      (s.subject ≠ [] → body registry assets (begun assets s) = (result, ⟨left, v⟩)) ∧
      (∀ e, result = .error e → process registry assets s =
        (.error e, withdrawn assets e
          (({ subject := left, world := { v with store := s.world.store } : Scene _ }.note .debug
            ("memory_tx:rollback err=" ++ e.message)).did .rolledBack))) ∧
      ∀ events hooks, result = .ok (events, hooks) →
        events = (s.subject.map (·.events.length)).foldr (· + ·) 0 ∧
        ∃ outcome t, process registry assets s = (.ok outcome, t) ∧
          outcome.eventsDispatched = events ∧ outcome.hooksApplied = hooks := by
  by_cases present : s.subject = []
  · obtain ⟨_, w⟩ := s
    cases present
    refine ⟨.ok (0, []), [], (begun assets ⟨[], w⟩).world, ?_, fun filled => absurd rfl filled,
      nofun, fun events hooks same => ?_⟩
    · have none : deferred [] = [] := rfl
      exact .completed (.done _) (by simp [none]) (.refl _) (.done _) (.refl _)
    · cases same
      exact ⟨rfl, _, _, rfl, rfl, rfl⟩
  · have live : (started assets s).world.look.1 = false := unseen .entry (cleared assets s) .entry
    have begins := begins_of_committed live fate
    rcases ran : body registry assets (begun assets s) with ⟨result, left, v⟩
    have active : Uncancelled result := by
      intro phase cancelled
      rw [cancelled] at ran
      obtain ⟨stop, u, passes, seen⟩ := body_cancelled begins ran
      rw [unseen stop u passes] at seen
      cases seen
    have executes := body_executes (handled_clearQueues valid) ran active
    refine ⟨result, left, v, executes, fun _ => rfl, fun e failed => ?_,
      fun events hooks done => ?_⟩
    · rw [failed] at ran
      exact process_ends present valid begins ran
    · rw [done] at ran executes
      refine ⟨?_, process_completes present valid begins fate ran⟩
      cases executes
      change ((s.subject.map Session.clearQueues).map _).foldr _ 0 = _
      rw [List.map_map]
      rfl

end Batch

namespace Sample

def unready : Registry where
  handler?
    | .msgCreated => some (Rehearsal.handler [.defer .commitMessages])
    | .contactNameChanged => some (Rehearsal.handler [.defer .commitNameChanges])
    | _ => none
  hook?
    | .commitMessages => some (Rehearsal.hook .commitMessages [.fail (.invalid "no room")])
    | _ => none

end Sample

theorem process_executes_unready :
    Batch.validate Sample.unready Sample.assets Sample.sendingOn.subject = .ok () ∧
      Sample.sendingOn.world.fate = .committed ∧
      (∃ left v, Batch.Executes Sample.unready Sample.assets
        (Sample.sendingOn.subject.map Session.clearQueues)
        (Batch.begun Sample.assets Sample.sendingOn).world
        (.error (.hook .commitMessages (.invalid "no room"))) left v) ∧
      (Batch.process Sample.unready Sample.assets Sample.sendingOn).1 =
        .error (.hook .commitMessages (.invalid "no room")) := by
  have valid : Batch.validate Sample.unready Sample.assets Sample.sendingOn.subject = .ok () := by
    rfl
  have fate : Sample.sendingOn.world.fate = .committed := by rfl
  have present : Sample.sendingOn.subject ≠ [] := by decide
  have ended : (Batch.process Sample.unready Sample.assets Sample.sendingOn).1 =
      .error (.hook .commitMessages (.invalid "no room")) := by decide +kernel
  obtain ⟨result, left, v, executes, _, failed, completed⟩ := Batch.process_executes valid fate
    fun stop v passes => by
      rw [← Bool.not_eq_true]
      intro seen
      rw [Batch.passes_seen present valid passes seen] at ended
      cases ended
  refine ⟨valid, fate, ?_, ended⟩
  rcases result with e | ⟨events, hooks⟩
  · rw [failed e rfl] at ended
    cases ended
    exact ⟨left, v, executes⟩
  · obtain ⟨_, outcome, t, done, _⟩ := completed events hooks rfl
    rw [done] at ended
    cases ended

end SessionBatch

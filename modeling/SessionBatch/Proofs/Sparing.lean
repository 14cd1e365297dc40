import SessionBatch.Proofs.Checks
import SessionBatch.Proofs.Course
import SessionBatch.Rehearsal

namespace SessionBatch

variable {σ τ ε δ α β κ κ' : Type}

def Clock.spared (clock : Clock) : Clock :=
  ⟨clock.now, clock.ahead.map fun interval => { interval with cancels := false }⟩

def World.spared (w : World) : World := { w with context := {}, clock := w.clock.spared }

def Scene.spared (s : Scene σ) : Scene σ := ⟨s.subject, s.world.spared⟩

theorem Clock.spared_spared (clock : Clock) : clock.spared.spared = clock.spared := by
  unfold spared
  rw [List.map_map]
  rfl

theorem Scene.spared_spared (s : Scene σ) : s.spared.spared = s.spared := by
  unfold Scene.spared World.spared
  dsimp only
  rw [Clock.spared_spared]

theorem Clock.advance_spared (clock : Clock) :
    clock.spared.nextInterval.cancels = false ∧ clock.spared.advance = clock.advance.spared := by
  obtain ⟨now, _ | ⟨interval, rest⟩⟩ := clock <;> exact ⟨rfl, rfl⟩

theorem World.look_spared (w : World) : w.spared.look = (false, w.look.2.spared) := by
  obtain ⟨calm, later⟩ := w.clock.advance_spared
  unfold look
  have clock : w.spared.clock = w.clock.spared := rfl
  dsimp only
  rw [clock, calm, if_neg Bool.false_ne_true, later]
  rfl

theorem World.meet_spared (w : World) : w.spared.meet = (w.meet.1, w.meet.2.spared) := rfl

namespace Work

theorem transaction_barred {body : Work σ BatchError α} {s : Scene σ} {e : StoreError}
    (refused : s.world.meet.1.refused = some e) :
    transaction body s = (.error (.resource e), s.met.did .unavailable) := by
  simp only [transaction, refused]
  rfl

theorem transaction_away {body : Work σ BatchError α} {s : Scene σ} {e : StoreError}
    (admitted : s.world.meet.1.refused = none) (away : s.world.outage = some e) :
    transaction body s = (.error (.resource e), s.met.did .rolledBack) := by
  have away' : s.world.meet.2.outage = some e := away
  simp only [transaction, admitted, away']
  rfl

-- Work that may cancel the context but does not look at it: where only the context and what is
-- going to cancel it differ, it does the same.
structure Discreet (work : Work σ ε α) : Prop where
  blind : ∀ s t, s.spared = t.spared →
    (work s).1 = (work t).1 ∧ (work s).2.spared = (work t).2.spared
  context : ∀ s, (work s).2.world.context = s.world.context ∨
    (work s).2.world.context = s.world.context.cancel
  clock : ∀ s, (work s).2.world.clock = s.world.clock

def sparing (work : Work σ ε α) : Work σ ε α := fun s =>
  let (result, t) := work s
  (result, { t with world := { t.world with context := s.world.context } })

-- Without cancellation the other work goes as this one does, unless this one is done for.
def Echoes (gone : ε → Prop) (work other : Work σ ε α) : Prop :=
  ∀ s, (∃ e, (work s).1 = .error e ∧ gone e) ∨ other s.spared = ((work s).1, (work s).2.spared)

def never (_ : ε) : Prop := False

theorem Discreet.sparing {gone : ε → Prop} {work : Work σ ε α} (discreet : work.Discreet) :
    Echoes gone work work.sparing := by
  intro s
  obtain ⟨result, scene⟩ := discreet.blind s.spared s s.spared_spared
  have clock : (work s.spared).2.world.clock = s.world.clock.spared := discreet.clock s.spared
  have still : (work s.spared).2.world.clock.spared = (work s.spared).2.world.clock := by
    rw [clock, Clock.spared_spared]
  have world : { (work s.spared).2.world with context := {} } = (work s.spared).2.world.spared := by
    unfold World.spared
    rw [still]
  have subject : (work s.spared).2.subject = (work s).2.subject :=
    (congrArg Scene.subject scene :)
  have worlds : (work s.spared).2.world.spared = (work s).2.world.spared :=
    (congrArg Scene.world scene :)
  refine .inr ?_
  change ((work s.spared).1, (⟨(work s.spared).2.subject,
    { (work s.spared).2.world with context := {} }⟩ : Scene σ)) = _
  rw [world, worlds, subject, result]
  rfl

namespace Echoes

variable {gone : ε → Prop}

theorem pure (a : α) : Echoes gone (pure a : Work σ ε α) (pure a) := fun _ => .inr rfl

theorem note (level : Level) (text : String) :
    Echoes gone (Work.note level text : Work σ ε Unit) (Work.note level text) := fun _ => .inr rfl

theorem ofExcept (result : Except ε α) :
    Echoes gone (Work.ofExcept result : Work σ ε α) (Work.ofExcept result) := fun _ => .inr rfl

theorem bind {work other : Work σ ε α} {next next' : α → Work σ ε β}
    (first : Echoes gone work other) (rest : ∀ a, Echoes gone (next a) (next' a)) :
    Echoes gone (work >>= next) (other >>= next') := by
  intro s
  rw [bind_run, bind_run]
  rcases first s with ⟨e, failed, ended⟩ | same
  · rcases ran : work s with ⟨cause | a, t⟩ <;> rw [ran] at failed <;> cases failed
    exact .inl ⟨_, rfl, ended⟩
  · rw [same]
    rcases work s with ⟨e | a, t⟩
    · exact .inr rfl
    · exact rest a t

theorem peek {next next' : Scene σ → Work σ ε α}
    (each : ∀ s, Echoes gone (next s) (next' s.spared)) :
    Echoes gone (get >>= next) (get >>= next') := fun s => each s s

theorem given {result : Except ε κ} {make : κ → κ'} {next : κ → Work σ ε α}
    {next' : κ' → Work σ ε α} (rest : ∀ a, result = .ok a → Echoes gone (next a) (next' (make a))) :
    Echoes gone (Work.ofExcept result >>= next) (Work.ofExcept (result.map make) >>= next') := by
  cases result with
  | error e => exact fun _ => .inr rfl
  | ok a => exact rest a rfl

theorem adapt {wrap : δ → ε} {work other : Work σ δ α} (echoes : Echoes never work other) :
    Echoes gone (ExceptT.adapt wrap work : Work σ ε α) (ExceptT.adapt wrap other) := by
  intro s
  rcases echoes s with ⟨_, _, gone⟩ | same
  · exact gone.elim
  · rw [adapt_run, adapt_run, same]
    exact .inr rfl

theorem beside {subject : τ} {work other : Work τ δ α} (echoes : Echoes never work other) :
    Echoes gone (Work.beside subject work : Work σ ε _) (Work.beside subject other) := by
  intro s
  rcases echoes ⟨subject, s.world⟩ with ⟨_, _, gone⟩ | same
  · exact gone.elim
  · have same' : other ⟨subject, s.spared.world⟩ = _ := same
    rw [beside_run, beside_run, same']
    exact .inr rfl

theorem tryCatch {work other : Work σ ε α} {handle handle' : ε → Work σ ε α}
    (first : Echoes never work other) (rest : ∀ e, Echoes gone (handle e) (handle' e)) :
    Echoes gone (tryCatch work handle) (tryCatch other handle') := by
  intro s
  rw [tryCatch_run, tryCatch_run]
  rcases first s with ⟨_, _, gone⟩ | same
  · exact gone.elim
  · rw [same]
    rcases work s with ⟨e | a, t⟩
    · exact rest e t
    · exact .inr rfl

theorem forM {items : List κ} {make : κ → κ'} {work : κ → Work σ ε PUnit}
    {other : κ' → Work σ ε PUnit}
    (each : ∀ item ∈ items, Echoes gone (work item) (other (make item))) :
    Echoes gone (items.forM work) ((items.map make).forM other) := by
  induction items with
  | nil => exact pure ()
  | cons item rest ih =>
    exact bind (each item (by simp)) fun _ => ih fun i member => each i (by simp [member])

theorem each {work other : Work σ ε α} (one : Echoes gone work other) :
    Echoes gone (Work.each work) (Work.each other) := by
  rintro ⟨subjects, world⟩
  induction subjects generalizing world with
  | nil => exact .inr rfl
  | cons subject rest ih =>
    change _ ∨ Work.each other ⟨subject :: rest, world.spared⟩ = _
    rw [each_cons, each_cons]
    rcases one ⟨subject, world⟩ with ⟨e, failed, ended⟩ | same
    · rcases ran : work ⟨subject, world⟩ with ⟨cause | a, t⟩ <;> rw [ran] at failed <;> cases failed
      exact .inl ⟨_, rfl, ended⟩
    · have same' : other ⟨subject, world.spared⟩ = _ := same
      rw [same']
      rcases work ⟨subject, world⟩ with ⟨e | a, t⟩
      · exact .inr rfl
      · rcases ih t.world with ⟨e, failed, ended⟩ | same
        · refine .inl ⟨e, ?_, ended⟩
          change (Work.each work ⟨rest, t.world⟩).1.map (a :: ·) = _
          rw [failed]
          rfl
        · have same' : Work.each other ⟨rest, t.world.spared⟩ = _ := same
          refine .inr ?_
          dsimp only [Scene.spared]
          rw [same']
          rfl

theorem ensureActive (phase : Phase) :
    Echoes (fun e => ∃ phase, e = .cancelled phase)
      (Work.ensureActive phase : Work σ BatchError Unit) (Work.ensureActive phase) := by
  intro s
  have calm : s.spared.world.look = (false, s.world.look.2.spared) := s.world.look_spared
  rw [ensureActive_run, ensureActive_run, calm]
  cases s.world.look.1 with
  | true => exact .inl ⟨_, rfl, phase, rfl⟩
  | false => exact .inr rfl

theorem closing {gone : BatchError → Prop} {work other : Work σ BatchError α}
    (echoes : Echoes gone work other) (failure : Option StoreError) :
    Echoes gone (Work.closing failure work) (Work.closing failure other) := by
  intro s
  unfold Work.closing
  rcases echoes s with ⟨e, failed, ended⟩ | same
  · rcases ran : work s with ⟨cause | a, t⟩ <;> rw [ran] at failed <;> cases failed
    exact .inl ⟨_, rfl, ended⟩
  · rw [same]
    rcases work s with ⟨e | a, t⟩ <;> cases failure <;> exact .inr rfl

theorem transaction {gone : BatchError → Prop} {work other : Work σ BatchError α}
    (echoes : Echoes gone work other) :
    Echoes gone (Work.transaction work) (Work.transaction other) := by
  intro s
  have met : s.spared.world.meet = (s.world.meet.1, s.world.meet.2.spared) := s.world.meet_spared
  have scene : s.spared.met = s.met.spared := by
    unfold Scene.met
    rw [met]
    rfl
  have circumstance : s.spared.world.meet.1 = s.world.meet.1 := (congrArg Prod.fst met :)
  cases admitted : s.world.meet.1.refused with
  | some e =>
    rw [transaction_barred admitted, transaction_barred (circumstance ▸ admitted), scene]
    exact .inr rfl
  | none =>
    cases present : s.world.outage with
    | some e =>
      rw [transaction_away admitted present,
        transaction_away (circumstance ▸ admitted) (s := s.spared) present, scene]
      exact .inr rfl
    | none =>
      have running : (s.spared.met.did .begun) = (s.met.did .begun).spared := by
        rw [scene]
        rfl
      rw [transaction_open admitted present,
        transaction_open (circumstance ▸ admitted) (s := s.spared) present, circumstance, running]
      rcases echoes.closing s.world.meet.1.commitFails (s.met.did .begun) with
        ⟨e, failed, ended⟩ | same
      · rcases ran : Work.closing s.world.meet.1.commitFails work (s.met.did .begun) with
          ⟨cause | a, t⟩ <;> rw [ran] at failed <;> cases failed
        exact .inl ⟨_, rfl, ended⟩
      · rw [same]
        rcases Work.closing s.world.meet.1.commitFails work (s.met.did .begun) with ⟨e | a, t⟩ <;>
          exact .inr rfl

end Echoes
end Work

open Work

namespace Registry

-- Handlers and hooks may cancel the context and do nothing else with it.
structure Discreet (registry : Registry) : Prop where
  handlers : ∀ type run, registry.handler? type = some run → ∀ assets event,
    (run assets event).Discreet
  hooks : ∀ id action, registry.hook? id = some action → ∀ assets entries,
    (action assets entries).Discreet

def spareHandler (run : Handler) : Handler := fun assets event => (run assets event).sparing

def spareHook (action : HookAction) : HookAction := fun assets entries =>
  (action assets entries).sparing

def sparing (registry : Registry) : Registry where
  handler? type := (registry.handler? type).map spareHandler
  hook? id := (registry.hook? id).map spareHook

variable {registry : Registry}

theorem lookup_sparing (type : EventType) :
    registry.sparing.lookup type = (registry.lookup type).map spareHandler := by
  unfold lookup sparing
  dsimp only
  cases registry.handler? type <;> rfl

theorem lookupHook_sparing (id : HookId) :
    registry.sparing.lookupHook id = (registry.lookupHook id).map spareHook := by
  unfold lookupHook sparing
  dsimp only
  cases registry.hook? id <;> rfl

theorem Discreet.handler (discreet : registry.Discreet) {type : EventType} {run : Handler}
    (found : registry.lookup type = .ok run) (assets : Assets) (event : Event) :
    (run assets event).Discreet := by
  unfold lookup at found
  cases known : registry.handler? type <;> rw [known] at found <;> cases found
  exact discreet.handlers type _ known assets event

theorem Discreet.hook (discreet : registry.Discreet) {id : HookId} {action : HookAction}
    (found : registry.lookupHook id = .ok action) (assets : Assets)
    (entries : List SessionEvents) : (action assets entries).Discreet := by
  unfold lookupHook at found
  cases known : registry.hook? id <;> rw [known] at found <;> cases found
  exact discreet.hooks id _ known assets entries

end Registry

namespace Batch

variable {registry : Registry} {assets : Assets}

def Cancelled (e : BatchError) : Prop := ∃ phase, e = .cancelled phase

theorem validate_sparing (sessions : List Session) :
    validate registry.sparing assets sessions = validate registry assets sessions := by
  have same : ∀ type, (registry.sparing.lookup type).map (fun _ => ()) =
      (registry.lookup type).map fun _ => () := by
    intro type
    rw [Registry.lookup_sparing]
    cases registry.lookup type <;> rfl
  unfold validate
  simp only [same]

theorem resolve_sparing (grouping : Grouping) :
    resolve registry.sparing grouping =
      (resolve registry grouping).map (List.map fun row =>
        (row.1, Registry.spareHook row.2.1, row.2.2)) := by
  unfold resolve
  induction grouping.toList with
  | nil => rfl
  | cons row rest ih =>
    obtain ⟨id, entries⟩ := row
    rw [List.mapM_cons, List.mapM_cons, ih]
    dsimp only
    rw [Registry.lookupHook_sparing]
    cases registry.lookupHook id with
    | error e => rfl
    | ok action =>
      generalize (rest.mapM _ : Except BatchError
        (List (HookId × HookAction × List SessionEvents))) = found
      cases found <;> rfl

theorem resolve_found {grouping : Grouping} {rows : List (HookId × HookAction × List SessionEvents)}
    (found : resolve registry grouping = .ok rows) :
    ∀ row ∈ rows, registry.lookupHook row.1 = .ok row.2.1 := by
  intro row member
  obtain ⟨⟨id, entries⟩, _, read⟩ := mem_of_readings found row member
  dsimp only at read
  cases known : registry.lookupHook id <;> rw [known] at read <;> cases read
  exact known

theorem dispatch_echoes (discreet : registry.Discreet) (event : Event) :
    Echoes Cancelled (dispatch registry assets event) (dispatch registry.sparing assets event) := by
  refine .peek fun s => ?_
  dsimp only
  rw [Registry.lookup_sparing]
  refine .given fun run found => .bind (.note _ _) fun _ => .adapt ?_
  exact (discreet.handler found assets event).sparing

theorem dispatchAll_echoes (discreet : registry.Discreet) :
    Echoes Cancelled (dispatchAll registry assets) (dispatchAll registry.sparing assets) := by
  have one : Echoes Cancelled (dispatchSession registry assets)
      (dispatchSession registry.sparing assets) := by
    refine .bind (.ensureActive _) fun _ => .peek fun s => ?_
    have events : Echoes Cancelled (s.subject.events.forM (dispatch registry assets))
        ((s.subject.events.map id).forM (dispatch registry.sparing assets)) :=
      .forM fun event _ => dispatch_echoes discreet event
    rw [List.map_id] at events
    exact .bind events fun _ => .pure _
  exact .bind (.each one) fun _ => .pure _

variable {σ : Type}

theorem runHook_echoes {gone : BatchError → Prop} (discreet : registry.Discreet) {id : HookId}
    {action : HookAction} (found : registry.lookupHook id = .ok action)
    (entries : List SessionEvents) :
    Echoes gone (runHook assets id action entries : Work σ BatchError Unit)
      (runHook assets id (Registry.spareHook action) entries) :=
  .bind (.beside (discreet.hook found assets entries).sparing) fun _ => .ofExcept _

theorem applyHooks_echoes (discreet : registry.Discreet) (grouping : Grouping) :
    Echoes Cancelled (applyHooks registry assets grouping : Work σ BatchError (List HookId))
      (applyHooks registry.sparing assets grouping) := by
  unfold applyHooks
  rw [resolve_sparing]
  refine .given fun rows found => .bind (.forM fun row member => ?_) fun _ => ?_
  · have known := resolve_found found row member
    exact .bind (.ensureActive _) fun _ => .bind (.note _ _) fun _ => runHook_echoes discreet known _
  · rw [List.map_map]
    exact .pure _

theorem body_echoes (discreet : registry.Discreet) :
    Echoes Cancelled (body registry assets) (body registry.sparing assets) := by
  have gathering : Echoes Cancelled
      (gather Session.takePre : Work (List Session) BatchError Grouping)
      (gather Session.takePre) := fun _ => .inr rfl
  exact .bind (dispatchAll_echoes discreet) fun _ => .bind (.note _ _) fun _ =>
    .bind gathering fun grouping => .bind (.note _ _) fun _ =>
      .bind (applyHooks_echoes discreet grouping) fun _ =>
        .bind (.ensureActive _) fun _ => .pure _

-- After the commit nothing looks at the context any more.
theorem attemptHook_echoes {gone : BatchError → Prop} (discreet : registry.Discreet) (id : HookId)
    (entries : List SessionEvents) :
    Echoes gone (attemptHook registry assets id entries)
      (attemptHook registry.sparing assets id entries) := by
  unfold attemptHook
  rw [Registry.lookupHook_sparing]
  refine .tryCatch ?_ fun e => .bind (.note _ _) fun _ => fun _ => .inr rfl
  refine .given fun action found => .bind (runHook_echoes discreet found entries) fun _ => ?_
  exact fun _ => .inr rfl

theorem postCommit_echoes {ε : Type} {gone : ε → Prop} (discreet : registry.Discreet) :
    Echoes gone (postCommit registry assets : Work (List Session) ε Aftermath)
      (postCommit registry.sparing assets) := by
  have gathering : Echoes gone
      (gather Session.takePost : Work (List Session) ε Grouping)
      (gather Session.takePost) := fun _ => .inr rfl
  refine .bind gathering fun grouping => ?_
  cases grouping.isEmpty with
  | true => exact .pure _
  | false =>
    have attempts : Echoes never
        (grouping.toList.forM fun row => attemptHook registry assets row.1 row.2)
        ((grouping.toList.map id).forM fun row => attemptHook registry.sparing assets row.1 row.2) :=
      .forM fun row _ => attemptHook_echoes discreet row.1 row.2
    rw [List.map_id] at attempts
    refine .bind (.beside attempts.transaction) fun (result, after) => ?_
    cases result with
    | ok => exact .pure _
    | error e => exact .bind (.note _ _) fun _ => .pure _

theorem commit_echoes (discreet : registry.Discreet) :
    Echoes Cancelled (commit registry assets) (commit registry.sparing assets) := by
  intro s
  rw [commit_run, commit_run]
  have echoes : Echoes Cancelled (body registry assets) (body registry.sparing assets) :=
    body_echoes discreet
  rcases echoes.transaction s with ⟨e, failed, ended⟩ | same
  · rcases ran : Work.transaction (body registry assets) s with ⟨cause | done, t⟩ <;>
      rw [ran] at failed <;> cases failed
    exact .inl ⟨_, rfl, ended⟩
  · rw [same]
    rcases Work.transaction (body registry assets) s with ⟨e | done, t⟩ <;> exact .inr rfl

-- A batch that is not cancelled goes as it does where nothing is ever cancelled: to the same
-- result, by the same deeds, and to the same store and cache.
theorem process_spared (discreet : registry.Discreet) {s : Scene (List Session)}
    (present : s.subject ≠ []) :
    (∃ e, (process registry assets s).1 = .error e ∧ Cancelled e) ∨
      process registry.sparing assets s.spared =
        ((process registry assets s).1, (process registry assets s).2.spared) := by
  have opening : (started assets s.spared).world.look =
      (false, (started assets s).world.look.2.spared) := (started assets s).world.look_spared
  have opens : opened assets s.spared = (opened assets s).spared := by
    unfold opened
    dsimp only
    rw [opening]
    rfl
  have same : s.spared.subject = s.subject := rfl
  rw [process_run present, process_run (s := s.spared) present, same, validate_sparing]
  cases validate registry assets s.subject with
  | error e => exact .inr rfl
  | ok =>
    dsimp only
    rw [opening, opens, if_neg Bool.false_ne_true]
    cases (started assets s).world.look.1 with
    | true => exact .inl ⟨_, rfl, _, rfl⟩
    | false =>
      rw [if_neg Bool.false_ne_true]
      rcases commit_echoes discreet (opened assets s) with ⟨e, failed, ended⟩ | committed
      · rcases ran : commit registry assets (opened assets s) with ⟨cause | done, t⟩ <;>
          rw [ran] at failed <;> cases failed
        exact .inl ⟨_, rfl, ended⟩
      · rw [committed]
        rcases commit registry assets (opened assets s) with ⟨e | ⟨events, hooks⟩, t⟩
        · exact .inr rfl
        · dsimp only
          have echoes : Echoes never (postCommit registry assets : Work _ BatchError _)
              (postCommit registry.sparing assets) := postCommit_echoes discreet
          obtain ⟨after, u, closed⟩ : ∃ after u,
              (postCommit registry assets : Work _ BatchError _)
                (t.note .info (committedLine assets events hooks)) = (.ok after, u) :=
            postCommit_ok registry assets _
          have noted : t.spared.note .info (committedLine assets events hooks) =
              (t.note .info (committedLine assets events hooks)).spared := rfl
          rcases echoes (t.note .info (committedLine assets events hooks)) with
            ⟨e, _, none⟩ | concluded
          · exact none.elim
          · rw [noted, concluded, closed]
            exact .inr rfl

end Batch
end SessionBatch

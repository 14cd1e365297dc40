import SessionBatch.Proofs.Commitment
import SessionBatch.Proofs.Discretion
import SessionBatch.Proofs.Sparing
import SessionBatch.Proofs.Validation

namespace SessionBatch

variable {σ τ ε δ α β κ : Type}

def World.Cancelled (w : World) : Prop := w.context.isCancelled w.clock.now = true

theorem World.Cancelled.look {w : World} (cancelled : w.Cancelled) : w.look.1 = true := by
  unfold World.Cancelled Context.isCancelled at cancelled
  unfold World.look
  dsimp only
  cases w.clock.nextInterval.cancels with
  | true => rfl
  | false =>
    rw [if_neg Bool.false_ne_true]
    unfold Context.isCancelled Clock.advance
    rw [Bool.or_eq_true] at cancelled ⊢
    refine cancelled.imp_right fun late => ?_
    cases deadline : w.context.deadline with
    | none =>
      rw [deadline] at late
      cases late
    | some moment =>
      rw [deadline, Option.any_some, decide_eq_true_iff] at late
      rw [Option.any_some, decide_eq_true_iff]
      exact Nat.le_trans late (Nat.le_add_right ..)

namespace Work

def Lasts (work : Work σ ε α) : Prop := ∀ s, s.world.Cancelled → (work s).2.world.Cancelled

theorem Discreet.lasts {work : Work σ ε α} (discreet : work.Discreet) : work.Lasts := by
  intro s cancelled
  unfold World.Cancelled at *
  rw [discreet.clock s]
  rcases discreet.context s with same | cancels
  · rw [same]
    exact cancelled
  · rw [cancels]
    rfl

namespace Lasts

theorem pure (a : α) : (pure a : Work σ ε α).Lasts := fun _ cancelled => cancelled

theorem note (level : Level) (text : String) : (Work.note level text : Work σ ε Unit).Lasts :=
  fun _ cancelled => cancelled

theorem ofExcept (result : Except ε α) : (Work.ofExcept result : Work σ ε α).Lasts :=
  fun _ cancelled => cancelled

theorem ensureActive (phase : Phase) : (Work.ensureActive phase : Work σ BatchError Unit).Lasts :=
  fun _ cancelled => cancelled.look

theorem bind {work : Work σ ε α} {next : α → Work σ ε β} (first : work.Lasts)
    (rest : ∀ a, (next a).Lasts) : (work >>= next).Lasts := by
  intro s cancelled
  have before := first s cancelled
  rw [bind_run]
  rcases ran : work s with ⟨e | a, t⟩ <;> rw [ran] at before
  · exact before
  · exact rest a t before

theorem peek {next : Scene σ → Work σ ε α} (each : ∀ s, (next s).Lasts) : (get >>= next).Lasts :=
  fun s cancelled => each s s cancelled

theorem given {result : Except ε κ} {next : κ → Work σ ε α}
    (rest : ∀ a, result = .ok a → (next a).Lasts) : (Work.ofExcept result >>= next).Lasts := by
  cases result with
  | error e => exact fun _ cancelled => cancelled
  | ok a => exact rest a rfl

theorem adapt {wrap : δ → ε} {work : Work σ δ α} (lasts : work.Lasts) :
    Lasts (ExceptT.adapt wrap work : Work σ ε α) := fun s => lasts s

theorem beside {subject : τ} {work : Work τ δ α} (lasts : work.Lasts) :
    (Work.beside subject work : Work σ ε _).Lasts := fun s => lasts ⟨subject, s.world⟩

theorem forM {items : List κ} {work : κ → Work σ ε PUnit}
    (each : ∀ item ∈ items, (work item).Lasts) : (items.forM work).Lasts := by
  induction items with
  | nil => exact pure ()
  | cons item rest ih =>
    exact bind (each item (by simp)) fun _ => ih fun i member => each i (by simp [member])

theorem each {work : Work σ ε α} (one : work.Lasts) : (Work.each work).Lasts := by
  rintro ⟨subjects, world⟩ cancelled
  induction subjects generalizing world with
  | nil => exact cancelled
  | cons subject rest ih =>
    have first := one ⟨subject, world⟩ cancelled
    rw [each_cons]
    rcases ran : work ⟨subject, world⟩ with ⟨e | a, t⟩ <;> rw [ran] at first
    · exact first
    · exact ih t.world first

end Lasts

theorem each_append {work : Work σ ε α} {before after : List σ} {as : List α} {done : List σ}
    {w u : World} (ran : each work ⟨before, w⟩ = (.ok as, ⟨done, u⟩)) :
    each work ⟨before ++ after, w⟩ =
      ((each work ⟨after, u⟩).1.map (as ++ ·),
        ⟨done ++ (each work ⟨after, u⟩).2.subject, (each work ⟨after, u⟩).2.world⟩) := by
  induction before generalizing w as done with
  | nil =>
    cases ran
    rw [List.nil_append]
    rcases each work ⟨after, w⟩ with ⟨_ | _, _⟩ <;> rfl
  | cons subject rest ih =>
    rw [each_cons] at ran
    rw [List.cons_append, each_cons]
    rcases first : work ⟨subject, w⟩ with ⟨e | a, t⟩ <;> rw [first] at ran
    · cases ran
    · dsimp only at ran ⊢
      rcases others : each work ⟨rest, t.world⟩ with ⟨e | bs, v⟩ <;> rw [others] at ran <;>
        cases ran
      rw [ih others]
      rcases each work ⟨after, v.world⟩ with ⟨_ | _, _⟩ <;> rfl

theorem each_append_world {work : Work σ ε α} {before after : List σ} {as all : List α}
    {done : List σ} {w u : World} {t : Scene (List σ)}
    (ran : each work ⟨before, w⟩ = (.ok as, ⟨done, u⟩))
    (whole : each work ⟨before ++ after, w⟩ = (.ok all, t)) :
    (each work ⟨after, u⟩).2.world = t.world := by
  rw [each_append ran] at whole
  exact congrArg (·.2.world) whole

theorem each_error {work : Work σ ε α} {subjects : List σ} {w : World} {e : ε} {t : Scene (List σ)}
    (failed : each work ⟨subjects, w⟩ = (.error e, t)) :
    ∃ before subject rest as done u v, subjects = before ++ subject :: rest ∧
      each work ⟨before, w⟩ = (.ok as, ⟨done, u⟩) ∧ work ⟨subject, u⟩ = (.error e, v) := by
  induction subjects generalizing w t with
  | nil => cases failed
  | cons subject rest ih =>
    rw [each_cons] at failed
    rcases first : work ⟨subject, w⟩ with ⟨cause | a, s⟩ <;> rw [first] at failed
    · cases failed
      exact ⟨[], subject, rest, [], [], w, s, rfl, rfl, first⟩
    · dsimp only at failed
      rcases others : each work ⟨rest, s.world⟩ with ⟨cause | bs, v⟩ <;> rw [others] at failed <;>
        cases failed
      obtain ⟨before, other, later, as, done, u, x, rfl, ran, stops⟩ := ih others
      refine ⟨subject :: before, other, later, a :: as, s.subject :: done, u, x, rfl, ?_, stops⟩
      rw [each_cons, first]
      dsimp only
      rw [ran]
      rfl

theorem forM_error {items : List κ} {work : κ → Work σ ε PUnit} {s t : Scene σ} {e : ε}
    (failed : items.forM work s = (.error e, t)) :
    ∃ before item rest u, items = before ++ item :: rest ∧
      before.forM work s = (.ok (), u) ∧ work item u = (.error e, t) := by
  induction items generalizing s with
  | nil => cases failed
  | cons item rest ih =>
    change (work item >>= fun _ => rest.forM work) s = _ at failed
    rw [bind_run] at failed
    rcases first : work item s with ⟨cause | _, u⟩ <;> rw [first] at failed
    · cases failed
      exact ⟨[], item, rest, s, rfl, rfl, first⟩
    · obtain ⟨before, other, later, v, rfl, ran, stops⟩ := ih failed
      refine ⟨item :: before, other, later, v, rfl, ?_, stops⟩
      change (work item >>= fun _ => before.forM work) s = _
      rw [bind_run, first]
      exact ran

theorem forM_append {before after : List κ} {work : κ → Work σ ε PUnit} {s u : Scene σ}
    (ran : before.forM work s = (.ok (), u)) :
    (before ++ after).forM work s = after.forM work u := by
  induction before generalizing s with
  | nil =>
    cases ran
    rfl
  | cons item rest ih =>
    change (work item >>= fun _ => rest.forM work) s = _ at ran
    change (work item >>= fun _ => (rest ++ after).forM work) s = _
    rw [bind_run] at ran ⊢
    rcases first : work item s with ⟨cause | _, v⟩ <;> rw [first] at ran
    · cases ran
    · exact ih ran

theorem transaction_begins {body : Work σ BatchError α} {s : Scene σ}
    (own : ∀ e, (transaction body s).1 ≠ .error (.resource e)) :
    s.world.meet.1.refused = none ∧ s.world.outage = none := by
  cases admitted : s.world.meet.1.refused with
  | some e => exact absurd (congrArg Prod.fst (transaction_barred admitted)) (own e)
  | none =>
    cases away : s.world.outage with
    | some e => exact absurd (congrArg Prod.fst (transaction_away admitted away)) (own e)
    | none => exact ⟨rfl, rfl⟩

end Work

open Work

namespace Batch

variable (registry : Registry) (assets : Assets)

-- What the first look at the context comes before: the transaction of the batch. Each later one
-- comes before the events of a session, before a hook, or after the last of them.
inductive Stop where
  | entry
  | session
  | hook

def Stop.phase : Stop → Phase
  | .entry => .dispatching
  | .session => .dispatching
  | .hook => .committing

def cleared (s : Scene (List Session)) : Scene (List Session) :=
  { started assets s with subject := s.subject.map Session.clearQueues }

def begun (s : Scene (List Session)) : Scene (List Session) := (opened assets s).met.did .begun

structure Begins (s : Scene (List Session)) : Prop where
  live : (started assets s).world.look.1 = false
  admitted : (opened assets s).world.meet.1.refused = none
  present : (opened assets s).world.outage = none

def collected (s : Scene (List Session)) : Grouping × Scene (List Session) :=
  let noted := s.note .debug ("process_batch:phase=" ++ Phase.grouping.name)
  let taken := noted.subject.map Session.takePre
  let sessions := taken.map Prod.snd
  let grouping := Grouping.ofQueues sessions (taken.map Prod.fst)
  (grouping, { noted with subject := sessions }.note .debug <|
    "process_batch:phase=" ++ Phase.committing.name ++ " hooks=" ++ toString grouping.size)

abbrev applyRow (row : HookId × HookAction × List SessionEvents) :
    Work (List Session) BatchError Unit := applyHook assets row.1 row.2.1 row.2.2

-- The scenes that a batch passes on its way to the commit: those where it looks at the context,
-- and those between two events of a session, where it does not.
inductive Passes (s : Scene (List Session)) : Option Stop → Scene (List Session) → Prop
  | entry : Passes s (some .entry) (cleared assets s)
  | session {before rest done : List Session} {session : Session} {counts : List Nat} {w : World}
      (begins : Begins assets s)
      (split : s.subject.map Session.clearQueues = before ++ session :: rest)
      (ran : each (dispatchSession registry assets) ⟨before, (begun assets s).world⟩ =
        (.ok counts, ⟨done, w⟩)) :
      Passes s (some .session) ⟨done ++ session :: rest, w⟩
  | event {before rest done : List Session} {session : Session} {counts : List Nat} {w : World}
      {first later : List Event} {t : Scene Session} (begins : Begins assets s)
      (split : s.subject.map Session.clearQueues = before ++ session :: rest)
      (ran : each (dispatchSession registry assets) ⟨before, (begun assets s).world⟩ =
        (.ok counts, ⟨done, w⟩))
      (live : w.look.1 = false) (events : session.events = first ++ later)
      (handled : first.forM (dispatch registry assets) ⟨session, w.look.2⟩ = (.ok (), t)) :
      Passes s none ⟨done ++ t.subject :: rest, t.world⟩
  | hook {count : Nat} {before rest : List (HookId × HookAction × List SessionEvents)}
      {t u : Scene (List Session)} (begins : Begins assets s)
      (ran : dispatchAll registry assets (begun assets s) = (.ok count, t))
      (found : resolve registry (collected t).1 = .ok (before ++ rest))
      (applied : before.forM (applyRow assets) (collected t).2 = (.ok (), u)) :
      Passes s (some .hook) u

def halted (s : Scene (List Session)) (stop : Stop) (v : Scene (List Session)) :
    Scene (List Session) :=
  let seen := { v with world := v.world.look.2 }
  match stop with
  | .entry => seen
  | stop =>
    let e := .cancelled stop.phase
    let reverted := { seen with world := { seen.world with store := s.world.store } }
    withdrawn assets e
      ((reverted.note .debug ("memory_tx:rollback err=" ++ e.message)).did .rolledBack)

variable {registry assets} {s t : Scene (List Session)}

theorem body_run (s : Scene (List Session)) :
    body registry assets s =
      match dispatchAll registry assets s with
      | (.error e, t) => (.error e, t)
      | (.ok count, t) =>
        match resolve registry (collected t).1 with
        | .error e => (.error e, (collected t).2)
        | .ok rows =>
          match rows.forM (applyRow assets) (collected t).2 with
          | (.error e, u) => (.error e, u)
          | (.ok _, u) =>
            (if u.world.look.1 then .error (.cancelled .committing)
              else .ok (count, rows.map Prod.fst), { u with world := u.world.look.2 }) := by
  unfold body
  rw [bind_run]
  rcases dispatchAll registry assets s with ⟨e | count, t⟩
  · rfl
  · dsimp only
    have collect : ∀ next : Grouping → Work (List Session) BatchError (Nat × List HookId),
        (do
          Work.note .debug ("process_batch:phase=" ++ Phase.grouping.name)
          let grouping ← gather Session.takePre
          Work.note .debug <| "process_batch:phase=" ++ Phase.committing.name ++ " hooks=" ++
            toString grouping.size
          next grouping) t = next (collected t).1 (collected t).2 := fun _ => rfl
    rw [collect, bind_run]
    unfold applyHooks
    rw [bind_run, ofExcept_run]
    cases resolve registry (collected t).1 with
    | error e => rfl
    | ok rows =>
      dsimp only
      rw [bind_run]
      rcases rows.forM (applyRow assets) (collected t).2 with ⟨e | _, u⟩
      · rfl
      · dsimp only
        rw [pure_run]
        dsimp only
        rw [bind_run, ensureActive_run]
        cases u.world.look.1 <;> rfl

theorem dispatchAll_run (s : Scene (List Session)) :
    dispatchAll registry assets s =
      ((each (dispatchSession registry assets) s).1.map (·.foldr (· + ·) 0),
        (each (dispatchSession registry assets) s).2) := by
  unfold dispatchAll
  rw [bind_run]
  rcases each (dispatchSession registry assets) s with ⟨_ | _, _⟩ <;> rfl

theorem dispatchSession_run (session : Session) (w : World) :
    dispatchSession registry assets ⟨session, w⟩ =
      if w.look.1 then (.error (.cancelled .dispatching), ⟨session, w.look.2⟩)
      else
        match session.events.forM (dispatch registry assets) ⟨session, w.look.2⟩ with
        | (.error e, t) => (.error e, t)
        | (.ok _, t) => (.ok session.events.length, t) := by
  unfold dispatchSession
  rw [bind_run, ensureActive_run]
  cases w.look.1 with
  | true => rfl
  | false =>
    rw [if_neg Bool.false_ne_true, if_neg Bool.false_ne_true]
    dsimp only
    rw [bind_run, get_run]
    dsimp only
    rw [bind_run]
    rcases session.events.forM (dispatch registry assets) ⟨session, w.look.2⟩ with ⟨_ | _, _⟩ <;> rfl

theorem applyRow_seen {u : Scene (List Session)} (seen : u.world.look.1 = true)
    (row : HookId × HookAction × List SessionEvents) :
    applyRow assets row u =
      (.error (.cancelled .committing), { u with world := u.world.look.2 }) := by
  unfold applyRow applyHook
  rw [bind_run, ensureActive_run, seen]
  rfl

theorem process_ends (present : s.subject ≠ []) (valid : validate registry assets s.subject = .ok ())
    (begins : Begins assets s) {e : BatchError}
    (failed : body registry assets (begun assets s) = (.error e, t)) :
    process registry assets s =
      (.error e, withdrawn assets e
        (({ t with world := { t.world with store := s.world.store } }.note .debug
          ("memory_tx:rollback err=" ++ e.message)).did .rolledBack)) := by
  have closed : closing (opened assets s).world.meet.1.commitFails (body registry assets)
      ((opened assets s).met.did .begun) = (.error e, t) := by
    unfold closing
    have failed' : body registry assets ((opened assets s).met.did .begun) = (.error e, t) := failed
    rw [failed']
  rw [process_run present, valid, begins.live, if_neg Bool.false_ne_true, commit_run,
    transaction_open begins.admitted begins.present, closed]
  rfl

theorem process_ok_body (present : s.subject ≠ []) {outcome : Outcome}
    (done : process registry assets s = (.ok outcome, t)) :
    Begins assets s ∧ ∃ reached u, body registry assets (begun assets s) = (.ok reached, u) := by
  have course : Course registry assets s _ _ := process_course s
  rw [done] at course
  cases course with
  | empty none => exact absurd none present
  | committed _ _ live ran _ =>
    obtain ⟨u, inside, _⟩ := transaction_ok ran
    obtain ⟨admitted, there⟩ := transaction_begins (by rw [ran]; nofun)
    exact ⟨⟨live, admitted, there⟩, _, u, inside⟩

theorem process_error_store {e : BatchError}
    (failed : process registry assets s = (.error e, t)) : t.world.store = s.world.store := by
  have course : Course registry assets s _ _ := process_course s
  rw [failed] at course
  cases course with
  | refused => rfl
  | cancelled => rfl
  | rolledBack _ _ _ ran => exact (transaction_error ran).1

theorem passes_seen (present : s.subject ≠ [])
    (valid : validate registry assets s.subject = .ok ()) {stop : Stop} {v : Scene (List Session)}
    (passes : Passes registry assets s (some stop) v) (seen : v.world.look.1 = true) :
    process registry assets s = (.error (.cancelled stop.phase), halted assets s stop v) := by
  cases passes with
  | entry =>
    have late : (started assets s).world.look.1 = true := seen
    rw [process_run present, valid, late]
    rfl
  | @session before rest done session counts w begins split ran =>
    have halts : dispatchSession registry assets ⟨session, w⟩ =
        (.error (.cancelled .dispatching), ⟨session, w.look.2⟩) := by
      have seen' : w.look.1 = true := seen
      rw [dispatchSession_run, seen', if_pos rfl]
    have subjects : begun assets s = ⟨before ++ session :: rest, (begun assets s).world⟩ := by
      rw [← split]
      rfl
    have failed : body registry assets (begun assets s) =
        (.error (.cancelled .dispatching), ⟨done ++ session :: rest, w.look.2⟩) := by
      rw [body_run, dispatchAll_run, subjects, each_append ran, each_cons, halts]
      rfl
    exact process_ends present valid begins failed
  | @hook count before rest t _ begins ran found applied =>
    have failed : body registry assets (begun assets s) =
        (.error (.cancelled .committing), { v with world := v.world.look.2 }) := by
      rw [body_run, ran]
      dsimp only
      rw [found]
      dsimp only
      rw [forM_append applied]
      cases rest with
      | nil =>
        change ((if v.world.look.1 then _ else _), _) = _
        rw [seen]
        rfl
      | cons row later =>
        have halts : (row :: later).forM (applyRow assets) v =
            (.error (.cancelled .committing), { v with world := v.world.look.2 }) := by
          change (applyRow assets row >>= fun _ => later.forM (applyRow assets)) v = _
          rw [bind_run, applyRow_seen seen]
        rw [halts]
    exact process_ends present valid begins failed

theorem dispatch_lasts (discreet : registry.Discreet) (event : Event) :
    Lasts (dispatch registry assets event) :=
  .peek fun _ => .given fun _ found => .bind (.note _ _) fun _ =>
    .adapt (discreet.handler found assets event).lasts

theorem dispatchSession_lasts (discreet : registry.Discreet) :
    Lasts (dispatchSession registry assets) :=
  .bind (.ensureActive _) fun _ => .peek fun _ =>
    .bind (.forM fun event _ => dispatch_lasts discreet event) fun _ => .pure _

theorem applyRow_lasts (discreet : registry.Discreet)
    {row : HookId × HookAction × List SessionEvents}
    (found : registry.lookupHook row.1 = .ok row.2.1) : Lasts (applyRow assets row) :=
  .bind (.ensureActive _) fun _ => .bind (.note _ _) fun _ =>
    .bind (.beside (discreet.hook found assets row.2.2).lasts) fun _ => .ofExcept _

theorem body_ok {reached : Nat × List HookId} {u : Scene (List Session)}
    (done : body registry assets s = (.ok reached, u)) :
    ∃ count t rows v, dispatchAll registry assets s = (.ok count, t) ∧
      resolve registry (collected t).1 = .ok rows ∧
      rows.forM (applyRow assets) (collected t).2 = (.ok (), v) ∧ v.world.look.1 = false := by
  rw [body_run] at done
  rcases ran : dispatchAll registry assets s with ⟨e | count, t⟩ <;> rw [ran] at done
  · cases done
  · dsimp only at done
    cases found : resolve registry (collected t).1 with
    | error e =>
      rw [found] at done
      cases done
    | ok rows =>
      rw [found] at done
      dsimp only at done
      rcases applied : rows.forM (applyRow assets) (collected t).2 with ⟨e | _, v⟩ <;>
        rw [applied] at done
      · cases done
      · dsimp only at done
        cases seen : v.world.look.1 with
        | true =>
          rw [seen] at done
          cases done
        | false => exact ⟨count, t, rows, v, rfl, found, applied, seen⟩

theorem body_ok_dispatched (discreet : registry.Discreet) {reached : Nat × List HookId}
    {u : Scene (List Session)} (done : body registry assets s = (.ok reached, u)) :
    ∃ counts t, each (dispatchSession registry assets) s = (.ok counts, t) ∧
      ¬ t.world.Cancelled := by
  obtain ⟨count, t, rows, v, ran, found, applied, live⟩ := body_ok done
  rw [dispatchAll_run] at ran
  rcases dispatched : each (dispatchSession registry assets) s with ⟨e | counts, t'⟩ <;>
    rw [dispatched] at ran <;> cases ran
  refine ⟨counts, t', rfl, fun cancelled => ?_⟩
  have lasts : Lasts (rows.forM (applyRow assets)) :=
    .forM fun row member => applyRow_lasts discreet (resolve_found found row member)
  have last := lasts (collected t').2 cancelled
  rw [applied] at last
  rw [last.look] at live
  cases live

theorem passes_cancelled (discreet : registry.Discreet) (present : s.subject ≠ [])
    {stop : Option Stop} {v : Scene (List Session)} (passes : Passes registry assets s stop v)
    (cancelled : v.world.Cancelled) :
    ∃ e t, process registry assets s = (.error e, t) ∧ t.world.store = s.world.store := by
  rcases ended : process registry assets s with ⟨e | outcome, t⟩
  · exact ⟨e, t, rfl, process_error_store ended⟩
  exfalso
  obtain ⟨begins, reached, u, done⟩ := process_ok_body present ended
  obtain ⟨counts, dispatched, all, active⟩ := body_ok_dispatched discreet done
  have turns : Lasts (each (dispatchSession registry assets)) :=
    .each (dispatchSession_lasts discreet)
  cases passes with
  | entry =>
    have late : (started assets s).world.look.1 = true := cancelled.look
    rw [begins.live] at late
    cases late
  | @session before rest _ session _ w _ split ran =>
    have whole : each (dispatchSession registry assets)
        ⟨before ++ session :: rest, (begun assets s).world⟩ = (.ok counts, dispatched) := by
      rw [← split]
      exact all
    have last := turns ⟨session :: rest, w⟩ cancelled
    rw [each_append_world ran whole] at last
    exact active last
  | @event before rest _ session _ w first later t' _ split ran live events handled =>
    have whole : each (dispatchSession registry assets)
        ⟨before ++ session :: rest, (begun assets s).world⟩ = (.ok counts, dispatched) := by
      rw [← split]
      exact all
    have ending := each_append_world ran whole
    rw [each_cons, dispatchSession_run, live, if_neg Bool.false_ne_true, events,
      forM_append handled] at ending
    have others : Lasts (later.forM (dispatch registry assets)) :=
      .forM fun event _ => dispatch_lasts discreet event
    have handling := others t' cancelled
    rcases ran' : later.forM (dispatch registry assets) t' with ⟨e | _, x⟩ <;>
      rw [ran'] at ending handling
    · have same : x.world = dispatched.world := ending
      exact active (same ▸ handling)
    · have last := turns ⟨rest, x.world⟩ handling
      have same : (each (dispatchSession registry assets) ⟨rest, x.world⟩).2.world =
        dispatched.world := ending
      exact active (same ▸ last)
  | @hook _ before rest t' _ _ ran found applied =>
    obtain ⟨_, _, rows, last, ran', found', applied', live⟩ := body_ok done
    rw [ran] at ran'
    cases ran'
    rw [found] at found'
    cases found'
    rw [forM_append applied] at applied'
    have lasts : Lasts (rest.forM (applyRow assets)) := .forM fun row member =>
      applyRow_lasts discreet (resolve_found found row (List.mem_append_right _ member))
    have still := lasts v cancelled
    rw [applied'] at still
    rw [still.look] at live
    cases live

theorem dispatch_raises_own (event : Event) (s : Scene Session) :
    Raises (fun e => ¬ Cancelled e) (dispatch registry assets event) s := by
  unfold dispatch
  refine Raises.bind (.of_ok (get_run s)) fun scene _ _ => ?_
  refine Raises.bind (.ofExcept (fun e missing => ?_) _) fun run _ _ => ?_
  · rintro ⟨phase, rfl⟩
    have refused := lookup_error missing
    cases refused
  refine Raises.bind (.of_ok (note_run _ _ _)) fun _ _ _ => ?_
  refine Raises.adapt (fun _ => ?_) _
  rintro ⟨phase, wrong⟩
  cases wrong

theorem dispatchSession_cancelled {session : Session} {w : World} {phase : Phase} {v : Scene Session}
    (failed : dispatchSession registry assets ⟨session, w⟩ = (.error (.cancelled phase), v)) :
    w.look.1 = true ∧ phase = .dispatching := by
  rw [dispatchSession_run] at failed
  cases seen : w.look.1 with
  | true =>
    rw [seen] at failed
    cases failed
    exact ⟨rfl, rfl⟩
  | false =>
    rw [seen, if_neg Bool.false_ne_true] at failed
    have own : Raises (fun e => ¬ Cancelled e) (session.events.forM (dispatch registry assets))
        ⟨session, w.look.2⟩ := .forM (fun event _ => dispatch_raises_own event) _
    rcases ran : session.events.forM (dispatch registry assets) ⟨session, w.look.2⟩ with
      ⟨e | _, t⟩ <;> rw [ran] at failed <;> cases failed
    exact absurd ⟨phase, rfl⟩ (own (.cancelled phase) (by rw [ran]))

theorem applyRow_cancelled {row : HookId × HookAction × List SessionEvents} {phase : Phase}
    {u v : Scene (List Session)}
    (failed : applyRow assets row u = (.error (.cancelled phase), v)) :
    u.world.look.1 = true ∧ phase = .committing := by
  cases seen : u.world.look.1 with
  | true =>
    rw [applyRow_seen seen] at failed
    cases failed
    exact ⟨rfl, rfl⟩
  | false =>
    unfold applyRow applyHook at failed
    rw [bind_run, ensureActive_run, seen, if_neg Bool.false_ne_true] at failed
    dsimp only at failed
    rw [bind_run, note_run] at failed
    dsimp only at failed
    unfold runHook at failed
    rw [bind_run, beside_run] at failed
    dsimp only at failed
    rw [ofExcept_run] at failed
    generalize (row.2.1 assets row.2.2 _).1 = result at failed
    cases result <;> cases failed

theorem body_cancelled (begins : Begins assets s) {phase : Phase}
    (failed : body registry assets (begun assets s) = (.error (.cancelled phase), t)) :
    ∃ stop v, Passes registry assets s (some stop) v ∧ v.world.look.1 = true := by
  rw [body_run] at failed
  rcases ran : dispatchAll registry assets (begun assets s) with ⟨e | count, u⟩ <;>
    rw [ran] at failed
  · cases failed
    rw [dispatchAll_run] at ran
    rcases dispatched : each (dispatchSession registry assets) (begun assets s) with
      ⟨e | counts, x⟩ <;> rw [dispatched] at ran <;> cases ran
    obtain ⟨before, session, rest, _, done, w, _, split, front, stops⟩ := each_error dispatched
    exact ⟨.session, _, .session begins split front, (dispatchSession_cancelled stops).1⟩
  · dsimp only at failed
    cases found : resolve registry (collected u).1 with
    | error e =>
      rw [found] at failed
      cases failed
      obtain ⟨_, missing⟩ := resolve_error found
      cases missing
    | ok rows =>
      rw [found] at failed
      dsimp only at failed
      rcases applied : rows.forM (applyRow assets) (collected u).2 with ⟨e | _, v⟩ <;>
        rw [applied] at failed
      · cases failed
        obtain ⟨before, row, rest, x, rfl, front, stops⟩ := forM_error applied
        exact ⟨.hook, x, .hook begins ran found front, (applyRow_cancelled stops).1⟩
      · dsimp only at failed
        cases seen : v.world.look.1 with
        | false =>
          rw [seen] at failed
          cases failed
        | true =>
          rw [← List.append_nil rows] at found
          exact ⟨.hook, v, .hook begins ran found applied, seen⟩

theorem cancelled_seen (valid : validate registry assets s.subject = .ok ()) {phase : Phase}
    (failed : process registry assets s = (.error (.cancelled phase), t)) :
    ∃ stop v, Passes registry assets s (some stop) v ∧ v.world.look.1 = true := by
  have course : Course registry assets s _ _ := process_course s
  rw [failed] at course
  cases course with
  | refused _ problem =>
    rw [valid] at problem
    cases problem
  | cancelled _ _ late => exact ⟨.entry, _, .entry, late⟩
  | rolledBack _ _ live ran =>
    obtain ⟨admitted, there⟩ := transaction_begins (by rw [ran]; nofun)
    obtain ⟨_, ⟨_, _, _, wrong⟩ | ⟨_, _, inside | ⟨_, wrong⟩⟩⟩ := transaction_error ran
    · cases wrong
    · exact body_cancelled ⟨live, admitted, there⟩ (Prod.ext inside rfl)
    · cases wrong

-- Cancelled anywhere before the commit, a batch fails and stores nothing: at the first look that
-- finds it so it ends, with no call of a handler or of a hook after that. Where no look before
-- the commit finds the context cancelled, the batch goes as if nothing ever cancelled it, in what
-- follows the commit as well.
theorem cancellation_prevents_commit (discreet : registry.Discreet) (present : s.subject ≠ [])
    (valid : validate registry assets s.subject = .ok ()) :
    (∀ stop v, Passes registry assets s stop v → v.world.Cancelled →
      ∃ e t, process registry assets s = (.error e, t) ∧ t.world.store = s.world.store) ∧
    (∀ stop v, Passes registry assets s (some stop) v → v.world.look.1 = true →
      process registry assets s = (.error (.cancelled stop.phase), halted assets s stop v) ∧
        (halted assets s stop v).world.store = s.world.store) ∧
    ((∀ stop v, Passes registry assets s (some stop) v → v.world.look.1 = false) →
      process registry.sparing assets s.spared =
        ((process registry assets s).1, (process registry assets s).2.spared)) := by
  refine ⟨fun stop v passes => passes_cancelled discreet present passes,
    fun stop v passes seen => ?_, fun unseen => ?_⟩
  · have ended := passes_seen present valid passes seen
    exact ⟨ended, process_error_store ended⟩
  · rcases process_spared discreet present with ⟨e, failed, phase, rfl⟩ | same
    · obtain ⟨stop, v, passes, seen⟩ := cancelled_seen valid (Prod.ext failed rfl)
      rw [unseen stop v passes] at seen
      cases seen
    · exact same

end Batch

namespace Sample

def fickle : Registry where
  handler?
    | .error => some (Rehearsal.handler [.cancel])
    | .msgCreated => some (Rehearsal.handler [.deferPost .queueMessages])
    | _ => none
  hook?
    | .queueMessages => some (Rehearsal.hook .queueMessages [.cancel])
    | _ => none

theorem fickle_discreet : fickle.Discreet where
  handlers type run found assets event := by
    cases type <;> cases found <;> exact Rehearsal.handler_discreet _ assets event
  hooks id action found assets entries := by
    cases id <;> cases found
    exact Rehearsal.hook_discreet _ _ assets entries

def noticed : Session := turn ⟨1⟩ [.error "stop"]

def noticing : Scene (List Session) := ⟨[noticed, noticed], people⟩

def sendingOn : Scene (List Session) := ⟨[turn ⟨1⟩ [.msgCreated ⟨⟨21⟩, none, "first"⟩]], people⟩

end Sample

theorem cancellation_prevents_commit_twice :
    Sample.fickle.Discreet ∧ Sample.noticing.subject ≠ [] ∧
      Batch.validate Sample.fickle Sample.assets Sample.noticing.subject = .ok () ∧
      (Batch.process Sample.fickle Sample.assets Sample.noticing).1 =
        .error (.cancelled .dispatching) ∧
      Sample.sendingOn.subject ≠ [] ∧
      Batch.validate Sample.fickle Sample.assets Sample.sendingOn.subject = .ok () ∧
      (Batch.process Sample.fickle Sample.assets Sample.sendingOn).2.world.context.cancelled =
        true ∧
      Batch.process Sample.fickle.sparing Sample.assets Sample.sendingOn.spared =
        ((Batch.process Sample.fickle Sample.assets Sample.sendingOn).1,
          (Batch.process Sample.fickle Sample.assets Sample.sendingOn).2.spared) := by
  have discreet := Sample.fickle_discreet
  have valid : Batch.validate Sample.fickle Sample.assets Sample.noticing.subject = .ok () := by rfl
  have valid' : Batch.validate Sample.fickle Sample.assets Sample.sendingOn.subject = .ok () := by
    rfl
  have begins : Batch.Begins Sample.assets Sample.noticing := ⟨by decide, by decide, by decide⟩
  -- The handler of the first notice cancels; the look before the second session finds it.
  obtain ⟨counts, t, front⟩ := Sample.run_ok
    (r := Work.each (Batch.dispatchSession Sample.fickle Sample.assets)
      ⟨[Sample.noticed.clearQueues], (Batch.begun Sample.assets Sample.noticing).world⟩)
    (by decide +kernel)
  have seen : (Work.each (Batch.dispatchSession Sample.fickle Sample.assets)
      ⟨[Sample.noticed.clearQueues],
        (Batch.begun Sample.assets Sample.noticing).world⟩).2.world.look.1 = true := by
    decide +kernel
  rw [front] at seen
  obtain ⟨_, stops, _⟩ := Batch.cancellation_prevents_commit discreet
    (s := Sample.noticing) (by decide) valid
  obtain ⟨_, stops', spared⟩ := Batch.cancellation_prevents_commit discreet
    (s := Sample.sendingOn) (by decide) valid'
  have ended := (stops .session _ (.session begins rfl front) seen).1
  have succeeds : (Batch.process Sample.fickle Sample.assets Sample.sendingOn).1.isOk = true := by
    decide +kernel
  refine ⟨discreet, by decide, valid, congrArg Prod.fst ended, by decide, valid',
    by decide +kernel, spared fun stop v passes => ?_⟩
  rw [← Bool.not_eq_true]
  intro late
  rw [(stops' stop v passes late).1] at succeeds
  cases succeeds

end SessionBatch

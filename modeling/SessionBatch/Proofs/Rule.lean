import SessionBatch.Batch
import SessionBatch.Proofs.Work
import SessionBatch.Proofs.Writes

namespace SessionBatch

-- Every look at the context along the clock finds it active: nobody cancels it, and its deadline
-- lies beyond all the time that is going to pass.
def Context.Outlasts (context : Context) (clock : Clock) : Prop :=
  context.cancelled = false ∧ (∀ interval ∈ clock.ahead, interval.cancels = false) ∧
    ∀ deadline ∈ context.deadline,
      clock.now + (clock.ahead.map Interval.elapsed).foldr (· + ·) 0 < deadline

theorem Context.Outlasts.advance {context : Context} {clock : Clock}
    (active : context.Outlasts clock) :
    clock.nextInterval.cancels = false ∧ context.isCancelled clock.advance.now = false ∧
      context.Outlasts clock.advance := by
  obtain ⟨live, spared, before⟩ := active
  obtain ⟨now, ahead⟩ := clock
  have later : context.Outlasts (Clock.advance ⟨now, ahead⟩) := by
    refine ⟨live, fun interval member => spared interval (List.mem_of_mem_tail member), ?_⟩
    intro deadline given
    have bound := before deadline given
    cases ahead with
    | nil => simpa [Clock.advance, Clock.nextInterval] using bound
    | cons interval rest =>
      simp only [List.map_cons, List.foldr_cons] at bound
      simp only [Clock.advance, Clock.nextInterval, List.headD_cons, List.tail_cons]
      omega
  refine ⟨?_, ?_, later⟩
  · cases ahead with
    | nil => rfl
    | cons interval rest => exact spared interval (by simp)
  · have past := later.2.2
    cases given : context.deadline with
    | none => simp [Context.isCancelled, live, given]
    | some deadline =>
      have bound := past deadline (by simp [given])
      simp only [Context.isCancelled, live, given, Option.any_some, Bool.false_or,
        decide_eq_false_iff_not]
      omega

structure World.Calm (w : World) : Prop where
  faults : w.faults = []
  active : w.context.Outlasts w.clock

theorem World.Calm.look {w : World} (calm : w.Calm) : w.look.1 = false ∧ w.look.2.Calm := by
  obtain ⟨spared, live, later⟩ := calm.active.advance
  simp only [World.look, spared, Bool.false_eq_true, if_false]
  exact ⟨live, calm.faults, later⟩

theorem World.Calm.write {w : World} (calm : w.Calm) (b : BulkWrite) :
    (w.write b).1 = (w.store.write b).1 ∧ (w.write b).2.Calm := by
  simp only [World.write, calm.faults, List.lookup_nil, true_and]
  exact ⟨rfl, calm.active⟩

def World.around (w : World) : Cache × Option StoreError × List Circumstance :=
  (w.cache, w.outage, w.ahead)

theorem World.around_write (w : World) (b : BulkWrite) : (w.write b).2.around = w.around := by
  unfold World.write
  split <;> rfl

structure Stage (σ : Type) where
  subject : σ
  store : Store

def Scene.stage {σ : Type} (s : Scene σ) : Stage σ := ⟨s.subject, s.world.store⟩

abbrev Rule (σ ε α : Type) := StateT (Stage σ) (Except ε) α

variable {σ τ ε δ α β : Type}

namespace Rule

def turn (change : σ → σ) : Rule σ ε PUnit := fun stage =>
  .ok ((), { stage with subject := change stage.subject })

def about (rule : σ → Rule σ ε α) : Rule σ ε α := fun stage => rule stage.subject stage

def write (b : BulkWrite) : Rule σ EffectError Nat := fun stage =>
  match stage.store.write b with
  | (.ok n, store) => .ok (n, { stage with store })
  | (.error e, _) => .error (.store e)

def onStore (change : Store → Except ε Store) : Rule σ ε PUnit := fun stage =>
  (change stage.store).map fun store => ((), { stage with store })

def wrapped (wrap : ε → δ) (rule : Rule σ ε α) : Rule σ δ α := fun stage =>
  (rule stage).mapError wrap

def eachIn (rule : Rule σ ε α) : List σ → Store → Except ε (List α × Stage (List σ))
  | [], store => .ok ([], ⟨[], store⟩)
  | subject :: rest, store => do
    let (a, stage) ← rule ⟨subject, store⟩
    let (as, others) ← eachIn rule rest stage.store
    return (a :: as, ⟨stage.subject :: others.subject, others.store⟩)

def each (rule : Rule σ ε α) : Rule (List σ) ε (List α) := fun stage =>
  eachIn rule stage.subject stage.store

theorem bind_run (rule : Rule σ ε α) (next : α → Rule σ ε β) (stage : Stage σ) :
    (rule >>= next) stage =
      match rule stage with
      | .ok (a, stage) => next a stage
      | .error e => .error e := by
  change (rule stage >>= fun (a, stage) => next a stage) = _
  rcases rule stage with _ | ⟨_, _⟩ <;> rfl

theorem onStore_bind (first next : Store → Except ε Store) (stage : Stage σ) :
    (onStore first >>= fun _ => onStore next) stage = onStore (first · >>= next) stage := by
  rw [bind_run]
  unfold onStore
  dsimp only
  cases first stage.store <;> rfl

theorem onStore_forM (items : List β) (change : β → Store → Except ε Store) (stage : Stage σ) :
    items.forM (fun item => onStore (change item)) stage =
      onStore (items.foldlM (fun store item => change item store) ·) stage := by
  induction items generalizing stage with
  | nil => rfl
  | cons item rest ih =>
    change (onStore (change item) >>= fun _ =>
      rest.forM fun item => onStore (change item)) stage = _
    rw [bind_run]
    unfold onStore at ih ⊢
    simp only [List.foldlM_cons]
    cases changed : change item stage.store with
    | error e => rfl
    | ok store => exact ih { stage with store }

end Rule

-- Work follows a rule on a scene when it does what the rule says if it succeeds, when in a calm
-- world it succeeds and fails as the rule does, and when it never touches what is around the store.
structure FollowsOn (s : Scene σ) (work : Work σ ε α) (rule : Rule σ ε α) : Prop where
  sound : ∀ {t a}, work s = (.ok a, t) → rule s.stage = .ok (a, t.stage)
  calm : s.world.Calm → (work s).2.world.Calm ∧ (work s).1 = (rule s.stage).map Prod.fst
  around : (work s).2.world.around = s.world.around

namespace FollowsOn

variable {s : Scene σ}

theorem cache {work : Work σ ε α} {rule : Rule σ ε α} (follows : FollowsOn s work rule) :
    (work s).2.world.cache = s.world.cache := congrArg Prod.fst follows.around

theorem congr {work : Work σ ε α} {rule rule' : Rule σ ε α} (follows : FollowsOn s work rule)
    (same : rule s.stage = rule' s.stage) : FollowsOn s work rule' where
  sound ran := same ▸ follows.sound ran
  calm quiet := same ▸ follows.calm quiet
  around := follows.around

theorem bind {work : Work σ ε α} {next : α → Work σ ε β} {rule : Rule σ ε α}
    {rule' : α → Rule σ ε β} (first : FollowsOn s work rule)
    (rest : ∀ a t, rule s.stage = .ok (a, t.stage) → FollowsOn t (next a) (rule' a)) :
    FollowsOn s (work >>= next) (rule >>= rule') where
  sound {t b} ran := by
    rw [Work.bind_run] at ran
    rcases before : work s with ⟨_ | a, u⟩ <;> rw [before] at ran
    · cases ran
    · have known := first.sound before
      rw [Rule.bind_run, known]
      exact (rest a u known).sound ran
  calm quiet := by
    obtain ⟨quiet', result⟩ := first.calm quiet
    rw [Work.bind_run, Rule.bind_run]
    rcases before : work s with ⟨e | a, u⟩ <;> rw [before] at quiet' result
    · refine ⟨quiet', ?_⟩
      rcases given : rule s.stage with _ | ⟨_, _⟩ <;> rw [given] at result <;> cases result
      rfl
    · have known := first.sound before
      rw [known]
      exact (rest a u known).calm quiet'
  around := by
    have before := first.around
    rw [Work.bind_run]
    rcases ran : work s with ⟨_ | a, u⟩ <;> rw [ran] at before
    · exact before
    · exact (rest a u (first.sound ran)).around.trans before

theorem noting {next : Work σ ε α} {rule : Rule σ ε α} {level : Level} {text : String}
    (follows : FollowsOn (s.note level text) next rule) :
    FollowsOn s (Work.note level text >>= fun _ => next) rule where
  sound ran := follows.sound ran
  calm quiet := follows.calm ⟨quiet.faults, quiet.active⟩
  around := follows.around

end FollowsOn

def Follows (work : Work σ ε α) (rule : Rule σ ε α) : Prop := ∀ s, FollowsOn s work rule

namespace Follows

theorem congr {work : Work σ ε α} {rule rule' : Rule σ ε α} (follows : Follows work rule)
    (same : ∀ stage, rule stage = rule' stage) : Follows work rule' :=
  fun s => (follows s).congr (same s.stage)

theorem pure (a : α) : Follows (pure a : Work σ ε α) (Pure.pure a) := by
  refine fun s => ⟨fun ran => ?_, fun quiet => ⟨quiet, rfl⟩, rfl⟩
  cases ran
  rfl

theorem throw (e : ε) : Follows (throw e : Work σ ε α) (MonadExcept.throw e) := by
  refine fun s => ⟨fun ran => ?_, fun quiet => ⟨quiet, rfl⟩, rfl⟩
  cases ran

theorem bind {work : Work σ ε α} {next : α → Work σ ε β} {rule : Rule σ ε α}
    {rule' : α → Rule σ ε β} (first : Follows work rule)
    (rest : ∀ a, Follows (next a) (rule' a)) : Follows (work >>= next) (rule >>= rule') :=
  fun s => (first s).bind fun a t _ => rest a t

theorem noting {next : Work σ ε α} {rule : Rule σ ε α} {level : Level} {text : String}
    (follows : Follows next rule) : Follows (Work.note level text >>= fun _ => next) rule :=
  fun s => (follows (s.note level text)).noting

theorem note (level : Level) (text : String) :
    Follows (Work.note level text : Work σ ε Unit) (Pure.pure ()) := by
  rw [← bind_pure (Work.note level text)]
  exact noting (pure ())

theorem peek {next : Scene σ → Work σ ε α} {rule : Rule σ ε α}
    (each : ∀ s, Follows (next s) rule) : Follows (get >>= next) rule :=
  fun s => ⟨(each s s).sound, (each s s).calm, (each s s).around⟩

theorem about {next : Scene σ → Work σ ε α} {rule : σ → Rule σ ε α}
    (each : ∀ s, Follows (next s) (rule s.subject)) : Follows (get >>= next) (.about rule) :=
  fun s => ⟨(each s s).sound, (each s s).calm, (each s s).around⟩

theorem turn (change : σ → σ) :
    Follows (modify fun s => { s with subject := change s.subject } : Work σ ε PUnit)
      (.turn change) := by
  refine fun s => ⟨fun ran => ?_, fun quiet => ⟨quiet, rfl⟩, rfl⟩
  cases ran
  rfl

theorem ensureActive (phase : Phase) :
    Follows (Work.ensureActive phase : Work σ BatchError Unit) (Pure.pure ()) := by
  refine fun s => ⟨fun {t a} ran => ?_, fun quiet => ?_, rfl⟩
  · have scene : s.stage = t.stage := congrArg (·.2.stage) ran
    rw [scene]
    rfl
  · obtain ⟨live, later⟩ := quiet.look
    rw [Work.ensureActive_run, live]
    exact ⟨later, rfl⟩

theorem write (b : BulkWrite) :
    Follows (Work.write b : Work σ EffectError Nat) (.write b) := by
  refine fun s => ⟨fun ran => ?_, fun quiet => ?_, s.world.around_write b⟩
  · unfold Work.write World.write at ran
    cases planned : s.world.faults.lookup b.kind with
    | some e =>
      simp only [planned] at ran
      cases ran
    | none =>
      rcases wrote : s.world.store.write b with ⟨_ | m, store⟩ <;>
        simp only [planned, wrote] at ran <;> cases ran
      simp only [Rule.write, Scene.stage, wrote]
      rfl
  · obtain ⟨result, later⟩ := quiet.write b
    refine ⟨later, ?_⟩
    change (s.world.write b).1.mapError _ = _
    rw [result]
    simp only [Rule.write, Scene.stage]
    rcases s.world.store.write b with ⟨_ | _, _⟩ <;> rfl

theorem bulk {rows : List β} {write : List β → BulkWrite} {tell : Nat → Work σ EffectError Unit}
    (told : ∀ n, Follows (tell n) (Pure.pure ())) :
    Follows (if rows.isEmpty then Pure.pure () else Work.write (write rows) >>= tell)
      (.onStore fun store => (store.bulk rows write).mapError .store) := by
  by_cases empty : rows.isEmpty
  · rw [if_pos empty]
    refine (pure ()).congr fun stage => ?_
    simp only [Rule.onStore, Store.bulk, empty, if_true]
    rfl
  · rw [if_neg empty]
    refine (bind (Follows.write _) told).congr fun stage => ?_
    rw [Rule.bind_run]
    simp only [Rule.onStore, Rule.write, Store.bulk, empty, Bool.false_eq_true, if_false]
    rcases stage.store.write (write rows) with ⟨_ | _, _⟩ <;> rfl

theorem adapt {work : Work σ ε α} {rule : Rule σ ε α} (wrap : ε → δ) (follows : Follows work rule) :
    Follows (ExceptT.adapt wrap work : Work σ δ α) (rule.wrapped wrap) := by
  refine fun s => ⟨fun ran => ?_, fun quiet => ?_, (follows s).around⟩
  · rw [Work.adapt_run] at ran
    rcases inner : work s with ⟨_ | _, _⟩ <;> rw [inner] at ran <;> cases ran
    rw [Rule.wrapped, (follows s).sound inner]
    rfl
  · obtain ⟨later, result⟩ := (follows s).calm quiet
    rw [Work.adapt_run, Rule.wrapped, result]
    exact ⟨later, by cases rule s.stage <;> rfl⟩

theorem forM {items : List β} {work : β → Work σ ε PUnit} {rule : β → Rule σ ε PUnit}
    (each : ∀ item ∈ items, Follows (work item) (rule item)) :
    Follows (items.forM work) (items.forM rule) := by
  induction items with
  | nil => exact pure ()
  | cons item rest ih =>
    exact bind (each item (by simp)) fun _ => ih fun i member => each i (by simp [member])

theorem each {work : Work σ ε α} {rule : Rule σ ε α} (follows : Follows work rule) :
    Follows (Work.each work) (.each rule) := by
  -- On the subjects, in the world that those before have left.
  rintro ⟨subjects, world⟩
  induction subjects generalizing world with
  | nil =>
    refine ⟨fun ran => ?_, fun quiet => ⟨quiet, rfl⟩, rfl⟩
    cases ran
    rfl
  | cons subject rest ih =>
    have first := follows ⟨subject, world⟩
    refine ⟨fun ran => ?_, fun quiet => ?_, ?_⟩
    · change (rule ⟨subject, world.store⟩ >>= fun (a, stage) =>
        Rule.eachIn rule rest stage.store >>= _) = _
      rw [Work.each_cons] at ran
      rcases before : work ⟨subject, world⟩ with ⟨_ | a, u⟩ <;> rw [before] at ran
      · cases ran
      · have known : rule ⟨subject, world.store⟩ = .ok (a, u.stage) := first.sound before
        rcases after : Work.each work ⟨rest, u.world⟩ with ⟨_ | bs, v⟩ <;>
          simp only [after] at ran <;> cases ran
        have known' : Rule.eachIn rule rest u.world.store = .ok (bs, v.stage) :=
          (ih u.world).sound after
        rw [known]
        change (Rule.eachIn rule rest u.world.store >>= _) = _
        rw [known']
        rfl
    · change _ ∧ _ = Except.map Prod.fst (rule ⟨subject, world.store⟩ >>= fun (a, stage) =>
        Rule.eachIn rule rest stage.store >>= _)
      obtain ⟨quiet', result⟩ := first.calm quiet
      rw [Work.each_cons]
      rcases before : work ⟨subject, world⟩ with ⟨e | a, u⟩ <;> rw [before] at quiet' result
      · refine ⟨quiet', ?_⟩
        rcases given : rule ⟨subject, world.store⟩ with _ | ⟨_, _⟩ <;>
          simp only [Scene.stage, given] at result <;> cases result
        rfl
      · obtain ⟨quiet'', others⟩ := (ih u.world).calm quiet'
        refine ⟨quiet'', ?_⟩
        have known : rule ⟨subject, world.store⟩ = .ok (a, u.stage) := first.sound before
        rw [known]
        change (Work.each work ⟨rest, u.world⟩).1.map _ =
          Except.map Prod.fst (Rule.eachIn rule rest u.world.store >>= _)
        rw [others]
        change Except.map _ (Except.map _ (Rule.eachIn rule rest u.world.store)) = _
        rcases Rule.eachIn rule rest u.world.store with _ | ⟨_, _⟩ <;> rfl
    · have before := first.around
      rw [Work.each_cons]
      rcases ran : work ⟨subject, world⟩ with ⟨_ | a, u⟩ <;> rw [ran] at before
      · exact before
      · exact (ih u.world).around.trans before

theorem runHook {assets : Assets} {id : HookId} {action : HookAction}
    {entries : List SessionEvents} {change : Store → Except EffectError Store}
    (follows : Follows (action assets entries) (.onStore change)) :
    Follows (Batch.runHook assets id action entries : Work σ BatchError Unit)
      (.onStore fun store => (change store).mapError (.hook id)) := by
  intro s
  have inside := follows ⟨(), s.world⟩
  unfold Batch.runHook
  refine ⟨fun {t _} ran => ?_, fun quiet => ?_, inside.around⟩
  · rw [Work.bind_run, Work.beside_run] at ran
    rcases inner : action assets entries ⟨(), s.world⟩ with ⟨_ | _, u⟩ <;>
      simp only [inner, Work.ofExcept_run] at ran <;> cases ran
    have known : (change s.world.store).map (fun store => ((), Stage.mk () store)) =
        .ok ((), u.stage) := inside.sound inner
    cases changed : change s.world.store <;> rw [changed] at known <;> cases known
    simp only [Rule.onStore, Scene.stage, changed]
    rfl
  · obtain ⟨later, result⟩ := inside.calm quiet
    rw [Work.bind_run, Work.beside_run]
    refine ⟨later, ?_⟩
    change (action assets entries ⟨(), s.world⟩).1.mapError _ = _
    rw [result]
    simp only [Rule.onStore, Scene.stage]
    cases change s.world.store <;> rfl

end Follows
end SessionBatch

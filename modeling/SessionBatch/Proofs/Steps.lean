import SessionBatch.Proofs.Availability

namespace SessionBatch

inductive Step where
  | begun
  | committed
  | handled (event : Event)
  | applied (hook : HookId) (entries : List SessionEvents)

structure World.Idle (w u : World) : Prop where
  store : u.store = w.store
  queues : u.cache.queues = w.cache.queues
  deeds : u.deeds = w.deeds

theorem World.Idle.refl (w : World) : w.Idle w := ⟨rfl, rfl, rfl⟩

theorem World.Idle.trans {w u v : World} (first : w.Idle u) (second : u.Idle v) : w.Idle v :=
  ⟨second.store.trans first.store, second.queues.trans first.queues,
    second.deeds.trans first.deeds⟩

namespace Registry

variable {registry : Registry} {assets : Assets}

-- A step from one world to another. A call of a handler or of a hook is one that succeeds.
inductive Takes (registry : Registry) (assets : Assets) : Step → World → World → Prop where
  | begun (w : World) : Takes registry assets .begun w (w.did .begun)
  | committed (w : World) : Takes registry assets .committed w (w.did .committed)
  | handled {event : Event} {run : Handler} {s t : Scene Session}
      (found : registry.handler? event.type = some run)
      (ran : run assets event s = (.ok (), t)) :
      Takes registry assets (.handled event) s.world t.world
  | applied {hook : HookId} {entries : List SessionEvents} {action : HookAction} {s t : Scene Unit}
      (found : registry.hook? hook = some action)
      (ran : action assets entries s = (.ok (), t)) :
      Takes registry assets (.applied hook entries) s.world t.world

inductive Took (registry : Registry) (assets : Assets) : List Step → World → World → Prop where
  | rest {w u : World} (idle : w.Idle u) : Took registry assets [] w u
  | step {step : Step} {steps : List Step} {w u v x : World} (idle : w.Idle u)
      (takes : Takes registry assets step u v) (later : Took registry assets steps v x) :
      Took registry assets (step :: steps) w x

namespace Took

variable {step : Step} {steps more : List Step} {w u v : World}

theorem after_idle (idle : w.Idle u) (took : registry.Took assets steps u v) :
    registry.Took assets steps w v := by
  cases took with
  | rest still => exact .rest (idle.trans still)
  | step still takes later => exact .step (idle.trans still) takes later

theorem append (first : registry.Took assets steps w u) (second : registry.Took assets more u v) :
    registry.Took assets (steps ++ more) w v := by
  induction first with
  | rest idle => exact second.after_idle idle
  | step idle takes _ ih => exact .step idle takes (ih second)

theorem single (takes : registry.Takes assets step w u) : registry.Took assets [step] w u :=
  .step (.refl w) takes (.rest (.refl u))

end Took

variable {σ τ ε δ α β : Type} {x y z : σ} {a : α} {b : β} {steps more : List Step}

-- In any available world the work succeeds, by these steps and with this result, and leaves the
-- world available.
def Goes (registry : Registry) (assets : Assets) (work : Work σ ε α) (x : σ) (steps : List Step)
    (a : α) (y : σ) : Prop :=
  ∀ w : World, w.Available → ∃ u : World, work ⟨x, w⟩ = (.ok a, ⟨y, u⟩) ∧
    registry.Took assets steps w u ∧ u.Available

namespace Goes

theorem pure (a : α) (x : σ) : registry.Goes assets (pure a : Work σ ε α) x [] a x :=
  fun w available => ⟨w, rfl, .rest (.refl w), available⟩

theorem bind {work : Work σ ε α} {next : α → Work σ ε β}
    (first : registry.Goes assets work x steps a y)
    (rest : registry.Goes assets (next a) y more b z) :
    registry.Goes assets (work >>= next) x (steps ++ more) b z := by
  intro w available
  obtain ⟨u, ran, took, later⟩ := first w available
  obtain ⟨v, ran', took', last⟩ := rest u later
  refine ⟨v, ?_, took.append took', last⟩
  rw [Work.bind_run, ran]
  exact ran'

theorem opening {work : Work σ ε α} {next : α → Work σ ε β}
    (first : registry.Goes assets work x [] a y)
    (rest : registry.Goes assets (next a) y steps b z) :
    registry.Goes assets (work >>= next) x steps b z := first.bind rest

theorem ending {work : Work σ ε α} {next : α → Work σ ε β}
    (first : registry.Goes assets work x steps a y)
    (last : registry.Goes assets (next a) y [] b z) :
    registry.Goes assets (work >>= next) x steps b z := by
  have both := first.bind last
  rw [List.append_nil] at both
  exact both

theorem peek {next : Scene σ → Work σ ε α}
    (each : ∀ w, registry.Goes assets (next ⟨x, w⟩) x steps a y) :
    registry.Goes assets (get >>= next) x steps a y :=
  fun w available => each w w available

theorem given {next : α → Work σ ε β} {result : Except ε α} (known : result = .ok a)
    (rest : registry.Goes assets (next a) x steps b y) :
    registry.Goes assets (Work.ofExcept result >>= next) x steps b y := by
  rw [known]
  exact rest

theorem turn (change : σ → σ) (x : σ) :
    registry.Goes assets (modify fun s => { s with subject := change s.subject } : Work σ ε PUnit)
      x [] () (change x) :=
  fun w available => ⟨w, rfl, .rest (.refl w), available⟩

theorem note (level : Level) (text : String) (x : σ) :
    registry.Goes assets (Work.note level text : Work σ ε Unit) x [] () x := by
  intro w available
  exact ⟨w.note level text, rfl, .rest ⟨rfl, rfl, rfl⟩, available.note level text⟩

theorem noting {level : Level} {text : String} {next : Work σ ε α}
    (rest : registry.Goes assets next x steps a y) :
    registry.Goes assets (Work.note level text >>= fun _ => next) x steps a y :=
  (note level text x).bind rest

theorem ensureActive {phase : Phase} {next : Work σ BatchError α}
    (rest : registry.Goes assets next x steps a y) :
    registry.Goes assets (Work.ensureActive phase >>= fun _ => next) x steps a y := by
  intro w available
  obtain ⟨live, later⟩ := available.look
  obtain ⟨u, ran, took, last⟩ := rest w.look.2 later
  have idle : w.Idle w.look.2 := ⟨rfl, rfl, rfl⟩
  refine ⟨u, ?_, took.after_idle idle, last⟩
  rw [Work.bind_run, Work.ensureActive_run, live]
  exact ran

theorem adapt {wrap : ε → δ} {work : Work σ ε α} (goes : registry.Goes assets work x steps a y) :
    registry.Goes assets (ExceptT.adapt wrap work : Work σ δ α) x steps a y := by
  intro w available
  obtain ⟨u, ran, took, later⟩ := goes w available
  refine ⟨u, ?_, took, later⟩
  rw [Work.adapt_run, ran]
  rfl

theorem catching {work : Work σ ε α} {handle : ε → Work σ ε α}
    (goes : registry.Goes assets work x steps a y) :
    registry.Goes assets (tryCatch work handle) x steps a y := by
  intro w available
  obtain ⟨u, ran, took, later⟩ := goes w available
  refine ⟨u, ?_, took, later⟩
  rw [Work.tryCatch_run, ran]

theorem beside {subject subject' : τ} {work : Work τ δ α}
    (goes : registry.Goes assets work subject steps a subject') (x : σ) :
    registry.Goes assets (Work.beside subject work : Work σ ε _) x steps (.ok a, subject') x := by
  intro w available
  obtain ⟨u, ran, took, later⟩ := goes w available
  refine ⟨u, ?_, took, later⟩
  rw [Work.beside_run, ran]

theorem forM {items : List β} {work : β → Work σ ε PUnit} {stepsOf : β → List Step}
    {become : σ → β → σ}
    (each : ∀ item ∈ items, ∀ x, registry.Goes assets (work item) x (stepsOf item) ()
      (become x item)) (x : σ) :
    registry.Goes assets (items.forM work) x (items.flatMap stepsOf) () (items.foldl become x) := by
  induction items generalizing x with
  | nil => exact pure () x
  | cons item rest ih =>
    have first := each item (by simp) x
    exact first.bind (ih (fun other member => each other (by simp [member])) (become x item))

theorem forM_still {items : List β} {work : β → Work σ ε PUnit} {stepOf : β → Step}
    (each : ∀ item ∈ items, registry.Goes assets (work item) x [stepOf item] () x) :
    registry.Goes assets (items.forM work) x (items.map stepOf) () x := by
  induction items with
  | nil => exact pure () x
  | cons item rest ih =>
    have first := each item (by simp)
    exact first.bind (ih fun other member => each other (by simp [member]))

theorem each {work : Work σ ε α} {subjects : List σ} {stepsOf : σ → List Step} {value : σ → α}
    {become : σ → σ}
    (goes : ∀ x ∈ subjects, registry.Goes assets work x (stepsOf x) (value x) (become x)) :
    registry.Goes assets (Work.each work) subjects (subjects.flatMap stepsOf)
      (subjects.map value) (subjects.map become) := by
  induction subjects with
  | nil => exact fun w available => ⟨w, rfl, .rest (.refl w), available⟩
  | cons x rest ih =>
    intro w available
    obtain ⟨u, ran, took, later⟩ := goes x (by simp) w available
    obtain ⟨v, ran', took', last⟩ := ih (fun y member => goes y (by simp [member])) u later
    refine ⟨v, ?_, took.append took', last⟩
    rw [Work.each_cons, ran]
    dsimp only
    rw [ran']
    rfl

theorem transaction {body : Work σ BatchError α} (goes : registry.Goes assets body x steps a y) :
    registry.Goes assets (Work.transaction body) x (.begun :: (steps ++ [.committed])) a y := by
  intro w available
  obtain ⟨_, _, met⟩ := available.meet
  obtain ⟨u, ran, took, later⟩ := goes (w.meet.2.did .begun) (met.did .begun)
  have idle : w.Idle w.meet.2 := ⟨rfl, Scene.met_queues ⟨x, w⟩, rfl⟩
  have noted : u.Idle (u.note .debug ("memory_tx:commit statements=" ++
      toString u.store.statements)) := ⟨rfl, rfl, rfl⟩
  refine ⟨_, Work.transaction_available (s := ⟨x, w⟩) available ran, ?_, ?_⟩
  · exact .step idle (.begun _) (took.append (.step noted (.committed _) (.rest (.refl _))))
  · exact (later.note _ _).did _

end Goes
end Registry
end SessionBatch

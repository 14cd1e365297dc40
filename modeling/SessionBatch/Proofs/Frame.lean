import SessionBatch.Proofs.Work

namespace SessionBatch.Work

variable {σ τ ε δ α β γ κ : Type} {look : σ → β} {view : World → γ}

-- What is seen of the subject and of the world is the same after the work as before it, whether
-- the work succeeds or fails.
def Fixes (look : σ → β) (view : World → γ) (work : Work σ ε α) : Prop :=
  ∀ s, look (work s).2.subject = look s.subject ∧ view (work s).2.world = view s.world

namespace Fixes

theorem pure (a : α) : Fixes look view (pure a : Work σ ε α) := fun _ => ⟨rfl, rfl⟩

theorem throw (e : ε) : Fixes look view (throw e : Work σ ε α) := fun _ => ⟨rfl, rfl⟩

theorem get : Fixes look view (get : Work σ ε (Scene σ)) := fun _ => ⟨rfl, rfl⟩

theorem ofExcept (result : Except ε α) : Fixes look view (Work.ofExcept result) :=
  fun _ => ⟨rfl, rfl⟩

theorem bind {work : Work σ ε α} {next : α → Work σ ε κ} (first : Fixes look view work)
    (rest : ∀ a, Fixes look view (next a)) : Fixes look view (work >>= next) := by
  intro s
  have before := first s
  rw [bind_run]
  rcases ran : work s with ⟨_ | a, t⟩ <;> rw [ran] at before
  · exact before
  · have after := rest a t
    exact ⟨after.1.trans before.1, after.2.trans before.2⟩

theorem given {result : Except ε α} {next : α → Work σ ε κ}
    (rest : ∀ a, result = .ok a → Fixes look view (next a)) :
    Fixes look view (Work.ofExcept result >>= next) := by
  cases result with
  | error e => exact throw e
  | ok a => exact rest a rfl

theorem adapt {work : Work σ ε α} (wrap : ε → δ) (fixed : Fixes look view work) :
    Fixes look view (ExceptT.adapt wrap work : Work σ δ α) := fun s => fixed s

theorem turn {change : σ → σ} (unseen : ∀ subject, look (change subject) = look subject) :
    Fixes look view
      (modify fun s => { s with subject := change s.subject } : Work σ ε PUnit) :=
  fun s => ⟨unseen s.subject, rfl⟩

theorem note {level : Level} {text : String}
    (unseen : ∀ w : World, view (w.note level text) = view w) :
    Fixes look view (Work.note level text : Work σ ε Unit) := fun s => ⟨rfl, unseen s.world⟩

theorem ensureActive {phase : Phase} (unseen : ∀ w : World, view w.look.2 = view w) :
    Fixes look view (Work.ensureActive phase : Work σ BatchError Unit) :=
  fun s => ⟨rfl, unseen s.world⟩

theorem write {b : BulkWrite} (unseen : ∀ w : World, view (w.write b).2 = view w) :
    Fixes look view (Work.write b : Work σ EffectError Nat) := fun s => ⟨rfl, unseen s.world⟩

theorem forM {items : List κ} {work : κ → Work σ ε PUnit}
    (fixed : ∀ item ∈ items, Fixes look view (work item)) :
    Fixes look view (items.forM work) := by
  induction items with
  | nil => exact pure ()
  | cons item rest ih =>
    exact bind (fixed item (by simp)) fun _ => ih fun i member => fixed i (by simp [member])

theorem beside {lookIn : τ → κ} {subject : τ} {work : Work τ δ α} (fixed : Fixes lookIn view work) :
    Fixes look view (Work.beside subject work : Work σ ε (Except δ α × τ)) :=
  fun s => ⟨rfl, (fixed ⟨subject, s.world⟩).2⟩

theorem each {work : Work σ ε α} (fixed : Fixes look view work) :
    Fixes (List.map look) view (Work.each work) := by
  rintro ⟨subjects, world⟩
  induction subjects generalizing world with
  | nil => exact ⟨rfl, rfl⟩
  | cons subject rest ih =>
    have first := fixed ⟨subject, world⟩
    rw [each_cons]
    rcases ran : work ⟨subject, world⟩ with ⟨_ | a, s⟩ <;> rw [ran] at first
    · exact ⟨congrArg (· :: rest.map look) first.1, first.2⟩
    · obtain ⟨others, same⟩ := ih s.world
      have seen : look s.subject :: (Work.each work ⟨rest, s.world⟩).2.subject.map look =
          look subject :: rest.map look := by
        rw [others]
        exact congrArg (· :: rest.map look) first.1
      exact ⟨seen, same.trans first.2⟩

end Fixes

def Raises (kind : ε → Prop) (work : Work σ ε α) (s : Scene σ) : Prop :=
  ∀ e, (work s).1 = .error e → kind e

namespace Raises

variable {kind : ε → Prop}

theorem of_ok {work : Work σ ε α} {s t : Scene σ} {a : α} (done : work s = (.ok a, t)) :
    Raises kind work s := by
  intro e failed
  rw [done] at failed
  cases failed

theorem ofExcept {result : Except ε α} (known : ∀ e, result = .error e → kind e) (s : Scene σ) :
    Raises kind (Work.ofExcept result) s := known

theorem adapt {work : Work σ δ α} {wrap : δ → ε} (known : ∀ cause, kind (wrap cause))
    (s : Scene σ) : Raises kind (ExceptT.adapt wrap work) s := by
  intro e failed
  rw [adapt_run] at failed
  rcases ran : work s with ⟨cause | _, _⟩ <;> rw [ran] at failed <;> cases failed
  exact known cause

theorem bind {work : Work σ ε α} {next : α → Work σ ε κ} {s : Scene σ}
    (first : Raises kind work s)
    (rest : ∀ a t, work s = (.ok a, t) → Raises kind (next a) t) :
    Raises kind (work >>= next) s := by
  intro e failed
  rw [bind_run] at failed
  rcases ran : work s with ⟨cause | a, t⟩ <;> rw [ran] at failed
  · cases failed
    exact first e (by rw [ran])
  · exact rest a t ran e failed

theorem forM {items : List κ} {work : κ → Work σ ε PUnit}
    (each : ∀ item ∈ items, ∀ s, Raises kind (work item) s) (s : Scene σ) :
    Raises kind (items.forM work) s := by
  induction items generalizing s with
  | nil => exact of_ok rfl
  | cons item rest ih =>
    refine bind (each item (by simp) s) fun _ t _ => ?_
    exact ih (fun i member => each i (by simp [member])) t

theorem each {work : Work σ ε α} {subjects : List σ}
    (raises : ∀ subject ∈ subjects, ∀ world, Raises kind work ⟨subject, world⟩) (world : World) :
    Raises kind (Work.each work) ⟨subjects, world⟩ := by
  induction subjects generalizing world with
  | nil => exact of_ok rfl
  | cons subject rest ih =>
    intro e failed
    rw [each_cons] at failed
    rcases ran : work ⟨subject, world⟩ with ⟨cause | a, s⟩ <;> rw [ran] at failed
    · cases failed
      exact raises subject (by simp) world e (by rw [ran])
    · refine ih (fun i member => raises i (by simp [member])) s.world e ?_
      change ((Work.each work ⟨rest, s.world⟩).1.map (a :: ·)) = .error e at failed
      rcases inner : (Work.each work ⟨rest, s.world⟩).1 with cause | as <;> rw [inner] at failed
      · exact failed
      · cases failed

end Raises

-- Scenes in which the same is seen are treated the same, and the same is seen in them afterwards.
def Respects (seen : Scene σ → γ) (work : Work σ ε α) : Prop :=
  ∀ s t, seen s = seen t → (work s).1 = (work t).1 ∧ seen (work s).2 = seen (work t).2

namespace Respects

variable {seen : Scene σ → γ}

theorem pure (a : α) : Respects seen (pure a : Work σ ε α) := fun _ _ same => ⟨rfl, same⟩

theorem throw (e : ε) : Respects seen (throw e : Work σ ε α) := fun _ _ same => ⟨rfl, same⟩

theorem ofExcept (result : Except ε α) : Respects seen (Work.ofExcept result) :=
  fun _ _ same => ⟨rfl, same⟩

theorem bind {work : Work σ ε α} {next : α → Work σ ε κ} (first : Respects seen work)
    (rest : ∀ a, Respects seen (next a)) : Respects seen (work >>= next) := by
  intro s t same
  obtain ⟨result, after⟩ := first s t same
  rw [bind_run, bind_run]
  rcases ran : work s with ⟨e | a, u⟩ <;> rcases ran' : work t with ⟨e' | a', v⟩ <;>
    rw [ran, ran'] at result after <;> cases result
  · exact ⟨rfl, after⟩
  · exact rest a u v after

theorem peek {next : Scene σ → Work σ ε α} (shown : ∀ s t, seen s = seen t → s.subject = t.subject)
    (unseen : ∀ s t, s.subject = t.subject → next s = next t)
    (each : ∀ s, Respects seen (next s)) : Respects seen (get >>= next) := by
  intro s t same
  change (next s s).1 = (next t t).1 ∧ seen (next s s).2 = seen (next t t).2
  rw [unseen s t (shown s t same)]
  exact each t s t same

theorem given {result : Except ε κ} {next : κ → Work σ ε α}
    (rest : ∀ a, result = .ok a → Respects seen (next a)) :
    Respects seen (Work.ofExcept result >>= next) := by
  cases result with
  | error e => exact throw e
  | ok a => exact rest a rfl

theorem adapt {wrap : δ → ε} {work : Work σ δ α} (respects : Respects seen work) :
    Respects seen (ExceptT.adapt wrap work : Work σ ε α) := by
  intro s t same
  obtain ⟨result, after⟩ := respects s t same
  exact ⟨congrArg (Except.mapError wrap) result, after⟩

theorem forM {items : List κ} {work : κ → Work σ ε PUnit}
    (each : ∀ item ∈ items, Respects seen (work item)) : Respects seen (items.forM work) := by
  induction items with
  | nil => exact pure ()
  | cons item rest ih =>
    apply bind (each item (by simp))
    intro _
    exact ih fun i member => each i (by simp [member])

end Respects
end SessionBatch.Work

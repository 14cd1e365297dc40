import SessionBatch.Proofs.Composition
import SessionBatch.Proofs.Sparing

namespace SessionBatch

variable {σ ε α β κ : Type}

theorem World.write_spared (b : BulkWrite) (w : World) :
    w.spared.write b = ((w.write b).1, (w.write b).2.spared) := by
  have faults : w.spared.faults = w.faults := rfl
  unfold World.write
  rw [faults]
  cases w.faults.lookup b.kind <;> rfl

theorem World.push_spared (org : OrgId) (messages : List QueuedMessage) (w : World) :
    w.spared.push org messages = ((w.push org messages).1, (w.push org messages).2.spared) := rfl

namespace Work.Discreet

theorem of_same {work : Work σ ε α}
    (same : ∀ s, work s.spared = ((work s).1, (work s).2.spared))
    (context : ∀ s, (work s).2.world.context = s.world.context)
    (clock : ∀ s, (work s).2.world.clock = s.world.clock) : work.Discreet where
  blind s t alike := by
    have both := (same s).symm.trans ((congrArg work alike).trans (same t))
    exact Prod.mk.inj both
  context s := .inl (context s)
  clock := clock

theorem pure (a : α) : Discreet (pure a : Work σ ε α) :=
  .of_same (fun _ => rfl) (fun _ => rfl) fun _ => rfl

theorem throw (e : ε) : Discreet (throw e : Work σ ε α) :=
  .of_same (fun _ => rfl) (fun _ => rfl) fun _ => rfl

theorem note (level : Level) (text : String) :
    Discreet (Work.note level text : Work σ ε Unit) :=
  .of_same (fun _ => rfl) (fun _ => rfl) fun _ => rfl

theorem turn (change : σ → σ) :
    Discreet (modify fun s => { s with subject := change s.subject } : Work σ ε PUnit) :=
  .of_same (fun _ => rfl) (fun _ => rfl) fun _ => rfl

theorem write (b : BulkWrite) : Discreet (Work.write b : Work σ EffectError Nat) := by
  refine .of_same (fun s => ?_) (fun s => ?_) fun s => ?_
  · have same : s.spared.world.write b = _ := s.world.write_spared b
    unfold Work.write
    rw [same]
    rfl
  all_goals
    unfold Work.write World.write
    cases s.world.faults.lookup b.kind <;> rfl

theorem push (org : OrgId) (messages : List QueuedMessage) :
    Discreet (Work.push org messages : Work σ EffectError Unit) := by
  refine .of_same (fun s => ?_) (fun _ => rfl) fun _ => rfl
  have same : s.spared.world.push org messages = _ := s.world.push_spared org messages
  unfold Work.push
  rw [same]
  rfl

theorem cancel : Discreet (modify fun s => { s with world := s.world.cancel } : Work σ ε PUnit) where
  blind _ _ alike := ⟨rfl, alike⟩
  context _ := .inr rfl
  clock _ := rfl

theorem bind {work : Work σ ε α} {next : α → Work σ ε β} (first : work.Discreet)
    (rest : ∀ a, (next a).Discreet) : (work >>= next).Discreet where
  blind := Respects.bind first.blind fun a => (rest a).blind
  context s := by
    have before := first.context s
    rw [bind_run]
    rcases ran : work s with ⟨e | a, t⟩ <;> rw [ran] at before
    · exact before
    · rcases (rest a).context t with still | cancels
      · exact before.imp still.trans still.trans
      · refine .inr ?_
        rcases before with same | same
        · exact cancels.trans (congrArg Context.cancel same)
        · have again : t.world.context.cancel = s.world.context.cancel := by
            rw [show t.world.context = s.world.context.cancel from same]
            rfl
          exact cancels.trans again
  clock s := by
    have before := first.clock s
    rw [bind_run]
    rcases ran : work s with ⟨e | a, t⟩ <;> rw [ran] at before
    · exact before
    · exact ((rest a).clock t).trans before

theorem peek {next : Scene σ → Work σ ε α}
    (unseen : ∀ s t, s.subject = t.subject → next s = next t) (each : ∀ s, (next s).Discreet) :
    (get >>= next).Discreet where
  blind := Respects.peek (fun _ _ alike => (congrArg Scene.subject alike :)) unseen fun s =>
    (each s).blind
  context s := (each s).context s
  clock s := (each s).clock s

theorem forM {items : List κ} {work : κ → Work σ ε PUnit} (each : ∀ item, (work item).Discreet) :
    (items.forM work).Discreet := by
  induction items with
  | nil => exact pure ()
  | cons item rest ih => exact bind (each item) fun _ => ih

end Work.Discreet

theorem Work.Composed.discreet {turns : (σ → σ) → Prop} {pushes : Prop} {α : Type}
    {work : Work σ EffectError α} (composed : Composed turns pushes work) : work.Discreet := by
  induction composed with
  | pure a => exact .pure a
  | throw e => exact .throw e
  | note level text => exact .note level text
  | turn => exact .turn _
  | write b => exact .write b
  | push org messages => exact .push org messages
  | bind _ _ first rest => exact .bind first rest
  | peek unseen _ each => exact .peek unseen each

namespace Registry

theorem standardHandler_discreet (type : EventType) (assets : Assets) (event : Event) :
    Work.Discreet (standardHandler type assets event) := by
  have composed : Work.Composed Session.Defers False (standardHandler type assets event) :=
    standardHandler_composed type assets event
  exact composed.discreet

theorem standardHook_discreet (id : HookId) (assets : Assets) (entries : List SessionEvents) :
    Work.Discreet (standardHook id assets entries) := by
  have composed : Work.Composed (fun _ => True) _ (standardHook id assets entries) :=
    standardHook_composed id assets entries
  exact composed.discreet

theorem standard_discreet : Registry.standard.Discreet where
  handlers type run found assets event := by
    rw [handler?_standard] at found
    cases found
    exact standardHandler_discreet type assets event
  hooks id action found assets entries := by
    rw [hook?_standard] at found
    cases found
    exact standardHook_discreet id assets entries

end Registry

namespace Rehearsal

theorem outside_discreet (act : Act) : Work.Discreet (act.outside : Work σ EffectError Unit) := by
  cases act with
  | defer => exact .pure _
  | deferPost => exact .pure _
  | fail e => exact .throw e
  | cancel => exact .cancel
  | loseBackend => exact .of_same (fun _ => rfl) (fun _ => rfl) fun _ => rfl
  | setCacheFailing value => exact .of_same (fun _ => rfl) (fun _ => rfl) fun _ => rfl

theorem handler_discreet (acts : List Act) (assets : Assets) (event : Event) :
    Work.Discreet (handler acts assets event) := by
  refine .forM fun act => ?_
  cases act with
  | defer hook => exact .turn fun session : Session => session.deferPre hook event
  | deferPost hook => exact .turn fun session : Session => session.deferPost hook event
  | fail e => exact outside_discreet (.fail e)
  | cancel => exact outside_discreet .cancel
  | loseBackend => exact outside_discreet .loseBackend
  | setCacheFailing value => exact outside_discreet (.setCacheFailing value)

theorem hook_discreet (id : HookId) (acts : List Act) (assets : Assets)
    (entries : List SessionEvents) : Work.Discreet (hook id acts assets entries) := by
  have recording : Work.Discreet (modify fun s => s.did (.hookCalled id entries) :
      Work Unit EffectError PUnit) := .of_same (fun _ => rfl) (fun _ => rfl) fun _ => rfl
  exact .bind recording fun _ => .forM outside_discreet

end Rehearsal
end SessionBatch

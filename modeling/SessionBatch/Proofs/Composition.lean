import SessionBatch.Proofs.Frame
import SessionBatch.Registry.Standard

namespace SessionBatch

open Effect

namespace Work

variable {σ β κ : Type}

-- Work that is put together from steps of a few kinds: lines of the log, turns of the subject of
-- a given kind, bulk writes, and pushes to the cache where these are allowed.
inductive Composed (turns : (σ → σ) → Prop) (pushes : Prop) :
    ∀ {α : Type}, Work σ EffectError α → Prop
  | pure {α : Type} (a : α) : Composed turns pushes (pure a)
  | throw {α : Type} (e : EffectError) : Composed turns pushes (throw e : Work σ EffectError α)
  | note (level : Level) (text : String) : Composed turns pushes (Work.note level text)
  | turn {change : σ → σ} (kind : turns change) :
      Composed turns pushes (modify fun s => { s with subject := change s.subject })
  | write (b : BulkWrite) : Composed turns pushes (Work.write b)
  | push (org : OrgId) (messages : List QueuedMessage) (allowed : pushes) :
      Composed turns pushes (Work.push org messages)
  | bind {α β : Type} {work : Work σ EffectError α} {next : α → Work σ EffectError β}
      (first : Composed turns pushes work) (rest : ∀ a, Composed turns pushes (next a)) :
      Composed turns pushes (work >>= next)
  | peek {α : Type} {next : Scene σ → Work σ EffectError α}
      (unseen : ∀ s t, s.subject = t.subject → next s = next t)
      (each : ∀ s, Composed turns pushes (next s)) : Composed turns pushes (get >>= next)

namespace Composed

variable {turns : (σ → σ) → Prop} {pushes : Prop}

theorem ofExcept (result : Except EffectError β) :
    Composed turns pushes (Work.ofExcept result) := by
  cases result with
  | error e => exact .throw e
  | ok a => exact .pure a

theorem forM {items : List κ} {work : κ → Work σ EffectError PUnit}
    (each : ∀ item, Composed turns pushes (work item)) :
    Composed turns pushes (items.forM work) := by
  induction items with
  | nil => exact .pure ()
  | cons item rest ih => exact .bind (each item) fun _ => ih

theorem fixes {look : σ → κ} {α : Type} {work : Work σ EffectError α}
    (kept : ∀ change, turns change → ∀ subject, look (change subject) = look subject)
    (composed : Composed turns pushes work) : Fixes look (fun _ => ()) work := by
  induction composed with
  | pure a => exact .pure a
  | throw e => exact .throw e
  | note level text => exact .note fun _ => rfl
  | turn kind => exact .turn (kept _ kind)
  | write b => exact .write fun _ => rfl
  | push org messages allowed => exact fun _ => ⟨rfl, rfl⟩
  | bind _ _ first rest => exact .bind first rest
  | peek _ _ each => exact .bind .get each

end Composed
end Work

namespace Session

-- Events are deferred to hooks, and those before the commit are not offered what is to follow it.
inductive Defers : (Session → Session) → Prop
  | pre {hook : HookId} {event : Event} (before : hook ≠ .queueMessages) :
      Defers fun session => session.deferPre hook event
  | post {hook : HookId} {event : Event} {change : Session → Session} (before : Defers change) :
      Defers fun session => (change session).deferPost hook event

theorem Defers.clearQueues {change : Session → Session} (defers : Defers change)
    (session : Session) : (change session).clearQueues = session.clearQueues := by
  induction defers with
  | pre => rfl
  | post _ ih => exact ih

theorem Defers.preCommit {change : Session → Session} (defers : Defers change)
    (session : Session) :
    (change session).preCommit[HookId.queueMessages]?.getD [] =
      session.preCommit[HookId.queueMessages]?.getD [] := by
  induction defers with
  | pre before => simp [deferPre, HookQueue.getElem?_defer, before]
  | post _ ih => exact ih

end Session

namespace Registry

open Work

variable {pushes : Prop} {β : Type}

theorem deferring_composed (hook : HookId) (before : hook ≠ .queueMessages) (event : Event)
    (level : Level) (text : String) :
    Composed Session.Defers pushes (do
      Work.note level text
      modify fun s => { s with subject := s.subject.deferPre hook event } :
        Work Session EffectError Unit) :=
  .bind (.note level text) fun _ => .turn (Session.Defers.pre before)

theorem standardHandler_composed (type : EventType) (assets : Assets) (event : Event) :
    Composed Session.Defers pushes (standardHandler type assets event) := by
  cases type with
  | contactNameChanged =>
    refine .peek (fun s t same => by simp only [same]) fun s => ?_
    dsimp only
    split
    · exact .throw _
    · exact deferring_composed .commitNameChanges (by decide) event _ _
  | contactLanguageChanged =>
    refine .peek (fun s t same => by simp only [same]) fun s => ?_
    dsimp only
    split
    · exact .throw _
    · split
      · exact deferring_composed .commitLanguageChanges (by decide) event _ _
      · exact .throw _
  | contactFieldChanged =>
    refine .peek (fun s t same => by simp only [same]) fun s => ?_
    dsimp only
    split
    · exact .throw _
    · split
      · exact .note _ _
      · exact deferring_composed .commitFieldChanges (by decide) event _ _
  | contactGroupsChanged =>
    refine .peek (fun s t same => by simp only [same]) fun s => ?_
    dsimp only
    split
    · exact .throw _
    · exact .bind (.forM fun _ => .note _ _) fun _ =>
        deferring_composed .commitGroupChanges (by decide) event _ _
  | msgCreated =>
    refine .peek (fun s t same => by simp only [same]) fun s => ?_
    dsimp only
    split
    · exact .throw _
    · split
      · exact .throw _
      · have defers : Session.Defers fun session =>
            (session.deferPre .commitMessages event).deferPost .queueMessages event :=
          .post (.pre (by decide))
        exact .bind (.note _ _) fun _ => .turn defers
  | inputLabelsAdded =>
    refine .peek (fun s t same => by simp only [same]) fun s => ?_
    dsimp only
    split
    · refine .bind (.forM fun _ => .note _ _) fun _ => ?_
      split
      · exact .pure _
      · exact .bind (.write _) fun _ => .note _ _
    · exact .throw _
  | error =>
    refine .peek (fun s t same => by simp only [same]) fun s => ?_
    dsimp only
    split
    · exact .note _ _
    · exact .throw _

variable {turns : (Unit → Unit) → Prop}

theorem writeRows_composed (rows : List β) (write : List β → BulkWrite)
    (line : Nat → Nat → String) : Composed turns pushes (writeRows rows write line) := by
  unfold writeRows
  split
  · exact .pure _
  · exact .bind (.write _) fun _ => .note _ _

-- The hook that follows the commit is the only one that pushes.
theorem standardHook_composed (id : HookId) (assets : Assets) (entries : List SessionEvents) :
    Composed turns (id = .queueMessages) (standardHook id assets entries) := by
  cases id with
  | commitNameChanges => exact .bind (.ofExcept _) fun _ => writeRows_composed _ _ _
  | commitLanguageChanges => exact .bind (.ofExcept _) fun _ => writeRows_composed _ _ _
  | commitFieldChanges => exact .bind (.ofExcept _) fun _ => writeRows_composed _ _ _
  | commitGroupChanges =>
    exact .bind (.ofExcept _) fun _ => .bind (writeRows_composed _ _ _) fun _ =>
      writeRows_composed _ _ _
  | commitMessages => exact .bind (.ofExcept _) fun _ => writeRows_composed _ _ _
  | queueMessages =>
    refine .bind (.ofExcept _) fun taken => ?_
    dsimp only
    split
    · exact .pure _
    · exact .bind (.push _ _ rfl) fun _ => .note _ _

end Registry
end SessionBatch

import SessionBatch.World

namespace SessionBatch

namespace Scene

variable {σ : Type}

def met (s : Scene σ) : Scene σ := { s with world := s.world.meet.2 }

@[simp] theorem met_subject (s : Scene σ) : s.met.subject = s.subject := rfl
@[simp] theorem met_store (s : Scene σ) : s.met.world.store = s.world.store := rfl
@[simp] theorem met_outage (s : Scene σ) : s.met.world.outage = s.world.outage := rfl

-- A circumstance may put the cache out of reach; it empties no queue.
@[simp] theorem met_queues (s : Scene σ) : s.met.world.cache.queues = s.world.cache.queues := by
  unfold met World.meet
  dsimp only
  split <;> rfl

end Scene

namespace Work

variable {σ τ ε δ α β γ : Type}

theorem bind_run (work : Work σ ε α) (next : α → Work σ ε β) (s : Scene σ) :
    (work >>= next) s =
      match work s with
      | (.ok a, t) => next a t
      | (.error e, t) => (.error e, t) := by
  change (match work s with | (result, t) => ExceptT.bindCont next result t) = _
  rcases work s with ⟨_ | _, t⟩ <;> rfl

theorem tryCatch_run (work : Work σ ε α) (handle : ε → Work σ ε α) (s : Scene σ) :
    tryCatch work handle s =
      match work s with
      | (.ok a, t) => (.ok a, t)
      | (.error e, t) => handle e t := by
  change (match work s with
    | (result, t) => (match result with
      | .ok a => (pure a : Work σ ε α)
      | .error e => handle e) t) = _
  rcases work s with ⟨_ | _, t⟩ <;> rfl

theorem pure_run (a : α) (s : Scene σ) : (pure a : Work σ ε α) s = (.ok a, s) := rfl

theorem throw_run (e : ε) (s : Scene σ) : (throw e : Work σ ε α) s = (.error e, s) := rfl

theorem get_run (s : Scene σ) : (get : Work σ ε (Scene σ)) s = (.ok s, s) := rfl

theorem modify_run (change : Scene σ → Scene σ) (s : Scene σ) :
    (modify change : Work σ ε Unit) s = (.ok (), change s) := rfl

theorem note_run (level : Level) (text : String) (s : Scene σ) :
    (note level text : Work σ ε Unit) s = (.ok (), s.note level text) := rfl

theorem ofExcept_run (result : Except ε α) (s : Scene σ) :
    (ofExcept result : Work σ ε α) s = (result, s) := rfl

theorem adapt_run (wrap : ε → δ) (work : Work σ ε α) (s : Scene σ) :
    (ExceptT.adapt wrap work : Work σ δ α) s = ((work s).1.mapError wrap, (work s).2) := rfl

theorem beside_run (subject : τ) (work : Work τ δ α) (s : Scene σ) :
    (beside subject work : Work σ ε _) s =
      (.ok ((work ⟨subject, s.world⟩).1, (work ⟨subject, s.world⟩).2.subject),
        { s with world := (work ⟨subject, s.world⟩).2.world }) := rfl

theorem ensureActive_run (phase : Phase) (s : Scene σ) :
    ensureActive phase s =
      (if s.world.look.1 then .error (.cancelled phase) else .ok (),
        { s with world := s.world.look.2 }) := rfl

theorem each_cons (work : Work σ ε α) (subject : σ) (rest : List σ) (world : World) :
    each work ⟨subject :: rest, world⟩ =
      match work ⟨subject, world⟩ with
      | (.error e, s) => (.error e, ⟨s.subject :: rest, s.world⟩)
      | (.ok a, s) =>
        let (result, t) := each work ⟨rest, s.world⟩
        (result.map (a :: ·), ⟨s.subject :: t.subject, t.world⟩) := rfl

theorem closing_ok {failure : Option StoreError} {body : Work σ BatchError α} {s t : Scene σ}
    {a : α} (done : closing failure body s = (.ok a, t)) : failure = none ∧ body s = (.ok a, t) := by
  unfold closing at done
  rcases ran : body s with ⟨_ | b, u⟩ <;> cases failure <;> simp only [ran] at done <;> cases done
  exact ⟨rfl, rfl⟩

theorem closing_error {failure : Option StoreError} {body : Work σ BatchError α} {s t : Scene σ}
    {e : BatchError} (failed : closing failure body s = (.error e, t)) :
    (body s).2 = t ∧ ((body s).1 = .error e ∨ ∃ cause, e = .resource cause) := by
  unfold closing at failed
  rcases ran : body s with ⟨_ | b, u⟩ <;> cases failure <;> simp only [ran] at failed <;>
    cases failed
  · exact ⟨rfl, .inl rfl⟩
  · exact ⟨rfl, .inl rfl⟩
  · exact ⟨rfl, .inr ⟨_, rfl⟩⟩

theorem transaction_open {body : Work σ BatchError α} {s : Scene σ}
    (admitted : s.world.meet.1.refused = none) (present : s.world.outage = none) :
    transaction body s =
      match closing s.world.meet.1.commitFails body (s.met.did .begun) with
      | (.ok a, t) =>
        let statements := toString t.world.store.statements
        (.ok a, (t.note .debug ("memory_tx:commit statements=" ++ statements)).did .committed)
      | (.error e, t) =>
        let reverted := { t with world := { t.world with store := s.world.store } }
        (.error e,
          (reverted.note .debug ("memory_tx:rollback err=" ++ e.message)).did .rolledBack) := by
  have present' : s.world.meet.2.outage = none := present
  simp only [transaction, admitted, present', Scene.met]
  generalize closing _ _ _ = run
  rcases run with ⟨_ | _, _⟩ <;> rfl

theorem transaction_ok {body : Work σ BatchError α} {s t : Scene σ} {a : α}
    (done : transaction body s = (.ok a, t)) :
    ∃ u, body (s.met.did .begun) = (.ok a, u) ∧ t.subject = u.subject ∧
      t.world.store = u.world.store ∧ t.world.cache = u.world.cache := by
  cases admitted : s.world.meet.1.refused with
  | some e =>
    simp only [transaction, admitted] at done
    cases done
  | none =>
    cases present : s.world.outage with
    | some e =>
      have present' : s.world.meet.2.outage = some e := present
      simp only [transaction, admitted, present'] at done
      cases done
    | none =>
      rw [transaction_open admitted present] at done
      rcases closed : closing s.world.meet.1.commitFails body (s.met.did .begun) with ⟨e | b, u⟩ <;>
        simp only [closed] at done <;> cases done
      exact ⟨u, (closing_ok closed).2, rfl, rfl, rfl⟩

-- A failed transaction either never ran its body or undid what it had written. What the body
-- did to its subjects stays done.
theorem transaction_error {body : Work σ BatchError α} {s t : Scene σ} {e : BatchError}
    (failed : transaction body s = (.error e, t)) :
    t.world.store = s.world.store ∧
      ((t.subject = s.subject ∧ t.world.cache.queues = s.world.cache.queues ∧
          ∃ cause, e = .resource cause) ∨
        (t.subject = (body (s.met.did .begun)).2.subject ∧
          t.world.cache = (body (s.met.did .begun)).2.world.cache ∧
          ((body (s.met.did .begun)).1 = .error e ∨ ∃ cause, e = .resource cause))) := by
  have store := store_transaction_of_error (show (transaction body s).1 = .error e by rw [failed])
  rw [failed] at store
  refine ⟨store, ?_⟩
  cases admitted : s.world.meet.1.refused with
  | some cause =>
    simp only [transaction, admitted] at failed
    cases failed
    exact .inl ⟨rfl, s.met_queues, cause, rfl⟩
  | none =>
    cases present : s.world.outage with
    | some cause =>
      have present' : s.world.meet.2.outage = some cause := present
      simp only [transaction, admitted, present'] at failed
      cases failed
      exact .inl ⟨rfl, s.met_queues, cause, rfl⟩
    | none =>
      rw [transaction_open admitted present] at failed
      rcases closed : closing s.world.meet.1.commitFails body (s.met.did .begun) with
        ⟨cause | b, u⟩ <;> simp only [closed] at failed <;> cases failed
      obtain ⟨rfl, cause⟩ := closing_error closed
      exact .inr ⟨rfl, rfl, cause⟩

end Work
end SessionBatch

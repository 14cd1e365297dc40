import SessionBatch.Proofs.Commitment

namespace SessionBatch

-- A calm world whose backend takes and commits every transaction, whatever becomes of the cache.
structure World.Available (w : World) : Prop extends World.Calm w where
  reachable : w.outage = none
  harmless : ∀ c ∈ w.ahead, c.refused = none ∧ c.commitFails = none

namespace World.Available

variable {w u : World}

theorem of_around (available : w.Available) (calm : u.Calm) (same : u.around = w.around) :
    u.Available := by
  unfold around at same
  rw [Prod.mk.injEq, Prod.mk.injEq] at same
  obtain ⟨_, outage, ahead⟩ := same
  refine ⟨calm, ?_, ?_⟩
  · rw [outage]
    exact available.reachable
  · rw [ahead]
    exact available.harmless

theorem note (available : w.Available) (level : Level) (text : String) :
    (w.note level text).Available :=
  available.of_around ⟨available.faults, available.active⟩ rfl

theorem did (available : w.Available) (deed : Deed) : (w.did deed).Available :=
  available.of_around ⟨available.faults, available.active⟩ rfl

theorem look (available : w.Available) : w.look.1 = false ∧ w.look.2.Available := by
  obtain ⟨live, later⟩ := available.toCalm.look
  exact ⟨live, available.of_around later rfl⟩

theorem meet (available : w.Available) :
    w.meet.1.refused = none ∧ w.meet.1.commitFails = none ∧ w.meet.2.Available := by
  have next : w.meet.1.refused = none ∧ w.meet.1.commitFails = none := by
    unfold World.meet
    cases upcoming : w.ahead with
    | nil => exact ⟨rfl, rfl⟩
    | cons c rest =>
      apply available.harmless c
      simp [upcoming]
  refine ⟨next.1, next.2, ⟨available.faults, available.active⟩, available.reachable, ?_⟩
  intro c later
  exact available.harmless c (List.mem_of_mem_tail later)

theorem serving (available : w.Available) : w.Serving := by
  obtain ⟨admitted, commits, _⟩ := available.meet
  exact ⟨available.toCalm, available.reachable, admitted, commits⟩

end World.Available

def Scene.concluded {σ : Type} (s : Scene σ) : Scene σ :=
  (s.note .debug ("memory_tx:commit statements=" ++ toString s.world.store.statements)).did
    .committed

theorem Work.transaction_available {σ α : Type} {body : Work σ BatchError α} {s u : Scene σ} {a : α}
    (available : s.world.Available) (inside : body (s.met.did .begun) = (.ok a, u)) :
    transaction body s = (.ok a, u.concluded) := by
  obtain ⟨admitted, commits, _⟩ := available.meet
  rw [transaction_open admitted available.reachable, commits]
  unfold closing
  rw [inside]
  rfl

namespace Batch

variable {s : Scene (List Session)}

theorem opened_available (assets : Assets) (available : s.world.Available) :
    (started assets s).world.look.1 = false ∧ (opened assets s).world.Available :=
  (available.note _ _).look

end Batch
end SessionBatch

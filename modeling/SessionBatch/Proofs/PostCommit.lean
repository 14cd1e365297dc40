import SessionBatch.Proofs.Course
import SessionBatch.Proofs.Frame
import SessionBatch.Proofs.Settlement

namespace SessionBatch

namespace Work

variable {σ ε α β : Type} {look : σ → β}

theorem Fixes.tryCatch {γ : Type} {view : World → γ} {work : Work σ ε α} {handle : ε → Work σ ε α}
    (first : Fixes look view work) (rest : ∀ e, Fixes look view (handle e)) :
    Fixes look view (tryCatch work handle) := by
  intro s
  have before := first s
  rw [tryCatch_run]
  rcases ran : work s with ⟨e | a, t⟩ <;> rw [ran] at before
  · have after := rest e t
    exact ⟨after.1.trans before.1, after.2.trans before.2⟩
  · exact before

theorem store_transaction {body : Work σ BatchError α} (fixed : Fixes look World.store body)
    (s : Scene σ) : (transaction body s).2.world.store = s.world.store := by
  rcases ran : transaction body s with ⟨e | a, t⟩
  · exact (transaction_error ran).1
  · obtain ⟨u, inside, _, store, _⟩ := transaction_ok ran
    have same := (fixed (s.met.did .begun)).2
    rw [inside] at same
    exact store.trans same

end Work

open Work

theorem queueHook_fixes (assets : Assets) (entries : List SessionEvents) :
    Fixes (fun _ => ()) World.store (Effect.Messages.queueHook assets entries) := by
  unfold Effect.Messages.queueHook
  refine .bind (.ofExcept _) fun taken => ?_
  dsimp only
  split
  · exact .pure ()
  · exact .bind (fun s => ⟨rfl, rfl⟩) fun _ => .note fun _ => rfl

namespace Batch

variable {assets : Assets}

theorem runHook_fixes {σ : Type} {id : HookId} {action : HookAction} {entries : List SessionEvents}
    (fixed : Fixes (fun _ => ()) World.store (action assets entries)) :
    Fixes (fun _ => ()) World.store
      (runHook assets id action entries : Work σ BatchError Unit) := by
  unfold runHook
  exact .bind (.beside fixed) fun _ => .ofExcept _

theorem attemptHook_fixes (entries : List SessionEvents) :
    Fixes (fun _ => ()) World.store (attemptHook .standard assets .queueMessages entries) := by
  have ran : ∀ applied : Work Aftermath BatchError Unit, Fixes (fun _ => ()) World.store applied →
      Fixes (fun _ => ()) World.store
        (runHook assets .queueMessages Effect.Messages.queueHook entries >>= fun _ => applied) :=
    fun _ fixed => .bind (runHook_fixes (queueHook_fixes assets entries)) fun _ => fixed
  unfold attemptHook
  rw [Registry.lookupHook_standard]
  refine .tryCatch (ran _ fun _ => ⟨rfl, rfl⟩) fun e => ?_
  exact .bind (.note fun _ => rfl) fun _ => fun _ => ⟨rfl, rfl⟩

def OnlyMessages (sessions : List Session) : Prop :=
  ∀ session ∈ sessions, ∀ id : HookId, id ≠ .queueMessages → session.postCommit[id]?.getD [] = []

theorem OnlyMessages.entries_eq_nil {sessions : List Session} (only : OnlyMessages sessions)
    {id : HookId} (other : id ≠ .queueMessages) :
    Grouping.entries id (((sessions.map Session.takePost).map Prod.snd).zip
      ((sessions.map Session.takePost).map Prod.fst)) = [] := by
  unfold Grouping.entries
  rw [List.zip_map', List.map_map, List.map_map, List.filter_eq_nil_iff]
  intro entry member
  obtain ⟨session, within, rfl⟩ := List.mem_map.1 member
  have empty : session.postCommit[id]?.getD [] = [] := only session within id other
  simp [Session.takePost, empty]

theorem OnlyMessages.rows {sessions : List Session} (only : OnlyMessages sessions)
    {row : HookId × List SessionEvents}
    (listed : row ∈ (Grouping.ofQueues ((sessions.map Session.takePost).map Prod.snd)
      ((sessions.map Session.takePost).map Prod.fst)).toList) : row.1 = .queueMessages := by
  rw [Grouping.toList_ofQueues] at listed
  obtain ⟨listed, filled⟩ := List.mem_filter.1 listed
  obtain ⟨id, _, rfl⟩ := List.mem_map.1 listed
  by_cases other : id = .queueMessages
  · exact other
  · exact absurd (only.entries_eq_nil other) (of_decide_eq_true filled)

theorem attempts_fixes {rows : List (HookId × List SessionEvents)}
    (only : ∀ row ∈ rows, row.1 = .queueMessages) :
    Fixes (fun _ => ()) World.store
      (Work.transaction (rows.forM fun (id, entries) =>
        attemptHook .standard assets id entries)) := by
  have each : Fixes (fun _ => ()) World.store (rows.forM fun (id, entries) =>
      attemptHook .standard assets id entries) := by
    refine .forM fun row member => ?_
    obtain ⟨id, entries⟩ := row
    cases only _ member
    exact attemptHook_fixes entries
  exact fun s => ⟨rfl, store_transaction each s⟩

theorem store_postCommit {ε : Type} {s : Scene (List Session)} (only : OnlyMessages s.subject) :
    (postCommit .standard assets s : Except ε Aftermath × _).2.world.store = s.world.store := by
  unfold postCommit gather
  simp only [Work.bind_run, Work.get_run, Work.modify_run, Work.pure_run]
  split
  · rfl
  · simp only [Work.bind_run, Work.beside_run]
    generalize ran : Work.transaction _ _ = run
    have fixed : run.2.world.store = s.world.store := by
      rw [← ran]
      exact (attempts_fixes (fun _ => only.rows) _).2
    rcases run with ⟨_ | _, t⟩
    · simp only [Work.bind_run, Work.note_run]
      exact fixed
    · exact fixed

theorem postCommit_subject {ε : Type} (registry : Registry) (assets : Assets)
    (s : Scene (List Session)) :
    (postCommit registry assets s : Except ε Aftermath × _).2.subject =
      s.subject.map (·.takePost.2) := by
  unfold postCommit gather
  simp only [Work.bind_run, Work.get_run, Work.modify_run, Work.pure_run]
  split
  · exact List.map_map ..
  · simp only [Work.bind_run, Work.beside_run]
    generalize Work.transaction _ _ = run
    rcases run with ⟨_ | _, _⟩
    · exact List.map_map ..
    · exact List.map_map ..

end Batch
end SessionBatch

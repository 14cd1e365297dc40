import SessionBatch.Proofs.Accounting
import SessionBatch.Proofs.Integrity

namespace SessionBatch

namespace Store

-- The same in all that is stored, though perhaps not in the number of statements.
structure SameRows (s t : Store) : Prop where
  contacts : t.contacts = s.contacts
  memberships : t.memberships = s.memberships
  messages : t.messages = s.messages
  labels : t.labels = s.labels

-- How a write fails, and the store it leaves: without effect when a contact is named twice, and
-- with the rows before the first that is refused otherwise.
inductive Refuses (s : Store) : BulkWrite → StoreError → Store → Prop
  | twice {b : BulkWrite} {before after : List ContactId} {id : ContactId}
      (updates : b.named = before ++ id :: after) (distinct : before.Nodup)
      (again : id ∈ before) :
      Refuses s b (.other ("contact " ++ id.text ++ " updated twice in one statement")) s
  | stranger {before after : List Membership} {row : Membership}
      (known : ∀ earlier ∈ before, s.hasContact earlier.contact = true)
      (unknown : s.hasContact row.contact = false) :
      Refuses s (.addMemberships (before ++ row :: after)) (noContact row.contact)
        { s.count with memberships := before.foldl (·.insert ·) s.memberships }
  | sender {before after : List Message} {row : Message} (accepted : s.Accepts before)
      (unknown : s.hasContact row.contactId = false) :
      Refuses s (.insertMessages (before ++ row :: after)) (noContact row.contactId)
        { s.count with messages := s.messages ++ before }
  | taken {before after : List Message} {row : Message} (accepted : s.Accepts before)
      (known : s.hasContact row.contactId = true)
      (held : hasMessage { s with messages := s.messages ++ before } row.uuid = true) :
      Refuses s (.insertMessages (before ++ row :: after))
        (.uniqueViolation ("msg " ++ row.uuid.text ++ " already exists"))
        { s.count with messages := s.messages ++ before }

-- The first row of the write that can be refused comes after one that brings something new.
def Lingers (s : Store) : BulkWrite → Prop
  | .addMemberships rows =>
    ∃ row ∈ rows.takeWhile fun row => s.hasContact row.contact, row ∉ s.memberships
  | .insertMessages (row :: _) =>
    s.hasContact row.contactId = true ∧ s.hasMessage row.uuid = false
  | _ => False

variable {s t : Store} {b : BulkWrite} {e : StoreError}

theorem firstRepeated_eq_some {seen ids : List ContactId} {id : ContactId}
    (found : firstRepeated seen ids = some id) :
    ∃ before after, ids = before ++ id :: after ∧ before.Nodup ∧
      (∀ other ∈ before, other ∉ seen) ∧ (id ∈ seen ∨ id ∈ before) := by
  induction ids generalizing seen with
  | nil => cases found
  | cons first rest ih =>
    rw [firstRepeated] at found
    split at found
    · rename_i repeated
      cases found
      exact ⟨[], rest, rfl, .nil, by simp, .inl repeated⟩
    · rename_i fresh
      obtain ⟨before, after, split, distinct, apart, again⟩ := ih found
      refine ⟨first :: before, after, congrArg (first :: ·) split, ?_, ?_, ?_⟩
      · exact List.nodup_cons.2 ⟨fun listed => apart first listed (by simp), distinct⟩
      · intro other listed
        rcases List.mem_cons.1 listed with rfl | listed
        · exact fresh
        · exact fun known => apart other listed (by simp [known])
      · rcases again with known | listed
        · rcases List.mem_cons.1 known with rfl | known
          · exact .inr (by simp)
          · exact .inl known
        · exact .inr (by simp [listed])

theorem firstRepeated_append {seen before rest : List ContactId} (distinct : before.Nodup)
    (fresh : ∀ id ∈ before, id ∉ seen) :
    firstRepeated seen (before ++ rest) = firstRepeated (before.reverse ++ seen) rest := by
  induction before generalizing seen with
  | nil => rfl
  | cons first before ih =>
    obtain ⟨unlisted, distinct⟩ := List.nodup_cons.1 distinct
    rw [List.cons_append, firstRepeated, if_neg (fresh first (by simp)), ih distinct]
    · simp
    · intro id listed known
      rcases List.mem_cons.1 known with rfl | known
      · exact unlisted listed
      · exact fresh id (by simp [listed]) known

theorem updateContacts_twice {α : Type} {set : α → Contact → Contact}
    {rows : List (ContactId × α)} {before after : List ContactId} {id : ContactId}
    (updates : rows.map Prod.fst = before ++ id :: after) (distinct : before.Nodup)
    (again : id ∈ before) :
    updateContacts set rows s =
      (.error (.other ("contact " ++ id.text ++ " updated twice in one statement")), s) := by
  have found : firstRepeated [] (rows.map Prod.fst) = some id := by
    rw [updates, firstRepeated_append distinct (fun _ _ => List.not_mem_nil), firstRepeated,
      if_pos (by simp [again])]
  unfold updateContacts
  rw [found]

theorem updateContacts_error {α : Type} {set : α → Contact → Contact}
    {rows : List (ContactId × α)} (failed : updateContacts set rows s = (.error e, t)) :
    t = s ∧ ∃ before id after, rows.map Prod.fst = before ++ id :: after ∧ before.Nodup ∧
      id ∈ before ∧ e = .other ("contact " ++ id.text ++ " updated twice in one statement") := by
  unfold updateContacts at failed
  split at failed
  · rename_i id found
    cases failed
    obtain ⟨before, after, updates, distinct, _, again⟩ := firstRepeated_eq_some found
    exact ⟨rfl, before, id, after, updates, distinct, again.resolve_left List.not_mem_nil, rfl⟩
  · cases failed

theorem addMemberships_append {before : List Membership} (rest : List Membership) (n : Nat)
    (known : ∀ row ∈ before, s.hasContact row.contact = true) :
    ∃ m, addMemberships n (before ++ rest) s =
      addMemberships m rest { s with memberships := before.foldl (·.insert ·) s.memberships } := by
  induction before generalizing n s with
  | nil => exact ⟨n, rfl⟩
  | cons row before ih =>
    rw [List.cons_append, addMemberships, if_pos (known row (by simp))]
    exact ih (s := { s with memberships := s.memberships.insert row }) _
      fun other listed => known other (by simp [listed])

theorem addMemberships_stops {rows : List Membership} {n : Nat}
    (failed : addMemberships n rows s = (.error e, t)) :
    ∃ before row after, rows = before ++ row :: after ∧
      (∀ earlier ∈ before, s.hasContact earlier.contact = true) ∧
      s.hasContact row.contact = false ∧ e = noContact row.contact ∧
      t = { s with memberships := before.foldl (·.insert ·) s.memberships } := by
  induction rows generalizing n s with
  | nil => cases failed
  | cons first rest ih =>
    rw [addMemberships] at failed
    split at failed
    · rename_i known
      obtain ⟨before, row, after, split, all, unknown, error, left⟩ := ih failed
      refine ⟨first :: before, row, after, congrArg (first :: ·) split, ?_, unknown, error, left⟩
      intro earlier listed
      rcases List.mem_cons.1 listed with rfl | listed
      · exact known
      · exact all earlier listed
    · rename_i unknown
      cases failed
      exact ⟨[], first, rest, rfl, by simp, by simpa using unknown, rfl, rfl⟩

theorem insertMessages_append {before : List Message} (rest : List Message) (n : Nat)
    (accepted : s.Accepts before) :
    ∃ m, insertMessages n (before ++ rest) s =
      insertMessages m rest { s with messages := s.messages ++ before } := by
  induction before generalizing n s with
  | nil => exact ⟨n, by rw [List.append_nil, List.nil_append]⟩
  | cons row before ih =>
    obtain ⟨known, fresh, later⟩ := accepts_cons.1 accepted
    obtain ⟨m, same⟩ := ih (n + 1) later
    refine ⟨m, ?_⟩
    rw [List.cons_append, insertMessages, if_pos known, fresh, if_neg Bool.false_ne_true, same]
    simp

theorem insertMessages_stops {rows : List Message} {n : Nat}
    (failed : insertMessages n rows s = (.error e, t)) :
    ∃ before row after, rows = before ++ row :: after ∧ s.Accepts before ∧
      t = { s with messages := s.messages ++ before } ∧
      (s.hasContact row.contactId = false ∧ e = noContact row.contactId ∨
        s.hasContact row.contactId = true ∧ t.hasMessage row.uuid = true ∧
          e = .uniqueViolation ("msg " ++ row.uuid.text ++ " already exists")) := by
  induction rows generalizing n s with
  | nil => cases failed
  | cons first rest ih =>
    have none : s.Accepts [] := ⟨by simp, by simp, by simp⟩
    rw [insertMessages] at failed
    split at failed
    · rename_i known
      split at failed
      · rename_i held
        cases failed
        exact ⟨[], first, rest, rfl, none, by simp, .inr ⟨known, held, rfl⟩⟩
      · rename_i fresh
        obtain ⟨before, row, after, split, accepted, left, reason⟩ := ih failed
        refine ⟨first :: before, row, after, congrArg (first :: ·) split, ?_, ?_, reason⟩
        · exact accepts_cons.2 ⟨known, by simpa using fresh, accepted⟩
        · rw [left]
          simp
    · rename_i unknown
      cases failed
      exact ⟨[], first, rest, rfl, none, by simp, .inl ⟨by simpa using unknown, rfl⟩⟩

theorem write_error_iff : s.write b = (.error e, t) ↔ s.Refuses b e t := by
  constructor
  · intro failed
    cases b with
    | updateNames rows =>
      obtain ⟨rfl, _, _, _, updates, distinct, again, rfl⟩ := updateContacts_error failed
      exact .twice updates distinct again
    | updateLanguages rows =>
      obtain ⟨rfl, _, _, _, updates, distinct, again, rfl⟩ := updateContacts_error failed
      exact .twice updates distinct again
    | updateFields rows =>
      obtain ⟨rfl, _, _, _, updates, distinct, again, rfl⟩ := updateContacts_error failed
      exact .twice updates distinct again
    | addMemberships rows =>
      obtain ⟨_, _, _, rfl, known, unknown, rfl, rfl⟩ := addMemberships_stops failed
      exact .stranger known unknown
    | removeMemberships rows =>
      obtain ⟨_, done⟩ := removeMemberships_ok rows s.count 0
      cases done.symm.trans failed
    | insertMessages rows =>
      obtain ⟨_, _, _, rfl, accepted, rfl, ⟨unknown, rfl⟩ | ⟨known, held, rfl⟩⟩ :=
        insertMessages_stops failed
      · exact .sender (accepts_count.1 accepted) unknown
      · exact .taken (accepts_count.1 accepted) known held
    | addLabels rows =>
      obtain ⟨_, done⟩ := addLabels_ok rows s.count 0
      cases done.symm.trans failed
  · intro refused
    cases refused with
    | twice updates distinct again =>
      cases b with
      | updateNames rows => exact updateContacts_twice updates distinct again
      | updateLanguages rows => exact updateContacts_twice updates distinct again
      | updateFields rows => exact updateContacts_twice updates distinct again
      | _ => exact absurd updates.symm (by simp [BulkWrite.named])
    | @stranger before after row known unknown =>
      obtain ⟨m, goes⟩ := addMemberships_append (s := s.count) (row :: after) 0 known
      refine goes.trans ?_
      rw [addMemberships, if_neg]
      · rfl
      · exact Bool.eq_false_iff.1 unknown
    | @sender before after row accepted unknown =>
      obtain ⟨m, goes⟩ := insertMessages_append (row :: after) 0 (accepts_count.2 accepted)
      refine goes.trans ?_
      rw [insertMessages, if_neg]
      · rfl
      · exact Bool.eq_false_iff.1 unknown
    | @taken before after row accepted known held =>
      obtain ⟨m, goes⟩ := insertMessages_append (row :: after) 0 (accepts_count.2 accepted)
      refine goes.trans ?_
      rw [insertMessages, if_pos, if_pos]
      · rfl
      · exact held
      · exact known

theorem Refuses.spares (refused : s.Refuses b e t) :
    t.contacts = s.contacts ∧ t.labels = s.labels := by
  cases refused with
  | twice => exact ⟨rfl, rfl⟩
  | stranger => exact ⟨rfl, rfl⟩
  | sender => exact ⟨rfl, rfl⟩
  | taken => exact ⟨rfl, rfl⟩

theorem sameRows_joined {rows : List Membership} :
    s.SameRows { s.count with memberships := rows.foldl (·.insert ·) s.memberships } ↔
      ∀ row ∈ rows, row ∈ s.memberships := by
  constructor
  · intro same row listed
    have unchanged : rows.foldl (·.insert ·) s.memberships = s.memberships := same.memberships
    rw [← unchanged, mem_inserts]
    exact .inr listed
  · intro known
    refine ⟨rfl, Std.ExtTreeSet.ext_mem fun row => ?_, rfl, rfl⟩
    refine (mem_inserts rows s.memberships row).trans ?_
    exact or_iff_left_of_imp (known row)

theorem sameRows_extended {rows : List Message} :
    s.SameRows { s.count with messages := s.messages ++ rows } ↔ rows = [] := by
  constructor
  · intro same
    exact List.append_right_eq_self.1 same.messages
  · intro none
    exact ⟨rfl, rfl, by simp [none], rfl⟩

theorem lingers_insertMessages {before after : List Message} {row : Message}
    (accepted : s.Accepts before) (refused : ¬ s.Accepts (before ++ [row])) :
    s.Lingers (.insertMessages (before ++ row :: after)) ↔ before ≠ [] := by
  cases before with
  | nil =>
    refine iff_of_false (fun lingers => ?_) (by simp)
    exact refused (accepts_cons.2 ⟨lingers.1, lingers.2, by simp, by simp, by simp⟩)
  | cons first before =>
    obtain ⟨known, fresh, _⟩ := accepts_cons.1 accepted
    exact iff_of_true ⟨known, fresh⟩ (by simp)

theorem lingers_addMemberships {before after : List Membership} {row : Membership}
    (known : ∀ earlier ∈ before, s.hasContact earlier.contact = true)
    (unknown : s.hasContact row.contact = false) :
    s.Lingers (.addMemberships (before ++ row :: after)) ↔
      ∃ earlier ∈ before, earlier ∉ s.memberships := by
  have front : (before ++ row :: after).takeWhile (fun row => s.hasContact row.contact) =
      before := by
    rw [List.takeWhile_append_of_pos known, List.takeWhile_cons_of_neg (by simp [unknown]),
      List.append_nil]
  change (∃ earlier ∈ List.takeWhile _ _, _) ↔ _
  rw [front]

-- The rows are as before just when nothing new comes before the row that is refused.
theorem Refuses.sameRows_iff (refused : s.Refuses b e t) : s.SameRows t ↔ ¬ s.Lingers b := by
  cases refused with
  | twice updates =>
    refine iff_of_true ⟨rfl, rfl, rfl, rfl⟩ fun lingers => ?_
    cases b with
    | addMemberships rows => exact absurd updates.symm (by simp [BulkWrite.named])
    | insertMessages rows => exact absurd updates.symm (by simp [BulkWrite.named])
    | _ => exact lingers
  | stranger known unknown =>
    rw [lingers_addMemberships known unknown, sameRows_joined]
    simp
  | @sender before _ row accepted unknown =>
    have refused : ¬ s.Accepts (before ++ [row]) := by
      intro all
      have known := all.known row (by simp)
      rw [unknown] at known
      cases known
    rw [sameRows_extended, lingers_insertMessages accepted refused, not_not]
  | @taken before _ row accepted _ held =>
    have refused : ¬ s.Accepts (before ++ [row]) := by
      intro all
      have fresh := (accepts_append.1 all).2.fresh row (by simp)
      rw [held] at fresh
      cases fresh
    rw [sameRows_extended, lingers_insertMessages accepted refused, not_not]

end Store

variable {b : BulkWrite} {e : StoreError} {w : World} {t : Store}

theorem World.write_error (failed : w.store.write b = (.error e, t))
    (unhurt : w.faults.lookup b.kind = none) :
    w.write b = (.error e, { w with store := t }.did (.wrote b (.error e))) := by
  unfold World.write
  rw [unhurt, failed]

theorem Work.transaction_publishes {σ α : Type} {body : Work σ BatchError α} {s u : Scene σ} {a : α}
    (fate : s.world.fate = .committed) (inside : body (s.met.did .begun) = (.ok a, u)) :
    ∃ v, transaction body s = (.ok a, ⟨u.subject, v⟩) ∧ v.store = u.world.store := by
  obtain ⟨world, ran⟩ := transaction_fate inside
  rw [fate] at ran
  obtain ⟨reached, again, _, store, _⟩ := transaction_ok ran
  rw [inside] at again
  cases again
  exact ⟨world, ran, store⟩

theorem Plan.run_passed {σ α : Type} {next : Except StoreError Nat → Plan α} {a : α} (subject : σ)
    (failed : w.store.write b = (.error e, t)) (unhurt : w.faults.lookup b.kind = none)
    (fate : w.fate = .committed) (passed : next (.error e) = .done (.ok a)) :
    ∃ u, Work.transaction (Plan.write b next).run ⟨subject, w⟩ = (.ok a, u) ∧
      u.world.store = t := by
  have wrote : (w.meet.2.did .begun).write b = _ := World.write_error failed unhurt
  have inside : (Plan.write b next).run ((Scene.mk subject w).met.did .begun) =
      (.ok a, ⟨subject, ((w.meet.2.did .begun).write b).2⟩) := by
    change (next ((w.meet.2.did .begun).write b).1).run ⟨_, ((w.meet.2.did .begun).write b).2⟩ = _
    rw [wrote, passed]
    rfl
  obtain ⟨v, ran, store⟩ := Work.transaction_publishes fate inside
  refine ⟨_, ran, store.trans ?_⟩
  rw [wrote]
  rfl

def writing (b : BulkWrite) : HookAction := fun _ _ => do
  let _ ← Work.write b

namespace Batch

variable {registry : Registry} {assets : Assets} {sessions : List Session} {id : HookId}
  {entries : List SessionEvents}

theorem answer_writing (hook : registry.hook? id = some (writing b))
    (failed : w.store.write b = (.error e, t)) (unhurt : w.faults.lookup b.kind = none) :
    answer registry assets id entries w =
      (.error (.hook id (.store e)), { w with store := t }.did (.wrote b (.error e))) := by
  have ran : writing b assets entries ⟨(), w⟩ =
      (.error (.store e), ⟨(), { w with store := t }.did (.wrote b (.error e))⟩) := by
    unfold writing
    rw [Work.bind_run]
    unfold Work.write
    rw [World.write_error failed unhurt]
    rfl
  unfold answer
  rw [hook]
  dsimp only
  rw [ran]
  rfl

-- What a hook wrote after the commit before it failed is published, though it counts as failed.
theorem postCommit_writing {ε : Type} (due : postponed sessions = [(id, entries)])
    (hook : registry.hook? id = some (writing b)) (failed : w.store.write b = (.error e, t))
    (unhurt : w.faults.lookup b.kind = none) (fate : w.fate = .committed) :
    ∃ u, (postCommit registry assets : Work _ ε _) ⟨sessions, w⟩ =
      (.ok { failures := [(id, (BatchError.hook id (.store e)).message)] }, u) ∧
      u.world.store = t := by
  unfold postponed at due
  unfold postCommit gather
  simp only [Work.bind_run, Work.get_run, Work.modify_run, Work.pure_run]
  generalize Grouping.ofQueues _ _ = grouping at due
  have filled : grouping.isEmpty = false := by
    rw [← Std.ExtTreeMap.isEmpty_toList, due]
    rfl
  have answered : answer registry assets id entries (w.meet.2.did .begun) = _ :=
    answer_writing hook failed unhurt
  have inside : (([(id, entries)].forM fun row =>
      attemptHook registry assets row.1 row.2) : Work Aftermath BatchError Unit)
        ((Scene.mk {} w).met.did .begun) =
      (.ok (), ⟨Aftermath.record {} id (.error (.hook id (.store e))),
        heard id (answer registry assets id entries (w.meet.2.did .begun))⟩) := by
    change (attemptHook registry assets id entries >>= fun _ => pure ())
      ⟨{}, w.meet.2.did .begun⟩ = _
    rw [Work.bind_run, attemptHook_answer, answered]
    rfl
  obtain ⟨v, ran, store⟩ := Work.transaction_publishes fate inside
  rw [filled, if_neg Bool.false_ne_true, Work.bind_run, Work.beside_run, due, ran]
  refine ⟨_, rfl, store.trans ?_⟩
  rw [answered]
  rfl

end Batch

-- A write that fails leaves contacts and labels alone, and all rows just when nothing new comes
-- before the row it is refused for. What it leaves is committed as soon as its failure is passed
-- over, by a transaction as well as by the hooks that follow a commit.
theorem failed_write_leaves {s : Store} (failed : s.write b = (.error e, t)) :
    s.Refuses b e t ∧ t.contacts = s.contacts ∧ t.labels = s.labels ∧
    (s.SameRows t ↔ ¬ s.Lingers b) ∧
    ∀ w : World, w.store = s → w.faults.lookup b.kind = none → w.fate = .committed →
      (∀ {σ α : Type} (subject : σ) (next : Except StoreError Nat → Plan α) (a : α),
        next (.error e) = .done (.ok a) →
        ∃ u, Work.transaction (Plan.write b next).run ⟨subject, w⟩ = (.ok a, u) ∧
          u.world.store = t) ∧
      ∀ (registry : Registry) (assets : Assets) (sessions : List Session) (id : HookId)
        (entries : List SessionEvents), Batch.postponed sessions = [(id, entries)] →
        registry.hook? id = some (writing b) →
        ∃ u, (Batch.postCommit registry assets : Work _ BatchError _) ⟨sessions, w⟩ =
            (.ok { failures := [(id, (BatchError.hook id (.store e)).message)] }, u) ∧
          u.world.store = t := by
  have refused := Store.write_error_iff.1 failed
  refine ⟨refused, refused.spares.1, refused.spares.2, refused.sameRows_iff, ?_⟩
  intro w rfl unhurt fate
  constructor
  · intro _ _ subject next a passed
    exact Plan.run_passed subject failed unhurt fate passed
  · intro registry assets sessions id entries due hook
    exact Batch.postCommit_writing due hook failed unhurt fate

namespace Sample

def mixed : BulkWrite := .addMemberships [⟨⟨1⟩, ⟨5⟩⟩, ⟨⟨2⟩, ⟨5⟩⟩]

def swallowing : Plan Unit := .write mixed fun _ => .done (.ok ())

def joining : Registry := { hook? := fun _ => some (writing mixed) }

def owing : Session :=
  (turn ⟨1⟩ []).deferPost .commitGroupChanges ⟨⟨9⟩, moment, .error "late"⟩

end Sample

theorem failed_write_leaves_mixed : ∃ e t,
    Sample.people.store.write Sample.mixed = (.error e, t) ∧
      Sample.people.store.Refuses Sample.mixed e t ∧ ¬ Sample.people.store.SameRows t ∧
      (∃ u, Work.transaction Sample.swallowing.run ⟨(), Sample.people⟩ = (.ok (), u) ∧
        u.world.store = t) ∧
      ∃ after u, (Batch.postCommit Sample.joining Sample.assets : Work _ BatchError _)
          ⟨[Sample.owing], Sample.people⟩ = (.ok after, u) ∧ u.world.store = t := by
  obtain ⟨e, t, failed⟩ := Sample.run_error (r := Sample.people.store.write Sample.mixed)
    (by decide +kernel)
  have lingers : Sample.people.store.Lingers Sample.mixed :=
    ⟨⟨⟨1⟩, ⟨5⟩⟩, by decide +kernel, by decide +kernel⟩
  obtain ⟨refused, _, _, same, published⟩ := failed_write_leaves failed
  obtain ⟨transacted, attempted⟩ := published Sample.people rfl rfl (by decide +kernel)
  have due : ∃ entries, Batch.postponed [Sample.owing] = [(.commitGroupChanges, entries)] := by
    refine ⟨[⟨Sample.turn ⟨1⟩ [], [⟨⟨9⟩, Sample.moment, .error "late"⟩]⟩], ?_⟩
    decide +kernel
  obtain ⟨entries, due⟩ := due
  refine ⟨e, t, failed, refused, fun kept => same.1 kept lingers, transacted () _ () rfl, ?_⟩
  obtain ⟨u, ran, store⟩ := attempted Sample.joining Sample.assets _ _ entries due rfl
  exact ⟨_, u, ran, store⟩

-- The known contact has joined the group, though the write failed, and for good once the
-- transaction commits.
theorem half_joined :
    (Sample.people.store.write Sample.mixed).1 = .error (Store.noContact ⟨2⟩) ∧
      (Sample.people.store.write Sample.mixed).2.memberships ≠ Sample.people.store.memberships ∧
      (Work.transaction Sample.swallowing.run ⟨(), Sample.people⟩).1 = .ok () ∧
      ⟨⟨1⟩, ⟨5⟩⟩ ∈
        (Work.transaction Sample.swallowing.run ⟨(), Sample.people⟩).2.world.store.memberships := by
  decide +kernel

end SessionBatch

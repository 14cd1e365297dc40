import SessionBatch.Proofs.Commitment

namespace SessionBatch

open Effect

abbrev SendQueues := Std.ExtTreeMap OrgId (List QueuedMessage)

-- Without messages no queue comes into being.
def SendQueues.append (queues : SendQueues) (org : OrgId) (messages : List QueuedMessage) :
    SendQueues :=
  if messages.isEmpty then queues else queues.insert org (queues.getD org [] ++ messages)

theorem SendQueues.getD_append (queues : SendQueues) (org other : OrgId)
    (messages : List QueuedMessage) :
    (queues.append org messages).getD other [] =
      if org = other then queues.getD org [] ++ messages else queues.getD other [] := by
  unfold append
  by_cases empty : messages = []
  · by_cases same : org = other <;> simp [empty, same]
  · by_cases same : org = other <;> simp [empty, same, Std.ExtTreeMap.getD_insert]

namespace Effect.Messages

def outgoing (entries : List SessionEvents) : List QueuedMessage :=
  entries.flatMap fun entry =>
    (entry.events.filterMap (message? ·.payload)).map (queued entry.session)

variable {assets : Assets} {entries : List SessionEvents}

def queuedLine (assets : Assets) (n : Nat) : String :=
  "queue_messages:done org_id=" ++ assets.orgId.text ++ " queued=" ++ toString n

theorem queueHook_run (fits : HookId.queueMessages.Fits entries) (filled : outgoing entries ≠ [])
    (s : Scene Unit) :
    queueHook assets entries s =
      match s.world.cache.outage with
      | some e => (.error (.store e), s)
      | none =>
        let queues := SendQueues.append s.world.cache.queues assets.orgId (outgoing entries)
        (.ok (), Scene.note .debug (queuedLine assets (outgoing entries).length)
          { s with world := { s.world with cache := { s.world.cache with queues } } }) := by
  have typed := fits.picks Messages.picks
  have listed : ∀ form : Session × List OutgoingMessage → List QueuedMessage,
      (∀ session messages, form (session, messages) = messages.map (queued session)) →
      (taken message? entries).flatMap form = outgoing entries := by
    intro form known
    unfold taken outgoing
    simp only [List.flatMap_map, known]
  unfold queueHook
  rw [pickedOf_ok typed]
  simp only [Work.bind_run, Work.ofExcept_run, listed, implies_true, List.isEmpty_iff, filled, if_false]
  unfold Work.push World.push Cache.push SendQueues.append Cache.queued
  cases s.world.cache.outage with
  | some e => rfl
  | none =>
    simp only [List.isEmpty_iff, filled, if_false]
    rfl

end Effect.Messages

namespace Batch

open Work

variable {assets : Assets} {entries : List SessionEvents}

def failedLine (e : BatchError) : String :=
  "post_commit:hook_failed hook=" ++ HookId.queueMessages.name ++ " err=" ++ e.message

-- The cache alone decides whether the attempt succeeds.
theorem attemptHook_run (fits : HookId.queueMessages.Fits entries)
    (filled : Messages.outgoing entries ≠ []) (s : Scene Aftermath) :
    attemptHook .standard assets .queueMessages entries s =
      match s.world.cache.outage with
      | some cause =>
        let e : BatchError := .hook .queueMessages (.store cause)
        (.ok (), ⟨{ s.subject with
            failures := s.subject.failures ++ [(.queueMessages, e.message)] },
          s.world.note .error (failedLine e)⟩)
      | none =>
        let queues := SendQueues.append s.world.cache.queues assets.orgId
          (Messages.outgoing entries)
        (.ok (), ⟨{ s.subject with applied := s.subject.applied ++ [.queueMessages] },
          World.note .debug (Messages.queuedLine assets (Messages.outgoing entries).length)
            { s.world with cache := { s.world.cache with queues } }⟩) := by
  have found : Registry.standard.lookupHook .queueMessages = .ok Messages.queueHook :=
    Registry.lookupHook_standard .queueMessages
  unfold attemptHook runHook
  rw [found, tryCatch_run]
  simp only [bind_run, ofExcept_run, beside_run, Messages.queueHook_run fits filled]
  cases s.world.cache.outage with
  | some e => rfl
  | none => rfl

def attempts (assets : Assets) (rows : List (HookId × List SessionEvents)) :
    Work Aftermath BatchError PUnit :=
  rows.forM fun (id, entries) => attemptHook .standard assets id entries

theorem attempts_run (fits : HookId.queueMessages.Fits entries)
    (filled : Messages.outgoing entries ≠ []) (s : Scene Aftermath) :
    attempts assets [(.queueMessages, entries)] s =
      attemptHook .standard assets .queueMessages entries s := by
  change (attemptHook .standard assets .queueMessages entries >>= fun _ => pure ()) s = _
  rw [bind_run, attemptHook_run fits filled]
  cases s.world.cache.outage with
  | some e => rfl
  | none => rfl

-- What becomes of messages for the queue of an org: either they stand at its end, or they are in
-- no queue and the failure is on record.
inductive Delivery (org : OrgId) (messages : List QueuedMessage) (before after : SendQueues) :
    List (HookId × String) → Prop where
  | made (queued : after = before.append org messages) : Delivery org messages before after []
  | missed {text : String} (filled : messages ≠ []) (unchanged : after = before) :
      Delivery org messages before after [(.queueMessages, text)]

-- What the attempt puts on record stays as it is when the transaction is spoiled later.
theorem attempts_delivery (assets : Assets) (fits : HookId.queueMessages.Fits entries)
    (filled : Messages.outgoing entries ≠ []) (world : World) :
    ∃ u, attempts assets [(.queueMessages, entries)] ((Scene.met ⟨{}, world⟩).did .begun) =
          (.ok (), u) ∧
      (∀ e, (u.subject.spoiled [.queueMessages] e).failures = u.subject.failures) ∧
      Delivery assets.orgId (Messages.outgoing entries) world.cache.queues u.world.cache.queues
        u.subject.failures := by
  have queues : (Scene.met ⟨({} : Aftermath), world⟩).world.cache.queues = world.cache.queues :=
    Scene.met_queues _
  rw [attempts_run fits filled, attemptHook_run fits filled, ← queues]
  cases ((Scene.met ⟨({} : Aftermath), world⟩).did .begun).world.cache.outage with
  | some cause => exact ⟨_, rfl, fun _ => rfl, .missed filled rfl⟩
  | none => exact ⟨_, rfl, fun _ => rfl, .made rfl⟩

inductive Epilogue (assets : Assets) (entries : List SessionEvents) (world : World) :
    Aftermath → World → Prop where
  | quiet (none : entries = []) : Epilogue assets entries world {} world
  | closed {u : Scene Aftermath} (present : entries ≠ [])
      (ran : transaction (attempts assets [(.queueMessages, entries)]) ⟨{}, world⟩ = (.ok (), u)) :
      Epilogue assets entries world u.subject u.world
  | broken {e : BatchError} {u : Scene Aftermath} (present : entries ≠ [])
      (ran : transaction (attempts assets [(.queueMessages, entries)]) ⟨{}, world⟩ =
        (.error e, u)) :
      Epilogue assets entries world (u.subject.spoiled [.queueMessages] e)
        (u.world.note .error ("post_commit:transaction_failed err=" ++ e.message))

theorem outgoing_filled (fits : HookId.queueMessages.Fits entries)
    (each : ∀ entry ∈ entries, entry.events ≠ []) (present : entries ≠ []) :
    Messages.outgoing entries ≠ [] := by
  obtain ⟨entry, member⟩ := List.exists_mem_of_ne_nil entries present
  obtain ⟨event, within⟩ := List.exists_mem_of_ne_nil entry.events (each entry member)
  obtain ⟨message, found⟩ := Option.isSome_iff_exists.1
    ((Messages.picks _).2 (fits entry member event within))
  refine List.ne_nil_of_mem (a := Messages.queued entry.session message) ?_
  refine List.mem_flatMap.2 ⟨entry, member, List.mem_map_of_mem ?_⟩
  exact List.mem_filterMap.2 ⟨event, within, found⟩

theorem Epilogue.delivery {world final : World} {after : Aftermath}
    (epilogue : Epilogue assets entries world after final)
    (fits : HookId.queueMessages.Fits entries)
    (each : ∀ entry ∈ entries, entry.events ≠ []) :
    Delivery assets.orgId (Messages.outgoing entries) world.cache.queues final.cache.queues
      after.failures := by
  cases epilogue with
  | quiet none =>
    rw [none]
    exact .made rfl
  | closed present ran =>
    obtain ⟨_, inside, _, delivery⟩ := attempts_delivery assets fits
      (outgoing_filled fits each present) world
    obtain ⟨_, ran, subject, _, cache⟩ := transaction_ok ran
    rw [inside] at ran
    cases ran
    rw [subject, cache]
    exact delivery
  | @broken e u present ran =>
    have filled := outgoing_filled fits each present
    obtain ⟨_, inside, spoiled, delivery⟩ := attempts_delivery assets fits filled world
    change Delivery _ _ _ u.world.cache.queues _
    obtain ⟨_, ⟨subject, queues, _⟩ | ⟨subject, cache, _⟩⟩ := transaction_error ran
    -- Without a transaction nothing was attempted, and all is put down to the transaction.
    · rw [subject]
      exact .missed filled queues
    · rw [inside] at subject cache
      rw [subject, cache, spoiled]
      exact delivery

def departing (sessions : List Session) : List SessionEvents :=
  (sessions.map fun session =>
    ⟨session.takePost.2, session.postCommit[HookId.queueMessages]?.getD []⟩).filter (·.events ≠ [])

theorem toList_departing {sessions : List Session} (only : OnlyMessages sessions) :
    (Grouping.ofQueues ((sessions.map Session.takePost).map Prod.snd)
        ((sessions.map Session.takePost).map Prod.fst)).toList =
      if departing sessions = [] then [] else [(.queueMessages, departing sessions)] := by
  have mine : Grouping.entries .queueMessages (((sessions.map Session.takePost).map Prod.snd).zip
      ((sessions.map Session.takePost).map Prod.fst)) = departing sessions := by
    unfold Grouping.entries departing
    rw [List.zip_map', List.map_map, List.map_map]
    rfl
  rw [Grouping.toList_ofQueues]
  unfold HookId.all
  simp only [List.map_cons, List.map_nil, mine, only.entries_eq_nil, ne_eq, reduceCtorEq,
    not_false_eq_true]
  by_cases none : departing sessions = [] <;> simp [none]

def outgoing (sessions : List Session) : List QueuedMessage :=
  sessions.flatMap fun session =>
    (session.events.filterMap (Messages.message? ·.payload)).map (Messages.queued session)

variable {sessions : List Session}

theorem postCommit_finished {session : Session} (fresh : session.postCommit = {}) (id : HookId) :
    (finished assets session).postCommit[id]?.getD [] =
      session.events.filter (·.payload.followedBy? = some id) := by
  have queued :=
    HookQueue.getElem?_fill (·.payload.followedBy?) session.postCommit session.events id
  have empty : session.postCommit[id]?.getD [] = [] := by
    rw [fresh]
    simp
  rw [empty, List.nil_append] at queued
  exact queued

theorem departing_fits (fresh : ∀ session ∈ sessions, session.postCommit = {}) :
    HookId.queueMessages.Fits (departing (sessions.map (finished assets))) := by
  intro entry member event within
  obtain ⟨member, _⟩ := List.mem_filter.1 member
  rw [List.map_map] at member
  obtain ⟨session, among, rfl⟩ := List.mem_map.1 member
  dsimp only [Function.comp_apply] at within
  rw [postCommit_finished (fresh session among)] at within
  have follows := of_decide_eq_true (List.mem_filter.1 within).2
  unfold Event.type
  cases payload : event.payload <;> rw [payload] at follows <;> cases follows
  rfl

theorem outgoing_departing (fresh : ∀ session ∈ sessions, session.postCommit = {}) :
    Messages.outgoing (departing (sessions.map (finished assets))) = outgoing sessions := by
  unfold Messages.outgoing departing outgoing
  induction sessions with
  | nil => rfl
  | cons session rest ih =>
    have others := ih fun other member => fresh other (by simp [member])
    have mine : (((finished assets session).postCommit[HookId.queueMessages]?.getD []).filterMap
        (Messages.message? ·.payload)) = session.events.filterMap (Messages.message? ·.payload) := by
      rw [postCommit_finished (fresh session (by simp)), List.filterMap_filter]
      refine congrArg (List.filterMap · _) (funext fun event => ?_)
      cases event.payload <;> simp [Payload.followedBy?, Messages.message?]
    rw [List.map_cons, List.map_cons, List.filter_cons, List.flatMap_cons, ← others, ← mine]
    by_cases empty : (finished assets session).postCommit[HookId.queueMessages]?.getD [] = []
    · rw [if_neg (by simp [empty]), empty]
      rfl
    · rw [if_pos (by simp [empty]), List.flatMap_cons]
      rfl

theorem postCommit_epilogue {ε : Type} {s t : Scene (List Session)} {after : Aftermath}
    (only : OnlyMessages s.subject)
    (done : (postCommit .standard assets : Work _ ε _) s = (.ok after, t)) :
    Epilogue assets (departing s.subject) s.world after t.world := by
  have rows := toList_departing only
  unfold postCommit gather at done
  simp only [bind_run, get_run, modify_run, pure_run] at done
  generalize Grouping.ofQueues _ _ = grouping at rows done
  by_cases none : departing s.subject = []
  · rw [if_pos none] at rows
    have empty : grouping.isEmpty = true := by
      rw [← Std.ExtTreeMap.isEmpty_toList, rows]
      rfl
    rw [if_pos empty] at done
    cases done
    exact .quiet none
  · rw [if_neg none] at rows
    have present : grouping.isEmpty = false := by
      rw [← Std.ExtTreeMap.isEmpty_toList, rows]
      rfl
    have hooks : grouping.hooks = [.queueMessages] := by
      unfold Grouping.hooks
      rw [← Std.ExtTreeMap.map_fst_toList_eq_keys, rows]
      rfl
    rw [present, if_neg Bool.false_ne_true, bind_run, beside_run, rows, hooks] at done
    generalize ran : transaction _ _ = run at done
    obtain ⟨_ | _, u⟩ := run
    · cases done
      exact .broken none ran
    · cases done
      exact .closed none ran

theorem committed_epilogue {ε : Type} {s t u : Scene (List Session)} {after : Aftermath}
    {count : Nat × List HookId} {level : Level} {text : String}
    (ran : transaction (body .standard assets) (opened assets s) = (.ok count, t))
    (closed : (postCommit .standard assets : Work _ ε _) (t.note level text) = (.ok after, u)) :
    ∃ entries, Epilogue assets entries (t.world.note level text) after u.world ∧
      HookId.queueMessages.Fits entries ∧ (∀ entry ∈ entries, entry.events ≠ []) ∧
      Messages.outgoing entries = outgoing s.subject := by
  obtain ⟨_, _, subject⟩ := transaction_committed ran
  have fresh : ∀ session ∈ s.subject.map Session.clearQueues, session.postCommit = {} :=
    fun _ member => (clearQueues_fresh member).2
  have only : OnlyMessages (t.note level text).subject := by
    change OnlyMessages t.subject
    exact committed_onlyMessages ran
  have epilogue := postCommit_epilogue only closed
  change Epilogue _ (departing t.subject) _ _ _ at epilogue
  rw [subject] at epilogue
  refine ⟨_, epilogue, departing_fits fresh, fun _ member => ?_, ?_⟩
  · exact of_decide_eq_true (List.mem_filter.1 member).2
  · rw [outgoing_departing fresh]
    exact List.flatMap_map ..

-- A batch that succeeds has delivered all its messages or reports that it has delivered none.
theorem process_delivery {s t : Scene (List Session)} {outcome : Outcome}
    (done : process .standard assets s = (.ok outcome, t)) :
    Delivery assets.orgId (outgoing s.subject) s.world.cache.queues t.world.cache.queues
      outcome.postCommitFailures := by
  have course : Course .standard assets s _ _ := process_course s
  rw [done] at course
  cases course with
  | empty none =>
    rw [none]
    exact .made rfl
  | @committed events hooks u _ after present valid live ran closed =>
    obtain ⟨_, queues, _⟩ := transaction_committed ran
    obtain ⟨_, epilogue, fits, each, same⟩ := committed_epilogue ran closed
    rw [← queues, ← same]
    exact epilogue.delivery fits each

end Batch
end SessionBatch

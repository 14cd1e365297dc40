import SessionBatch.Assets
import SessionBatch.Cancellation
import SessionBatch.Error.Batch
import SessionBatch.Log
import SessionBatch.Session
import SessionBatch.Store.Write

namespace SessionBatch

structure QueuedMessage where
  uuid : Uuid
  contactId : ContactId
  contactUuid : Uuid
  urn : Option String
  text : String
  deriving DecidableEq

structure Cache where
  queues : Std.ExtTreeMap OrgId (List QueuedMessage) := {}
  outage : Option StoreError := none
  deriving DecidableEq

namespace Cache

def queued (c : Cache) (org : OrgId) : List QueuedMessage := c.queues.getD org []

def push (c : Cache) (org : OrgId) (messages : List QueuedMessage) :
    Except StoreError Unit × Cache :=
  match c.outage with
  | some e => (.error e, c)
  | none => (.ok (), { c with queues := c.queues.insert org (c.queued org ++ messages) })

end Cache

-- What the next transaction meets: no connection, a commit that fails, or a
-- change of the cache's state just before it.
structure Circumstance where
  refused : Option StoreError := none
  commitFails : Option StoreError := none
  cache : Option (Option StoreError) := none
  deriving DecidableEq

inductive Deed where
  | begun
  | committed
  | rolledBack
  | unavailable
  | wrote (write : BulkWrite) (result : Except StoreError Nat)
  | hookCalled (hook : HookId) (entries : List SessionEvents)

-- The store is the committed one, inside a transaction the transaction's own. Without
-- circumstances, faults or intervals ahead all goes well and time stands still.
structure World where
  store : Store := {}
  cache : Cache := {}
  outage : Option StoreError := none
  ahead : List Circumstance := []
  faults : List (WriteKind × StoreError) := []
  context : Context := {}
  clock : Clock := {}
  log : List LogEntry := []
  deeds : List Deed := []

namespace World

def note (level : Level) (text : String) (w : World) : World :=
  { w with log := w.log ++ [⟨level, text⟩] }

def did (deed : Deed) (w : World) : World := { w with deeds := w.deeds ++ [deed] }

def look (w : World) : Bool × World :=
  let context := if w.clock.nextInterval.cancels then w.context.cancel else w.context
  let clock := w.clock.advance
  (context.isCancelled clock.now, { w with context, clock })

-- A fault set for the kind of a write replaces the next one.
def write (b : BulkWrite) (w : World) : Except StoreError Nat × World :=
  match w.faults.lookup b.kind with
  | some e =>
    let faults := w.faults.filter (·.1 ≠ b.kind)
    (.error e, { w with faults }.did (.wrote b (.error e)))
  | none =>
    let (result, store) := w.store.write b
    (result, { w with store }.did (.wrote b result))

def push (org : OrgId) (messages : List QueuedMessage) (w : World) :
    Except StoreError Unit × World :=
  let (result, cache) := w.cache.push org messages
  (result, { w with cache })

def setUnavailable (value : Bool) (w : World) : World :=
  { w with outage :=
      if value then some (.unavailable "in-memory backend marked unavailable") else none }

def setCacheFailing (value : Bool) (w : World) : World :=
  { w with cache.outage :=
      if value then some (.unavailable "in-memory cache marked failing") else none }

def cancel (w : World) : World := { w with context := w.context.cancel }

def meet (w : World) : Circumstance × World :=
  let next := w.ahead.headD {}
  let cache := match next.cache with
    | some outage => { w.cache with outage }
    | none => w.cache
  (next, { w with cache, ahead := w.ahead.tail })

end World

structure Scene (σ : Type) where
  subject : σ
  world : World

-- What work did to its scene before failing stays done.
abbrev Work (σ ε α : Type) := ExceptT ε (StateM (Scene σ)) α

namespace Scene

variable {σ ε α β : Type}

def note (level : Level) (text : String) (s : Scene σ) : Scene σ :=
  { s with world := s.world.note level text }

def did (deed : Deed) (s : Scene σ) : Scene σ := { s with world := s.world.did deed }

end Scene

namespace Work

variable {σ ε α : Type}

def note (level : Level) (text : String) : Work σ ε Unit := modify (·.note level text)

def ofExcept (result : Except ε α) : Work σ ε α := fun s => (result, s)

def attempt {δ : Type} (work : Work σ δ α) : Work σ ε (Except δ α) := fun s =>
  let (result, s) := work s
  (.ok result, s)

def beside {τ δ : Type} (subject : τ) (work : Work τ δ α) : Work σ ε (Except δ α × τ) := fun s =>
  let (result, t) := work ⟨subject, s.world⟩
  (.ok (result, t.subject), { s with world := t.world })

-- The first failure ends the work; the subjects after it stay as they are.
def eachIn (work : Work σ ε α) : List σ → World → Except ε (List α) × Scene (List σ)
  | [], world => (.ok [], ⟨[], world⟩)
  | subject :: rest, world =>
    match work ⟨subject, world⟩ with
    | (.error e, s) => (.error e, ⟨s.subject :: rest, s.world⟩)
    | (.ok a, s) =>
      let (result, t) := eachIn work rest s.world
      (result.map (a :: ·), ⟨s.subject :: t.subject, t.world⟩)

def each (work : Work σ ε α) : Work (List σ) ε (List α) := fun s => eachIn work s.subject s.world

def ensureActive (phase : Phase) : Work σ BatchError Unit := fun s =>
  let (cancelled, world) := s.world.look
  (if cancelled then .error (.cancelled phase) else .ok (), { s with world })

def write (b : BulkWrite) : Work σ EffectError Nat := fun s =>
  let (result, world) := s.world.write b
  (result.mapError .store, { s with world })

def push (org : OrgId) (messages : List QueuedMessage) : Work σ EffectError Unit := fun s =>
  let (result, world) := s.world.push org messages
  (result.mapError .store, { s with world })

def closing (failure : Option StoreError) (body : Work σ BatchError α) : Work σ BatchError α :=
  fun s =>
    let (result, s) := body s
    match result, failure with
    | .ok _, some e => (.error (.resource e), s)
    | result, _ => (result, s)

-- What the body writes is published only if the body and the commit succeed. Without a connection
-- the body does not run.
def transaction (body : Work σ BatchError α) : Work σ BatchError α := fun s =>
  let (next, world) := s.world.meet
  let s := { s with world }
  match next.refused, s.world.outage with
  | some e, _ => (.error (.resource e), s.did .unavailable)
  | none, some e => (.error (.resource e), s.did .rolledBack)
  | none, none =>
    let (result, after) := closing next.commitFails body (s.did .begun)
    match result with
    | .ok a =>
      let statements := toString after.world.store.statements
      (.ok a, (after.note .debug ("memory_tx:commit statements=" ++ statements)).did .committed)
    | .error e =>
      let reverted := { after with world := { after.world with store := s.world.store } }
      (.error e, (reverted.note .debug ("memory_tx:rollback err=" ++ e.message)).did .rolledBack)

theorem store_transaction_of_error {body : Work σ BatchError α} {s : Scene σ} {e : BatchError}
    (failed : (transaction body s).1 = .error e) :
    (transaction body s).2.world.store = s.world.store := by
  unfold transaction at failed ⊢
  simp only at failed ⊢
  split
  · rfl
  · rfl
  · rename_i refused away
    simp only [refused, away] at failed
    generalize closing _ _ _ = run at failed ⊢
    obtain ⟨_ | _, after⟩ := run
    · rfl
    · cases failed

end Work
end SessionBatch

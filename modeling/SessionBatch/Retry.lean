import SessionBatch.Error.Backend
import SessionBatch.World

namespace SessionBatch

-- Further tries of an operation that fails for a reason that may pass. Before
-- the n-th of them a moment goes by, which grows with n.
namespace Retry

def greatest : Nat := 3

def pauseMillis (n : Nat) : Nat := 15 * n

variable {ε α σ : Type}

-- The first decisive result: a success, an error that no further try can mend,
-- or what the last try gives. With it the number of calls.
structure Decision (ε α : Type) where
  result : Except ε α
  calls : Nat

def attempts (mayPass : ε → Bool) (pause : Nat → ε → σ → σ) (operation : σ → Except ε α × σ)
    (calls : Nat) : Nat → σ → Decision ε α × σ
  | 0, s =>
    let (result, s) := operation s
    (⟨result, calls + 1⟩, s)
  | left + 1, s =>
    match operation s with
    | (.ok a, s) => (⟨.ok a, calls + 1⟩, s)
    | (.error e, s) =>
      if mayPass e then attempts mayPass pause operation (calls + 1) left (pause (calls + 1) e s)
      else (⟨.error e, calls + 1⟩, s)

def run (mayPass : ε → Bool) (pause : Nat → ε → σ → σ) (operation : σ → Except ε α × σ) (s : σ) :
    Decision ε α × σ :=
  attempts mayPass pause operation 0 greatest s

end Retry

class Failure (ε : Type) where
  message : ε → String
  retryable : ε → Bool

instance : Failure BatchError := ⟨BatchError.message, BatchError.retryable⟩
instance : Failure BackendError := ⟨BackendError.message, BackendError.retryable⟩

namespace Work

variable {ε δ α σ : Type}

def pauseLine (n : Nat) (message : String) : String :=
  "retryable error (attempt " ++ toString n ++ "): " ++ message ++ " -> sleeping " ++
    toString (Retry.pauseMillis n) ++ "ms"

def pause (n : Nat) (message : String) (s : Scene σ) : Scene σ :=
  let s := s.note .warn (pauseLine n message)
  { s with world.clock.now := s.world.clock.now + Retry.pauseMillis n * Clock.perMilli }

def retried [Failure ε] (work : Work σ ε α) : Work σ δ (Retry.Decision ε α) := fun s =>
  let (decision, s) :=
    Retry.run Failure.retryable (fun n e => pause n (Failure.message e)) (fun s => work s) s
  (.ok decision, s)

end Work
end SessionBatch

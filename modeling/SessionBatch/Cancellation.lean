namespace SessionBatch

structure Context where
  cancelled : Bool := false
  deadline : Option Nat := none
  deriving DecidableEq

namespace Context

def cancel (c : Context) : Context := { c with cancelled := true }

def isCancelled (c : Context) (now : Nat) : Bool :=
  c.cancelled || c.deadline.any (· ≤ now)

end Context

structure Interval where
  elapsed : Nat := 0
  cancels : Bool := false
  deriving DecidableEq

-- After the last interval time stands still.
structure Clock where
  now : Nat := 0
  ahead : List Interval := []
  deriving DecidableEq

namespace Clock

def nextInterval (c : Clock) : Interval := c.ahead.headD {}

def advance (c : Clock) : Clock := ⟨c.now + c.nextInterval.elapsed, c.ahead.tail⟩

def greatestSecond : Nat := Nat.pow 2 63 - 1

def perSecond : Nat := 1000000000
def perMilli : Nat := 1000000

end Clock

-- There is none when the clock cannot count that far.
def Context.withTimeout? (now timeout : Nat) : Option Context :=
  if (now + timeout) / Clock.perSecond ≤ Clock.greatestSecond then
    some { deadline := some (now + timeout) }
  else none

end SessionBatch

import Provision.Clock
import Provision.Failure

/-!
Retrying an operation that may fail for a passing reason. The number of attempts is bounded, and the
delay between two attempts grows by a factor up to a limit.
-/

namespace Provision

/-- A schedule of attempts. -/
structure Backoff where
  /-- Attempts before giving up, the first one included; zero counts as one. -/
  maxAttempts : Nat
  /-- The delay after the first failure. -/
  initialDelay : Nanoseconds
  /-- No delay is longer. -/
  maxDelay : Nanoseconds
  /-- The factor from one delay to the next. -/
  multiplier : Binary64
deriving DecidableEq, Repr

namespace Backoff

/-- The schedule for writing the status of a tracker. -/
def statusUpdate : Backoff where
  maxAttempts := 5
  initialDelay := Duration.ofMillis 10
  maxDelay := Duration.ofSeconds 1
  multiplier := Binary64.ofInt 2

/-- The power of the multiplier after some failures: one less than their number, as a signed 32-bit
number. -/
def exponent (failures : Nat) : Int :=
  ((failures - 1 : Nat) : Int).bmod (Nat.pow 2 32)

/-- The delay after some failures. A negative multiplier may ask for a negative delay, and there is
none. -/
def delay? (b : Backoff) (failures : Nat) : Option Nanoseconds :=
  let seconds := (Duration.toSeconds b.initialDelay).mul (b.multiplier.powInt (exponent failures))
  Duration.ofSeconds? (seconds.minNum (Duration.toSeconds b.maxDelay))

variable {m : Type → Type} [Monad m] [Clock m] {α ε : Type}

/-- Make up to `left` further attempts after `failures` failed ones. -/
def attempt (b : Backoff) (retryable : ε → Bool) (operation : ExceptT ε m α) :
    Nat → Nat → ExceptT ε m α
  | 0, _ => operation
  | left + 1, failures => ExceptT.mk do
    match ← operation.run with
    | .ok a => pure (.ok a)
    | .error e =>
      if retryable e then
        Clock.sleep ((b.delay? (failures + 1)).getD 0)
        (attempt b retryable operation left (failures + 1)).run
      else pure (.error e)

/-- Run an operation until it succeeds, fails for good, or was tried often enough; the last failure is
the outcome. -/
def retry (b : Backoff) (retryable : ε → Bool) (operation : ExceptT ε m α) : ExceptT ε m α :=
  attempt b retryable operation (b.maxAttempts - 1) 0

end Backoff
end Provision

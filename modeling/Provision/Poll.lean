import Provision.Clock
import Provision.Failure

/-!
Waiting for a condition: check, and while it does not hold, wait and check again. A check that fails
counts as one that does not hold. The last check is made at or after the time limit.
-/

namespace Provision.Poll

variable {m : Type → Type} [Monad m] [Clock m]

/-- The failure of a wait that ran out of time. -/
def timedOut (timeout : Nanoseconds) (what : String) (last : Option Failure) : Failure :=
  let detail := match last with
    | some f => " (last error: " ++ f.message ++ ")"
    | none => ""
  .action ("timed out after " ++ Duration.text timeout ++ " " ++ what ++ detail)

/-- At most `checks` checks on a clock that stood at `start`. -/
def checkFrom (start timeout interval : Nanoseconds) (what : String)
    (check : ExceptT Failure m Bool) : Nat → Option Failure → ExceptT Failure m Unit
  | 0, last => throw (timedOut timeout what last)
  | checks + 1, last => ExceptT.mk do
    let outcome ← check.run
    match outcome with
    | .ok true => pure (.ok ())
    | outcome =>
      let last := match outcome with
        | .error f => some f
        | .ok _ => last
      let now ← Clock.elapsed
      if timeout ≤ now - start then pure (.error (timedOut timeout what last))
      else
        Clock.sleep interval
        (checkFrom start timeout interval what check checks last).run

/-- The number of checks after which the time is over, on a clock that no sleep leaves behind. -/
def maxChecks (timeout interval : Nanoseconds) : Nat :=
  timeout / max interval 1 + 2

/-- Wait until a check holds, but not beyond the time limit. -/
def pollUntil (timeout interval : Nanoseconds) (what : String)
    (check : ExceptT Failure m Bool) : ExceptT Failure m Unit := do
  let start ← Clock.elapsed (m := m)
  checkFrom start timeout interval what check (maxChecks timeout interval) none

end Provision.Poll

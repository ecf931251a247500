import Provision.Duration
import Provision.Timestamp

/-!
Time as a computation meets it: a clock for waiting and the time of day for records.
-/

namespace Provision

/-- A computation that can wait and ask for the time. -/
class Clock (m : Type → Type) where
  /-- How long the clock has been running. -/
  elapsed : m Nanoseconds
  /-- Wait for at least this long. -/
  sleep : Nanoseconds → m Unit
  /-- The time of day. -/
  now : m Timestamp

end Provision

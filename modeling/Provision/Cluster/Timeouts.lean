/-!
Time limits of a connection to a cluster, in milliseconds. A limit that the configuration leaves
unset takes the default.
-/

namespace Provision

/-- The limits that a configuration sets. -/
structure Timeouts where
  connect : Option Nat
  read : Option Nat
deriving DecidableEq, Repr

namespace Timeouts

def standardConnect : Nat := 5000
def standardRead : Nat := 30000

/-- The limits with the defaults in place of those not set. -/
def withDefaults (t : Timeouts) : Timeouts :=
  ⟨t.connect.or (some standardConnect), t.read.or (some standardRead)⟩

end Timeouts
end Provision

import Provision.Handler.Basic

/-!
Handlers that report how their operations end, typically as a condition of the owner. A report that fails
makes the operation fail as well.
-/

namespace Provision

/-- What a handler can do. -/
inductive HandlerOperation where
  | apply
  | delete
deriving DecidableEq, Repr

def HandlerOperation.text : HandlerOperation → String
  | apply => "apply"
  | delete => "delete"

/-- Records the outcome of an operation. -/
abbrev Reporter (m : Type → Type) :=
  HandlerOperation → Except Failure Unit → ExceptT Failure m Unit

namespace Handler

variable {m : Type → Type} [Monad m] [Clock m]

/-- Run an operation of a handler. -/
def perform (around : Surroundings m) (h : Handler m) : HandlerOperation → ExceptT Failure m Unit
  | .apply => h.apply around
  | .delete => h.delete around

/-- Run an operation and report its outcome; what fails is the failure of both. -/
def performAndReport (around : Surroundings m) (h : Handler m) (report : Reporter m)
    (operation : HandlerOperation) : ExceptT Failure m Unit := ExceptT.mk do
  let outcome ← (h.perform around operation).run
  let reported ← (report operation outcome).run
  return Failure.toResult ([outcome, reported].foldl Failure.pushResult [])

end Handler
end Provision

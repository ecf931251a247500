import Provision.Backoff
import Provision.Text.Blank

/-!
Settings of the engine, read from named variables; a variable that is not set leaves the default.
-/

namespace Provision

/-- Settings shared by every feature. -/
structure Settings where
  /-- How status writes are retried. -/
  statusRetry : Backoff
  /-- The program that builds overlays. -/
  overlayProgram : String
  /-- The name under which writes are recorded. -/
  fieldManager : String
deriving DecidableEq, Repr

namespace Settings

def standard : Settings where
  statusRetry := Backoff.statusUpdate
  overlayProgram := "kustomize"
  fieldManager := "feature-engine"

def attemptsVariable : String := "FEATURE_STATUS_MAX_ATTEMPTS"
def overlayProgramVariable : String := "FEATURE_KUSTOMIZE_BIN"
def fieldManagerVariable : String := "FEATURE_FIELD_MANAGER"

/-- A whole number without a minus sign that fits into 32 bits. -/
def readAttempts? (text : String) : Option Nat :=
  let cs := (trimBlanks text).toList
  let ds := match cs with
    | '+' :: rest => rest
    | cs => cs
  if ds.isEmpty || !ds.all isDigit then none
  else
    let n := natOfDigits ds
    if n < Nat.pow 2 32 then some n else none

/-- The number of attempts that a variable asks for. -/
def attempts (text : String) : Except Failure Nat :=
  match readAttempts? text with
  | none => .error (.validation "engine-config"
      ("expected a positive integer, got " ++ quoted text) (some attemptsVariable))
  | some 0 => .error (.validation "engine-config"
      "status updates need at least one attempt" (some attemptsVariable))
  | some n => .ok n

/-- The value of a variable, or the default if it is unset or empty. -/
def textOr (standard : String) : Option String → String
  | some s => if s.isEmpty then standard else s
  | none => standard

/-- The settings that the variables ask for. -/
def ofVariables (lookup : String → Option String) : Except Failure Settings := do
  let retry ← match lookup attemptsVariable with
    | some text => do
      let n ← attempts text
      pure { standard.statusRetry with maxAttempts := n }
    | none => pure standard.statusRetry
  return {
    statusRetry := retry
    overlayProgram := textOr standard.overlayProgram (lookup overlayProgramVariable)
    fieldManager := textOr standard.fieldManager (lookup fieldManagerVariable) }

end Settings
end Provision

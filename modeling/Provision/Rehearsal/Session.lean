import Provision.Rehearsal.Machine
import Provision.Rehearsal.Step

/-!
A rehearsal with its features and handlers under names, so that they can be applied and deleted one after
the other.
-/

namespace Provision

/-- A rehearsal between two of its steps. -/
structure Session where
  world : World
  features : List (String × Feature Rehearsal × Progress) := []
  handlers : List (String × Handler Rehearsal × Option (Reporter Rehearsal)) := []

namespace Session

/-- Something done with a session, which may fail. -/
abbrev Act (α : Type) := ExceptT Failure (StateM Session) α

/-- Do something in the world of the session. -/
def inWorld {α : Type} (x : Rehearsal α) : StateM Session α :=
  modifyGet fun s =>
    let (a, world) := x.run s.world
    (a, { s with world })

/-- The entry with a name. -/
def named {α : Type} (entries : List (String × α)) (name : String) : Except Failure α :=
  match entries.lookup name with
  | some a => .ok a
  | none => .error (.action "no such id")

/-- Make a feature and keep it under a name. -/
def makeFeature (name : String) (d : Definition Rehearsal) : Act (Feature Rehearsal) := do
  let f ← ExceptT.mk (inWorld (d.create Rehearsal.surroundings).run)
  modify fun s => { s with features := (name, f, {}) :: s.features }
  return f

/-- Move a feature on. -/
def moveFeature (name : String) (move : Feature Rehearsal → Feature.Run Rehearsal Unit) : Act Unit := do
  let (f, p) ← named (← get).features name
  let (outcome, p) ← ExceptT.lift (inWorld ((move f).run.run p))
  modify fun s => { s with features := (name, f, p) :: s.features }
  outcome

/-- Keep a handler under a name, perhaps with a reporter. -/
def keepHandler (name : String) (h : Handler Rehearsal) (report : Option (Reporter Rehearsal)) :
    StateM Session Unit :=
  modify fun s => { s with handlers := (name, h, report) :: s.handlers }

/-- Run an operation of a handler. -/
def perform (name : String) (operation : HandlerOperation) : Act Unit := do
  let (h, report) ← named (← get).handlers name
  ExceptT.mk (inWorld (match report with
    | some report => h.performAndReport Rehearsal.surroundings report operation
    | none => h.perform Rehearsal.surroundings operation).run)

/-- The state of the feature with a name. -/
def stateOf (s : Session) (name : String) : Option FeatureState :=
  (s.features.lookup name).map fun e => e.2.state

end Session
end Provision

import Provision.Feature.Stage
import Provision.Tracker.Report

/-!
Features. Applying a feature makes its tracker, runs its stages and reports the outcome on the tracker;
cleaning up runs its cleanup steps and deletes the tracker, and with it all that the tracker owns. A
feature that is not enabled is cleaned up if it has a tracker.
-/

namespace Provision

/-- Where a feature is in its life. -/
inductive FeatureState where
  /-- Not applied yet, or cleaned up. -/
  | pending
  /-- It should not be on the cluster. -/
  | disabled
  /-- Its stages are running. -/
  | progressing
  /-- Every stage succeeded. -/
  | available
  /-- A stage failed; without a reason if the failure names no stage. -/
  | degraded (reason : Option Reason)
deriving DecidableEq, Repr

namespace FeatureState

def text : FeatureState → String
  | pending => "Pending"
  | disabled => "Disabled"
  | progressing => "Progressing"
  | available => "Available"
  | degraded none => "Degraded"
  | degraded (some reason) => "Degraded(" ++ reason.text ++ ")"

/-- The state of a feature whose stages have run. -/
def ofOutcome : Except Failure Unit → FeatureState
  | .ok _ => available
  | .error f => degraded f.reason?

end FeatureState

/-- What changes while a feature is applied and cleaned up. -/
structure Progress where
  state : FeatureState := .pending
  tracker : Option Tracker := none
  data : DataBag := []

/-- A named piece of the cluster's configuration. -/
structure Feature (m : Type → Type) where
  name : String
  /-- The namespace that the feature works in. -/
  space : String
  managed : Bool
  source : Source
  client : Client m
  enabled : Predicate m
  stages : Stages m
  renderer : Renderer m
  /-- The owner of the tracker. -/
  owner : Option OwnerReference
  /-- How status writes are retried. -/
  statusRetry : Backoff

namespace Feature

variable {m : Type → Type}

/-- A computation that moves a feature on. -/
abbrev Run (m : Type → Type) (α : Type) := ExceptT Failure (StateT Progress m) α

/-- The feature as its steps see it. -/
def context (f : Feature m) (tracker : Option Tracker) : Context m :=
  { name := f.name, space := f.space, managed := f.managed, source := f.source, client := f.client,
    tracker }

def trackerName (f : Feature m) : String := Tracker.nameFor f.space f.name

/-- What the tracker of a feature says it was made for. -/
def trackerSpec (f : Feature m) : TrackerSpec := { origin := f.source, space := f.space }

/-- What the tracker says while the feature is applied. -/
def progressMessage (f : Feature m) : String := "Applying feature [" ++ f.name ++ "]"

variable [Monad m]

/-- Run steps on the data of the feature. -/
def onData {α : Type} (x : StateT DataBag m α) : StateT Progress m α := fun p => do
  let (a, data) ← x.run p.data
  return (a, { p with data })

/-- Whether the feature should be on the cluster. -/
def isEnabled (f : Feature m) : Run m Bool := do
  let p ← get
  onCluster (f.enabled (f.context p.tracker) p.data)

/-- Run the cleanup steps and delete the tracker, whatever fails. -/
def tearDown (f : Feature m) : Run m Unit := ExceptT.mk do
  let p ← get
  let failures ← onData (Stages.collectFailures (f.context p.tracker) f.stages.cleanups [])
  let deletion ← (onCluster (f.client.deleteTracker f.trackerName)).run
  modify fun p => { p with tracker := none, state := .pending }
  return Failure.toResult (Failure.pushResult failures deletion)

/-- Take the feature off the cluster. If the data cannot be had, nothing else is done. -/
def cleanup (f : Feature m) : Run m Unit := do
  let p ← get
  ExceptT.mk (onData (Stages.runAll (f.context p.tracker) .loadTemplateData f.stages.data).run)
  f.tearDown

/-- A feature that should not be on the cluster is cleaned up if it was there. -/
def disable (f : Feature m) : Run m Unit := do
  modify fun p => { p with state := .disabled }
  match ← onCluster (f.client.getTracker f.trackerName) with
  | none => pure ()
  | some tracker =>
    modify fun p => { p with tracker := some tracker }
    f.cleanup
    modify fun p => { p with state := .disabled }

variable [Clock m]

/-- Run the stages of a feature that has a tracker, with a report before and one after. -/
def runStages (f : Feature m) (tracker : Tracker) : Run m Unit := ExceptT.mk do
  let start ← (onCluster
    (f.client.reportProgress f.statusRetry f.trackerName f.progressMessage)).run
  let outcome ← onData (f.stages.run (f.context (some tracker)) f.renderer).run
  modify fun p => { p with state := .ofOutcome outcome }
  let failure := match outcome with
    | .ok _ => none
    | .error e => some e
  let report ← (onCluster (f.client.reportOutcome f.statusRetry f.trackerName failure)).run
  return Failure.toResult ([start, outcome, report].foldl Failure.pushResult [])

/-- Make the tracker and run the stages. -/
def enable (f : Feature m) : Run m Unit := do
  let tracker ← onCluster (f.client.ensureTracker f.trackerName f.trackerSpec f.owner)
  modify fun p => { p with tracker := some tracker, state := .progressing }
  f.runStages tracker

/-- Bring the cluster in line with the feature. -/
def apply (f : Feature m) : Run m Unit := do
  if ← f.isEnabled then f.enable else f.disable

end Feature
end Provision

import Provision.Failure
import Provision.Object.Basic
import Provision.Tracker.Condition

/-!
Trackers. Every applied feature has one tracker, an object outside any namespace that records where the
feature comes from and how far it got. What the feature creates is owned by its tracker, so that
deleting the tracker removes it all.
-/

namespace Provision

/-- What kind of thing asked for a feature. -/
inductive SourceKind where
  | component
  | platform
  | unknown
deriving DecidableEq, Repr

namespace SourceKind

def text : SourceKind → String
  | component => "Component"
  | platform => "DSCI"
  | unknown => "Unknown"

def all : List SourceKind := [component, platform, unknown]

end SourceKind

/-- What asked for a feature. -/
structure Source where
  kind : SourceKind := .unknown
  name : String := ""
deriving DecidableEq, Repr

/-- What a tracker was made for. -/
structure TrackerSpec where
  origin : Source := {}
  /-- The namespace that the feature works in. -/
  space : String := ""
deriving DecidableEq, Repr

/-- How far a feature got. -/
inductive Phase where
  | progressing
  | available
  | degraded
deriving DecidableEq, Repr

namespace Phase

def text : Phase → String
  | progressing => "Progressing"
  | available => "Available"
  | degraded => "Degraded"

def all : List Phase := [progressing, available, degraded]

end Phase

/-- The progress of a feature. -/
structure TrackerStatus where
  conditions : List Condition := []
  phase : Phase := .progressing
deriving DecidableEq, Repr

/-- The record of one feature. -/
structure Tracker where
  metadata : Metadata := {}
  spec : TrackerSpec := {}
  status : Option TrackerStatus := none
deriving Repr

namespace Tracker

def apiVersion : String := "features.platform.dev/v1"
def kind : String := "FeatureTracker"
def plural : String := "featuretrackers"

/-- The name of the tracker of a feature in a namespace. -/
def nameFor (space feature : String) : String := space ++ "-" ++ feature

/-- A tracker that the cluster has not seen. -/
def make (name : String) (spec : TrackerSpec) : Tracker :=
  { metadata := { name := some name }, spec }

def displayName (t : Tracker) : String := t.metadata.displayName

/-- The reference by which objects name a tracker as their owner. A tracker without a uid cannot own. -/
def ownerReference? (t : Tracker) : Option OwnerReference :=
  t.metadata.uid.map fun uid =>
    { apiVersion, blockOwnerDeletion := none, controller := none, kind, name := t.displayName, uid }

end Tracker

namespace TrackerStatus

/-- Set conditions in turn. -/
def setAll (status : TrackerStatus) (conditions : List Condition) : TrackerStatus :=
  { status with conditions := conditions.foldl Condition.set status.conditions }

/-- The feature is being applied. -/
def markProgressing (now : Timestamp) (message : String) (status : TrackerStatus) : TrackerStatus :=
  { status.setAll [⟨Condition.progressing, .holds, Reason.featureCreated.text, message, now⟩] with
    phase := .progressing }

/-- The reason of a failure that names no stage. -/
def failedReason : String := "Failed"

/-- What a condition says about a failure; the stage is already its reason. -/
def failureMessage : Failure → String
  | .stage _ source => source.message
  | f => f.message

/-- The conditions that an outcome gives rise to. -/
def outcomeConditions (now : Timestamp) : Option Failure → List Condition
  | none => [
    ⟨Condition.available, .holds, Reason.featureCreated.text, "Feature applied successfully", now⟩,
    ⟨Condition.degraded, .fails, "", "", now⟩,
    ⟨Condition.progressing, .fails, Reason.featureCreated.text, "", now⟩]
  | some f =>
    let reason := (f.reason?.map Reason.text).getD failedReason
    [⟨Condition.available, .fails, reason, "", now⟩,
    ⟨Condition.degraded, .holds, reason, failureMessage f, now⟩,
    ⟨Condition.progressing, .fails, Reason.featureCreated.text, "", now⟩]

/-- The feature was applied, or failed to be. -/
def markOutcome (now : Timestamp) (outcome : Option Failure) (status : TrackerStatus) :
    TrackerStatus :=
  { status.setAll (outcomeConditions now outcome) with
    phase := if outcome.isSome then .degraded else .available }

end TrackerStatus
end Provision

import Provision.Backoff
import Provision.Cluster.Client

/-!
Keeping the tracker of a feature: making it at the first run, and writing its status. A status is written
by reading the tracker, changing the status and putting it back; if the tracker was changed in between,
all of that is tried again.
-/

namespace Provision.Client

variable {m : Type → Type} [Monad m]

/-- A tracker that is to be owned by somebody. -/
def freshTracker (name : String) (spec : TrackerSpec) (owner : Option OwnerReference) : Tracker :=
  let t := Tracker.make name spec
  { t with metadata := { t.metadata with ownerReferences := owner.map fun o => [o] } }

/-- The tracker that somebody else created at the same time. -/
def trackerOfOther (client : Client m) (name : String) : ExceptT Failure m Tracker := do
  match ← client.getTracker name with
  | some t => return t
  | none => throw (.internal ("tracker " ++ name ++ " vanished after create conflict") "ensure_tracker")

/-- The tracker with a name, created if there is none. -/
def ensureTracker (client : Client m) (name : String) (spec : TrackerSpec)
    (owner : Option OwnerReference) : ExceptT Failure m Tracker := do
  match ← client.getTracker name with
  | some t => return t
  | none => ExceptT.mk do
    match ← (client.createTracker (freshTracker name spec owner)).run with
    | .ok t => return .ok t
    | .error f =>
      if f.isAlreadyExists then (client.trackerOfOther name).run else return .error f

variable [Clock m]

/-- Change the status of a tracker once. -/
def changeStatus (client : Client m) (name : String)
    (change : Timestamp → TrackerStatus → TrackerStatus) : ExceptT Failure m Unit := do
  match ← client.getTracker name with
  | none => throw (.internal ("tracker " ++ name ++ " not found") "update_tracker_status")
  | some t =>
    let now ← Clock.now (m := m)
    let _ ← client.replaceTrackerStatus { t with status := some (change now (t.status.getD {})) }

/-- Change the status of a tracker, again as long as others change it at the same time. -/
def updateStatus (client : Client m) (retry : Backoff) (name : String)
    (change : Timestamp → TrackerStatus → TrackerStatus) : ExceptT Failure m Unit :=
  retry.retry Failure.isConflict (client.changeStatus name change)

/-- Report that the feature is being applied. -/
def reportProgress (client : Client m) (retry : Backoff) (name message : String) :
    ExceptT Failure m Unit :=
  client.updateStatus retry name fun now => TrackerStatus.markProgressing now message

/-- Report how applying the feature ended. -/
def reportOutcome (client : Client m) (retry : Backoff) (name : String) (outcome : Option Failure) :
    ExceptT Failure m Unit :=
  client.updateStatus retry name fun now => TrackerStatus.markOutcome now outcome

end Provision.Client

import Provision.Object.Format
import Provision.Tracker.Basic

/-!
Trackers and their parts as JSON.
-/

namespace Provision

open Json

namespace Condition

def read : Reader Condition :=
  readRecord "Condition" [
    slot "type" readString fun c v => { c with type := v },
    slot "status" (readName (ConditionStatus.all.map fun s => (s.text, s)))
      fun c v => { c with status := v },
    slot "reason" readString (fun c v => { c with reason := v }) .defaulted,
    slot "message" readString (fun c v => { c with message := v }) .defaulted,
    slot "lastTransitionTime" readTime fun c v => { c with since := v }]
    ⟨"", .unknown, "", "", default⟩

def toJson (c : Condition) : Json :=
  ofFields [("type", string c.type), ("status", string c.status.text), ("reason", string c.reason),
    ("message", string c.message), ("lastTransitionTime", string c.since.text)]

end Condition

namespace Source

def read : Reader Source :=
  readRecord "Source" [
    slot "type" (readName (SourceKind.all.map fun k => (k.text, k)))
      (fun s v => { s with kind := v }) .defaulted,
    slot "name" readString (fun s v => { s with name := v }) .defaulted]
    {}

def toJson (s : Source) : Json :=
  ofFields [("type", string s.kind.text), ("name", string s.name)]

end Source

namespace TrackerSpec

def read : Reader TrackerSpec :=
  readRecord "FeatureTrackerSpec" [
    slot "origin" Source.read (fun s v => { s with origin := v }) .defaulted,
    slot "appNamespace" readString (fun s v => { s with space := v }) .defaulted]
    {}

def toJson (s : TrackerSpec) : Json :=
  ofFields [("origin", s.origin.toJson), ("appNamespace", string s.space)]

end TrackerSpec

namespace TrackerStatus

def read : Reader TrackerStatus :=
  readRecord "FeatureTrackerStatus" [
    slot "conditions" (readList Condition.read) (fun s v => { s with conditions := v }) .defaulted,
    slot "phase" (readName (Phase.all.map fun p => (p.text, p)))
      (fun s v => { s with phase := v }) .defaulted]
    {}

def toJson (s : TrackerStatus) : Json :=
  ofFields [("conditions", array (s.conditions.map Condition.toJson)), ("phase", string s.phase.text)]

end TrackerStatus

namespace Tracker

def read : Reader Tracker :=
  readRecord "FeatureTracker" [
    slot "metadata" Metadata.read fun t v => { t with metadata := v },
    slot "spec" TrackerSpec.read fun t v => { t with spec := v },
    slot "status" (readOption TrackerStatus.read) (fun t v => { t with status := v }) .optional]
    {}

def toJson (t : Tracker) : Json :=
  ofFields (presentFields [
    ("apiVersion", some (string apiVersion)),
    ("kind", some (string kind)),
    ("metadata", some t.metadata.toJson),
    ("spec", some t.spec.toJson),
    ("status", t.status.map TrackerStatus.toJson)])

end Tracker
end Provision

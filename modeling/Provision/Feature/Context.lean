import Provision.Cluster.Apply
import Provision.DataBag

/-!
What the steps of a feature see: who the feature is, its cluster, its tracker once there is one, and the
data that they share. What a step stores in the data stays stored if the step fails.
-/

namespace Provision

/-- A feature as its steps see it. -/
structure Context (m : Type → Type) where
  name : String
  /-- The namespace that the feature works in. -/
  space : String
  /-- Whether what the feature creates is replaced at every run. -/
  managed : Bool
  source : Source
  client : Client m
  tracker : Option Tracker := none

/-- A step of a feature. -/
abbrev Action (m : Type → Type) := Context m → ExceptT Failure (StateT DataBag m) Unit

/-- Decides whether a feature should be on the cluster. -/
abbrev Predicate (m : Type → Type) := Context m → DataBag → ExceptT Failure m Bool

section Lift

variable {m : Type → Type} [Monad m] {σ α : Type}

/-- Do something on the cluster from a computation with a state of its own. -/
def onCluster (x : ExceptT Failure m α) : ExceptT Failure (StateT σ m) α :=
  ExceptT.mk (StateT.lift x.run)

end Lift

namespace Context

variable {m : Type → Type}

def trackerName (c : Context m) : String := Tracker.nameFor c.space c.name

/-- The reference by which created objects name the tracker as their owner. -/
def ownerReference? (c : Context m) : Option OwnerReference :=
  c.tracker.bind Tracker.ownerReference?

/-- The changes to the metadata of everything that the feature creates: the tracker owns it, and what a
managed feature creates is marked so. -/
def metaOptions (c : Context m) : Except Failure (List MetaOption) :=
  match c.ownerReference? with
  | none => .error (.internal ("feature " ++ c.name ++ " has no persisted tracker") "meta_options")
  | some owner => .ok (.ownedBy owner :: if c.managed then [.managed] else [])

/-- Apply an object as one of the feature's. -/
def applyObject [Monad m] (c : Context m) (o : Object) : ExceptT Failure m ApplyOutcome := do
  let options ← c.metaOptions
  c.client.applyObject options o

end Context
end Provision

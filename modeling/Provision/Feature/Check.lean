import Provision.Feature.Context
import Provision.Poll

/-!
Steps that many features need: a namespace that must exist, a resource definition that must be installed,
and waiting for pods or for an object. A wait checks every two seconds until its time is over.
-/

namespace Provision.Action

variable {m : Type → Type} [Monad m]

def namespaces : ResourceType := .of "v1" "Namespace"
def pods : ResourceType := .of "v1" "Pod"
def resourceDefinitions : ResourceType := .of "apiextensions.k8s.io/v1" "CustomResourceDefinition"

/-- A namespace that says nothing but its name. -/
def namespaceObject (name : String) : Object where
  types := some ⟨"v1", "Namespace"⟩
  metadata := { name := some name }

/-- Create a namespace unless there is one. Nothing owns it, so it outlives the feature. -/
def createNamespace (name : String) : Action m := fun c => onCluster do
  match ← c.client.get namespaces (.ofCluster name) with
  | some _ => pure ()
  | none =>
    let _ ← c.client.createIfAbsent namespaces (namespaceObject name)

/-- Fail unless a resource definition is installed. -/
def requireDefinition (name : String) : Action m := fun c => onCluster do
  match ← c.client.get resourceDefinitions (.ofCluster name) with
  | some _ => pure ()
  | none => throw (.action ("\"" ++ name ++ "\" not found"))

variable [Clock m]

/-- The time between two checks of a wait. -/
def checkInterval : Nanoseconds := Duration.ofSeconds 2

/-- Wait until a check holds. -/
def waitUntil (timeout : Nanoseconds) (what : String) (check : ExceptT Failure m Bool) :
    ExceptT Failure m Unit :=
  Poll.pollUntil timeout (min checkInterval timeout) ("waiting for " ++ what) check

/-- Whether there are pods and all of them are ready. -/
def allReady (pods : List Object) : Bool :=
  !pods.isEmpty && pods.all Object.isPodReady

/-- Wait until a namespace has pods and all of them are ready. -/
def waitForPods (space : String) (timeout : Nanoseconds) : Action m := fun c => onCluster do
  waitUntil timeout ("pods in namespace " ++ space ++ " to be ready")
    (allReady <$> c.client.list pods (some space) none)

/-- Wait until there is an object. -/
def waitForObject (type : ResourceType) (key : ObjectKey) (timeout : Nanoseconds) : Action m :=
  fun c => onCluster do
    waitUntil timeout (type.kind ++ " " ++ key.text) (Option.isSome <$> c.client.get type key)

end Provision.Action

import Provision.Failure
import Provision.Json.Basic
import Provision.ResourceType
import Provision.Timestamp

/-!
Objects of a cluster: the type, the metadata that every object has, and the rest as JSON.
-/

namespace Provision

/-- A reference from an object to one that owns it. -/
structure OwnerReference where
  apiVersion : String
  blockOwnerDeletion : Option Bool
  controller : Option Bool
  kind : String
  name : String
  uid : String
deriving DecidableEq, Repr

/-- What one manager of an object's fields has written. -/
structure ManagedFields where
  apiVersion : Option String := none
  fieldsType : Option String := none
  fields : Option Json := none
  manager : Option String := none
  operation : Option String := none
  subresource : Option String := none
  time : Option Timestamp := none
deriving Repr

/-- The metadata of an object. -/
structure Metadata where
  annotations : Option (Keyed String String) := none
  creationTimestamp : Option Timestamp := none
  deletionGracePeriodSeconds : Option Int := none
  deletionTimestamp : Option Timestamp := none
  finalizers : Option (List String) := none
  generateName : Option String := none
  generation : Option Int := none
  labels : Option (Keyed String String) := none
  managedFields : Option (List ManagedFields) := none
  name : Option String := none
  /-- The namespace that the object lives in. -/
  space : Option String := none
  ownerReferences : Option (List OwnerReference) := none
  resourceVersion : Option String := none
  selfLink : Option String := none
  uid : Option String := none
deriving Repr

/-- The API version and kind that an object says it has. -/
structure TypeMeta where
  apiVersion : String
  kind : String
deriving DecidableEq, Repr

/-- An object of a cluster. -/
structure Object where
  types : Option TypeMeta := none
  metadata : Metadata := {}
  /-- All members but the type and the metadata. -/
  data : Keyed String Json := []
deriving Repr

/-- The namespace and name of an object; an object outside any namespace has none. -/
structure ObjectKey where
  space : Option String
  name : String
deriving DecidableEq, Repr

namespace ObjectKey

/-- The key as messages show it. -/
def text (k : ObjectKey) : String :=
  match k.space with
  | some space => space ++ "/" ++ k.name
  | none => k.name

/-- The key of an object outside any namespace. -/
def ofCluster (name : String) : ObjectKey := ⟨none, name⟩

end ObjectKey

namespace Metadata

/-- The name of an object, or the start of the name that it is to be given. -/
def displayName (m : Metadata) : String :=
  (m.name.or m.generateName).getD ""

/-- Put an annotation on the object. -/
def annotate (m : Metadata) (key value : String) : Metadata :=
  { m with annotations := some (Keyed.insert (m.annotations.getD []) key value) }

/-- Put labels on the object, in place of labels with the same keys. -/
def addLabels (m : Metadata) (labels : Keyed String String) : Metadata :=
  { m with labels := some (Keyed.union (m.labels.getD []) labels) }

/-- Whether an owner is named by its uid. -/
def isOwnedBy (m : Metadata) (uid : String) : Bool :=
  (m.ownerReferences.getD []).any fun r => r.uid == uid

/-- Name an owner, unless one with the same uid is named. -/
def addOwner (m : Metadata) (owner : OwnerReference) : Metadata :=
  let refs := m.ownerReferences.getD []
  { m with ownerReferences := some (if m.isOwnedBy owner.uid then refs else refs ++ [owner]) }

end Metadata

namespace Object

def displayName (o : Object) : String := o.metadata.displayName

/-- The kind, empty if the object says none. -/
def kind (o : Object) : String := (o.types.map TypeMeta.kind).getD ""

/-- The key of an object; an empty namespace is none. -/
def key (o : Object) : ObjectKey :=
  ⟨o.metadata.space.filter fun s => !s.isEmpty, o.displayName⟩

/-- The annotation on objects that are replaced at every run. -/
def managedAnnotation : String := "platform.dev/managed"

/-- Whether an object carries the managed annotation with the value `true`. -/
def isManaged (o : Object) : Bool :=
  (Keyed.get? (o.metadata.annotations.getD []) managedAnnotation) == some "true"

/-- The resource type that an object says it has. -/
def resourceType (o : Object) : Except Failure ResourceType :=
  match o.types with
  | some t => .ok (ResourceType.of t.apiVersion t.kind)
  | none => .error (.invalid ("object " ++ o.displayName ++ " has no apiVersion/kind"))

/-- Whether an object lives in a namespace with a name. -/
def hasSpace (o : Object) : Bool := o.metadata.space.any fun s => !s.isEmpty

/-- An object of a kind that lives in namespaces must have one. -/
def checkSpace (path : String) (o : Object) : Except Failure Unit :=
  if !o.hasSpace && !ResourceType.isClusterScoped o.kind then
    .error (.manifest path ("no namespace is set on " ++ o.kind ++ "/" ++ o.displayName))
  else .ok ()

/-- Whether a member of a JSON object is the given text. -/
def saysText (j : Json) (member value : String) : Bool :=
  match j.field? member with
  | some (.string s) => s == value
  | _ => false

/-- Whether a pod reports the condition `Ready` with the status `True`. -/
def isPodReady (o : Object) : Bool :=
  match (Keyed.get? o.data "status").bind fun s => s.field? "conditions" with
  | some (.array conditions) =>
    conditions.any fun c => saysText c "type" "Ready" && saysText c "status" "True"
  | _ => false

end Object
end Provision

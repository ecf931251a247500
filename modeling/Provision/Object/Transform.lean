import Provision.Object.Basic

/-!
Changes made to objects before they are applied: to the output of overlays, and to the metadata of
everything that a feature applies.
-/

namespace Provision

/-- A change made to every object that an overlay yields. -/
inductive Transform where
  /-- Put objects of namespaced kinds into a namespace. -/
  | setSpace (space : String)
  /-- Put labels on every object. -/
  | addLabels (labels : Keyed String String)
deriving DecidableEq, Repr

namespace Transform

/-- The labels of objects that belong to a platform component. -/
def componentLabels (component : String) : Transform :=
  .addLabels (Keyed.ofList [
    ("app.platform.dev/" ++ component, "true"),
    ("app.kubernetes.io/part-of", component)])

def apply (t : Transform) (o : Object) : Object :=
  match t with
  | .setSpace space =>
    if ResourceType.isClusterScoped o.kind then o
    else { o with metadata := { o.metadata with space := some space } }
  | .addLabels labels => { o with metadata := o.metadata.addLabels labels }

/-- Apply changes in turn. -/
def applyAll (ts : List Transform) (o : Object) : Object :=
  ts.foldl (fun o t => t.apply o) o

end Transform

/-- A change to the metadata of an object that is about to be applied. -/
inductive MetaOption where
  /-- Name an owner. -/
  | ownedBy (owner : OwnerReference)
  /-- Set an annotation. -/
  | annotate (key value : String)
deriving DecidableEq, Repr

namespace MetaOption

/-- Mark the object as one that is replaced at every run. -/
def managed : MetaOption := .annotate Object.managedAnnotation "true"

def apply (option : MetaOption) (o : Object) : Object :=
  match option with
  | .ownedBy owner => { o with metadata := o.metadata.addOwner owner }
  | .annotate key value => { o with metadata := o.metadata.annotate key value }

/-- Apply options in turn. -/
def applyAll (options : List MetaOption) (o : Object) : Object :=
  options.foldl (fun o option => option.apply o) o

end MetaOption
end Provision

import Provision.Cluster.Client
import Provision.Manifest.Render

/-!
Applying objects so that a second time changes nothing. An object that is missing is created; one that is
there is replaced only if it carries the managed annotation, and otherwise left alone. A patch is merged
into an object that must be there.
-/

namespace Provision

/-- What became of an object that was applied. -/
inductive ApplyOutcome where
  | created
  | updated
  | unchanged
deriving DecidableEq, Repr

def ApplyOutcome.text : ApplyOutcome → String
  | created => "Created"
  | updated => "Updated"
  | unchanged => "Unchanged"

namespace Client

variable {m : Type → Type} [Monad m]

/-- Create an object unless somebody else was faster; says whether it was created here. -/
def createIfAbsent (client : Client m) (type : ResourceType) (o : Object) :
    ExceptT Failure m Bool := ExceptT.mk do
  match ← (client.create type o).run with
  | .ok _ => return .ok true
  | .error f => return if f.isAlreadyExists then .ok false else .error f

/-- The object with the version of the one that it is to replace. -/
def replacementOf (live o : Object) : Object :=
  { o with metadata := { o.metadata with resourceVersion := live.metadata.resourceVersion } }

/-- Apply an object with changes to its metadata. -/
def applyObject (client : Client m) (options : List MetaOption) (o : Object) :
    ExceptT Failure m ApplyOutcome := do
  let desired := MetaOption.applyAll options o
  let type ← desired.resourceType
  match ← client.get type desired.key with
  | none =>
    let created ← client.createIfAbsent type desired
    return if created then .created else .unchanged
  | some live =>
    if live.isManaged then
      let _ ← client.replace type (replacementOf live desired)
      return .updated
    else return .unchanged

/-- Merge an object into the one with its key. -/
def patchObject (client : Client m) (patch : Object) : ExceptT Failure m Unit := do
  let type ← patch.resourceType
  let _ ← client.mergePatch type patch.key patch.toJson

/-- Apply or merge objects in turn up to the first failure. -/
def applyObjects (client : Client m) (options : List MetaOption) (patch : Bool) :
    List Object → ExceptT Failure m Unit
  | [] => pure ()
  | o :: rest => do
    if patch then client.patchObject o
    else
      let _ ← client.applyObject options o
    client.applyObjects options patch rest

/-- Apply what a manifest yields. -/
def applyRendered (client : Client m) (options : List MetaOption) (r : Rendered) :
    ExceptT Failure m Unit :=
  client.applyObjects options r.patch r.objects

end Client
end Provision

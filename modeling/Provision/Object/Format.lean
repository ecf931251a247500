import Provision.Json.Reading
import Provision.Object.Basic

/-!
Objects as JSON: reading and writing. Absent members are left out, and members of the metadata that
are not known are dropped.
-/

namespace Provision

open Json

namespace OwnerReference

/-- One member of an owner reference; a text that is null is empty. -/
def readMember (r : OwnerReference) (e : String × Json) : Except ReadFault OwnerReference :=
  let text := fun (j : Json) => (readOption readString j).map fun s => s.getD ""
  match e.1 with
  | "apiVersion" => (text e.2).map fun s => { r with apiVersion := s }
  | "blockOwnerDeletion" => (readOption readBool e.2).map fun b => { r with blockOwnerDeletion := b }
  | "controller" => (readOption readBool e.2).map fun b => { r with controller := b }
  | "kind" => (text e.2).map fun s => { r with kind := s }
  | "name" => (text e.2).map fun s => { r with name := s }
  | "uid" => (text e.2).map fun s => { r with uid := s }
  | _ => .ok r

def read : Reader OwnerReference := fun j => do
  let members ← readMembers "OwnerReference" j
  readEach readMember ⟨"", none, none, "", "", ""⟩ members

def toJson (r : OwnerReference) : Json :=
  ofFields (presentFields [
    ("apiVersion", some (string r.apiVersion)),
    ("blockOwnerDeletion", r.blockOwnerDeletion.map bool),
    ("controller", r.controller.map bool),
    ("kind", some (string r.kind)),
    ("name", some (string r.name)),
    ("uid", some (string r.uid))])

end OwnerReference

namespace ManagedFields

def readMember (m : ManagedFields) (e : String × Json) : Except ReadFault ManagedFields :=
  let text := readOption readString e.2
  match e.1 with
  | "apiVersion" => text.map fun s => { m with apiVersion := s }
  | "fieldsType" => text.map fun s => { m with fieldsType := s }
  | "fieldsV1" => (readOption Except.ok e.2).map fun v => { m with fields := v }
  | "manager" => text.map fun s => { m with manager := s }
  | "operation" => text.map fun s => { m with operation := s }
  | "subresource" => text.map fun s => { m with subresource := s }
  | "time" => (readOption readTime e.2).map fun t => { m with time := t }
  | _ => .ok m

def read : Reader ManagedFields := fun j => do
  let members ← readMembers "ManagedFieldsEntry" j
  readEach readMember {} members

def toJson (m : ManagedFields) : Json :=
  ofFields (presentFields [
    ("apiVersion", m.apiVersion.map string),
    ("fieldsType", m.fieldsType.map string),
    ("fieldsV1", m.fields),
    ("manager", m.manager.map string),
    ("operation", m.operation.map string),
    ("subresource", m.subresource.map string),
    ("time", m.time.map fun t => string t.wholeText)])

end ManagedFields

namespace Metadata

/-- One member of the metadata; null is an absent member. -/
def readMember (m : Metadata) (e : String × Json) : Except ReadFault Metadata :=
  let text := readOption readString e.2
  let number := readOption readInt64 e.2
  let texts := readOption readStringMap e.2
  let time := readOption readTime e.2
  match e.1 with
  | "annotations" => texts.map fun v => { m with annotations := v }
  | "creationTimestamp" => time.map fun v => { m with creationTimestamp := v }
  | "deletionGracePeriodSeconds" => number.map fun v => { m with deletionGracePeriodSeconds := v }
  | "deletionTimestamp" => time.map fun v => { m with deletionTimestamp := v }
  | "finalizers" => (readOption (readList readString) e.2).map fun v => { m with finalizers := v }
  | "generateName" => text.map fun v => { m with generateName := v }
  | "generation" => number.map fun v => { m with generation := v }
  | "labels" => texts.map fun v => { m with labels := v }
  | "managedFields" =>
    (readOption (readList ManagedFields.read) e.2).map fun v => { m with managedFields := v }
  | "name" => text.map fun v => { m with name := v }
  | "namespace" => text.map fun v => { m with space := v }
  | "ownerReferences" =>
    (readOption (readList OwnerReference.read) e.2).map fun v => { m with ownerReferences := v }
  | "resourceVersion" => text.map fun v => { m with resourceVersion := v }
  | "selfLink" => text.map fun v => { m with selfLink := v }
  | "uid" => text.map fun v => { m with uid := v }
  | _ => .ok m

def read : Reader Metadata := fun j => do
  let members ← readMembers "ObjectMeta" j
  readEach readMember {} members

def toJson (m : Metadata) : Json :=
  ofFields (presentFields [
    ("annotations", m.annotations.map ofStrings),
    ("creationTimestamp", m.creationTimestamp.map fun t => string t.wholeText),
    ("deletionGracePeriodSeconds", m.deletionGracePeriodSeconds.map int),
    ("deletionTimestamp", m.deletionTimestamp.map fun t => string t.wholeText),
    ("finalizers", m.finalizers.map fun fs => array (fs.map string)),
    ("generateName", m.generateName.map string),
    ("generation", m.generation.map int),
    ("labels", m.labels.map ofStrings),
    ("managedFields", m.managedFields.map fun fs => array (fs.map ManagedFields.toJson)),
    ("name", m.name.map string),
    ("namespace", m.space.map string),
    ("ownerReferences", m.ownerReferences.map fun rs => array (rs.map OwnerReference.toJson)),
    ("resourceVersion", m.resourceVersion.map string),
    ("selfLink", m.selfLink.map string),
    ("uid", m.uid.map string)])

end Metadata

namespace Object

/-- The type among the members of an object, and the members that are left for the rest. The members are
tried in turn; one that is not a text ends the attempt, and what was tried is gone either way. -/
def takeTypes : Option String → Option String → List (String × Json) →
    Option TypeMeta × List (String × Json)
  | apiVersion, kind, [] =>
    (apiVersion.bind fun a => kind.map fun k => ⟨a, k⟩, [])
  | apiVersion, kind, e :: rest =>
    if e.1 = "apiVersion" || e.1 = "kind" then
      match e.2 with
      | .string s =>
        if e.1 = "kind" then takeTypes apiVersion (some s) rest else takeTypes (some s) kind rest
      | _ => (none, rest)
    else
      let (types, left) := takeTypes apiVersion kind rest
      (types, e :: left)

/-- The metadata among the members of an object; an object without it has empty metadata. -/
def readMetadata (members : List (String × Json)) : Except ReadFault Metadata :=
  match Keyed.get? members "metadata" with
  | some j => (Metadata.read j).mapError (.inMember "metadata")
  | none => .ok {}

def read : Reader Object := fun j => do
  let members ← readMembers "struct DynamicObject" j
  let metadata ← readMetadata members
  let (types, data) := takeTypes none none (Keyed.erase members "metadata")
  return { types, metadata, data }

/-- The members that name the type. -/
def typeFields (types : Option TypeMeta) : List (String × Json) :=
  match types with
  | some t => [("apiVersion", string t.apiVersion), ("kind", string t.kind)]
  | none => []

def toJson (o : Object) : Json :=
  ofFields (typeFields o.types ++ ("metadata", o.metadata.toJson) :: o.data)

end Object
end Provision

import Provision.Object.Format
import Provision.Yaml.Documents
import Provision.Yaml.Value

/-!
The objects that the documents of a manifest describe. A document without content is passed over; any
other must be an object with a type and a name.
-/

namespace Provision.Manifest

/-- The object of one document, or nothing for a document without content. The text of a failure says
what is wrong with the document. -/
def objectOfDocument (document : String) : Except String (Option Object) := do
  let value ← (Yaml.toJson document).mapError Yaml.Error.message
  if value.isNull then return none
  let o ← (Object.read value).mapError ReadFault.message
  if o.types.isNone then throw "apiVersion and kind are required"
  if o.metadata.name.getD "" = "" then throw "metadata.name is required"
  return some o

/-- The objects of documents numbered from `index` on. -/
def objectsFrom (path : String) : Nat → List String → Except Failure (List Object)
  | _, [] => .ok []
  | index, d :: rest => do
    let found ← (objectOfDocument d).mapError fun why =>
      .manifest path ("document " ++ toString index ++ ": " ++ why)
    let others ← objectsFrom path (index + 1) rest
    return found.toList ++ others

/-- The objects that a text describes. -/
def parseObjects (path content : String) : Except Failure (List Object) :=
  objectsFrom path 0 (Yaml.splitDocuments content)

/-- Every object of a namespaced kind must have a namespace. -/
def checkSpaces (path : String) (objects : List Object) : Except Failure Unit :=
  objects.forM (Object.checkSpace path)

/-- The objects that a text describes, each in a namespace if its kind wants one. -/
def parseDocuments (path content : String) : Except Failure (List Object) := do
  let objects ← parseObjects path content
  checkSpaces path objects
  return objects

end Provision.Manifest

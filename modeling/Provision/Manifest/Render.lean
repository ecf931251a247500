import Provision.DataBag
import Provision.Manifest.Basic
import Provision.Object.Transform
import Provision.Template.Render

/-!
From a manifest to the objects that are applied. Templates are rendered with the data of a feature; an
overlay is built by an engine, and its objects are transformed before they are checked.
-/

namespace Provision

/-- Builds the overlay in a directory into the text of its objects. -/
abbrev OverlayEngine (m : Type → Type) := String → ExceptT Failure m String

/-- The objects that a manifest yields. -/
structure Rendered where
  /-- The path of the manifest. -/
  source : String
  /-- Whether the objects are merged into existing ones. -/
  patch : Bool
  objects : List Object
deriving Repr

namespace Manifest

/-- The directory on disk of an overlay. -/
def overlayDir (path : String) (files : Files) : Except Failure String :=
  match files.diskRoot? with
  | some root => .ok (Files.onDisk root path)
  | none => .error (.overlay path "overlay manifests need a filesystem backed by disk")

/-- The objects that a template describes. -/
def renderTemplate (data : DataBag) (path content : String) : Except Failure (List Object) :=
  match Template.render content data with
  | .ok text => parseDocuments path text
  | .error e => .error (.template path e)

/-- The objects in the output of an overlay engine, after all transforms. -/
def enrich (transforms : List Transform) (path output : String) : Except Failure (List Object) := do
  let objects ← parseObjects path output
  let changed := objects.map (Transform.applyAll transforms)
  checkSpaces path changed
  return changed

variable {m : Type → Type} [Monad m]

/-- The objects of a manifest. -/
def objects (data : DataBag) (engine : OverlayEngine m) (transforms : List Transform) :
    Manifest → ExceptT Failure m (List Object)
  | raw _ _ objects => pure objects
  | template path _ content => renderTemplate data path content
  | overlay path files => do
    let dir ← overlayDir path files
    let output ← engine dir
    enrich transforms path output

/-- Render a manifest. -/
def render (data : DataBag) (engine : OverlayEngine m) (transforms : List Transform) (man : Manifest) :
    ExceptT Failure m Rendered := do
  let objects ← man.objects data engine transforms
  return { source := man.path, patch := man.isPatch, objects }

end Manifest
end Provision

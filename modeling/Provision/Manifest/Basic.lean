import Provision.Manifest.Documents
import Provision.Manifest.Files

/-!
Manifests and where they are found. A directory with an overlay configuration file is one overlay with
all that lies below it; every other file is a template or a list of objects.
-/

namespace Provision

/-- A source of objects. -/
inductive Manifest where
  /-- Objects as written. -/
  | raw (path : String) (patch : Bool) (objects : List Object)
  /-- A template, to be rendered with the data of a feature. -/
  | template (path : String) (patch : Bool) (content : String)
  /-- A directory that an overlay engine builds into objects. -/
  | overlay (path : String) (files : Files)
deriving Repr

namespace Manifest

def path : Manifest → String
  | raw p _ _ => p
  | template p _ _ => p
  | overlay p _ => p

/-- Whether the objects are merged into existing ones. -/
def isPatch : Manifest → Bool
  | raw _ patch _ => patch
  | template _ patch _ => patch
  | overlay _ _ => false

/-- The directories of overlay configuration files, each once and in order. -/
def overlayDirs (files : List String) : List String :=
  Keyed.keys (Keyed.ofList ((files.filter Path.isOverlayConfig).map fun f => (Path.parentDir f, ())))

/-- The overlays among some files: the directories of configuration files that lie in no other one. -/
def overlayRoots (files : List String) : List String :=
  let dirs := overlayDirs files
  dirs.filter fun dir => !dirs.any fun other => other != dir && Path.isWithin dir other

/-- The manifest of a file that belongs to no overlay. -/
def ofFile (file content : String) : Except Failure Manifest :=
  if Path.isTemplate file then .ok (template file (Path.isPatch file) content)
  else (parseDocuments file content).map fun objects => raw file (Path.isPatch file) objects

/-- The manifests of some files. An overlay comes where the first of its files stands. -/
def loadFiles (files : Files) (roots : List String) :
    List String → List String → Except Failure (List Manifest)
  | _, [] => .ok []
  | loaded, file :: rest =>
    match roots.find? fun root => Path.isWithin file root with
    | some root =>
      if loaded.contains root then loadFiles files roots loaded rest
      else (loadFiles files roots (root :: loaded) rest).map (overlay root files :: ·)
    | none => do
      let content ← files.read file
      let m ← ofFile file content
      let others ← loadFiles files roots loaded rest
      return m :: others

/-- The manifests at or below a path. -/
def load (files : Files) (path : String) : Except Failure (List Manifest) := do
  let path ← Path.normalize path
  if !files.contains path then throw (.manifest path "no such file or directory")
  let found ← files.walk path
  loadFiles files (overlayRoots found) [] found

end Manifest
end Provision

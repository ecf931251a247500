import Provision.Feature.Basic
import Provision.Overlay.Program
import Provision.Settings

/-!
What a feature is defined by, and making a feature of it. A definition is checked and its manifests are
loaded before a cluster is looked for, and nothing is written.
-/

namespace Provision

/-- How a feature gets at its cluster. -/
inductive Connection (m : Type → Type) where
  /-- As the surroundings say. -/
  | standard
  /-- At an address. -/
  | address (url : String)
  /-- Through a client that exists already. -/
  | client (client : Client m)

/-- What making a feature needs from its surroundings. -/
structure Surroundings (m : Type → Type) where
  /-- A client for the cluster that the surroundings name, writing as a field manager. -/
  standardClient : String → ExceptT Failure m (Client m)
  /-- A client for the cluster at an address, writing as a field manager. -/
  clientAt : String → String → ExceptT Failure m (Client m)
  runProgram : ProgramRunner m

/-- Paths of manifests among some files. -/
structure Location where
  files : Files
  paths : List String

/-- What a feature is made of. -/
structure Definition (m : Type → Type) where
  name : String
  /-- The namespace that the feature works in; without one it cannot be made. -/
  space : Option String := none
  source : Source := {}
  /-- The owner of the tracker. -/
  owner : Option OwnerReference := none
  managed : Bool := false
  /-- Without a predicate, the feature is always enabled. -/
  enabled : Option (Predicate m) := none
  locations : List Location := []
  data : List (Action m) := []
  preconditions : List (Action m) := []
  resources : List (Action m) := []
  postconditions : List (Action m) := []
  cleanups : List (Action m) := []
  transforms : List Transform := []
  connection : Connection m := .standard
  /-- Without an engine, the program of the settings builds overlays. -/
  engine : Option (OverlayEngine m) := none
  settings : Settings := Settings.standard

variable {m : Type → Type}

/-- A feature that is always enabled. -/
def Predicate.always [Monad m] : Predicate m := fun _ _ => pure true

/-- The client of a connection. -/
def Connection.resolve [Monad m] (around : Surroundings m) (manager : String) :
    Connection m → ExceptT Failure m (Client m)
  | standard => around.standardClient manager
  | address url => around.clientAt url manager
  | client c => pure c

namespace Definition

/-- The subject of failures about a definition without a name. -/
def unnamed : String := "<unnamed>"

/-- A field of a definition is at fault. -/
def fault (subject field message : String) : Failure := .validation subject message (some field)

/-- The namespace of a definition, which must have one, and a name as well. -/
def checkedSpace (d : Definition m) : Except Failure String :=
  if isBlankText d.name then .error (fault unnamed "name" "feature name is not set")
  else
    match d.space.filter fun s => !isBlankText s with
    | some space => .ok space
    | none => .error (fault d.name "target_namespace" "target namespace is not set")

/-- The manifests at a path; a malformed path is a fault of the definition. -/
def loadPath (d : Definition m) (files : Files) (path : String) : Except Failure (List Manifest) := do
  let _ ← (Path.normalize path).mapError fun f => fault d.name "manifests" f.message
  Manifest.load files path

/-- The manifests of a location, which must have paths. -/
def loadLocation (d : Definition m) (location : Location) : Except Failure (List Manifest) :=
  if location.paths.isEmpty then
    .error (fault d.name "manifests" "manifest location set without any path")
  else List.flatten <$> location.paths.mapM (d.loadPath location.files)

/-- All manifests of a definition. -/
def loadManifests (d : Definition m) : Except Failure (List Manifest) :=
  List.flatten <$> d.locations.mapM d.loadLocation

/-- The steps of a definition with its manifests. -/
def stages (d : Definition m) (manifests : List Manifest) : Stages m where
  data := d.data
  preconditions := d.preconditions
  resources := d.resources
  manifests
  postconditions := d.postconditions
  cleanups := d.cleanups

/-- The feature that a definition describes. -/
def create [Monad m] (around : Surroundings m) (d : Definition m) : ExceptT Failure m (Feature m) := do
  let space ← d.checkedSpace
  let manifests ← d.loadManifests
  let client ← d.connection.resolve around d.settings.fieldManager
  return {
    name := d.name
    space
    managed := d.managed
    source := d.source
    client
    enabled := d.enabled.getD Predicate.always
    stages := d.stages manifests
    renderer := {
      engine := d.engine.getD (programEngine around.runProgram d.settings.overlayProgram)
      transforms := d.transforms }
    owner := d.owner
    statusRetry := d.settings.statusRetry }

end Definition
end Provision

import Provision.Feature.Context

/-!
The stages of a feature in their order: data, preconditions, resources, manifests, postconditions. A stage
starts only if the one before it succeeded, and its failure carries its name. Data, preconditions and
postconditions run every step and collect what fails; resources and manifests stop at the first failure.
-/

namespace Provision

/-- The steps of a feature. -/
structure Stages (m : Type → Type) where
  /-- Steps that store data for templates and other steps. -/
  data : List (Action m) := []
  preconditions : List (Action m) := []
  resources : List (Action m) := []
  manifests : List Manifest := []
  postconditions : List (Action m) := []
  /-- Steps that take the feature off the cluster. -/
  cleanups : List (Action m) := []

/-- How the manifests of a feature are rendered. -/
structure Renderer (m : Type → Type) where
  engine : OverlayEngine m
  transforms : List Transform := []

namespace Stages

variable {m : Type → Type} [Monad m]

/-- Run every step and collect what fails. -/
def collectFailures (c : Context m) :
    List (Action m) → List Failure → StateT DataBag m (List Failure)
  | [], failures => pure failures
  | step :: rest, failures => do
    let outcome ← (step c).run
    collectFailures c rest (Failure.pushResult failures outcome)

/-- Run every step; the stage fails with all that failed. -/
def runAll (c : Context m) (stage : Reason) (steps : List (Action m)) :
    ExceptT Failure (StateT DataBag m) Unit := ExceptT.mk do
  let failures ← collectFailures c steps []
  return (Failure.toResult failures).mapError (.stage stage)

/-- Run steps in turn up to the first failure. -/
def runUntilFailure (c : Context m) (stage : Reason) :
    List (Action m) → ExceptT Failure (StateT DataBag m) Unit
  | [] => pure ()
  | step :: rest => do
    (step c).adapt (.stage stage)
    runUntilFailure c stage rest

/-- Render and apply manifests in turn up to the first failure. -/
def applyEach (c : Context m) (renderer : Renderer m) (options : List MetaOption) (data : DataBag) :
    List Manifest → ExceptT Failure m Unit
  | [] => pure ()
  | man :: rest => do
    let rendered ← man.render data renderer.engine renderer.transforms
    c.client.applyRendered options rendered
    applyEach c renderer options data rest

/-- Apply manifests. Without any, the feature needs no tracker for it. -/
def applyManifests (c : Context m) (renderer : Renderer m) (manifests : List Manifest) :
    ExceptT Failure (StateT DataBag m) Unit := do
  if manifests.isEmpty then return
  let options ← c.metaOptions
  let data ← get
  onCluster (applyEach c renderer options data manifests)

/-- Run the stages that put a feature on the cluster. -/
def run (s : Stages m) (c : Context m) (renderer : Renderer m) :
    ExceptT Failure (StateT DataBag m) Unit := do
  runAll c .loadTemplateData s.data
  runAll c .preConditions s.preconditions
  runUntilFailure c .resourceCreation s.resources
  (applyManifests c renderer s.manifests).adapt (.stage .applyManifests)
  runAll c .postConditions s.postconditions

end Stages
end Provision

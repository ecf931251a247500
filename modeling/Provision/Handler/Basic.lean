import Provision.Handler.Registry

/-!
Handlers apply the features of one owner in the order in which they were registered, and delete them in the
reverse order. The features are made anew for every operation; if one cannot be made, none is touched.
Otherwise each is tried, and what fails is collected under the names of the features.
-/

namespace Provision

/-- The features of one owner. -/
structure Handler (m : Type → Type) where
  /-- The namespace that every feature works in. -/
  space : String := ""
  /-- The source of every feature. -/
  source : Source := {}
  /-- The owner of every tracker. -/
  owner : Option OwnerReference := none
  providers : List (Provider m) := []
  /-- How features get at the cluster that name no way of their own. -/
  connection : Connection m := .standard
  settings : Settings := Settings.standard

namespace Handler

variable {m : Type → Type}

/-- A handler of features for the whole cluster, named after their owner. -/
def forCluster (owner : OwnerReference) (space : String) (providers : List (Provider m)) : Handler m :=
  { space, source := ⟨.platform, owner.name⟩, owner := some owner, providers }

/-- A handler of the features of a component. -/
def forComponent (owner : OwnerReference) (component space : String)
    (providers : List (Provider m)) : Handler m :=
  { space, source := ⟨.component, component⟩, owner := some owner, providers }

/-- The transforms of every overlay: into the namespace, and for a component its labels. -/
def transforms (h : Handler m) : List Transform :=
  .setSpace h.space ::
    match h.source.kind with
    | .component => [Transform.componentLabels h.source.name]
    | _ => []

/-- A definition as the handler uses it. -/
def adopt (h : Handler m) (client : Client m) (d : Definition m) : Definition m :=
  { d with
    space := some h.space
    source := h.source
    owner := h.owner.or d.owner
    transforms := d.transforms ++ h.transforms
    connection := match d.connection with
      | .standard => .client client
      | connection => connection
    settings := h.settings }

variable [Monad m]

/-- Make every feature; what fails is collected. -/
def createEach (around : Surroundings m) :
    List (Definition m) → m (List Failure × List (Feature m))
  | [] => pure ([], [])
  | d :: rest => do
    let made ← (d.create around).run
    let (failures, features) ← createEach around rest
    match made with
    | .ok f => return (failures, f :: features)
    | .error e => return (Failure.push [] e ++ failures, features)

/-- The features of a handler. -/
def features (around : Surroundings m) (h : Handler m) : ExceptT Failure m (List (Feature m)) := do
  let registry ← Registry.collect h.providers
  if registry.isEmpty then return []
  let client ← h.connection.resolve around h.settings.fieldManager
  let (failures, features) ← ExceptT.lift (createEach around (registry.map (h.adopt client)))
  let _ ← Failure.toResult failures
  return features

/-- Run something on every feature and collect what fails. -/
def runEach (run : Feature m → Feature.Run m Unit) :
    List (Feature m) → List Failure → m (List Failure)
  | [], failures => pure failures
  | f :: rest, failures => do
    let (outcome, _) ← (run f).run.run {}
    runEach run rest (Failure.pushResult failures (outcome.mapError (.feature f.name)))

variable [Clock m]

/-- Apply every feature in order. -/
def apply (around : Surroundings m) (h : Handler m) : ExceptT Failure m Unit := do
  let features ← h.features around
  let failures ← ExceptT.lift (runEach Feature.apply features [])
  Failure.toResult failures

/-- Clean up every feature in the reverse order. -/
def delete (around : Surroundings m) (h : Handler m) : ExceptT Failure m Unit := do
  let features ← h.features around
  let failures ← ExceptT.lift (runEach Feature.cleanup features.reverse [])
  Failure.toResult failures

end Handler
end Provision

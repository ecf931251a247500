import Provision.Feature.Definition

/-!
Registering the features of a handler. Names are unique: of several definitions with one name the first is
registered, and each further one is a failure.
-/

namespace Provision

/-- The definitions that were registered, in order. -/
abbrev Registry (m : Type → Type) := List (Definition m)

/-- Registers definitions. -/
abbrev Provider (m : Type → Type) := ExceptT Failure (StateM (Registry m)) Unit

namespace Registry

variable {m : Type → Type}

/-- Whether a definition with a name is registered. -/
def hasName (registry : Registry m) (name : String) : Bool :=
  registry.any fun d => d.name == name

/-- The failure of a name that is already taken. -/
def duplicate (name : String) : Failure :=
  .validation name "feature is registered more than once" none

/-- Register definitions in turn and collect what fails. -/
def register (registry : Registry m) : List (Definition m) → List Failure × Registry m
  | [] => ([], registry)
  | d :: rest =>
    if registry.hasName d.name then
      let (failures, after) := register registry rest
      (duplicate d.name :: failures, after)
    else register (registry ++ [d]) rest

/-- The provider that registers definitions. -/
def add (definitions : List (Definition m)) : Provider m := ExceptT.mk do
  let (failures, after) := register (← get) definitions
  set after
  return Failure.toResult failures

/-- What providers register in turn, up to the first that fails. -/
def collect (providers : List (Provider m)) : Except Failure (Registry m) :=
  let (outcome, registry) := (providers.forM id).run.run []
  outcome.map fun _ => registry

end Registry
end Provision

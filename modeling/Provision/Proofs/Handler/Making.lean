import Provision.Proofs.Handler.Order
import Provision.Rehearsal.Machine

/-!
A handler makes all of its features before it touches one of them. Making them only looks around: manifests are
read and clients are set up, and the cluster is left alone. So what is wrong with one definition, wherever it
stands, keeps all features from being touched, and everything that is wrong with definitions is told at once.

The cluster is anything with a state; it may note every step and every predicate that is run.
-/

namespace Provision

variable {S α β : Type}

/-! ### Failing with a single failure -/

/-- A result that is no list of failures. -/
def FailsSingly (result : Except Failure α) : Prop := ∀ f, result = .error f → f.Single

namespace FailsSingly

theorem ok (a : α) : FailsSingly (.ok a) := fun _ hf => nomatch hf

theorem error {f : Failure} (hsingle : f.Single) : FailsSingly (.error f : Except Failure α) := by
  intro e heq
  cases heq
  exact hsingle

theorem mapError {ε : Type} {change : ε → Failure} (hsingle : ∀ e, (change e).Single) (result : Except ε α) :
    FailsSingly (result.mapError change) := by
  cases result with
  | ok a => exact ok a
  | error e => exact error (hsingle e)

theorem bind {result : Except Failure α} {next : α → Except Failure β} (hresult : FailsSingly result)
    (hnext : ∀ a, FailsSingly (next a)) : FailsSingly (result >>= next) := by
  cases result with
  | ok a => exact hnext a
  | error f => exact error (hresult f rfl)

theorem map {result : Except Failure α} (change : α → β) (hresult : FailsSingly result) :
    FailsSingly (result.map change) := by
  cases result with
  | ok a => exact ok (change a)
  | error f => exact error (hresult f rfl)

theorem forM {act : α → Except Failure PUnit} (hact : ∀ a, FailsSingly (act a)) (as : List α) :
    FailsSingly (as.forM act) := by
  induction as with
  | nil => exact ok ()
  | cons a rest ih => exact bind (hact a) fun _ => ih

theorem mapM {act : α → Except Failure β} (hact : ∀ a, FailsSingly (act a)) (as : List α) :
    FailsSingly (as.mapM act) := by
  induction as with
  | nil => exact ok []
  | cons a rest ih =>
      rw [List.mapM_cons]
      exact bind (hact a) fun b => bind ih fun others => ok (b :: others)

end FailsSingly

/-- The failures of a collection without lists are its members. -/
theorem Failure.exists_toResult_of_single {failures : List Failure} (hsome : failures ≠ [])
    (hsingle : ∀ f ∈ failures, f.Single) : ∃ e, toResult failures = .error e ∧ e.members = failures := by
  match failures with
  | [] => exact absurd rfl hsome
  | [f] =>
      refine ⟨f, rfl, ?_⟩
      rw [← List.nil_append f.members, ← push_eq_append, push_of_single (hsingle f List.mem_cons_self)]
      rfl
  | f :: g :: rest => exact ⟨.many (f :: g :: rest), rfl, rfl⟩

theorem Failure.single_manifest (path text : String) : (Failure.manifest path text).Single :=
  fun _ heq => nomatch heq

theorem Failure.single_validation (subject text : String) (field : Option String) :
    (Failure.validation subject text field).Single :=
  fun _ heq => nomatch heq

theorem Failure.single_internal (text context : String) : (Failure.internal text context).Single :=
  fun _ heq => nomatch heq

/-! ### Loading manifests -/

theorem Path.failsSingly_normalize (path : String) : FailsSingly (Path.normalize path) := by
  unfold Path.normalize
  split
  · exact .error (Failure.single_manifest _ _)
  · split
    · exact .error (Failure.single_manifest _ _)
    · exact .ok _

theorem Files.failsSingly_read (files : Files) (path : String) : FailsSingly (files.read path) := by
  cases files with
  | memory texts =>
      simp only [Files.read]
      split
      · exact .ok _
      · exact .error (Failure.single_manifest _ _)
  | disk root tree =>
      simp only [Files.read]
      split
      · exact .error (Failure.single_manifest _ _)
      · split
        · exact .ok _
        · exact .error (Failure.single_manifest _ _)

theorem Files.failsSingly_walk (files : Files) (path : String) : FailsSingly (files.walk path) := by
  cases files with
  | memory texts =>
      simp only [Files.walk]
      split
      · exact .ok _
      · exact .ok _
  | disk root tree =>
      simp only [Files.walk]
      split
      · exact .error (Failure.single_manifest _ _)
      · exact .ok _

namespace Manifest

theorem failsSingly_objectsFrom (path : String) (index : Nat) (documents : List String) :
    FailsSingly (objectsFrom path index documents) := by
  induction documents generalizing index with
  | nil => exact .ok []
  | cons document rest ih =>
      rw [objectsFrom]
      exact .bind (.mapError (fun _ => Failure.single_manifest _ _) _) fun found =>
        .bind (ih (index + 1)) fun others => .ok (found.toList ++ others)

theorem failsSingly_parseDocuments (path content : String) : FailsSingly (parseDocuments path content) := by
  have hspace : ∀ o : Object, FailsSingly (o.checkSpace path) := by
    intro o
    unfold Object.checkSpace
    split
    · exact .error (Failure.single_manifest _ _)
    · exact .ok ()
  exact .bind (failsSingly_objectsFrom path 0 _) fun objects => .bind (.forM hspace objects) fun _ => .ok objects

theorem failsSingly_ofFile (file content : String) : FailsSingly (ofFile file content) := by
  unfold ofFile
  split
  · exact .ok _
  · exact (failsSingly_parseDocuments file content).map _

theorem failsSingly_loadFiles (files : Files) (roots loaded found : List String) :
    FailsSingly (loadFiles files roots loaded found) := by
  induction found generalizing loaded with
  | nil => exact .ok []
  | cons file rest ih =>
      rw [loadFiles]
      split
      · split
        · exact ih loaded
        · exact (ih _).map _
      · exact .bind (files.failsSingly_read file) fun content =>
          .bind (failsSingly_ofFile file content) fun man => .bind (ih loaded) fun others => .ok (man :: others)

theorem failsSingly_load (files : Files) (path : String) : FailsSingly (load files path) := by
  refine .bind (Path.failsSingly_normalize path) fun normal => ?_
  split
  · exact .error (Failure.single_manifest _ _)
  · exact .bind (files.failsSingly_walk normal) fun found => failsSingly_loadFiles files _ [] found

end Manifest

namespace Definition

variable {m : Type → Type}

theorem failsSingly_checkedSpace (d : Definition m) : FailsSingly d.checkedSpace := by
  unfold checkedSpace
  split
  · exact .error (Failure.single_validation _ _ _)
  · split
    · exact .ok _
    · exact .error (Failure.single_validation _ _ _)

theorem failsSingly_loadPath (d : Definition m) (files : Files) (path : String) :
    FailsSingly (d.loadPath files path) :=
  .bind (.mapError (fun _ => Failure.single_validation _ _ _) _) fun _ => Manifest.failsSingly_load files path

theorem failsSingly_loadLocation (d : Definition m) (location : Location) :
    FailsSingly (d.loadLocation location) := by
  unfold loadLocation
  split
  · exact .error (Failure.single_validation _ _ _)
  · exact (FailsSingly.mapM (d.failsSingly_loadPath location.files) location.paths).map List.flatten

theorem failsSingly_loadManifests (d : Definition m) : FailsSingly d.loadManifests :=
  (FailsSingly.mapM d.failsSingly_loadLocation d.locations).map List.flatten

end Definition

/-! ### Looking around -/

/-- A computation that leaves everything as it is and fails with a single failure if at all. -/
def Looks (x : ExceptT Failure (StateM S) α) : Prop :=
  ∀ w, ∃ outcome, x.run.run w = (outcome, w) ∧ FailsSingly outcome

namespace Looks

theorem result {outcome : Except Failure α} (hsingly : FailsSingly outcome) :
    Looks (liftM outcome : ExceptT Failure (StateM S) α) :=
  fun _ => ⟨outcome, rfl, hsingly⟩

theorem state : Looks (get : ExceptT Failure (StateM S) S) :=
  fun w => ⟨.ok w, rfl, .ok w⟩

theorem bind {x : ExceptT Failure (StateM S) α} {next : α → ExceptT Failure (StateM S) β} (hx : Looks x)
    (hnext : ∀ a, Looks (next a)) : Looks (x >>= next) := by
  intro w
  obtain ⟨outcome, hrun, hsingly⟩ := hx w
  cases outcome with
  | ok a =>
      rw [run_bind_of_ok next hrun]
      exact hnext a w
  | error f =>
      rw [run_bind_of_error next hrun]
      exact ⟨.error f, rfl, .error (hsingly f rfl)⟩

end Looks

/-- Setting up a client contacts no cluster. -/
structure Surroundings.Quiet (around : Surroundings (StateM S)) : Prop where
  standardClient (manager : String) : Looks (around.standardClient manager)
  clientAt (url manager : String) : Looks (around.clientAt url manager)

/-- Those of a rehearsal only look for a kubeconfig. -/
theorem Rehearsal.surroundings_quiet : Rehearsal.surroundings.Quiet where
  standardClient _ := Looks.state.bind fun _ =>
    (Looks.result (.mapError (fun _ => Failure.single_internal _ _) _)).bind fun _ => .result (.ok _)
  clientAt _ _ := .result (.ok Rehearsal.remoteClient)

variable {around : Surroundings (StateM S)}

theorem Connection.looks_resolve (hquiet : around.Quiet) (manager : String) :
    ∀ connection : Connection (StateM S), Looks (connection.resolve around manager)
  | standard => hquiet.standardClient manager
  | address url => hquiet.clientAt url manager
  | client c => .result (.ok c)

theorem Definition.looks_create (hquiet : around.Quiet) (d : Definition (StateM S)) :
    Looks (d.create around) :=
  .bind (.result d.failsSingly_checkedSpace) fun _ => .bind (.result d.failsSingly_loadManifests) fun _ =>
    .bind (d.connection.looks_resolve hquiet d.settings.fieldManager) fun _ => .result (.ok _)

/-- What keeps a feature from being made of a definition. -/
def Definition.failure? (around : Surroundings (StateM S)) (w : S) (d : Definition (StateM S)) :
    Option Failure :=
  match ((d.create around).run.run w).1 with
  | .ok _ => none
  | .error f => some f

theorem Definition.single_of_failure? (hquiet : around.Quiet) {d : Definition (StateM S)} {w : S} {f : Failure}
    (hfailure : d.failure? around w = some f) : f.Single := by
  obtain ⟨outcome, hrun, hsingly⟩ := d.looks_create hquiet w
  rw [failure?, hrun] at hfailure
  cases outcome with
  | ok _ => cases hfailure
  | error e => exact hsingly f (congrArg Except.error (Option.some.inj hfailure))

theorem Definition.checkedSpace_of_blank {m : Type → Type} {d : Definition m} (hblank : isBlankText d.name) :
    d.checkedSpace = .error (fault unnamed "name" "feature name is not set") :=
  if_pos hblank

/-- What is wrong with the name or the namespace comes first, whatever the client. -/
theorem Definition.failure?_of_checkedSpace {d : Definition (StateM S)} {f : Failure}
    (hspace : d.checkedSpace = .error f) (w : S) : d.failure? around w = some f := by
  rw [failure?, create, hspace]
  rfl

/-! ### Collecting definitions -/

/-- The error of the first provider that returns one is the error of all. -/
theorem Registry.collect_of_error {m : Type → Type} {before : List (Provider m)} {p : Provider m}
    (after : List (Provider m)) {registry : Registry m} {f : Failure}
    (hbefore : collect before = .ok registry) (hp : (p.run.run registry).1 = .error f) :
    collect (before ++ p :: after) = .error f := by
  unfold collect at hbefore ⊢
  cases hfirst : ((before.forM id).run.run []) with
  | mk outcome registered =>
      rw [hfirst] at hbefore
      cases outcome with
      | error e => cases hbefore
      | ok _ =>
          obtain rfl : registered = registry := Except.ok.inj hbefore
          cases hrun : p.run.run registered with
          | mk outcome left =>
              rw [hrun] at hp
              cases hp
              have hall : ((before ++ p :: after).forM id).run.run [] = (.error f, left) := by
                rw [List.forM_eq_forM, List.forM_append, List.forM_cons]
                exact (run_bind_of_ok _ hfirst).trans (run_bind_of_error _ hrun)
              rw [hall]
              rfl

namespace Handler

variable {h : Handler (StateM S)} {w : S}

/-- Making features leaves everything as it is, and fails with what keeps each of them from being made. -/
theorem run_createEach (hquiet : around.Quiet) (definitions : List (Definition (StateM S))) (w : S) :
    ∃ made, (createEach around definitions).run w =
      ((definitions.filterMap (Definition.failure? around w), made), w) := by
  induction definitions with
  | nil => exact ⟨[], rfl⟩
  | cons d rest ih =>
      obtain ⟨others, hothers⟩ := ih
      obtain ⟨outcome, hrun, hsingly⟩ := d.looks_create hquiet w
      simp only [run_createEach_cons, hrun, hothers]
      cases outcome with
      | ok f =>
          have hnone : d.failure? around w = none := by rw [Definition.failure?, hrun]
          rw [List.filterMap_cons_none hnone]
          exact ⟨f :: others, rfl⟩
      | error e =>
          have hsome : d.failure? around w = some e := by rw [Definition.failure?, hrun]
          rw [List.filterMap_cons_some hsome]
          refine ⟨others, ?_⟩
          dsimp only
          rw [Failure.push_of_single (hsingly e rfl)]
          rfl

theorem run_features_of_providers {e : Failure} (hregistry : Registry.collect h.providers = .error e) (w : S) :
    (h.features around).run.run w = (.error e, w) := by
  rw [features, hregistry]
  rfl

theorem run_features_of_connection (hquiet : around.Quiet) {registry : Registry (StateM S)} {e : Failure}
    (hregistry : Registry.collect h.providers = .ok registry) (hsome : registry ≠ [])
    (hclient : ((h.connection.resolve around h.settings.fieldManager).run.run w).1 = .error e) :
    (h.features around).run.run w = (.error e, w) := by
  obtain ⟨outcome, hrun, -⟩ := h.connection.looks_resolve hquiet h.settings.fieldManager w
  rw [hrun] at hclient
  cases hclient
  rw [features, hregistry, liftM_ok_bind, if_neg (by simpa using hsome), run_bind_of_error _ hrun]

theorem run_features_of_definitions (hquiet : around.Quiet) {registry : Registry (StateM S)}
    {client : Client (StateM S)} {d : Definition (StateM S)}
    (hregistry : Registry.collect h.providers = .ok registry)
    (hclient : ((h.connection.resolve around h.settings.fieldManager).run.run w).1 = .ok client)
    (hd : d ∈ registry) (hfailure : (h.adopt client d).failure? around w ≠ none) :
    ∃ e, (h.features around).run.run w = (.error e, w) ∧
      e.members = registry.filterMap fun d => (h.adopt client d).failure? around w := by
  obtain ⟨outcome, hrun, -⟩ := h.connection.looks_resolve hquiet h.settings.fieldManager w
  rw [hrun] at hclient
  cases hclient
  obtain ⟨made, hmade⟩ := run_createEach hquiet (registry.map (h.adopt client)) w
  rw [List.filterMap_map] at hmade
  have hsome : registry.filterMap (Definition.failure? around w ∘ h.adopt client) ≠ [] := by
    intro hnil
    exact hfailure (List.filterMap_eq_nil_iff.mp hnil d hd)
  have hsingle : ∀ f ∈ registry.filterMap (Definition.failure? around w ∘ h.adopt client), f.Single := by
    intro f hf
    obtain ⟨_, -, hfails⟩ := List.mem_filterMap.mp hf
    exact Definition.single_of_failure? hquiet hfails
  obtain ⟨e, hresult, hmembers⟩ := Failure.exists_toResult_of_single hsome hsingle
  refine ⟨e, ?_, hmembers⟩
  rw [features, hregistry, liftM_ok_bind, if_neg (by simpa using List.ne_nil_of_mem hd), run_bind_of_ok _ hrun,
    run_lift_bind _ hmade]
  change StateT.run (ExceptT.run (liftM (Failure.toResult _) >>= fun _ => pure made)) w = _
  rw [hresult, run_liftM_error_bind]
  rfl

variable [Clock (StateM S)]

theorem run_perform_of_error {w' : S} {e : Failure} (hfeatures : (h.features around).run.run w = (.error e, w'))
    (operation : HandlerOperation) : (h.perform around operation).run.run w = (.error e, w') := by
  cases operation with
  | apply =>
      rw [perform, apply]
      exact run_bind_of_error _ hfeatures
  | delete =>
      rw [perform, delete]
      exact run_bind_of_error _ hfeatures

/-- What keeps features from being made keeps all of them from being touched. An operation leaves everything as
it is, any note of the steps and predicates that ran included, and fails
- with the error of the first provider that returns one;
- if something is registered, with the failure of the connection of the handler if it cannot be had;
- otherwise, if some registered definition cannot be made into a feature, with what keeps each of those
  definitions from being made, in the order in which they were registered. -/
theorem fails_untouched (hquiet : around.Quiet) (h : Handler (StateM S)) (operation : HandlerOperation) (w : S) :
    (∀ before p after registry e, h.providers = before ++ p :: after → Registry.collect before = .ok registry →
      (p.run.run registry).1 = .error e → (h.perform around operation).run.run w = (.error e, w)) ∧
    (∀ registry e, Registry.collect h.providers = .ok registry → registry ≠ [] →
      ((h.connection.resolve around h.settings.fieldManager).run.run w).1 = .error e →
      (h.perform around operation).run.run w = (.error e, w)) ∧
    ∀ registry client d, Registry.collect h.providers = .ok registry →
      ((h.connection.resolve around h.settings.fieldManager).run.run w).1 = .ok client →
      d ∈ registry → (h.adopt client d).failure? around w ≠ none →
      ∃ e, (h.perform around operation).run.run w = (.error e, w) ∧
        e.members = registry.filterMap fun d => (h.adopt client d).failure? around w := by
  refine ⟨?_, ?_, ?_⟩
  · intro before p after registry e hproviders hbefore hp
    have hregistry : Registry.collect h.providers = .error e := by
      rw [hproviders]
      exact Registry.collect_of_error after hbefore hp
    exact run_perform_of_error (run_features_of_providers hregistry w) operation
  · intro registry e hregistry hsome hclient
    exact run_perform_of_error (run_features_of_connection hquiet hregistry hsome hclient) operation
  · intro registry client d hregistry hclient hd hfailure
    obtain ⟨e, hfeatures, hmembers⟩ := run_features_of_definitions hquiet hregistry hclient hd hfailure
    exact ⟨e, run_perform_of_error hfeatures operation, hmembers⟩

/-! ### Definitions that cannot be made -/

namespace BadDefinitions

/-- A cluster that notes what is done to it. -/
abbrev Noted := StateM (List String)

def client : Client Noted := .ofRequests fun _ => ExceptT.mk do
  modify (· ++ ["request"])
  return .error (.action "no cluster")

/-- There is no cluster by default. -/
def surroundings : Surroundings Noted where
  standardClient _ := throw (.client (.request "no kubeconfig"))
  clientAt _ _ := pure client
  runProgram _ _ := throw "no programs"

theorem surroundings_quiet : surroundings.Quiet where
  standardClient _ := .result (.error fun _ heq => nomatch heq)
  clientAt _ _ := .result (.ok client)

/-- A feature that notes when it is touched. -/
def gateway : Definition Noted where
  name := "gateway"
  enabled := some fun _ _ => ExceptT.mk do
    modify (· ++ ["predicate"])
    return .ok true
  data := [fun _ => onCluster (ExceptT.mk do
    modify (· ++ ["step"])
    return .ok ())]

def nameless : Definition Noted := { gateway with name := " " }

/-- A location without paths. -/
def pathless : Definition Noted := { gateway with name := "mesh", locations := [⟨.memory [], []⟩] }

def handler : Handler Noted where
  space := "svc"
  providers := [Registry.add [gateway, nameless], Registry.add [pathless]]
  connection := .client client

/-- The failure of a definition without a name. -/
def namelessFailure : Failure := Definition.fault Definition.unnamed "name" "feature name is not set"

/-- The failure of a definition with a location that lacks paths. -/
def pathlessFailure : Failure := Definition.fault "mesh" "manifests" "manifest location set without any path"

theorem nameless_fails (h : Handler Noted) (client : Client Noted) :
    (h.adopt client nameless).failure? surroundings [] = some namelessFailure := by
  have hblank : isBlankText nameless.name := by decide
  have hadopted : isBlankText (h.adopt client nameless).name := hblank
  exact Definition.failure?_of_checkedSpace (Definition.checkedSpace_of_blank hadopted) []

/-- Two bad definitions keep the good one before them from being touched. -/
theorem good_one_untouched : ∃ e, (handler.perform surroundings .delete).run.run [] = (.error e, []) ∧
    e.members = [namelessFailure, pathlessFailure] := by
  obtain ⟨-, -, hdefinitions⟩ := fails_untouched surroundings_quiet handler .delete []
  have hnameless : (handler.adopt client nameless).failure? surroundings [] ≠ none := by
    rw [nameless_fails]
    exact Option.some_ne_none _
  obtain ⟨e, hrun, hmembers⟩ :=
    hdefinitions [gateway, nameless, pathless] client nameless rfl rfl (by simp) hnameless
  exact ⟨e, hrun, hmembers⟩

/-- The handler as it is without a cluster of its own, and with the bad name only. -/
def standard : Handler Noted := { handler with providers := [Registry.add [nameless]], connection := .standard }

/-- If its connection cannot be had, a handler says so, and not what is wrong with its definition. -/
theorem connection_fails_first : Registry.collect standard.providers = .ok [nameless] ∧
    (∀ client, (standard.adopt client nameless).failure? surroundings [] = some namelessFailure) ∧
    ∀ operation, ∃ e, (standard.perform surroundings operation).run.run [] = (.error e, []) ∧
      e.members ≠ [namelessFailure] := by
  refine ⟨rfl, nameless_fails standard, fun operation => ?_⟩
  refine ⟨.client (.request "no kubeconfig"), ?_, fun heq => nomatch heq⟩
  have hregistry : Registry.collect standard.providers = .ok [nameless] := rfl
  exact run_perform_of_error
    (run_features_of_connection surroundings_quiet hregistry (List.cons_ne_nil _ _) rfl) operation

end BadDefinitions

end Handler

end Provision

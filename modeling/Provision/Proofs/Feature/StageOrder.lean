import Provision.Proofs.Failures
import Provision.Proofs.Feature.Perform

/-!
The order of stages. How stages proceed is said by a relation of its own: steps one after another, each on
what the one before left behind, and stages up to the first in which something fails. Running the stages of
a feature proceeds in this way and no other, and what fails carries the name of the stage that stopped.
-/

namespace Provision

variable {S : Type}

/-- What is left to do on the data and the cluster. -/
abbrev Work (S : Type) := ExceptT Failure (StateT DataBag (StateM S))

/-- One stage. -/
structure Stage (S : Type) where
  reason : Reason
  /-- Whether steps run after one that failed. -/
  keepsOn : Bool
  steps : List (Work S Unit)

/-- Steps one after another: all of them, or up to the first failure. -/
inductive Executes (keepsOn : Bool) :
    List (Work S Unit) → DataBag × S → List (Except Failure Unit) → DataBag × S → Prop
  | done (s : DataBag × S) : Executes keepsOn [] s [] s
  | stop {step : Work S Unit} {rest : List (Work S Unit)} {s s' : DataBag × S} {f : Failure}
      (hstep : perform step s = (.error f, s')) (hstops : keepsOn = false) :
      Executes keepsOn (step :: rest) s [.error f] s'
  | next {step : Work S Unit} {rest : List (Work S Unit)} {s s' s'' : DataBag × S}
      {outcome : Except Failure Unit} {outcomes : List (Except Failure Unit)}
      (hstep : perform step s = (outcome, s')) (hgoes : keepsOn = true ∨ outcome = .ok ())
      (hrest : Executes keepsOn rest s' outcomes s'') :
      Executes keepsOn (step :: rest) s (outcome :: outcomes) s''

/-- The stages that were entered, with the outcomes of the steps that were executed. -/
abbrev History := List (Reason × List (Except Failure Unit))

/-- Stages one after another, up to the first in which a step fails. -/
inductive Proceeds : List (Stage S) → DataBag × S → History → DataBag × S → Prop
  | done (s : DataBag × S) : Proceeds [] s [] s
  | stop {stage : Stage S} {rest : List (Stage S)} {s s' : DataBag × S}
      {outcomes : List (Except Failure Unit)}
      (hsteps : Executes stage.keepsOn stage.steps s outcomes s')
      (hfails : ∃ outcome ∈ outcomes, outcome ≠ .ok ()) :
      Proceeds (stage :: rest) s [(stage.reason, outcomes)] s'
  | next {stage : Stage S} {rest : List (Stage S)} {s s' s'' : DataBag × S}
      {outcomes : List (Except Failure Unit)} {history : History}
      (hsteps : Executes stage.keepsOn stage.steps s outcomes s')
      (hall : ∀ outcome ∈ outcomes, outcome = .ok ()) (hrest : Proceeds rest s' history s'') :
      Proceeds (stage :: rest) s ((stage.reason, outcomes) :: history) s''

/-! ### There is one way to proceed -/

theorem Executes.unique {keepsOn : Bool} {steps : List (Work S Unit)} {s s₁ s₂ : DataBag × S}
    {outcomes₁ outcomes₂ : List (Except Failure Unit)}
    (hfirst : Executes keepsOn steps s outcomes₁ s₁) (hsecond : Executes keepsOn steps s outcomes₂ s₂) :
    outcomes₁ = outcomes₂ ∧ s₁ = s₂ := by
  induction hfirst generalizing outcomes₂ s₂ with
  | done s =>
      cases hsecond
      exact ⟨rfl, rfl⟩
  | stop hstep hstops =>
      cases hsecond with
      | stop hstep' _ =>
          cases hstep.symm.trans hstep'
          exact ⟨rfl, rfl⟩
      | next hstep' hgoes _ =>
          cases hstep.symm.trans hstep'
          simp [hstops] at hgoes
  | next hstep hgoes _ ih =>
      cases hsecond with
      | stop hstep' hstops =>
          cases hstep.symm.trans hstep'
          simp [hstops] at hgoes
      | next hstep' _ hrest' =>
          cases hstep.symm.trans hstep'
          obtain ⟨rfl, rfl⟩ := ih hrest'
          exact ⟨rfl, rfl⟩

theorem Proceeds.unique {stages : List (Stage S)} {s s₁ s₂ : DataBag × S} {history₁ history₂ : History}
    (hfirst : Proceeds stages s history₁ s₁) (hsecond : Proceeds stages s history₂ s₂) :
    history₁ = history₂ ∧ s₁ = s₂ := by
  induction hfirst generalizing history₂ s₂ with
  | done s =>
      cases hsecond
      exact ⟨rfl, rfl⟩
  | stop hsteps hfails =>
      cases hsecond with
      | stop hsteps' _ =>
          obtain ⟨rfl, rfl⟩ := hsteps.unique hsteps'
          exact ⟨rfl, rfl⟩
      | next hsteps' hall _ =>
          obtain ⟨rfl, rfl⟩ := hsteps.unique hsteps'
          obtain ⟨outcome, hmem, hne⟩ := hfails
          exact absurd (hall outcome hmem) hne
  | next hsteps hall _ ih =>
      cases hsecond with
      | stop hsteps' hfails =>
          obtain ⟨rfl, rfl⟩ := hsteps.unique hsteps'
          obtain ⟨outcome, hmem, hne⟩ := hfails
          exact absurd (hall outcome hmem) hne
      | next hsteps' _ hrest' =>
          obtain ⟨rfl, rfl⟩ := hsteps.unique hsteps'
          obtain ⟨rfl, rfl⟩ := ih hrest'
          exact ⟨rfl, rfl⟩

/-! ### Computations that run stages -/

/-- A computation runs stages: it proceeds as they do, succeeds if no step fails, and otherwise fails in the
name of the stage that was entered last, in which a step failed. -/
def RunsStages (x : Work S Unit) (stages : List (Stage S)) : Prop :=
  ∀ start, ∃ history finish result, Proceeds stages start history finish ∧
    perform x start = (result, finish) ∧
    (result = .ok () ↔ ∀ entry ∈ history, ∀ outcome ∈ entry.2, outcome = .ok ()) ∧
    ∀ f, result = .error f →
      ∃ reason outcomes source, history.getLast? = some (reason, outcomes) ∧
        (∃ outcome ∈ outcomes, outcome ≠ .ok ()) ∧ f = .stage reason source

/-- A computation runs one stage if it executes its steps and fails only if one of them does, in the name of
the stage. -/
theorem RunsStages.of_executes {x : Work S Unit} {stage : Stage S}
    (hexecutes : ∀ start, ∃ outcomes finish result,
      Executes stage.keepsOn stage.steps start outcomes finish ∧
      perform x start = (Except.mapError (.stage stage.reason) result, finish) ∧
      (result = .ok () ↔ ∀ outcome ∈ outcomes, outcome = .ok ())) :
    RunsStages x [stage] := by
  intro start
  obtain ⟨outcomes, finish, result, hsteps, hperform, hok⟩ := hexecutes start
  refine ⟨[(stage.reason, outcomes)], finish, _, ?_, hperform, ?_, ?_⟩
  · by_cases hall : ∀ outcome ∈ outcomes, outcome = .ok ()
    · exact .next hsteps hall (.done finish)
    · exact .stop hsteps (by simpa using hall)
  · rw [List.forall_mem_singleton, ← hok]
    exact except_mapError_eq_ok_iff _ result
  · intro f hf
    obtain ⟨source, hstage⟩ := Failure.stage_of_mapError hf
    have hfails : ¬ ∀ outcome ∈ outcomes, outcome = .ok () := by
      intro hall
      rw [hok.mpr hall] at hf
      cases hf
    exact ⟨stage.reason, outcomes, source, rfl, by simpa using hfails, hstage⟩

/-- One stage, and then others. -/
theorem RunsStages.bind {x y : Work S Unit} {stage : Stage S} {rest : List (Stage S)}
    (hx : RunsStages x [stage]) (hy : RunsStages y rest) :
    RunsStages (x >>= fun _ => y) (stage :: rest) := by
  intro start
  obtain ⟨history, middle, result, hproceeds, hperform, hok, herror⟩ := hx start
  cases hproceeds with
  | stop hsteps hfails =>
      match result with
      | .ok () =>
          obtain ⟨outcome, hmem, hne⟩ := hfails
          exact absurd (hok.mp rfl _ List.mem_cons_self outcome hmem) hne
      | .error f => exact ⟨_, middle, .error f, .stop hsteps hfails,
          perform_bind_of_error _ hperform, hok, herror⟩
  | next hsteps hall hdone =>
      cases hdone
      obtain rfl : result = .ok () := hok.mpr (by simpa using hall)
      obtain ⟨history, finish, result, hproceeds, hrest, hok', herror'⟩ := hy middle
      refine ⟨_, finish, result, .next hsteps hall hproceeds,
        (perform_bind_of_ok _ hperform).trans hrest, ?_, ?_⟩
      · rw [hok', List.forall_mem_cons]
        exact (and_iff_right hall).symm
      · intro f hf
        obtain ⟨reason, outcomes, source, hlast, hfails, hstage⟩ := herror' f hf
        refine ⟨reason, outcomes, source, ?_, hfails, hstage⟩
        rw [List.getLast?_cons, hlast]
        rfl

/-! ### Steps in turn -/

/-- What holds of whatever steps come to holds of the outcomes of all that are executed. -/
theorem Executes.outcomes {keepsOn : Bool} {steps : List (Work S Unit)} {s s' : DataBag × S}
    {outcomes : List (Except Failure Unit)} {P : Except Failure Unit → Prop}
    (hexecutes : Executes keepsOn steps s outcomes s')
    (hsteps : ∀ step ∈ steps, ∀ s, P (perform step s).1) : ∀ outcome ∈ outcomes, P outcome := by
  induction hexecutes with
  | done s => simp
  | @stop step rest s s' f hstep _ =>
      have hfirst := hsteps step List.mem_cons_self s
      rw [hstep] at hfirst
      simpa using hfirst
  | @next step rest s s' _ outcome outcomes hstep _ _ ih =>
      have hfirst := hsteps step List.mem_cons_self s
      rw [hstep] at hfirst
      rw [List.forall_mem_cons]
      constructor
      · exact hfirst
      · exact ih fun other hother => hsteps other (List.mem_cons_of_mem step hother)

/-- Steps in turn up to the first failure. -/
def inTurn : List (Work S Unit) → Work S Unit
  | [] => pure ()
  | step :: rest => do
    step
    inTurn rest

theorem executes_inTurn (steps : List (Work S Unit)) (start : DataBag × S) :
    ∃ outcomes finish result, Executes false steps start outcomes finish ∧
      perform (inTurn steps) start = (result, finish) ∧
      (result = .ok () ↔ ∀ outcome ∈ outcomes, outcome = .ok ()) := by
  induction steps generalizing start with
  | nil => exact ⟨[], start, .ok (), .done start, rfl, by simp⟩
  | cons step rest ih =>
      cases hstep : perform step start with
      | mk outcome middle =>
          match outcome with
          | .error f =>
              exact ⟨[.error f], middle, .error f, .stop hstep rfl, perform_bind_of_error _ hstep,
                by simp⟩
          | .ok () =>
              obtain ⟨outcomes, finish, result, hexecutes, hperform, hok⟩ := ih middle
              refine ⟨.ok () :: outcomes, finish, result, .next hstep (Or.inr rfl) hexecutes,
                (perform_bind_of_ok _ hstep).trans hperform, ?_⟩
              rw [hok, List.forall_mem_cons]
              exact (and_iff_right rfl).symm

/-- Steps in turn are a stage that stops at the first failure. -/
theorem runsStages_inTurn (reason : Reason) (steps : List (Work S Unit)) :
    RunsStages ((inTurn steps).adapt (.stage reason)) [⟨reason, false, steps⟩] := by
  apply RunsStages.of_executes
  intro start
  obtain ⟨outcomes, finish, result, hexecutes, hperform, hok⟩ := executes_inTurn steps start
  refine ⟨outcomes, finish, result, hexecutes, ?_, hok⟩
  rw [perform_adapt, hperform]

/-! ### The stages of a feature -/

namespace Stages

variable (c : Context (StateM S)) (renderer : Renderer (StateM S))

theorem executes_collectFailures (actions : List (Action (StateM S))) (failures : List Failure)
    (start : DataBag × S) :
    ∃ outcomes finish, Executes true (actions.map fun action => action c) start outcomes finish ∧
      carryOut (collectFailures c actions failures) start =
        (outcomes.foldl Failure.pushResult failures, finish) := by
  induction actions generalizing failures start with
  | nil => exact ⟨[], start, .done start, rfl⟩
  | cons action rest ih =>
      cases hstep : perform (action c) start with
      | mk outcome middle =>
          obtain ⟨outcomes, finish, hexecutes, hcollects⟩ :=
            ih (Failure.pushResult failures outcome) middle
          refine ⟨outcome :: outcomes, finish, .next hstep (Or.inl rfl) hexecutes, ?_⟩
          have hfirst : carryOut (action c).run start = (outcome, middle) := hstep
          rw [collectFailures, carryOut_bind, hfirst]
          exact hcollects

theorem perform_runAll (reason : Reason) (actions : List (Action (StateM S))) (start : DataBag × S) :
    perform (runAll c reason actions) start =
      ((Failure.toResult (carryOut (collectFailures c actions []) start).1).mapError (.stage reason),
        (carryOut (collectFailures c actions []) start).2) := rfl

/-- All steps are carried out, and what failed is collected: nothing if all of them succeeded. -/
theorem collectFailures_ends {actions : List (Action (StateM S))}
    (hmany : ∀ action ∈ actions, ∀ s, (perform (action c) s).1 ≠ .error (.many [])) (start : DataBag × S) :
    ∃ outcomes finish, Executes true (actions.map fun action => action c) start outcomes finish ∧
      carryOut (collectFailures c actions []) start = (outcomes.foldl Failure.pushResult [], finish) ∧
      (Failure.toResult (outcomes.foldl Failure.pushResult []) = .ok () ↔
        ∀ outcome ∈ outcomes, outcome = .ok ()) := by
  obtain ⟨outcomes, finish, hexecutes, hcollects⟩ := executes_collectFailures c actions [] start
  have houtcomes : .error (.many []) ∉ outcomes := by
    intro hmem
    refine hexecutes.outcomes (P := fun outcome => outcome ≠ .error (.many [])) ?_ _ hmem rfl
    intro step hstep s
    obtain ⟨action, haction, rfl⟩ := List.mem_map.mp hstep
    exact hmany action haction s
  have hnil := Failure.foldl_pushResult_eq_nil_iff houtcomes []
  exact ⟨outcomes, finish, hexecutes, hcollects,
    (Failure.toResult_eq_ok_iff _).trans (hnil.trans (and_iff_right rfl))⟩

/-- Running all steps is a stage that keeps on. -/
theorem runsStages_runAll (reason : Reason) {actions : List (Action (StateM S))}
    (hmany : ∀ action ∈ actions, ∀ s, (perform (action c) s).1 ≠ .error (.many [])) :
    RunsStages (runAll c reason actions) [⟨reason, true, actions.map fun action => action c⟩] := by
  apply RunsStages.of_executes
  intro start
  obtain ⟨outcomes, finish, hexecutes, hcollects, hok⟩ := collectFailures_ends c hmany start
  refine ⟨outcomes, finish, _, hexecutes, ?_, hok⟩
  rw [perform_runAll, hcollects]

theorem runUntilFailure_eq (reason : Reason) (actions : List (Action (StateM S))) :
    runUntilFailure c reason actions =
      (inTurn (actions.map fun action => action c)).adapt (.stage reason) := by
  induction actions with
  | nil => rfl
  | cons action rest ih =>
      rw [runUntilFailure, ih, List.map_cons, inTurn, adapt_bind]

/-- Rendering a manifest and applying what it yields. -/
def renderAndApply (options : List MetaOption) (data : DataBag) (man : Manifest) :
    ExceptT Failure (StateM S) Unit := do
  let rendered ← man.render data renderer.engine renderer.transforms
  c.client.applyRendered options rendered

/-- A manifest as a step. -/
def applyManifest (options : List MetaOption) (man : Manifest) : Work S Unit := do
  let data ← get
  onCluster (renderAndApply c renderer options data man)

theorem perform_applyEach (options : List MetaOption) (manifests : List Manifest) (data : DataBag)
    (w : S) :
    perform (onCluster (applyEach c renderer options data manifests)) (data, w) =
      perform (inTurn (manifests.map (applyManifest c renderer options))) (data, w) := by
  induction manifests generalizing w with
  | nil => rfl
  | cons man rest ih =>
      have heach : applyEach c renderer options data (man :: rest) =
          renderAndApply c renderer options data man >>= fun _ =>
            applyEach c renderer options data rest := by
        rw [applyEach, renderAndApply, bind_assoc]
      have hman : perform (applyManifest c renderer options man) (data, w) =
          perform (onCluster (renderAndApply c renderer options data man)) (data, w) :=
        perform_get_bind _ _
      rw [heach, perform_onCluster_bind, List.map_cons, inTurn]
      -- The data is the same for the next manifest: only the cluster has changed.
      cases hfirst : perform (onCluster (renderAndApply c renderer options data man)) (data, w) with
      | mk outcome after =>
          have hdata : after = (data, after.2) := congrArg (fun s => (s.2.1, after.2)) hfirst.symm
          rw [hdata] at hfirst
          rw [hfirst] at hman
          cases outcome with
          | ok _ =>
              rw [perform_bind_of_ok _ hfirst, perform_bind_of_ok _ hman]
              exact ih after.2
          | error f => rw [perform_bind_of_error _ hfirst, perform_bind_of_error _ hman]

/-- Applying manifests is applying one after the other. -/
theorem perform_applyManifests {options : List MetaOption} (hoptions : c.metaOptions = .ok options)
    (manifests : List Manifest) (start : DataBag × S) :
    perform (applyManifests c renderer manifests) start =
      perform (inTurn (manifests.map (applyManifest c renderer options))) start := by
  cases manifests with
  | nil => rfl
  | cons man rest =>
      have hrun : applyManifests c renderer (man :: rest) = get >>= fun data =>
          onCluster (applyEach c renderer options data (man :: rest)) := by
        rw [applyManifests, hoptions]
        exact liftM_ok_bind options _
      rw [hrun, perform_get_bind]
      exact perform_applyEach c renderer options (man :: rest) start.1 start.2

/-- Applying manifests is a stage that stops at the first failure. -/
theorem runsStages_applyManifests {options : List MetaOption} (hoptions : c.metaOptions = .ok options)
    (manifests : List Manifest) :
    RunsStages ((applyManifests c renderer manifests).adapt (.stage .applyManifests))
      [⟨.applyManifests, false, manifests.map (applyManifest c renderer options)⟩] := by
  intro start
  rw [perform_adapt, perform_applyManifests c renderer hoptions manifests start, ← perform_adapt]
  exact runsStages_inTurn _ _ start

/-- The stages of a feature in their order. -/
def inOrder (stages : Stages (StateM S)) (options : List MetaOption) : List (Stage S) :=
  [⟨.loadTemplateData, true, stages.data.map fun action => action c⟩,
    ⟨.preConditions, true, stages.preconditions.map fun action => action c⟩,
    ⟨.resourceCreation, false, stages.resources.map fun action => action c⟩,
    ⟨.applyManifests, false, stages.manifests.map (applyManifest c renderer options)⟩,
    ⟨.postConditions, true, stages.postconditions.map fun action => action c⟩]

/-- Running the stages of a feature that has a tracker runs them in their order. -/
theorem runsStages_run {stages : Stages (StateM S)} {options : List MetaOption}
    (hoptions : c.metaOptions = .ok options)
    (hmany : ∀ action ∈ stages.data ++ stages.preconditions ++ stages.postconditions, ∀ s,
      (perform (action c) s).1 ≠ .error (.many [])) :
    RunsStages (stages.run c renderer) (stages.inOrder c renderer options) := by
  simp only [List.mem_append] at hmany
  refine (runsStages_runAll c _ fun action haction => hmany action (by simp [haction])).bind ?_
  refine (runsStages_runAll c _ fun action haction => hmany action (by simp [haction])).bind ?_
  refine RunsStages.bind ?_ (RunsStages.bind ?_
    (runsStages_runAll c _ fun action haction => hmany action (by simp [haction])))
  · rw [runUntilFailure_eq]
    exact runsStages_inTurn _ _
  · exact runsStages_applyManifests c renderer hoptions _

/-- Whatever fails, fails in the name of a stage. -/
def FailsByName (x : Work S Unit) : Prop :=
  ∀ start finish f, perform x start = (.error f, finish) → f.Named

theorem FailsByName.bind {x y : Work S Unit} (hx : FailsByName x) (hy : FailsByName y) :
    FailsByName (x >>= fun _ => y) := by
  intro start finish f hperform
  cases hfirst : perform x start with
  | mk outcome middle =>
      cases outcome with
      | ok _ =>
          rw [perform_bind_of_ok _ hfirst] at hperform
          exact hy middle finish f hperform
      | error g =>
          rw [perform_bind_of_error _ hfirst] at hperform
          cases hperform
          exact hx start finish f hfirst

theorem failsByName_adapt (reason : Reason) (x : Work S Unit) :
    FailsByName (x.adapt (.stage reason)) := by
  intro start finish f hperform
  exact ⟨reason, Failure.stage_of_mapError (congrArg Prod.fst hperform)⟩

theorem failsByName_runAll (reason : Reason) (actions : List (Action (StateM S))) :
    FailsByName (runAll c reason actions) := by
  intro start finish f hperform
  exact ⟨reason, Failure.stage_of_mapError (congrArg Prod.fst hperform)⟩

/-- Whatever goes wrong in the stages of a feature carries the name of a stage. -/
theorem failsByName_run (stages : Stages (StateM S)) : FailsByName (stages.run c renderer) := by
  refine (failsByName_runAll c _ _).bind ((failsByName_runAll c _ _).bind ?_)
  refine FailsByName.bind ?_ ((failsByName_adapt _ _).bind (failsByName_runAll c _ _))
  rw [runUntilFailure_eq]
  exact failsByName_adapt _ _

/-- The stages of a feature run in their order. For every feature that has a tracker with a uid, whatever its
steps do, they are executed in the one way in which the stages proceed; the run succeeds if no executed step
fails, and otherwise fails in the name of the one stage in which it stopped, whatever names the failure of
the step carries. Only a step that fails without any failure would go unnoticed. -/
theorem run_in_order {stages : Stages (StateM S)} {c : Context (StateM S)} {t : Tracker} {uid : String}
    (renderer : Renderer (StateM S)) (htracker : c.tracker = some t) (huid : t.metadata.uid = some uid)
    (hmany : ∀ action ∈ stages.data ++ stages.preconditions ++ stages.postconditions, ∀ s,
      (perform (action c) s).1 ≠ .error (.many [])) (start : DataBag × S) :
    ∃ options history finish result, c.metaOptions = .ok options ∧
      Proceeds (stages.inOrder c renderer options) start history finish ∧
      (∀ history' finish', Proceeds (stages.inOrder c renderer options) start history' finish' →
        history' = history ∧ finish' = finish) ∧
      perform (stages.run c renderer) start = (result, finish) ∧
      (result = .ok () ↔ ∀ entry ∈ history, ∀ outcome ∈ entry.2, outcome = .ok ()) ∧
      ∀ f, result = .error f → ∃ reason outcomes, history.getLast? = some (reason, outcomes) ∧
        (∃ outcome ∈ outcomes, outcome ≠ .ok ()) ∧ (∃ source, f = .stage reason source) ∧
        f.reason? = some reason := by
  obtain ⟨options, hoptions⟩ := Context.exists_metaOptions htracker huid
  obtain ⟨history, finish, result, hproceeds, hperform, hok, herror⟩ :=
    runsStages_run c renderer hoptions hmany start
  refine ⟨options, history, finish, result, hoptions, hproceeds, ?_, hperform, hok, ?_⟩
  · intro history' finish' hother
    exact hother.unique hproceeds
  · intro f hf
    obtain ⟨reason, outcomes, source, hlast, hfails, rfl⟩ := herror f hf
    exact ⟨reason, outcomes, hlast, hfails, ⟨source, rfl⟩, rfl⟩

end Stages

/-! ### A failure with the name of another stage -/

namespace Stages.OtherName

/-- A cluster that counts, and refuses everything. -/
def client : Client (StateM Nat) := .ofRequests fun _ => throw (.action "no cluster")

/-- A step that the cluster counts. -/
def count : Action (StateM Nat) := fun _ => onCluster (modify (· + 1))

/-- A step that fails in the name of a stage. -/
def failIn (stage : Reason) : Action (StateM Nat) := fun _ => throw (.stage stage (.action "no quota"))

def context : Context (StateM Nat) where
  name := "mesh"
  space := "svc"
  managed := false
  source := {}
  client := client
  tracker := some { metadata := { name := some "svc-mesh", uid := some "uid-1" } }

def renderer : Renderer (StateM Nat) := { engine := fun _ => throw (.action "no overlays") }

/-- The second resource fails in the name of the last stage. -/
def stages : Stages (StateM Nat) where
  preconditions := [count]
  resources := [count, failIn .postConditions, count]
  postconditions := [count]

/-- The run stops in the stage of the resources, after two steps that were counted. -/
theorem stops_in_resources : ∃ f, perform (stages.run context renderer) ([], 0) = (.error f, [], 2) ∧
    f.reason? = some .resourceCreation := by
  have hmany : ∀ action ∈ stages.data ++ stages.preconditions ++ stages.postconditions, ∀ s,
      (perform (action context) s).1 ≠ .error (.many []) := by
    intro action haction s
    obtain rfl : action = count := by simpa [stages] using haction
    have hcounted : (perform (count context) s).1 = .ok () := rfl
    rw [hcounted]
    intro heq
    cases heq
  have hrun : perform (stages.run context renderer) ([], 0) =
      (.error (.stage .resourceCreation (.stage .postConditions (.action "no quota"))), [], 2) := rfl
  obtain ⟨_, _, _, result, -, -, -, hperform, -, herror⟩ := run_in_order renderer rfl rfl hmany ([], 0)
  obtain rfl := congrArg Prod.fst (hrun.symm.trans hperform)
  obtain ⟨reason, _, _, _, ⟨source, hstage⟩, hreason⟩ := herror _ rfl
  cases hstage
  exact ⟨_, hrun, hreason⟩

end Stages.OtherName

end Provision

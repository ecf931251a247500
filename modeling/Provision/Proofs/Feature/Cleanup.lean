import Provision.Proofs.Feature.StageOrder
import Provision.Proofs.Store.Deletion

/-!
Cleaning up. The data is loaded first, and without it nothing is touched. Then every cleanup step is carried
out, whatever fails, and the last thing that is asked of the cluster is to delete the tracker.
-/

namespace Provision

variable {S E : Type}

/-- A tracker in a scene is always deleted. -/
theorem Scene.run_deleteTracker (name : String) (w : Scene E) :
    ∃ w', (client.deleteTracker name).run.run w = (.ok (), w') ∧
      w'.store = (w.store.deleteTracker name).2 :=
  run_request (r := .deleteTracker name) (Prod.ext (Store.deleteTracker_ok w.store name) rfl)

namespace Feature

/-- Actions of a feature, as it takes them in its present state. -/
def steps (f : Feature (StateM S)) (p : Progress) (actions : List (Action (StateM S))) :
    List (Work S Unit) :=
  actions.map fun action => action (f.context p.tracker)

/-! ### In equations -/

/-- Taking a feature down: the cleanup steps, and then the tracker. -/
theorem perform_tearDown_of_cleaned {f : Feature (StateM S)} {p : Progress} {w w₁ w₂ : S}
    {failures : List Failure} {data : DataBag} {deletion : Except Failure Unit}
    (hcleaned : carryOut (Stages.collectFailures (f.context p.tracker) f.stages.cleanups [])
      (p.data, w) = (failures, data, w₁))
    (hdeletion : (f.client.deleteTracker f.trackerName).run.run w₁ = (deletion, w₂)) :
    perform f.tearDown (p, w) = (Failure.toResult (Failure.pushResult failures deletion),
      { state := .pending, tracker := none, data }, w₂) := by
  have hrun : perform f.tearDown (p, w) =
      let cleaned := carryOut (Stages.collectFailures (f.context p.tracker) f.stages.cleanups [])
        (p.data, w)
      let deletion := (f.client.deleteTracker f.trackerName).run.run cleaned.2.2
      (Failure.toResult (Failure.pushResult cleaned.1 deletion.1),
        { state := .pending, tracker := none, data := cleaned.2.1 }, deletion.2) := rfl
  rw [hrun, hcleaned]
  dsimp only
  rw [hdeletion]

/-- Cleaning up: without the data it ends there. -/
theorem perform_cleanup (f : Feature (StateM S)) (p : Progress) (w : S) :
    perform f.cleanup (p, w) =
      match perform (Stages.runAll (f.context p.tracker) .loadTemplateData f.stages.data)
        (p.data, w) with
      | (.ok _, data, w') => perform f.tearDown ({ p with data }, w')
      | (.error e, data, w') => (.error e, { p with data }, w') := by
  rw [cleanup, perform_get_bind]
  cases hdata : perform (Stages.runAll (f.context p.tracker) .loadTemplateData f.stages.data)
      (p.data, w) with
  | mk outcome after =>
      have hlifted : perform (ExceptT.mk (onData (Stages.runAll (f.context p.tracker)
          .loadTemplateData f.stages.data).run)) (p, w) =
          (outcome, { p with data := after.1 }, after.2) :=
        congrArg (fun s => (s.1, { p with data := s.2.1 }, s.2.2)) hdata
      cases outcome with
      | ok _ => rw [perform_bind_of_ok _ hlifted]
      | error e => rw [perform_bind_of_error _ hlifted]

/-! ### Best effort -/

/-- Cleaning up does what it can. Every data provider runs; if one of them fails, the result is a failure to
load the data, and nothing else has happened. Otherwise every cleanup step runs, whatever the others came to,
and then the tracker is deleted, which is the last thing that happens to the cluster. The feature is pending
and there is no tracker of its name; the result collects what failed in the cleanup steps in order, and is a
success if nothing did. Only a step that fails without any failure would go unnoticed. -/
theorem cleans_up {f : Feature (StateM (Scene E))} (hclient : f.client = Scene.client) (p : Progress)
    (hmany : ∀ action ∈ f.stages.data ++ f.stages.cleanups, ∀ s,
      (perform (action (f.context p.tracker)) s).1 ≠ .error (.many [])) (w : Scene E) :
    ∃ provided data w₁, Executes true (f.steps p f.stages.data) (p.data, w) provided (data, w₁) ∧
      ((∃ outcome ∈ provided, outcome ≠ .ok ()) ∧ (∃ source,
        perform f.cleanup (p, w) = (.error (.stage .loadTemplateData source), { p with data }, w₁)) ∨
      (∀ outcome ∈ provided, outcome = .ok ()) ∧ ∃ outcomes data' w₂ w₃ result,
        Executes true (f.steps p f.stages.cleanups) (data, w₁) outcomes (data', w₂) ∧
        (Scene.client.deleteTracker f.trackerName).run.run w₂ = (.ok (), w₃) ∧
        perform f.cleanup (p, w) =
          (result, { state := .pending, tracker := none, data := data' }, w₃) ∧
        w₃.store.getTracker? f.trackerName = none ∧
        (result = .ok () ↔ ∀ outcome ∈ outcomes, outcome = .ok ()) ∧
        result = Failure.toResult
          ((outcomes.filterMap Failure.ofOutcome?).flatMap Failure.members)) := by
  simp only [List.mem_append] at hmany
  obtain ⟨provided, ⟨data, w₁⟩, hprovides, hcollects, hprovided⟩ :=
    Stages.collectFailures_ends (f.context p.tracker) (fun action haction => hmany action (Or.inl haction))
      (p.data, w)
  have hcleanup := perform_cleanup f p w
  rw [Stages.perform_runAll, hcollects] at hcleanup
  refine ⟨provided, data, w₁, hprovides, ?_⟩
  by_cases hall : ∀ outcome ∈ provided, outcome = .ok ()
  · refine Or.inr ⟨hall, ?_⟩
    rw [hprovided.mpr hall] at hcleanup
    obtain ⟨outcomes, ⟨data', w₂⟩, hcleans, hcollects, hok⟩ :=
      Stages.collectFailures_ends (f.context p.tracker)
        (fun action haction => hmany action (Or.inr haction)) (data, w₁)
    obtain ⟨w₃, hdelete, hstore⟩ := Scene.run_deleteTracker f.trackerName w₂
    refine ⟨outcomes, data', w₂, w₃, _, hcleans, hdelete, ?_, ?_, hok, ?_⟩
    · rw [hcleanup]
      exact perform_tearDown_of_cleaned (p := { p with data }) hcollects (hclient ▸ hdelete)
    · rw [hstore]
      exact w₂.reachable.valid.getTracker?_deleteTracker_self f.trackerName
    · rw [Failure.foldl_pushResult_eq_append, List.nil_append]
  · refine Or.inl ⟨by simpa using hall, ?_⟩
    cases hresult : Failure.toResult (provided.foldl Failure.pushResult []) with
    | ok _ => exact absurd (hprovided.mp hresult) hall
    | error source =>
        rw [hresult] at hcleanup
        exact ⟨source, hcleanup⟩

/-! ### Cleanup steps that fail -/

namespace FailingCleanup

/-- A step that fails. -/
def failWith (failure : Failure) : Action (StateM (Scene Unit)) := fun _ => throw failure

/-- A step that deletes the tracker of the feature before its time. -/
def dropTracker : Action (StateM (Scene Unit)) := fun c => onCluster (c.client.deleteTracker c.trackerName)

/-- A feature of whose cleanup steps the first and the last fail, the first with a list. -/
def mesh : Feature (StateM (Scene Unit)) where
  name := "mesh"
  space := "svc"
  managed := false
  source := {}
  client := Scene.client
  enabled := fun _ _ => pure true
  stages := {
    cleanups := [failWith (.many [.action "no route", .action "no proxy"]), dropTracker,
      failWith (.action "no gateway")] }
  renderer := { engine := fun _ => throw (.action "no overlays") }
  owner := none
  statusRetry := Backoff.statusUpdate

/-- A store with the tracker of the feature. -/
def scene : Scene Unit where
  store := (Operation.insertTracker (Tracker.make mesh.trackerName {})).apply {}
  reachable := .apply _ .empty
  rest := ()

/-- All steps are carried out and the three failures are listed, although the tracker went in between. -/
theorem lists_what_failed : ∃ s,
    perform mesh.cleanup ({}, scene) =
      (.error (.many [.action "no route", .action "no proxy", .action "no gateway"]), s) ∧
    s.1.state = .pending ∧ s.2.store.getTracker? mesh.trackerName = none := by
  have hmany : ∀ action ∈ mesh.stages.data ++ mesh.stages.cleanups, ∀ s,
      (perform (action (mesh.context none)) s).1 ≠ .error (.many []) := by
    intro action haction s heq
    simp only [mesh, List.nil_append, List.mem_cons, List.not_mem_nil, or_false] at haction
    rcases haction with rfl | rfl | rfl
    · cases heq
    · rw [dropTracker, perform_onCluster] at heq
      obtain ⟨w', hdelete, -⟩ := Scene.run_deleteTracker (mesh.context none).trackerName s.2
      cases (congrArg Prod.fst hdelete).symm.trans heq
    · cases heq
  have hrun : (perform mesh.cleanup ({}, scene)).1 =
      .error (.many [.action "no route", .action "no proxy", .action "no gateway"]) := rfl
  obtain ⟨_, _, _, hprovides, ⟨⟨_, hmem, -⟩, -⟩ | ⟨-, _, _, _, w₃, _, -, -, hcleanup, hgone, -⟩⟩ :=
    cleans_up (f := mesh) rfl {} hmany scene
  · cases hprovides
    exact absurd hmem List.not_mem_nil
  · rw [hcleanup] at hrun
    exact ⟨_, hcleanup.trans (Prod.ext hrun rfl), rfl, hgone⟩

end FailingCleanup

end Feature

end Provision

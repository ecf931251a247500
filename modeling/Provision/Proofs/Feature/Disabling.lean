import Provision.Proofs.Feature.Cleanup
import Provision.Proofs.Feature.Outcome

/-!
Features that are not enabled. Without a tracker such a feature is only marked; with one it is cleaned up
first. Cleaning up has two ways to fail: without the data it ends at once, and the mark stays, while a failing
cleanup step is reported after the tracker is gone and the feature is pending, and there the mark is not set
again.
-/

namespace Provision

variable {S E : Type}

/-- What is collected from outcomes, member by member. -/
def Failure.collected (outcomes : List (Except Failure Unit)) : List Failure :=
  (outcomes.filterMap ofOutcome?).flatMap members

theorem Failure.foldl_pushResult_eq_collected (outcomes : List (Except Failure Unit)) :
    outcomes.foldl pushResult [] = collected outcomes := by
  rw [foldl_pushResult_eq_append, List.nil_append, collected]

theorem Scene.run_getTracker (name : String) (w : Scene E) :
    (client.getTracker name).run.run w = (.ok (w.store.getTracker? name), w) := rfl

namespace Feature

/-! ### In equations -/

/-- A feature that is not enabled is marked, and cleaned up if it has a tracker; if that succeeds, it is marked
again. -/
theorem perform_disable (f : Feature (StateM S)) (p : Progress) (w : S) :
    perform f.disable (p, w) =
      match (f.client.getTracker f.trackerName).run.run w with
      | (.error e, w') => (.error e, { p with state := .disabled }, w')
      | (.ok none, w') => (.ok (), { p with state := .disabled }, w')
      | (.ok (some t), w') =>
        match perform f.cleanup ({ p with state := .disabled, tracker := some t }, w') with
        | (.ok _, p', w'') => (.ok (), { p' with state := .disabled }, w'')
        | (.error e, p', w'') => (.error e, p', w'') := by
  rw [disable, perform_modify_bind]
  cases hfound : (f.client.getTracker f.trackerName).run.run w with
  | mk outcome w' =>
      have hget : perform (onCluster (f.client.getTracker f.trackerName)) ({ p with state := .disabled }, w) =
          (outcome, { p with state := .disabled }, w') := by
        rw [perform_onCluster, hfound]
      match outcome with
      | .error e => rw [perform_bind_of_error _ hget]
      | .ok none =>
          rw [perform_bind_of_ok _ hget]
          rfl
      | .ok (some t) =>
          rw [perform_bind_of_ok _ hget, perform_modify_bind]
          dsimp only
          cases hcleanup : perform f.cleanup ({ p with state := .disabled, tracker := some t }, w') with
          | mk outcome s =>
              cases outcome with
              | error e => rw [perform_bind_of_error _ hcleanup]
              | ok _ =>
                  rw [perform_bind_of_ok _ hcleanup]
                  rfl

/-- Cleaning up a feature in a scene, whatever its steps come to: it ends without the data, or it goes through
to the tracker, and then the result is what the cleanup steps came to. -/
theorem cleanup_ends {f : Feature (StateM (Scene E))} (hclient : f.client = Scene.client) (p : Progress)
    (w : Scene E) :
    ∃ provided data w₁, Executes true (f.steps p f.stages.data) (p.data, w) provided (data, w₁) ∧
      ((∃ e, Failure.toResult (Failure.collected provided) = .error e ∧
        perform f.cleanup (p, w) = (.error (.stage .loadTemplateData e), { p with data }, w₁)) ∨
      Failure.collected provided = [] ∧ ∃ outcomes data' w₂ w₃,
        Executes true (f.steps p f.stages.cleanups) (data, w₁) outcomes (data', w₂) ∧
        (Scene.client.deleteTracker f.trackerName).run.run w₂ = (.ok (), w₃) ∧
        perform f.cleanup (p, w) = (Failure.toResult (Failure.collected outcomes),
          { state := .pending, tracker := none, data := data' }, w₃)) := by
  obtain ⟨provided, ⟨data, w₁⟩, hprovides, hcollects⟩ :=
    Stages.executes_collectFailures (f.context p.tracker) f.stages.data [] (p.data, w)
  have hcleanup := perform_cleanup f p w
  rw [Stages.perform_runAll, hcollects, Failure.foldl_pushResult_eq_collected] at hcleanup
  refine ⟨provided, data, w₁, hprovides, ?_⟩
  cases hresult : Failure.toResult (Failure.collected provided) with
  | error e =>
      rw [hresult] at hcleanup
      exact .inl ⟨e, rfl, hcleanup⟩
  | ok _ =>
      rw [hresult] at hcleanup
      obtain ⟨outcomes, ⟨data', w₂⟩, hcleans, hcollects⟩ :=
        Stages.executes_collectFailures (f.context p.tracker) f.stages.cleanups [] (data, w₁)
      obtain ⟨w₃, hdelete, -⟩ := Scene.run_deleteTracker f.trackerName w₂
      rw [Failure.foldl_pushResult_eq_collected] at hcollects
      have htorn := perform_tearDown_of_cleaned (p := { p with data }) hcollects (hclient ▸ hdelete)
      exact .inr ⟨(Failure.toResult_eq_ok_iff _).mp hresult, outcomes, data', w₂, w₃, hcleans, hdelete,
        hcleanup.trans htorn⟩

variable [Clock (StateM E)]

/-! ### The mark -/

/-- A feature whose predicate says no ends disabled, with one exception. Without a tracker nothing but its state
has changed since the predicate. With one, every data provider runs; if that fails, the result is a failure to
load the data and the feature is disabled and keeps the tracker. Otherwise every cleanup step runs and the tracker
is deleted; the result is what the cleanup steps came to, and the feature is disabled if nothing is collected from
them, and pending if something is. -/
theorem disabled_unless_cleanup_fails {f : Feature (StateM (Scene E))} (hclient : f.client = Scene.client)
    (p : Progress) {w w₁ : Scene E}
    (hpredicate : (f.enabled (f.context p.tracker) p.data).run.run w = (.ok false, w₁)) :
    (w₁.store.getTracker? f.trackerName = none ∧
      perform f.apply (p, w) = (.ok (), { p with state := .disabled }, w₁)) ∨
    ∃ t, w₁.store.getTracker? f.trackerName = some t ∧ ∃ provided data w₂,
      Executes true (f.steps { p with tracker := some t } f.stages.data) (p.data, w₁) provided (data, w₂) ∧
      ((∃ e, Failure.toResult (Failure.collected provided) = .error e ∧
        perform f.apply (p, w) =
          (.error (.stage .loadTemplateData e), { state := .disabled, tracker := some t, data }, w₂)) ∨
      Failure.collected provided = [] ∧ ∃ outcomes data' w₃ w₄,
        Executes true (f.steps { p with tracker := some t } f.stages.cleanups) (data, w₂) outcomes (data', w₃) ∧
        (Scene.client.deleteTracker f.trackerName).run.run w₃ = (.ok (), w₄) ∧
        ((Failure.collected outcomes = [] ∧
          perform f.apply (p, w) = (.ok (), { state := .disabled, tracker := none, data := data' }, w₄)) ∨
        ∃ e, Failure.toResult (Failure.collected outcomes) = .error e ∧
          perform f.apply (p, w) = (.error e, { state := .pending, tracker := none, data := data' }, w₄))) := by
  have happly : perform f.apply (p, w) = perform f.disable (p, w₁) := by
    rw [perform_apply, hpredicate]
  rw [happly, perform_disable, hclient, Scene.run_getTracker]
  cases hfound : w₁.store.getTracker? f.trackerName with
  | none => exact .inl ⟨rfl, rfl⟩
  | some t =>
      obtain ⟨provided, data, w₂, hprovides, hends⟩ :=
        cleanup_ends hclient { p with state := .disabled, tracker := some t } w₁
      refine .inr ⟨t, rfl, provided, data, w₂, hprovides, ?_⟩
      obtain ⟨e, hfails, hcleanup⟩ | ⟨hloaded, outcomes, data', w₃, w₄, hcleans, hdelete, hcleanup⟩ := hends
      · simp only [hcleanup]
        exact .inl ⟨e, hfails, rfl⟩
      · refine .inr ⟨hloaded, outcomes, data', w₃, w₄, hcleans, hdelete, ?_⟩
        simp only [hcleanup]
        cases hresult : Failure.toResult (Failure.collected outcomes) with
        | ok _ => exact .inl ⟨(Failure.toResult_eq_ok_iff _).mp hresult, rfl⟩
        | error e => exact .inr ⟨e, rfl, rfl⟩

/-! ### A feature that is switched off -/

namespace SwitchedOff

/-- A feature that is not enabled, with a cleanup step of its own. -/
def gateway (step : Action (StateM (Scene Unit))) : Feature (StateM (Scene Unit)) where
  name := "gateway"
  space := "svc"
  managed := false
  source := {}
  client := Scene.client
  enabled := fun _ _ => pure false
  stages := { cleanups := [step] }
  renderer := { engine := fun _ => throw (.action "no overlays") }
  owner := none
  statusRetry := Backoff.statusUpdate

/-- A store with the tracker of the feature. -/
def applied : Scene Unit where
  store := (Operation.insertTracker (Tracker.make "svc-gateway" {})).apply {}
  reachable := .apply _ .empty
  rest := ()

/-- With a step that succeeds the feature ends disabled, without a tracker. -/
theorem marked_when_cleaned : ∃ data w,
    perform (gateway fun _ => pure ()).apply ({}, applied) = (.ok (), { state := .disabled, data }, w) := by
  obtain ⟨habsent, -⟩ | ⟨t, -, provided, data, w₂, hprovides, ⟨e, hfails, -⟩ |
      ⟨-, outcomes, data', w₃, w₄, hcleans, -, ⟨-, happly⟩ | ⟨e, hfails, -⟩⟩⟩ :=
    disabled_unless_cleanup_fails (f := gateway fun _ => pure ()) rfl {} (w := applied) rfl
  · cases habsent
  · cases hprovides
    cases hfails
  · exact ⟨data', w₄, happly⟩
  · have hstep : Executes true ((gateway fun _ => pure ()).steps { tracker := some t } [fun _ => pure ()]) (data, w₂)
        [.ok ()] (data, w₂) := .next rfl (.inl rfl) (.done _)
    obtain ⟨rfl, -⟩ := hcleans.unique hstep
    cases hfails

/-- With a step that fails it ends pending, although its predicate said no. -/
theorem unmarked_when_step_fails :
    (perform (gateway fun _ => throw (.action "no route")).apply ({}, applied)).1 = .error (.action "no route") ∧
    (perform (gateway fun _ => throw (.action "no route")).apply ({}, applied)).2.1.state = .pending := by
  constructor <;> rfl

end SwitchedOff

end Feature
end Provision

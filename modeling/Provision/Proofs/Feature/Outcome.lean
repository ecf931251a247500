import Provision.Proofs.Feature.StageOrder
import Provision.Proofs.Retrying
import Provision.Proofs.Store.Versions
import Provision.Tracker.Report

/-!
What applying a feature tells. The result of a call, the state of the feature and the status on its tracker
are made in three places: here they agree.
-/

namespace Provision

variable {S E : Type}

/-! ### Retried writes -/

/-- What holds of every attempt holds of the last one. -/
theorem Backoff.attempt_ends [Clock (StateM S)] {α ε : Type} {Q : Except ε α × S → Prop} (b : Backoff)
    (retryable : ε → Bool) {operation : ExceptT ε (StateM S) α}
    (hoperation : ∀ w, Q (operation.run.run w)) (left failures : Nat) (w : S) :
    Q ((b.attempt retryable operation left failures).run.run w) := by
  induction left generalizing failures w with
  | zero => exact hoperation w
  | succ left ih =>
      have hfirst := hoperation w
      rw [run_attempt_succ]
      cases houtcome : operation.run.run w with
      | mk outcome after =>
          rw [houtcome] at hfirst
          cases outcome with
          | ok a => exact hfirst
          | error e =>
              by_cases hretry : retryable e
              · simp only [hretry, if_true]
                exact ih (failures + 1) _
              · simp only [hretry]
                exact hfirst

namespace Scene

variable [Clock (StateM E)] (name : String) (change : Timestamp → TrackerStatus → TrackerStatus)

/-- How a status write ends: the changed status is stored, or there is one failure. -/
def WriteEnds : Except Failure Unit × Scene E → Prop
  | (.ok _, w) => ∃ t now old, w.store.getTracker? name = some t ∧ t.status = some (change now old)
  | (.error f, _) => f.Single

/-- Changing the status of a tracker that is there comes to writing the new status, whatever the time is. -/
theorem run_changeStatus_of_found {t : Tracker} {w : Scene E}
    (hfound : w.store.getTracker? name = some t) :
    ∃ now w', w'.store = w.store ∧ (client.changeStatus name change).run.run w =
      (client.replaceTrackerStatus { t with status := some (change now (t.status.getD {})) } >>=
        fun _ => pure ()).run.run w' := by
  have hget : (client.getTracker name).run.run w = (.ok (some t), w) := by
    rw [← hfound]
    rfl
  let now := (Clock.now (m := StateM (Scene E))).run w
  have hnow : (liftM (Clock.now (m := StateM (Scene E))) :
      ExceptT Failure (StateM (Scene E)) Timestamp).run.run w = (.ok now.1, now.2) := rfl
  refine ⟨now.1, now.2, rfl, ?_⟩
  rw [Client.changeStatus, run_bind_of_ok _ hget]
  dsimp only
  rw [run_bind_of_ok _ hnow]

theorem changeStatus_ends (w : Scene E) :
    WriteEnds name change ((client.changeStatus name change).run.run w) := by
  cases hfound : w.store.getTracker? name with
  | none =>
      have hget : (client.getTracker name).run.run w = (.ok none, w) := by
        rw [← hfound]
        rfl
      rw [Client.changeStatus, run_bind_of_ok _ hget]
      intro failures heq
      cases heq
  | some t =>
      obtain ⟨now, w₁, hstore, hrun⟩ := run_changeStatus_of_found name change hfound
      let written : Tracker := { t with status := some (change now (t.status.getD {})) }
      have hname : written.displayName = name :=
        w.reachable.valid.displayName_of_getTracker? (t := t) hfound
      rw [hrun]
      cases hreply : w₁.store.replaceTrackerStatus written with
      | mk reply after =>
          obtain ⟨w', hwrite, hafter⟩ := run_request (r := .replaceTrackerStatus written) hreply
          change (client.replaceTrackerStatus written).run.run w₁ = _ at hwrite
          cases reply with
          | ok stored =>
              rw [run_bind_of_ok _ hwrite]
              obtain ⟨old, -, -, htrackers⟩ := Store.replaceTrackerStatus_ok hreply
              rw [hname, ← hafter] at htrackers
              refine ⟨w₁.store.revised old written.status, now, t.status.getD {}, ?_, rfl⟩
              exact (congrArg (Keyed.get? · name) htrackers).trans (Keyed.get?_insert_self _ _ _)
          | error f =>
              rw [run_bind_of_error _ hwrite]
              intro failures heq
              rcases (Store.replaceTrackerStatus_error hreply).1 with rfl | rfl
              · cases heq
              · cases heq

/-- A status write that is retried ends like each of its attempts. -/
theorem updateStatus_ends (retry : Backoff) (w : Scene E) :
    WriteEnds name change ((client.updateStatus retry name change).run.run w) :=
  retry.attempt_ends _ (changeStatus_ends name change) _ _ w

end Scene

/-! ### What a status shows -/

/-- A list of conditions has one of a type, with a status and a reason. -/
def Condition.Tells (conditions : List Condition) (type : String) (status : ConditionStatus)
    (reason : String) : Prop :=
  ∃ c, find? conditions type = some c ∧ c.status = status ∧ c.reason = reason

@[simp] theorem Condition.status_succeed (old new : Condition) :
    (succeed old new).status = new.status := by
  simp only [succeed]; split <;> rfl

@[simp] theorem Condition.reason_succeed (old new : Condition) :
    (succeed old new).reason = new.reason := by
  simp only [succeed]; split <;> rfl

/-- What is set is told. -/
theorem Condition.tells_set_self (conditions : List Condition) (new : Condition) :
    Tells (set conditions new) new.type new.status new.reason := by
  refine ⟨_, find?_set_self conditions new, ?_⟩
  cases find? conditions new.type with
  | none => exact ⟨rfl, rfl⟩
  | some old => simp

theorem Condition.tells_set_of_ne {conditions : List Condition} {type reason : String}
    {status : ConditionStatus} (new : Condition) (hne : new.type ≠ type)
    (htells : Tells conditions type status reason) : Tells (set conditions new) type status reason := by
  obtain ⟨c, hfound, hstatus, hreason⟩ := htells
  exact ⟨c, (find?_set_of_ne conditions new hne).trans hfound, hstatus, hreason⟩

/-- A status shows the state of a feature whose stages have run. -/
def TrackerStatus.Shows (status : TrackerStatus) : FeatureState → Prop
  | .available => status.phase = .available ∧
    (∃ reason, Condition.Tells status.conditions Condition.available .holds reason) ∧
    ∃ reason, Condition.Tells status.conditions Condition.degraded .fails reason
  | .degraded (some reason) => status.phase = .degraded ∧
    Condition.Tells status.conditions Condition.degraded .holds reason.text ∧
    ∃ reason, Condition.Tells status.conditions Condition.available .fails reason
  | _ => False

theorem TrackerStatus.markOutcome_shows (now : Timestamp) (old : TrackerStatus)
    {outcome : Except Failure Unit}
    (hnamed : ∀ f, outcome = .error f → f.Named) :
    (markOutcome now (Failure.ofOutcome? outcome) old).Shows (.ofOutcome outcome) := by
  have hpa : Condition.progressing ≠ Condition.available := by decide
  have hpd : Condition.progressing ≠ Condition.degraded := by decide
  have hda : Condition.degraded ≠ Condition.available := by decide
  cases outcome with
  | ok _ =>
      refine ⟨rfl, ⟨Reason.featureCreated.text, ?_⟩, ⟨"", ?_⟩⟩
      · refine Condition.tells_set_of_ne _ hpa (Condition.tells_set_of_ne _ hda ?_)
        exact Condition.tells_set_self old.conditions _
      · exact Condition.tells_set_of_ne _ hpd (Condition.tells_set_self _ _)
  | error f =>
      obtain ⟨reason, source, rfl⟩ := hnamed f rfl
      refine ⟨rfl, ?_, ⟨reason.text, ?_⟩⟩
      · exact Condition.tells_set_of_ne _ hpd (Condition.tells_set_self _ _)
      · refine Condition.tells_set_of_ne _ hpa (Condition.tells_set_of_ne _ hda ?_)
        exact Condition.tells_set_self old.conditions _

/-- A state that a feature is in between calls: nothing is under way, and what failed has a stage. -/
def FeatureState.Settled (state : FeatureState) : Prop :=
  state ≠ .progressing ∧ state ≠ .degraded none

theorem FeatureState.settled_ofOutcome {outcome : Except Failure Unit}
    (hnamed : ∀ f, outcome = .error f → f.Named) :
    (FeatureState.ofOutcome outcome).Settled := by
  cases outcome with
  | ok _ => constructor <;> simp [ofOutcome]
  | error f =>
      obtain ⟨reason, source, rfl⟩ := hnamed f rfl
      constructor <;> simp [ofOutcome, Failure.reason?]

namespace Feature

/-! ### Cleaning up -/

/-- Nothing is under way in a feature. -/
def Rests (p : Progress) : Prop := p.state.Settled

theorem keeps_cleanup (f : Feature (StateM S)) : Keeps Rests f.cleanup := by
  intro s hs
  rw [cleanup, perform_get_bind]
  refine Keeps.bind (fun _ hs => hs) (fun _ => ?_) s hs
  intro s _
  have hpending : (perform f.tearDown s).2.1.state = .pending := rfl
  constructor <;> simp [hpending]

theorem keeps_disable (f : Feature (StateM S)) : Keeps Rests f.disable := by
  have hdisabled : FeatureState.Settled .disabled := by
    constructor <;> simp
  refine Keeps.bind (Keeps.change fun _ _ => hdisabled) fun _ => ?_
  refine Keeps.bind (Keeps.cluster _) fun found => ?_
  match found with
  | none => exact Keeps.done ()
  | some tracker =>
      refine Keeps.bind (Keeps.change fun _ hs => hs) fun _ => ?_
      exact Keeps.bind (keeps_cleanup f) fun _ => Keeps.change fun _ _ => hdisabled

/-! ### Applying -/

variable [Clock (StateM S)] {f : Feature (StateM S)}

/-- Running the stages with a report before and one after: each is done once, whatever the others come
to. -/
theorem perform_runStages (tracker : Tracker) (p : Progress) (w : S) :
    perform (f.runStages tracker) (p, w) =
      let start := (f.client.reportProgress f.statusRetry f.trackerName f.progressMessage).run.run w
      let stages := perform (f.stages.run (f.context (some tracker)) f.renderer) (p.data, start.2)
      let report :=
        (f.client.reportOutcome f.statusRetry f.trackerName (Failure.ofOutcome? stages.1)).run.run
          stages.2.2
      (Failure.toResult ([start.1, stages.1, report.1].foldl Failure.pushResult []),
        { p with state := .ofOutcome stages.1, data := stages.2.1 }, report.2) := rfl

/-- What the predicate answers decides what is done. -/
theorem perform_apply (p : Progress) (w : S) :
    perform f.apply (p, w) =
      match (f.enabled (f.context p.tracker) p.data).run.run w with
      | (.ok true, w') => perform f.enable (p, w')
      | (.ok false, w') => perform f.disable (p, w')
      | (.error e, w') => (.error e, p, w') := by
  unfold perform carryOut
  rw [run_apply, StateT.run_bind]
  cases (f.enabled (f.context p.tracker) p.data).run.run w with
  | mk answer w' =>
      match answer with
      | .ok true => rfl
      | .ok false => rfl
      | .error e => rfl

theorem perform_enable_of_tracker {p : Progress} {w w' : S} {tracker : Tracker}
    (hensure : (f.client.ensureTracker f.trackerName f.trackerSpec f.owner).run.run w =
      (.ok tracker, w')) :
    perform f.enable (p, w) =
      perform (f.runStages tracker) ({ p with tracker := some tracker, state := .progressing }, w') := by
  have htracker : perform (onCluster
      (f.client.ensureTracker f.trackerName f.trackerSpec f.owner)) (p, w) = (.ok tracker, p, w') := by
    rw [perform_onCluster, hensure]
  rw [enable, perform_bind_of_ok _ htracker, perform_modify_bind]

/-- Applying a feature that is enabled and has its tracker. -/
theorem perform_apply_of_enabled {p : Progress} {w w₁ w₂ w₃ w₄ w₅ : S} {tracker : Tracker}
    {start outcome report : Except Failure Unit} {data : DataBag}
    (henabled : (f.enabled (f.context p.tracker) p.data).run.run w = (.ok true, w₁))
    (hensure : (f.client.ensureTracker f.trackerName f.trackerSpec f.owner).run.run w₁ =
      (.ok tracker, w₂))
    (hstart : (f.client.reportProgress f.statusRetry f.trackerName f.progressMessage).run.run w₂ =
      (start, w₃))
    (hstages : perform (f.stages.run (f.context (some tracker)) f.renderer) (p.data, w₃) =
      (outcome, data, w₄))
    (hreport : (f.client.reportOutcome f.statusRetry f.trackerName
      (Failure.ofOutcome? outcome)).run.run w₄ = (report, w₅)) :
    perform f.apply (p, w) =
      (Failure.toResult ([start, outcome, report].foldl Failure.pushResult []),
        { tracker := some tracker, state := .ofOutcome outcome, data }, w₅) := by
  rw [perform_apply, henabled]
  dsimp only
  rw [perform_enable_of_tracker hensure, perform_runStages]
  simp only [hstart, hstages, hreport]

/-! ### The state after calls -/

/-- The states that are seen after each of some calls. -/
def statesAfter (f : Feature (StateM S)) : List Call → Progress × S → List FeatureState
  | [], _ => []
  | c :: rest, s =>
    let after := (perform (f.call c) s).2
    after.1.state :: f.statesAfter rest after

theorem keeps_apply (f : Feature (StateM S)) : Keeps Rests f.apply := by
  rintro ⟨p, w⟩ hp
  cases henabled : (f.enabled (f.context p.tracker) p.data).run.run w with
  | mk answer w₁ =>
      rw [perform_apply, henabled]
      match answer with
      | .error e => exact hp
      | .ok false => exact keeps_disable f (p, w₁) hp
      | .ok true =>
          cases hensure : (f.client.ensureTracker f.trackerName f.trackerSpec f.owner).run.run w₁ with
          | mk outcome w₂ =>
              cases outcome with
              | error e =>
                  have htracker : perform (onCluster (f.client.ensureTracker f.trackerName f.trackerSpec
                      f.owner)) (p, w₁) = (.error e, p, w₂) := by
                    rw [perform_onCluster, hensure]
                  dsimp only
                  rw [enable, perform_bind_of_error _ htracker]
                  exact hp
              | ok tracker =>
                  dsimp only
                  rw [perform_enable_of_tracker hensure, perform_runStages]
                  exact FeatureState.settled_ofOutcome fun e he =>
                    Stages.failsByName_run _ _ f.stages _ _ e (Prod.ext he rfl)

/-- The run lemma: a feature rests after every call. -/
theorem settled_of_mem_statesAfter (calls : List Call) {s : Progress × S} (hs : Rests s.1) :
    ∀ state ∈ f.statesAfter calls s, state.Settled := by
  induction calls generalizing s with
  | nil => simp [statesAfter]
  | cons c rest ih =>
      have hafter : Rests (perform (f.call c) s).2.1 := by
        cases c with
        | apply => exact keeps_apply f s hs
        | cleanup => exact keeps_cleanup f s hs
      rw [statesAfter, List.forall_mem_cons]
      constructor
      · exact hafter
      · exact ih hafter

/-! ### Result, state and status -/

/-- Applying a feature tells the same everywhere. If the feature is enabled and has its tracker, the stages
and the report after them are carried out once each, whatever the report before came to; the result collects
exactly what failed of the three, in order; and if the last report succeeded, the stored status shows the
state of the feature. A new feature is settled after every call. -/
theorem outcome_agrees [Clock (StateM E)] {f : Feature (StateM (Scene E))} {p : Progress}
    {w w₁ w₂ : Scene E} {tracker : Tracker} (hclient : f.client = Scene.client)
    (henabled : (f.enabled (f.context p.tracker) p.data).run.run w = (.ok true, w₁))
    (hensure : (f.client.ensureTracker f.trackerName f.trackerSpec f.owner).run.run w₁ =
      (.ok tracker, w₂)) :
    (∃ start w₃ outcome data w₄ report w₅ result,
      (f.client.reportProgress f.statusRetry f.trackerName f.progressMessage).run.run w₂ = (start, w₃) ∧
      perform (f.stages.run (f.context (some tracker)) f.renderer) (p.data, w₃) = (outcome, data, w₄) ∧
      (f.client.reportOutcome f.statusRetry f.trackerName (Failure.ofOutcome? outcome)).run.run w₄ =
        (report, w₅) ∧
      perform f.apply (p, w) =
        (result, { tracker := some tracker, state := .ofOutcome outcome, data }, w₅) ∧
      (result = .ok () ↔ start = .ok () ∧ outcome = .ok () ∧ report = .ok ()) ∧
      result = Failure.toResult ([start, outcome, report].filterMap Failure.ofOutcome?) ∧
      (report = .ok () → ∃ t status, w₅.store.getTracker? f.trackerName = some t ∧
        t.status = some status ∧ status.Shows (.ofOutcome outcome))) ∧
    ∀ (calls : List Call) (data : DataBag) (w : Scene E),
      ∀ state ∈ f.statesAfter calls ({ data }, w), state.Settled := by
  refine ⟨?_, fun calls data w => settled_of_mem_statesAfter calls ⟨by simp, by simp⟩⟩
  cases hstart : (f.client.reportProgress f.statusRetry f.trackerName f.progressMessage).run.run w₂ with
  | mk start w₃ =>
  cases hstages : perform (f.stages.run (f.context (some tracker)) f.renderer) (p.data, w₃) with
  | mk outcome after =>
  obtain ⟨data, w₄⟩ := after
  cases hreport : (f.client.reportOutcome f.statusRetry f.trackerName
      (Failure.ofOutcome? outcome)).run.run w₄ with
  | mk report w₅ =>
  have hstartEnds : Scene.WriteEnds f.trackerName
      (fun now => TrackerStatus.markProgressing now f.progressMessage) (start, w₃) := by
    rw [← hstart, hclient]
    exact Scene.updateStatus_ends _ _ f.statusRetry w₂
  have hreportEnds : Scene.WriteEnds f.trackerName
      (fun now => TrackerStatus.markOutcome now (Failure.ofOutcome? outcome)) (report, w₅) := by
    rw [← hreport, hclient]
    exact Scene.updateStatus_ends _ _ f.statusRetry w₄
  have hnamed : ∀ e, outcome = .error e → e.Named := by
    rintro e rfl
    exact Stages.failsByName_run _ _ f.stages _ _ e hstages
  -- None of the three fails with a list, so that nothing is taken apart.
  have hsingle : ∀ e, .error e ∈ [start, outcome, report] → e.Single := by
    intro e he
    simp only [List.mem_cons, List.not_mem_nil, or_false] at he
    rcases he with rfl | rfl | rfl
    · exact hstartEnds
    · exact (hnamed e rfl).single
    · exact hreportEnds
  have happly := perform_apply_of_enabled henabled hensure hstart hstages hreport
  rw [Failure.foldl_pushResult_of_single hsingle [], List.nil_append] at happly
  refine ⟨start, w₃, outcome, data, w₄, report, w₅, _, rfl, hstages, hreport, happly, ?_, rfl, ?_⟩
  · rw [Failure.toResult_filterMap_eq_ok_iff]
    simp
  · rintro rfl
    obtain ⟨t, now, old, hfound, hstatus⟩ := hreportEnds
    exact ⟨t, _, hfound, hstatus, TrackerStatus.markOutcome_shows now old hnamed⟩

/-! ### A report that is refused -/

namespace RefusedReport

/-- A clock that stands still. -/
instance : Clock (StateM Unit) where
  elapsed := pure 0
  sleep _ := pure ()
  now := pure default

/-- A feature without steps that reports once. -/
def mesh : Feature (StateM (Scene Unit)) where
  name := "mesh"
  space := "svc"
  managed := false
  source := {}
  client := Scene.client
  enabled := fun _ _ => pure true
  stages := {}
  renderer := { engine := fun _ => throw (.action "no overlays") }
  owner := none
  statusRetry := { Backoff.statusUpdate with maxAttempts := 1 }

/-- A store that refuses the next status write. -/
def scene : Scene Unit := ⟨(Operation.refuseStatus 1).apply {}, .apply (.refuseStatus 1) .empty, ()⟩

/-- The first report is refused, and this is the result, but the feature is available and its tracker shows
it. -/
theorem available_nevertheless : ∃ s, perform mesh.apply ({}, scene) = (.error Store.conflict, s) ∧
    s.1.state = .available ∧ ∃ t status, s.2.store.getTracker? mesh.trackerName = some t ∧
      t.status = some status ∧ status.Shows .available := by
  obtain ⟨⟨start, w₃, outcome, data, w₄, report, w₅, result, hstart, hstages, hreport, happly, -,
    hresult, hstatus⟩, -⟩ := outcome_agrees (f := mesh) (p := {}) (w := scene) rfl rfl rfl
  obtain rfl : .error Store.conflict = start := congrArg Prod.fst hstart
  obtain rfl : _ = w₃ := congrArg Prod.snd hstart
  obtain rfl : .ok () = outcome := congrArg Prod.fst hstages
  obtain rfl : _ = w₄ := congrArg (fun s => s.2.2) hstages
  obtain rfl : .ok () = report := congrArg Prod.fst hreport
  rw [hresult] at happly
  exact ⟨_, happly, rfl, hstatus rfl⟩

end RefusedReport

end Feature

end Provision

import Provision.Proofs.Feature.Run

/-!
From the parts of a feature to the whole. A property of computations that holds of doing nothing and of one
thing after another holds of applying a feature and of cleaning it up as soon as it holds of the steps, of
the manifests and of the calls that the feature makes itself.
-/

namespace Provision

/-- A property that holds of doing nothing and of doing one thing after another. -/
structure Composable {m : Type → Type} [Monad m] (P : (α : Type) → m α → Prop) : Prop where
  done {α : Type} (a : α) : P α (pure a)
  bind {α β : Type} {x : m α} {next : α → m β} (hfirst : P α x) (hnext : ∀ a, P β (next a)) :
    P β (x >>= next)

/-- A property of what a computation with a state does in every state. -/
def InEveryState {m : Type → Type} (P : (α : Type) → m α → Prop) (S α : Type)
    (x : StateT S m α) : Prop :=
  ∀ s, P _ (x.run s)

variable {m : Type → Type} [Monad m] {P : (α : Type) → m α → Prop} {S α β : Type}

namespace Composable

theorem map [LawfulMonad m] (hP : Composable P) {x : m α} (change : α → β) (hx : P _ x) :
    P _ (change <$> x) := by
  rw [map_eq_pure_bind]
  exact hP.bind hx fun a => hP.done (change a)

theorem inEveryState (hP : Composable P) : Composable (m := StateT S m) (InEveryState P S) where
  done a s := hP.done (a, s)
  bind hfirst hnext s := hP.bind (hfirst s) fun after => hnext after.1 after.2

theorem error (hP : Composable P) (f : Failure) :
    P _ (throw f : ExceptT Failure m α).run :=
  hP.done (Except.error f)

/-- One thing after another, with failures. -/
theorem exceptBind (hP : Composable P) {x : ExceptT Failure m α} {next : α → ExceptT Failure m β}
    (hfirst : P _ x.run) (hnext : ∀ a, P _ (next a).run) : P _ (x >>= next).run := by
  refine hP.bind hfirst fun outcome => ?_
  match outcome with
  | .ok a => exact hnext a
  | .error f => exact hP.done (Except.error f)

/-- Something that is known without the cluster, and then something else. -/
theorem exceptLift [LawfulMonad m] (hP : Composable P) (outcome : Except Failure α)
    {next : α → ExceptT Failure m β} (hnext : ∀ a, outcome = .ok a → P _ (next a).run) :
    P _ (liftM outcome >>= next : ExceptT Failure m β).run := by
  cases outcome with
  | ok a =>
      rw [liftM_ok_bind]
      exact hnext a rfl
  | error f =>
      rw [run_liftM_error_bind]
      exact hP.done (Except.error f)

theorem adapt [LawfulMonad m] (hP : Composable P) {x : ExceptT Failure m α} (change : Failure → Failure)
    (hx : P _ x.run) : P _ (x.adapt change).run :=
  hP.map (Except.mapError change) hx

/-- Look at the state, and then something. -/
theorem exceptGet [LawfulMonad m] {next : S → ExceptT Failure (StateT S m) α}
    (hnext : ∀ s, P _ ((next s).run.run s)) : InEveryState P _ _ (get >>= next).run := by
  intro s
  rw [run_get_bind]
  exact hnext s

/-- Change the state, and then something. -/
theorem exceptModify [LawfulMonad m] (change : S → S) {next : Unit → ExceptT Failure (StateT S m) α}
    (hnext : InEveryState P _ _ (next ()).run) :
    InEveryState P _ _ (modify change >>= next).run := by
  intro s
  rw [run_modify_bind]
  exact hnext (change s)

theorem onCluster (hP : Composable P) {x : ExceptT Failure m α} (hx : P _ x.run) :
    InEveryState P S _ (onCluster x).run :=
  fun s => hP.bind hx fun outcome => hP.done (outcome, s)

theorem onData (hP : Composable P) {x : StateT DataBag m α} (hx : InEveryState P _ _ x) :
    InEveryState P _ _ (Feature.onData x) :=
  fun p => hP.bind (hx p.data) fun after => hP.done (after.1, { p with data := after.2 })

/-- Changing a status once, whatever the tracker that is found. -/
theorem changeStatus [LawfulMonad m] [Clock m] (hP : Composable P) {client : Client m} {name : String}
    (hget : P _ (client.getTracker name).run) (hnow : P _ (Clock.now (m := m)))
    (hreplace : ∀ t, P _ (client.replaceTrackerStatus t).run)
    (change : Timestamp → TrackerStatus → TrackerStatus) : P _ (client.changeStatus name change).run := by
  refine hP.exceptBind hget fun found => ?_
  match found with
  | none => exact hP.error _
  | some t =>
      refine hP.exceptBind (hP.map _ hnow) fun now => ?_
      exact hP.exceptBind (hreplace _) fun _ => hP.done (Except.ok ())

/-! ### Steps -/

section Steps

variable (hP : Composable P) (c : Context m) {steps : List (Action m)}

include hP

theorem collectFailures (hsteps : ∀ action ∈ steps, InEveryState P _ _ (action c).run)
    (failures : List Failure) : InEveryState P _ _ (Stages.collectFailures c steps failures) := by
  have hstate := hP.inEveryState (S := DataBag)
  induction steps generalizing failures with
  | nil => exact hstate.done failures
  | cons action rest ih =>
      refine hstate.bind (hsteps action List.mem_cons_self) fun outcome => ?_
      exact ih (fun other hother => hsteps other (List.mem_cons_of_mem action hother)) _

theorem runAll (stage : Reason) (hsteps : ∀ action ∈ steps, InEveryState P _ _ (action c).run) :
    InEveryState P _ _ (Stages.runAll c stage steps).run := by
  have hstate := hP.inEveryState (S := DataBag)
  exact hstate.bind (hP.collectFailures c hsteps []) fun failures => hstate.done _

theorem runUntilFailure [LawfulMonad m] (stage : Reason)
    (hsteps : ∀ action ∈ steps, InEveryState P _ _ (action c).run) :
    InEveryState P _ _ (Stages.runUntilFailure c stage steps).run := by
  have hstate := hP.inEveryState (S := DataBag)
  induction steps with
  | nil => exact hstate.done (Except.ok ())
  | cons action rest ih =>
      refine hstate.exceptBind (hstate.adapt _ (hsteps action List.mem_cons_self)) fun _ => ?_
      exact ih fun other hother => hsteps other (List.mem_cons_of_mem action hother)

end Steps

end Composable

/-! ### The parts -/

namespace Feature

/-- The parts of a feature have a property: its steps, its overlay engine, applying objects, and what it
does with its tracker except for deleting it. -/
structure Parts [Clock m] (f : Feature m) (P : (α : Type) → m α → Prop) : Prop where
  composable : Composable P
  /-- The steps of all stages, and the cleanup steps. -/
  step (tracker : Option Tracker) (action : Action m)
    (haction : action ∈ f.stages.data ++ f.stages.preconditions ++ f.stages.resources ++
      f.stages.postconditions ++ f.stages.cleanups) :
    InEveryState P _ _ (action (f.context tracker)).run
  engine (dir : String) : P _ (f.renderer.engine dir).run
  objects (options : List MetaOption) (man : Manifest) (hman : man ∈ f.stages.manifests)
    (objects : List Object) : P _ (f.client.applyObjects options man.isPatch objects).run
  getTracker : P _ (f.client.getTracker f.trackerName).run
  createTracker :
    P _ (f.client.createTracker (Client.freshTracker f.trackerName f.trackerSpec f.owner)).run
  changeStatus (change : Timestamp → TrackerStatus → TrackerStatus) :
    P _ (f.client.changeStatus f.trackerName change).run
  sleep (d : Nanoseconds) : P _ (Clock.sleep (m := m) d)

/-- The parts of a feature have a property as soon as it has a tracker, if need be none: the steps of its stages,
its overlay engine, applying objects with the options that go with the tracker, and reporting. -/
structure PartsAt [Clock m] (f : Feature m) (tracker : Option Tracker) (P : (α : Type) → m α → Prop) :
    Prop where
  composable : Composable P
  step (action : Action m)
    (haction : action ∈ f.stages.data ++ f.stages.preconditions ++ f.stages.resources ++
      f.stages.postconditions) :
    InEveryState P _ _ (action (f.context tracker)).run
  engine (dir : String) : P _ (f.renderer.engine dir).run
  objects (options : List MetaOption) (hoptions : (f.context tracker).metaOptions = .ok options)
    (man : Manifest) (hman : man ∈ f.stages.manifests) (objects : List Object) :
    P _ (f.client.applyObjects options man.isPatch objects).run
  changeStatus (change : Timestamp → TrackerStatus → TrackerStatus) :
    P _ (f.client.changeStatus f.trackerName change).run
  sleep (d : Nanoseconds) : P _ (Clock.sleep (m := m) d)

namespace PartsAt

variable [Clock m] {f : Feature m} {tracker : Option Tracker} (hparts : f.PartsAt tracker P)

include hparts

/-! ### Stages -/

section Stages

variable [LawfulMonad m]

theorem manifestObjects (data : DataBag) (man : Manifest) :
    P _ (man.objects data f.renderer.engine f.renderer.transforms).run := by
  have hP := hparts.composable
  match man with
  | .raw _ _ objects => exact hP.done (Except.ok objects)
  | .template path _ content => exact hP.done (Manifest.renderTemplate data path content)
  | .overlay path files =>
      refine hP.exceptLift _ fun dir _ => hP.exceptBind (hparts.engine dir) fun output => ?_
      exact hP.done (Manifest.enrich f.renderer.transforms path output)

theorem applyEach {options : List MetaOption} (hoptions : (f.context tracker).metaOptions = .ok options)
    (data : DataBag) {manifests : List Manifest}
    (hmanifests : ∀ man ∈ manifests, man ∈ f.stages.manifests) :
    P _ (Stages.applyEach (f.context tracker) f.renderer options data manifests).run := by
  have hP := hparts.composable
  induction manifests with
  | nil => exact hP.done (Except.ok ())
  | cons man rest ih =>
      rw [Stages.applyEach, Manifest.render, bind_assoc]
      refine hP.exceptBind (hparts.manifestObjects data man) fun objects => ?_
      rw [pure_bind]
      refine hP.exceptBind
        (hparts.objects options hoptions man (hmanifests man List.mem_cons_self) objects) fun _ => ?_
      exact ih fun other hother => hmanifests other (List.mem_cons_of_mem man hother)

theorem applyManifests : InEveryState P _ _
    (Stages.applyManifests (f.context tracker) f.renderer f.stages.manifests).run := by
  have hP := hparts.composable.inEveryState (S := DataBag)
  unfold Stages.applyManifests
  split
  · exact hP.done (Except.ok ())
  · refine hP.exceptLift _ fun options hoptions => Composable.exceptGet fun data => ?_
    exact hparts.composable.onCluster (hparts.applyEach hoptions data fun _ hman => hman) data

theorem stages : InEveryState P _ _ (f.stages.run (f.context tracker) f.renderer).run := by
  have hP := hparts.composable.inEveryState (S := DataBag)
  have hcluster := hparts.composable
  have hstep := hparts.step
  simp only [List.mem_append] at hstep
  refine hP.exceptBind (hcluster.runAll _ _ fun action haction => hstep action (by simp [haction]))
    fun _ => ?_
  refine hP.exceptBind (hcluster.runAll _ _ fun action haction => hstep action (by simp [haction]))
    fun _ => ?_
  refine hP.exceptBind
    (hcluster.runUntilFailure _ _ fun action haction => hstep action (by simp [haction])) fun _ => ?_
  refine hP.exceptBind (hP.adapt _ hparts.applyManifests) fun _ => ?_
  exact hcluster.runAll _ _ fun action haction => hstep action (by simp [haction])

end Stages

/-! ### Reports -/

theorem attempt {α : Type} (retryable : Failure → Bool) {operation : ExceptT Failure m α}
    (hoperation : P _ operation.run) (left failures : Nat) :
    P _ (f.statusRetry.attempt retryable operation left failures).run := by
  have hP := hparts.composable
  induction left generalizing failures with
  | zero => exact hoperation
  | succ left ih =>
      refine hP.bind hoperation fun outcome => ?_
      match outcome with
      | .ok a => exact hP.done (Except.ok a)
      | .error e =>
          dsimp only
          split
          · exact hP.bind (hparts.sleep _) fun _ => ih (failures + 1)
          · exact hP.done (Except.error e)

theorem updateStatus (change : Timestamp → TrackerStatus → TrackerStatus) :
    P _ (f.client.updateStatus f.statusRetry f.trackerName change).run :=
  hparts.attempt _ (hparts.changeStatus change) _ _

end PartsAt

/-- Running the stages of a feature, with the reports around it. -/
theorem PartsAt.runStages [LawfulMonad m] [Clock m] {f : Feature m} {tracker : Tracker}
    (hparts : f.PartsAt (some tracker) P) : InEveryState P _ _ (f.runStages tracker).run := by
  have hP := hparts.composable.inEveryState (S := Progress)
  have hcluster := hparts.composable
  refine hP.bind (hcluster.onCluster (hparts.updateStatus _)) fun start => ?_
  refine hP.bind (hcluster.onData hparts.stages) fun outcome => ?_
  refine hP.bind (fun p => hcluster.done ((), _)) fun _ => ?_
  exact hP.bind (hcluster.onCluster (hparts.updateStatus _)) fun report => hP.done _

namespace Parts

variable [Clock m] {f : Feature m} (hparts : f.Parts P)

include hparts

/-- What holds of the parts holds of them with every tracker. -/
theorem partsAt (tracker : Option Tracker) : f.PartsAt tracker P where
  composable := hparts.composable
  step action haction := hparts.step tracker action (List.mem_append_left _ haction)
  engine := hparts.engine
  objects options _ := hparts.objects options
  changeStatus := hparts.changeStatus
  sleep := hparts.sleep

theorem ensureTracker : P _ (f.client.ensureTracker f.trackerName f.trackerSpec f.owner).run := by
  have hP := hparts.composable
  refine hP.exceptBind hparts.getTracker fun found => ?_
  match found with
  | some t => exact hP.done (Except.ok t)
  | none =>
      refine hP.bind hparts.createTracker fun outcome => ?_
      match outcome with
      | .ok t => exact hP.done (Except.ok t)
      | .error e =>
          dsimp only
          split
          · refine hP.exceptBind hparts.getTracker fun found => ?_
            match found with
            | some t => exact hP.done (Except.ok t)
            | none => exact hP.error _
          · exact hP.done (Except.error e)

theorem tearDown (hdelete : P _ (f.client.deleteTracker f.trackerName).run) :
    InEveryState P _ _ f.tearDown.run := by
  have hP := hparts.composable.inEveryState (S := Progress)
  have hcluster := hparts.composable
  refine hP.bind (fun p => hcluster.done (p, p)) fun p => ?_
  refine hP.bind (hcluster.onData (hcluster.collectFailures _ ?_ [])) fun failures => ?_
  · intro action haction
    exact hparts.step p.tracker action (List.mem_append_right _ haction)
  · refine hP.bind (hcluster.onCluster hdelete) fun deletion => ?_
    exact hP.bind (fun p => hcluster.done ((), _)) fun _ => hP.done _

variable [LawfulMonad m]

/-- A property of the parts is a property of making the tracker and running the stages. -/
theorem enable : InEveryState P _ _ f.enable.run := by
  have hP := hparts.composable.inEveryState (S := Progress)
  refine hP.exceptBind (hparts.composable.onCluster hparts.ensureTracker) fun tracker => ?_
  exact Composable.exceptModify _ (hparts.partsAt (some tracker)).runStages

/-- A property of the parts and of deleting the tracker is a property of cleaning up. -/
theorem cleanup (hdelete : P _ (f.client.deleteTracker f.trackerName).run) :
    InEveryState P _ _ f.cleanup.run := by
  have hP := hparts.composable.inEveryState (S := Progress)
  have hcluster := hparts.composable
  refine Composable.exceptGet fun p => ?_
  refine hP.exceptBind (hcluster.onData (hcluster.runAll _ _ ?_)) (fun _ => ?_) p
  · intro action haction
    refine hparts.step p.tracker action ?_
    simp only [List.mem_append, haction, true_or]
  · exact hparts.tearDown hdelete

theorem disable (hdelete : P _ (f.client.deleteTracker f.trackerName).run) :
    InEveryState P _ _ f.disable.run := by
  have hP := hparts.composable.inEveryState (S := Progress)
  refine Composable.exceptModify _ ?_
  refine hP.exceptBind (hparts.composable.onCluster hparts.getTracker) fun found => ?_
  match found with
  | none => exact hP.done (Except.ok ())
  | some tracker =>
      refine Composable.exceptModify _ (hP.exceptBind (hparts.cleanup hdelete) fun _ => ?_)
      intro p
      rw [run_modify]
      exact hparts.composable.done _

end Parts
end Feature

end Provision

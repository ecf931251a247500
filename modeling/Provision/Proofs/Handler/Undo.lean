import Provision.Proofs.Feature.Applying
import Provision.Proofs.Feature.Cleanup
import Provision.Proofs.Feature.Parts
import Provision.Proofs.Handler.Order
import Provision.Proofs.Store.Accounted

/-!
Deleting undoes applying. Whatever a feature puts into the store is owned by its tracker, however far it gets and
whoever else writes the same objects. So when a handler deletes its features, one after the other with their
trackers, nothing stays that was not there before they were applied.
-/

namespace Provision

variable {E : Type}

/-! ### Steps that apply objects -/

namespace Scene

/-- A computation keeps what is true of the store. -/
def Preserves (I : Store → Prop) (α : Type) (x : StateM (Scene E) α) : Prop :=
  ∀ w, I w.store → I (x.run w).2.store

theorem composable_preserves (I : Store → Prop) : Composable (Preserves (E := E) I) where
  done _ _ hw := hw
  bind hfirst hnext w hw := hnext _ _ (hfirst w hw)

/-- From one store to the other, objects are applied for a feature one after the other, and nothing else is
written. -/
inductive Applies (c : Context (StateM (Scene E))) (s : Store) : Store → Prop
  | nothing : Applies c s s
  | apply {w : Scene E} (hbefore : Applies c s w.store) (o : Object) :
      Applies c s ((c.applyObject o).run.run w).2.store

end Scene

namespace Context

variable {c : Context (StateM (Scene E))}

theorem applies_applyEach (c : Context (StateM (Scene E))) (objects : List Object) {s : Store} {w : Scene E}
    (hbefore : Scene.Applies c s w.store) :
    Scene.Applies c s ((c.applyEach objects).run.run w).2.store := by
  induction objects generalizing w with
  | nil => exact hbefore
  | cons o rest ih =>
      have hone := hbefore.apply o
      rw [applyEach]
      cases happly : (c.applyObject o).run.run w with
      | mk outcome w' =>
          rw [happly] at hone
          cases outcome with
          | ok _ =>
              rw [run_bind_of_ok _ happly]
              exact ih hone
          | error e =>
              rw [run_bind_of_error _ happly]
              exact hone

/-- What applying an object for a feature does to the store; without a tracker, nothing. -/
theorem store_applyObject (hclient : c.client = Scene.client) (o : Object) (w : Scene E) :
    ((c.applyObject o).run.run w).2.store = w.store ∨
      ∃ options, c.metaOptions = .ok options ∧
        ((c.applyObject o).run.run w).2.store = w.store.applied (MetaOption.applyAll options o) := by
  cases hoptions : c.metaOptions with
  | error f =>
      refine Or.inl ?_
      rw [applyObject, hoptions, run_liftM_error_bind]
      rfl
  | ok options =>
      obtain ⟨outcome, w', hrun, hstore, -⟩ := Scene.run_applyObject options o w
      refine Or.inr ⟨options, rfl, ?_⟩
      rw [applyObject_of_options hoptions, hclient, hrun]
      exact hstore

end Context

namespace Feature

variable {f : Feature (StateM (Scene E))} {tracker : Option Tracker} {start s s' : Store}
  {names : List String}

/-- A feature writes nothing to the cluster but objects that it applies, and those of its manifests. -/
structure OnlyApplies (f : Feature (StateM (Scene E))) : Prop where
  client : f.client = Scene.client
  predicate (tracker : Option Tracker) (data : DataBag) (w : Scene E) :
    Scene.Applies (f.context tracker) w.store
      ((f.enabled (f.context tracker) data).run.run w).2.store
  /-- The steps of all stages, and the cleanup steps. -/
  step (tracker : Option Tracker) (action : Action (StateM (Scene E)))
    (haction : action ∈ f.stages.data ++ f.stages.preconditions ++ f.stages.resources ++
      f.stages.postconditions ++ f.stages.cleanups) (data : DataBag) (w : Scene E) :
    Scene.Applies (f.context tracker) w.store
      (perform (action (f.context tracker)) (data, w)).2.2.store
  manifests (man : Manifest) (hman : man ∈ f.stages.manifests) : man.isPatch = false
  engine (dir : String) (w : Scene E) : ((f.renderer.engine dir).run.run w).2.store = w.store

/-- While a feature works, the objects are accounted for, and the tracker that it works with is the stored one. -/
structure Owning (f : Feature (StateM (Scene E))) (tracker : Option Tracker) (start : Store)
    (names : List String) (s : Store) : Prop where
  accounted : start.Accounted names s
  owner (owner : OwnerReference) (howner : (f.context tracker).ownerReference? = some owner) :
    s.trackerUid? f.trackerName = some owner.uid

namespace Owning

theorem applied (howning : f.Owning tracker start names s) (hname : f.trackerName ∈ names)
    {options : List MetaOption} (hoptions : (f.context tracker).metaOptions = .ok options) (o : Object) :
    f.Owning tracker start names (s.applied (MetaOption.applyAll options o)) where
  accounted := by
    obtain ⟨owner, howner, rfl⟩ := Context.owner_of_metaOptions hoptions
    refine howning.accounted.applied hname (howning.owner owner howner) ?_
    exact MetaOption.isOwnedBy_applyAll_managed owner _ o
  owner owner howner := by
    rw [Store.trackerUid?_applied]
    exact howning.owner owner howner

theorem applies (howning : f.Owning tracker start names s) (hclient : f.client = Scene.client)
    (hname : f.trackerName ∈ names) (happlies : Scene.Applies (f.context tracker) s s') :
    f.Owning tracker start names s' := by
  induction happlies with
  | nothing => exact howning
  | @apply w _ o ih =>
      rcases Context.store_applyObject (c := f.context tracker) hclient o w with
        hsame | ⟨options, hoptions, hstore⟩
      · rw [hsame]
        exact ih
      · rw [hstore]
        exact ih.applied hname hoptions o

theorem replaceTrackerStatus (howning : f.Owning tracker start names s) (t : Tracker) :
    f.Owning tracker start names (s.replaceTrackerStatus t).2 where
  accounted := by
    refine howning.accounted.of_subset ?_ fun name uid huid => ?_
    · rw [Store.replaceTrackerStatus_objects]
      exact List.Subset.refl _
    · rw [Store.trackerUid?_replaceTrackerStatus]
      exact huid
  owner owner howner := by
    rw [Store.trackerUid?_replaceTrackerStatus]
    exact howning.owner owner howner

end Owning

/-! ### Features -/

/-- Without a tracker, nothing is applied. -/
theorem store_of_applies_none (happlies : Scene.Applies (f.context none) s s')
    (hclient : f.client = Scene.client) : s' = s := by
  induction happlies with
  | nothing => rfl
  | @apply w _ o ih =>
      rcases Context.store_applyObject (c := f.context none) hclient o w with hsame | ⟨_, hoptions, -⟩
      · exact hsame.trans ih
      · cases hoptions

/-- What the data providers and the cleanup steps keep true of the store holds when the tracker is deleted, and if
it is not, because the data cannot be had, it holds in the end. -/
theorem store_cleanup_cases (hclient : f.client = Scene.client) {I : Store → Prop} {p : Progress}
    (hdata : ∀ action ∈ f.stages.data,
      InEveryState (Scene.Preserves I) _ _ (action (f.context p.tracker)).run)
    (hcleanups : ∀ action ∈ f.stages.cleanups,
      InEveryState (Scene.Preserves I) _ _ (action (f.context p.tracker)).run)
    {w : Scene E} (hw : I w.store) :
    ∃ s, I s ∧ ((perform f.cleanup (p, w)).2.2.store = (s.deleteTracker f.trackerName).2 ∨
      (perform f.cleanup (p, w)).2.2.store = s ∧ ∃ e,
        (perform (Stages.runAll (f.context p.tracker) .loadTemplateData f.stages.data) (p.data, w)).1 =
          .error e) := by
  have hP := Scene.composable_preserves (E := E) I
  have hprovided := hP.runAll (f.context p.tracker) .loadTemplateData hdata p.data w hw
  change I (perform (Stages.runAll (f.context p.tracker) .loadTemplateData f.stages.data)
    (p.data, w)).2.2.store at hprovided
  rw [perform_cleanup]
  cases hprovides : perform (Stages.runAll (f.context p.tracker) .loadTemplateData f.stages.data)
      (p.data, w) with
  | mk outcome after =>
      rw [hprovides] at hprovided
      obtain ⟨data, w₁⟩ := after
      cases outcome with
      | error e => exact ⟨w₁.store, hprovided, Or.inr ⟨rfl, e, rfl⟩⟩
      | ok _ =>
          have hcleaned := hP.collectFailures (f.context p.tracker) hcleanups [] data w₁ hprovided
          change I (carryOut (Stages.collectFailures (f.context p.tracker) f.stages.cleanups [])
            (data, w₁)).2.2.store at hcleaned
          obtain ⟨w₃, hdelete, hstore⟩ := Scene.run_deleteTracker f.trackerName
            (carryOut (Stages.collectFailures (f.context p.tracker) f.stages.cleanups []) (data, w₁)).2.2
          refine ⟨_, hcleaned, Or.inl ?_⟩
          dsimp only
          rw [perform_tearDown_of_cleaned (p := { p with data }) rfl (hclient ▸ hdelete), hstore]

namespace OnlyApplies

variable (honly : f.OnlyApplies) (hname : f.trackerName ∈ names)

include honly hname

theorem preserves_step (tracker : Option Tracker) (action : Action (StateM (Scene E)))
    (haction : action ∈ f.stages.data ++ f.stages.preconditions ++ f.stages.resources ++
      f.stages.postconditions ++ f.stages.cleanups) :
    InEveryState (Scene.Preserves (f.Owning tracker start names)) _ _
      (action (f.context tracker)).run :=
  fun data w howning => howning.applies honly.client hname (honly.step tracker action haction data w)

theorem preserves_applyObjects {options : List MetaOption}
    (hoptions : (f.context tracker).metaOptions = .ok options) (objects : List Object) :
    Scene.Preserves (f.Owning tracker start names) _
      (f.client.applyObjects options false objects).run := by
  intro w howning
  have happlies := Context.applies_applyEach (f.context tracker) objects (w := w) .nothing
  rw [Context.applyEach_eq hoptions] at happlies
  exact howning.applies honly.client hname happlies

/-- Steps that run before the tracker goes apply for it. -/
theorem accounted_cleanup {p : Progress} {w : Scene E}
    (howning : f.Owning p.tracker start names w.store) :
    start.Accounted names (perform f.cleanup (p, w)).2.2.store := by
  obtain ⟨s, hs, hdeleted | ⟨hsame, -⟩⟩ := store_cleanup_cases honly.client
    (fun action haction => honly.preserves_step hname p.tracker action (by simp [haction]))
    (fun action haction => honly.preserves_step hname p.tracker action (by simp [haction])) howning
  · rw [hdeleted]
    exact hs.accounted.deleteTracker f.trackerName
  · rw [hsame]
    exact hs.accounted

theorem accounted_disable {p : Progress} {w : Scene E} (haccounted : start.Accounted names w.store) :
    start.Accounted names (perform f.disable (p, w)).2.2.store := by
  have hget : perform (onCluster (f.client.getTracker f.trackerName)) ({ p with state := .disabled }, w) =
      (.ok (w.store.getTracker? f.trackerName), { p with state := .disabled }, w) := by
    rw [perform_onCluster, honly.client]
    rfl
  rw [disable, perform_modify_bind, perform_bind_of_ok _ hget]
  cases hfound : w.store.getTracker? f.trackerName with
  | none => exact haccounted
  | some t =>
      have hcleaned := honly.accounted_cleanup hname (w := w)
        (p := { p with state := .disabled, tracker := some t })
        ⟨haccounted, fun owner howner => by
          rw [Store.trackerUid?_of_found hfound]
          exact Tracker.uid_of_ownerReference? howner⟩
      dsimp only
      rw [perform_modify_bind]
      cases hcleanup : perform f.cleanup ({ p with state := .disabled, tracker := some t }, w) with
      | mk outcome after =>
          rw [hcleanup] at hcleaned
          cases outcome with
          | ok _ =>
              rw [perform_bind_of_ok _ hcleanup]
              exact hcleaned
          | error e =>
              rw [perform_bind_of_error _ hcleanup]
              exact hcleaned

variable [Clock (StateM E)]

theorem partsAt (tracker : Option Tracker) :
    f.PartsAt tracker (Scene.Preserves (f.Owning tracker start names)) where
  composable := Scene.composable_preserves _
  step action haction := honly.preserves_step hname tracker action (List.mem_append_left _ haction)
  engine dir w howning := by
    rw [honly.engine]
    exact howning
  objects options hoptions man hman objects := by
    rw [honly.manifests man hman]
    exact honly.preserves_applyObjects hname hoptions objects
  changeStatus change := by
    rw [honly.client]
    exact (Scene.composable_preserves _).changeStatus (fun _ howning => howning) (fun _ howning => howning)
      (fun t _ howning => howning.replaceTrackerStatus t) change
  sleep _ _ howning := howning

theorem accounted_enable {p : Progress} {w : Scene E} (haccounted : start.Accounted names w.store) :
    start.Accounted names (perform f.enable (p, w)).2.2.store := by
  obtain ⟨t, w', hensure, hfound, hstore⟩ :=
    Scene.run_ensureTracker f.trackerName f.trackerSpec f.owner w
  rw [perform_enable_of_tracker (honly.client ▸ hensure)]
  have howning : f.Owning (some t) start names w'.store := by
    refine ⟨?_, fun owner howner => ?_⟩
    · rcases hstore with rfl | ⟨-, hcreated⟩
      · exact haccounted
      · rw [hcreated]
        exact haccounted.createTracker _
    · rw [Store.trackerUid?_of_found hfound]
      exact Tracker.uid_of_ownerReference? howner
  exact ((honly.partsAt hname (some t)).runStages _ w' howning).accounted

/-- However applying a feature ends, everything is accounted for. -/
theorem accounted_apply {w : Scene E} (haccounted : start.Accounted names w.store) :
    start.Accounted names (perform f.apply ({}, w)).2.2.store := by
  have hpredicate := store_of_applies_none (honly.predicate none [] w) honly.client
  rw [perform_apply]
  cases henabled : (f.enabled (f.context none) []).run.run w with
  | mk answer w' =>
      rw [henabled] at hpredicate
      rw [← hpredicate] at haccounted
      match answer with
      | .error e => exact haccounted
      | .ok true => exact honly.accounted_enable hname haccounted
      | .ok false => exact honly.accounted_disable hname haccounted

end OnlyApplies

/-- The data of a feature that was made anew can be had, whatever the cluster holds. -/
def HasData (f : Feature (StateM (Scene E))) : Prop :=
  ∀ w, (perform (Stages.runAll (f.context none) .loadTemplateData f.stages.data) ([], w)).1 = .ok ()

/-- Cleaning up a feature that was made anew does nothing to the store but to delete the tracker. -/
theorem OnlyApplies.store_cleanup (honly : f.OnlyApplies) (hdata : f.HasData) (w : Scene E) :
    (perform f.cleanup ({}, w)).2.2.store = (w.store.deleteTracker f.trackerName).2 := by
  have hstep : ∀ action ∈ f.stages.data ++ f.stages.preconditions ++ f.stages.resources ++
      f.stages.postconditions ++ f.stages.cleanups,
      InEveryState (Scene.Preserves (· = w.store)) _ _ (action (f.context none)).run := by
    intro action haction data w₁ hstore
    exact (store_of_applies_none (honly.step none action haction data w₁) honly.client).trans hstore
  simp only [List.mem_append] at hstep
  obtain ⟨s, rfl, hdeleted | ⟨-, e, hfails⟩⟩ := store_cleanup_cases honly.client (p := {}) (w := w)
    (fun action haction => hstep action (by simp [haction]))
    (fun action haction => hstep action (by simp [haction])) rfl
  · exact hdeleted
  · cases (hdata w).symm.trans hfails

/-! ### Visits -/

variable [Clock (StateM E)] {features : List (Feature (StateM (Scene E)))} {calls : Calls (Scene E)}
  {w w' : Scene E}

theorem Visits.accounted (hvisits : Visits .apply features w calls w')
    (honly : ∀ f ∈ features, f.OnlyApplies) (hnames : ∀ f ∈ features, f.trackerName ∈ names)
    (haccounted : start.Accounted names w.store) : start.Accounted names w'.store := by
  induction hvisits with
  | done w => exact haccounted
  | @next f rest outcome p calls w w' w'' hcall _ ih =>
      have hstep := (honly f List.mem_cons_self).accounted_apply (hnames f List.mem_cons_self) haccounted
      rw [show perform f.apply ({}, w) = _ from hcall] at hstep
      exact ih (fun g hg => honly g (List.mem_cons_of_mem f hg))
        (fun g hg => hnames g (List.mem_cons_of_mem f hg)) hstep

theorem Visits.store_cleanup (hvisits : Visits .cleanup features w calls w')
    (honly : ∀ f ∈ features, f.OnlyApplies) (hdata : ∀ f ∈ features, f.HasData) :
    w'.store = w.store.deleteTrackers (features.map trackerName) := by
  induction hvisits with
  | done w => rfl
  | @next f rest outcome p calls w w' w'' hcall _ ih =>
      have hstep := (honly f List.mem_cons_self).store_cleanup (hdata f List.mem_cons_self) w
      rw [show perform f.cleanup ({}, w) = _ from hcall] at hstep
      rw [List.map_cons, Store.deleteTrackers_cons, ← hstep]
      exact ih (fun g hg => honly g (List.mem_cons_of_mem f hg))
        fun g hg => hdata g (List.mem_cons_of_mem f hg)

end Feature

/-! ### The handler -/

namespace Handler

variable [Clock (StateM E)] {around : Surroundings (StateM (Scene E))} {h : Handler (StateM (Scene E))}
  {made : List (Feature (StateM (Scene E)))}

/-- Deleting undoes applying. The features of a handler are the same whenever they are made, they write nothing but
objects that they apply, and their data can be had. Then however applying them ends, after they were deleted none of
their trackers is there, and every object that is there was there, as it is, before they were applied. -/
theorem delete_undoes_apply (hprepares : ∀ w, ∃ w', h.Prepares around w made w' ∧ w'.store = w.store)
    (honly : ∀ f ∈ made, f.OnlyApplies) (hdata : ∀ f ∈ made, f.HasData) (w : Scene E) :
    let applied := ((h.apply around).run.run w).2
    let deleted := ((h.delete around).run.run applied).2
    (∀ f ∈ made, deleted.store.getTracker? f.trackerName = none) ∧
      ∀ entry ∈ deleted.store.objects, entry ∈ w.store.objects := by
  intro applied deleted
  obtain ⟨w₁, hbefore, hstore₁⟩ := hprepares w
  obtain ⟨w₂, hagain, hstore₂⟩ := hprepares applied
  obtain ⟨calls, w₃, hvisits, happly⟩ := hbefore.run_perform .apply
  obtain ⟨calls', w₄, hvisits', hdelete⟩ := hagain.run_perform .delete
  have happlied : applied = w₃ := congrArg Prod.snd happly
  have hdeleted : deleted = w₄ := congrArg Prod.snd hdelete
  have haccounted : w.store.Accounted (made.map Feature.trackerName) applied.store := by
    rw [happlied]
    refine hvisits.accounted honly (fun f hf => List.mem_map_of_mem hf) ?_
    rw [hstore₁]
    exact Store.Accounted.refl _ _
  have hgone : deleted.store =
      applied.store.deleteTrackers (made.reverse.map Feature.trackerName) := by
    rw [hdeleted, ← hstore₂]
    refine hvisits'.store_cleanup (fun f hf => ?_) fun f hf => ?_
    · exact honly f (List.mem_reverse.mp hf)
    · exact hdata f (List.mem_reverse.mp hf)
  have htrackers : ∀ f ∈ made, deleted.store.getTracker? f.trackerName = none := by
    intro f hf
    rw [hgone]
    refine Store.getTracker?_deleteTrackers applied.reachable.valid ?_
    exact List.mem_map_of_mem (List.mem_reverse.mpr hf)
  refine ⟨htrackers, fun entry hentry => ?_⟩
  rw [hgone] at hentry htrackers
  refine (haccounted.deleteTrackers _).mem_start ?_ hentry
  intro name hname
  obtain ⟨f, hf, rfl⟩ := List.mem_map.mp hname
  exact htrackers f hf

/-! ### A feature that fails midway -/

namespace FailsMidway

def config (name : String) : Object where
  types := some ⟨"v1", "ConfigMap"⟩
  metadata := { name := some name, space := some "svc" }

/-- A feature that applies some objects, and then succeeds or fails. -/
def definition (name : String) (managed : Bool) (objects : List Object) (outcome : Except Failure Unit) :
    Definition (StateM (Scene Unit)) where
  name
  managed
  resources := [fun c => onCluster (c.applyEach objects), fun _ => ExceptT.mk (pure outcome)]
  engine := some fun _ => throw (.action "no overlays")

/-- Fails after its first object. -/
def mesh : Definition (StateM (Scene Unit)) :=
  definition "mesh" false [config "routes"] (.error (.action "no proxy"))

/-- Applies the object of the other feature as well. -/
def gateway : Definition (StateM (Scene Unit)) :=
  definition "gateway" true [config "routes", config "listeners"] (.ok ())

def surroundings : Surroundings (StateM (Scene Unit)) where
  standardClient _ := throw (.action "no cluster")
  clientAt _ _ := throw (.action "no cluster")
  runProgram _ _ := throw "no programs"

def handler : Handler (StateM (Scene Unit)) where
  space := "svc"
  providers := [Registry.add [mesh, gateway]]
  connection := .client Scene.client

/-- What the handler makes of a definition. -/
def featureOf (d : Definition (StateM (Scene Unit))) : Feature (StateM (Scene Unit)) where
  name := d.name
  space := "svc"
  managed := d.managed
  source := {}
  client := Scene.client
  enabled := Predicate.always
  stages := d.stages []
  renderer := {
    engine := fun _ => throw (.action "no overlays")
    transforms := [.setSpace "svc"] }
  owner := none
  statusRetry := Backoff.statusUpdate

theorem prepares (w : Scene Unit) :
    handler.Prepares surroundings w [featureOf mesh, featureOf gateway] w :=
  .made rfl rfl (.next rfl (.next rfl (.done w)))

theorem onlyApplies_definition (name : String) (managed : Bool) (objects : List Object)
    (outcome : Except Failure Unit) :
    (featureOf (definition name managed objects outcome)).OnlyApplies where
  client := rfl
  predicate _ _ _ := .nothing
  step tracker action haction data w := by
    simp only [featureOf, definition, Definition.stages, List.nil_append, List.append_nil, List.mem_cons,
      List.not_mem_nil, or_false] at haction
    rcases haction with rfl | rfl
    · rw [perform_onCluster]
      exact Context.applies_applyEach _ objects .nothing
    · exact .nothing
  manifests _ hman := absurd hman List.not_mem_nil
  engine _ _ := rfl

/-- A cluster that holds one object. -/
def scene : Scene Unit := ⟨(Operation.insert (config "settings")).apply {}, .apply _ .empty, ()⟩

/-- One of the features fails, and two objects come and go; the third one was there before. -/
theorem only_settings_stay :
    let applied := ((handler.apply surroundings).run.run scene).2
    let deleted := ((handler.delete surroundings).run.run applied).2
    ((handler.apply surroundings).run.run scene).1.toBool = false ∧
      applied.store.count "ConfigMap" = 3 ∧ deleted.store.count "ConfigMap" = 1 ∧
      deleted.store.getTracker? "svc-mesh" = none ∧ deleted.store.getTracker? "svc-gateway" = none ∧
      ∀ entry ∈ deleted.store.objects, entry ∈ scene.store.objects := by
  have honly : ∀ f ∈ [featureOf mesh, featureOf gateway], f.OnlyApplies := by
    simp only [List.forall_mem_cons, List.not_mem_nil, false_implies, implies_true, and_true]
    exact ⟨onlyApplies_definition .., onlyApplies_definition ..⟩
  have hdata : ∀ f ∈ [featureOf mesh, featureOf gateway], f.HasData := by
    simp only [List.forall_mem_cons, List.not_mem_nil, false_implies, implies_true, and_true]
    exact ⟨fun _ => rfl, fun _ => rfl⟩
  obtain ⟨hgone, hstays⟩ := delete_undoes_apply (fun w => ⟨w, prepares w, rfl⟩) honly hdata scene
  refine ⟨by decide +kernel, by decide +kernel, by decide +kernel, ?_, ?_, hstays⟩
  · exact hgone (featureOf mesh) List.mem_cons_self
  · exact hgone (featureOf gateway) (List.mem_cons_of_mem _ List.mem_cons_self)

end FailsMidway

end Handler

end Provision

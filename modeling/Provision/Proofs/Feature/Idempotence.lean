import Provision.Proofs.Feature.Applying
import Provision.Proofs.Store.Accounted
import Provision.Proofs.Store.Reapplied

/-!
Applying a feature twice. A feature whose steps do nothing but to apply objects succeeds exactly if each of them says
its type. What it leaves behind depends on these objects and on the tracker, of which the second time nothing but the
status and the version is new; so the second time brings nothing but new versions.
-/

namespace Provision

variable {E : Type}

/-! ### Objects with a type -/

namespace Object

/-- An object says its type. -/
def IsTyped (o : Object) : Prop := ∃ type, o.resourceType = .ok type

theorem isTyped_iff (o : Object) : o.IsTyped ↔ o.types ≠ none := by
  unfold IsTyped resourceType
  cases o.types <;> simp

@[simp] theorem types_applyAll (options : List MetaOption) (o : Object) :
    (MetaOption.applyAll options o).types = o.types := by
  induction options generalizing o with
  | nil => rfl
  | cons option rest ih =>
      refine (ih (option.apply o)).trans ?_
      cases option <;> rfl

theorem isTyped_applyAll (options : List MetaOption) (o : Object) :
    (MetaOption.applyAll options o).IsTyped ↔ o.IsTyped := by
  rw [isTyped_iff, isTyped_iff, types_applyAll]

/-- An object without a type cannot be applied. -/
theorem single_of_resourceType {o : Object} {f : Failure} (htype : o.resourceType = .error f) :
    f.Single := by
  unfold resourceType at htype
  split at htype
  · cases htype
  · cases htype
    intro failures heq
    cases heq

end Object

/-! ### Steps that apply objects in turn -/

namespace Scene

/-- Objects are applied for a feature in turn, up to the first that cannot be. In between nothing is written. -/
inductive AppliesInTurn (c : Context (StateM (Scene E))) :
    Scene E → List Object → Except Failure Unit → Scene E → Prop
  | done {w w' : Scene E} (hafter : w'.store = w.store) : AppliesInTurn c w [] (.ok ()) w'
  | next {w w₁ w₂ w' : Scene E} {o : Object} {rest : List Object} {became : ApplyOutcome}
      {outcome : Except Failure Unit} (hbefore : w₁.store = w.store)
      (happly : (c.applyObject o).run.run w₁ = (.ok became, w₂))
      (hrest : AppliesInTurn c w₂ rest outcome w') : AppliesInTurn c w (o :: rest) outcome w'
  | stop {w w₁ w₂ w' : Scene E} {o : Object} {f : Failure} (rest : List Object)
      (hbefore : w₁.store = w.store) (happly : (c.applyObject o).run.run w₁ = (.error f, w₂))
      (hafter : w'.store = w₂.store) : AppliesInTurn c w (o :: rest) (.error f) w'

/-- Only the store matters. -/
theorem AppliesInTurn.of_store {c : Context (StateM (Scene E))} {w w₁ w' : Scene E} {objects : List Object}
    {outcome : Except Failure Unit} (happlies : AppliesInTurn c w₁ objects outcome w')
    (hstore : w₁.store = w.store) : AppliesInTurn c w objects outcome w' := by
  cases happlies with
  | done hafter => exact .done (hafter.trans hstore)
  | next hbefore happly hrest => exact .next (hbefore.trans hstore) happly hrest
  | stop rest hbefore happly hafter => exact .stop rest (hbefore.trans hstore) happly hafter

theorem appliesInTurn_applyEach (c : Context (StateM (Scene E))) (objects : List Object) (w : Scene E) :
    ∃ outcome w', (c.applyEach objects).run.run w = (outcome, w') ∧
      AppliesInTurn c w objects outcome w' := by
  induction objects generalizing w with
  | nil => exact ⟨.ok (), w, rfl, .done rfl⟩
  | cons o rest ih =>
      rw [Context.applyEach]
      cases happly : (c.applyObject o).run.run w with
      | mk result w₂ =>
          cases result with
          | ok became =>
              obtain ⟨outcome, w', hrun, hrest⟩ := ih w₂
              refine ⟨outcome, w', ?_, .next rfl happly hrest⟩
              rw [run_bind_of_ok _ happly, hrun]
          | error f => exact ⟨.error f, w₂, run_bind_of_error _ happly, .stop rest rfl happly rfl⟩

/-- A manifest that can be rendered, and whose objects are not to be merged, applies them in turn. -/
theorem appliesInTurn_applyManifest {c : Context (StateM (Scene E))} {renderer : Renderer (StateM (Scene E))}
    {options : List MetaOption} (hoptions : c.metaOptions = .ok options) {man : Manifest}
    (hmode : man.isPatch = false) {data : DataBag} {objects : List Object} {w w₁ : Scene E}
    (hobjects : (man.objects data renderer.engine renderer.transforms).run.run w = (.ok objects, w₁))
    (hstore : w₁.store = w.store) :
    ∃ outcome w', perform (Stages.applyManifest c renderer options man) (data, w) = (outcome, data, w') ∧
      AppliesInTurn c w objects outcome w' := by
  obtain ⟨outcome, w', hrun, happlies⟩ := appliesInTurn_applyEach c objects w₁
  refine ⟨outcome, w', ?_, happlies.of_store hstore⟩
  rw [Context.applyEach_eq hoptions] at hrun
  have hrender : (Stages.renderAndApply c renderer options data man).run.run w = (outcome, w') := by
    rw [Stages.renderAndApply, Manifest.render, bind_assoc, run_bind_of_ok _ hobjects, pure_bind,
      Client.applyRendered, hmode, hrun]
  rw [Stages.applyManifest, perform_get_bind, perform_onCluster, hrender]

/-- Steps that are carried out one after the other, each from where the one before it ended, yield objects, which
they apply in turn. -/
inductive Yields (c : Context (StateM (Scene E))) :
    List (Work (Scene E) Unit) → DataBag × Scene E → List Object → DataBag × Scene E → Prop
  | done (s : DataBag × Scene E) : Yields c [] s [] s
  | next {step : Work (Scene E) Unit} {rest : List (Work (Scene E) Unit)} {s s' s'' : DataBag × Scene E}
      {objects more : List Object} {outcome : Except Failure Unit} (hstep : perform step s = (outcome, s'))
      (happlies : AppliesInTurn c s.2 objects outcome s'.2) (hrest : Yields c rest s' more s'') :
      Yields c (step :: rest) s (objects ++ more) s''

variable {c : Context (StateM (Scene E))} {options : List MetaOption} {objects : List Object}

/-- Applying an object for a feature that has a tracker. -/
theorem run_context_applyObject (hclient : c.client = client) (hoptions : c.metaOptions = .ok options)
    (o : Object) (w : Scene E) :
    ∃ outcome w', (c.applyObject o).run.run w = (outcome, w') ∧
      w'.store = w.store.applied (MetaOption.applyAll options o) ∧
      (o.IsTyped ∧ (∃ became, outcome = .ok became) ∨
        ¬ o.IsTyped ∧ ∃ f, outcome = .error f ∧ f.Single) := by
  obtain ⟨outcome, w', hrun, hstore, houtcome⟩ := run_applyObject options o w
  refine ⟨outcome, w', ?_, hstore, ?_⟩
  · rw [Context.applyObject_of_options hoptions, hclient, hrun]
  · cases htype : (MetaOption.applyAll options o).resourceType with
    | ok type =>
        refine Or.inl ⟨(Object.isTyped_applyAll options o).mp ⟨type, htype⟩, ?_⟩
        rw [htype] at houtcome
        cases outcome with
        | ok became => exact ⟨became, rfl⟩
        | error f => cases houtcome
    | error e =>
        refine Or.inr ⟨?_, ?_⟩
        · rw [← Object.isTyped_applyAll options o]
          rintro ⟨type, hok⟩
          cases htype.symm.trans hok
        · rw [htype] at houtcome
          cases outcome with
          | ok became => cases houtcome
          | error f =>
              cases houtcome
              exact ⟨e, rfl, Object.single_of_resourceType htype⟩

/-- Objects are all applied, or one of them says no type. -/
theorem AppliesInTurn.ends (hclient : c.client = client) (hoptions : c.metaOptions = .ok options)
    {w w' : Scene E} {outcome : Except Failure Unit} (happlies : AppliesInTurn c w objects outcome w') :
    ((∀ o ∈ objects, o.IsTyped) ∧ outcome = .ok () ∧
      w'.store = w.store.appliedAll (objects.map (MetaOption.applyAll options))) ∨
    ((∃ o ∈ objects, ¬ o.IsTyped) ∧ ∃ f, outcome = .error f ∧ f.Single) := by
  induction happlies with
  | done hafter => exact Or.inl ⟨by simp, rfl, hafter⟩
  | @next w w₁ w₂ w' o rest became outcome hbefore happly _ ih =>
      obtain ⟨_, _, hrun, hstore, ⟨htyped, -⟩ | ⟨-, f, rfl, -⟩⟩ :=
        run_context_applyObject hclient hoptions o w₁
      · obtain ⟨-, rfl⟩ := Prod.mk.inj (happly.symm.trans hrun)
        rcases ih with ⟨hrest, hok, hfinish⟩ | ⟨⟨untyped, hmem, hnot⟩, hfails⟩
        · refine Or.inl ⟨List.forall_mem_cons.mpr ⟨htyped, hrest⟩, hok, ?_⟩
          rw [hfinish, hstore, hbefore]
          rfl
        · exact Or.inr ⟨⟨untyped, List.mem_cons_of_mem o hmem, hnot⟩, hfails⟩
      · cases happly.symm.trans hrun
  | @stop w w₁ w₂ w' o f rest hbefore happly hafter =>
      obtain ⟨_, _, hrun, -, ⟨-, became, rfl⟩ | ⟨hnot, e, rfl, hsingle⟩⟩ :=
        run_context_applyObject hclient hoptions o w₁
      · cases happly.symm.trans hrun
      · cases happly.symm.trans hrun
        exact Or.inr ⟨⟨o, List.mem_cons_self, hnot⟩, _, rfl, hsingle⟩

namespace Yields

variable {steps more : List (Work (Scene E) Unit)} {s s' finish : DataBag × Scene E}

/-- Steps yield what their parts yield. -/
theorem split (hyields : Yields c (steps ++ more) s objects finish) :
    ∃ front back middle, objects = front ++ back ∧ Yields c steps s front middle ∧
      Yields c more middle back finish := by
  induction steps generalizing s objects with
  | nil => exact ⟨[], objects, s, rfl, .done s, hyields⟩
  | cons step rest ih =>
      cases hyields with
      | next hstep happlies hrest =>
          obtain ⟨front, back, middle, rfl, hfront, hback⟩ := ih hrest
          exact ⟨_, back, middle, (List.append_assoc ..).symm, .next hstep happlies hfront, hback⟩

/-- What is left behind if every object says its type. -/
theorem store (hyields : Yields c steps s objects finish) (hclient : c.client = client)
    (hoptions : c.metaOptions = .ok options) (htyped : ∀ o ∈ objects, o.IsTyped) :
    finish.2.store = s.2.store.appliedAll (objects.map (MetaOption.applyAll options)) := by
  induction hyields with
  | done s => rfl
  | @next step rest s s' s'' front back outcome hstep happlies _ ih =>
      rw [List.forall_mem_append] at htyped
      rcases happlies.ends hclient hoptions with ⟨-, -, hstore⟩ | ⟨⟨o, ho, hnot⟩, -⟩
      · rw [ih htyped.2, hstore, List.map_append, Store.appliedAll_append]
      · exact absurd (htyped.1 o ho) hnot

/-- Steps succeed exactly if every object says its type. -/
theorem executes (hyields : Yields c steps s objects finish) (hclient : c.client = client)
    (hoptions : c.metaOptions = .ok options) {keepsOn : Bool} {outcomes : List (Except Failure Unit)}
    (hexecutes : Executes keepsOn steps s outcomes s') :
    ((∀ o ∈ objects, o.IsTyped) ∧ (∀ outcome ∈ outcomes, outcome = .ok ()) ∧ s' = finish) ∨
      ((∃ o ∈ objects, ¬ o.IsTyped) ∧ ∃ f, .error f ∈ outcomes ∧ f.Single) := by
  induction hyields generalizing outcomes s' with
  | done s =>
      cases hexecutes
      exact Or.inl ⟨by simp, by simp, rfl⟩
  | @next step rest s middle finish front back outcome hstep happlies _ ih =>
      cases hexecutes with
      | stop hfails _ =>
          cases hstep.symm.trans hfails
          rcases happlies.ends hclient hoptions with ⟨-, hok, -⟩ | ⟨⟨o, ho, hnot⟩, f, hf, hsingle⟩
          · cases hok
          · cases hf
            exact Or.inr ⟨⟨o, List.mem_append_left _ ho, hnot⟩, _, List.mem_cons_self, hsingle⟩
      | next hnext _ hrest =>
          cases hstep.symm.trans hnext
          rcases happlies.ends hclient hoptions with ⟨htyped, hok, -⟩ | ⟨⟨o, ho, hnot⟩, f, hf, hsingle⟩
          · rcases ih hrest with ⟨hback, hall, hfinish⟩ | ⟨⟨o, ho, hnot⟩, f, hf, hsingle⟩
            · exact Or.inl ⟨List.forall_mem_append.mpr ⟨htyped, hback⟩,
                List.forall_mem_cons.mpr ⟨hok, hall⟩, hfinish⟩
            · exact Or.inr ⟨⟨o, List.mem_append_right _ ho, hnot⟩, f, List.mem_cons_of_mem _ hf, hsingle⟩
          · cases hf
            exact Or.inr ⟨⟨o, List.mem_append_left _ ho, hnot⟩, f, List.mem_cons_self, hsingle⟩

end Yields

/-! ### Stages -/

/-- How a computation ends that applies objects: well if each of them says its type, and else not. -/
def Ends (x : Work (Scene E) Unit) (s : DataBag × Scene E) (objects : List Object)
    (finish : DataBag × Scene E) : Prop :=
  (∀ o ∈ objects, o.IsTyped) ∧ perform x s = (.ok (), finish) ∨
    (∃ o ∈ objects, ¬ o.IsTyped) ∧ ∃ f s', perform x s = (.error f, s')

theorem Ends.bind {x y : Work (Scene E) Unit} {s middle finish : DataBag × Scene E}
    {front back : List Object} (hx : Ends x s front middle) (hy : Ends y middle back finish) :
    Ends (x >>= fun _ => y) s (front ++ back) finish := by
  rcases hx with ⟨hfront, hx⟩ | ⟨⟨o, ho, hnot⟩, f, s', hx⟩
  · rcases hy with ⟨hback, hy⟩ | ⟨⟨o, ho, hnot⟩, f, s', hy⟩
    · refine Or.inl ⟨List.forall_mem_append.mpr ⟨hfront, hback⟩, ?_⟩
      rw [perform_bind_of_ok _ hx, hy]
    · refine Or.inr ⟨⟨o, List.mem_append_right _ ho, hnot⟩, f, s', ?_⟩
      rw [perform_bind_of_ok _ hx, hy]
  · exact Or.inr ⟨⟨o, List.mem_append_left _ ho, hnot⟩, f, s', perform_bind_of_error _ hx⟩

theorem Ends.adapt {x : Work (Scene E) Unit} {s finish : DataBag × Scene E}
    (hx : Ends x s objects finish) (change : Failure → Failure) :
    Ends (x.adapt change) s objects finish := by
  rcases hx with ⟨htyped, hx⟩ | ⟨huntyped, f, s', hx⟩
  · refine Or.inl ⟨htyped, ?_⟩
    rw [perform_adapt, hx]
    rfl
  · refine Or.inr ⟨huntyped, change f, s', ?_⟩
    rw [perform_adapt, hx]
    rfl

variable {s finish : DataBag × Scene E} (hclient : c.client = client)
  (hoptions : c.metaOptions = .ok options)

include hclient hoptions

/-- A stage that stops at the first failure. -/
theorem ends_inTurn {steps : List (Work (Scene E) Unit)} (hyields : Yields c steps s objects finish) :
    Ends (inTurn steps) s objects finish := by
  obtain ⟨outcomes, s', result, hexecutes, hperform, hok⟩ := executes_inTurn steps s
  rcases hyields.executes hclient hoptions hexecutes with ⟨htyped, hall, rfl⟩ | ⟨huntyped, f, hf, -⟩
  · refine Or.inl ⟨htyped, ?_⟩
    rw [hperform, hok.mpr hall]
  · refine Or.inr ⟨huntyped, ?_⟩
    cases result with
    | ok _ => cases hok.mp rfl _ hf
    | error e => exact ⟨e, s', hperform⟩

/-- A stage that collects what fails. -/
theorem ends_runAll (reason : Reason) {actions : List (Action (StateM (Scene E)))}
    (hyields : Yields c (actions.map fun action => action c) s objects finish) :
    Ends (Stages.runAll c reason actions) s objects finish := by
  obtain ⟨outcomes, s', hexecutes, hcollects⟩ := Stages.executes_collectFailures c actions [] s
  have hperform := Stages.perform_runAll c reason actions s
  rw [hcollects] at hperform
  rcases hyields.executes hclient hoptions hexecutes with ⟨htyped, hall, rfl⟩ | ⟨huntyped, f, hf, hsingle⟩
  · have hnone : outcomes.foldl Failure.pushResult [] = [] := by
      rw [Failure.foldl_pushResult_eq_append, List.nil_append, Failure.flatMap_members_eq_nil_iff]
      intro f hf
      cases hall _ hf
    rw [hnone] at hperform
    exact Or.inl ⟨htyped, hperform⟩
  · obtain ⟨e, hresult⟩ := Failure.exists_error_of_mem hf hsingle
    rw [hresult] at hperform
    exact Or.inr ⟨huntyped, .stage reason e, s', hperform⟩

/-- The stages of a feature. -/
theorem ends_run {stages : Stages (StateM (Scene E))} {renderer : Renderer (StateM (Scene E))}
    (hyields : Yields c ((stages.inOrder c renderer options).flatMap Stage.steps) s objects finish) :
    Ends (stages.run c renderer) s objects finish := by
  simp only [Stages.inOrder, List.flatMap_cons, List.flatMap_nil, List.append_nil] at hyields
  obtain ⟨data, _, s₁, rfl, hdata, hyields⟩ := hyields.split
  obtain ⟨pre, _, s₂, rfl, hpre, hyields⟩ := hyields.split
  obtain ⟨res, _, s₃, rfl, hres, hyields⟩ := hyields.split
  obtain ⟨man, post, s₄, rfl, hman, hpost⟩ := hyields.split
  refine (ends_runAll hclient hoptions _ hdata).bind ((ends_runAll hclient hoptions _ hpre).bind ?_)
  rw [Stages.runUntilFailure_eq]
  refine ((ends_inTurn hclient hoptions hres).adapt _).bind (Ends.bind ?_ (ends_runAll hclient hoptions _ hpost))
  refine Ends.adapt ?_ _
  have hmanifests := ends_inTurn hclient hoptions hman
  unfold Ends at hmanifests ⊢
  rwa [Stages.perform_applyManifests c renderer hoptions]

end Scene

/-! ### The tracker -/

/-- Nothing is new in a store but versions, and the status of one tracker. -/
structure Store.Refreshes (tracker : String) (s s' : Store) : Prop where
  /-- No object was created. -/
  absent (key : StoreKey) (habsent : Keyed.get? s.objects key = none) : Keyed.get? s'.objects key = none
  /-- Objects that are not managed are as they were. -/
  unmanaged (key : StoreKey) (o : Object) (hfound : Keyed.get? s.objects key = some o)
    (hmanaged : ¬ o.isManaged) : Keyed.get? s'.objects key = some o
  /-- The others are as they were but for their versions. -/
  managed (key : StoreKey) (o : Object) (hfound : Keyed.get? s.objects key = some o) :
    ∃ o', Keyed.get? s'.objects key = some o' ∧ o'.versionless = o.versionless
  /-- No other tracker was created or changed. -/
  others (name : String) (hother : name ≠ tracker) : s'.getTracker? name = s.getTracker? name
  status : ∃ t t', s.getTracker? tracker = some t ∧ s'.getTracker? tracker = some t' ∧
    t'.record = t.record

namespace Feature

variable {f : Feature (StateM (Scene E))} {p : Progress} {w w' : Scene E} {objects : List Object}

/-- The options depend on nothing in the tracker that is ever new. -/
theorem metaOptions_eq_of_record {t t' : Tracker} (hrecord : t'.record = t.record) :
    (f.context (some t')).metaOptions = (f.context (some t)).metaOptions := by
  have hsame : ∀ t, (f.context (some t)).metaOptions = (f.context (some t.record)).metaOptions :=
    fun _ => rfl
  rw [hsame, hrecord, ← hsame]

/-- What applying a feature does to a store, if it yields objects and has a tracker. -/
structure Brings (f : Feature (StateM (Scene E))) (t : Tracker) (objects : List Object) (s s' : Store) :
    Prop where
  objects : ∃ options middle, (f.context (some t)).metaOptions = .ok options ∧
    Store.objects middle = s.objects ∧
    s'.objects = (middle.appliedAll (objects.map (MetaOption.applyAll options))).objects
  /-- A tracker that is there is kept. -/
  kept (old : Tracker) (hold : s.getTracker? f.trackerName = some old) : t = old
  tracker : ∃ t', s'.getTracker? f.trackerName = some t' ∧ t'.record = t.record
  others (name : String) (hother : name ≠ f.trackerName) : s'.getTracker? name = s.getTracker? name
  quiet : s'.pendingConflicts = 0

/-- Twice the same comes to nothing new. -/
theorem Brings.refreshes {t t' : Tracker} {s s' s'' : Store} (hfirst : f.Brings t objects s s')
    (hsecond : f.Brings t' objects s' s'') : s'.Refreshes f.trackerName s'' := by
  obtain ⟨stored, hstored, hrecord⟩ := hfirst.tracker
  obtain rfl := hsecond.kept stored hstored
  obtain ⟨options, middle, hoptions, -, hbrought⟩ := hfirst.objects
  obtain ⟨options', middle', hoptions', hmiddle, hagain⟩ := hsecond.objects
  obtain rfl : options' = options := by
    rw [metaOptions_eq_of_record hrecord, hoptions] at hoptions'
    exact (Except.ok.inj hoptions').symm
  have hsame := hmiddle.trans hbrought
  refine ⟨fun key habsent => ?_, fun key o hfound hmanaged => ?_, fun key o hfound => ?_,
    hsecond.others, ?_⟩
  · rw [hagain]
    exact Store.get?_reapplied_of_none hsame (hmiddle ▸ habsent)
  · rw [hagain]
    exact Store.get?_appliedAll_of_unmanaged (hmiddle ▸ hfound) hmanaged
  · rw [hagain]
    exact Store.get?_reapplied hsame (hmiddle ▸ hfound)
  · obtain ⟨stored', hstored', hrecord'⟩ := hsecond.tracker
    exact ⟨t', stored', hstored, hstored', hrecord'⟩

/-- A feature has its tracker, and otherwise nothing happened to the store. -/
structure Ready (f : Feature (StateM (Scene E))) (t : Tracker) (s s' : Store) : Prop where
  objects : s'.objects = s.objects
  quiet : s'.pendingConflicts = 0
  found : s'.getTracker? f.trackerName = some t
  kept (old : Tracker) (hold : s.getTracker? f.trackerName = some old) : t = old
  others (name : String) (hother : name ≠ f.trackerName) : s'.getTracker? name = s.getTracker? name

/-- Making sure of the tracker cannot fail, and with it the feature can apply objects. -/
theorem exists_ready (hquiet : w.store.pendingConflicts = 0) :
    ∃ t options w', (Scene.client.ensureTracker f.trackerName f.trackerSpec f.owner).run.run w = (.ok t, w') ∧
      (f.context (some t)).metaOptions = .ok options ∧ f.Ready t w.store w'.store := by
  obtain ⟨t, w', hensure, hfound, hkept⟩ :=
    Scene.run_ensureTracker f.trackerName f.trackerSpec f.owner w
  obtain ⟨uid, huid⟩ := Option.ne_none_iff_exists'.mp
    (w'.reachable.identified (f.trackerName, t) (Keyed.mem_of_get? hfound))
  obtain ⟨options, hoptions⟩ := Context.exists_metaOptions (c := f.context (some t)) rfl huid
  refine ⟨t, options, w', hensure, hoptions, ?_⟩
  rcases hkept with rfl | ⟨habsent, hstore⟩
  · exact ⟨rfl, hquiet, hfound, fun old hold => Option.some.inj (hfound.symm.trans hold), fun _ _ => rfl⟩
  · rw [Store.createTracker_of_absent habsent] at hstore
    refine ⟨by rw [hstore]; rfl, by rw [hstore]; exact hquiet, hfound, ?_, fun name hother => ?_⟩
    · intro old hold
      cases habsent.symm.trans hold
    · rw [hstore]
      exact Keyed.get?_insert_of_ne w.store.trackers _ hother

/-- The stages leave every tracker alone, so that the last report finds what the first one wrote. -/
theorem Ready.brings {t : Tracker} {options : List MetaOption} {s s₁ s₂ s₃ : Store}
    (hready : f.Ready t s s₁) (hoptions : (f.context (some t)).metaOptions = .ok options)
    (hstart : s₁.Reported f.trackerName s₂)
    (hreport : (s₂.appliedAll (objects.map (MetaOption.applyAll options))).Reported f.trackerName s₃) :
    f.Brings t objects s s₃ where
  objects := ⟨options, s₂, hoptions, hstart.objects.trans hready.objects, hreport.objects⟩
  kept := hready.kept
  tracker := by
    obtain ⟨t₂, hfound₂, hrecord₂⟩ := hstart.tracker t hready.found
    obtain ⟨t₃, hfound₃, hrecord₃⟩ := hreport.tracker t₂ (by rwa [Store.getTracker?_appliedAll])
    exact ⟨t₃, hfound₃, hrecord₃.trans hrecord₂⟩
  others name hother := by
    rw [hreport.others name hother, Store.getTracker?_appliedAll, hstart.others name hother,
      hready.others name hother]
  quiet := by
    rw [hreport.pendingConflicts, Store.pendingConflicts_appliedAll, hstart.pendingConflicts, hready.quiet]

variable [Clock (StateM E)]

/-- A feature is enabled, and when it is applied its steps yield objects and write nothing else. -/
structure Yields (f : Feature (StateM (Scene E))) (p : Progress) (w : Scene E) (objects : List Object) :
    Prop where
  enabled : ∃ w', (f.enabled (f.context p.tracker) p.data).run.run w = (.ok true, w') ∧ w'.store = w.store
  steps {w₁ w₂ w₃ : Scene E} {t : Tracker} {options : List MetaOption} {start : Except Failure Unit}
    (henabled : (f.enabled (f.context p.tracker) p.data).run.run w = (.ok true, w₁))
    (hensure : (f.client.ensureTracker f.trackerName f.trackerSpec f.owner).run.run w₁ = (.ok t, w₂))
    (hstart : (f.client.reportProgress f.statusRetry f.trackerName f.progressMessage).run.run w₂ =
      (start, w₃))
    (hoptions : (f.context (some t)).metaOptions = .ok options) :
    ∃ finish, Scene.Yields (f.context (some t))
      ((f.stages.inOrder (f.context (some t)) f.renderer options).flatMap Stage.steps) (p.data, w₃)
      objects finish

/-- How applying a feature ends that yields objects. -/
theorem perform_apply_of_yields (hclient : f.client = Scene.client)
    (hquiet : w.store.pendingConflicts = 0) (hyields : f.Yields p w objects) :
    ((∀ o ∈ objects, o.IsTyped) ∧ ∃ t p' w', perform f.apply (p, w) = (.ok (), p', w') ∧
      f.Brings t objects w.store w'.store) ∨
    ((∃ o ∈ objects, ¬ o.IsTyped) ∧ ∃ e s, perform f.apply (p, w) = (.error e, s)) := by
  obtain ⟨w₁, henabled, hstore₁⟩ := hyields.enabled
  obtain ⟨t, options, w₂, hensure, hoptions, hready⟩ := exists_ready (f := f) (hstore₁ ▸ hquiet)
  rw [hstore₁] at hready
  rw [← hclient] at hensure
  obtain ⟨w₃, hstart, hreported⟩ := Scene.run_updateStatus
    (fun now => TrackerStatus.markProgressing now f.progressMessage) hready.found hready.quiet f.statusRetry
  rw [← hclient] at hstart
  obtain ⟨⟨data, w₄⟩, hsteps⟩ := hyields.steps henabled hensure hstart hoptions
  rcases Scene.ends_run (c := f.context (some t)) hclient hoptions hsteps with
    ⟨htyped, hstages⟩ | ⟨huntyped, e, ⟨data', w₄'⟩, hstages⟩
  · have hstore₄ : w₄.store = w₃.store.appliedAll _ := hsteps.store hclient hoptions htyped
    obtain ⟨t₃, hfound₃, -⟩ := hreported.tracker t hready.found
    have hfound₄ : w₄.store.getTracker? f.trackerName = some t₃ := by
      rwa [hstore₄, Store.getTracker?_appliedAll]
    have hquiet₄ : w₄.store.pendingConflicts = 0 := by
      rw [hstore₄, Store.pendingConflicts_appliedAll, hreported.pendingConflicts, hready.quiet]
    obtain ⟨w₅, hreport, hreported'⟩ := Scene.run_updateStatus
      (fun now => TrackerStatus.markOutcome now none) hfound₄ hquiet₄ f.statusRetry
    rw [← hclient] at hreport
    rw [hstore₄] at hreported'
    exact Or.inl ⟨htyped, t, _, w₅, perform_apply_of_enabled henabled hensure hstart hstages hreport,
      hready.brings hoptions hreported hreported'⟩
  · refine Or.inr ⟨huntyped, ?_⟩
    cases hreport : (f.client.reportOutcome f.statusRetry f.trackerName (some e)).run.run w₄' with
    | mk report w₅ =>
        have happly := perform_apply_of_enabled henabled hensure hstart hstages hreport
        have hsingle := (Stages.failsByName_run _ _ f.stages _ _ e hstages).single
        have hmem : .error e ∈ [.ok (), .error e, report] := List.mem_cons_of_mem _ List.mem_cons_self
        obtain ⟨failure, hresult⟩ := Failure.exists_error_of_mem hmem hsingle
        rw [hresult] at happly
        exact ⟨failure, _, happly⟩

/-- Applying is idempotent. A feature that is enabled and whose steps yield the same objects both times, whatever they
are, has succeeded the first time, in a cluster that refuses no status write. Then it succeeds the second time,
whatever it remembers of the first: no object and no tracker is created, objects that are not managed are left as they
are, the others are left with new versions, and of the trackers only that of the feature changes, in its status and
version. -/
theorem apply_idempotent (hclient : f.client = Scene.client) (hquiet : w.store.pendingConflicts = 0)
    (hyields : f.Yields p w objects) {p₁ : Progress} {w₁ : Scene E}
    (hfirst : perform f.apply (p, w) = (.ok (), p₁, w₁)) {p' : Progress} {w' : Scene E}
    (hsame : w'.store = w₁.store) (hagain : f.Yields p' w' objects) :
    ∃ p₂ w₂, perform f.apply (p', w') = (.ok (), p₂, w₂) ∧
      w₁.store.Refreshes f.trackerName w₂.store := by
  rcases perform_apply_of_yields hclient hquiet hyields with
    ⟨htyped, t, _, _, happly, hbrings⟩ | ⟨-, e, s, hfails⟩
  · cases happly.symm.trans hfirst
    rcases perform_apply_of_yields hclient (hsame ▸ hbrings.quiet) hagain with
      ⟨-, t', p₂, w₂, hsecond, hbrings'⟩ | ⟨⟨o, ho, hnot⟩, -⟩
    · exact ⟨p₂, w₂, hsecond, hbrings.refreshes (hsame ▸ hbrings')⟩
    · exact absurd (htyped o ho) hnot
  · cases hfails.symm.trans hfirst

/-! ### Objects with one place -/

namespace SharedPlace

/-- A configuration that is replaced at every run, or not. -/
def config (name value : String) (managed : Bool) : Object where
  types := some ⟨"v1", "ConfigMap"⟩
  metadata := {
    name := some name
    space := some "svc"
    annotations := if managed then some [(Object.managedAnnotation, "true")] else none }
  data := [("value", .string value)]

def early : List Object := [config "routes" "old" true]

def late : List Object := [config "routes" "new" true, config "listeners" "all" false]

/-- A feature that applies a configuration in two versions. -/
def mesh : Feature (StateM (Scene Unit)) where
  name := "mesh"
  space := "svc"
  managed := false
  source := {}
  client := Scene.client
  enabled := fun _ _ => pure true
  stages := {
    resources := [fun c => onCluster (c.applyEach early)]
    manifests := [.raw "mesh.yaml" false late] }
  renderer := { engine := fun _ => throw (.action "no overlays") }
  owner := none
  statusRetry := Backoff.statusUpdate

theorem yields (p : Progress) (w : Scene Unit) : mesh.Yields p w (early ++ late) where
  enabled := ⟨w, rfl, rfl⟩
  steps {w₁ w₂ w₃ t options start} _ _ _ hoptions := by
    obtain ⟨outcome, w₄, hrun, happlies⟩ :=
      Scene.appliesInTurn_applyEach (mesh.context (some t)) early w₃
    have hstep : perform (onCluster ((mesh.context (some t)).applyEach early)) (p.data, w₃) =
        (outcome, p.data, w₄) := by
      rw [perform_onCluster, hrun]
    have hobjects : ((Manifest.raw "mesh.yaml" false late).objects p.data mesh.renderer.engine
        mesh.renderer.transforms).run.run w₄ = (.ok late, w₄) := rfl
    obtain ⟨outcome', w₅, hmanifest, happlies'⟩ :=
      Scene.appliesInTurn_applyManifest hoptions rfl hobjects rfl
    exact ⟨(p.data, w₅), .next hstep happlies (.next hmanifest happlies' (.done _))⟩

def scene : Scene Unit := ⟨{}, .empty, ()⟩

/-- The second time, the old configuration is applied over the new one, and then the new one again. -/
theorem settles : ∃ s₁ s₂, perform mesh.apply ({}, scene) = (.ok (), s₁) ∧
    perform mesh.apply s₁ = (.ok (), s₂) ∧ s₁.2.store.count "ConfigMap" = 2 ∧
    s₁.2.store.Refreshes mesh.trackerName s₂.2.store := by
  have htyped : ∀ o ∈ early ++ late, o.IsTyped := by
    intro o ho
    simp only [early, late, List.cons_append, List.nil_append, List.mem_cons, List.not_mem_nil,
      or_false] at ho
    rcases ho with rfl | rfl | rfl <;> exact ⟨_, rfl⟩
  have hcount : (perform mesh.apply ({}, scene)).2.2.store.count "ConfigMap" = 2 := by decide +kernel
  rcases perform_apply_of_yields rfl rfl (yields {} scene) with
    ⟨-, t, p₁, w₁, hfirst, -⟩ | ⟨⟨o, ho, hnot⟩, -⟩
  · obtain ⟨p₂, w₂, hsecond, hrefreshes⟩ :=
      apply_idempotent rfl rfl (yields {} scene) hfirst rfl (yields p₁ w₁)
    rw [hfirst] at hcount
    exact ⟨(p₁, w₁), (p₂, w₂), hfirst, hsecond, hcount, hrefreshes⟩
  · exact absurd (htyped o ho) hnot

end SharedPlace

end Feature

end Provision

import Mathlib.Data.List.Forall2
import Provision.Proofs.Handler.Order

/-!
What a handler makes of the output of an overlay. A transform touches the namespace and the labels of an object and
nothing else, and it drops no label. The transforms of a handler come after those of a definition, whatever these are,
so the namespace of the handler and the labels of its component are what is left in the end.
-/

namespace Provision

/-! ### What transforms leave alone -/

namespace Object

/-- The labels of an object. -/
def labels (o : Object) : Keyed String String :=
  o.metadata.labels.getD []

/-- An object but for its namespace and its labels. -/
def core (o : Object) : Object :=
  { o with metadata := { o.metadata with space := none, labels := none } }

theorem kind_core (o : Object) : o.core.kind = o.kind := rfl

theorem kind_eq_of_core {o o' : Object} (hcore : o'.core = o.core) : o'.kind = o.kind := by
  rw [← kind_core o', hcore, kind_core]

end Object

namespace Transform

/-- One object can come of another by transforms: only the namespace and the labels differ, the namespace only if the
kind lives in namespaces, and no label is gone. -/
structure Spares (o o' : Object) : Prop where
  core : o'.core = o.core
  outside : ResourceType.isClusterScoped o.kind → o'.metadata.space = o.metadata.space
  keys : ∀ key, Keyed.contains o.labels key → Keyed.contains o'.labels key

namespace Spares

variable {o o' o'' : Object}

theorem refl (o : Object) : Spares o o where
  core := rfl
  outside _ := rfl
  keys _ hkey := hkey

theorem trans (hfirst : Spares o o') (hsecond : Spares o' o'') : Spares o o'' where
  core := hsecond.core.trans hfirst.core
  outside hscoped := by
    have hscoped' : ResourceType.isClusterScoped o'.kind := by rwa [Object.kind_eq_of_core hfirst.core]
    exact (hsecond.outside hscoped').trans (hfirst.outside hscoped)
  keys key hkey := hsecond.keys key (hfirst.keys key hkey)

end Spares

theorem labels_addLabels (labels : Keyed String String) (o : Object) :
    ((addLabels labels).apply o).labels = Keyed.union o.labels labels := rfl

theorem apply_setSpace_of_scoped {o : Object} (space : String) (hscoped : ResourceType.isClusterScoped o.kind) :
    (setSpace space).apply o = o :=
  if_pos hscoped

theorem apply_setSpace_of_not {o : Object} (space : String) (hnot : ¬ ResourceType.isClusterScoped o.kind) :
    (setSpace space).apply o = { o with metadata := { o.metadata with space := some space } } :=
  if_neg hnot

/-- The step lemma: one transform. -/
theorem spares_apply (t : Transform) (o : Object) : Spares o (t.apply o) := by
  cases t with
  | setSpace space =>
      by_cases hscoped : ResourceType.isClusterScoped o.kind
      · rw [apply_setSpace_of_scoped space hscoped]
        exact .refl o
      · rw [apply_setSpace_of_not space hscoped]
        exact ⟨rfl, fun h => absurd h hscoped, fun _ hkey => hkey⟩
  | addLabels labels =>
      refine ⟨rfl, fun _ => rfl, fun key hkey => ?_⟩
      rw [labels_addLabels]
      exact Keyed.contains_union labels hkey

/-- The run lemma: any number of transforms. -/
theorem spares_applyAll (ts : List Transform) (o : Object) : Spares o (applyAll ts o) := by
  induction ts generalizing o with
  | nil => exact .refl o
  | cons t rest ih => exact (t.spares_apply o).trans (ih (t.apply o))

theorem applyAll_append (ts us : List Transform) (o : Object) :
    applyAll (ts ++ us) o = applyAll us (applyAll ts o) :=
  List.foldl_append

/-! ### The labels of a component -/

/-- Both labels of a component are on what they are put on, whatever labels there were. -/
theorem get?_componentLabels (component : String) (o : Object) :
    Keyed.get? ((componentLabels component).apply o).labels ("app.platform.dev/" ++ component) = some "true" ∧
      Keyed.get? ((componentLabels component).apply o).labels "app.kubernetes.io/part-of" = some component := by
  have hne : "app.platform.dev/" ++ component ≠ "app.kubernetes.io/part-of" := by
    intro heq
    have hlists := congrArg String.toList heq
    rw [String.toList_append] at hlists
    simp at hlists
  have hnodup : ([("app.platform.dev/" ++ component, "true"), ("app.kubernetes.io/part-of", component)].map
      Prod.fst).Nodup := by
    simpa using hne
  have hfound : ∀ entry ∈ [("app.platform.dev/" ++ component, "true"), ("app.kubernetes.io/part-of", component)],
      Keyed.get? ((componentLabels component).apply o).labels entry.1 = some entry.2 := by
    intro entry hentry
    rw [componentLabels, labels_addLabels, Keyed.union]
    exact Keyed.get?_foldl_insert_of_mem (Keyed.sorted_ofList _).nodup_keys ((Keyed.mem_ofList_iff hnodup).mpr hentry)
  exact ⟨hfound _ List.mem_cons_self, hfound _ (List.mem_cons_of_mem _ List.mem_cons_self)⟩

end Transform

/-! ### The transforms of a handler -/

namespace Handler

section Transforms

variable {m : Type → Type} {h : Handler m}

/-- What a handler makes of an object: whatever transforms spare is spared; the object is in the namespace of the handler
if its kind lives in namespaces, and it has the labels of the component if there is one. -/
structure Enriches (h : Handler m) (o o' : Object) : Prop extends Transform.Spares o o' where
  placed : ¬ ResourceType.isClusterScoped o.kind → o'.metadata.space = some h.space
  marked : h.source.kind = .component →
    Keyed.get? o'.labels ("app.platform.dev/" ++ h.source.name) = some "true" ∧
      Keyed.get? o'.labels "app.kubernetes.io/part-of" = some h.source.name

theorem transforms_of_component (hkind : h.source.kind = .component) :
    h.transforms = [.setSpace h.space, .componentLabels h.source.name] := by
  rw [transforms, hkind]

theorem transforms_of_not (hkind : h.source.kind ≠ .component) : h.transforms = [.setSpace h.space] := by
  rw [transforms]
  split
  · contradiction
  · rfl

/-- The transforms of a handler put an object into its namespace. -/
theorem space_transforms (h : Handler m) {o : Object} (hnot : ¬ ResourceType.isClusterScoped o.kind) :
    (Transform.applyAll h.transforms o).metadata.space = some h.space := by
  have hplaced : ((Transform.setSpace h.space).apply o).metadata.space = some h.space := by
    rw [Transform.apply_setSpace_of_not h.space hnot]
  by_cases hkind : h.source.kind = .component
  · rw [transforms_of_component hkind]
    exact hplaced
  · rw [transforms_of_not hkind]
    exact hplaced

/-- After any transforms, those of a handler have the last word. -/
theorem enriches_applyAll (h : Handler m) (ts : List Transform) (o : Object) :
    h.Enriches o (Transform.applyAll (ts ++ h.transforms) o) where
  toSpares := Transform.spares_applyAll (ts ++ h.transforms) o
  placed hnot := by
    -- The kind that decides is still the one that was parsed.
    have hkind := Object.kind_eq_of_core (Transform.spares_applyAll ts o).core
    rw [Transform.applyAll_append]
    exact h.space_transforms (by rwa [hkind])
  marked hkind := by
    -- The labels of the component are put on last, so nothing is put over them.
    rw [Transform.applyAll_append, transforms_of_component hkind]
    exact Transform.get?_componentLabels h.source.name _

end Transforms

/-! ### The features of a handler -/

variable {S : Type} {around : Surroundings (StateM S)} {h : Handler (StateM S)}

theorem transforms_of_create {d : Definition (StateM S)} {f : Feature (StateM S)} {w w' : S}
    (hmade : (d.create around).run.run w = (.ok f, w')) : f.renderer.transforms = d.transforms := by
  obtain ⟨space, _, -, hmanifests⟩ := exists_of_run_bind_ok hmade
  obtain ⟨manifests, _, -, hclient⟩ := exists_of_run_bind_ok hmanifests
  obtain ⟨client, _, -, hdone⟩ := exists_of_run_bind_ok hclient
  cases hdone
  rfl

/-- Every feature that is made is made of one of the definitions. -/
theorem exists_create_of_mem {definitions : List (Definition (StateM S))} {failures : List Failure}
    {made : List (Feature (StateM S))} {f : Feature (StateM S)} {w w' : S}
    (hrun : (createEach around definitions).run w = ((failures, made), w')) (hf : f ∈ made) :
    ∃ d ∈ definitions, ∃ w₁ w₂, (d.create around).run.run w₁ = (.ok f, w₂) := by
  induction definitions generalizing failures made w w' with
  | nil =>
      cases hrun
      exact absurd hf List.not_mem_nil
  | cons d rest ih =>
      rw [run_createEach_cons] at hrun
      cases hfirst : (d.create around).run.run w with
      | mk outcome w₁ =>
          rw [hfirst] at hrun
          cases hrest : (createEach around rest).run w₁ with
          | mk others w₂ =>
              obtain ⟨otherFailures, others⟩ := others
              simp only [hrest] at hrun
              have hlater : f ∈ others → ∃ d' ∈ d :: rest, ∃ w₁ w₂, (d'.create around).run.run w₁ = (.ok f, w₂) := by
                intro hin
                obtain ⟨d', hd', hmade⟩ := ih hrest hin
                exact ⟨d', List.mem_cons_of_mem d hd', hmade⟩
              cases outcome with
              | error e =>
                  cases hrun
                  exact hlater hf
              | ok first =>
                  cases hrun
                  rcases List.mem_cons.mp hf with rfl | hin
                  · exact ⟨d, List.mem_cons_self, w, w₁, hfirst⟩
                  · exact hlater hin

/-- A feature of a handler has the transforms of a registered definition and after them those of the handler. -/
theorem transforms_of_features {features : List (Feature (StateM S))} {f : Feature (StateM S)} {w w' : S}
    (hfeatures : (h.features around).run.run w = (.ok features, w')) (hf : f ∈ features) :
    ∃ registry, Registry.collect h.providers = .ok registry ∧
      ∃ d ∈ registry, f.renderer.transforms = d.transforms ++ h.transforms := by
  obtain ⟨registry, _, hregistry, hrest⟩ := exists_of_run_bind_ok hfeatures
  refine ⟨registry, (of_run_liftM_ok hregistry).1, ?_⟩
  split at hrest
  · cases hrest
    exact absurd hf List.not_mem_nil
  · obtain ⟨client, _, -, hcreate⟩ := exists_of_run_bind_ok hrest
    obtain ⟨⟨failures, made⟩, _, hmade, hchecked⟩ := exists_of_run_bind_ok hcreate
    obtain ⟨_, _, -, hdone⟩ := exists_of_run_bind_ok hchecked
    cases hdone
    obtain ⟨adopted, hadopted, _, _, hmade'⟩ := exists_create_of_mem (of_run_lift_ok hmade) hf
    obtain ⟨d, hd, rfl⟩ := List.mem_map.mp hadopted
    exact ⟨d, hd, transforms_of_create hmade'⟩

/-! ### The output of an overlay -/

theorem exists_parsed_of_enrich {transforms : List Transform} {path output : String} {objects : List Object}
    (henriched : Manifest.enrich transforms path output = .ok objects) :
    ∃ parsed, Manifest.parseObjects path output = .ok parsed ∧
      objects = parsed.map (Transform.applyAll transforms) := by
  obtain ⟨parsed, hparsed, hchecks⟩ := except_bind_eq_ok_iff.mp henriched
  obtain ⟨_, -, hall⟩ := except_bind_eq_ok_iff.mp hchecks
  cases hall
  exact ⟨parsed, hparsed, rfl⟩

/-- What an overlay yields that can be rendered: the engine built its directory, and the objects are those in the output,
in order, after all transforms. -/
theorem exists_output_of_render {data : DataBag} {engine : OverlayEngine (StateM S)} {transforms : List Transform}
    {path : String} {files : Files} {rendered : Rendered} {w w' : S}
    (hrender : ((Manifest.overlay path files).render data engine transforms).run.run w = (.ok rendered, w')) :
    ∃ dir output parsed, Manifest.overlayDir path files = .ok dir ∧ (engine dir).run.run w = (.ok output, w') ∧
      Manifest.parseObjects path output = .ok parsed ∧
      rendered.objects = parsed.map (Transform.applyAll transforms) := by
  obtain ⟨objects, _, hobjects, hdone⟩ := exists_of_run_bind_ok hrender
  cases hdone
  obtain ⟨dir, _, hdir, hbuilds⟩ := exists_of_run_bind_ok hobjects
  obtain ⟨output, _, houtput, henriches⟩ := exists_of_run_bind_ok hbuilds
  obtain ⟨hoverlay, rfl⟩ := of_run_liftM_ok hdir
  obtain ⟨henriched, rfl⟩ := of_run_liftM_ok henriches
  obtain ⟨parsed, hparsed, hall⟩ := exists_parsed_of_enrich henriched
  exact ⟨dir, output, parsed, hoverlay, houtput, hparsed, hall⟩

/-- A handler enriches what overlays yield. Its features are made of registered definitions, and their transforms are
those of the definition, whatever these are, and then its own. Of every overlay that a feature can render, whatever the
engine makes of the directory, the objects are those in the output, in order and each enriched by the handler. -/
theorem enriches_overlays {features : List (Feature (StateM S))} {f : Feature (StateM S)} {w w' : S}
    (hfeatures : (h.features around).run.run w = (.ok features, w')) (hf : f ∈ features) :
    (∃ registry, Registry.collect h.providers = .ok registry ∧
      ∃ d ∈ registry, f.renderer.transforms = d.transforms ++ h.transforms) ∧
    ∀ (data : DataBag) (engine : OverlayEngine (StateM S)) (path : String) (files : Files) (rendered : Rendered)
      (w₁ w₂ : S),
      ((Manifest.overlay path files).render data engine f.renderer.transforms).run.run w₁ = (.ok rendered, w₂) →
      ∃ dir output parsed, Manifest.overlayDir path files = .ok dir ∧ (engine dir).run.run w₁ = (.ok output, w₂) ∧
        Manifest.parseObjects path output = .ok parsed ∧ List.Forall₂ h.Enriches parsed rendered.objects := by
  obtain ⟨registry, hregistry, d, hd, htransforms⟩ := transforms_of_features hfeatures hf
  refine ⟨⟨registry, hregistry, d, hd, htransforms⟩, ?_⟩
  intro data engine path files rendered w₁ w₂ hrender
  obtain ⟨dir, output, parsed, hdir, houtput, hparsed, hobjects⟩ := exists_output_of_render hrender
  refine ⟨dir, output, parsed, hdir, houtput, hparsed, ?_⟩
  rw [hobjects, htransforms, List.forall₂_map_right_iff, List.forall₂_same]
  intro o _
  exact h.enriches_applyAll d.transforms o

/-! ### A definition that sets other values -/

namespace OtherValues

/-- A directory with an overlay. -/
def files : Files :=
  .disk "fs" (.dir [("fs", .dir [("mesh", .dir [("kustomization.yaml", .file [])])])])

/-- Builds an object with a namespace and a label, and one of a kind outside all namespaces. -/
def engine : OverlayEngine (StateM Unit) := fun _ =>
  pure ("apiVersion: v1\nkind: Secret\nmetadata:\n  name: token\n  namespace: other\n  labels:\n    tier: edge\n" ++
    "---\napiVersion: v1\nkind: Namespace\nmetadata:\n  name: svc\n")

/-- A definition that wants another namespace, and another value for a label of the component. -/
def gateway : Definition (StateM Unit) where
  name := "gateway"
  transforms := [.setSpace "elsewhere", .addLabels [("app.kubernetes.io/part-of", "other")]]

def surroundings : Surroundings (StateM Unit) where
  standardClient _ := throw (.action "no cluster")
  clientAt _ _ := throw (.action "no cluster")
  runProgram _ _ := throw "no programs"

/-- A component. -/
def handler : Handler (StateM Unit) where
  space := "svc"
  source := ⟨.component, "mesh"⟩
  providers := [Registry.add [gateway]]
  connection := .client (.ofRequests fun _ => throw (.action "no cluster"))

/-- The namespaces and labels that the only feature makes of the output. -/
def enriched? : Option (List (Option String × Keyed String String)) :=
  match (handler.features surroundings).run.run () with
  | (.ok [f], _) =>
    match ((Manifest.overlay "mesh" files).render [] engine f.renderer.transforms).run.run () with
    | (.ok rendered, _) => some (rendered.objects.map fun o => (o.metadata.space, o.labels))
    | _ => none
  | _ => none

/-- The namespaces and labels that they should have. -/
def expected : List (Option String × Keyed String String) :=
  [(some "svc", [("app.kubernetes.io/part-of", "mesh"), ("app.platform.dev/mesh", "true"), ("tier", "edge")]),
    (none, [("app.kubernetes.io/part-of", "mesh"), ("app.platform.dev/mesh", "true")])]

/-- The namespace and the labels of the handler are what is left, and the other label stays. -/
theorem handler_has_last_word : ∃ f rendered, (handler.features surroundings).run.run () = (.ok [f], ()) ∧
    ((Manifest.overlay "mesh" files).render [] engine f.renderer.transforms).run.run () = (.ok rendered, ()) ∧
    rendered.objects.map (fun o => (o.metadata.space, o.labels)) = expected ∧
    ∃ dir output parsed, Manifest.overlayDir "mesh" files = .ok dir ∧ (engine dir).run.run () = (.ok output, ()) ∧
      Manifest.parseObjects "mesh" output = .ok parsed ∧ List.Forall₂ handler.Enriches parsed rendered.objects := by
  have henriched : enriched? = some expected := by decide +kernel
  unfold enriched? at henriched
  split at henriched
  · next f _ hfeatures =>
      split at henriched
      · next rendered _ hrender =>
          exact ⟨f, rendered, hfeatures, hrender, Option.some.inj henriched,
            (enriches_overlays hfeatures List.mem_cons_self).2 [] engine "mesh" files rendered () () hrender⟩
      · cases henriched
  · cases henriched

end OtherValues

end Handler
end Provision

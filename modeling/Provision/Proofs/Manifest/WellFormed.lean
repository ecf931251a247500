import Provision.Manifest.Render
import Provision.Proofs.Failures
import Provision.Proofs.Feature.Perform

/-!
Rendered objects are well-formed: they say their type, they have a name, and they have a namespace if their kind
wants one. Objects as written are checked when they are loaded, those of a template when it is rendered, and
those of an overlay after all transforms, which may give an object another namespace but leave it its type and
its name.
-/

namespace Provision

namespace Object

/-- An object that a document can describe: it says its type and has a name. -/
structure Described (o : Object) : Prop where
  typed : o.types ≠ none
  named : ∃ name, o.metadata.name = some name ∧ name ≠ ""

/-- An object of a kind that lives in namespaces has one. -/
def Placed (o : Object) : Prop :=
  ¬ ResourceType.isClusterScoped o.kind → ∃ space, o.metadata.space = some space ∧ space ≠ ""

/-- An object that can be sent to a cluster. -/
structure WellFormed (o : Object) : Prop extends o.Described where
  placed : o.Placed

variable {o : Object}

theorem hasSpace_iff : o.hasSpace ↔ ∃ space, o.metadata.space = some space ∧ space ≠ "" := by
  unfold hasSpace
  cases o.metadata.space <;> simp

/-- The check of the namespace finds the objects that lack one. -/
theorem checkSpace_eq_ok_iff (path : String) : o.checkSpace path = .ok () ↔ o.Placed := by
  unfold checkSpace Placed
  rw [← hasSpace_iff]
  cases o.hasSpace <;> cases ResourceType.isClusterScoped o.kind <;> simp

end Object

/-! ### Transforms -/

namespace Transform

variable {o : Object}

/-- A transform changes no type and no name. -/
theorem described_apply (t : Transform) (hdescribed : o.Described) : (t.apply o).Described := by
  cases t with
  | addLabels labels => exact ⟨hdescribed.typed, hdescribed.named⟩
  | setSpace space =>
      rw [apply]
      split
      · exact hdescribed
      · exact ⟨hdescribed.typed, hdescribed.named⟩

theorem described_applyAll (ts : List Transform) (hdescribed : o.Described) :
    (applyAll ts o).Described := by
  induction ts generalizing o with
  | nil => exact hdescribed
  | cons t rest ih => exact ih (t.described_apply hdescribed)

end Transform

namespace Manifest

variable {path content : String} {objects : List Object} {o : Object}

/-! ### Documents -/

/-- A document without content describes nothing; any other describes the object that is read from its value. -/
theorem exists_value_of_objectOfDocument {document : String} {found : Option Object}
    (hdocument : objectOfDocument document = .ok found) : ∃ value, Yaml.toJson document = .ok value ∧
      ((value.isNull = true ∧ found = none) ∨
        ∃ o, value.isNull = false ∧ found = some o ∧ Object.read value = .ok o ∧ o.Described) := by
  obtain ⟨value, hmapped, hvalue⟩ := except_bind_eq_ok_iff.mp hdocument
  refine ⟨value, (except_mapError_eq_ok_iff _ _).mp hmapped, ?_⟩
  split at hvalue
  · next hnull =>
      cases hvalue
      exact Or.inl ⟨hnull, rfl⟩
  · next hnull =>
      obtain ⟨o, hread, hchecked⟩ := except_bind_eq_ok_iff.mp hvalue
      refine Or.inr ⟨o, Bool.not_eq_true _ ▸ hnull, ?_⟩
      by_cases htypes : o.types = none
      · simp only [htypes, Option.isNone_none, if_true] at hchecked
        cases hchecked
      · by_cases hname : o.metadata.name.getD "" = ""
        · simp only [Option.isNone_iff_eq_none, htypes, hname, if_true, if_false] at hchecked
          cases hchecked
        · simp only [Option.isNone_iff_eq_none, htypes, hname, if_false] at hchecked
          cases hchecked
          refine ⟨rfl, (except_mapError_eq_ok_iff _ _).mp hread, htypes, ?_⟩
          cases hfound : o.metadata.name with
          | none => simp [hfound] at hname
          | some name => exact ⟨name, rfl, by simpa [hfound] using hname⟩

/-- A document that describes an object says its type and its name. -/
theorem described_of_objectOfDocument {document : String}
    (hdocument : objectOfDocument document = .ok (some o)) : o.Described := by
  obtain ⟨_, -, hcase⟩ := exists_value_of_objectOfDocument hdocument
  rcases hcase with ⟨-, hnone⟩ | ⟨read, -, hsome, -, hdescribed⟩
  · cases hnone
  · cases hsome
    exact hdescribed

/-- Every object of a text is described by one of its documents. -/
theorem exists_document_of_mem {index : Nat} {documents : List String}
    (hobjects : objectsFrom path index documents = .ok objects) (ho : o ∈ objects) :
    ∃ document ∈ documents, objectOfDocument document = .ok (some o) := by
  induction documents generalizing index objects with
  | nil =>
      cases hobjects
      exact absurd ho List.not_mem_nil
  | cons document rest ih =>
      rw [objectsFrom] at hobjects
      obtain ⟨found, hmapped, hrest⟩ := except_bind_eq_ok_iff.mp hobjects
      obtain ⟨others, hothers, hall⟩ := except_bind_eq_ok_iff.mp hrest
      have hfound := (except_mapError_eq_ok_iff _ _).mp hmapped
      cases hall
      rcases List.mem_append.mp ho with hfirst | hlater
      · rw [Option.mem_toList] at hfirst
        rw [hfirst] at hfound
        exact ⟨document, List.mem_cons_self, hfound⟩
      · obtain ⟨other, hother, hdocument⟩ := ih hothers hlater
        exact ⟨other, List.mem_cons_of_mem document hother, hdocument⟩

theorem described_of_parseObjects (hobjects : parseObjects path content = .ok objects) (ho : o ∈ objects) :
    o.Described := by
  obtain ⟨document, -, hdocument⟩ := exists_document_of_mem hobjects ho
  exact described_of_objectOfDocument hdocument

theorem placed_of_checkSpaces (hchecked : checkSpaces path objects = .ok ()) (ho : o ∈ objects) :
    o.Placed := by
  induction objects with
  | nil => exact absurd ho List.not_mem_nil
  | cons first rest ih =>
      rw [checkSpaces, List.forM_eq_forM, List.forM_cons] at hchecked
      obtain ⟨_, hfirst, hrest⟩ := except_bind_eq_ok_iff.mp hchecked
      rcases List.mem_cons.mp ho with rfl | hlater
      · exact (Object.checkSpace_eq_ok_iff path).mp hfirst
      · exact ih hrest hlater

theorem wellFormed_of_parseDocuments (hobjects : parseDocuments path content = .ok objects)
    (ho : o ∈ objects) : o.WellFormed := by
  obtain ⟨parsed, hparsed, hchecks⟩ := except_bind_eq_ok_iff.mp hobjects
  obtain ⟨_, hchecked, hall⟩ := except_bind_eq_ok_iff.mp hchecks
  cases hall
  exact ⟨described_of_parseObjects hparsed ho, placed_of_checkSpaces hchecked ho⟩

/-- The objects of an overlay are checked as the transforms leave them. -/
theorem wellFormed_of_enrich {transforms : List Transform} {output : String}
    (hobjects : enrich transforms path output = .ok objects) (ho : o ∈ objects) : o.WellFormed := by
  obtain ⟨parsed, hparsed, hchecks⟩ := except_bind_eq_ok_iff.mp hobjects
  obtain ⟨_, hchecked, hall⟩ := except_bind_eq_ok_iff.mp hchecks
  cases hall
  obtain ⟨written, hwritten, rfl⟩ := List.mem_map.mp ho
  have hdescribed := described_of_parseObjects hparsed hwritten
  exact ⟨Transform.described_applyAll transforms hdescribed, placed_of_checkSpaces hchecked ho⟩

theorem wellFormed_of_renderTemplate {data : DataBag}
    (hobjects : renderTemplate data path content = .ok objects) (ho : o ∈ objects) : o.WellFormed := by
  unfold renderTemplate at hobjects
  split at hobjects
  · exact wellFormed_of_parseDocuments hobjects ho
  · cases hobjects

/-! ### Loading -/

/-- What a manifest holds as written is well-formed. -/
def Sound : Manifest → Prop
  | raw _ _ objects => ∀ o ∈ objects, o.WellFormed
  | template _ _ _ => True
  | overlay _ _ => True

theorem sound_of_ofFile {file : String} {man : Manifest} (hman : ofFile file content = .ok man) :
    man.Sound := by
  unfold ofFile at hman
  split at hman
  · cases hman
    trivial
  · cases hparsed : parseDocuments file content with
    | error f =>
        rw [hparsed] at hman
        cases hman
    | ok objects =>
        rw [hparsed] at hman
        cases hman
        exact fun o ho => wellFormed_of_parseDocuments hparsed ho

theorem sound_of_loadFiles {files : Files} {roots loaded found : List String} {manifests : List Manifest}
    (hload : loadFiles files roots loaded found = .ok manifests) : ∀ man ∈ manifests, man.Sound := by
  induction found generalizing loaded manifests with
  | nil =>
      cases hload
      simp
  | cons file rest ih =>
      rw [loadFiles] at hload
      split at hload
      · next root _ =>
          split at hload
          · exact ih hload
          · cases hrest : loadFiles files roots (root :: loaded) rest with
            | error f =>
                rw [hrest] at hload
                cases hload
            | ok others =>
                rw [hrest] at hload
                cases hload
                exact List.forall_mem_cons.mpr ⟨trivial, ih hrest⟩
      · obtain ⟨content, -, hfile⟩ := except_bind_eq_ok_iff.mp hload
        obtain ⟨man, hman, hothers⟩ := except_bind_eq_ok_iff.mp hfile
        obtain ⟨others, hrest, hall⟩ := except_bind_eq_ok_iff.mp hothers
        cases hall
        exact List.forall_mem_cons.mpr ⟨sound_of_ofFile hman, ih hrest⟩

theorem sound_of_load {files : Files} {manifests : List Manifest}
    (hload : load files path = .ok manifests) : ∀ man ∈ manifests, man.Sound := by
  obtain ⟨normal, -, hpath⟩ := except_bind_eq_ok_iff.mp hload
  by_cases hthere : files.contains normal
  · simp only [hthere, Bool.not_true, Bool.false_eq_true, if_false] at hpath
    obtain ⟨found, -, hfound⟩ := except_bind_eq_ok_iff.mp hpath
    exact sound_of_loadFiles hfound
  · simp only [hthere, Bool.not_false, if_true] at hpath
    cases hpath

/-! ### Rendering -/

section Rendering

variable {S : Type} {data : DataBag} {engine : OverlayEngine (StateM S)} {transforms : List Transform}
  {man : Manifest} {w w' : S}

theorem wellFormed_of_objects (hsound : man.Sound)
    (hobjects : (man.objects data engine transforms).run.run w = (.ok objects, w')) (ho : o ∈ objects) :
    o.WellFormed := by
  cases man with
  | raw path patch written =>
      cases hobjects
      exact hsound o ho
  | template path patch content =>
      exact wellFormed_of_renderTemplate (congrArg Prod.fst hobjects) ho
  | overlay path files =>
      obtain ⟨dir, _, -, hbuilds⟩ := exists_of_run_bind_ok hobjects
      obtain ⟨output, _, -, henriches⟩ := exists_of_run_bind_ok hbuilds
      exact wellFormed_of_enrich (congrArg Prod.fst henriches) ho

/-- Whatever a loaded manifest is rendered with, the objects that it yields are well-formed. -/
theorem render_wellFormed {files : Files} {manifests : List Manifest} (hload : load files path = .ok manifests)
    (hman : man ∈ manifests) {rendered : Rendered}
    (hrender : (man.render data engine transforms).run.run w = (.ok rendered, w')) :
    ∀ o ∈ rendered.objects, o.WellFormed := by
  intro o ho
  obtain ⟨objects, _, hobjects, hdone⟩ := exists_of_run_bind_ok hrender
  cases hdone
  exact wellFormed_of_objects (sound_of_load hload man hman) hobjects ho

end Rendering

/-! ### An overlay without namespaces -/

namespace Enriched

/-- A directory with an overlay. -/
def files : Files :=
  .disk "fs" (.dir [("fs", .dir [("mesh", .dir [("kustomization.yaml", .file [])])])])

/-- Builds two objects without a namespace; the kind of the second one needs none. -/
def engine : OverlayEngine (StateM Unit) := fun _ =>
  pure "apiVersion: v1\nkind: Secret\nmetadata:\n  name: token\n---\napiVersion: v1\nkind: Namespace\nmetadata:\n  name: svc\n"

def transforms : List Transform := [.setSpace "svc", .componentLabels "mesh"]

/-- The keys of the objects that the only manifest yields. -/
def keys? : Option (List ObjectKey) :=
  match load files "mesh" with
  | .ok [man] =>
    match (man.render [] engine transforms).run.run () with
    | (.ok rendered, _) => some (rendered.objects.map Object.key)
    | _ => none
  | _ => none

/-- The object that needs a namespace gets one before it is checked. -/
theorem token_gets_namespace : ∃ man rendered, load files "mesh" = .ok [man] ∧
    (man.render [] engine transforms).run.run () = (.ok rendered, ()) ∧
    rendered.objects.map Object.key = [⟨some "svc", "token"⟩, ⟨none, "svc"⟩] ∧
    ∀ o ∈ rendered.objects, o.WellFormed := by
  have hkeys : keys? = some [⟨some "svc", "token"⟩, ⟨none, "svc"⟩] := by decide +kernel
  unfold keys? at hkeys
  split at hkeys
  · next man hload =>
      split at hkeys
      · next rendered _ hrender =>
          exact ⟨man, rendered, hload, hrender, Option.some.inj hkeys,
            render_wellFormed hload List.mem_cons_self hrender⟩
      · cases hkeys
  · cases hkeys

end Enriched

end Manifest

end Provision

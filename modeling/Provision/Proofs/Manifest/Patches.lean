import Provision.Cluster.Apply
import Provision.Proofs.Manifest.WellFormed
import Provision.Proofs.Object.NormalForm

/-!
What is sent for the documents of a patch. All members outside the metadata are sent as they are written, null
included. The metadata go through the metadata of an object, which know neither null nor members without a meaning:
a patch cannot ask for the removal of a label or a finalizer.
-/

namespace Provision

namespace Object

/-- Every client that is asked to patch with the object sends `body` to the object's place. -/
def PatchesWith (o : Object) (body : Json) : Prop :=
  ∃ type, o.resourceType = .ok type ∧ ∀ {m : Type → Type} [Monad m] [LawfulMonad m] (client : Client m),
    client.patchObject o = do let _ ← client.mergePatch type o.key body

theorem patchesWith_toJson {o : Object} (htyped : o.types ≠ none) : o.PatchesWith o.toJson := by
  obtain ⟨t, htypes⟩ := Option.ne_none_iff_exists'.mp htyped
  have htype : o.resourceType = .ok (ResourceType.of t.apiVersion t.kind) := by simp [resourceType, htypes]
  refine ⟨_, htype, ?_⟩
  intro m _ _ client
  rw [Client.patchObject, htype]
  exact ExceptT.ext (pure_bind _ _)

/-- A client that notes what it is asked to merge. -/
def noting : Client (StateM (List Json)) where
  get _ _ := pure none
  create _ o := pure o
  replace _ o := pure o
  mergePatch _ _ body := do
    modify (· ++ [body])
    pure {}
  delete _ _ := pure ()
  list _ _ _ := pure []
  getTracker _ := pure none
  createTracker t := pure t
  replaceTrackerStatus t := pure t
  deleteTracker _ := pure ()

/-- An object is sent as one body. -/
theorem PatchesWith.unique {o : Object} {body body' : Json} (hbody : o.PatchesWith body)
    (hbody' : o.PatchesWith body') : body = body' := by
  obtain ⟨type, -, hsent⟩ := hbody
  obtain ⟨type', -, hsent'⟩ := hbody'
  have hnoted := congrArg (fun sending => (sending.run.run []).2) ((hsent noting).symm.trans (hsent' noting))
  exact List.singleton_inj.mp hnoted

end Object

namespace Manifest

/-- What is sent for a document with the value `d`. -/
structure SentFor (d : Json) (o : Object) (body : Json) : Prop where
  sent : o.PatchesWith body
  others : ∀ key, key ≠ "metadata" → body.field? key = d.field? key
  metadata : ∃ written, d.field? "metadata" = some (.object written) ∧
    body.field? "metadata" = some (Metadata.rules.keep (.object written)) ∧
    (∀ key, (Metadata.rules.keep (.object written)).field? key ≠ some .null) ∧
    (body = d ↔ ∀ e ∈ written, Metadata.Survives e)

variable {path content : String} {objects : List Object} {o : Object} {d : Json}

/-- An object with a name is read from a value with metadata. -/
theorem exists_metadata_of_read (hread : Object.read d = .ok o) (hdescribed : o.Described) :
    ∃ fields written, d = .object fields ∧ Keyed.get? fields "metadata" = some (.object written) := by
  obtain ⟨fields, hfields, hmembers⟩ := except_bind_eq_ok_iff.mp hread
  cases d <;> cases hfields
  obtain ⟨m, hm, hrest⟩ := except_bind_eq_ok_iff.mp hmembers
  cases hrest
  obtain ⟨name, hname, -⟩ := hdescribed.named
  cases hfound : Keyed.get? fields "metadata" with
  | none =>
      simp only [Object.readMetadata, hfound] at hm
      cases hm
      cases hname
  | some metadata =>
      simp only [Object.readMetadata, hfound] at hm
      obtain ⟨written, hwritten, -⟩ := except_bind_eq_ok_iff.mp ((except_mapError_eq_ok_iff _ _).mp hm)
      cases metadata <;> cases hwritten
      exact ⟨fields, written, rfl, hfound⟩

theorem sentFor_of_read (hordered : d.Ordered) (hread : Object.read d = .ok o) (hdescribed : o.Described) :
    SentFor d o d.withKeptMetadata := by
  obtain ⟨fields, written, rfl, hmetadata⟩ := exists_metadata_of_read hread hdescribed
  have hsorted := (hordered.member (Keyed.mem_of_get? hmetadata)).sorted
  have hfield : (Json.object fields).field? "metadata" = some (.object written) := hmetadata
  have hwritten : o.toJson = (Json.object fields).withKeptMetadata :=
    Object.toJson_of_read hordered hread hdescribed.typed (by simp [hfield])
  refine ⟨hwritten ▸ Object.patchesWith_toJson hdescribed.typed,
    fun key => Json.field?_withKeptMetadata_of_ne _, written, hfield, ?_, Metadata.field?_keep_ne_null _, ?_⟩
  · rw [Json.field?_withKeptMetadata_metadata, hfield, Option.map_some]
  · rw [Json.withKeptMetadata_eq_self_iff hordered.sorted hmetadata, Metadata.keep_eq_self_iff hsorted]

theorem sentFor_of_objectsFrom {index : Nat} {documents : List String}
    (hobjects : objectsFrom path index documents = .ok objects) :
    ∃ values, documents.mapM Yaml.toJson = .ok values ∧
      List.Forall₂ (fun d o => SentFor d o d.withKeptMetadata) (values.filter fun d => !d.isNull) objects := by
  induction documents generalizing index objects with
  | nil =>
      cases hobjects
      exact ⟨[], rfl, List.Forall₂.nil⟩
  | cons document rest ih =>
      rw [objectsFrom] at hobjects
      obtain ⟨found, hmapped, hothers⟩ := except_bind_eq_ok_iff.mp hobjects
      obtain ⟨others, hrest, hall⟩ := except_bind_eq_ok_iff.mp hothers
      have hfound := (except_mapError_eq_ok_iff _ _).mp hmapped
      cases hall
      obtain ⟨values, hvalues, hsent⟩ := ih hrest
      obtain ⟨d, hd, hcase⟩ := exists_value_of_objectOfDocument hfound
      refine ⟨d :: values, by rw [List.mapM_cons, hd, hvalues]; rfl, ?_⟩
      rcases hcase with ⟨hnull, rfl⟩ | ⟨o, hnull, rfl, hread, hdescribed⟩
      · simpa [hnull] using hsent
      · rw [List.filter_cons_of_pos (by simp [hnull])]
        exact List.Forall₂.cons (sentFor_of_read (Yaml.ordered_toJson hd) hread hdescribed) hsent

/-- For every document of a patch its value is sent, but for the members of the metadata that do not survive. -/
theorem sent_as_written (hobjects : parseDocuments path content = .ok objects) :
    ∃ values, (Yaml.splitDocuments content).mapM Yaml.toJson = .ok values ∧
      List.Forall₂ (fun d o => SentFor d o d.withKeptMetadata) (values.filter fun d => !d.isNull) objects := by
  obtain ⟨parsed, hparsed, hchecks⟩ := except_bind_eq_ok_iff.mp hobjects
  obtain ⟨_, _, hall⟩ := except_bind_eq_ok_iff.mp hchecks
  cases hall
  exact sentFor_of_objectsFrom hparsed

/-! ### A patch that asks for removals -/

namespace Removals

/-- Asks for the removal of a member outside the metadata. -/
def ofSpec : String := "apiVersion: v1\nkind: Namespace\nmetadata:\n  name: svc\nspec: null\n"

/-- Asks for the removal of the finalizers. -/
def ofFinalizers : String := "apiVersion: v1\nkind: Namespace\nmetadata:\n  name: svc\n  finalizers: null\n"

/-- The removal outside the metadata is sent. -/
theorem spec_goes : ∃ objects, parseDocuments "s.patch.yaml" ofSpec = .ok objects ∧ objects.length = 1 ∧
    ∃ values, (Yaml.splitDocuments ofSpec).mapM Yaml.toJson = .ok values ∧
      List.Forall₂ (fun d o => SentFor d o d.withKeptMetadata) (values.filter fun d => !d.isNull) objects := by
  have hlength : (parseDocuments "s.patch.yaml" ofSpec).toOption.map List.length = some 1 := by
    decide +kernel
  obtain ⟨objects, hobjects, hone⟩ := Option.map_eq_some_iff.mp hlength
  have hparsed : parseDocuments "s.patch.yaml" ofSpec = .ok objects := by
    cases hfound : parseDocuments "s.patch.yaml" ofSpec with
    | error f => simp [hfound, Except.toOption] at hobjects
    | ok found =>
        rw [hfound] at hobjects
        cases hobjects
        rfl
  exact ⟨objects, hparsed, hone, sent_as_written hparsed⟩

/-- Whether a value says null for the finalizers. -/
def asks (j : Json) : Option Bool :=
  ((j.field? "metadata").bind fun metadata => metadata.field? "finalizers").map Json.isNull

/-- Whether the only document asks for the removal of the finalizers, and whether the body that is sent does. -/
def asked? : Option (Option Bool × Option Bool) :=
  match (Yaml.splitDocuments ofFinalizers).mapM Yaml.toJson, parseDocuments "s.patch.yaml" ofFinalizers with
  | .ok [d], .ok [o] => some (asks d, asks o.toJson)
  | _, _ => none

/-- The removal of the finalizers is not sent. -/
theorem finalizers_stay : ∃ d o, (Yaml.splitDocuments ofFinalizers).mapM Yaml.toJson = .ok [d] ∧
    parseDocuments "s.patch.yaml" ofFinalizers = .ok [o] ∧ asks d = some true ∧ ¬ o.PatchesWith d := by
  have hasked : asked? = some (some true, none) := by decide +kernel
  unfold asked? at hasked
  split at hasked
  · next d o hd ho =>
      have hpair := Prod.mk.inj (Option.some.inj hasked)
      refine ⟨d, o, hd, ho, hpair.1, ?_⟩
      intro hsent
      have htyped := (wellFormed_of_parseDocuments ho List.mem_cons_self).typed
      have hsame := (Object.patchesWith_toJson htyped).unique hsent
      rw [hsame, hpair.1] at hpair
      cases hpair.2
  · cases hasked

end Removals

end Manifest
end Provision

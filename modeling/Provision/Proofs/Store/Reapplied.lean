import Mathlib.Data.List.Induction
import Mathlib.Tactic.ByContra
import Provision.Proofs.Store.Applied

/-!
Applying the same objects twice. Several of them can have one place, and each may carry the managed annotation or
not. Once an unmanaged object is stored in a place, it stays; so if a managed one is stored in the end, every object
of the place is managed and the last of them was stored. The second time ends in the same way.
-/

namespace Provision

namespace Object

/-- Where a store keeps an object, if the object says its type. -/
def place? (o : Object) : Option StoreKey :=
  match o.resourceType with
  | .ok type => some (.of type o.key)
  | .error _ => none

/-- An object but for its version. -/
def versionless (o : Object) : Object :=
  { o with metadata := { o.metadata with resourceVersion := none } }

theorem type_of_place? {o : Object} {key : StoreKey} (hplace : o.place? = some key) :
    ∃ type, o.resourceType = .ok type ∧ key = .of type o.key := by
  unfold place? at hplace
  cases htype : o.resourceType with
  | error f =>
      rw [htype] at hplace
      cases hplace
  | ok type =>
      rw [htype] at hplace
      cases hplace
      exact ⟨type, rfl, rfl⟩

theorem versionless_eq {o o' : Object} (hcontent : o'.content = o.content)
    (huid : o'.metadata.uid = o.metadata.uid) : o'.versionless = o.versionless := by
  have hrestored : ∀ o : Object, o.versionless =
      { o.content with metadata := { o.content.metadata with uid := o.metadata.uid } } := fun _ => rfl
  rw [hrestored, hrestored, hcontent, huid]

end Object

namespace Store

variable {s : Store} {o live : Object} {key : StoreKey} {docs : List Object}

/-! ### One object -/

theorem get?_applied_of_ne (hplace : o.place? ≠ some key) :
    Keyed.get? (s.applied o).objects key = Keyed.get? s.objects key := by
  rcases s.applied_cases o with hsame | ⟨type, stored, verb, htype, -, hkept⟩
  · rw [hsame]
  · have hne : key ≠ .of type o.key := by
      rintro rfl
      simp only [Object.place?, htype, ne_eq, not_true_eq_false] at hplace
    rw [hkept]
    exact Keyed.get?_insert_of_ne s.objects stored hne

theorem get?_applied_of_absent (hplace : o.place? = some key) (habsent : Keyed.get? s.objects key = none) :
    Keyed.get? (s.applied o).objects key = some (s.newObject o) := by
  obtain ⟨type, htype, rfl⟩ := Object.type_of_place? hplace
  rw [applied_of_absent htype habsent]
  exact Keyed.get?_insert_self s.objects _ _

theorem get?_applied_of_unmanaged (hlive : Keyed.get? s.objects key = some live)
    (hmanaged : ¬ live.isManaged) : Keyed.get? (s.applied o).objects key = some live := by
  by_cases hplace : o.place? = some key
  · obtain ⟨type, htype, rfl⟩ := Object.type_of_place? hplace
    rw [applied_of_unmanaged htype hlive hmanaged]
    exact hlive
  · rw [get?_applied_of_ne hplace]
    exact hlive

theorem get?_applied_of_managed (hplace : o.place? = some key)
    (hlive : Keyed.get? s.objects key = some live) (hmanaged : live.isManaged) :
    Keyed.get? (s.applied o).objects key = some (s.successor live o) := by
  obtain ⟨type, htype, rfl⟩ := Object.type_of_place? hplace
  rw [applied_of_managed htype hlive hmanaged]
  exact Keyed.get?_insert_self s.objects _ _

/-! ### Several objects -/

/-- The objects of a place. -/
def docsAt (key : StoreKey) (docs : List Object) : List Object :=
  docs.filter fun o => o.place? = some key

theorem docsAt_concat_of_eq (hplace : o.place? = some key) :
    docsAt key (docs ++ [o]) = docsAt key docs ++ [o] := by
  simp [docsAt, hplace]

theorem docsAt_concat_of_ne (hplace : o.place? ≠ some key) :
    docsAt key (docs ++ [o]) = docsAt key docs := by
  simp [docsAt, hplace]

/-- Where no object belongs, nothing changes. -/
theorem get?_appliedAll_of_none (hnone : docsAt key docs = []) :
    Keyed.get? (s.appliedAll docs).objects key = Keyed.get? s.objects key := by
  induction docs using List.reverseRecOn with
  | nil => rfl
  | append_singleton front o ih =>
      by_cases hplace : o.place? = some key
      · simp [docsAt_concat_of_eq hplace] at hnone
      · rw [docsAt_concat_of_ne hplace] at hnone
        rw [appliedAll_concat, get?_applied_of_ne hplace, ih hnone]

/-- An unmanaged object stays. -/
theorem get?_appliedAll_of_unmanaged (hlive : Keyed.get? s.objects key = some live)
    (hmanaged : ¬ live.isManaged) : Keyed.get? (s.appliedAll docs).objects key = some live := by
  induction docs using List.reverseRecOn with
  | nil => exact hlive
  | append_singleton front o ih =>
      rw [appliedAll_concat]
      exact get?_applied_of_unmanaged ih hmanaged

/-- A place stays taken. -/
theorem isSome_get?_applied (htaken : (Keyed.get? s.objects key).isSome) :
    (Keyed.get? (s.applied o).objects key).isSome := by
  obtain ⟨live, hlive⟩ := Option.isSome_iff_exists.mp htaken
  by_cases hplace : o.place? = some key
  · by_cases hmanaged : live.isManaged
    · rw [get?_applied_of_managed hplace hlive hmanaged]
      rfl
    · rw [get?_applied_of_unmanaged hlive hmanaged]
      rfl
  · rw [get?_applied_of_ne hplace]
    exact htaken

/-- Where an object belongs, there is one in the end. -/
theorem isSome_get?_appliedAll (hsome : docsAt key docs ≠ []) :
    (Keyed.get? (s.appliedAll docs).objects key).isSome := by
  induction docs using List.reverseRecOn with
  | nil => exact absurd rfl hsome
  | append_singleton front o ih =>
      rw [appliedAll_concat]
      by_cases hplace : o.place? = some key
      · cases hlive : Keyed.get? (s.appliedAll front).objects key with
        | none =>
            rw [get?_applied_of_absent hplace hlive]
            rfl
        | some live =>
            apply isSome_get?_applied
            rw [hlive]
            rfl
      · rw [docsAt_concat_of_ne hplace] at hsome
        exact isSome_get?_applied (ih hsome)

/-- Objects that are all managed take the place of a managed one, one after the other. -/
theorem get?_appliedAll_of_managed (hlive : Keyed.get? s.objects key = some live)
    (hmanaged : live.isManaged) (hdocs : ∀ o ∈ docsAt key docs, o.isManaged) :
    ∃ o, Keyed.get? (s.appliedAll docs).objects key = some o ∧ o.isManaged ∧
      o.metadata.uid = live.metadata.uid ∧
      o.content = ((docsAt key docs).getLast?.getD live).content := by
  induction docs using List.reverseRecOn with
  | nil => exact ⟨live, hlive, hmanaged, rfl, rfl⟩
  | append_singleton front o ih =>
      rw [appliedAll_concat]
      by_cases hplace : o.place? = some key
      · rw [docsAt_concat_of_eq hplace] at hdocs ⊢
        obtain ⟨before, hbefore, hkept, huid, -⟩ := ih fun d hd => hdocs d (List.mem_append_left _ hd)
        refine ⟨_, get?_applied_of_managed hplace hbefore hkept, ?_, huid, ?_⟩
        · exact hdocs o (List.mem_append_right _ List.mem_cons_self)
        · rw [List.getLast?_concat]
          rfl
      · rw [docsAt_concat_of_ne hplace] at hdocs ⊢
        rw [get?_applied_of_ne hplace]
        exact ih hdocs

/-- If a managed object is stored in the end, then all that belong in its place are managed, and it is the last of
them. -/
theorem managed_of_get?_appliedAll (hstored : Keyed.get? (s.appliedAll docs).objects key = some o)
    (hmanaged : o.isManaged) :
    (∀ d ∈ docsAt key docs, d.isManaged) ∧
      ∀ last, (docsAt key docs).getLast? = some last → o.content = last.content := by
  induction docs using List.reverseRecOn generalizing o with
  | nil => simp [docsAt]
  | append_singleton front d ih =>
      rw [appliedAll_concat] at hstored
      by_cases hplace : d.place? = some key
      · rw [docsAt_concat_of_eq hplace, List.getLast?_concat]
        cases hlive : Keyed.get? (s.appliedAll front).objects key with
        | none =>
            -- Nothing was there, so no object before `d` belongs there.
            have hnone : docsAt key front = [] := by
              by_contra hsome
              have htaken := isSome_get?_appliedAll (s := s) hsome
              rw [hlive] at htaken
              cases htaken
            rw [get?_applied_of_absent hplace hlive] at hstored
            cases hstored
            rw [hnone]
            refine ⟨fun e he => ?_, fun last hlast => ?_⟩
            · rw [List.mem_singleton.mp he]
              exact hmanaged
            · cases hlast
              rfl
        | some live =>
            by_cases hkept : live.isManaged
            · rw [get?_applied_of_managed hplace hlive hkept] at hstored
              cases hstored
              refine ⟨fun e he => ?_, fun last hlast => ?_⟩
              · rcases List.mem_append.mp he with hfront | hlast
                · exact (ih hlive hkept).1 e hfront
                · rw [List.mem_singleton.mp hlast]
                  exact hmanaged
              · cases hlast
                rfl
            · rw [get?_applied_of_unmanaged hlive hkept] at hstored
              cases hstored
              exact absurd hmanaged hkept
      · rw [docsAt_concat_of_ne hplace]
        rw [get?_applied_of_ne hplace] at hstored
        exact ih hstored hmanaged

/-! ### Twice -/

section Twice

variable {s' : Store} (hsame : s'.objects = (s.appliedAll docs).objects)

include hsame

/-- The second time, no object is created. -/
theorem get?_reapplied_of_none (habsent : Keyed.get? s'.objects key = none) :
    Keyed.get? (s'.appliedAll docs).objects key = none := by
  have hnone : docsAt key docs = [] := by
    by_contra hsome
    have htaken := isSome_get?_appliedAll (s := s) hsome
    rw [← hsame, habsent] at htaken
    cases htaken
  rw [get?_appliedAll_of_none hnone, habsent]

/-- The second time, every object comes to be what it is, but for its version. -/
theorem get?_reapplied (hstored : Keyed.get? s'.objects key = some o) :
    ∃ o', Keyed.get? (s'.appliedAll docs).objects key = some o' ∧ o'.versionless = o.versionless := by
  by_cases hmanaged : o.isManaged
  · rw [hsame] at hstored
    obtain ⟨hdocs, hlast⟩ := managed_of_get?_appliedAll hstored hmanaged
    rw [← hsame] at hstored
    obtain ⟨o', hfound, -, huid, hcontent⟩ := get?_appliedAll_of_managed hstored hmanaged hdocs
    refine ⟨o', hfound, Object.versionless_eq ?_ huid⟩
    rw [hcontent]
    cases hgetLast : (docsAt key docs).getLast? with
    | none => rfl
    | some last => exact (hlast last hgetLast).symm
  · exact ⟨o, get?_appliedAll_of_unmanaged hstored hmanaged, rfl⟩

end Twice

end Store

end Provision

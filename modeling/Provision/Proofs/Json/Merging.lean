import Provision.Json.Merge
import Provision.Proofs.Json.Ordered

/-!
Merging patches, compared with the algorithm of RFC 7386, which merges an object into anything else as into the empty
object. Merging does what the algorithm does just if the patch fits the target: wherever it has an object for a
place without one, no member of that object is null. Where it does not fit, its nulls stay.
-/

namespace Provision.Json

/-- The members of an object; anything else has none. -/
def members : Json → List (String × Json)
  | object fields => fields
  | _ => []

mutual

/-- The target after a patch by the algorithm of RFC 7386. A patch that is no object takes the target's place. Of an
object, each null member is removed from the target and every other one is merged into the target's member, where a
target that is no object counts as the empty one. -/
def mergePatch (target : Json) : Json → Json
  | object patch => object (patchMembers target.members patch)
  | patch => patch

/-- The members of the target after those of the patch. -/
def patchMembers (target : List (String × Json)) : List (String × Json) → List (String × Json)
  | [] => target
  | (key, value) :: rest =>
    match value with
    | null => patchMembers (Keyed.erase target key) rest
    | value =>
      patchMembers (Keyed.insert target key (mergePatch ((Keyed.get? target key).getD null) value)) rest

end

mutual

/-- No member of an object in the value is null, but for objects inside arrays. -/
def NullFree : Json → Prop
  | object fields => NullFreeMembers fields
  | _ => True

def NullFreeMembers : List (String × Json) → Prop
  | [] => True
  | e :: rest => (e.2 ≠ null ∧ NullFree e.2) ∧ NullFreeMembers rest

end

mutual

/-- Wherever the patch has an object, the target has one as well, or the one in the patch is free of nulls. -/
def Fits : Json → Json → Prop
  | object fields, object patch => FitsMembers fields patch
  | _, patch => NullFree patch

def FitsMembers (target : List (String × Json)) : List (String × Json) → Prop
  | [] => True
  | e :: rest => Fits ((Keyed.get? target e.1).getD null) e.2 ∧ FitsMembers target rest

end

/-- The value that is found by going from member to member. -/
def memberAt? (j : Json) : List String → Option Json
  | [] => some j
  | key :: rest => (j.field? key).bind fun member => memberAt? member rest

/-- The second value has no null, outside of arrays, that the first one does not have. -/
def AddsNoNull (before after : Json) : Prop :=
  ∀ path, after.memberAt? path = some null → before.memberAt? path = some null

theorem nullFreeMembers_iff {fields : List (String × Json)} :
    NullFreeMembers fields ↔ ∀ e ∈ fields, e.2 ≠ null ∧ e.2.NullFree := by
  induction fields with
  | nil => simp [NullFreeMembers]
  | cons e rest ih => simp [NullFreeMembers, ih]

theorem fitsMembers_iff {target patch : List (String × Json)} :
    FitsMembers target patch ↔ ∀ e ∈ patch, Fits ((Keyed.get? target e.1).getD null) e.2 := by
  induction patch with
  | nil => simp [FitsMembers]
  | cons e rest ih => simp [FitsMembers, ih]

/-- A property of all values that an object has if all its members have it. -/
theorem induction_on_members {P : Json → Prop} (hother : ∀ j, (∀ fields, j ≠ object fields) → P j)
    (hobject : ∀ fields, (∀ e ∈ fields, P e.2) → P (object fields)) (j : Json) : P j := by
  match j with
  | object fields => exact hobject fields fun e he => induction_on_members hother hobject e.2
  | null | bool _ | int _ | float _ | string _ | array _ =>
      exact hother _ fun _ heq => by cases heq
termination_by sizeOf j
decreasing_by
  have := List.sizeOf_lt_of_mem he
  obtain ⟨key, value⟩ := e
  simp only [Prod.mk.sizeOf_spec, object.sizeOf_spec] at this ⊢
  omega

/-! ### One member after another -/

section Put

variable {merged : Json → Json → Json} {target patch : List (String × Json)}

/-- One member of a patch is put in: null takes a member away, anything else is merged into what was there. -/
def putMember (merged : Json → Json → Json) (target : List (String × Json)) (e : String × Json) :
    List (String × Json) :=
  match e.2 with
  | null => Keyed.erase target e.1
  | value => Keyed.insert target e.1 (merged ((Keyed.get? target e.1).getD null) value)

/-- What a member becomes, given what the patch says about it. -/
def memberAfter (merged : Json → Json → Json) (old : Option Json) : Option Json → Option Json
  | none => old
  | some null => none
  | some value => some (merged (old.getD null) value)

theorem memberAfter_of_ne {old : Option Json} {value : Json} (hne : value ≠ null) :
    memberAfter merged old (some value) = some (merged (old.getD null) value) := by
  cases value with
  | null => exact absurd rfl hne
  | _ => rfl

theorem mergeFields_eq_foldl (target patch : List (String × Json)) :
    mergeFields target patch = patch.foldl (putMember merge) target := by
  induction patch generalizing target with
  | nil => simp [mergeFields]
  | cons e rest ih =>
      obtain ⟨key, value⟩ := e
      rw [List.foldl_cons, ← ih]
      cases value <;> simp [mergeFields, putMember]

theorem patchMembers_eq_foldl (target patch : List (String × Json)) :
    patchMembers target patch = patch.foldl (putMember mergePatch) target := by
  induction patch generalizing target with
  | nil => simp [patchMembers]
  | cons e rest ih =>
      obtain ⟨key, value⟩ := e
      rw [List.foldl_cons, ← ih]
      cases value <;> simp [patchMembers, putMember]

theorem sorted_putMember (htarget : Keyed.Sorted target) (e : String × Json) :
    Keyed.Sorted (putMember merged target e) := by
  unfold putMember
  split
  · exact htarget.erase _
  · exact htarget.insert _ _

theorem get?_putMember_self (htarget : Keyed.Sorted target) (e : String × Json) :
    Keyed.get? (putMember merged target e) e.1 =
      memberAfter merged (Keyed.get? target e.1) (some e.2) := by
  unfold putMember
  split
  · next hnull =>
      rw [hnull]
      exact htarget.get?_erase_self e.1
  · next hne => rw [Keyed.get?_insert_self, memberAfter_of_ne hne]

theorem get?_putMember_of_ne {e : String × Json} {key : String} (hne : key ≠ e.1) :
    Keyed.get? (putMember merged target e) key = Keyed.get? target key := by
  unfold putMember
  split
  · exact Keyed.get?_erase_of_ne target hne
  · exact Keyed.get?_insert_of_ne target _ hne

theorem sorted_foldl_putMember (htarget : Keyed.Sorted target) (patch : List (String × Json)) :
    Keyed.Sorted (patch.foldl (putMember merged) target) := by
  induction patch generalizing target with
  | nil => exact htarget
  | cons e rest ih => exact ih (sorted_putMember htarget e)

/-- Every member becomes what the patch says about it. -/
theorem get?_foldl_putMember (htarget : Keyed.Sorted target) (hpatch : Keyed.Sorted patch) (key : String) :
    Keyed.get? (patch.foldl (putMember merged) target) key =
      memberAfter merged (Keyed.get? target key) (Keyed.get? patch key) := by
  induction patch generalizing target with
  | nil => rfl
  | cons e rest ih =>
      rw [List.foldl_cons, ih (sorted_putMember htarget e) (List.pairwise_cons.mp hpatch).2]
      obtain ⟨k, value⟩ := e
      by_cases hkey : key = k
      · subst hkey
        rw [hpatch.get?_rest, Keyed.get?_cons_self, get?_putMember_self htarget]
        rfl
      · rw [get?_putMember_of_ne hkey, Keyed.get?_cons_of_ne value rest hkey]

/-- Two ways of merging do the same to an object just if they do the same to every member that the patch names. -/
theorem foldl_putMember_eq_iff {merged' : Json → Json → Json} (htarget : Keyed.Sorted target)
    (hpatch : Keyed.Sorted patch) :
    patch.foldl (putMember merged) target = patch.foldl (putMember merged') target ↔
      ∀ e ∈ patch, e.2 ≠ null → merged ((Keyed.get? target e.1).getD null) e.2 =
        merged' ((Keyed.get? target e.1).getD null) e.2 := by
  constructor
  · intro heq e he hne
    have hmember := congrArg (fun m => Keyed.get? m e.1) heq
    simp only [get?_foldl_putMember htarget hpatch, hpatch.get?_of_mem he, memberAfter_of_ne hne] at hmember
    exact Option.some.inj hmember
  · intro hsame
    refine (sorted_foldl_putMember htarget patch).eq_of_get? (sorted_foldl_putMember htarget patch) ?_
    intro key
    rw [get?_foldl_putMember htarget hpatch, get?_foldl_putMember htarget hpatch]
    cases hfound : Keyed.get? patch key with
    | none => rfl
    | some value =>
        by_cases hnull : value = null
        · rw [hnull]
          rfl
        · rw [memberAfter_of_ne hnull, memberAfter_of_ne hnull,
            hsame (key, value) (Keyed.mem_of_get? hfound) hnull]

/-- A patch is put into the empty object as it is just if it has no nulls and every member is merged into nothing as
it is. -/
theorem foldl_putMember_nil_eq_self_iff (hpatch : Keyed.Sorted patch) :
    patch.foldl (putMember merged) [] = patch ↔ ∀ e ∈ patch, e.2 ≠ null ∧ merged null e.2 = e.2 := by
  constructor
  · intro heq e he
    have hmember : Keyed.get? (patch.foldl (putMember merged) []) e.1 = _ :=
      get?_foldl_putMember Keyed.sorted_nil hpatch e.1
    rw [heq, hpatch.get?_of_mem he, Keyed.get?_nil] at hmember
    by_cases hnull : e.2 = null
    · rw [hnull] at hmember
      cases hmember
    · rw [memberAfter_of_ne hnull] at hmember
      exact ⟨hnull, (Option.some.inj hmember).symm⟩
  · intro hsame
    refine (sorted_foldl_putMember Keyed.sorted_nil patch).eq_of_get? hpatch ?_
    intro key
    rw [get?_foldl_putMember Keyed.sorted_nil hpatch, Keyed.get?_nil]
    cases hfound : Keyed.get? patch key with
    | none => rfl
    | some value =>
        obtain ⟨hnull, hvalue⟩ := hsame (key, value) (Keyed.mem_of_get? hfound)
        rw [memberAfter_of_ne hnull]
        exact congrArg some hvalue

end Put

/-! ### Whole values -/

/-- A value that is no object. -/
def NoObject (j : Json) : Prop := ∀ fields, j ≠ object fields

variable {target patch : Json} {fields : List (String × Json)}

theorem noObject_null : NoObject null := fun _ heq => by cases heq

theorem object_ne_null : object fields ≠ null := fun heq => by cases heq

theorem noObject_or_exists (j : Json) : j.NoObject ∨ ∃ fields, j = object fields := by
  cases j with
  | object fields => exact Or.inr ⟨fields, rfl⟩
  | _ => exact Or.inl fun _ heq => by cases heq

theorem members_of_noObject (htarget : target.NoObject) : target.members = [] := by
  cases target with
  | object fields => exact absurd rfl (htarget fields)
  | _ => rfl

theorem Ordered.sorted_members (hordered : target.Ordered) : Keyed.Sorted target.members := by
  cases target with
  | object fields => exact hordered.sorted
  | _ => exact Keyed.sorted_nil

theorem Ordered.getD (hordered : target.Ordered) (key : String) :
    ((Keyed.get? target.members key).getD null).Ordered := by
  cases target with
  | object fields =>
      cases hfound : Keyed.get? fields key with
      | none =>
          rw [members, hfound]
          trivial
      | some value =>
          rw [members, hfound]
          exact hordered.member (Keyed.mem_of_get? hfound)
  | _ => trivial

/-- What is no object takes the place of the target. -/
theorem merge_of_noObject (hpatch : patch.NoObject) : merge target patch = patch := by
  cases patch with
  | object fields => exact absurd rfl (hpatch fields)
  | _ => cases target <;> rfl

theorem mergePatch_of_noObject (hpatch : patch.NoObject) : mergePatch target patch = patch := by
  cases patch with
  | object fields => exact absurd rfl (hpatch fields)
  | _ => rfl

theorem nullFree_of_noObject (hpatch : patch.NoObject) : NullFree patch := by
  cases patch with
  | object fields => exact absurd rfl (hpatch fields)
  | _ => trivial

theorem fits_of_noObject (hpatch : patch.NoObject) : Fits target patch := by
  cases patch with
  | object fields => exact absurd rfl (hpatch fields)
  | _ => cases target <;> trivial

/-- Whatever is merged into something that is no object takes its place, nulls and all. -/
theorem merge_into_noObject (htarget : target.NoObject) : merge target patch = patch := by
  cases target with
  | object fields => exact absurd rfl (htarget fields)
  | _ => cases patch <;> rfl

theorem fits_iff_of_noObject (htarget : target.NoObject) : Fits target patch ↔ NullFree patch := by
  cases target with
  | object fields => exact absurd rfl (htarget fields)
  | _ => cases patch <;> exact Iff.rfl

theorem mergePatch_object (target : Json) (patch : List (String × Json)) :
    mergePatch target (object patch) = object (patch.foldl (putMember mergePatch) target.members) := by
  rw [mergePatch, patchMembers_eq_foldl]

theorem merge_object (target patch : List (String × Json)) :
    merge (object target) (object patch) = object (patch.foldl (putMember merge) target) := by
  rw [merge, mergeFields_eq_foldl]

/-- The algorithm puts a patch into nothing as it is just if the patch is free of nulls. -/
theorem mergePatch_eq_self_iff (htarget : target.NoObject) (hordered : patch.Ordered) :
    mergePatch target patch = patch ↔ NullFree patch := by
  induction patch using induction_on_members generalizing target with
  | hother patch hpatch => exact iff_of_true (mergePatch_of_noObject hpatch) (nullFree_of_noObject hpatch)
  | hobject fields ih =>
      rw [mergePatch_object, members_of_noObject htarget, object.injEq,
        foldl_putMember_nil_eq_self_iff hordered.sorted, NullFree, nullFreeMembers_iff]
      exact forall₂_congr fun e he => and_congr_right fun _ => ih e he noObject_null (hordered.member he)

/-- Merging does what the algorithm does just if the patch fits the target. -/
theorem merge_eq_mergePatch_iff (htarget : target.Ordered) (hpatch : patch.Ordered) :
    merge target patch = mergePatch target patch ↔ Fits target patch := by
  induction patch using induction_on_members generalizing target with
  | hother patch hother =>
      exact iff_of_true ((merge_of_noObject hother).trans (mergePatch_of_noObject hother).symm)
        (fits_of_noObject hother)
  | hobject patch ih =>
      rcases target.noObject_or_exists with hother | ⟨fields, rfl⟩
      · rw [merge_into_noObject hother, fits_iff_of_noObject hother, eq_comm]
        exact mergePatch_eq_self_iff hother hpatch
      · rw [merge_object, mergePatch_object, object.injEq, members,
          foldl_putMember_eq_iff htarget.sorted hpatch.sorted, Fits, fitsMembers_iff]
        refine forall₂_congr fun e he => ?_
        refine Iff.trans ?_ (ih e he (htarget.getD e.1) (hpatch.member he))
        refine ⟨fun hsame => ?_, fun hsame _ => hsame⟩
        by_cases hnull : e.2 = null
        · rw [hnull, merge_of_noObject noObject_null, mergePatch_of_noObject noObject_null]
        · exact hsame hnull

/-! ### Nulls -/

theorem memberAt?_cons (j : Json) (key : String) (path : List String) :
    j.memberAt? (key :: path) = (Keyed.get? j.members key).bind fun member => member.memberAt? path := by
  cases j <;> rfl

/-- What is no object has nothing but itself. -/
theorem memberAt?_of_noObject {j found : Json} (hother : j.NoObject) {path : List String}
    (hfound : j.memberAt? path = some found) : path = [] ∧ found = j := by
  cases path with
  | nil => exact ⟨rfl, (Option.some.inj hfound).symm⟩
  | cons key rest =>
      rw [memberAt?_cons, members_of_noObject hother] at hfound
      cases hfound

/-- The algorithm leaves no null of an object behind, but for those inside arrays. -/
theorem mergePatch_addsNoNull (htarget : target.Ordered) (hpatch : (object fields).Ordered) :
    AddsNoNull target (mergePatch target (object fields)) := by
  intro path hnull
  induction path generalizing target fields with
  | nil =>
      rw [mergePatch_object] at hnull
      cases hnull
  | cons key rest ih =>
      rw [mergePatch_object, memberAt?_cons, members,
        get?_foldl_putMember htarget.sorted_members hpatch.sorted] at hnull
      rw [memberAt?_cons]
      cases hfound : Keyed.get? fields key with
      | none => rwa [hfound] at hnull
      | some value =>
          have hvalue := hpatch.member (Keyed.mem_of_get? hfound)
          rw [hfound] at hnull
          cases value with
          | object inner =>
              have hmember := ih (htarget.getD key) hvalue hnull
              cases hold : Keyed.get? target.members key with
              | some old => rwa [hold] at hmember
              | none =>
                  -- Nothing was there, and nothing has no null but itself, which is not an object.
                  rw [hold] at hmember hnull
                  obtain ⟨rfl, -⟩ := memberAt?_of_noObject noObject_null hmember
                  rw [memberAfter_of_ne object_ne_null, mergePatch_object] at hnull
                  cases hnull
          | null => cases hnull
          | _ =>
              obtain ⟨-, heq⟩ := memberAt?_of_noObject (fun _ heq => by cases heq) hnull
              cases heq

/-- If merging leaves no null of an object behind, the object fits. -/
theorem fits_of_addsNoNull (htarget : target.Ordered) (hpatch : patch.Ordered)
    (hadds : ∀ fields, patch = object fields → AddsNoNull target (merge target patch)) : Fits target patch := by
  induction patch using induction_on_members generalizing target with
  | hother patch hother => exact fits_of_noObject hother
  | hobject patch ih =>
      have hadds := hadds patch rfl
      rcases target.noObject_or_exists with hother | ⟨fields, rfl⟩
      · rw [merge_into_noObject hother] at hadds
        -- The target has no members at all, so the patch has none that is null.
        have hnone : ∀ path, path ≠ [] → (object patch).memberAt? path ≠ some null := by
          intro path hpath hnull
          exact hpath (memberAt?_of_noObject hother (hadds path hnull)).1
        rw [fits_iff_of_noObject hother, NullFree, nullFreeMembers_iff]
        intro e he
        have hmember : ∀ path, (object patch).memberAt? (e.1 :: path) = e.2.memberAt? path := by
          intro path
          rw [memberAt?_cons, members, hpatch.sorted.get?_of_mem he]
          rfl
        refine ⟨fun hnull => hnone [e.1] (List.cons_ne_nil _ _) ?_, ?_⟩
        · rw [hmember, hnull]
          rfl
        · rw [← fits_iff_of_noObject noObject_null]
          refine ih e he trivial (hpatch.member he) fun _ _ path hnull => ?_
          rw [merge_into_noObject noObject_null, ← hmember] at hnull
          exact absurd hnull (hnone _ (List.cons_ne_nil _ _))
      · rw [Fits, fitsMembers_iff]
        intro e he
        refine ih e he (htarget.getD e.1) (hpatch.member he) fun inner hinner path hnull => ?_
        have hne : e.2 ≠ null := by
          rw [hinner]
          exact object_ne_null
        have hold := hadds (e.1 :: path)
        rw [merge_object, memberAt?_cons, memberAt?_cons, members, members,
          get?_foldl_putMember htarget.sorted hpatch.sorted, hpatch.sorted.get?_of_mem he,
          memberAfter_of_ne hne] at hold
        obtain ⟨old, hfound, hmember⟩ := Option.bind_eq_some_iff.mp (hold hnull)
        rwa [hfound]

/-- Merging follows RFC 7386 just if the patch fits. For all values that list their members by key, merging leaves what
the algorithm leaves just if every object of the patch, outside of arrays, comes to a place with an object or is free
of nulls. The algorithm leaves no null of an object behind, but for those inside arrays; and an object is merged
without leaving one behind just if it fits. -/
theorem merges_as_specified (htarget : target.Ordered) (hpatch : patch.Ordered) :
    (merge target patch = mergePatch target patch ↔ Fits target patch) ∧
    ∀ fields, patch = object fields → AddsNoNull target (mergePatch target patch) ∧
      (AddsNoNull target (merge target patch) ↔ Fits target patch) := by
  have hsame := merge_eq_mergePatch_iff htarget hpatch
  refine ⟨hsame, ?_⟩
  rintro fields rfl
  have hclean := mergePatch_addsNoNull htarget hpatch
  refine ⟨hclean, ?_, ?_⟩
  · intro hadds
    exact fits_of_addsNoNull htarget hpatch fun _ _ => hadds
  · intro hfits
    rwa [hsame.mpr hfits]

/-! ### A null for what may not be there -/

namespace Color

def red : Json := object [("data", object [("color", string "red")])]

/-- Takes the color away, and has a null in an array and members for a place where there may be none. -/
def request : Json := object [
  ("data", object [("color", null), ("sizes", array [null])]),
  ("labels", object [("tier", string "one")])]

def plain : Json := object [
  ("data", object [("sizes", array [null])]),
  ("labels", object [("tier", string "one")])]

theorem ordered_red : red.Ordered := by
  simp [red, Ordered, OrderedFields, Keyed.Sorted]

theorem ordered_request : request.Ordered := by
  simp only [request, Ordered, OrderedFields, OrderedItems, Keyed.Sorted]
  decide

/-- Where there is a color it goes, as the algorithm has it. -/
theorem goes_if_there : red.Ordered ∧ request.Ordered ∧ Fits red request ∧ merge red request = plain := by
  have hfits : Fits red request := by
    simp [red, request, Fits, FitsMembers, NullFree, NullFreeMembers, Keyed.get?]
  have hmerge : merge red request = mergePatch red request :=
    (merges_as_specified ordered_red ordered_request).1.mpr hfits
  have hspecified : mergePatch red request = plain := rfl
  exact ⟨ordered_red, ordered_request, hfits, hmerge.trans hspecified⟩

/-- Where there is no data the null for the color is left behind, and the algorithm leaves none. -/
theorem left_as_null : Ordered (object []) ∧ request.Ordered ∧ merge (object []) request = request ∧
    mergePatch (object []) request = plain ∧
    merge (object []) request ≠ mergePatch (object []) request := by
  have hempty : Ordered (object []) := ⟨Keyed.sorted_nil, trivial⟩
  have hmerge : merge (object []) request = request := rfl
  have hspecified : mergePatch (object []) request = plain := rfl
  refine ⟨hempty, ordered_request, hmerge, hspecified, ?_⟩
  rw [hmerge, hspecified]
  simp [request, plain]

end Color

end Provision.Json

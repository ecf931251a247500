import Provision.Proofs.Failures

/-!
Lists of failures, however they are put together. A list holds what the given failures consist of, in order, and no
list among them; the failure that it comes to names the first stage that one of the given failures names. What is
given counts, unless it is an empty list of failures.
-/

namespace Provision.Failure

/-- Something that is put into a list of failures. -/
inductive Recording : Type 1 where
  | failure (f : Failure)
  /-- An outcome; a success puts nothing in. -/
  | outcome {α : Type} (result : Except Failure α)
  /-- Failures one after another. -/
  | failures (fs : List Failure)

namespace Recording

/-- Put it into a list. -/
def addTo (collected : List Failure) : Recording → List Failure
  | failure f => push collected f
  | outcome result => pushResult collected result
  | failures fs => pushAll collected fs

/-- The failures that are given. -/
def given : Recording → List Failure
  | failure f => [f]
  | outcome (.ok _) => []
  | outcome (.error f) => [f]
  | failures fs => fs

end Recording

/-- The list that is made from some failures, with other things put into it in turn. -/
def collect (first : List Failure) (records : List Recording) : List Failure :=
  records.foldl Recording.addTo (pushAll [] first)

/-- All failures that are given for such a list, in order. -/
def allGiven (first : List Failure) (records : List Recording) : List Failure :=
  first ++ records.flatMap Recording.given

/-- Failures as they come about: if one is a list, it was put together from such failures. -/
inductive Genuine : Failure → Prop
  | single {f : Failure} (hsingle : f.Single) : Genuine f
  | collected {first : List Failure} {records : List Recording}
      (hgiven : ∀ f ∈ allGiven first records, Genuine f) : Genuine (many (collect first records))

variable {first : List Failure} {records : List Recording}

/-! ### What a list holds -/

theorem pushAll_eq_append (collected failures : List Failure) :
    pushAll collected failures = collected ++ failures.flatMap members := by
  induction failures generalizing collected with
  | nil => exact (List.append_nil collected).symm
  | cons f rest ih =>
      rw [pushAll, List.foldl_cons, ← pushAll, ih, push_eq_append, List.flatMap_cons, List.append_assoc]

theorem Recording.addTo_eq_append (collected : List Failure) (record : Recording) :
    record.addTo collected = collected ++ record.given.flatMap members := by
  match record with
  | .failure f => simp [addTo, given, push_eq_append]
  | .outcome (.ok _) => simp [addTo, given, pushResult]
  | .outcome (.error f) => simp [addTo, given, pushResult, push_eq_append]
  | .failures fs => exact pushAll_eq_append collected fs

theorem foldl_addTo_eq_append (records : List Recording) (collected : List Failure) :
    records.foldl Recording.addTo collected =
      collected ++ (records.flatMap Recording.given).flatMap members := by
  induction records generalizing collected with
  | nil => simp
  | cons record rest ih =>
      rw [List.foldl_cons, ih, Recording.addTo_eq_append, List.flatMap_cons, List.flatMap_append,
        List.append_assoc]

/-- A list holds what the given failures consist of, in order. -/
theorem collect_eq_flatMap (first : List Failure) (records : List Recording) :
    collect first records = (allGiven first records).flatMap members := by
  rw [collect, foldl_addTo_eq_append, pushAll_eq_append, List.nil_append, allGiven, List.flatMap_append]

theorem members_of_single {f : Failure} (hsingle : f.Single) : f.members = [f] := by
  cases f with
  | many failures => exact absurd rfl (hsingle failures)
  | _ => rfl

/-- No failure that comes about consists of lists. -/
theorem Genuine.single_of_mem_members {f g : Failure} (hgenuine : f.Genuine) (hmem : g ∈ f.members) :
    g.Single := by
  induction hgenuine with
  | single hsingle =>
      rw [members_of_single hsingle, List.mem_singleton] at hmem
      rwa [hmem]
  | collected _ ih =>
      rw [members, collect_eq_flatMap, List.mem_flatMap] at hmem
      obtain ⟨f, hf, hmem⟩ := hmem
      exact ih f hf hmem

/-! ### What a list comes to -/

theorem firstReason?_eq_findSome? (failures : List Failure) :
    firstReason? failures = failures.findSome? reason? := by
  induction failures with
  | nil => rfl
  | cons f rest ih =>
      rw [firstReason?, ih, List.findSome?_cons]
      cases f.reason? <;> rfl

/-- A failure names the first stage that one of its members names. -/
theorem findSome?_members (f : Failure) : f.members.findSome? reason? = f.reason? := by
  cases f with
  | many failures => exact (firstReason?_eq_findSome? failures).symm
  | _ => exact List.findSome?_singleton

theorem findSome?_flatMap_members (failures : List Failure) :
    (failures.flatMap members).findSome? reason? = failures.findSome? reason? := by
  induction failures with
  | nil => rfl
  | cons f rest ih =>
      rw [List.flatMap_cons, List.findSome?_append, ih, findSome?_members, List.findSome?_cons]
      cases f.reason? <;> rfl

/-- The failure of a list names the first stage that one of its members names. -/
theorem reason?_of_toResult {collected : List Failure} {f : Failure}
    (hresult : toResult collected = .error f) : f.reason? = collected.findSome? reason? := by
  rcases collected with _ | ⟨g, _ | ⟨h, rest⟩⟩ <;> cases hresult
  · exact (List.findSome?_singleton).symm
  · exact firstReason?_eq_findSome? (g :: h :: rest)

/-- Lists of failures keep the order and the reason. However a list is put together from failures as they come about,
none of its members is a list, the members are what the given failures consist of, in order, and the failure
that the list comes to names the first stage that one of the given failures names, or none if none does. -/
theorem collects_in_order (hgiven : ∀ f ∈ allGiven first records, f.Genuine) :
    (∀ f ∈ collect first records, f.Single) ∧
    collect first records = (allGiven first records).flatMap members ∧
    ∀ f, toResult (collect first records) = .error f →
      f.reason? = (allGiven first records).findSome? reason? := by
  have hcollect := collect_eq_flatMap first records
  refine ⟨?_, hcollect, ?_⟩
  · intro g hg
    rw [hcollect, List.mem_flatMap] at hg
    obtain ⟨f, hf, hmem⟩ := hg
    exact (hgiven f hf).single_of_mem_members hmem
  · intro f hf
    rw [reason?_of_toResult hf, hcollect, findSome?_flatMap_members]

/-! ### A list in a list -/

namespace Nested

/-- A list that was put together before. -/
def earlier : Failure :=
  many (collect [action "no route"] [.outcome (.error (action "no proxy") : Except Failure Unit)])

/-- A feature that failed in a stage, for two reasons. -/
def mesh : Failure := feature "mesh" (many [action "no quota", stage .postConditions (action "no gateway")])

/-- What comes after the list that was put together before. -/
def later : List Recording :=
  [.outcome (.ok 3 : Except Failure Nat), .failure mesh, .failures [stage .preConditions earlier]]

/-- The earlier list is taken apart, the ones inside the feature and the stage are not, and the reason is that of the
feature. -/
theorem reason_of_mesh :
    (∀ f ∈ allGiven [earlier] later, f.Genuine) ∧ (∀ f ∈ collect [earlier] later, f.Single) ∧
    collect [earlier] later =
      [action "no route", action "no proxy", mesh, stage .preConditions earlier] ∧
    ∃ f, toResult (collect [earlier] later) = .error f ∧ f.reason? = some .postConditions := by
  have hsingle : ∀ f ∈ [action "no route", action "no proxy", mesh, stage .preConditions earlier],
      f.Single := by
    intro f hf failures heq
    simp only [List.mem_cons, List.not_mem_nil, or_false] at hf
    rcases hf with rfl | rfl | rfl | rfl <;> cases heq
  have hearlier : earlier.Genuine := by
    refine .collected fun f hf => .single (hsingle f ?_)
    exact List.mem_append_left [mesh, stage .preConditions earlier] hf
  have hgiven : ∀ f ∈ allGiven [earlier] later, f.Genuine := by
    refine List.forall_mem_cons.mpr ⟨hearlier, fun f hf => .single (hsingle f ?_)⟩
    exact List.mem_append_right [action "no route", action "no proxy"] hf
  obtain ⟨hsingles, hmembers, hreason⟩ := collects_in_order hgiven
  have hresult : toResult (collect [earlier] later) =
      .error (many [action "no route", action "no proxy", mesh, stage .preConditions earlier]) := rfl
  exact ⟨hgiven, hsingles, hmembers, _, hresult, hreason _ hresult⟩

end Nested

end Provision.Failure

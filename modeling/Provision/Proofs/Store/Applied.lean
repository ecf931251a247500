import Provision.Cluster.Apply
import Provision.Proofs.Store.Operations

/-!
Applying an object to a store that nobody else changes. The object is put in where there is none, put in place of a
managed one, and left out otherwise; of an object that is put in, the store chooses the version and the uid, and
nothing else.
-/

namespace Provision

/-- An object but for what the store chooses. -/
def Object.content (o : Object) : Object :=
  { o with metadata := { o.metadata with resourceVersion := none, uid := none } }

namespace Store

variable {s : Store} {o : Object} {type : ResourceType}

/-- The store after an object was applied; one that says no type has no place. -/
def applied (s : Store) (o : Object) : Store :=
  match o.resourceType with
  | .error _ => s
  | .ok type =>
    match s.get? type o.key with
    | none => (s.create type o).2
    | some live => if live.isManaged then (s.replace type (Client.replacementOf live o)).2 else s

theorem applied_of_error {f : Failure} (htype : o.resourceType = .error f) : s.applied o = s := by
  simp only [applied, htype]

theorem applied_of_absent (htype : o.resourceType = .ok type) (habsent : s.get? type o.key = none) :
    s.applied o = (s.keep (.of type o.key) (s.newObject o)).record "create" type.kind o.key := by
  simp only [applied, htype, habsent, create_of_absent habsent]

theorem applied_of_unmanaged {live : Object} (htype : o.resourceType = .ok type)
    (hlive : s.get? type o.key = some live) (hmanaged : ¬ live.isManaged) : s.applied o = s := by
  simp only [applied, htype, hlive, hmanaged, Bool.false_eq_true, if_false]

/-- The replacement of a stored object names its version, so it is not refused. -/
theorem replace_replacementOf {live : Object} (hlive : s.get? type o.key = some live) :
    s.replace type (Client.replacementOf live o) =
      (.ok (s.successor live o),
        (s.keep (.of type o.key) (s.successor live o)).record "replace" type.kind o.key) := by
  have hadmits : admits live (Client.replacementOf live o) := by
    simp [admits, Client.replacementOf, Object.version]
  rw [replace_of_present (o := Client.replacementOf live o) hlive, if_pos hadmits]
  rfl

theorem applied_of_managed {live : Object} (htype : o.resourceType = .ok type)
    (hlive : s.get? type o.key = some live) (hmanaged : live.isManaged) :
    s.applied o =
      (s.keep (.of type o.key) (s.successor live o)).record "replace" type.kind o.key := by
  simp only [applied, htype, hlive, hmanaged, if_true, replace_replacementOf hlive]

/-- Applying an object changes nothing, or it keeps one with the same content in its place. -/
theorem applied_cases (s : Store) (o : Object) :
    s.applied o = s ∨ ∃ type stored verb, o.resourceType = .ok type ∧ stored.content = o.content ∧
      s.applied o = (s.keep (.of type o.key) stored).record verb type.kind o.key := by
  cases htype : o.resourceType with
  | error f => exact Or.inl (applied_of_error htype)
  | ok type =>
      cases hlive : s.get? type o.key with
      | none => exact Or.inr ⟨type, s.newObject o, _, rfl, rfl, applied_of_absent htype hlive⟩
      | some live =>
          by_cases hmanaged : live.isManaged
          · exact Or.inr
              ⟨type, s.successor live o, _, rfl, rfl, applied_of_managed htype hlive hmanaged⟩
          · exact Or.inl (applied_of_unmanaged htype hlive hmanaged)

@[simp] theorem trackers_applied (s : Store) (o : Object) : (s.applied o).trackers = s.trackers := by
  rcases s.applied_cases o with hsame | ⟨type, stored, verb, -, -, hkept⟩
  · rw [hsame]
  · rw [hkept]
    rfl

@[simp] theorem pendingConflicts_applied (s : Store) (o : Object) :
    (s.applied o).pendingConflicts = s.pendingConflicts := by
  rcases s.applied_cases o with hsame | ⟨type, stored, verb, -, -, hkept⟩
  · rw [hsame]
  · rw [hkept]
    rfl

/-- Applying an object puts in at most that object. -/
theorem mem_objects_applied {entry : StoreKey × Object} (hentry : entry ∈ (s.applied o).objects) :
    entry ∈ s.objects ∨ entry.2.content = o.content := by
  rcases s.applied_cases o with hsame | ⟨type, stored, verb, -, hcontent, hkept⟩
  · rw [hsame] at hentry
    exact Or.inl hentry
  · rw [hkept] at hentry
    rcases Keyed.mem_insert hentry with rfl | hold
    · exact Or.inr hcontent
    · exact Or.inl hold

/-! ### Several objects -/

/-- The store after objects were applied in turn. -/
def appliedAll (s : Store) (docs : List Object) : Store :=
  docs.foldl applied s

theorem appliedAll_append (s : Store) (docs more : List Object) :
    s.appliedAll (docs ++ more) = (s.appliedAll docs).appliedAll more :=
  List.foldl_append

theorem appliedAll_concat (s : Store) (docs : List Object) (o : Object) :
    s.appliedAll (docs ++ [o]) = (s.appliedAll docs).applied o :=
  appliedAll_append s docs [o]

@[simp] theorem trackers_appliedAll (s : Store) (docs : List Object) :
    (s.appliedAll docs).trackers = s.trackers := by
  induction docs generalizing s with
  | nil => rfl
  | cons o rest ih => exact (ih (s.applied o)).trans (s.trackers_applied o)

theorem getTracker?_appliedAll (s : Store) (docs : List Object) (name : String) :
    (s.appliedAll docs).getTracker? name = s.getTracker? name := by
  rw [getTracker?, trackers_appliedAll]
  rfl

@[simp] theorem pendingConflicts_appliedAll (s : Store) (docs : List Object) :
    (s.appliedAll docs).pendingConflicts = s.pendingConflicts := by
  induction docs generalizing s with
  | nil => rfl
  | cons o rest ih => exact (ih (s.applied o)).trans (s.pendingConflicts_applied o)

end Store

end Provision

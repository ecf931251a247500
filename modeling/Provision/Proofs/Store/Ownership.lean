import Provision.Proofs.Store.Trackers

/-!
Garbage that is none. What is owned by one thing only stays where it is when anything else is deleted.
-/

namespace Provision

/-- Nobody owns the object but the one with a uid. -/
def Object.OwnedOnlyBy (uid : String) (o : Object) : Prop :=
  ∀ owner ∈ o.metadata.ownerReferences.getD [], owner.uid = uid

instance (uid : String) (o : Object) : Decidable (o.OwnedOnlyBy uid) :=
  inferInstanceAs (Decidable (∀ owner ∈ o.metadata.ownerReferences.getD [], owner.uid = uid))

namespace Store

variable {s : Store} {uid : String} {key : StoreKey} {o : Object}

/-- No object has a uid. -/
def Free (s : Store) (uid : String) : Prop := ∀ entry ∈ s.objects, entry.2.metadata.uid ≠ some uid

instance (s : Store) (uid : String) : Decidable (s.Free uid) :=
  inferInstanceAs (Decidable (∀ entry ∈ s.objects, entry.2.metadata.uid ≠ some uid))

theorem uid_of_ownedOnlyBy {other : String} (howned : o.OwnedOnlyBy uid) (hother : o.metadata.isOwnedBy other) :
    other = uid := by
  obtain ⟨owner, howner, heq⟩ := List.any_eq_true.mp hother
  rw [← howned owner howner, beq_iff_eq.mp heq]

/-- What is owned by a single thing that does not go is no garbage. -/
theorem not_garbage_of_ownedOnlyBy {uids : List String} {objects : Keyed StoreKey Object}
    {entry : StoreKey × Object} (howned : entry.2.OwnedOnlyBy uid) (huid : uid ∉ uids)
    (hfree : ∀ e ∈ objects, e.2.metadata.uid ≠ some uid) : ¬ Garbage uids objects entry := by
  intro hgarbage
  cases hgarbage with
  | owned _ hmem hby =>
      rw [uid_of_ownedOnlyBy howned hby] at hmem
      exact huid hmem
  | @through owner _ _ howner hgone _ hby =>
      rw [uid_of_ownedOnlyBy howned hby] at hgone
      exact hfree owner howner.mem hgone

theorem mem_collectOwned {gone : Option String} {entry : StoreKey × Object} (hentry : entry ∈ s.objects)
    (howned : entry.2.OwnedOnlyBy uid) (hgone : gone ≠ some uid) (hfree : s.Free uid) :
    entry ∈ (s.collectOwned gone).objects := by
  cases gone with
  | none => exact hentry
  | some gone =>
      refine mem_collectGarbage_iff.mpr ⟨hentry, not_garbage_of_ownedOnlyBy howned ?_ hfree⟩
      rw [List.mem_singleton]
      exact fun heq => hgone (congrArg some heq.symm)

theorem get?_insert_ne_none {objects : Keyed StoreKey Object} (hsome : Keyed.get? objects key ≠ none)
    (place : StoreKey) (new : Object) : Keyed.get? (Keyed.insert objects place new) key ≠ none := by
  by_cases hplace : key = place
  · rw [hplace, Keyed.get?_insert_self]
    exact Option.some_ne_none new
  · rwa [Keyed.get?_insert_of_ne _ _ hplace]

/-- An object that is owned by one thing only stays in its place, whatever is asked, but for deleting the owner or
the object itself. -/
theorem get?_perform_ne_none (hvalid : s.Valid) {r : Request} (hfound : Keyed.get? s.objects key = some o)
    (howned : o.OwnedOnlyBy uid) (hfree : s.Free uid)
    (howner : ∀ name, r = .deleteTracker name → s.trackerUid? name ≠ some uid)
    (hplace : ∀ type k, r = .delete type k → StoreKey.of type k ≠ key) :
    Keyed.get? (r.perform s).2.objects key ≠ none := by
  have hsorted := (perform_advances hvalid r).valid.objects.sorted
  have hentry := Keyed.mem_of_get? hfound
  have hsome : Keyed.get? s.objects key ≠ none := by
    rw [hfound]
    exact Option.some_ne_none o
  -- What is collected is sorted as it was, so what is left in it is found.
  have hstays : (key, o) ∈ (r.perform s).2.objects → Keyed.get? (r.perform s).2.objects key ≠ none := by
    intro hin
    rw [hsorted.get?_of_mem hin]
    exact Option.some_ne_none o
  cases r with
  | get type k => exact hsome
  | list type space selector => exact hsome
  | getTracker name => exact hsome
  | create type new =>
      cases hlive : s.get? type new.key with
      | none =>
          rw [Request.perform, create_of_absent hlive]
          exact get?_insert_ne_none hsome _ _
      | some live =>
          rw [Request.perform, create_of_present hlive]
          exact hsome
  | replace type new =>
      cases hlive : s.get? type new.key with
      | none =>
          rw [Request.perform, replace_of_absent hlive]
          exact hsome
      | some live =>
          rw [Request.perform, replace_of_present hlive]
          split
          · exact get?_insert_ne_none hsome _ _
          · exact hsome
  | mergePatch type k patch =>
      obtain ⟨f, heq⟩ | ⟨live, o, -, -, heq⟩ := s.mergePatch_cases type k patch
      · rw [Request.perform, heq]
        exact hsome
      · rw [Request.perform, heq]
        exact get?_insert_ne_none hsome _ _
  | delete type k =>
      refine hstays ?_
      cases hgone : s.get? type k with
      | none =>
          rw [Request.perform, delete_of_absent hgone]
          exact hentry
      | some gone =>
          rw [Request.perform, delete_of_present hgone]
          refine mem_collectOwned ?_ howned ?_ fun e he => hfree e ?_
          · refine Keyed.mem_of_get? ?_
            rw [record, Keyed.get?_erase_of_ne _ (hplace type k rfl).symm]
            exact hfound
          · exact hfree _ (Keyed.mem_of_get? hgone)
          · exact (Keyed.erase_sublist s.objects _).subset he
  | createTracker t =>
      rw [Request.perform, createTracker_objects]
      exact hsome
  | replaceTrackerStatus t =>
      rw [Request.perform, replaceTrackerStatus_objects]
      exact hsome
  | deleteTracker name =>
      refine hstays ?_
      cases hgone : s.getTracker? name with
      | none =>
          rw [Request.perform, deleteTracker_of_absent hgone]
          exact hentry
      | some t =>
          rw [Request.perform, deleteTracker_of_present hgone]
          refine mem_collectOwned hentry howned ?_ hfree
          rw [← trackerUid?_of_found hgone]
          exact howner name rfl

end Store

end Provision

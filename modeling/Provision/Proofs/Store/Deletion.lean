import Provision.Proofs.Store.Garbage
import Provision.Proofs.Store.Versions

/-!
Deleting trackers. The tracker is gone and every other one is still there; of the objects, some of those that
were there stay, and none of them names the tracker as its owner.
-/

namespace Provision.Store

variable {s : Store} {name : String}

/-- The uid of the tracker with a name. -/
def trackerUid? (s : Store) (name : String) : Option String :=
  (s.getTracker? name).bind fun t => t.metadata.uid

/-! ### Owned objects -/

theorem not_isOwnedBy_of_mem_collectGarbage {uid : String} {entry : StoreKey × Object}
    (hentry : entry ∈ (s.collectGarbage uid).objects) : ¬ entry.2.metadata.isOwnedBy uid := by
  obtain ⟨hmem, hstays⟩ := mem_collectGarbage_iff.mp hentry
  intro howned
  exact hstays (.owned hmem List.mem_cons_self howned)

/-! ### The tracker -/

theorem deleteTracker_of_absent (habsent : s.getTracker? name = none) :
    s.deleteTracker name = (.ok (), s) := by
  simp only [deleteTracker, habsent]

theorem deleteTracker_of_present {t : Tracker} (hfound : s.getTracker? name = some t) :
    s.deleteTracker name = (.ok (),
      ({ s with trackers := Keyed.erase s.trackers name }.record "delete" Tracker.kind
        (.ofCluster name)).collectOwned t.metadata.uid) := by
  simp only [deleteTracker, hfound]

/-- Deleting a tracker cannot be refused. -/
theorem deleteTracker_ok (s : Store) (name : String) : (s.deleteTracker name).1 = .ok () := by
  cases hfound : s.getTracker? name with
  | none => rw [deleteTracker_of_absent hfound]
  | some t => rw [deleteTracker_of_present hfound]

theorem Valid.getTracker?_deleteTracker_self (hvalid : s.Valid) (name : String) :
    (s.deleteTracker name).2.getTracker? name = none := by
  cases hfound : s.getTracker? name with
  | none => rwa [deleteTracker_of_absent hfound]
  | some t =>
      rw [deleteTracker_of_present hfound, getTracker?, collectOwned_trackers]
      exact hvalid.trackers.sorted.get?_erase_self name

theorem getTracker?_deleteTracker_of_ne {other : String} (hne : other ≠ name) :
    (s.deleteTracker name).2.getTracker? other = s.getTracker? other := by
  cases hfound : s.getTracker? name with
  | none => rw [deleteTracker_of_absent hfound]
  | some t =>
      rw [deleteTracker_of_present hfound, getTracker?, collectOwned_trackers]
      exact Keyed.get?_erase_of_ne s.trackers hne

/-- What the tracker owned has gone with it. -/
theorem not_isOwnedBy_of_mem_deleteTracker {uid : String} (huid : s.trackerUid? name = some uid)
    {entry : StoreKey × Object} (hentry : entry ∈ (s.deleteTracker name).2.objects) :
    ¬ entry.2.metadata.isOwnedBy uid := by
  obtain ⟨t, hfound, huid⟩ := Option.bind_eq_some_iff.mp huid
  rw [deleteTracker_of_present hfound, huid] at hentry
  exact not_isOwnedBy_of_mem_collectGarbage hentry

end Provision.Store

import Provision.Proofs.Store.Applied
import Provision.Proofs.Store.Trackers

/-!
Whose the objects of a store are. Since some moment objects were only put in for trackers, so that each of them
was there then or is owned by a tracker that is there now. Trackers that go take their objects along; without any
tracker nothing is left but what was there.
-/

namespace Provision

theorem Tracker.uid_of_ownerReference? {t : Tracker} {owner : OwnerReference}
    (howner : t.ownerReference? = some owner) : t.metadata.uid = some owner.uid := by
  obtain ⟨uid, huid, rfl⟩ := Option.map_eq_some_iff.mp howner
  exact huid

/-! ### Owned objects -/

theorem Metadata.isOwnedBy_addOwner (m : Metadata) (owner : OwnerReference) :
    (m.addOwner owner).isOwnedBy owner.uid := by
  simp only [addOwner]
  split
  · next howned => exact howned
  · simp [isOwnedBy]

/-- Further options leave the owners of an object as they are. -/
theorem MetaOption.isOwnedBy_applyAll_managed (owner : OwnerReference) (managed : Bool) (o : Object) :
    (applyAll (.ownedBy owner :: if managed then [.managed] else []) o).metadata.isOwnedBy
      owner.uid := by
  have howned := o.metadata.isOwnedBy_addOwner owner
  cases managed
  · exact howned
  · exact howned

namespace Store

variable {start s s' : Store} {names : List String} {name : String} {o : Object}

@[simp] theorem trackerUid?_applied (s : Store) (o : Object) (name : String) :
    (s.applied o).trackerUid? name = s.trackerUid? name := by
  rw [trackerUid?, getTracker?, trackers_applied]
  rfl

/-! ### Deleting several trackers -/

/-- Delete trackers one after the other. -/
def deleteTrackers (s : Store) (names : List String) : Store :=
  names.foldl (fun s name => (s.deleteTracker name).2) s

theorem deleteTrackers_cons (s : Store) (name : String) (rest : List String) :
    s.deleteTrackers (name :: rest) = (s.deleteTracker name).2.deleteTrackers rest := rfl

/-- No other tracker comes when trackers go. -/
theorem getTracker?_deleteTrackers_of_absent (hvalid : s.Valid) (habsent : s.getTracker? name = none)
    (gone : List String) : (s.deleteTrackers gone).getTracker? name = none := by
  induction gone generalizing s with
  | nil => exact habsent
  | cons first rest ih =>
      refine ih (deleteTracker_advances hvalid first).valid ?_
      by_cases hname : name = first
      · rw [hname]
        exact hvalid.getTracker?_deleteTracker_self first
      · rw [getTracker?_deleteTracker_of_ne hname]
        exact habsent

theorem getTracker?_deleteTrackers (hvalid : s.Valid) {gone : List String} (hname : name ∈ gone) :
    (s.deleteTrackers gone).getTracker? name = none := by
  induction gone generalizing s with
  | nil => cases hname
  | cons first rest ih =>
      have hadvances := deleteTracker_advances hvalid first
      rcases List.mem_cons.mp hname with rfl | hrest
      · exact getTracker?_deleteTrackers_of_absent hadvances.valid
          (hvalid.getTracker?_deleteTracker_self name) rest
      · exact ih hadvances.valid hrest

/-! ### Accounts -/

/-- Every object was there at the start, or it is owned by one of some trackers. -/
def Accounted (start : Store) (names : List String) (s : Store) : Prop :=
  ∀ entry ∈ s.objects, entry ∈ start.objects ∨
    ∃ name ∈ names, ∃ uid, s.trackerUid? name = some uid ∧ entry.2.metadata.isOwnedBy uid

namespace Accounted

theorem refl (s : Store) (names : List String) : Accounted s names s :=
  fun _ hentry => Or.inl hentry

/-- Other objects are not put in, and trackers stay. -/
theorem of_subset (haccounted : Accounted start names s) (hobjects : s'.objects ⊆ s.objects)
    (htrackers : ∀ name uid, s.trackerUid? name = some uid → s'.trackerUid? name = some uid) :
    Accounted start names s' := by
  intro entry hentry
  refine (haccounted entry (hobjects hentry)).imp_right ?_
  rintro ⟨name, hname, uid, huid, howned⟩
  exact ⟨name, hname, uid, htrackers name uid huid, howned⟩

/-- An object may be applied for one of the trackers. -/
theorem applied (haccounted : Accounted start names s) (hname : name ∈ names) {uid : String}
    (huid : s.trackerUid? name = some uid) (howned : o.metadata.isOwnedBy uid) :
    Accounted start names (s.applied o) := by
  intro entry hentry
  simp only [trackerUid?_applied]
  rcases mem_objects_applied hentry with hold | hcontent
  · exact haccounted entry hold
  · refine Or.inr ⟨name, hname, uid, huid, ?_⟩
    have howners : entry.2.metadata.ownerReferences = o.metadata.ownerReferences :=
      congrArg (fun o => o.metadata.ownerReferences) hcontent
    rwa [Metadata.isOwnedBy, howners]

theorem createTracker (haccounted : Accounted start names s) (t : Tracker) :
    Accounted start names (s.createTracker t).2 := by
  cases hfound : s.getTracker? t.displayName with
  | some old =>
      rw [createTracker_of_present hfound]
      exact haccounted
  | none =>
      rw [createTracker_of_absent hfound]
      refine haccounted.of_subset (List.Subset.refl _) fun other uid huid => ?_
      have hne : other ≠ t.displayName := by
        rintro rfl
        rw [trackerUid?_of_absent hfound] at huid
        cases huid
      rw [← huid]
      exact congrArg (Option.bind · _) (Keyed.get?_insert_of_ne s.trackers _ hne)

theorem deleteTracker (haccounted : Accounted start names s) (gone : String) :
    Accounted start names (s.deleteTracker gone).2 := by
  intro entry hentry
  have hold := (s.deleteTracker_objects_sublist gone).subset hentry
  refine (haccounted entry hold).imp_right ?_
  rintro ⟨name, hname, uid, huid, howned⟩
  -- What the tracker that goes owned has gone with it.
  have hne : name ≠ gone := by
    rintro rfl
    exact not_isOwnedBy_of_mem_deleteTracker huid hentry howned
  refine ⟨name, hname, uid, ?_, howned⟩
  rw [trackerUid?, getTracker?_deleteTracker_of_ne hne]
  exact huid

theorem deleteTrackers (haccounted : Accounted start names s) (gone : List String) :
    Accounted start names (s.deleteTrackers gone) := by
  induction gone generalizing s with
  | nil => exact haccounted
  | cons first rest ih => exact ih (haccounted.deleteTracker first)

/-- When the trackers are gone, nothing is left but what was there. -/
theorem mem_start (haccounted : Accounted start names s)
    (hgone : ∀ name ∈ names, s.getTracker? name = none) {entry : StoreKey × Object}
    (hentry : entry ∈ s.objects) : entry ∈ start.objects := by
  rcases haccounted entry hentry with hold | ⟨name, hname, uid, huid, -⟩
  · exact hold
  · rw [trackerUid?_of_absent (hgone name hname)] at huid
    cases huid

end Accounted

/-- A status write leaves the objects and the uids of all trackers as they are. -/
theorem trackerUid?_replaceTrackerStatus (s : Store) (t : Tracker) (name : String) :
    (s.replaceTrackerStatus t).2.trackerUid? name = s.trackerUid? name := by
  rcases s.replaceTrackerStatus_cases t with ⟨f, left, -, heq⟩ | ⟨old, hold, -, heq⟩
  · rw [heq]
    rfl
  · rw [heq]
    by_cases hname : name = t.displayName
    · subst hname
      rw [trackerUid?_of_found hold]
      exact congrArg (Option.bind · _) (Keyed.get?_insert_self s.trackers _ _)
    · exact congrArg (Option.bind · _) (Keyed.get?_insert_of_ne s.trackers _ hname)

end Store

end Provision

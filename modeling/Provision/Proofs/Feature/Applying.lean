import Provision.Proofs.Feature.Outcome
import Provision.Proofs.Store.Applied

/-!
Applying objects in a scene that nobody else changes. What a feature does to the store is then known in full: an
object is created where there is none, put in place of a managed one, and left alone otherwise, and nothing of
this can be refused.
-/

namespace Provision

variable {E : Type}

/-! ### As the feature's -/

namespace Context

variable {m : Type → Type} [Monad m]

/-- Applying an object as the feature's is applying it with the options of the feature. -/
theorem applyObject_of_options [LawfulMonad m] {c : Context m} {options : List MetaOption}
    (hoptions : c.metaOptions = .ok options) (o : Object) :
    c.applyObject o = c.client.applyObject options o := by
  rw [applyObject, hoptions, liftM_ok_bind]

/-- Apply objects in turn as the feature's, up to the first that cannot be. -/
def applyEach (c : Context m) : List Object → ExceptT Failure m Unit
  | [] => pure ()
  | o :: rest => do
    let _ ← c.applyObject o
    c.applyEach rest

/-- What a manifest yields is applied as if the feature did it itself. -/
theorem applyEach_eq [LawfulMonad m] {c : Context m} {options : List MetaOption}
    (hoptions : c.metaOptions = .ok options) (objects : List Object) :
    c.applyEach objects = c.client.applyObjects options false objects := by
  induction objects with
  | nil => rfl
  | cons o rest ih =>
      rw [applyEach, ih, applyObject_of_options hoptions, Client.applyObjects, if_neg Bool.false_ne_true]

end Context

/-! ### In a scene -/

/-- A tracker but for its status and version. -/
def Tracker.record (t : Tracker) : Tracker :=
  { t with status := none, metadata := { t.metadata with resourceVersion := none } }

/-- Nothing changed in a store but the status and the version of a tracker. -/
structure Store.Reported (name : String) (s s' : Store) : Prop where
  objects : s'.objects = s.objects
  pendingConflicts : s'.pendingConflicts = s.pendingConflicts
  tracker (t : Tracker) (hfound : s.getTracker? name = some t) :
    ∃ t', s'.getTracker? name = some t' ∧ t'.record = t.record
  others (other : String) (hother : other ≠ name) : s'.getTracker? other = s.getTracker? other

namespace Scene

/-- Nobody is faster in creating an object. -/
theorem run_createIfAbsent {type : ResourceType} {o : Object} {w : Scene E}
    (habsent : w.store.get? type o.key = none) :
    ∃ w', (client.createIfAbsent type o).run.run w = (.ok true, w') ∧
      w'.store = (w.store.create type o).2 := by
  obtain ⟨w', hcreate, hstore⟩ := run_request (r := .create type o) (Store.create_of_absent habsent)
  refine ⟨w', ?_, ?_⟩
  · change (client.create type o).run.run w = _ at hcreate
    rw [Client.createIfAbsent, ExceptT.run_mk, StateT.run_bind, hcreate]
    rfl
  · rw [hstore, Store.create_of_absent habsent]

theorem run_replace {type : ResourceType} {o live : Object} {w : Scene E}
    (hlive : w.store.get? type o.key = some live) :
    ∃ stored w', (client.replace type (Client.replacementOf live o)).run.run w = (.ok stored, w') ∧
      w'.store = (w.store.replace type (Client.replacementOf live o)).2 := by
  obtain ⟨w', hreplace, hstore⟩ :=
    run_request (r := .replace type (Client.replacementOf live o)) (Store.replace_replacementOf hlive)
  exact ⟨_, w', hreplace, hstore.trans (congrArg Prod.snd (Store.replace_replacementOf hlive)).symm⟩

/-- Applying an object succeeds if the object says its type, and does to the store what it should. -/
theorem run_applyObject (options : List MetaOption) (o : Object) (w : Scene E) :
    ∃ outcome w', (client.applyObject options o).run.run w = (outcome, w') ∧
      w'.store = w.store.applied (MetaOption.applyAll options o) ∧
      outcome.map (fun _ => ()) = (MetaOption.applyAll options o).resourceType.map fun _ => () := by
  generalize hdesired : MetaOption.applyAll options o = desired
  unfold Client.applyObject
  rw [hdesired]
  dsimp only
  cases htype : desired.resourceType with
  | error f =>
      refine ⟨.error f, w, ?_, (Store.applied_of_error htype).symm, rfl⟩
      rw [run_liftM_error_bind]
      rfl
  | ok type =>
      rw [liftM_ok_bind]
      cases hfound : w.store.get? type desired.key with
      | none =>
          have hget : (client.get type desired.key).run.run w = (.ok none, w) := by
            rw [← hfound]
            rfl
          obtain ⟨w', hcreate, hstore⟩ := run_createIfAbsent hfound
          refine ⟨.ok .created, w', ?_, ?_, rfl⟩
          · rw [run_bind_of_ok _ hget]
            dsimp only
            rw [run_bind_of_ok _ hcreate]
            rfl
          · rw [hstore]
            simp only [Store.applied, htype, hfound]
      | some live =>
          have hget : (client.get type desired.key).run.run w = (.ok (some live), w) := by
            rw [← hfound]
            rfl
          rw [run_bind_of_ok _ hget]
          dsimp only
          by_cases hmanaged : live.isManaged
          · obtain ⟨stored, w', hreplace, hstore⟩ := run_replace (o := desired) hfound
            refine ⟨.ok .updated, w', ?_, ?_, rfl⟩
            · rw [if_pos hmanaged, run_bind_of_ok _ hreplace]
              rfl
            · rw [hstore]
              simp only [Store.applied, htype, hfound, hmanaged, if_true]
          · refine ⟨.ok .unchanged, w, ?_, (Store.applied_of_unmanaged htype hfound hmanaged).symm, rfl⟩
            rw [if_neg hmanaged]
            rfl

/-- The tracker that is there is kept; where there is none, one is created, and nobody interferes. -/
theorem run_ensureTracker (name : String) (spec : TrackerSpec) (owner : Option OwnerReference)
    (w : Scene E) :
    ∃ t w', (client.ensureTracker name spec owner).run.run w = (.ok t, w') ∧
      w'.store.getTracker? name = some t ∧
      (w' = w ∨ w.store.getTracker? name = none ∧
        w'.store = (w.store.createTracker (Client.freshTracker name spec owner)).2) := by
  cases hfound : w.store.getTracker? name with
  | some t =>
      have hget : (client.getTracker name).run.run w = (.ok (some t), w) := by
        rw [← hfound]
        rfl
      refine ⟨t, w, ?_, hfound, Or.inl rfl⟩
      rw [Client.ensureTracker, run_bind_of_ok _ hget]
      rfl
  | none =>
      have hget : (client.getTracker name).run.run w = (.ok none, w) := by
        rw [← hfound]
        rfl
      obtain ⟨w', hcreate, hstore⟩ :=
        run_request (r := .createTracker (Client.freshTracker name spec owner))
          (Store.createTracker_of_absent (t := Client.freshTracker name spec owner) hfound)
      change (client.createTracker _).run.run w = _ at hcreate
      refine ⟨w.store.newTracker (Client.freshTracker name spec owner), w', ?_, ?_, Or.inr ⟨rfl, ?_⟩⟩
      · rw [Client.ensureTracker, run_bind_of_ok _ hget]
        dsimp only
        rw [ExceptT.run_mk, StateT.run_bind, hcreate]
        rfl
      · rw [hstore]
        exact Keyed.get?_insert_self _ _ _
      · rw [hstore, Store.createTracker_of_absent (t := Client.freshTracker name spec owner) hfound]

section Status

variable [Clock (StateM E)] {name : String} (change : Timestamp → TrackerStatus → TrackerStatus)
  {t : Tracker} {w : Scene E} (hfound : w.store.getTracker? name = some t)
  (hquiet : w.store.pendingConflicts = 0)

include hfound hquiet

/-- If no status write is to be refused, one that is made at once succeeds. -/
theorem run_changeStatus :
    ∃ w', (client.changeStatus name change).run.run w = (.ok (), w') ∧
      w.store.Reported name w'.store := by
  obtain ⟨now, w₁, hsame, hrun⟩ := run_changeStatus_of_found name change hfound
  let written : Tracker := { t with status := some (change now (t.status.getD {})) }
  have hname : written.displayName = name :=
    w.reachable.valid.displayName_of_getTracker? (t := t) hfound
  have hcurrent : w₁.store.getTracker? written.displayName = some t := by
    rw [hname, hsame, hfound]
  have hreply := Store.replaceTrackerStatus_of_current (hsame ▸ hquiet) hcurrent rfl
  obtain ⟨w', hwrite, hstore⟩ := run_request (r := .replaceTrackerStatus written) hreply
  change (client.replaceTrackerStatus written).run.run w₁ = _ at hwrite
  rw [hname, hsame] at hstore
  refine ⟨w', ?_, ?_⟩
  · rw [hrun, run_bind_of_ok _ hwrite]
    rfl
  · rw [hstore]
    refine ⟨rfl, rfl, fun old hold => ?_, fun other hother => Keyed.get?_insert_of_ne _ _ hother⟩
    obtain rfl := Option.some.inj (hfound.symm.trans hold)
    exact ⟨_, Keyed.get?_insert_self _ _ _, rfl⟩

/-- There is nothing to retry. -/
theorem run_updateStatus (retry : Backoff) :
    ∃ w', (client.updateStatus retry name change).run.run w = (.ok (), w') ∧
      w.store.Reported name w'.store := by
  obtain ⟨w', hchange, hreported⟩ := run_changeStatus change hfound hquiet
  refine ⟨w', ?_, hreported⟩
  rw [Client.updateStatus, Backoff.retry]
  cases retry.maxAttempts - 1 with
  | zero => exact hchange
  | succ left =>
      rw [Backoff.attempt, ExceptT.run_mk, StateT.run_bind, hchange]
      rfl

end Status

end Scene

end Provision

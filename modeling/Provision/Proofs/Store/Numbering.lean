import Provision.Proofs.Store.Versions

/-!
One counter numbers everything in a store. Whatever operations are performed on an empty store, the things that
they store get the versions 1, 2, 3 and so on, no two objects or trackers in the store have one version, and the
counter stands at the last of them. A request that fails, or that deletes what is not there, leaves the contents,
the counter and the list of writes as they are; every other request that writes adds its line to that list.
-/

namespace Provision

namespace Keyed

universe u v

variable {κ : Type u} {α : Type v} [Ord κ]

/-- What is in a map after an insertion was there before or is what was put in. -/
theorem insert_subperm (m : Keyed κ α) (k : κ) (v : α) : (insert m k v).Subperm ((k, v) :: m) := by
  induction m with
  | nil => exact List.Subperm.refl _
  | cons head rest ih =>
      obtain ⟨key, value⟩ := head
      rw [insert]
      split
      · exact List.Subperm.refl _
      · exact List.Sublist.subperm ((List.sublist_cons_self _ rest).cons_cons _)
      · have hrest : ((key, value) :: insert rest k v).Subperm ((key, value) :: (k, v) :: rest) :=
          List.subperm_cons (key, value) |>.mpr ih
        exact hrest.trans (List.Perm.swap _ _ rest).subperm

theorem map_insert_subperm {β : Type*} (f : κ × α → β) (m : Keyed κ α) (k : κ) (v : α) :
    ((insert m k v).map f).Subperm (f (k, v) :: m.map f) := by
  obtain ⟨entries, hperm, hsublist⟩ := insert_subperm m k v
  exact ⟨entries.map f, hperm.map f, hsublist.map f⟩

end Keyed

namespace Store

/-- The versions of all that is stored. -/
def versions (s : Store) : List (Option String) :=
  s.objects.map (fun e => e.2.version) ++ s.trackers.map (fun e => e.2.version)

/-- The version that goes with a number. -/
def versionOf (n : Nat) : Option String := some (toString n)

theorem versionOf_inj {m n : Nat} (hsame : versionOf m = versionOf n) : m = n :=
  Nat.repr_inj.mp (Option.some.inj hsame)

/-! ### What an operation stores -/

/-- The version of what a request stores, if it succeeds. -/
def Request.stored? : Store.Request → Store → Option (Option String)
  | .create type o, s => (s.create type o).1.toOption.map Object.version
  | .replace type o, s => (s.replace type o).1.toOption.map Object.version
  | .mergePatch type key patch, s => (s.mergePatch type key patch).1.toOption.map Object.version
  | .createTracker t, s => (s.createTracker t).1.toOption.map Tracker.version
  | .replaceTrackerStatus t, s => (s.replaceTrackerStatus t).1.toOption.map Tracker.version
  | .get _ _, _ | .delete _ _, _ | .list _ _ _, _ | .getTracker _, _ | .deleteTracker _, _ => none

end Store

/-- The version of what an operation stores. An object that is put in is stored in the place that its type and
its metadata give it. -/
def Operation.stored? : Operation → Store → Option (Option String)
  | request r, s => r.stored? s
  | insert o, s => o.types.bind fun t =>
    (Keyed.get? (s.insert o).objects ⟨t.apiVersion, t.kind, o.metadata.space, o.displayName⟩).map
      Object.version
  | insertTracker t, s => some (s.insertTracker t).1.version
  | refuseStatus _, _ => none

namespace Store

variable {s s' : Store} {stored : Option (Option String)}

/-- What an operation can do to the contents of a store: nothing is added, or one object or one tracker is put in
with the next number. -/
inductive Changes (s s' : Store) : Option (Option String) → Prop
  | loses (hobjects : s'.objects.Sublist s.objects) (htrackers : s'.trackers.Sublist s.trackers)
      (hnumber : s'.lastNumber = s.lastNumber) : Changes s s' none
  | object (key : StoreKey) (o : Object) (hversion : o.version = versionOf s.nextNumber)
      (hobjects : s'.objects = Keyed.insert s.objects key o) (htrackers : s'.trackers = s.trackers)
      (hnumber : s'.lastNumber = s.nextNumber) : Changes s s' (some o.version)
  | tracker (name : String) (t : Tracker) (hversion : t.version = versionOf s.nextNumber)
      (hobjects : s'.objects = s.objects) (htrackers : s'.trackers = Keyed.insert s.trackers name t)
      (hnumber : s'.lastNumber = s.nextNumber) : Changes s s' (some t.version)

theorem Changes.refl (s : Store) : Changes s s none :=
  .loses (List.Sublist.refl _) (List.Sublist.refl _) rfl

theorem create_changes (s : Store) (type : ResourceType) (o : Object) :
    Changes s (s.create type o).2 ((s.create type o).1.toOption.map Object.version) := by
  cases hlive : s.get? type o.key with
  | none =>
      rw [create_of_absent hlive]
      exact .object (.of type o.key) (s.newObject o) rfl rfl rfl rfl
  | some live =>
      rw [create_of_present hlive]
      exact Changes.refl s

theorem replace_changes (s : Store) (type : ResourceType) (o : Object) :
    Changes s (s.replace type o).2 ((s.replace type o).1.toOption.map Object.version) := by
  cases hlive : s.get? type o.key with
  | none =>
      rw [replace_of_absent hlive]
      exact Changes.refl s
  | some live =>
      rw [replace_of_present hlive]
      split
      · exact .object (.of type o.key) (s.successor live o) rfl rfl rfl rfl
      · exact Changes.refl s

theorem mergePatch_changes (s : Store) (type : ResourceType) (key : ObjectKey) (patch : Json) :
    Changes s (s.mergePatch type key patch).2
      ((s.mergePatch type key patch).1.toOption.map Object.version) := by
  obtain ⟨f, heq⟩ | ⟨live, o, -, -, heq⟩ := s.mergePatch_cases type key patch
  · rw [heq]
    exact Changes.refl s
  · rw [heq]
    exact .object (.of type key) (s.reversioned o) rfl rfl rfl rfl

theorem delete_changes (s : Store) (type : ResourceType) (key : ObjectKey) :
    Changes s (s.delete type key).2 none := by
  refine .loses (delete_objects_sublist s type key) ?_ ?_
  · rw [delete_trackers]
  · rw [delete_lastNumber]

theorem createTracker_changes (s : Store) (t : Tracker) :
    Changes s (s.createTracker t).2 ((s.createTracker t).1.toOption.map Tracker.version) := by
  cases hold : s.getTracker? t.displayName with
  | none =>
      rw [createTracker_of_absent hold]
      exact .tracker (s.newTracker t).displayName (s.newTracker t) rfl rfl rfl rfl
  | some old =>
      rw [createTracker_of_present hold]
      exact Changes.refl s

theorem replaceTrackerStatus_changes (s : Store) (t : Tracker) :
    Changes s (s.replaceTrackerStatus t).2
      ((s.replaceTrackerStatus t).1.toOption.map Tracker.version) := by
  rcases s.replaceTrackerStatus_cases t with ⟨f, left, -, heq⟩ | ⟨old, -, -, heq⟩
  · rw [heq]
    exact .loses (List.Sublist.refl _) (List.Sublist.refl _) rfl
  · rw [heq]
    exact .tracker t.displayName (s.revised old t.status) rfl rfl rfl rfl

theorem deleteTracker_changes (s : Store) (name : String) : Changes s (s.deleteTracker name).2 none := by
  unfold deleteTracker
  split
  · exact Changes.refl s
  · refine .loses (collectOwned_objects_sublist _ _) ?_ ?_
    · rw [collectOwned_trackers]
      exact Keyed.erase_sublist s.trackers name
    · simp [record]

/-- An object as it is kept when it is put in. -/
def inserted (s : Store) (o : Object) : Object :=
  { o with metadata := { versioned s.nextNumber o.metadata with
    uid := some (o.metadata.uid.getD (uidOf s.nextNumber)) } }

/-- An object that is put in is found in the place that its type and its metadata give it. -/
theorem insert_of_typed {o : Object} {t : TypeMeta} (htypes : o.types = some t) :
    s.insert o = s.keep ⟨t.apiVersion, t.kind, o.metadata.space, o.displayName⟩ (s.inserted o) := by
  unfold insert
  split
  · next hnone =>
      rw [htypes] at hnone
      cases hnone
  · next other hother =>
      rw [htypes] at hother
      cases hother
      rfl

theorem insert_changes (s : Store) (o : Object) :
    Changes s (s.insert o) ((Operation.insert o).stored? s) := by
  cases htypes : o.types with
  | none =>
      have hstored : (Operation.insert o).stored? s = none := by
        simp only [Operation.stored?, htypes, Option.bind_none]
      have hsame : s.insert o = s := by
        unfold insert
        rw [htypes]
      rw [hstored, hsame]
      exact Changes.refl s
  | some t =>
      have hfound := Keyed.get?_insert_self s.objects
        ⟨t.apiVersion, t.kind, o.metadata.space, o.displayName⟩ (s.inserted o)
      have hstored : (Operation.insert o).stored? s = some (s.inserted o).version := by
        simp only [Operation.stored?, htypes, Option.bind_some, insert_of_typed htypes, keep, hfound,
          Option.map_some]
      rw [hstored, insert_of_typed htypes]
      exact .object _ (s.inserted o) rfl rfl rfl rfl

/-- The step lemma: what the answer to a request says that it stored is all that is new. -/
theorem perform_changes (r : Request) (s : Store) : Changes s (r.perform s).2 (r.stored? s) := by
  cases r with
  | get type key => exact Changes.refl s
  | create type o => exact create_changes s type o
  | replace type o => exact replace_changes s type o
  | mergePatch type key patch => exact mergePatch_changes s type key patch
  | delete type key => exact delete_changes s type key
  | list type space selector => exact Changes.refl s
  | getTracker name => exact Changes.refl s
  | createTracker t => exact createTracker_changes s t
  | replaceTrackerStatus t => exact replaceTrackerStatus_changes s t
  | deleteTracker name => exact deleteTracker_changes s name

theorem apply_changes (op : Operation) (s : Store) : Changes s (op.apply s) (op.stored? s) := by
  cases op with
  | request r => exact perform_changes r s
  | insert o => exact insert_changes s o
  | insertTracker t => exact .tracker (s.newTracker t).displayName (s.newTracker t) rfl rfl rfl rfl
  | refuseStatus n => exact .loses (List.Sublist.refl _) (List.Sublist.refl _) rfl

/-! ### Numbers -/

/-- What is stored gets the next number, which the counter then stands at. -/
theorem Changes.number (hchanges : Changes s s' stored) :
    s'.lastNumber = s.lastNumber + stored.toList.length ∧
      stored.toList = (List.range' (s.lastNumber + 1) stored.toList.length).map versionOf := by
  cases hchanges with
  | loses hobjects htrackers hnumber => exact ⟨hnumber, rfl⟩
  | object key o hversion hobjects htrackers hnumber =>
      rw [hversion]
      exact ⟨hnumber, rfl⟩
  | tracker name t hversion hobjects htrackers hnumber =>
      rw [hversion]
      exact ⟨hnumber, rfl⟩

/-- Nothing new comes up but the version of what is stored. -/
theorem Changes.versions_subperm (hchanges : Changes s s' stored) :
    s'.versions.Subperm (stored.toList ++ s.versions) := by
  unfold versions
  cases hchanges with
  | loses hobjects htrackers hnumber =>
      exact ((hobjects.map _).append (htrackers.map _)).subperm
  | object key o hversion hobjects htrackers hnumber =>
      rw [hobjects, htrackers]
      have hinserted := Keyed.map_insert_subperm (fun e => e.2.version) s.objects key o
      exact List.subperm_append_right _ |>.mpr hinserted
  | tracker name t hversion hobjects htrackers hnumber =>
      rw [hobjects, htrackers]
      have hinserted := Keyed.map_insert_subperm (fun e => e.2.version) s.trackers name t
      have happended := List.subperm_append_left (s.objects.map fun e => e.2.version) |>.mpr hinserted
      exact happended.trans List.perm_middle.subperm

/-- What is stored is there. -/
theorem Changes.mem_versions (hchanges : Changes s s' stored) : ∀ version ∈ stored, version ∈ s'.versions := by
  intro version hstored
  unfold versions
  cases hchanges with
  | loses hobjects htrackers hnumber => simp at hstored
  | object key o hversion hobjects htrackers hnumber =>
      obtain rfl := Option.mem_some_iff.mp hstored
      have hentry := Keyed.mem_of_get? (Keyed.get?_insert_self s.objects key o)
      rw [hobjects]
      exact List.mem_append_left _ (List.mem_map.mpr ⟨_, hentry, rfl⟩)
  | tracker name t hversion hobjects htrackers hnumber =>
      obtain rfl := Option.mem_some_iff.mp hstored
      have hentry := Keyed.mem_of_get? (Keyed.get?_insert_self s.trackers name t)
      rw [htrackers]
      exact List.mem_append_right _ (List.mem_map.mpr ⟨_, hentry, rfl⟩)

/-- Every version goes with a number up to that of the counter, and no two are the same. -/
structure Numbered (s : Store) : Prop where
  number : ∀ version ∈ s.versions, ∃ n ≤ s.lastNumber, version = versionOf n
  distinct : s.versions.Nodup

/-- A version that is new is none of those that are there. -/
theorem Numbered.fresh (hnumbered : s.Numbered) (hchanges : Changes s s' stored) :
    (stored.toList ++ s.versions).Nodup := by
  obtain ⟨-, hstored⟩ := hchanges.number
  cases hcase : stored with
  | none => exact hnumbered.distinct
  | some version =>
      rw [hcase] at hstored
      have hversion : version = versionOf (s.lastNumber + 1) := List.head_eq_of_cons_eq hstored
      refine List.nodup_cons.mpr ⟨?_, hnumbered.distinct⟩
      intro hmem
      obtain ⟨n, hle, hold⟩ := hnumbered.number version hmem
      have hsame := versionOf_inj (hversion.symm.trans hold)
      omega

theorem Numbered.step (hnumbered : s.Numbered) (hchanges : Changes s s' stored) : s'.Numbered where
  number version hmem := by
    obtain ⟨hnumber, hstored⟩ := hchanges.number
    rcases List.mem_append.mp (hchanges.versions_subperm.subset hmem) with hnew | hold
    · rw [hstored, List.mem_map] at hnew
      obtain ⟨n, hrange, rfl⟩ := hnew
      have hbound := (List.mem_range'_1.mp hrange).2
      exact ⟨n, by omega, rfl⟩
    · obtain ⟨n, hle, rfl⟩ := hnumbered.number version hold
      exact ⟨n, by omega, rfl⟩
  distinct := by
    obtain ⟨kept, hperm, hsublist⟩ := hchanges.versions_subperm
    exact hperm.nodup_iff.mp (hsublist.nodup (hnumbered.fresh hchanges))

/-! ### Runs -/

/-- The store that some operations make of an empty one. -/
def after (ops : List Operation) : Store :=
  ops.foldl (fun s op => op.apply s) {}

/-- The versions of all that some operations store, from a store on. -/
def storedBy : List Operation → Store → List (Option String)
  | [], _ => []
  | op :: rest, s => (op.stored? s).toList ++ storedBy rest (op.apply s)

theorem after_concat (ops : List Operation) (op : Operation) : after (ops ++ [op]) = op.apply (after ops) := by
  simp [after]

theorem storedBy_concat (ops : List Operation) (op : Operation) (s : Store) :
    storedBy (ops ++ [op]) s =
      storedBy ops s ++ (op.stored? (ops.foldl (fun s op => op.apply s) s)).toList := by
  induction ops generalizing s with
  | nil => simp [storedBy]
  | cons first rest ih => simp [storedBy, ih]

theorem after_numbered (ops : List Operation) : (after ops).Numbered := by
  induction ops using List.reverseRecOn with
  | nil => exact ⟨by simp [after, versions], by simp [after, versions]⟩
  | append_singleton ops op ih =>
      rw [after_concat]
      exact ih.step (apply_changes op (after ops))

/-- The run lemma: numbers are taken in turn. -/
theorem storedBy_eq_range (ops : List Operation) :
    storedBy ops {} = (List.range' 1 (after ops).lastNumber).map versionOf := by
  induction ops using List.reverseRecOn with
  | nil => rfl
  | append_singleton ops op ih =>
      obtain ⟨hnumber, hstored⟩ := (apply_changes op (after ops)).number
      rw [storedBy_concat, after_concat, ih, hnumber, ← List.range'_append_1, List.map_append, Nat.add_comm 1,
        ← hstored]
      rfl

theorem lastNumber_le_length (ops : List Operation) : (after ops).lastNumber ≤ ops.length := by
  induction ops using List.reverseRecOn with
  | nil => exact Nat.le_refl 0
  | append_singleton ops op ih =>
      obtain ⟨hnumber, -⟩ := (apply_changes op (after ops)).number
      have hone : (op.stored? (after ops)).toList.length ≤ 1 := by
        cases op.stored? (after ops) <;> simp
      rw [after_concat, hnumber, List.length_append, List.length_singleton]
      omega

/-! ### Failures and the list of writes -/

/-- A request deletes what is not there. -/
def Request.DeletesNothing : Store.Request → Store → Prop
  | .delete type key, s => s.get? type key = none
  | .deleteTracker name, s => s.getTracker? name = none
  | _, _ => False

/-- A request fails, or deletes what is not there. -/
def Request.Ineffective (r : Store.Request) (s : Store) : Prop :=
  (∃ f, (r.perform s).1 = .error f) ∨ r.DeletesNothing s

/-- The line for a request in the list of writes; what only reads has none. -/
def Request.line? : Store.Request → Option String
  | .create type o => some ("create " ++ type.kind ++ " " ++ o.key.text)
  | .replace type o => some ("replace " ++ type.kind ++ " " ++ o.key.text)
  | .mergePatch type key _ => some ("patch " ++ type.kind ++ " " ++ key.text)
  | .delete type key => some ("delete " ++ type.kind ++ " " ++ key.text)
  | .createTracker t => some ("create FeatureTracker " ++ t.displayName)
  | .replaceTrackerStatus t => some ("status FeatureTracker " ++ t.displayName)
  | .deleteTracker name => some ("delete FeatureTracker " ++ name)
  | .get _ _ | .list _ _ _ | .getTracker _ => none

/-- Two stores have the same contents, counter and list of writes. -/
structure SameRecord (s s' : Store) : Prop where
  objects : s'.objects = s.objects
  trackers : s'.trackers = s.trackers
  lastNumber : s'.lastNumber = s.lastNumber
  writes : s'.writes = s.writes

theorem SameRecord.refl (s : Store) : SameRecord s s := ⟨rfl, rfl, rfl, rfl⟩

@[simp] theorem collectOwned_writes (s : Store) (uid : Option String) :
    (s.collectOwned uid).writes = s.writes := by
  cases uid <;> rfl

/-- How a request ends: without effect, or with its line in the list of writes. -/
def Ends (s : Store) (r : Request) : Prop :=
  (r.Ineffective s ∧ SameRecord s (r.perform s).2) ∨
    (¬ r.Ineffective s ∧ (r.perform s).2.writes = s.writes ++ r.line?.toList)

/-- A request that fails has no effect if the store stays as it is. -/
theorem Ends.of_error {r : Request} {f : Failure} (herror : (r.perform s).1 = .error f)
    (hsame : SameRecord s (r.perform s).2) : s.Ends r :=
  Or.inl ⟨Or.inl ⟨f, herror⟩, hsame⟩

/-- A request that succeeds, and does not delete what is not there, has an effect. -/
theorem Ends.of_ok {r : Request} {a : r.Result} (hok : (r.perform s).1 = .ok a) (hdeletes : ¬ r.DeletesNothing s)
    (hwrites : (r.perform s).2.writes = s.writes ++ r.line?.toList) : s.Ends r := by
  refine Or.inr ⟨?_, hwrites⟩
  rintro (⟨f, herror⟩ | hnothing)
  · rw [hok] at herror
    cases herror
  · exact hdeletes hnothing

theorem create_ends (s : Store) (type : ResourceType) (o : Object) : s.Ends (.create type o) := by
  cases hlive : s.get? type o.key with
  | none =>
      have hperform : (Request.create type o).perform s = _ := create_of_absent hlive
      exact .of_ok (congrArg Prod.fst hperform) id (by rw [hperform]; rfl)
  | some live =>
      have hperform : (Request.create type o).perform s = _ := create_of_present hlive
      exact .of_error (congrArg Prod.fst hperform) (by rw [hperform]; exact .refl s)

theorem replace_ends (s : Store) (type : ResourceType) (o : Object) : s.Ends (.replace type o) := by
  cases hlive : s.get? type o.key with
  | none =>
      have hperform : (Request.replace type o).perform s = _ := replace_of_absent hlive
      exact .of_error (congrArg Prod.fst hperform) (by rw [hperform]; exact .refl s)
  | some live =>
      have hperform : (Request.replace type o).perform s = _ := replace_of_present hlive
      by_cases hadmits : admits live o
      · rw [if_pos hadmits] at hperform
        exact .of_ok (congrArg Prod.fst hperform) id (by rw [hperform]; rfl)
      · rw [if_neg hadmits] at hperform
        exact .of_error (congrArg Prod.fst hperform) (by rw [hperform]; exact .refl s)

theorem mergePatch_ends (s : Store) (type : ResourceType) (key : ObjectKey) (patch : Json) :
    s.Ends (.mergePatch type key patch) := by
  obtain ⟨f, heq⟩ | ⟨live, o, -, -, heq⟩ := s.mergePatch_cases type key patch
  · have hperform : (Request.mergePatch type key patch).perform s = _ := heq
    exact .of_error (congrArg Prod.fst hperform) (by rw [hperform]; exact .refl s)
  · have hperform : (Request.mergePatch type key patch).perform s = _ := heq
    exact .of_ok (congrArg Prod.fst hperform) id (by rw [hperform]; rfl)

theorem delete_ends (s : Store) (type : ResourceType) (key : ObjectKey) : s.Ends (.delete type key) := by
  cases hlive : s.get? type key with
  | none =>
      have hperform : (Request.delete type key).perform s = (.ok (), s) := delete_of_absent hlive
      exact Or.inl ⟨Or.inr hlive, by rw [hperform]; exact .refl s⟩
  | some live =>
      have hthere : ¬ (Request.delete type key).DeletesNothing s := by
        simp [Request.DeletesNothing, hlive]
      have hperform : (Request.delete type key).perform s = _ := delete_of_present hlive
      exact .of_ok (congrArg Prod.fst hperform) hthere (by rw [hperform, collectOwned_writes]; rfl)

theorem createTracker_ends (s : Store) (t : Tracker) : s.Ends (.createTracker t) := by
  cases hold : s.getTracker? t.displayName with
  | none =>
      have hperform : (Request.createTracker t).perform s = _ := createTracker_of_absent hold
      exact .of_ok (congrArg Prod.fst hperform) id (by rw [hperform]; rfl)
  | some old =>
      have hperform : (Request.createTracker t).perform s = _ := createTracker_of_present hold
      exact .of_error (congrArg Prod.fst hperform) (by rw [hperform]; exact .refl s)

theorem replaceTrackerStatus_ends (s : Store) (t : Tracker) : s.Ends (.replaceTrackerStatus t) := by
  rcases s.replaceTrackerStatus_cases t with ⟨f, left, -, heq⟩ | ⟨old, -, -, heq⟩
  · have hperform : (Request.replaceTrackerStatus t).perform s = _ := heq
    exact .of_error (congrArg Prod.fst hperform) (by rw [hperform]; exact ⟨rfl, rfl, rfl, rfl⟩)
  · have hperform : (Request.replaceTrackerStatus t).perform s = _ := heq
    exact .of_ok (congrArg Prod.fst hperform) id (by rw [hperform]; rfl)

theorem deleteTracker_ends (s : Store) (name : String) : s.Ends (.deleteTracker name) := by
  cases hold : s.getTracker? name with
  | none =>
      have hperform : (Request.deleteTracker name).perform s = (.ok (), s) := by
        simp only [Request.perform, deleteTracker, hold]
      exact Or.inl ⟨Or.inr hold, by rw [hperform]; exact .refl s⟩
  | some t =>
      have hthere : ¬ (Request.deleteTracker name).DeletesNothing s := by
        simp [Request.DeletesNothing, hold]
      refine .of_ok (a := ()) ?_ hthere ?_
      · simp only [Request.perform, deleteTracker, hold]
      · simp only [Request.perform, deleteTracker, hold, collectOwned_writes]
        rfl

/-- Whatever is asked of a store, it has no effect or the list of writes grows by its line. -/
theorem perform_ends (r : Request) (s : Store) : s.Ends r := by
  have hreads : ∀ r : Request, (r.perform s).2 = s → r.line? = none →
      (∃ a, (r.perform s).1 = .ok a) → ¬ r.DeletesNothing s → s.Ends r := by
    rintro r hsame hline ⟨a, hok⟩ hdeletes
    exact .of_ok hok hdeletes (by rw [hsame, hline]; simp)
  cases r with
  | get type key => exact hreads _ rfl rfl ⟨_, rfl⟩ id
  | create type o => exact create_ends s type o
  | replace type o => exact replace_ends s type o
  | mergePatch type key patch => exact mergePatch_ends s type key patch
  | delete type key => exact delete_ends s type key
  | list type space selector => exact hreads _ rfl rfl ⟨_, rfl⟩ id
  | getTracker name => exact hreads _ rfl rfl ⟨_, rfl⟩ id
  | createTracker t => exact createTracker_ends s t
  | replaceTrackerStatus t => exact replaceTrackerStatus_ends s t
  | deleteTracker name => exact deleteTracker_ends s name

/-! ### The record of a run -/

/-- Operations on a store are numbered and recorded. After any operations every version goes with a number up to
that of the counter, and no two are the same; what was stored got 1, 2, 3 and so on in turn, so that the counter
is no larger than the number of operations; what the next operation stores is there with the version after all of
these. A request that fails, or deletes what is not there, leaves contents, counter and list of writes alone; any
other request adds exactly its line to the list, if it has one. -/
theorem numbered_and_recorded (ops : List Operation) :
    (after ops).Numbered ∧
    storedBy ops {} = (List.range' 1 (after ops).lastNumber).map versionOf ∧
    (after ops).lastNumber ≤ ops.length ∧
    (∀ op : Operation, ∀ version ∈ op.stored? (after ops),
      version = versionOf ((after ops).lastNumber + 1) ∧ version ∈ (op.apply (after ops)).versions) ∧
    ∀ r : Request,
      (r.Ineffective (after ops) → SameRecord (after ops) (r.perform (after ops)).2) ∧
      (¬ r.Ineffective (after ops) →
        (r.perform (after ops)).2.writes = (after ops).writes ++ r.line?.toList) := by
  refine ⟨after_numbered ops, storedBy_eq_range ops, lastNumber_le_length ops, ?_, ?_⟩
  · intro op version hstored
    have hchanges := apply_changes op (after ops)
    refine ⟨?_, hchanges.mem_versions version hstored⟩
    have hnumber := hchanges.number.2
    rw [Option.mem_def.mp hstored] at hnumber
    exact List.head_eq_of_cons_eq hnumber
  · intro r
    rcases perform_ends r (after ops) with ⟨hnone, hsame⟩ | ⟨hsome, hwrites⟩
    · exact ⟨fun _ => hsame, fun hsome => absurd hnone hsome⟩
    · exact ⟨fun hnone => absurd hnone hsome, fun _ => hwrites⟩

/-! ### A patch that cannot be read -/

namespace UnreadablePatch

def configMap : ResourceType := ResourceType.of "v1" "ConfigMap"

def settings : Object where
  types := some ⟨"v1", "ConfigMap"⟩
  metadata := { name := some "settings", space := some "svc" }

/-- A tracker is put in, and a client creates an object. -/
def ops : List Operation := [.insertTracker (Tracker.make "svc-mesh" {}), .request (.create configMap settings)]

/-- Metadata that are no object. -/
def patch : Request := .mergePatch configMap settings.key (.object [("metadata", .int 1)])

def removal : Request := .delete configMap settings.key

/-- The patch fails after it is merged and leaves nothing behind; the removal is recorded. -/
theorem patch_leaves_nothing : storedBy ops {} = [some "1", some "2"] ∧
    (after ops).versions = [some "2", some "1"] ∧
    patch.Ineffective (after ops) ∧ SameRecord (after ops) (patch.perform (after ops)).2 ∧
    ¬ removal.Ineffective (after ops) ∧
    (removal.perform (after ops)).2.writes = ["create ConfigMap svc/settings", "delete ConfigMap svc/settings"] := by
  obtain ⟨-, hstored, -, -, hends⟩ := numbered_and_recorded ops
  have hpatch : patch.Ineffective (after ops) := Or.inl ⟨_, rfl⟩
  have hremoval : ¬ removal.Ineffective (after ops) := by
    rintro (⟨f, herror⟩ | hnothing)
    · cases herror
    · cases hnothing
  refine ⟨hstored, ?_, hpatch, (hends patch).1 hpatch, hremoval, (hends removal).2 hremoval⟩
  decide

end UnreadablePatch

end Store

end Provision

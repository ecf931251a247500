import Provision.Proofs.Feature.Idempotence
import Provision.Proofs.Store.Numbering

/-!
What applying the objects of a manifest comes to. Each of them takes one of three ways: it is created where there is
nothing, put in place of a managed object, or left out. Objects with places of their own do not get in each other's
way, so what a place holds in the end depends on what it held at the start and on the one object that belongs there.
-/

namespace Provision

variable {E : Type}

/-! ### What options do -/

namespace Object

/-- The owners that an object names. -/
def owners (o : Object) : List OwnerReference :=
  o.metadata.ownerReferences.getD []

/-- An object but for what options can change. -/
def bare (o : Object) : Object :=
  { o with metadata := { o.metadata with ownerReferences := none, annotations := none } }

/-- An object with what a store chooses for it: a uid, and the version that goes with a number. -/
def stamped (o : Object) (uid : Option String) (n : Nat) : Object :=
  { o with metadata := { o.metadata with uid, resourceVersion := Store.versionOf n } }

end Object

namespace MetaOption

variable {o : Object}

/-- The owner that an option names. -/
def owner? : MetaOption → Option OwnerReference
  | ownedBy owner => some owner
  | annotate _ _ => none

/-- The value that an option sets for an annotation. -/
def value? (key : String) : MetaOption → Option String
  | ownedBy _ => none
  | annotate key' value => if key = key' then some value else none

/-- The owners among some that are new where some uids are named: the first with each uid that is not. -/
def newOwners (named : List String) : List OwnerReference → List OwnerReference
  | [] => []
  | owner :: rest =>
    if owner.uid ∈ named then newOwners named rest else owner :: newOwners (named ++ [owner.uid]) rest

theorem isOwnedBy_iff (o : Object) (uid : String) :
    o.metadata.isOwnedBy uid = true ↔ uid ∈ o.owners.map OwnerReference.uid := by
  simp [Metadata.isOwnedBy, Object.owners]

/-- Naming an owner leaves the owners that were named, with the new one after them unless its uid was among theirs. -/
theorem owners_ownedBy (owner : OwnerReference) (o : Object) :
    ((ownedBy owner).apply o).owners =
      if owner.uid ∈ o.owners.map OwnerReference.uid then o.owners else o.owners ++ [owner] := by
  simp only [← isOwnedBy_iff]
  rfl

theorem applyAll_cons (option : MetaOption) (rest : List MetaOption) (o : Object) :
    applyAll (option :: rest) o = applyAll rest (option.apply o) := rfl

/-- Options add the new owners that they name. -/
theorem owners_applyAll (options : List MetaOption) (o : Object) :
    (applyAll options o).owners =
      o.owners ++ newOwners (o.owners.map OwnerReference.uid) (options.filterMap owner?) := by
  induction options generalizing o with
  | nil => simp [applyAll, newOwners]
  | cons option rest ih =>
      rw [applyAll_cons, ih]
      cases option with
      | annotate key value => rfl
      | ownedBy owner =>
          have hnamed : (ownedBy owner :: rest).filterMap owner? = owner :: rest.filterMap owner? := rfl
          rw [owners_ownedBy, hnamed, newOwners]
          by_cases hnamed : owner.uid ∈ o.owners.map OwnerReference.uid
          · simp only [if_pos hnamed]
          · simp only [if_neg hnamed, List.map_append, List.map_singleton, List.append_assoc, List.singleton_append]

/-- Of the values that options set for an annotation, the last one counts. -/
theorem get?_annotations_applyAll (options : List MetaOption) (o : Object) (key : String) :
    Keyed.get? ((applyAll options o).metadata.annotations.getD []) key =
      (options.reverse.findSome? (value? key)).or (Keyed.get? (o.metadata.annotations.getD []) key) := by
  induction options using List.reverseRecOn with
  | nil => rfl
  | append_singleton options option ih =>
      have hlast : applyAll (options ++ [option]) o = option.apply (applyAll options o) := List.foldl_concat ..
      rw [hlast, List.reverse_concat, List.findSome?_cons]
      cases option with
      | ownedBy owner => exact ih
      | annotate key' value =>
          by_cases hkey : key = key'
          · subst hkey
            simp only [value?, if_true, Option.some_or]
            exact Keyed.get?_insert_self _ key value
          · simp only [value?, if_neg hkey]
            rw [← ih]
            exact Keyed.get?_insert_of_ne _ value hkey

/-- Options change nothing but owners and annotations. -/
theorem bare_applyAll (options : List MetaOption) (o : Object) : (applyAll options o).bare = o.bare := by
  induction options generalizing o with
  | nil => rfl
  | cons option rest ih =>
      rw [applyAll_cons, ih]
      cases option with
      | ownedBy owner => rfl
      | annotate key value => rfl

/-- In particular they leave an object in its place. -/
theorem place?_applyAll (options : List MetaOption) (o : Object) : (applyAll options o).place? = o.place? := by
  have hplace : ∀ o : Object, o.place? = o.bare.place? := fun _ => rfl
  rw [hplace, bare_applyAll, ← hplace]

theorem key_applyAll (options : List MetaOption) (o : Object) : (applyAll options o).key = o.key := by
  have hkey : ∀ o : Object, o.key = o.bare.key := fun _ => rfl
  rw [hkey, bare_applyAll, ← hkey]

end MetaOption

theorem Object.exists_place? {o : Object} (htyped : o.types ≠ none) : ∃ key, o.place? = some key := by
  obtain ⟨type, htype⟩ := o.isTyped_iff.mpr htyped
  exact ⟨.of type o.key, by simp only [place?, htype]⟩

namespace Store

variable {s s' : Store} {o : Object} {key : StoreKey} {docs : List Object}

/-! ### New numbers -/

/-- A number that a store has not taken. Its version is in use nowhere, and its uid is none that the store ever chose,
so that no tracker has it. A uid that somebody else wrote into an object is not the store's. -/
structure Fresh (s : Store) (n : Nat) : Prop where
  later : s.lastNumber < n
  version : versionOf n ∉ s.versions
  uid : ∀ taken ≤ s.lastNumber, uidOf n ≠ uidOf taken
  tracker : ∀ entry ∈ s.trackers, entry.2.metadata.uid ≠ some (uidOf n)

theorem Reachable.numbered (hreachable : s.Reachable) : s.Numbered := by
  induction hreachable with
  | empty => exact after_numbered []
  | apply op hbefore ih => exact ih.step (apply_changes op _)

theorem Reachable.fresh (hreachable : s.Reachable) {n : Nat} (hlater : s.lastNumber < n) : s.Fresh n where
  later := hlater
  version hmem := by
    obtain ⟨taken, hle, hversion⟩ := hreachable.numbered.number _ hmem
    have := versionOf_inj hversion
    omega
  uid taken hle huid := by
    have := uidOf_inj huid
    omega
  tracker entry hentry huid := by
    obtain ⟨taken, hle, hmark⟩ := hreachable.marked.number entry hentry
    have := uidOf_inj (Option.some.inj (huid.symm.trans hmark))
    omega

theorem lastNumber_le_applied (s : Store) (o : Object) : s.lastNumber ≤ (s.applied o).lastNumber := by
  rcases s.applied_cases o with hsame | ⟨type, stored, verb, -, -, hkept⟩
  · rw [hsame]
  · rw [hkept]
    exact Nat.le_succ s.lastNumber

theorem lastNumber_le_appliedAll (s : Store) (docs : List Object) :
    s.lastNumber ≤ (s.appliedAll docs).lastNumber := by
  induction docs generalizing s with
  | nil => exact Nat.le_refl _
  | cons o rest ih => exact Nat.le_trans (s.lastNumber_le_applied o) (ih (s.applied o))

/-! ### One place -/

/-- What an object leaves in its place, by what was there: itself with a new uid and version if there was nothing,
itself with a new version and the uid that was there if that was managed, and otherwise what was there. -/
def Leaves (s : Store) (o : Object) : Option Object → Object → Prop
  | none, stored => ∃ n, s.Fresh n ∧ stored = o.stamped (some (uidOf n)) n
  | some live, stored =>
    (live.isManaged = true ∧ ∃ n, s.Fresh n ∧ stored = o.stamped live.metadata.uid n) ∨
      (live.isManaged = false ∧ stored = live)

/-- The step lemma. Objects with other places may have been applied before. -/
theorem leaves_applied (hreachable : s.Reachable) (hnumber : s.lastNumber ≤ s'.lastNumber)
    (hsame : Keyed.get? s'.objects key = Keyed.get? s.objects key) (hplace : o.place? = some key) :
    ∃ stored, Keyed.get? (s'.applied o).objects key = some stored ∧
      s.Leaves o (Keyed.get? s.objects key) stored := by
  have hfresh : s.Fresh s'.nextNumber := hreachable.fresh (Nat.lt_succ_of_le hnumber)
  cases hlive : Keyed.get? s.objects key with
  | none =>
      rw [hlive] at hsame
      exact ⟨_, get?_applied_of_absent hplace hsame, s'.nextNumber, hfresh, rfl⟩
  | some live =>
      rw [hlive] at hsame
      by_cases hmanaged : live.isManaged = true
      · exact ⟨_, get?_applied_of_managed hplace hsame hmanaged, Or.inl ⟨hmanaged, s'.nextNumber, hfresh, rfl⟩⟩
      · exact ⟨live, get?_applied_of_unmanaged hsame hmanaged, Or.inr ⟨by simpa using hmanaged, rfl⟩⟩

theorem docsAt_eq_nil (helsewhere : ∀ o ∈ docs, o.place? ≠ some key) : docsAt key docs = [] := by
  simpa [docsAt] using helsewhere

/-- The run lemma. Neither the objects before nor those after one with another place get in its way. -/
theorem leaves_appliedAll (hreachable : s.Reachable) (hdistinct : (docs.map Object.place?).Nodup) (hmem : o ∈ docs)
    (hplace : o.place? = some key) :
    ∃ stored, Keyed.get? (s.appliedAll docs).objects key = some stored ∧
      s.Leaves o (Keyed.get? s.objects key) stored := by
  obtain ⟨front, back, rfl⟩ := List.append_of_mem hmem
  rw [List.map_append, List.map_cons] at hdistinct
  have hother := List.nodup_cons.mp (List.perm_middle.nodup_iff.mp hdistinct)
  have hfront : docsAt key front = [] := by
    apply docsAt_eq_nil
    intro d hd hsame
    apply hother.1
    rw [hplace, ← hsame]
    exact List.mem_append_left _ (List.mem_map_of_mem hd)
  have hback : docsAt key back = [] := by
    apply docsAt_eq_nil
    intro d hd hsame
    apply hother.1
    rw [hplace, ← hsame]
    exact List.mem_append_right _ (List.mem_map_of_mem hd)
  obtain ⟨stored, hstored, hleaves⟩ := leaves_applied hreachable (s.lastNumber_le_appliedAll front)
    (get?_appliedAll_of_none hfront) hplace
  refine ⟨stored, ?_, hleaves⟩
  have hsplit : s.appliedAll (front ++ o :: back) = ((s.appliedAll front).applied o).appliedAll back :=
    s.appliedAll_append front (o :: back)
  rw [hsplit, get?_appliedAll_of_none hback, hstored]

end Store

/-! ### The whole manifest -/

namespace Scene

/-- Objects that say their types are applied in turn, and none of them is refused. -/
theorem run_applyObjects (options : List MetaOption) {objects : List Object}
    (htyped : ∀ o ∈ objects, o.types ≠ none) (w : Scene E) :
    ∃ w', (client.applyObjects options false objects).run.run w = (.ok (), w') ∧
      w'.store = w.store.appliedAll (objects.map (MetaOption.applyAll options)) := by
  induction objects generalizing w with
  | nil => exact ⟨w, rfl, rfl⟩
  | cons o rest ih =>
      obtain ⟨outcome, w₁, hrun, hstore, houtcome⟩ := run_applyObject options o w
      obtain ⟨type, htype⟩ := (Object.isTyped_applyAll options o).mpr (o.isTyped_iff.mpr (htyped o List.mem_cons_self))
      rw [htype] at houtcome
      cases outcome with
      | error f => cases houtcome
      | ok became =>
          obtain ⟨w', hrest, hafter⟩ := ih (fun d hd => htyped d (List.mem_cons_of_mem o hd)) w₁
          refine ⟨w', ?_, ?_⟩
          · rw [Client.applyObjects, if_neg Bool.false_ne_true, run_bind_of_ok _ hrun, hrest]
          · rw [hafter, hstore]
            rfl

/-- Applying a manifest converges. In whatever state the cluster is, if the objects that a manifest yields say their
types, have places of their own and are not to be merged, then all of them are applied, with whatever options. In the
place of each there is then what it leaves there; everything else and all trackers are as before, and still no two
versions are the same. The options change nothing of an object but its owners, of which they keep those that were named
and add one for each new uid, and its annotations, for each of which the last value counts. -/
theorem applyRendered_converges {r : Rendered} (hmode : r.patch = false) (htyped : ∀ o ∈ r.objects, o.types ≠ none)
    (hdistinct : (r.objects.map Object.place?).Nodup) (options : List MetaOption) (w : Scene E) :
    (∃ w', (client.applyRendered options r).run.run w = (.ok (), w') ∧
      (∀ o ∈ r.objects, ∃ key stored, o.place? = some key ∧ Keyed.get? w'.store.objects key = some stored ∧
        w.store.Leaves (MetaOption.applyAll options o) (Keyed.get? w.store.objects key) stored) ∧
      (∀ key, (∀ o ∈ r.objects, o.place? ≠ some key) →
        Keyed.get? w'.store.objects key = Keyed.get? w.store.objects key) ∧
      w'.store.trackers = w.store.trackers ∧ w'.store.Numbered) ∧
    ∀ o : Object, (MetaOption.applyAll options o).bare = o.bare ∧
      (∀ owner, ((MetaOption.ownedBy owner).apply o).owners =
        if owner.uid ∈ o.owners.map OwnerReference.uid then o.owners else o.owners ++ [owner]) ∧
      (MetaOption.applyAll options o).owners = o.owners ++
        MetaOption.newOwners (o.owners.map OwnerReference.uid) (options.filterMap MetaOption.owner?) ∧
      ∀ key, Keyed.get? ((MetaOption.applyAll options o).metadata.annotations.getD []) key =
        (options.reverse.findSome? (MetaOption.value? key)).or
          (Keyed.get? (o.metadata.annotations.getD []) key) := by
  constructor
  · obtain ⟨w', hrun, hstore⟩ := run_applyObjects options htyped w
    have hplaces : (r.objects.map (MetaOption.applyAll options)).map Object.place? = r.objects.map Object.place? := by
      rw [List.map_map]
      exact List.map_congr_left fun o _ => MetaOption.place?_applyAll options o
    refine ⟨w', ?_, ?_, ?_, ?_, w'.reachable.numbered⟩
    · rw [Client.applyRendered, hmode, hrun]
    · intro o ho
      obtain ⟨key, hplace⟩ := Object.exists_place? (htyped o ho)
      obtain ⟨stored, hstored, hleaves⟩ := Store.leaves_appliedAll w.reachable (hplaces ▸ hdistinct)
        (List.mem_map_of_mem ho) ((MetaOption.place?_applyAll options o).trans hplace)
      exact ⟨key, stored, hplace, hstore ▸ hstored, hleaves⟩
    · intro key helsewhere
      rw [hstore]
      apply Store.get?_appliedAll_of_none
      apply Store.docsAt_eq_nil
      intro d hd
      obtain ⟨o, ho, rfl⟩ := List.mem_map.mp hd
      rw [MetaOption.place?_applyAll]
      exact helsewhere o ho
    · rw [hstore, Store.trackers_appliedAll]
  · intro o
    exact ⟨MetaOption.bare_applyAll options o, fun owner => MetaOption.owners_ownedBy owner o,
      MetaOption.owners_applyAll options o, MetaOption.get?_annotations_applyAll options o⟩

/-! ### Three ways at once -/

namespace ThreeWays

/-- A configuration, which may be managed and may name an owner. -/
def config (name value : String) (annotations : Option (Keyed String String)) (owners : List OwnerReference) :
    Object where
  types := some ⟨"v1", "ConfigMap"⟩
  metadata := { name := some name, space := some "svc", annotations, ownerReferences := some owners }
  data := [("value", .string value)]

def managed : Option (Keyed String String) := some [(Object.managedAnnotation, "true")]

/-- A reference to an owner with a name and a uid. -/
def owner (name uid : String) : OwnerReference := ⟨"v1", none, none, "Service", name, uid⟩

def place (name : String) : StoreKey := ⟨"v1", "ConfigMap", some "svc", name⟩

/-- A managed configuration, one that is not managed, and a tracker. -/
def scene : Scene Unit where
  store := (Operation.insertTracker (Tracker.make "svc-mesh" {})).apply
    ((Operation.insert (config "listeners" "old" none [])).apply
      ((Operation.insert (config "routes" "old" managed [])).apply {}))
  reachable := .apply _ (.apply _ (.apply _ .empty))
  rest := ()

/-- A new configuration, and new values for the two that are there. -/
def rendered : Rendered where
  source := "mesh.yaml"
  patch := false
  objects := [config "clusters" "new" none [owner "first" "a"], config "listeners" "new" none [],
    config "routes" "new" none [owner "first" "a"]]

/-- The uid of the first owner is named already. -/
def options : List MetaOption := [.ownedBy (owner "again" "a"), .ownedBy (owner "second" "b"), .managed]

/-- A configuration with the options applied. -/
def applied (name : String) : Object := config name "new" managed [owner "first" "a", owner "second" "b"]

/-- One is created, one is left alone, and one is replaced. -/
theorem each_its_way : rendered.patch = false ∧ ∃ w' created replaced, 3 < created ∧ 3 < replaced ∧
    (client.applyRendered options rendered).run.run scene = (.ok (), w') ∧
    Keyed.get? w'.store.objects (place "clusters") =
      some ((applied "clusters").stamped (some (Store.uidOf created)) created) ∧
    Keyed.get? w'.store.objects (place "listeners") = Keyed.get? scene.store.objects (place "listeners") ∧
    Keyed.get? w'.store.objects (place "routes") = some ((applied "routes").stamped (some "uid-1") replaced) ∧
    w'.store.trackers = scene.store.trackers := by
  have htyped : ∀ o ∈ rendered.objects, o.types ≠ none := by
    intro o ho
    fin_cases ho <;> simp [config]
  obtain ⟨⟨w', hrun, hplaces, -, htrackers, -⟩, -⟩ :=
    applyRendered_converges (r := rendered) rfl htyped (by decide) options scene
  obtain ⟨_, clusters, hclusters, hfound, hcreated⟩ := hplaces _ List.mem_cons_self
  obtain ⟨_, listeners, hlisteners, hfound', hkept⟩ := hplaces _ (List.mem_cons_of_mem _ List.mem_cons_self)
  obtain ⟨_, routes, hroutes, hfound'', hreplaced⟩ :=
    hplaces _ (List.mem_cons_of_mem _ (List.mem_cons_of_mem _ List.mem_cons_self))
  cases hclusters
  cases hlisteners
  cases hroutes
  obtain ⟨created, hfresh, rfl⟩ := hcreated
  rcases hkept with ⟨hmanaged, -⟩ | ⟨-, rfl⟩
  · exact absurd hmanaged (by decide)
  · rcases hreplaced with ⟨-, replaced, hfresh', rfl⟩ | ⟨hunmanaged, -⟩
    · exact ⟨rfl, w', created, replaced, hfresh.later, hfresh'.later, hrun, hfound, hfound', hfound'', htrackers⟩
    · exact absurd hunmanaged (by decide)

end ThreeWays

end Scene

end Provision

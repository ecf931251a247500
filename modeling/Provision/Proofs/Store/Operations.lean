import Provision.Cluster.Client
import Provision.Cluster.Store
import Provision.Proofs.Keyed

/-!
The operations on a store, each by what it does: what a client may ask for, what else can happen to a
store, and for the operations that can be refused when they are and what they leave behind.
-/

namespace Provision

/-! ### The order of places -/

theorem StoreKey.compare_eq_lex : (compare : StoreKey → StoreKey → Ordering) =
    compareLex (compareOn StoreKey.apiVersion) (compareLex (compareOn StoreKey.kind)
      (compareLex (compareOn StoreKey.space) (compareOn StoreKey.name))) := by
  funext a b
  have hspaces : StoreKey.compareSpaces a.space b.space = compare a.space b.space := by
    cases a.space <;> cases b.space <;> rfl
  simp only [compare, hspaces, compareLex, compareOn]

instance : Std.TransOrd StoreKey := by
  unfold Std.TransOrd
  rw [StoreKey.compare_eq_lex]
  infer_instance

instance : Std.LawfulEqOrd StoreKey where
  compare_self {a} := Std.ReflCmp.compare_self
  eq_of_compare {a b} hcompare := by
    rw [StoreKey.compare_eq_lex] at hcompare
    simp only [compareLex_eq_eq, compareOn, Std.compare_eq_iff_eq] at hcompare
    obtain ⟨happ, hkind, hspace, hname⟩ := hcompare
    cases a
    cases b
    simp_all

/-! ### Requests and operations -/

/-- What a client can ask of a cluster. -/
inductive Store.Request where
  | get (type : ResourceType) (key : ObjectKey)
  | create (type : ResourceType) (o : Object)
  | replace (type : ResourceType) (o : Object)
  | mergePatch (type : ResourceType) (key : ObjectKey) (patch : Json)
  | delete (type : ResourceType) (key : ObjectKey)
  | list (type : ResourceType) (space selector : Option String)
  | getTracker (name : String)
  | createTracker (t : Tracker)
  | replaceTrackerStatus (t : Tracker)
  | deleteTracker (name : String)

namespace Store.Request

/-- What a request that succeeds is answered with. -/
abbrev Result : Store.Request → Type
  | get _ _ => Option Object
  | create _ _ => Object
  | replace _ _ => Object
  | mergePatch _ _ _ => Object
  | delete _ _ => Unit
  | list _ _ _ => List Object
  | getTracker _ => Option Tracker
  | createTracker _ => Tracker
  | replaceTrackerStatus _ => Tracker
  | deleteTracker _ => Unit

/-- The answer to a request and the store after it. -/
def perform : (r : Store.Request) → Store → Store.Reply r.Result
  | get type key, s => (.ok (s.get? type key), s)
  | create type o, s => s.create type o
  | replace type o, s => s.replace type o
  | mergePatch type key patch, s => s.mergePatch type key patch
  | delete type key, s => s.delete type key
  | list type space selector, s => (.ok (s.list type space selector), s)
  | getTracker name, s => (.ok (s.getTracker? name), s)
  | createTracker t, s => s.createTracker t
  | replaceTrackerStatus t, s => s.replaceTrackerStatus t
  | deleteTracker name, s => s.deleteTracker name

end Store.Request

/-- The client that makes every call a request. -/
def Client.ofRequests {m : Type → Type} (ask : (r : Store.Request) → ExceptT Failure m r.Result) :
    Client m where
  get type key := ask (.get type key)
  create type o := ask (.create type o)
  replace type o := ask (.replace type o)
  mergePatch type key patch := ask (.mergePatch type key patch)
  delete type key := ask (.delete type key)
  list type space selector := ask (.list type space selector)
  getTracker name := ask (.getTracker name)
  createTracker t := ask (.createTracker t)
  replaceTrackerStatus t := ask (.replaceTrackerStatus t)
  deleteTracker name := ask (.deleteTracker name)

/-- Anything that can be done to a store: what clients ask for, and what is put in directly. -/
inductive Operation where
  | request (r : Store.Request)
  | insert (o : Object)
  | insertTracker (t : Tracker)
  /-- Refuse a number of status writes from now on. -/
  | refuseStatus (n : Nat)

/-- The store after an operation. -/
def Operation.apply : Operation → Store → Store
  | request r, s => (r.perform s).2
  | insert o, s => s.insert o
  | insertTracker t, s => (s.insertTracker t).2
  | refuseStatus n, s => { s with pendingConflicts := n }

/-- The stores that operations make of an empty one. -/
inductive Store.Reachable : Store → Prop
  | empty : Reachable {}
  | apply {s : Store} (op : Operation) : Reachable s → Reachable (op.apply s)

def Object.version (o : Object) : Option String := o.metadata.resourceVersion

def Tracker.version (t : Tracker) : Option String := t.metadata.resourceVersion

namespace Store

variable {s : Store}

/-! ### Objects -/

/-- An object as it is kept when it is new. -/
def newObject (s : Store) (o : Object) : Object :=
  { o with metadata := { versioned s.nextNumber o.metadata with uid := some (uidOf s.nextNumber) } }

/-- An object as it is kept in place of another one. -/
def successor (s : Store) (old o : Object) : Object :=
  { o with metadata := { versioned s.nextNumber o.metadata with uid := old.metadata.uid } }

theorem create_of_absent {type : ResourceType} {o : Object} (habsent : s.get? type o.key = none) :
    s.create type o = (.ok (s.newObject o),
      (s.keep (.of type o.key) (s.newObject o)).record "create" type.kind o.key) := by
  simp only [create, habsent, newObject]

theorem create_of_present {type : ResourceType} {o live : Object}
    (hlive : s.get? type o.key = some live) : s.create type o = (.error alreadyExists, s) := by
  simp only [create, hlive]

/-- Whether an object may replace another one: it names no version, or the version that is there. -/
def admits (live o : Object) : Bool :=
  o.version.isNone || o.version == live.version

theorem replace_of_absent {type : ResourceType} {o : Object} (habsent : s.get? type o.key = none) :
    s.replace type o = (.error notFound, s) := by
  simp only [replace, habsent]

theorem replace_of_present {type : ResourceType} {o live : Object}
    (hlive : s.get? type o.key = some live) :
    s.replace type o = if admits live o then (.ok (s.successor live o),
      (s.keep (.of type o.key) (s.successor live o)).record "replace" type.kind o.key)
    else (.error conflict, s) := by
  have hrefused : (o.metadata.resourceVersion.isSome &&
      o.metadata.resourceVersion != live.metadata.resourceVersion) = !admits live o := by
    unfold admits Object.version
    cases o.metadata.resourceVersion <;> rfl
  simp only [replace, hlive, hrefused]
  cases admits live o <;> rfl

/-- A replacement that names a version which is not there has no effect. -/
theorem replace_of_stale {type : ResourceType} {o : Object} (hversion : o.version ≠ none)
    (hstale : ∀ live, s.get? type o.key = some live → live.version ≠ o.version) :
    (s.replace type o).2 = s := by
  cases hlive : s.get? type o.key with
  | none => rw [replace_of_absent hlive]
  | some live =>
      have hrefused : ¬ admits live o := by
        simp [admits, hversion, (hstale live hlive).symm]
      rw [replace_of_present hlive, if_neg hrefused]

/-- An object as it is kept after a patch. -/
def reversioned (s : Store) (o : Object) : Object :=
  { o with metadata := versioned s.nextNumber o.metadata }

/-- A patch of nothing, and one that makes no object of what is there, has no effect; any other one puts in what it
makes. -/
theorem mergePatch_cases (s : Store) (type : ResourceType) (key : ObjectKey) (patch : Json) :
    (∃ f, s.mergePatch type key patch = (.error f, s)) ∨
    ∃ live o, s.get? type key = some live ∧ Object.read (live.toJson.merge patch) = .ok o ∧
      s.mergePatch type key patch = (.ok (s.reversioned o),
        (s.keep (.of type key) (s.reversioned o)).record "patch" type.kind key) := by
  cases hlive : s.get? type key with
  | none => exact Or.inl ⟨notFound, by simp only [mergePatch, hlive]⟩
  | some live =>
      cases hread : Object.read (live.toJson.merge patch) with
      | error fault => exact Or.inl ⟨.serialization fault.message none, by simp only [mergePatch, hlive, hread]⟩
      | ok o => exact Or.inr ⟨live, o, rfl, hread, by simp only [mergePatch, hlive, hread, reversioned]⟩

theorem delete_of_absent {type : ResourceType} {key : ObjectKey} (habsent : s.get? type key = none) :
    s.delete type key = (.ok (), s) := by
  simp only [delete, habsent]

theorem delete_of_present {type : ResourceType} {key : ObjectKey} {live : Object}
    (hlive : s.get? type key = some live) :
    s.delete type key = (.ok (), ({ s with objects := Keyed.erase s.objects (.of type key) }.record "delete"
      type.kind key).collectOwned live.metadata.uid) := by
  simp only [delete, hlive]

/-! ### Trackers -/

theorem createTracker_of_absent {t : Tracker} (habsent : s.getTracker? t.displayName = none) :
    s.createTracker t = (.ok (s.newTracker t),
      (s.keepTracker (s.newTracker t)).record "create" Tracker.kind (.ofCluster t.displayName)) := by
  simp only [createTracker, habsent, insertTracker]

theorem createTracker_of_present {t old : Tracker} (hfound : s.getTracker? t.displayName = some old) :
    s.createTracker t = (.error alreadyExists, s) := by
  simp only [createTracker, hfound]

theorem createTracker_objects (s : Store) (t : Tracker) : (s.createTracker t).2.objects = s.objects := by
  unfold createTracker
  split
  · rfl
  · rfl

/-- A stored tracker with another status. -/
def revised (s : Store) (old : Tracker) (status : Option TrackerStatus) : Tracker :=
  { old with status, metadata := versioned s.nextNumber old.metadata }

/-- A status write that names the version of the stored tracker puts the status in. -/
theorem replaceTrackerStatus_of_current {t old : Tracker} (hquiet : s.pendingConflicts = 0)
    (hold : s.getTracker? t.displayName = some old) (hversion : t.version = old.version) :
    s.replaceTrackerStatus t = (.ok (s.revised old t.status),
      { s with
        trackers := Keyed.insert s.trackers t.displayName (s.revised old t.status)
        lastNumber := s.nextNumber }.record "status" Tracker.kind (.ofCluster t.displayName)) := by
  have hpending : ¬ 0 < s.pendingConflicts := by omega
  have hsame : (t.metadata.resourceVersion != old.metadata.resourceVersion) = false :=
    bne_eq_false_iff_eq.mpr hversion
  simp only [replaceTrackerStatus, if_neg hpending, hold, hsame, revised]
  rfl

/-- A status write is refused, which changes no tracker, or it names the version of the stored tracker and
puts the status in. -/
theorem replaceTrackerStatus_cases (s : Store) (t : Tracker) :
    (∃ f left, (f = conflict ∨ f = notFound) ∧
      s.replaceTrackerStatus t = (.error f, { s with pendingConflicts := left })) ∨
    ∃ old, s.getTracker? t.displayName = some old ∧ t.version = old.version ∧
      s.replaceTrackerStatus t = (.ok (s.revised old t.status),
        { s with
          trackers := Keyed.insert s.trackers t.displayName (s.revised old t.status)
          lastNumber := s.nextNumber }.record "status" Tracker.kind (.ofCluster t.displayName)) := by
  by_cases hpending : 0 < s.pendingConflicts
  · exact Or.inl ⟨conflict, s.pendingConflicts - 1, Or.inl rfl, if_pos hpending⟩
  · cases hold : s.getTracker? t.displayName with
    | none =>
        refine Or.inl ⟨notFound, s.pendingConflicts, Or.inr rfl, ?_⟩
        simp only [replaceTrackerStatus, if_neg hpending, hold]
    | some old =>
        by_cases hversion : t.version = old.version
        · exact Or.inr ⟨old, rfl, hversion,
            replaceTrackerStatus_of_current (by omega) hold hversion⟩
        · refine Or.inl ⟨conflict, s.pendingConflicts, Or.inl rfl, ?_⟩
          have hother : (t.metadata.resourceVersion != old.metadata.resourceVersion) = true :=
            bne_iff_ne.mpr hversion
          simp only [replaceTrackerStatus, if_neg hpending, hold, hother, if_true]

/-- A status write that is refused changes no tracker, and says why in one failure. -/
theorem replaceTrackerStatus_error {after : Store} {t : Tracker} {f : Failure}
    (hreply : s.replaceTrackerStatus t = (.error f, after)) :
    (f = conflict ∨ f = notFound) ∧ after.trackers = s.trackers := by
  rcases s.replaceTrackerStatus_cases t with ⟨_, left, hrefusal, heq⟩ | ⟨old, _, _, heq⟩
  · rw [heq] at hreply
    cases hreply
    exact ⟨hrefusal, rfl⟩
  · rw [heq] at hreply
    cases hreply

/-- A status write that succeeds names the version of the stored tracker and puts the status in. -/
theorem replaceTrackerStatus_ok {after : Store} {t stored : Tracker}
    (hreply : s.replaceTrackerStatus t = (.ok stored, after)) :
    ∃ old, s.getTracker? t.displayName = some old ∧ t.version = old.version ∧
      after.trackers = Keyed.insert s.trackers t.displayName (s.revised old t.status) := by
  rcases s.replaceTrackerStatus_cases t with ⟨_, left, _, heq⟩ | ⟨old, hold, hversion, heq⟩
  · rw [heq] at hreply
    cases hreply
  · rw [heq] at hreply
    cases hreply
    exact ⟨old, hold, hversion, rfl⟩

theorem replaceTrackerStatus_objects (s : Store) (t : Tracker) :
    (s.replaceTrackerStatus t).2.objects = s.objects := by
  rcases s.replaceTrackerStatus_cases t with ⟨_, _, _, heq⟩ | ⟨_, _, _, heq⟩
  · rw [heq]
  · rw [heq]
    rfl

/-! ### Garbage -/

theorem collectRounds_sublist (rounds : Nat) (uids : List String) (objects : Keyed StoreKey Object) :
    (collectRounds rounds uids objects).Sublist objects := by
  induction rounds generalizing uids objects with
  | zero => exact List.Sublist.refl _
  | succ rounds ih =>
      simp only [collectRounds, List.partition_eq_filter_filter]
      split
      · exact List.Sublist.refl _
      · exact (ih _ _).trans List.filter_sublist

theorem collectOwned_objects_sublist (s : Store) (uid : Option String) :
    (s.collectOwned uid).objects.Sublist s.objects := by
  cases uid with
  | none => exact List.Sublist.refl _
  | some uid => exact collectRounds_sublist _ _ _

@[simp] theorem collectOwned_trackers (s : Store) (uid : Option String) :
    (s.collectOwned uid).trackers = s.trackers := by
  cases uid <;> rfl

@[simp] theorem collectOwned_lastNumber (s : Store) (uid : Option String) :
    (s.collectOwned uid).lastNumber = s.lastNumber := by
  cases uid <;> rfl

/-- With an object, others can only go. -/
theorem delete_objects_sublist (s : Store) (type : ResourceType) (key : ObjectKey) :
    (s.delete type key).2.objects.Sublist s.objects := by
  unfold delete
  split
  · exact List.Sublist.refl _
  · exact (collectOwned_objects_sublist _ _).trans (Keyed.erase_sublist s.objects (.of type key))

@[simp] theorem delete_trackers (s : Store) (type : ResourceType) (key : ObjectKey) :
    (s.delete type key).2.trackers = s.trackers := by
  cases hlive : s.get? type key with
  | none => rw [delete_of_absent hlive]
  | some live => rw [delete_of_present hlive, collectOwned_trackers, record]

@[simp] theorem delete_lastNumber (s : Store) (type : ResourceType) (key : ObjectKey) :
    (s.delete type key).2.lastNumber = s.lastNumber := by
  cases hlive : s.get? type key with
  | none => rw [delete_of_absent hlive]
  | some live => rw [delete_of_present hlive, collectOwned_lastNumber, record]

/-- With a tracker, objects can only go. -/
theorem deleteTracker_objects_sublist (s : Store) (name : String) :
    (s.deleteTracker name).2.objects.Sublist s.objects := by
  unfold deleteTracker
  split
  · exact List.Sublist.refl _
  · exact collectOwned_objects_sublist _ _

end Store

end Provision

import Provision.Json.Merge
import Provision.Object.Format
import Provision.Text.Blank
import Provision.Tracker.Basic

/-!
A cluster kept in memory. Every write takes a new number, which becomes the version of what is written and
the uid of what is created. A replacement that names a version must name the current one, and a status
write always must. Deleting something deletes all that it owns, directly or through others.
-/

namespace Provision

/-- Where an object is kept. -/
structure StoreKey where
  apiVersion : String
  kind : String
  space : Option String
  name : String
deriving DecidableEq, Repr

namespace StoreKey

/-- No namespace comes before every namespace. -/
def compareSpaces : Option String → Option String → Ordering
  | none, none => .eq
  | none, some _ => .lt
  | some _, none => .gt
  | some a, some b => compare a b

instance : Ord StoreKey where
  compare a b :=
    (compare a.apiVersion b.apiVersion).then <| (compare a.kind b.kind).then <|
      (compareSpaces a.space b.space).then (compare a.name b.name)

/-- The place of an object with a type and a key. -/
def of (type : ResourceType) (key : ObjectKey) : StoreKey :=
  ⟨type.apiVersion, type.kind, key.space, key.name⟩

end StoreKey

/-- What a cluster holds. -/
structure Store where
  objects : Keyed StoreKey Object := []
  trackers : Keyed String Tracker := []
  /-- The writes that clients made, oldest first. -/
  writes : List String := []
  /-- The number that was taken last. -/
  lastNumber : Nat := 0
  /-- How many status writes are still to be refused. -/
  pendingConflicts : Nat := 0

namespace Store

/-- The server's answer that refuses a request. -/
def refusal (code : Nat) (reason : String) : Failure :=
  .api code reason (reason ++ " (" ++ toString code ++ ")")

def notFound : Failure := refusal 404 "NotFound"
def alreadyExists : Failure := refusal 409 "AlreadyExists"
def conflict : Failure := refusal 409 "Conflict"

/-- The uid that goes with a number. -/
def uidOf (n : Nat) : String := "uid-" ++ toString n

/-- The number that the next write takes. -/
def nextNumber (s : Store) : Nat := s.lastNumber + 1

/-- Note a write. -/
def record (s : Store) (verb kind : String) (key : ObjectKey) : Store :=
  { s with writes := s.writes ++ [verb ++ " " ++ kind ++ " " ++ key.text] }

/-- Keep an object, which takes the next number. -/
def keep (s : Store) (key : StoreKey) (o : Object) : Store :=
  { s with objects := Keyed.insert s.objects key o, lastNumber := s.nextNumber }

/-- Keep a tracker, which takes the next number. -/
def keepTracker (s : Store) (t : Tracker) : Store :=
  { s with trackers := Keyed.insert s.trackers t.displayName t, lastNumber := s.nextNumber }

/-- Metadata with the version that goes with a number. -/
def versioned (n : Nat) (m : Metadata) : Metadata := { m with resourceVersion := some (toString n) }

/-! ### Garbage -/

/-- Whether one of some uids owns an object. -/
def isOwned (uids : List String) (o : Object) : Bool :=
  (o.metadata.ownerReferences.getD []).any fun r => uids.contains r.uid

/-- Delete what some uids own, then what was owned by that, in at most `rounds` rounds. -/
def collectRounds : Nat → List String → Keyed StoreKey Object → Keyed StoreKey Object
  | 0, _, objects => objects
  | rounds + 1, uids, objects =>
    let (orphans, kept) := objects.partition fun e => isOwned uids e.2
    if orphans.isEmpty then objects
    else collectRounds rounds (uids ++ orphans.filterMap fun e => e.2.metadata.uid) kept

/-- Delete everything that a uid owns, directly or through others. Every round but the last deletes
something, so there are no more rounds than objects. -/
def collectGarbage (s : Store) (uid : String) : Store :=
  { s with objects := collectRounds s.objects.length [uid] s.objects }

/-- Delete what was owned by something that is gone. -/
def collectOwned (s : Store) (uid : Option String) : Store :=
  match uid with
  | some uid => s.collectGarbage uid
  | none => s

/-! ### Operations -/

/-- Put an object in as it is, but for its version and, if it has none, its uid. An object that says no type
has no place. -/
def insert (s : Store) (o : Object) : Store :=
  match o.types with
  | none => s
  | some t =>
    let n := s.nextNumber
    let m := versioned n o.metadata
    s.keep ⟨t.apiVersion, t.kind, o.metadata.space, o.displayName⟩
      { o with metadata := { m with uid := some (m.uid.getD (uidOf n)) } }

/-- A tracker as it is kept when it is new. -/
def newTracker (s : Store) (t : Tracker) : Tracker :=
  let n := s.nextNumber
  { t with metadata := { versioned n t.metadata with uid := some (uidOf n) } }

/-- Put a tracker in with a new version and uid. -/
def insertTracker (s : Store) (t : Tracker) : Tracker × Store :=
  let t := s.newTracker t
  (t, s.keepTracker t)

def get? (s : Store) (type : ResourceType) (key : ObjectKey) : Option Object :=
  Keyed.get? s.objects (.of type key)

def getTracker? (s : Store) (name : String) : Option Tracker := Keyed.get? s.trackers name

/-- The outcome of an operation and what the cluster holds after it. -/
abbrev Reply (α : Type) := Except Failure α × Store

def create (s : Store) (type : ResourceType) (o : Object) : Reply Object :=
  let key := o.key
  match s.get? type key with
  | some _ => (.error alreadyExists, s)
  | none =>
    let n := s.nextNumber
    let stored := { o with metadata := { versioned n o.metadata with uid := some (uidOf n) } }
    (.ok stored, (s.keep (.of type key) stored).record "create" type.kind key)

/-- Put an object in place of the stored one, which gives it its uid. -/
def replace (s : Store) (type : ResourceType) (o : Object) : Reply Object :=
  let key := o.key
  match s.get? type key with
  | none => (.error notFound, s)
  | some old =>
    if o.metadata.resourceVersion.isSome && o.metadata.resourceVersion != old.metadata.resourceVersion
    then (.error conflict, s)
    else
      let stored := { o with metadata :=
        { versioned s.nextNumber o.metadata with uid := old.metadata.uid } }
      (.ok stored, (s.keep (.of type key) stored).record "replace" type.kind key)

/-- Merge a patch into the JSON of the stored object. -/
def mergePatch (s : Store) (type : ResourceType) (key : ObjectKey) (patch : Json) : Reply Object :=
  match s.get? type key with
  | none => (.error notFound, s)
  | some old =>
    match Object.read (old.toJson.merge patch) with
    | .error fault => (.error (.serialization fault.message none), s)
    | .ok o =>
      let stored := { o with metadata := versioned s.nextNumber o.metadata }
      (.ok stored, (s.keep (.of type key) stored).record "patch" type.kind key)

def delete (s : Store) (type : ResourceType) (key : ObjectKey) : Reply Unit :=
  match s.get? type key with
  | none => (.ok (), s)
  | some o =>
    let left := { s with objects := Keyed.erase s.objects (.of type key) }
    (.ok (), (left.record "delete" type.kind key).collectOwned o.metadata.uid)

/-- The labels that a selector asks for; parts that are no equation are passed over. -/
def wantedLabels (selector : Option String) : List (String × String) :=
  (pieces ',' (selector.getD "").toList).filterMap fun part =>
    (splitOnce '=' part).map fun e =>
      (String.ofList (trimRight (trimLeft e.1)), String.ofList (trimRight (trimLeft e.2)))

/-- The objects of a type, of one namespace or all, with the labels that are asked for. -/
def list (s : Store) (type : ResourceType) (space selector : Option String) : List Object :=
  let wanted := wantedLabels selector
  let listed := s.objects.filter fun e =>
    e.1.apiVersion == type.apiVersion && e.1.kind == type.kind &&
      (space.isNone || e.1.space == space) &&
      wanted.all fun l => Keyed.get? (e.2.metadata.labels.getD []) l.1 == some l.2
  listed.map Prod.snd

def createTracker (s : Store) (t : Tracker) : Reply Tracker :=
  match s.getTracker? t.displayName with
  | some _ => (.error alreadyExists, s)
  | none =>
    let (stored, after) := s.insertTracker t
    (.ok stored, after.record "create" Tracker.kind (.ofCluster t.displayName))

/-- Write the status of a tracker; everything else stays as it is stored. -/
def replaceTrackerStatus (s : Store) (t : Tracker) : Reply Tracker :=
  if 0 < s.pendingConflicts then
    (.error conflict, { s with pendingConflicts := s.pendingConflicts - 1 })
  else
    match s.getTracker? t.displayName with
    | none => (.error notFound, s)
    | some old =>
      if t.metadata.resourceVersion != old.metadata.resourceVersion then (.error conflict, s)
      else
        let stored := { old with
          status := t.status, metadata := versioned s.nextNumber old.metadata }
        let after := { s with
          trackers := Keyed.insert s.trackers t.displayName stored, lastNumber := s.nextNumber }
        (.ok stored, after.record "status" Tracker.kind (.ofCluster t.displayName))

def deleteTracker (s : Store) (name : String) : Reply Unit :=
  match s.getTracker? name with
  | none => (.ok (), s)
  | some t =>
    let left := { s with trackers := Keyed.erase s.trackers name }
    (.ok (), (left.record "delete" Tracker.kind (.ofCluster name)).collectOwned t.metadata.uid)

/-- How many objects of a kind there are. -/
def count (s : Store) (kind : String) : Nat :=
  s.objects.countP fun e => e.1.kind == kind

end Store
end Provision

import Provision.Cluster.Client
import Provision.Http.Message
import Provision.Json.Place
import Provision.Tracker.Format

/-!
The client of a real cluster: each operation is one request to its server. Writes name the field manager,
deletions leave it to the server to delete what the object owned.
-/

namespace Provision.Remote

open Http

/-- Carries a request to the server. -/
abbrev Transport (m : Type → Type) := Request → m Response

/-- Where the server keeps resources of a type. -/
def collection (type : ResourceType) (space : Option String) : String :=
  let root := if type.group.isEmpty then "/api/" else "/apis/"
  let within := match space with
    | some s => "namespaces/" ++ s ++ "/"
    | none => ""
  root ++ type.apiVersion ++ "/" ++ within ++ type.plural

/-- Where the server keeps trackers. -/
def trackers : String := collection (ResourceType.of Tracker.apiVersion Tracker.kind) none

/-- A request that cannot be put together. -/
def cannotBuild {α : Type} (why : String) : Except Failure α := .error (.client (.request why))

/-- A request that must not be sent. -/
def notValid {α : Type} (why : String) : Except Failure α :=
  cannotBuild ("failed to validate request: " ++ why)

/-- A name within a collection; it must not be empty. -/
def member (collection name : String) : Except Failure String :=
  if name.isEmpty then notValid "A non-empty name is required" else .ok (collection ++ "/" ++ name)

/-- Field managers have at most 128 bytes. -/
def checkManager (parameters manager : String) : Except Failure Unit :=
  if 128 < manager.utf8ByteSize then
    notValid ("Failed to validate " ++ parameters ++ "::field_manager!")
  else .ok ()

/-- A request for a target. -/
def request (method : Method) (target : String) (contentType : Option String := none)
    (body : Option Json := none) : Except Failure Request :=
  match splitTarget target with
  | some (path, query) => .ok ⟨method, path, query, contentType, body⟩
  | none => cannotBuild "failed to build request: invalid uri character"

def jsonType : String := "application/json"
def mergePatchType : String := "application/merge-patch+json"

/-- The query of a write. -/
def writeQuery (manager : String) : String := "?" ++ parameter "fieldManager" manager

/-- The body of a deletion. -/
def deletion : Json := .object [("propagationPolicy", .string "Background")]

/-! ### Responses -/

/-- The refusal that a server describes. -/
def readStatus : Json.Reader ApiStatus :=
  Json.readRecord "ErrorResponse" [
    Json.slot "status" Json.readString fun s v => { s with status := v },
    Json.slot "message" Json.readString (fun s v => { s with message := v }) .defaulted,
    Json.slot "reason" Json.readString (fun s v => { s with reason := v }) .defaulted,
    Json.slot "code" (Json.readIntBetween "u16" 0 65535) fun s v => { s with code := v.toNat }]
    ⟨"", "", "", 0⟩

/-- The refusal of a response. One that describes none is put together from its status and text. -/
def refusal (r : Response) : ApiStatus :=
  match Json.readText readStatus r.text with
  | .ok s => s
  | .error _ => ⟨statusText r.status, quoted r.text, "Failed to parse error data", r.status⟩

/-- The text of a response that is no refusal. -/
def textOf (r : Response) : Except Failure String :=
  if r.isRefusal then .error (.client (.api (refusal r))) else .ok r.text

/-- What a response holds. -/
def contentOf {α : Type} (read : Json.Reader α) (r : Response) : Except Failure α := do
  let text ← textOf r
  (Json.readText read text).mapError fun why => .client (.response why)

/-- What a response holds, or nothing if the server knows no such thing. -/
def contentIfFound {α : Type} (read : Json.Reader α) (r : Response) : Except Failure (Option α) :=
  match contentOf read r with
  | .ok a => .ok (some a)
  | .error (.client (.api s)) => if s.reason = "NotFound" then .ok none else .error (.client (.api s))
  | .error f => .error f

/-! ### Answers to deletions -/

/-- A field of an answer that is read but not used. -/
def unused {α : Type} (name : String) (read : Json.Reader α) : Json.Slot Unit :=
  Json.slot name read (fun _ _ => ()) .defaulted

def readCause : Json.Reader Unit :=
  Json.readRecord "StatusCause" [unused "reason" Json.readString, unused "message" Json.readString,
    unused "field" Json.readString] ()

def readDetails : Json.Reader Unit :=
  Json.readRecord "StatusDetails" [
    unused "name" Json.readString, unused "group" Json.readString, unused "kind" Json.readString,
    unused "uid" Json.readString, unused "causes" (Json.readList readCause),
    unused "retryAfterSeconds" (Json.readIntBetween "u32" 0 4294967295)] ()

/-- The report of a deletion that is done. -/
def readReport : Json.Reader Unit :=
  Json.readRecord "Status" [
    unused "status" (Json.readOption (Json.readName [("Success", ()), ("Failure", ())])),
    unused "code" (Json.readIntBetween "u16" 0 65535),
    unused "message" Json.readString, unused "reason" Json.readString,
    unused "details" (Json.readOption readDetails)] ()

/-- The answer to a deletion: a report, or what is being deleted. -/
def readDeleted {α : Type} (read : Json.Reader α) : Json.Reader Unit := fun j =>
  if Object.saysText j "kind" "Status" then readReport j else (read j).map fun _ => ()

/-- The outcome of a deletion; what is not there needs no deletion. -/
def deleted {α : Type} (read : Json.Reader α) (r : Response) : Except Failure Unit :=
  match contentOf (readDeleted read) r with
  | .error (.client (.api s)) => if s.code = 404 then .ok () else .error (.client (.api s))
  | outcome => outcome

/-! ### Lists -/

def readListMetadata : Json.Reader Unit := fun j => do
  let members ← Json.readMembers "ListMeta" j
  Json.readEach (fun _ e =>
    match e.1 with
    | "continue" | "resourceVersion" | "selfLink" =>
      (Json.readOption Json.readString e.2).map fun _ => ()
    | "remainingItemCount" => (Json.readOption Json.readInt64 e.2).map fun _ => ()
    | _ => .ok ()) () members

/-- The objects of a list; it must have items, which may be null. -/
def readObjects : Json.Reader (List Object) := fun j => do
  let members ← Json.readMembers "struct ObjectList" j
  let items ← Json.readEach (fun (found : Option (List Object)) e =>
    match e.1 with
    | "items" => (Json.readOption (Json.readList Object.read) e.2).map fun os => some (os.getD [])
    | "metadata" => (readListMetadata e.2).map fun _ => found
    | _ => .ok found) none members
  match items with
  | some os => .ok os
  | none => .error (.missing "items")

/-! ### The client -/

variable {m : Type → Type} [Monad m]

/-- Send a request and read the response. -/
def exchange {α : Type} (send : Transport m) (request : Except Failure Request)
    (read : Response → Except Failure α) : ExceptT Failure m α := do
  let request ← request
  let response ← ExceptT.lift (send request)
  read response

/-- Create something in a collection. -/
def createIn {α : Type} (manager : String) (send : Transport m) (place : String) (body : Json)
    (read : Json.Reader α) : ExceptT Failure m α :=
  exchange send (do
    checkManager "PostParams" manager
    request .post (place ++ writeQuery manager) jsonType body) (contentOf read)

/-- Put something in place of what is at a member of a collection, or at a part of that. -/
def putIn {α : Type} (manager : String) (send : Transport m) (place name part : String) (body : Json)
    (read : Json.Reader α) : ExceptT Failure m α :=
  exchange send (do
    let target ← member place name
    request .put (target ++ part ++ writeQuery manager) jsonType body) (contentOf read)

/-- Get what is at a member of a collection. -/
def getFrom {α : Type} (send : Transport m) (place name : String) (read : Json.Reader α) :
    ExceptT Failure m (Option α) :=
  exchange send (do request .get (← member place name)) (contentIfFound read)

/-- Delete what is at a member of a collection. -/
def deleteFrom {α : Type} (send : Transport m) (place name : String) (read : Json.Reader α) :
    ExceptT Failure m Unit :=
  exchange send (do
    let target ← member place name
    request .delete (target ++ "?") jsonType deletion) (deleted read)

/-- The client of the server that a transport leads to. -/
def client (manager : String) (send : Transport m) : Client m where
  get type key := getFrom send (collection type key.space) key.name Object.read
  create type o := createIn manager send (collection type o.key.space) o.toJson Object.read
  replace type o :=
    putIn manager send (collection type o.key.space) o.key.name "" o.toJson Object.read
  mergePatch type key patch :=
    exchange send (do
      let target ← member (collection type key.space) key.name
      checkManager "PatchParams" manager
      request .patch (target ++ writeQuery manager) mergePatchType patch) (contentOf Object.read)
  delete type key := deleteFrom send (collection type key.space) key.name Object.read
  list type space selector :=
    exchange send (request .get (collection type space ++ "?" ++
      match selector with
      | some s => parameter "labelSelector" s
      | none => "")) (contentOf readObjects)
  getTracker name := getFrom send trackers name Tracker.read
  createTracker t := createIn manager send trackers t.toJson Tracker.read
  replaceTrackerStatus t :=
    putIn manager send trackers t.displayName "/status" t.toJson Tracker.read
  deleteTracker name := deleteFrom send trackers name Tracker.read

end Provision.Remote

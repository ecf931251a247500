import Provision.Reason
import Provision.Template.Error
import Provision.Text.Quoted

/-!
What can go wrong, by cause. A failure may carry another one inside: the stage or the feature that it
came from. Several independent failures form a list, and lists of failures stay flat: collecting a
list puts its members in, not the list.
-/

namespace Provision

/-- What an API server answers when it refuses a request. -/
structure ApiStatus where
  status : String
  message : String
  reason : String
  code : Nat
deriving DecidableEq, Repr

/-- Why a request to the cluster did not succeed. -/
inductive ClientError where
  /-- The server refused it. -/
  | api (status : ApiStatus)
  /-- A line of a response did not end. -/
  | unendedLine
  /-- The request could not be put together. -/
  | request (detail : String)
  /-- The response could not be read. -/
  | response (detail : String)
deriving DecidableEq, Repr

/-- A failure of the engine. -/
inductive Failure where
  | client (error : ClientError)
  | validation (feature : String) (message : String) (field : Option String)
  | manifest (path : String) (message : String)
  | template (path : String) (error : Template.Error)
  | overlay (path : String) (message : String)
  | data (key : String) (message : String)
  | action (message : String)
  | stage (reason : Reason) (source : Failure)
  | feature (name : String) (source : Failure)
  | many (failures : List Failure)
  | serialization (message : String) (kind : Option String)
  | internal (message : String) (context : String)
deriving Repr, Inhabited

/-- The place of a failure that nobody named. -/
def unknownContext : String := "unknown"

/-- The answer of a server with every field, texts in quotes. -/
def ApiStatus.described (s : ApiStatus) : String :=
  "ErrorResponse \x7b status: " ++ quoted s.status ++ ", message: " ++ quoted s.message ++
    ", reason: " ++ quoted s.reason ++ ", code: " ++ toString s.code ++ " \x7d"

def ClientError.message : ClientError → String
  | api s => "ApiError: " ++ s.message ++ ": " ++ s.reason ++ " (" ++ s.described ++ ")"
  | unendedLine => "Error finding newline character"
  | request detail => "Failed to build request: " ++ detail
  | response detail => "Error deserializing response: " ++ detail

/-- The text of a template failure. -/
def Template.Error.report (e : Template.Error) : String :=
  "template render error: " ++ e.message

namespace Failure

mutual

/-- The text of a failure. -/
def message : Failure → String
  | client e => "kubernetes error: " ++ e.message
  | validation subject text _ => "validation error for " ++ subject ++ ": " ++ text
  | manifest path text => "manifest error [" ++ path ++ "]: " ++ text
  | template path e => "template error [" ++ path ++ "]: " ++ e.report
  | overlay path text => "overlay error [" ++ path ++ "]: " ++ text
  | data key text => "data error [" ++ key ++ "]: " ++ text
  | action text => text
  | stage reason source => reason.text ++ ": " ++ message source
  | feature name source => "feature " ++ name ++ ": " ++ message source
  | many failures =>
    match messages failures with
    | [] => "no errors"
    | [single] => single
    | texts => toString texts.length ++ " errors occurred:" ++
        String.join (texts.map fun t => "\n\t* " ++ t)
  | serialization text _ => "serialization error: " ++ text
  | internal text context => "internal error [" ++ context ++ "]: " ++ text

/-- The texts of several failures. -/
def messages : List Failure → List String
  | [] => []
  | f :: rest => message f :: messages rest

end

mutual

/-- The stage that a failure names: its own, that of the failure inside a feature, or the first that a
member of a list names. -/
def reason? : Failure → Option Reason
  | stage reason _ => some reason
  | feature _ source => reason? source
  | many failures => firstReason? failures
  | _ => none

/-- The first stage named in a list of failures. -/
def firstReason? : List Failure → Option Reason
  | [] => none
  | f :: rest => (reason? f).or (firstReason? rest)

end

/-- The server's answer behind a failure, seen through stages and features. -/
def apiStatus? : Failure → Option ApiStatus
  | client (.api s) => some s
  | stage _ source => apiStatus? source
  | feature _ source => apiStatus? source
  | _ => none

/-- The object asked for does not exist. -/
def isNotFound (f : Failure) : Bool :=
  f.apiStatus?.any fun s => s.code == 404

/-- The object to be created exists. -/
def isAlreadyExists (f : Failure) : Bool :=
  f.apiStatus?.any fun s => s.code == 409 && s.reason == "AlreadyExists"

/-- The object was changed since it was read. -/
def isConflict (f : Failure) : Bool :=
  f.apiStatus?.any fun s => s.code == 409 && s.reason != "AlreadyExists"

/-- Append a failure to a flat list; a list of failures is appended member by member. -/
def push (collected : List Failure) : Failure → List Failure
  | many failures => collected ++ failures
  | f => collected ++ [f]

/-- Append several failures in turn. -/
def pushAll (collected : List Failure) (failures : List Failure) : List Failure :=
  failures.foldl push collected

/-- The failure of a collection: none, the only member, or the list. -/
def ofList? : List Failure → Option Failure
  | [] => none
  | [f] => some f
  | fs => some (many fs)

/-- The outcome of a best-effort sequence of steps that collected these failures. -/
def toResult (collected : List Failure) : Except Failure Unit :=
  match ofList? collected with
  | none => .ok ()
  | some f => .error f

/-- Append the failure of an outcome, if it is one. -/
def pushResult {α : Type} (collected : List Failure) : Except Failure α → List Failure
  | .ok _ => collected
  | .error f => push collected f

/-- A refusal by the server. -/
def api (code : Nat) (reason : String) (message : String) : Failure :=
  client (.api ⟨"Failure", message, reason, code⟩)

/-- A definition that names no feature is at fault. -/
def invalid (message : String) : Failure := validation unknownContext message none

theorem toResult_eq_ok_iff (collected : List Failure) :
    toResult collected = .ok () ↔ collected = [] := by
  rcases collected with _ | ⟨f, _ | ⟨g, r⟩⟩ <;> simp [toResult, ofList?]

end Failure
end Provision

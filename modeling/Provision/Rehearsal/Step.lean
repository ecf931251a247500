import Provision.Feature.Definition
import Provision.Handler.Report
import Provision.Rehearsal.Client

/-!
Parts for the features of a rehearsal: steps that leave a line in the trace, fail on purpose or change the
data, and predicates, overlay engines and reporters whose answers are written down beforehand.
-/

namespace Provision.Rehearsal

/-- Trace something from within a step. -/
def noteInStep (line : String) : ExceptT Failure (StateT DataBag Rehearsal) Unit :=
  onCluster (ExceptT.lift (note line))

/-- A step that leaves a line. -/
def logStep (text : String) : Action Rehearsal := fun _ => noteInStep ("action " ++ text)

/-- A step that fails; with a number of times, only the first runs of what is counted as `what`. -/
def failStep (failure : Failure) (times : Option Nat) (what : String) : Action Rehearsal := fun _ => do
  match times with
  | none => throw failure
  | some times =>
    let before ← onCluster (ExceptT.lift (count ("failed " ++ what)))
    if before < times then throw failure

/-- A step that stores a value. -/
def setStep (key : String) (value : Json) : Action Rehearsal := fun _ =>
  modify fun data => Keyed.insert data key value

/-- A step that stores the namespace of the feature. -/
def setSpaceStep (key : String) : Action Rehearsal := fun c =>
  modify fun data => Keyed.insert data key (.string c.space)

/-- A step that drops a value. -/
def unsetStep (key : String) : Action Rehearsal := fun _ => do
  let data ← get
  set (Keyed.erase data key)
  noteInStep ("unset " ++ key ++ " " ++ toString (Keyed.contains data key))

/-- A step that reads a value. -/
def getStep (key : String) (read : DataBag → Except Failure Json) : Action Rehearsal := fun _ => do
  let value ← read (← get)
  noteInStep ("get " ++ key ++ " " ++ value.print)

/-- A step that applies an object, if it can be read. -/
def applyStep (o : Except Failure Object) : Action Rehearsal := fun c => do
  let o ← o
  let outcome ← onCluster (c.applyObject o)
  noteInStep ("applied " ++ outcome.text)

/-- A step that deletes an object. -/
def deleteStep (type : ResourceType) (key : ObjectKey) : Action Rehearsal := fun c =>
  onCluster (c.client.delete type key)

/-- A step that merges an object, if it can be read, into the one with its key. -/
def patchStep (o : Except Failure Object) : Action Rehearsal := fun c => do
  let o ← o
  onCluster (c.client.patchObject o)

/-- What a step sees, in one line. -/
def contextText (c : Context Rehearsal) (data : DataBag) : String :=
  " ".intercalate ["context", c.name, c.space, "managed=" ++ toString c.managed,
    c.source.kind.text ++ ":" ++ c.source.name, "tracker=" ++ toString c.tracker.isSome,
    "owner=" ++ (c.ownerReference?.map OwnerReference.uid).getD "",
    "data=" ++ (Json.object data).print]

/-- A step that shows what it sees. -/
def contextStep : Action Rehearsal := fun c => do
  noteInStep (contextText c (← get))

/-- The entry for the nth time; the last one stays. -/
def nth {α : Type} : List α → Nat → Option α
  | [], _ => none
  | [a], _ => some a
  | a :: _, 0 => some a
  | _ :: rest, n + 1 => nth rest n

/-- An operation with its outcomes, counted as `what`. -/
def scripted {α : Type} (what : String) (outcomes : List (Except Failure α))
    (otherwise : Except Failure α) : ExceptT Failure Rehearsal α := ExceptT.mk do
  let n ← count what
  return (nth outcomes n).getD otherwise

/-- A predicate with its answers; without any it holds. -/
def scriptedPredicate (name : String) (answers : List (Except Failure Bool)) : Predicate Rehearsal :=
  fun _ _ => do
    ExceptT.lift (note ("enabled? " ++ name))
    scripted ("asked " ++ name) answers (.ok true)

/-- An overlay engine with its answers by directory. -/
def scriptedEngine (answers : List (String × Except Failure String)) : OverlayEngine Rehearsal :=
  fun dir => ExceptT.mk do
    note ("build " ++ dir)
    return (answers.lookup dir).getD (.error (.overlay dir "no overlay output"))

/-- A reporter that fails as written down. -/
def scriptedReporter (failures : HandlerOperation → Option Failure) : Reporter Rehearsal :=
  fun operation outcome => ExceptT.mk do
    let text := match outcome with
      | .ok _ => "ok"
      | .error f => f.message
    note ("report " ++ operation.text ++ ": " ++ text)
    return match failures operation with
      | some f => .error f
      | none => .ok ()

/-- A provider that registers batches of definitions and then fails, if it is to fail. It may go on after a
batch that was refused. -/
def scriptedProvider (goOn : Bool) (failure : Option Failure) :
    List (Except Failure (List (Definition Rehearsal))) → Provider Rehearsal
  | [] => match failure with
    | some f => throw f
    | none => pure ()
  | batch :: rest => do
    let definitions ← batch
    if goOn then
      let _ ← ExceptT.lift (Registry.add definitions).run
    else Registry.add definitions
    scriptedProvider goOn failure rest

end Provision.Rehearsal

import Provision.Rehearsal.World
import Provision.Json.Print

/-!
The clients of a rehearsal. A call first meets the faults; what they let through reaches the cluster.
Either way the trace shows the call and its outcome.
-/

namespace Provision.Rehearsal

/-- The outcome of a call in the trace. -/
def outcomeText {α : Type} (describe : α → String) : Except Failure α → String
  | .ok a => describe a
  | .error f =>
    match f.apiStatus? with
    | some s => toString s.code ++ " " ++ s.reason
    | none => "error: " ++ f.message

/-- The start of the lines about a cluster. -/
def lineStart : BenchName → String
  | .main => ""
  | .other => "alt: "

/-- What a fault makes of a call, if it can: its failure, or an answer with nothing in it. -/
def spoilt {α : Type} (f : Fault) (nothing : Option α) : Option (Except Failure α) :=
  match f.failure with
  | some failure => some (.error failure)
  | none => nothing.map .ok

/-- Make a call. `nothing` is the answer of a call that finds nothing. -/
def call {α : Type} (target : BenchName) (c : Call) (nothing : Option α) (describe : α → String)
    (operation : Store → Store.Reply α) : ExceptT Failure Rehearsal α := ExceptT.mk do
  let w ← get
  let b := w.bench target
  let (fault, faults) := Fault.hit c b.faults
  let (outcome, store) := match fault.bind fun f => spoilt f nothing with
    | some outcome => (outcome, b.store)
    | none => operation b.store
  set (w.setBench { store, faults } target)
  note (lineStart target ++ " ".intercalate (c.name :: c.arguments) ++ " => " ++
    outcomeText describe outcome)
  return outcome

/-- What the trace says of something that was looked for. -/
def foundText {α : Type} (o : Option α) : String := if o.isSome then "found" else "none"

/-- What the trace says of something that was done. -/
def doneText {α : Type} (_ : α) : String := "ok"

/-- A call about the object with a key. -/
def aboutObject (name : String) (type : ResourceType) (key : ObjectKey) (more : List String) : Call :=
  ⟨name, type.kind, key.name, type.plural :: key.text :: more⟩

/-- A call about a tracker. -/
def aboutTracker (name tracker : String) (more : List String) : Call :=
  { name, subject := tracker, arguments := tracker :: more }

/-- The client of a cluster of the rehearsal. -/
def client (target : BenchName) : Client Rehearsal where
  get type key := call target (aboutObject "get" type key []) (some none) foundText
    fun s => (.ok (s.get? type key), s)
  create type o := call target (aboutObject "create" type o.key []) none doneText
    fun s => s.create type o
  replace type o := call target (aboutObject "replace" type o.key []) none doneText
    fun s => s.replace type o
  mergePatch type key patch :=
    call target (aboutObject "merge_patch" type key [patch.print]) none doneText
      fun s => s.mergePatch type key patch
  delete type key := call target (aboutObject "delete" type key []) none doneText
    fun s => s.delete type key
  list type space selector :=
    call target ⟨"list", type.kind, "", [type.plural, space.getD "-", selector.getD "-"]⟩ (some [])
      (fun found => toString found.length) fun s => (.ok (s.list type space selector), s)
  getTracker name := call target (aboutTracker "get_tracker" name []) (some none) foundText
    fun s => (.ok (s.getTracker? name), s)
  createTracker t := call target (aboutTracker "create_tracker" t.displayName []) none doneText
    fun s => s.createTracker t
  replaceTrackerStatus t :=
    call target (aboutTracker "replace_tracker_status" t.displayName
        [(t.status.map fun s => s.phase.text).getD ""]) none doneText
      fun s => s.replaceTrackerStatus t
  deleteTracker name := call target (aboutTracker "delete_tracker" name []) none doneText
    fun s => s.deleteTracker name

end Provision.Rehearsal

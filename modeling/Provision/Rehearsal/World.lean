import Provision.Clock
import Provision.Cluster.Client
import Provision.Cluster.Store
import Provision.Disk
import Provision.Overlay.Program

/-!
Rehearsing features without a real cluster. A rehearsal has two clusters in memory, a clock that no one
waits for, and a working directory. Calls to a cluster can be made to fail, and every call is traced.
-/

namespace Provision

/-- A call to be spoilt. -/
structure Fault where
  /-- The name of the call. -/
  call : String
  /-- The kind that it must be about; otherwise any. -/
  kind : Option String := none
  /-- The name that it must be about; otherwise any. -/
  name : Option String := none
  /-- How many calls are let through first. -/
  skip : Nat := 0
  /-- How many calls are spoilt; otherwise all. -/
  times : Option Nat := none
  /-- How the call fails. Without a failure, what it looks for seems not to be there. -/
  failure : Option Failure := none

/-- A call as faults and traces see it. -/
structure Call where
  name : String
  kind : String := ""
  subject : String := ""
  arguments : List String

namespace Fault

def concerns (f : Fault) (c : Call) : Bool :=
  f.call == c.name && f.kind.all (· == c.kind) && f.name.all (· == c.subject)

/-- The first fault that spoils a call, and the faults after it. -/
def hit (c : Call) : List Fault → Option Fault × List Fault
  | [] => (none, [])
  | f :: rest =>
    if f.concerns c && f.skip = 0 && f.times != some 0 then
      (some f, { f with times := f.times.map (· - 1) } :: rest)
    else
      let f := if f.concerns c then { f with skip := f.skip - 1 } else f
      let (found, rest) := hit c rest
      (found, f :: rest)

end Fault

/-- A cluster of a rehearsal. -/
structure Bench where
  store : Store := {}
  faults : List Fault := []

/-- Which of the two clusters. -/
inductive BenchName where
  | main
  | other
deriving DecidableEq, Repr

/-- All that a rehearsal can change. -/
structure World where
  main : Bench := {}
  other : Bench := {}
  /-- What happened, oldest first. -/
  trace : List String := []
  /-- How long the clock has been running. -/
  elapsed : Nanoseconds := 0
  /-- The time of day, which stands still. -/
  timeOfDay : Timestamp
  /-- How often things were done, by what they are called. -/
  counts : Keyed String Nat := []
  /-- The working directory. -/
  disk : Disk.Node := .dir []

/-- Computations of a rehearsal. -/
abbrev Rehearsal := StateM World

namespace World

def bench (w : World) : BenchName → Bench
  | .main => w.main
  | .other => w.other

def setBench (w : World) (b : Bench) : BenchName → World
  | .main => { w with main := b }
  | .other => { w with other := b }

end World

namespace Rehearsal

/-- A sleep ends with the first whole millisecond at which its time is over. -/
def wakeTime (now d : Nanoseconds) : Nanoseconds :=
  if d = 0 then now else Duration.ofMillis ((now + d + 999999) / 1000000)

instance : Clock Rehearsal where
  elapsed := return (← get).elapsed
  sleep d := modify fun w => { w with elapsed := wakeTime w.elapsed d }
  now := return (← get).timeOfDay

/-- Trace something. -/
def note (line : String) : Rehearsal Unit :=
  modify fun w => { w with trace := w.trace ++ [line] }

/-- Count something; the answer is how often it was counted before. -/
def count (what : String) : Rehearsal Nat := do
  let w ← get
  let n := (Keyed.get? w.counts what).getD 0
  set { w with counts := Keyed.insert w.counts what (n + 1) }
  return n

/-- The trace, which starts anew. -/
def takeTrace : Rehearsal (List String) := modifyGet fun w => (w.trace, { w with trace := [] })

/-- Change a cluster directly. -/
def onStore {α : Type} (target : BenchName) (change : Store → α × Store) : Rehearsal α := do
  let w ← get
  let b := w.bench target
  let (a, store) := change b.store
  set (w.setBench { b with store } target)
  return a

/-- Change the faults of a cluster. -/
def onFaults (target : BenchName) (change : List Fault → List Fault) : Rehearsal Unit :=
  modify fun w =>
    let b := w.bench target
    w.setBench { b with faults := change b.faults } target

end Rehearsal
end Provision

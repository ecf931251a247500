import Provision.Cluster.Kubeconfig
import Provision.Feature.Definition
import Provision.Rehearsal.Client
import Provision.Rehearsal.Script

/-!
The machine that a rehearsal runs on: a few programs, among them a small shell, and a kubeconfig in the
working directory. A cluster at an address is never there.
-/

namespace Provision.Rehearsal

/-- Run a program of the machine. -/
def runProgram : ProgramRunner Rehearsal := fun program arguments => ExceptT.mk do
  match program with
  | "true" => return .ok {}
  | "false" => return .ok { status := .code 1 }
  | "echo" => return .ok { output := Utf8.encode (" ".intercalate arguments ++ "\n") }
  | "sh" =>
    match arguments with
    | [] => return .ok {}
    | script :: arguments =>
      let w ← get
      let (result, disk) := Script.run w.disk script arguments
      set { w with disk }
      return .ok result
  | _ => return .error Disk.Fault.notFound.message

/-- The failure of every call to a cluster that cannot be reached. -/
def unreachable {α : Type} : ExceptT Failure Rehearsal α := throw (.client (.request "unreachable"))

/-- The client of a cluster that cannot be reached. -/
def remoteClient : Client Rehearsal where
  get _ _ := unreachable
  create _ _ := unreachable
  replace _ _ := unreachable
  mergePatch _ _ _ := unreachable
  delete _ _ := unreachable
  list _ _ _ := unreachable
  getTracker _ := unreachable
  createTracker _ := unreachable
  replaceTrackerStatus _ := unreachable
  deleteTracker _ := unreachable

/-- What features of a rehearsal find around them. -/
def surroundings : Surroundings Rehearsal where
  standardClient _ := do
    let w ← get
    let _ ← Kubeconfig.locate w.disk "kubeconfig"
    return remoteClient
  clientAt _ _ := pure remoteClient
  runProgram

end Provision.Rehearsal

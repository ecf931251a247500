import Provision.Manifest.Render
import Provision.Text.Blank
import Provision.Text.Utf8

/-!
Overlay engines that are programs of the machine: `program build DIR` writes the objects of the overlay in
`DIR` to its output.
-/

namespace Provision

/-- How a program ended. -/
inductive ExitStatus where
  | code (n : Nat)
  | signal (n : Nat)
deriving DecidableEq, Repr

namespace ExitStatus

/-- The names of signals. -/
def signalNames : List (Nat × String) := [
  (1, "SIGHUP"), (2, "SIGINT"), (3, "SIGQUIT"), (4, "SIGILL"), (5, "SIGTRAP"), (6, "SIGABRT"),
  (7, "SIGBUS"), (8, "SIGFPE"), (9, "SIGKILL"), (10, "SIGUSR1"), (11, "SIGSEGV"), (12, "SIGUSR2"),
  (13, "SIGPIPE"), (14, "SIGALRM"), (15, "SIGTERM"), (16, "SIGSTKFLT"), (17, "SIGCHLD"),
  (18, "SIGCONT"), (19, "SIGSTOP"), (20, "SIGTSTP"), (21, "SIGTTIN"), (22, "SIGTTOU"),
  (23, "SIGURG"), (24, "SIGXCPU"), (25, "SIGXFSZ"), (26, "SIGVTALRM"), (27, "SIGPROF"),
  (28, "SIGWINCH"), (29, "SIGIO"), (30, "SIGPWR"), (31, "SIGSYS")]

def text : ExitStatus → String
  | code n => "exit status: " ++ toString n
  | signal n => "signal: " ++ toString n ++
      match signalNames.lookup n with
      | some name => " (" ++ name ++ ")"
      | none => ""

end ExitStatus

/-- What a program leaves behind. -/
structure ProgramResult where
  status : ExitStatus := .code 0
  output : List UInt8 := []
  /-- What it wrote about errors. -/
  complaints : List UInt8 := []
deriving Repr

/-- Runs a program by its name with arguments. A failure is the system's reason for not starting it. -/
abbrev ProgramRunner (m : Type → Type) := String → List String → ExceptT String m ProgramResult

/-- The output of a program that was to build the overlay in a directory. -/
def overlayOutput (program dir : String) : Except String ProgramResult → Except Failure String
  | .error why => .error (.overlay dir ("failed to execute " ++ program ++ ": " ++ why))
  | .ok r =>
    if r.status ≠ .code 0 then
      .error (.overlay dir (program ++ " build exited with " ++ r.status.text ++ ": " ++
        trimBlanks (Utf8.decodeAnyway r.complaints)))
    else
      (Utf8.decode r.output).mapError fun f =>
        .overlay dir ("build output is not UTF-8: " ++ f.message)

/-- The overlay engine that runs a program. -/
def programEngine {m : Type → Type} [Monad m] (run : ProgramRunner m) (program : String) :
    OverlayEngine m :=
  fun dir => ExceptT.mk do
    let result ← (run program ["build", dir]).run
    return overlayOutput program dir result

end Provision

import Provision.Keyed
import Provision.Text.Pieces
import Provision.Text.Raw

/-!
A tree of files as an operating system keeps it: regular files, symbolic links and directories, under names that are
bytes. Its top is both the root and the working directory. Looking a path up follows links, at most forty of them.
Listing a directory does not.
-/

namespace Provision.Disk

/-- What stands at a place of the tree. -/
inductive Node where
  | file (content : List UInt8)
  | link (target : RawText)
  | dir (entries : List (RawText × Node))
deriving Inhabited, Repr

/-- Why the operating system refuses. -/
inductive Fault where
  | notFound
  | notDirectory
  | isDirectory
  | tooManyLinks
  | nulInName
deriving DecidableEq, Repr

def Fault.message : Fault → String
  | notFound => "No such file or directory (os error 2)"
  | notDirectory => "Not a directory (os error 20)"
  | isDirectory => "Is a directory (os error 21)"
  | tooManyLinks => "Too many levels of symbolic links (os error 40)"
  | nulInName => "file name contained an unexpected NUL byte"

/-- What stands between the names of a path. -/
def slash : UInt8 := 0x2F

/-- The names between the slashes of a path. -/
def names (path : RawText) : List RawText := (pieces slash path.bytes).map RawText.mk

/-- The directories on the way from the top to a place, the place itself first. Above the top is the top. -/
structure Trail where
  top : Node
  below : List Node

namespace Trail

def node (t : Trail) : Node := t.below.head?.getD t.top

def parent (t : Trail) : Trail := { t with below := t.below.tail }

def enter (t : Trail) (n : Node) : Trail := { t with below := n :: t.below }

/-- Where a path starts that is met on the way: at the top if it begins with a slash. -/
def start (t : Trail) (path : RawText) : Trail :=
  if path.bytes.head? = some slash then { t with below := [] } else t

end Trail

/-- Look names up one after the other. `onLink` goes on from a link: with the place of the link, its
target and the names that are left. The last name itself is followed only if `last` says so. -/
def lookFrom (last : Bool) (onLink : Trail → RawText → List RawText → Except Fault Node) :
    Trail → List RawText → Except Fault Node
  | t, [] => .ok t.node
  | t, name :: rest =>
    match t.node with
    | .dir entries =>
      if name = "" || name = "." then lookFrom last onLink t rest
      else if name = ".." then lookFrom last onLink t.parent rest
      else
        match Keyed.get? entries name with
        | none => .error .notFound
        | some (.link target) =>
          if rest.isEmpty && !last then .ok (.link target) else onLink t target rest
        | some n => lookFrom last onLink (t.enter n) rest
    | _ => .error .notDirectory

/-- Look names up with a number of links to follow. -/
def lookup (last : Bool) : Nat → Trail → List RawText → Except Fault Node
  | 0, t, ns => lookFrom last (fun _ _ _ => .error .tooManyLinks) t ns
  | links + 1, t, ns =>
    lookFrom last (fun t target rest => lookup last links (t.start target) (names target ++ rest)) t ns

/-- What stands at a path, as the operating system looks it up. -/
def find (followLast : Bool) (top : Node) (path : RawText) : Except Fault Node :=
  if path.bytes.contains 0 then .error .nulInName
  else if path.bytes.isEmpty then .error .notFound
  else lookup followLast 40 ⟨top, []⟩ (names path)

/-- What stands at a path in the end. -/
def follow (top : Node) (path : RawText) : Except Fault Node := find true top path

/-- The bytes of the file at a path. -/
def read (top : Node) (path : RawText) : Except Fault (List UInt8) :=
  match follow top path with
  | .ok (.file content) => .ok content
  | .ok _ => .error .isDirectory
  | .error e => .error e

mutual

/-- The paths of the regular files at or below a place whose own path has the given names. -/
def filesAt (here : List RawText) : Node → List (List RawText)
  | .file _ => [here]
  | .link _ => []
  | .dir entries => filesIn here entries

/-- The paths of the regular files at or below the entries of a directory. -/
def filesIn (here : List RawText) : List (RawText × Node) → List (List RawText)
  | [] => []
  | (name, n) :: rest => filesAt (here ++ [name]) n ++ filesIn here rest

end

/-- The regular files at or below a path, by the names of their paths. Only a link at the path itself is
followed, and only to a directory. -/
def walk (top : Node) (path : RawText) (here : List RawText) : Except Fault (List (List RawText)) :=
  match find false top path with
  | .error e => .error e
  | .ok (.link _) =>
    match follow top path with
    | .error e => .error e
    | .ok (.dir entries) => .ok (filesIn here entries)
    | .ok _ => .ok []
  | .ok n => .ok (filesAt here n)

/-- Put something at the place with the given names, with the directories that lead there. -/
def put : List RawText → Node → Node → Node
  | [], new, _ => new
  | name :: rest, new, old =>
    let entries := match old with
      | .dir entries => entries
      | _ => []
    .dir (Keyed.insert entries name (put rest new ((Keyed.get? entries name).getD (.dir []))))

/-- Put files below a directory, which is there afterwards even without files. -/
def putAll (dir : List String) (files : List (String × Node)) (top : Node) : Node :=
  let place := dir.map RawText.ofText
  let isThere := dir.isEmpty || (find true top (String.intercalate "/" dir)).isOk
  let start := if isThere then top else put place (.dir []) top
  files.foldl (fun top e => put (place ++ names e.1) e.2 top) start

/-- Write something into a directory that is there. No link is followed on the way. -/
def write : List RawText → Node → Node → Except Fault Node
  | [], _, .dir _ => .error .isDirectory
  | [], new, _ => .ok new
  | name :: rest, new, .dir entries =>
    match Keyed.get? entries name with
    | some n => (write rest new n).map fun n => .dir (Keyed.insert entries name n)
    | none => if rest.isEmpty then .ok (.dir (Keyed.insert entries name new)) else .error .notFound
  | _ :: _, _, _ => .error .notDirectory

end Provision.Disk

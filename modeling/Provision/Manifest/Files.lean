import Provision.Disk
import Provision.Manifest.Path
import Provision.Text.Utf8

/-!
Where manifests come from: texts held in memory by their paths, or a directory on disk.
-/

namespace Provision

/-- A collection of manifest files. -/
inductive Files where
  | memory (texts : Keyed String String)
  /-- The directory `root` of a tree. -/
  | disk (root : String) (tree : Disk.Node)
deriving Repr

namespace Files

/-- Drop every `./` at the start. -/
def dropDots : List Char → List Char
  | '.' :: '/' :: rest => dropDots rest
  | s => s

/-- The path under which a text is held: no `./` at the start, no slashes at the ends. -/
def heldPath (path : String) : String :=
  let s := (dropDots path.toList).dropWhile (· = '/')
  String.ofList (s.reverse.dropWhile (· = '/')).reverse

/-- Hold a text under a path. -/
def hold (texts : Keyed String String) (path text : String) : Keyed String String :=
  Keyed.insert texts (heldPath path) text

/-- Texts in memory. -/
def ofTexts (texts : List (String × String)) : Files :=
  memory (texts.foldl (fun held e => hold held e.1 e.2) [])

/-- The path of a file of a directory as the operating system knows it. A root that is empty or ends with a slash
needs no other slash behind it. -/
def onDisk (root path : String) : String :=
  if path.isEmpty then root
  else if path.toList.head? = some '/' then path
  else if root.toList.getLast?.all (· = '/') then root ++ path
  else root ++ "/" ++ path

/-- The directory on disk that holds the files. -/
def diskRoot? : Files → Option String
  | memory _ => none
  | disk root _ => some root

/-- The text of a file. -/
def read (files : Files) (path : String) : Except Failure String :=
  match files with
  | memory texts =>
    match Keyed.get? texts path with
    | some t => .ok t
    | none => .error (.manifest path "file does not exist")
  | disk root tree =>
    match Disk.read tree (onDisk root path) with
    | .error e => .error (.manifest path ("failed to read file: " ++ e.message))
    | .ok bytes =>
      match Utf8.decode bytes with
      | .ok t => .ok t
      | .error _ => .error (.manifest path "failed to read file: stream did not contain valid UTF-8")

def isDir (files : Files) (path : String) : Bool :=
  match files with
  | memory texts => texts.any fun e => e.1 != path && Path.isBelow e.1 path
  | disk root tree =>
    match Disk.follow tree (onDisk root path) with
    | .ok (.dir _) => true
    | _ => false

/-- Whether there is a file or a directory. -/
def contains (files : Files) (path : String) : Bool :=
  match files with
  | memory texts => Keyed.contains texts path || isDir files path
  | disk root tree => (Disk.follow tree (onDisk root path)).isOk

/-- A path that is put together of names; for a name that is no text stands the nearest one. -/
def shownPath (names : List RawText) : String := Path.join (names.map RawText.shown)

/-- The files at or below a path, by their paths. -/
def walk (files : Files) (path : String) : Except Failure (List String) :=
  match files with
  | memory texts =>
    if Keyed.contains texts path then .ok [path]
    else .ok ((Keyed.keys texts).filter fun p => Path.isBelow p path)
  | disk root tree =>
    match Disk.walk tree (onDisk root path) ((Path.components path).map RawText.ofText) with
    | .error e =>
      .error (.manifest path ("failed to walk: IO error for operation on " ++ onDisk root path ++
        ": " ++ e.message))
    | .ok found => .ok ((found.map shownPath).mergeSort fun a b => compare a b != .gt)

end Files
end Provision

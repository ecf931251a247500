import Provision.Failure
import Provision.Text.Pieces

/-!
Paths of manifests: relative, components separated by slashes. The empty path is the root.

A path in normal form holds no empty component, no `.` and no `..`, so it never leads outside the
root that it is resolved under.
-/

namespace Provision.Path

/-- The parts between slashes. -/
def parts (path : String) : List String :=
  (pieces '/' path.toList).map String.ofList

/-- Put slashes between parts. -/
def join (parts : List String) : String :=
  String.intercalate "/" parts

/-- The parts that lead somewhere: all but the empty ones and `.`. -/
def components (path : String) : List String :=
  (parts path).filter fun p => p != "" && p != "."

/-- The normal form of a relative path that stays below the root. -/
def normalize (path : String) : Except Failure String :=
  if path.toList.head? = some '/' then
    .error (.manifest path "manifest paths must be relative")
  else if (parts path).contains ".." then
    .error (.manifest path "manifest paths may not leave the manifest root")
  else .ok (join (components path))

/-- The last part of a path. -/
def fileName (path : String) : String :=
  (parts path).getLast?.getD path

/-- The path without its last part; empty for a path of one part. -/
def parentDir (path : String) : String :=
  join (parts path).dropLast

/-- What is left of a path after a text that it starts with. -/
def afterStart? (start path : String) : Option (List Char) :=
  if start.toList.isPrefixOf path.toList then some (path.toList.drop start.length) else none

/-- Whether a path lies properly below a directory; everything lies below the root. -/
def isBelow (path dir : String) : Bool :=
  dir.isEmpty ||
    match afterStart? dir path with
    | some ('/' :: _) => true
    | _ => false

/-- Whether a path is a directory or lies below it. -/
def isWithin (path dir : String) : Bool :=
  dir.isEmpty ||
    match afterStart? dir path with
    | some [] => true
    | some ('/' :: _) => true
    | _ => false

/-- The file names that make their directory an overlay. -/
def overlayConfigNames : List String :=
  ["kustomization.yaml", "kustomization.yml", "Kustomization"]

def isOverlayConfig (path : String) : Bool :=
  overlayConfigNames.contains (fileName path)

/-- A template has `.tmpl` in its file name. -/
def isTemplate (path : String) : Bool :=
  holdsPart ".tmpl".toList (fileName path).toList

/-- A merge patch has `.patch` in its file name. -/
def isPatch (path : String) : Bool :=
  holdsPart ".patch".toList (fileName path).toList

end Provision.Path

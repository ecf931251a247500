import Provision.Text.Blank
import Provision.Text.Lines

/-!
Cutting a stream of YAML into documents at separator lines: three hyphens and nothing else but
blanks. A document without any visible character is dropped.
-/

namespace Provision.Yaml

/-- A line of three hyphens, perhaps followed by spaces and tabs. -/
def isSeparator (line : List Char) : Bool :=
  match line with
  | '-' :: '-' :: '-' :: rest => rest.all fun c => c == ' ' || c == '\t'
  | _ => false

/-- The runs of lines between separator lines; there is always at least one. -/
def runs : List (List Char) → List (List (List Char))
  | [] => [[]]
  | line :: rest =>
    if isSeparator line then [] :: runs rest
    else
      match runs rest with
      | [] => [[line]]
      | r :: rs => (line :: r) :: rs

/-- The lines of a run, each ended by one line feed. -/
def unlines (lines : List (List Char)) : List Char :=
  lines.flatMap fun l => l ++ ['\n']

/-- The documents of a stream. -/
def splitDocuments (content : String) : List String :=
  let documents := (runs (textLines content.toList)).map unlines
  (documents.filter fun d => !d.all isBlank).map String.ofList

end Provision.Yaml

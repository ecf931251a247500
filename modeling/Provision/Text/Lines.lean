import Provision.Text.Pieces

/-!
Lines of a text. A line ends at a line feed; one carriage return right before the line feed belongs
to the ending. Text after the last line feed is a line of its own unless it is empty.
-/

namespace Provision

/-- Take a carriage return from the end of a piece. -/
def dropReturn (p : List Char) : List Char :=
  match p.reverse with
  | '\r' :: r => r.reverse
  | _ => p

/-- The lines of pieces cut at line feeds: every piece but the last was ended by one. -/
def linesOfPieces : List (List Char) → List (List Char)
  | [] => []
  | [last] => if last.isEmpty then [] else [last]
  | p :: q :: ps => dropReturn p :: linesOfPieces (q :: ps)

/-- The lines of a text without their endings. -/
def textLines (s : List Char) : List (List Char) :=
  linesOfPieces (pieces '\n' s)

example : textLines ['a', '\r', '\n', 'b', '\n', '\n', 'c'] = [['a'], ['b'], [], ['c']] := by decide

end Provision

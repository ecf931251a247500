/-!
Replacing parts of text.
-/

namespace Provision

/-- Put `new` in place of every occurrence of the nonempty `old`, from left to right without overlaps.
The first `skip` characters belong to an occurrence that was replaced. -/
def replaceFrom (old new : List Char) : Nat → List Char → List Char
  | _, [] => []
  | skip + 1, _ :: rest => replaceFrom old new skip rest
  | 0, c :: rest =>
    if old.isPrefixOf (c :: rest) then new ++ replaceFrom old new (old.length - 1) rest
    else c :: replaceFrom old new 0 rest

/-- Put `new` in place of every occurrence of `old`. The empty text occurs around every character. -/
def replaceParts (old new s : List Char) : List Char :=
  if old.isEmpty then s.flatMap (fun c => new ++ [c]) ++ new
  else replaceFrom old new 0 s

/-- Put one text in place of another. -/
def replaceText (old new s : String) : String :=
  String.ofList (replaceParts old.toList new.toList s.toList)

example : replaceParts ['a', 'a'] ['b'] ['a', 'a', 'a'] = ['b', 'a'] := by decide
example : replaceParts [] ['-'] ['x', 'y'] = ['-', 'x', '-', 'y', '-'] := by decide

end Provision

import Provision.Text.CaseMap

/-!
Changing the case of text. A capital sigma that ends a word becomes the final small sigma; every
other character changes by itself.
-/

namespace Provision

/-- Change a code point by a table of runs and a table of longer results. -/
def mapCase (runs : List CaseRun) (specials : List (Nat × List Nat)) (c : Char) : List Char :=
  let n := c.toNat
  match specials.find? fun e => e.1 == n with
  | some (_, cs) => cs.map Char.ofNat
  | none =>
    match runs.find? fun r => r.covers n with
    | some r => [Char.ofNat ((n : Int) + r.offset).toNat]
    | none => [c]

/-- The lower case of a character. -/
def lowerChar (c : Char) : List Char :=
  if c.toNat < 0x80 then [c.toLower] else mapCase lowerRuns lowerSpecials c

/-- The upper case of a character. -/
def upperChar (c : Char) : List Char :=
  if c.toNat < 0x80 then [c.toUpper] else mapCase upperRuns upperSpecials c

def inRanges (ranges : List (Nat × Nat)) (c : Char) : Bool :=
  ranges.any fun r => r.1 ≤ c.toNat && c.toNat ≤ r.2

/-- Whether the first character that counts has case. -/
def startsCased (s : List Char) : Bool :=
  match s.dropWhile (inRanges passedOverRanges) with
  | c :: _ => inRanges casedRanges c
  | [] => false

/-- Lower case of the rest of a text, with what stood before it in reverse. -/
def lowerFrom (before : List Char) : List Char → List Char
  | [] => []
  | c :: rest =>
    let lowered :=
      if c = 'Σ' then
        if startsCased before && !startsCased rest then ['ς'] else ['σ']
      else lowerChar c
    lowered ++ lowerFrom (c :: before) rest

/-- A text in lower case. -/
def lowerText (s : String) : String := String.ofList (lowerFrom [] s.toList)

/-- A text in upper case. -/
def upperText (s : String) : String := String.ofList (s.toList.flatMap upperChar)

example : lowerFrom [] ['Α', 'Σ'] = ['α', 'ς'] := by decide +kernel
example : lowerFrom [] ['Σ', 'Α'] = ['σ', 'α'] := by decide +kernel
example : upperChar 'ß' = ['S', 'S'] := by decide +kernel

end Provision

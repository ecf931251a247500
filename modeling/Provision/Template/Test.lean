import Provision.Template.Argument
import Provision.Text.Case

/-!
The tests that templates can put to values.
-/

namespace Provision.Template

open ArgumentReader

/-- A test: what it says of a value, given further arguments. -/
abbrev Test := Value → List Value → Outcome Bool

namespace Test

/-- A test without further arguments. -/
def simple (p : Value → Bool) : Test := fun v args => run (pure (p v)) args

/-- A test that compares with one further value. -/
def against (p : Value → Value → Bool) : Test := fun v args =>
  run (do let other ← next; return p v other) args

/-- A test of one text against another. -/
def ofTexts (p : List Char → List Char → Bool) : Test := fun v args =>
  run (do
    let s ← anyText v
    let t ← nextText
    return p s.toList t.toList) args

def isSuffix (t s : List Char) : Bool := t.reverse.isPrefixOf s.reverse

def divides (v d : Value) : Bool :=
  match Value.common? false v d with
  | some (.ints a b) => b ≠ 0 && a.emod b == 0
  | some (.floats a b) => (a.rem b).eqv Binary64.zero
  | _ => false

def parity (odd : Bool) (v : Value) : Bool :=
  v.asInt?.any fun n => (n.emod 2 == 1) == odd

def isWholeNumber : Value → Bool
  | .int _ => true
  | _ => false

def isFloat : Value → Bool
  | .float _ => true
  | _ => false

/-- Whether a text is the same in a case. -/
def inCase (change : Char → List Char) (v : Value) : Bool :=
  match v with
  | .text s _ => s.toList.all fun c => change c == [c] && lowerChar c != upperChar c
  | _ => false

/-- The tests by their names. -/
def named : List (String × Test) := [
  ("undefined", simple Value.isUndefined),
  ("defined", simple fun v => !v.isUndefined),
  ("none", simple Value.isNone),
  ("safe", simple fun v => match v with | .text _ safe => safe | _ => false),
  ("escaped", simple fun v => match v with | .text _ safe => safe | _ => false),
  ("boolean", simple fun v => v.kind = .bool),
  ("odd", simple (parity true)),
  ("even", simple (parity false)),
  ("divisibleby", against divides),
  ("number", simple fun v => v.kind = .number),
  ("integer", simple isWholeNumber),
  ("int", simple isWholeNumber),
  ("float", simple isFloat),
  ("string", simple fun v => v.kind = .text),
  ("sequence", simple fun v => v.kind = .list),
  ("iterable", simple fun v => v.iterate?.isSome || v.kind = .map),
  ("mapping", simple fun v => v.kind = .map),
  ("startingwith", ofTexts fun s t => t.isPrefixOf s),
  ("endingwith", ofTexts fun s t => isSuffix t s),
  ("lower", simple (inCase lowerChar)),
  ("upper", simple (inCase upperChar)),
  ("sameas", against fun a b => a.kind = b.kind && a == b),
  ("eq", against fun a b => a == b),
  ("equalto", against fun a b => a == b),
  ("==", against fun a b => a == b),
  ("ne", against fun a b => !(a == b)),
  ("!=", against fun a b => !(a == b)),
  ("lt", against fun a b => compare a b == .lt),
  ("lessthan", against fun a b => compare a b == .lt),
  ("<", against fun a b => compare a b == .lt),
  ("le", against fun a b => compare a b != .gt),
  ("<=", against fun a b => compare a b != .gt),
  ("gt", against fun a b => compare a b == .gt),
  ("greaterthan", against fun a b => compare a b == .gt),
  (">", against fun a b => compare a b == .gt),
  ("ge", against fun a b => compare a b != .lt),
  (">=", against fun a b => compare a b != .lt),
  ("true", simple fun v => match v with | .bool b => b | _ => false),
  ("false", simple fun v => match v with | .bool b => !b | _ => false),
  ("in", fun v args => do
    let container ← run next args
    BinaryOp.demand container
    return (← BinaryOp.holds container v).isTrue)]

/-- Put the test called `name`. -/
def apply (name : String) (v : Value) (args : List Value) : Outcome Bool :=
  match named.lookup name with
  | some t => t v args
  | none => .error (.of .unknownTest ("test " ++ name ++ " is unknown"))

end Test
end Provision.Template

import Provision.Template.Value
import Provision.Text.Pieces

/-!
Operators of template expressions. Whole numbers are exact within 128 bits; a whole number that meets a
floating-point number is rounded to one.
-/

namespace Provision.Template

/-- Operators with two operands. -/
inductive BinaryOp where
  | add | sub | mul | div | floorDiv | rem | pow
  | concat
  | eq | ne | lt | le | gt | ge
  | contains
  | and | or
deriving DecidableEq, Repr

/-- The outcome of template work that may fail. -/
abbrev Outcome (α : Type) := Except Error α

/-- Fail with a detail. -/
def refuse {α : Type} (detail : String) : Outcome α := .error (.of .invalidOperation detail)

/-- Fail because something does not exist. -/
def refuseUndefined {α : Type} : Outcome α := .error ⟨.undefinedValue, none, none⟩

namespace BinaryOp

/-- How messages write an operator of arithmetic. -/
def sign : BinaryOp → String
  | add => "+"
  | sub => "-"
  | mul => "*"
  | div => "/"
  | floorDiv => "//"
  | rem => "%"
  | pow => "**"
  | _ => ""

/-- The operands are of kinds that the operator does not take. -/
def impossible (op : BinaryOp) (a b : Value) : Outcome Value :=
  refuse ("tried to use " ++ op.sign ++ " operator on unsupported types " ++ a.kind.word ++ " and " ++
    b.kind.word)

/-- The operator has no result for these operands. -/
def failed (op : BinaryOp) (a b : Value) : Outcome Value :=
  refuse ("unable to calculate " ++ a.print ++ " " ++ op.sign ++ " " ++ b.print)

/-- A whole number of at most 128 bits. -/
def bounded? (n : Int) : Option Int :=
  let bound : Int := Nat.pow 2 127
  if -bound ≤ n && n < bound then some n else none

/-- Arithmetic on whole numbers; division leaves a remainder that is not negative. -/
def onInts (op : BinaryOp) (a b : Int) : Option Int :=
  match op with
  | add => bounded? (a + b)
  | sub => bounded? (a - b)
  | mul => bounded? (a * b)
  | floorDiv => if b = 0 then none else bounded? (a / b)
  | rem => if b = 0 then none else some (a % b)
  | pow =>
    if b < 0 || 4294967296 ≤ b then none
    else if a.natAbs ≤ 1 then some (Int.pow a (b.toNat % 2 + 2 * min 1 b.toNat))
    else if 127 < b then none
    else bounded? (Int.pow a b.toNat)
  | _ => none

/-- A power of a floating-point number. -/
def powFloat (a b : Binary64) : Binary64 :=
  ⟨((Float.ofBits a.bits).pow (Float.ofBits b.bits)).toBits⟩

/-- Division to a whole number that leaves a remainder that is not negative. -/
def floorDivFloat (a b : Binary64) : Binary64 :=
  let q := (a.div b).trunc
  if (a.rem b).lt Binary64.zero then
    if Binary64.zero.lt b then q.sub Binary64.one else q.add Binary64.one
  else q

/-- Arithmetic on floating-point numbers; the remainder has the sign of the first operand. -/
def onFloats (op : BinaryOp) (a b : Binary64) : Option Binary64 :=
  match op with
  | add => some (a.add b)
  | sub => some (a.sub b)
  | mul => some (a.mul b)
  | floorDiv => some (floorDivFloat a b)
  | rem => some (a.rem b)
  | pow => some (powFloat a b)
  | _ => none

/-- Arithmetic on numbers. -/
def arithmetic (op : BinaryOp) (a b : Value) : Outcome Value :=
  match Value.common? true a b with
  | some (.ints x y) =>
    match onInts op x y with
    | some n => .ok (.int n)
    | none => failed op a b
  | some (.floats x y) =>
    match onFloats op x y with
    | some z => .ok (.float z)
    | none => impossible op a b
  | _ => impossible op a b

/-- The items of a list or an iterator. -/
def itemsOf? : Value → Option (List Value)
  | .list items _ => some items
  | _ => none

def plus (a b : Value) : Outcome Value :=
  match itemsOf? a, itemsOf? b with
  | some x, some y => .ok (.list (x ++ y) true)
  | _, _ =>
    match a, b with
    | .text x _, .text y _ => .ok (.ofString (x ++ y))
    | _, _ => arithmetic add a b

/-- A text or a list some times over. -/
def times (a b : Value) : Outcome Value :=
  let repeated (n : Value) : Option Nat := n.asInt?.bind fun i => if 0 ≤ i then some i.toNat else none
  let text (s : String) (n : Value) : Outcome Value :=
    match repeated n with
    | some k => .ok (.ofString (String.join (List.replicate k s)))
    | none => refuse "strings can only be multiplied with integers"
  let list (items : List Value) (n : Value) : Outcome Value :=
    match repeated n with
    | some k => .ok (.list (List.replicate k items).flatten true)
    | none => refuse "sequences and iterables can only be multiplied with integers"
  match a.asText?, b.asText?, itemsOf? a, itemsOf? b with
  | some s, _, _, _ => text s b
  | none, some s, _, _ => text s a
  | none, none, some items, _ => list items b
  | none, none, none, some items => list items a
  | none, none, none, none => arithmetic mul a b

/-- Division always gives a floating-point number. -/
def quotient (a b : Value) : Outcome Value :=
  match a.asFloat? true, b.asFloat? true with
  | some x, some y => .ok (.float (x.div y))
  | _, _ => impossible div a b

/-- Whether a value is in another: a part of a text, a key of a map, an item of a list. -/
def holds (container value : Value) : Outcome Value :=
  match container with
  | .undefined _ => .ok (.bool false)
  | .text s _ => .ok (.bool (holdsPart value.print.toList s.toList))
  | .list items _ => .ok (.bool (items.any fun v => v == value))
  | .map entries _ => .ok (.bool (Keyed.contains entries value))
  | .space _ => .ok (.bool false)
  | .loop _ => .ok (.bool false)
  | _ => refuse "cannot perform a containment check on this value"

/-- A value that exists, or may pass for one. -/
def demand (v : Value) : Outcome Unit :=
  match v with
  | .undefined false => refuseUndefined
  | _ => .ok ()

/-- Compare two values that exist. -/
def comparison (a b : Value) (result : Bool) : Outcome Value := do
  demand a
  demand b
  return .bool result

/-- The value of an operator whose operands are both needed. -/
def apply (op : BinaryOp) (a b : Value) : Outcome Value :=
  match op with
  | add => plus a b
  | mul => times a b
  | div => quotient a b
  | concat => do
    demand a
    demand b
    return .ofString (a.print ++ b.print)
  | eq => comparison a b (a == b)
  | ne => comparison a b (!(a == b))
  | lt => comparison a b (compare a b == .lt)
  | le => comparison a b (compare a b != .gt)
  | gt => comparison a b (compare a b == .gt)
  | ge => comparison a b (compare a b != .lt)
  | contains => do
    demand b
    holds b a
  | op => arithmetic op a b

end BinaryOp

/-- A number with the other sign. -/
def negate (v : Value) : Outcome Value :=
  match v with
  | .int n =>
    match BinaryOp.bounded? (-n) with
    | some m => .ok (.int m)
    | none => refuse "overflow"
  | .float x => .ok (.float x.neg)
  | _ => .error ⟨.invalidOperation, none, none⟩

/-! ### Slices -/

/-- Every `step`-th item, the first included. -/
def everyNth {α : Type} (step : Nat) : Nat → List α → List α
  | _, [] => []
  | 0, a :: rest => a :: everyNth step (step - 1) rest
  | n + 1, _ :: rest => everyNth step n rest

/-- A place counted from the end if negative. A place before the start lies beyond every end. -/
def place? (length : Nat) (i : Int) : Option Nat :=
  if 0 ≤ i then some i.toNat
  else if i.natAbs ≤ length then some (length - i.natAbs)
  else none

/-- The items from `start` up to `stop`, at a positive distance. -/
def sliceForward {α : Type} (items : List α) (start stop : Option Int) (step : Nat) : List α :=
  match place? items.length (start.getD 0) with
  | none => []
  | some first =>
    let last := match stop with
      | none => items.length
      | some i => (place? items.length i).getD items.length
    everyNth step 0 ((items.drop first).take (last - first))

/-- The items from `start` down to but without `stop`, at a distance. -/
def sliceBackward {α : Type} (items : List α) (start stop : Option Int) (step : Nat) : List α :=
  let length : Int := items.length
  let clamp (i : Int) : Int := if 0 ≤ i then min i (length - 1) else max (length + i) (-1)
  let first := match start with
    | none => length - 1
    | some i => clamp i
  let last := match stop with
    | none => -1
    | some i => clamp i
  let count := (first - last).toNat
  everyNth step 0 (((items.take (first + 1).toNat).reverse).take count)

def slice {α : Type} (items : List α) (start stop : Option Int) (step : Int) : List α :=
  if 0 < step then sliceForward items start stop step.toNat
  else sliceBackward items start stop step.natAbs

/-- One bound of a slice. -/
def sliceBound (v : Value) : Outcome (Option Int) :=
  match v with
  | .none => .ok none
  | .undefined _ => .ok none
  | v =>
    match v.asInt? with
    | some i => .ok (some i)
    | none => refuse ("cannot convert " ++ v.kind.word ++ " to i64")

/-- A part of a text or a list. -/
def sliceValue (v start stop step : Value) : Outcome Value := do
  let start ← sliceBound start
  let stop ← sliceBound stop
  let step := (← sliceBound step).getD 1
  if step = 0 then refuse "cannot slice by step size of 0"
  match v with
  | .undefined _ => return .ofList []
  | .none => return .ofList []
  | .text s _ => return .ofString (String.ofList (slice s.toList start stop step))
  | .list items lazy => return .list (slice items start stop step) lazy
  | v => refuse ("value of type " ++ v.kind.word ++ " cannot be sliced")

end Provision.Template

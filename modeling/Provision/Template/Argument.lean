import Provision.Template.Operator

/-!
Arguments of filters, tests and functions. They are taken from the front in turn; named ones come last, as
one map.
-/

namespace Provision.Template

/-- What is left of the arguments of a call. -/
structure Arguments where
  positional : List Value
  named : List (Value × Value)

namespace Arguments

/-- The arguments of a call; the named ones count as one more argument, a map. -/
def together (values : List Value) : Arguments := ⟨values, []⟩

/-- The arguments of a call, with the named ones apart. -/
def apart (values : List Value) : Arguments :=
  match values.getLast? with
  | some (.map entries true) => ⟨values.dropLast, entries⟩
  | _ => ⟨values, []⟩

end Arguments

/-- A reader of arguments. -/
abbrev ArgumentReader := StateT Arguments (Except Error)

namespace ArgumentReader

/-- A needed argument is not there. -/
def missing {α : Type} : Outcome α := .error ⟨.missingArgument, none, none⟩

/-- A value is of a kind that cannot become what is wanted. -/
def unconvertible {α : Type} (v : Value) (wanted : String) : Outcome α :=
  refuse ("cannot convert " ++ v.kind.word ++ " to " ++ wanted)

/-- The next argument. -/
def next? : ArgumentReader (Option Value) := do
  let s ← get
  match s.positional with
  | v :: rest => set ({ s with positional := rest } : Arguments); return some v
  | [] => return none

/-- The next argument, which must be there. -/
def next : ArgumentReader Value := do
  match ← next? with
  | some v => return v
  | none => missing

/-- The next argument if it is there and says something. -/
def given? : ArgumentReader (Option Value) := do
  match ← next? with
  | some (.undefined _) => return none
  | some .none => return none
  | v => return v

/-- A value that must be a text. -/
def exactText (v : Value) : Outcome String :=
  match v with
  | .text s _ => .ok s
  | _ => refuse "value is not a string"

/-- A value that must be a whole number from `low` to `high`, of the type called `name`. -/
def intWithin (name : String) (low high : Int) (v : Value) : Outcome Int :=
  match v.asInt? with
  | some n => if low ≤ n && n ≤ high then .ok n else unconvertible v name
  | none => unconvertible v name

/-- A value that must be a size. -/
def size (v : Value) : Outcome Nat :=
  (intWithin "usize" 0 maxNat64 v).map Int.toNat

def truth (v : Value) : Outcome Bool :=
  match v with
  | .bool b => .ok b
  | v => unconvertible v "bool"

/-- Any value that exists as text; named arguments have none. -/
def anyText (v : Value) : Outcome String :=
  match v with
  | .undefined false => refuseUndefined
  | .map _ true => refuse "cannot convert kwargs to string"
  | v => .ok v.print

/-- The next argument as text. -/
def nextText : ArgumentReader String := do anyText (← next)

/-- The next argument, which must be a text. -/
def nextExactText : ArgumentReader String := do exactText (← next)

def nextSize : ArgumentReader Nat := do size (← next)

/-- Read the next argument if it says something. -/
def givenAs? {α : Type} (read : Value → Outcome α) : ArgumentReader (Option α) := do
  match ← given? with
  | some v => return some (← read v)
  | none => return none

/-- The next argument as text if it says something. -/
def givenText? : ArgumentReader (Option String) := givenAs? anyText

/-- Whether the next argument says yes. -/
def givenTruth : ArgumentReader Bool := return (← givenAs? truth).getD false

/-- The argument called `name`. -/
def named? (name : String) : ArgumentReader (Option Value) := do
  let s ← get
  let found := Keyed.get? s.named (Value.ofString name)
  set ({ s with named := Keyed.erase s.named (Value.ofString name) } : Arguments)
  return match found with
    | some (.undefined _) => none
    | some .none => none
    | v => v

def namedAs? {α : Type} (name : String) (read : Value → Outcome α) :
    ArgumentReader (Option α) := do
  match ← named? name with
  | some v => return some (← read v)
  | none => return none

def namedTruth (name : String) : ArgumentReader Bool := return (← namedAs? name truth).getD false

/-- No argument may be left over. -/
def finish : ArgumentReader Unit := do
  let s ← get
  match s.positional, s.named with
  | [], [] => return ()
  | [], (k, _) :: _ =>
    throw (.of .tooManyArguments ("unknown keyword argument '" ++ k.print ++ "'"))
  | _, _ => throw ⟨.tooManyArguments, none, none⟩

/-- Read all arguments. -/
def runOn {α : Type} (arguments : Arguments) (read : ArgumentReader α) : Outcome α := do
  let whole : ArgumentReader α := do
    let a ← read
    finish
    return a
  return (← StateT.run whole arguments).1

/-- Read the arguments of a call that takes none by name. -/
def run {α : Type} (read : ArgumentReader α) (values : List Value) : Outcome α :=
  runOn (.together values) read

/-- Read the arguments of a call that takes some by name. -/
def runNamed {α : Type} (read : ArgumentReader α) (values : List Value) : Outcome α :=
  runOn (.apart values) read

end ArgumentReader
end Provision.Template

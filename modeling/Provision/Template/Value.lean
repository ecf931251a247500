import Provision.Binary64.Decimal
import Provision.Json.Basic
import Provision.Template.Error
import Provision.Text.Quoted

/-!
The values that templates compute with: JSON values and what only templates have, such as values that do
not exist, texts that need no escaping, and the things that a template defines itself.
-/

namespace Provision.Template

/-- A value. Things that change while a template is rendered are held by number. -/
inductive Value where
  /-- No value. It may be printed, as nothing, only if it is silent. -/
  | undefined (silent : Bool)
  | none
  | bool (b : Bool)
  | int (n : Int)
  | float (x : Binary64)
  /-- A text; a safe one is not escaped. -/
  | text (s : String) (safe : Bool)
  /-- Values in a row, or an iterator over them. -/
  | list (items : List Value) (lazy : Bool)
  /-- Values by key, listed by key; or the named arguments of a call. -/
  | map (entries : List (Value × Value)) (named : Bool)
  /-- A function of the engine. -/
  | builtin (name : String)
  /-- A piece of template with parameters. -/
  | routine (id : Nat) (name : String)
  /-- Names that a template assigns to. -/
  | space (id : Nat)
  /-- The loop that is running. -/
  | loop (id : Nat)
deriving Inhabited, Repr

/-- The kinds of value, in the order in which values of different kinds are sorted. -/
inductive Kind where
  | undefined
  | none
  | bool
  | number
  | text
  | list
  | map
  | iterator
  | thing
deriving DecidableEq, Repr

namespace Kind

def rank : Kind → Nat
  | undefined => 0
  | none => 1
  | bool => 2
  | number => 3
  | text => 4
  | list => 5
  | map => 6
  | iterator => 7
  | thing => 8

/-- A kind as messages name it. -/
def word : Kind → String
  | undefined => "undefined"
  | none => "none"
  | bool => "bool"
  | number => "number"
  | text => "string"
  | list => "sequence"
  | map => "map"
  | iterator => "iterator"
  | thing => "plain object"

end Kind

namespace Value

def kind : Value → Kind
  | undefined _ => .undefined
  | none => .none
  | bool _ => .bool
  | int _ => .number
  | float _ => .number
  | text _ _ => .text
  | list _ lazy => if lazy then .iterator else .list
  | map _ _ => .map
  | builtin _ => .thing
  | routine _ _ => .thing
  | space _ => .map
  | loop _ => .map

def isUndefined : Value → Bool
  | undefined _ => true
  | _ => false

def isNone : Value → Bool
  | none => true
  | _ => false

/-- An ordinary text. -/
def ofString (s : String) : Value := text s false

def ofChar (c : Char) : Value := ofString (String.ofList [c])

/-- An ordinary list. -/
def ofList (items : List Value) : Value := list items false

def ofNat (n : Nat) : Value := int n

/-- The value of an optional one. -/
def orUndefined : Option Value → Value
  | some v => v
  | Option.none => undefined false

/-- The text of a text value. -/
def asText? : Value → Option String
  | text s _ => some s
  | _ => Option.none

/-! ### Numbers -/

/-- A value as a whole number. Truth values are 0 and 1. -/
def asInt? : Value → Option Int
  | bool b => some (if b then 1 else 0)
  | int n => some n
  | float x =>
    if x.isFinite && x.isWhole && minInt64 ≤ x.toIntTrunc && x.toIntTrunc ≤ maxInt64 then
      some x.toIntTrunc
    else Option.none
  | _ => Option.none

/-- A value as a floating-point number; unless rounding is allowed, only if nothing is lost. -/
def asFloat? (rounding : Bool) : Value → Option Binary64
  | bool b => some (Binary64.ofInt (if b then 1 else 0))
  | int n =>
    let x := Binary64.ofInt n
    if rounding || x.toIntTrunc = n then some x else Option.none
  | float x => some x
  | _ => Option.none

/-- Two values brought to a common form. -/
inductive Common where
  | ints (a b : Int)
  | floats (a b : Binary64)
  | texts (a b : String)

def common? (rounding : Bool) : Value → Value → Option Common
  | text a _, text b _ => some (.texts a b)
  | float a, b => (b.asFloat? rounding).map fun b => .floats a b
  | a, float b => (a.asFloat? rounding).map fun a => .floats a b
  | a, b => a.asInt?.bind fun a => b.asInt?.map fun b => .ints a b

/-! ### Comparison -/

mutual

def same : Value → Value → Bool
  | undefined _, undefined _ => true
  | none, none => true
  | list a _, list b _ => sameItems a b
  | map a _, map b _ => sameEntries a b
  | routine a _, routine b _ => a == b
  | space a, space b => a == b
  | loop a, loop b => a == b
  | builtin a, builtin b => a == b
  | a, b =>
    match common? false a b with
    | some (.ints a b) => a == b
    | some (.floats a b) => a.eqv b
    | some (.texts a b) => a == b
    | Option.none => false

def sameItems : List Value → List Value → Bool
  | [], [] => true
  | a :: as, b :: bs => same a b && sameItems as bs
  | _, _ => false

def sameEntries : List (Value × Value) → List (Value × Value) → Bool
  | [], [] => true
  | a :: as, b :: bs => same a.1 b.1 && same a.2 b.2 && sameEntries as bs
  | _, _ => false

end

instance : BEq Value := ⟨same⟩

/-- A number whose order is the order of all floating-point numbers: negative zero stands before zero,
and numbers that are none stand at the ends. -/
def totalKey (x : Binary64) : Int :=
  if x.negative then -(x.body : Int) - 1 else x.body

mutual

/-- The order of values: by kind, then by content. -/
def order : Value → Value → Ordering
  | list a x, list b y => (compare x.toNat y.toNat).then (orderItems a b)
  | map a _, map b _ => orderEntries a b
  | a, b =>
    (compare a.kind.rank b.kind.rank).then <|
      match common? false a b with
      | some (.ints a b) => compare a b
      | some (.floats a b) => compare (totalKey a) (totalKey b)
      | some (.texts a b) => compare a b
      | Option.none => .eq

def orderItems : List Value → List Value → Ordering
  | [], [] => .eq
  | [], _ :: _ => .lt
  | _ :: _, [] => .gt
  | a :: as, b :: bs => (order a b).then (orderItems as bs)

def orderEntries : List (Value × Value) → List (Value × Value) → Ordering
  | [], [] => .eq
  | [], _ :: _ => .lt
  | _ :: _, [] => .gt
  | a :: as, b :: bs => ((order a.1 b.1).then (order a.2 b.2)).then (orderEntries as bs)

end

instance : Ord Value := ⟨order⟩

/-! ### Contents -/

/-- A map with these entries; of two with one key the later one stays. -/
def ofEntries (entries : List (Value × Value)) : Value := map (Keyed.ofList entries) false

/-- Values under names. -/
def ofFields (fields : List (String × Value)) : Value :=
  map (fields.map fun e => (ofString e.1, e.2)) false

/-- Whether a value counts as true. -/
def isTrue : Value → Bool
  | undefined _ => false
  | none => false
  | bool b => b
  | int n => n ≠ 0
  | float x => !(x.eqv Binary64.zero)
  | text s _ => !s.isEmpty
  | list items _ => !items.isEmpty
  | map entries _ => !entries.isEmpty
  | _ => true

def length? : Value → Option Nat
  | text s _ => some s.length
  | list items _ => some items.length
  | map entries _ => some entries.length
  | _ => Option.none

/-- What a loop over a value runs through. -/
def iterate? : Value → Option (List Value)
  | undefined _ => some []
  | none => some []
  | text s _ => some (s.toList.map ofChar)
  | list items _ => some items
  | map entries _ => some (entries.map Prod.fst)
  | _ => Option.none

/-- The item at a place, counted from the end if negative. -/
def itemAt? {α : Type} (items : List α) (index : Int) : Option α :=
  if 0 ≤ index then items[index.toNat]?
  else if index.natAbs ≤ items.length then items[items.length - index.natAbs]?
  else Option.none

/-- The value that another has at a key. -/
def item? (v key : Value) : Option Value :=
  match v with
  | text s _ => key.asInt?.bind fun i => (itemAt? s.toList i).map ofChar
  | list items _ => key.asInt?.bind (itemAt? items)
  | map entries _ => Keyed.get? entries key
  | _ => Option.none

/-- The value that another has under a name. -/
def attr? (v : Value) (name : String) : Option Value :=
  match v with
  | map entries _ => Keyed.get? entries (ofString name)
  | _ => Option.none

/-! ### Text -/

/-- Floating-point numbers on their own: always positional, always with a point. -/
def plainNumber : Binary64.Format where
  positionalFrom := Option.none
  positionalTo := Option.none
  keepsPoint := true
  plusSign := false
  notANumber := "NaN"
  infinite := "inf"

/-- Floating-point numbers inside other values: positional between 10⁻⁴ and 10¹⁶. -/
def nestedNumber : Binary64.Format where
  positionalFrom := some (-4)
  positionalTo := some 15
  keepsPoint := true
  plusSign := false
  notANumber := "NaN"
  infinite := "inf"

def boolWord (b : Bool) : String := if b then "True" else "False"

mutual

/-- A value inside another: texts stand in quotes. -/
def nested : Value → String
  | undefined _ => "undefined"
  | none => "None"
  | bool b => boolWord b
  | int n => toString n
  | float x => x.format nestedNumber
  | text s _ => quoted s
  | list items _ => "[" ++ String.intercalate ", " (nestedItems items) ++ "]"
  | map entries _ => "\x7b" ++ String.intercalate ", " (nestedEntries entries) ++ "\x7d"
  | builtin name => name
  | routine _ name => "<macro " ++ name ++ ">"
  | space _ => "\x7b\x7d"
  | loop _ => "<loop>"

def nestedItems : List Value → List String
  | [] => []
  | v :: rest => nested v :: nestedItems rest

def nestedEntries : List (Value × Value) → List String
  | [] => []
  | e :: rest => (nested e.1 ++ ": " ++ nested e.2) :: nestedEntries rest

end

/-- A value as it is printed. -/
def print : Value → String
  | undefined _ => ""
  | float x => x.format plainNumber
  | text s _ => s
  | v => v.nested

/-- A JSON value as a template sees it. -/
def ofJson : Json → Value
  | .null => none
  | .bool b => bool b
  | .int n => int n
  | .float x => float x
  | .string s => ofString s
  | .array items => ofList (ofItems items)
  | .object fields => map (ofMembers fields) false
where
  ofItems : List Json → List Value
    | [] => []
    | j :: rest => ofJson j :: ofItems rest
  ofMembers : List (String × Json) → List (Value × Value)
    | [] => []
    | e :: rest => (ofString e.1, ofJson e.2) :: ofMembers rest

/-- A text in which no character has a meaning in HTML. -/
def escapeHtml (s : String) : String :=
  String.join (s.toList.map fun c =>
    match c with
    | '<' => "&lt;"
    | '>' => "&gt;"
    | '&' => "&amp;"
    | '"' => "&quot;"
    | '\'' => "&#x27;"
    | '/' => "&#x2f;"
    | c => String.ofList [c])

/-- A value as it is printed where texts are escaped. -/
def printEscaped (v : Value) : String :=
  match v with
  | text s true => s
  | undefined _ => ""
  | none => v.print
  | bool _ => v.print
  | int _ => v.print
  | float _ => v.print
  | v => escapeHtml v.print

end Value
end Provision.Template

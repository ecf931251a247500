import Provision.Binary64.Decimal
import Provision.Json.Print
import Provision.Text.Quoted
import Provision.Timestamp

/-!
Reading JSON values as data of a given shape. Members of an object are read in the order of their
keys, so that the first member at fault is the one that is reported; a member that nobody asks for is
passed over.
-/

namespace Provision

/-- Why a value does not have the shape that is wanted. -/
inductive ReadFault where
  | wrongType (found expected : String)
  | wrongValue (found expected : String)
  | wrongLength (found : Nat) (expected : String)
  | missing (field : String)
  | unknownVariant (name : String) (known : List String)
  | malformedTime (fault : Timestamp.Malformed)
  /-- A member of the value is at fault. -/
  | inMember (key : String) (fault : ReadFault)
  /-- An item of the value is at fault. -/
  | inItem (index : Nat) (fault : ReadFault)
deriving DecidableEq, Repr

/-- A list of alternatives in a sentence. -/
def alternatives (names : List String) : String :=
  match names.map fun n => "`" ++ n ++ "`" with
  | [] => "nothing"
  | [a] => a
  | [a, b] => a ++ " or " ++ b
  | all => "one of " ++ String.intercalate ", " all

def ReadFault.message : ReadFault → String
  | wrongType found expected => "invalid type: " ++ found ++ ", expected " ++ expected
  | wrongValue found expected => "invalid value: " ++ found ++ ", expected " ++ expected
  | wrongLength n expected => "invalid length " ++ toString n ++ ", expected " ++ expected
  | missing field => "missing field `" ++ field ++ "`"
  | unknownVariant name known =>
    "unknown variant `" ++ name ++ "`, expected " ++ alternatives known
  | malformedTime fault => fault.message
  | inMember _ fault => fault.message
  | inItem _ fault => fault.message

namespace Json

/-- A value as a message names it. -/
def describe : Json → String
  | null => "null"
  | bool b => "boolean `" ++ (if b then "true" else "false") ++ "`"
  | int n => "integer `" ++ toString n ++ "`"
  | float x => "floating point `" ++ x.format jsonNumber ++ "`"
  | string s => "string " ++ quoted s
  | array _ => "sequence"
  | object _ => "map"

/-- A reader of values. -/
abbrev Reader (α : Type) := Json → Except ReadFault α

def wrongType {α : Type} (expected : String) (j : Json) : Except ReadFault α :=
  .error (.wrongType j.describe expected)

def readString : Reader String
  | string s => .ok s
  | j => wrongType "a string" j

def readBool : Reader Bool
  | bool b => .ok b
  | j => wrongType "a boolean" j

/-- A whole number within bounds, of the type called `name`. -/
def readIntBetween (name : String) (low high : Int) : Reader Int
  | int n => if low ≤ n && n ≤ high then .ok n else .error (.wrongValue (int n).describe name)
  | j => wrongType name j

def readInt64 : Reader Int := readIntBetween "i64" minInt64 maxInt64

/-- A floating-point number; whole numbers are rounded to one. -/
def readFloat : Reader Binary64
  | int n => .ok (Binary64.ofInt n)
  | float x => .ok x
  | j => wrongType "f64" j

def readUnit : Reader Unit
  | null => .ok ()
  | j => wrongType "unit" j

/-- Null as nothing, anything else as itself. -/
def readOption {α : Type} (read : Reader α) : Reader (Option α)
  | null => .ok none
  | j => (read j).map some

/-- Items numbered from `index` on. -/
def readItemsFrom {α : Type} (read : Reader α) : Nat → List Json → Except ReadFault (List α)
  | _, [] => .ok []
  | index, j :: items => do
    let a ← (read j).mapError (.inItem index)
    let others ← readItemsFrom read (index + 1) items
    return a :: others

def readList {α : Type} (read : Reader α) : Reader (List α)
  | array items => readItemsFrom read 0 items
  | j => wrongType "a sequence" j

/-- Read members in turn into a record. -/
def readEach {ρ : Type} (read : ρ → String × Json → Except ReadFault ρ) (start : ρ)
    (members : List (String × Json)) : Except ReadFault ρ :=
  members.foldlM (fun r e => (read r e).mapError (.inMember e.1)) start

/-- An object whose members all have one shape. -/
def readMap {α : Type} (read : Reader α) : Reader (Keyed String α)
  | object fields => fields.mapM fun e =>
    ((read e.2).mapError (.inMember e.1)).map fun v => (e.1, v)
  | j => wrongType "a map" j

def readStringMap : Reader (Keyed String String) := readMap readString

def readTime : Reader Timestamp
  | string s =>
    match Timestamp.read s with
    | .ok t => .ok t
    | .error e => .error (.malformedTime e)
  | j => wrongType "an RFC 3339 formatted date and time string" j

/-- The members of an object of the type called `name`. -/
def readMembers (name : String) : Reader (List (String × Json))
  | object fields => .ok fields
  | j => wrongType name j

/-- One of several names. It may also be the only key of an object, whose member must be null. -/
def readName {α : Type} (named : List (String × α)) : Reader α
  | string s => pick s
  | object [(s, v)] => do
    let a ← pick s
    readUnit v
    return a
  | object fields => .error (.wrongValue (object fields).describe "map with a single key")
  | j => wrongType "string or map" j
where
  /-- The meaning of a name. -/
  pick (s : String) : Except ReadFault α :=
    match named.lookup s with
    | some a => .ok a
    | none => .error (.unknownVariant s (named.map Prod.fst))

/-- What becomes of a field that is not given. -/
inductive Absence where
  /-- The record cannot be read. -/
  | refused
  /-- It keeps the value that the record starts with. -/
  | defaulted
  /-- Likewise in an object; an array must hold the item. -/
  | optional
deriving DecidableEq, Repr

/-- A field of a record of type `ρ`. -/
structure Slot (ρ : Type) where
  name : String
  /-- Put a value of the field into the record. -/
  read : ρ → Reader ρ
  absence : Absence := .refused

/-- Make a slot from a reader and an update. -/
def slot {ρ α : Type} (name : String) (read : Reader α) (set : ρ → α → ρ)
    (absence : Absence := .refused) : Slot ρ :=
  ⟨name, fun r j => (read j).map (set r), absence⟩

/-- Read the member `e` into the record; a member without a slot is passed over. -/
def readSlot {ρ : Type} (slots : List (Slot ρ)) (r : ρ) (e : String × Json) : Except ReadFault ρ :=
  match slots.find? fun s => s.name == e.1 with
  | some s => s.read r e.2
  | none => .ok r

/-- Read array items into the slots in turn. `size` is how the record's size is described, and `n` counts the
slots that are done. -/
def readInOrder {ρ : Type} (size : String) : Nat → List (Slot ρ) → List Json → ρ → Except ReadFault ρ
  | _, [], [], r => .ok r
  | n, [], extra, _ => .error (.wrongLength (n + extra.length) "fewer elements in array")
  | n, s :: slots, [], r =>
    if s.absence = .defaulted then readInOrder size (n + 1) slots [] r
    else .error (.wrongLength n size)
  | n, s :: slots, j :: items, r => do
    let r ← (s.read r j).mapError (.inItem n)
    readInOrder size (n + 1) slots items r

/-- The size of a record in a message. -/
def recordSize (name : String) (n : Nat) : String :=
  "struct " ++ name ++ " with " ++ toString n ++ (if n = 1 then " element" else " elements")

/-- A record of the type called `name`: an object with a member for each field, or an array of the fields in
the order of the slots. `start` holds the values of the fields that are not given. -/
def readRecord {ρ : Type} (name : String) (slots : List (Slot ρ)) (start : ρ) : Reader ρ
  | object members => do
    let r ← readEach (readSlot slots) start members
    match slots.find? fun s => s.absence = .refused && !Keyed.contains members s.name with
    | some s => .error (.missing s.name)
    | none => .ok r
  | array items => readInOrder (recordSize name slots.length) 0 slots items start
  | j => wrongType ("struct " ++ name) j

end Json
end Provision

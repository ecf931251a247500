import Provision.Keyed
import Provision.Binary64.Basic

/-!
JSON values. A number is a whole number or a binary floating-point number, and the two stay apart:
`1` and `1.0` are different values. The members of an object are listed by key.
-/

namespace Provision

/-- A JSON value. -/
inductive Json where
  | null
  | bool (b : Bool)
  | int (n : Int)
  | float (x : Binary64)
  | string (s : String)
  | array (items : List Json)
  | object (fields : List (String × Json))
deriving Inhabited, Repr

namespace Json

mutual

/-- Equality of values, member by member. -/
def same : Json → Json → Bool
  | null, null => true
  | bool a, bool b => a == b
  | int a, int b => a == b
  | float a, float b => a.eqv b
  | string a, string b => a == b
  | array a, array b => sameItems a b
  | object a, object b => sameFields a b
  | _, _ => false

/-- Equality of two lists of values, place by place. -/
def sameItems : List Json → List Json → Bool
  | [], [] => true
  | a :: as, b :: bs => same a b && sameItems as bs
  | _, _ => false

/-- Equality of two member lists. -/
def sameFields : List (String × Json) → List (String × Json) → Bool
  | [], [] => true
  | a :: as, b :: bs => a.1 == b.1 && same a.2 b.2 && sameFields as bs
  | _, _ => false

end

instance : BEq Json := ⟨same⟩

/-- The object with these members; of two members with one name the later one stays. -/
def ofFields (fields : List (String × Json)) : Json :=
  object (Keyed.ofList fields)

/-- The member `key` of an object. -/
def field? : Json → String → Option Json
  | object fields, key => Keyed.get? fields key
  | _, _ => none

def isNull : Json → Bool
  | null => true
  | _ => false

/-- A finite number as itself, any other as null. -/
def ofBinary64 (x : Binary64) : Json :=
  if x.isFinite then float x else null

def ofOption (f : α → Json) : Option α → Json
  | none => null
  | some a => f a

/-- An object of texts. -/
def ofStrings (entries : Keyed String String) : Json :=
  object (entries.mapValues string)

/-- Members that are left out when they have no value. -/
def presentFields (fields : List (String × Option Json)) : List (String × Json) :=
  fields.filterMap fun e => e.2.map fun v => (e.1, v)

end Json
end Provision

import Provision.Failure
import Provision.Json.Reading

/-!
The data of a feature: values under names, put in by its data providers and read by templates and
actions. Values are kept as JSON and read back as a type that the reader names.
-/

namespace Provision

/-- Values by name. -/
abbrev DataBag := Keyed String Json

/-- A type that values can be read as. -/
structure ValueType (α : Type) where
  /-- The type in messages. -/
  name : String
  read : Json.Reader α

namespace ValueType

def string : ValueType String := ⟨"alloc::string::String", Json.readString⟩
def bool : ValueType Bool := ⟨"bool", Json.readBool⟩
def nat8 : ValueType Int := ⟨"u8", Json.readIntBetween "u8" 0 255⟩
def int32 : ValueType Int := ⟨"i32", Json.readIntBetween "i32" (-2147483648) 2147483647⟩
def nat32 : ValueType Int := ⟨"u32", Json.readIntBetween "u32" 0 4294967295⟩
def int64 : ValueType Int := ⟨"i64", Json.readInt64⟩
def nat64 : ValueType Int := ⟨"u64", Json.readIntBetween "u64" 0 maxNat64⟩
def binary64 : ValueType Binary64 := ⟨"f64", Json.readFloat⟩
def strings : ValueType (List String) :=
  ⟨"alloc::vec::Vec<alloc::string::String>", Json.readList Json.readString⟩
def optionalString : ValueType (Option String) :=
  ⟨"core::option::Option<alloc::string::String>", Json.readOption Json.readString⟩
def stringMap : ValueType (Keyed String String) :=
  ⟨"alloc::collections::btree::map::BTreeMap<alloc::string::String, alloc::string::String>",
    Json.readStringMap⟩
def unit : ValueType Unit := ⟨"()", Json.readUnit⟩
def json : ValueType Json := ⟨"serde_json::value::Value", .ok⟩

end ValueType

namespace DataBag

/-- The value under a name as a value of the given type. -/
def read {α : Type} (bag : DataBag) (type : ValueType α) (key : String) : Except Failure α :=
  match Keyed.get? bag key with
  | none => .error (.data key "no value stored under this key")
  | some j =>
    (type.read j).mapError fun fault =>
      .data key ("expected " ++ type.name ++ ": " ++ fault.message)

/-- The text of a value that stands as the key of a map: only plain values have one. -/
def keyText : Json → Except String String
  | .string s => .ok s
  | .int n => .ok (toString n)
  | .bool b => .ok (if b then "true" else "false")
  | .float x =>
    if x.isFinite then .ok (x.format jsonNumber) else .error "float key must be finite"
  | _ => .error "key must be a string"

/-- A map with keys of any kind as an object. -/
def objectOf (map : List (Json × Json)) : Except String Json := do
  let fields ← map.mapM fun e => (keyText e.1).map fun k => (k, e.2)
  return Json.ofFields fields

/-- Store a map with keys of any kind. -/
def insertMap (bag : DataBag) (key : String) (map : List (Json × Json)) : Except Failure DataBag :=
  match objectOf map with
  | .ok j => .ok (Keyed.insert bag key j)
  | .error why => .error (.data key ("value is not serializable: " ++ why))

end DataBag
end Provision

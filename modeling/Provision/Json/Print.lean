import Provision.Binary64.Digits
import Provision.Json.Basic

/-!
Compact JSON text: no blanks, members by key, a floating-point number always with a point or an
exponent.
-/

namespace Provision

/-- Floating-point numbers in JSON text: positional between 10⁻⁵ and 10¹⁶. -/
def jsonNumber : Binary64.Format where
  positionalFrom := some (-5)
  positionalTo := some 15
  keepsPoint := true
  plusSign := true
  notANumber := "null"
  infinite := "null"

namespace Json

/-- A hexadecimal digit in lower case. -/
def hexDigit (n : Nat) : Char :=
  if n < 10 then Char.ofNat (48 + n) else Char.ofNat (87 + n)

/-- A character inside a JSON string. -/
def escapeChar (c : Char) : List Char :=
  match c with
  | '"' => ['\\', '"']
  | '\\' => ['\\', '\\']
  | '\x08' => ['\\', 'b']
  | '\x0c' => ['\\', 'f']
  | '\n' => ['\\', 'n']
  | '\r' => ['\\', 'r']
  | '\t' => ['\\', 't']
  | c =>
    if c.toNat < 0x20 then
      ['\\', 'u', '0', '0', hexDigit (c.toNat / 16), hexDigit (c.toNat % 16)]
    else [c]

/-- A JSON string with its quotes. -/
def quote (s : String) : String :=
  String.ofList ('"' :: (s.toList.flatMap escapeChar ++ ['"']))

mutual

/-- The compact text of a value. -/
def print : Json → String
  | null => "null"
  | bool true => "true"
  | bool false => "false"
  | int n => toString n
  | float x => x.format jsonNumber
  | string s => quote s
  | array items => "[" ++ String.intercalate "," (printItems items) ++ "]"
  | object fields => "\x7b" ++ String.intercalate "," (printFields fields) ++ "\x7d"

/-- The texts of the items of an array. -/
def printItems : List Json → List String
  | [] => []
  | v :: rest => print v :: printItems rest

/-- The texts of the members of an object. -/
def printFields : List (String × Json) → List String
  | [] => []
  | e :: rest => (quote e.1 ++ ":" ++ print e.2) :: printFields rest

end

end Json
end Provision

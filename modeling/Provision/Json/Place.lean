import Provision.Json.Parse
import Provision.Json.Reading

/-!
Reading data straight from JSON text. A text that is no JSON, and a value that does not have the wanted
shape, are reported with the place in the text up to which it had been read when that came to light.
-/

namespace Provision.Json

/-- The text after the value that it starts with; nothing if it starts with none. -/
def afterValue (s : List Char) : List Char :=
  match parseValue (2 * s.length + 2) maxDepth s with
  | .ok (_, rest) => rest
  | .error _ => []

/-- The text from the value of a member on, when the next member comes first. -/
def seekMember (key : String) : Nat → List Char → List Char
  | 0, _ => []
  | members + 1, s =>
    match skipBlanks s with
    | '"' :: s =>
      match parseString s with
      | .error _ => []
      | .ok (name, s) =>
        let value := skipBlanks ((skipBlanks s).drop 1)
        if name = key then value
        else seekMember key members ((skipBlanks (afterValue value)).drop 1)
    | _ => []

/-- The text from an item on, when the first item comes first. -/
def seekItem : Nat → List Char → List Char
  | 0, s => skipBlanks s
  | n + 1, s => seekItem n ((skipBlanks (afterValue s)).drop 1)

/-- A list in place of a record is opened, and closed if it is empty. -/
def afterOpening (s : List Char) : List Char :=
  match skipBlanks (s.drop 1) with
  | ']' :: rest => rest
  | rest => rest

/-- Whether a record of the cluster's own data was wanted; those are known by names in capitals. -/
def namesRecord (expected : String) : Bool :=
  match expected.toList with
  | c :: _ => c.isUpper
  | [] => false

/-- What is unread of a text, from the value at the end of a fault's path on, when the fault comes to light. -/
def unreadAfter : ReadFault → List Char → List Char
  | .inMember key fault, s =>
    unreadAfter fault (seekMember key s.length (s.drop 1))
  | .inItem n fault, s => unreadAfter fault (seekItem n (s.drop 1))
  | .wrongType found expected, s =>
    if expected = "string or map" then s.drop 1
    else if found = "sequence" && namesRecord expected then afterOpening s
    else if found = "sequence" || found = "map" then s
    else afterValue s
  | _, s => afterValue s

/-- The fault of a value as its text shows it: where a name was wanted, any other value is no value. -/
def textMessage : ReadFault → String
  | .inMember _ fault => textMessage fault
  | .inItem _ fault => textMessage fault
  | .wrongType found expected =>
    if expected = "string or map" then Malformed.expectedValue.message
    else (ReadFault.wrongType found expected).message
  | fault => fault.message

/-- A message with the place up to which a text was read. -/
def placed (text unread : List Char) (message : String) : String :=
  let (line, column) := location text unread
  message ++ " at line " ++ toString line ++ " column " ++ toString column

/-- Read data from a text. -/
def readText {α : Type} (read : Reader α) (text : String) : Except String α :=
  let cs := text.toList
  match parseChars cs with
  | .error e => .error (placed cs e.unread e.cause.message)
  | .ok j =>
    (read j).mapError fun fault =>
      placed cs (unreadAfter fault (skipBlanks cs)) (textMessage fault)

end Provision.Json

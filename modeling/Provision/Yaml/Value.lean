import Provision.Binary64.Decimal
import Provision.Json.Basic
import Provision.Yaml.Node

/-!
The values that nodes stand for: a plain text may be a number, a truth value or null, and an alias is
the value of its anchor. The counterpart of a value in JSON keeps its structure; the keys of mappings
become texts.
-/

namespace Provision.Yaml

/-- A value of a document. -/
inductive Value where
  | null
  | bool (b : Bool)
  | int (n : Int)
  /-- A number with a point, an exponent or a special name, as it was written. -/
  | real (text : String)
  | string (s : String)
  | array (items : List Value)
  | mapping (entries : List (Value × Value))
  /-- A text that its tag does not allow, or an alias inside the node that it names. -/
  | bad
deriving Repr, Inhabited

namespace Value

mutual

/-- Equality of values. -/
def same : Value → Value → Bool
  | null, null => true
  | bool a, bool b => a == b
  | int a, int b => a == b
  | real a, real b => a == b
  | string a, string b => a == b
  | array a, array b => sameItems a b
  | mapping a, mapping b => sameEntries a b
  | bad, bad => true
  | _, _ => false

def sameItems : List Value → List Value → Bool
  | [], [] => true
  | a :: as, b :: bs => same a b && sameItems as bs
  | _, _ => false

def sameEntries : List (Value × Value) → List (Value × Value) → Bool
  | [], [] => true
  | a :: as, b :: bs => same a.1 b.1 && same a.2 b.2 && sameEntries as bs
  | _, _ => false

end

/-- The spellings of infinity and of what is not a number that start with a point or a sign and a
point. -/
def specialReals : List String :=
  [".inf", ".Inf", ".INF", "+.inf", "+.Inf", "+.INF", "-.inf", "-.Inf", "-.INF", ".nan", "NaN", ".NAN"]

/-- Whether a text is a number with a point, an exponent or a special name. -/
def isReal (text : String) : Bool :=
  specialReals.contains text || (Binary64.read? text.toList).isSome

/-- A 64-bit whole number in decimal. -/
def readInt? (s : List Char) : Option Int := readIntWithin? minInt64 maxInt64 s

/-- A 64-bit whole number in another base, with an optional sign. -/
def readBase? (base : Nat) (digit : Char → Option Nat) (s : List Char) : Option Int :=
  let (negative, ds) := takeSign s
  if ds.isEmpty then none
  else
    match ds.mapM digit with
    | none => none
    | some vs =>
      let magnitude : Nat := vs.foldl (fun v d => v * base + d) 0
      let n : Int := if negative then -(magnitude : Int) else magnitude
      if minInt64 ≤ n && n ≤ maxInt64 then some n else none

def hexDigit? (c : Char) : Option Nat := if isHex c then some (hexValue c) else none

def octalDigit? (c : Char) : Option Nat :=
  if '0' ≤ c && c ≤ '7' then some (c.toNat - 48) else none

/-- A whole number with a mark of its base, or with a plus sign. -/
def readMarkedInt? : List Char → Option Int
  | '0' :: 'x' :: s => readBase? 16 hexDigit? s
  | '0' :: 'o' :: s => readBase? 8 octalDigit? s
  | '+' :: s => readInt? s
  | _ => none

/-- The value of a plain text without a tag. -/
def ofPlain (text : String) : Value :=
  match readMarkedInt? text.toList with
  | some n => int n
  | none =>
    if text = "" || text = "~" || text = "null" then null
    else if text = "true" then bool true
    else if text = "false" then bool false
    else
      match readInt? text.toList with
      | some n => int n
      | none => if isReal text then real text else string text

/-- The value of a plain text with a tag. -/
def ofTagged (tag : Tag) (text : String) : Value :=
  if tag.handle ≠ "tag:yaml.org,2002:" then string text
  else
    match tag.suffix with
    | "bool" => if text = "true" then bool true else if text = "false" then bool false else bad
    | "int" => match readInt? text.toList with
      | some n => int n
      | none => bad
    | "float" => if isReal text then real text else bad
    | "null" => if text = "~" || text = "null" then null else bad
    | _ => string text

def ofScalar (tag : Option Tag) (style : Style) (text : String) : Value :=
  match style, tag with
  | .plain, some t => ofTagged t text
  | .plain, none => ofPlain text
  | _, _ => string text

/-- The entries of a mapping from its keys and values in turn. A key that is no value is passed over,
so that the next value takes its place. -/
def pairUp : Value → List (Value × Value) → List Value → Except Fault (List (Value × Value))
  | _, entries, [] => .ok entries
  | bad, entries, v :: rest => pairUp v entries rest
  | key, entries, v :: rest =>
    if entries.any fun e => e.1.same key then .error .duplicateKey
    else pairUp bad (entries ++ [(key, v)]) rest

/-- The values of the anchors met so far. -/
abbrev Load := StateT (Keyed Nat Value) (Except Fault)

def anchored (anchor : Nat) (v : Value) : Load Value := do
  if 0 < anchor then modify fun m => Keyed.insert m anchor v
  return v

mutual

/-- The value of a node. -/
def load : Node → Load Value
  | .alias anchor => return (Keyed.get? (← get) anchor).getD bad
  | .scalar anchor tag style text => anchored anchor (ofScalar tag style text)
  | .sequence anchor items => do
    let vs ← loadItems items
    anchored anchor (array vs)
  | .mapping anchor entries => do
    let vs ← loadEntries entries
    let pairs ← pairUp bad [] vs
    anchored anchor (mapping pairs)

def loadItems : List Node → Load (List Value)
  | [] => return []
  | n :: rest => do
    let v ← load n
    return v :: (← loadItems rest)

/-- Keys and values in turn. -/
def loadEntries : List (Node × Node) → Load (List Value)
  | [] => return []
  | e :: rest => do
    let k ← load e.1
    let v ← load e.2
    return k :: v :: (← loadEntries rest)

end

/-- The values of the documents of a stream. -/
def ofNodes (roots : List Node) : Except Fault (List Value) := do
  let (vs, _) ← (loadItems roots).run []
  return vs

/-- The text of a key. -/
def keyText : Value → Except Error String
  | string s => .ok s
  | real s => .ok s
  | int n => .ok (toString n)
  | bool true => .ok "true"
  | bool false => .ok "false"
  | null => .ok "null"
  | _ => .error (.unsupported "mapping key that is not a scalar")

/-- The JSON number that a text spells; what has no decimal value is null. -/
def numberOf (text : String) : Except Error Json :=
  match Binary64.read? text.toList with
  | some x => .ok (Json.ofBinary64 x)
  | none => .error (.number text)

mutual

/-- The JSON counterpart of a value. -/
def toJson : Value → Except Error Json
  | null => .ok .null
  | bool b => .ok (.bool b)
  | int n => .ok (.int n)
  | real text => numberOf text
  | string s => .ok (.string s)
  | array items => do
    let vs ← itemsToJson items
    return .array vs
  | mapping entries => do
    let fs ← entriesToJson entries
    return Json.ofFields fs
  | bad => .error (.unsupported "bad value")

def itemsToJson : List Value → Except Error (List Json)
  | [] => .ok []
  | v :: rest => do
    let j ← toJson v
    return j :: (← itemsToJson rest)

def entriesToJson : List (Value × Value) → Except Error (List (String × Json))
  | [] => .ok []
  | e :: rest => do
    let k ← keyText e.1
    let v ← toJson e.2
    return (k, v) :: (← entriesToJson rest)

end

end Value

/-- The values of the documents of a stream. -/
def loadAll (text : String) : Except Fault (List Value) := do
  Value.ofNodes (← Node.ofTokens (← Token.ofText text))

/-- The JSON counterpart of a stream of one document; a stream without a document is null. -/
def toJson (text : String) : Except Error Json :=
  match loadAll text with
  | .error fault => .error (.malformed fault)
  | .ok [] => .ok .null
  | .ok [v] => v.toJson
  | .ok vs => .error (.notOne vs.length)

end Provision.Yaml

import Provision.Base64
import Provision.Template.Test
import Provision.Text.Blank
import Provision.Text.Lines
import Provision.Text.Replace

/-!
The filters of templates. Beside the usual ones there are four for manifests: replacing parts of a text,
encoding and decoding in base 64, and demanding a value.
-/

namespace Provision.Template

open ArgumentReader

/-- A filter: what it makes of a value, given further arguments. -/
abbrev Filter := Value → List Value → Outcome Value

namespace Filter

/-! ### For manifests -/

/-- The text that a text in base 64 stands for. -/
def base64Decode (s : String) : Outcome String :=
  match Base64.decode (Utf8.encode s) with
  | .error e => refuse ("base64 decode error: " ++ e.message)
  | .ok bytes =>
    match Utf8.decode bytes with
    | .error e => refuse ("base64 decode produced invalid UTF-8: " ++ e.message)
    | .ok t => .ok t

/-- A value that is there. -/
def required (v : Value) : Outcome Value :=
  match v with
  | .undefined _ => .error (.of .undefinedValue "required value is undefined")
  | .none => .error (.of .undefinedValue "required value is undefined")
  | v => .ok v

/-! ### Text -/

def isPunctuation (c : Char) : Bool :=
  ('!' ≤ c && c ≤ '/') || (':' ≤ c && c ≤ '@') || ('[' ≤ c && c ≤ '\x60') || ('{' ≤ c && c ≤ '~')

/-- Every word with a capital letter; words end at blanks and punctuation. -/
def titleFrom : Bool → List Char → List Char
  | _, [] => []
  | capital, c :: rest =>
    if isPunctuation c || isBlank c then c :: titleFrom true rest
    else (if capital then upperChar c else lowerChar c) ++ titleFrom false rest

/-- The first letter as a capital, all others small. -/
def capitalize (s : String) : String :=
  match s.toList with
  | [] => ""
  | c :: rest => String.ofList (upperChar c) ++ lowerText (String.ofList rest)

/-- A text without the end of its last line. -/
def dropLineEnd (s : List Char) : List Char :=
  let drop (c : Char) (r : List Char) : List Char :=
    match r with
    | d :: rest => if d = c then rest else r
    | [] => []
  (drop '\r' (drop '\n' s.reverse)).reverse

/-- Every line behind some spaces, the first line and empty lines only if asked for. -/
def indent (s : String) (width : Nat) (first blank : Bool) : String :=
  let space := List.replicate width ' '
  let shifted (line : List Char) : List Char :=
    if line.isEmpty && !blank then line else space ++ line
  match pieces '\n' (dropLineEnd s.toList) with
  | [] => ""
  | line :: rest =>
    let lines := (if first then shifted line else line) :: rest.map shifted
    String.ofList (dropLineEnd (lines.flatMap fun l => l ++ ['\n']))

/-- The pieces of a text around a nonempty one, at most `limit` cuts. -/
def splitAt (sep : List Char) : Nat → Nat → List Char → List Char → List (List Char)
  | 0, _, piece, _ => [piece.reverse]
  | _, _, piece, [] => [piece.reverse]
  | fuel + 1, limit, piece, c :: rest =>
    if limit ≠ 0 && sep.isPrefixOf (c :: rest) then
      piece.reverse :: splitAt sep fuel (limit - 1) [] ((c :: rest).drop sep.length)
    else splitAt sep fuel limit (c :: piece) rest

def split (s : String) (sep : Option String) (limit : Option Int) : Value :=
  let cs := s.toList
  let most := match limit with
    | some n => if 0 ≤ n then n.toNat else cs.length + 1
    | none => cs.length + 1
  let found := match sep with
    | some t => splitAt t.toList (cs.length + 1) most [] cs
    | none => ((cs.map fun c => if isBlank c then ' ' else c) |> pieces ' ').filter (!·.isEmpty)
  .ofList (found.map fun p => .ofString (String.ofList p))

/-- A text without the given characters at its ends. -/
def trimOf (s : String) (chars : List Char) : String :=
  let drop (cs : List Char) : List Char := cs.dropWhile chars.contains
  String.ofList (drop (drop s.toList).reverse).reverse

/-! ### Lists -/

/-- Join the items with a text between them; what is still empty gets none. -/
def join (joiner : String) (items : List Value) : String :=
  items.foldl (fun s v => (if s.isEmpty then s else s ++ joiner) ++ v.print) ""

/-- The items of a value that must exist. -/
def itemsOf (v : Value) : Outcome (List Value) := do
  BinaryOp.demand v
  match v.iterate? with
  | some items => return items
  | none => refuse (v.kind.word ++ " is not iterable")

/-- The items of a value that is to become a list. -/
def listOf (v : Value) : Outcome (List Value) :=
  match v with
  | .undefined false => refuse "cannot convert value to list"
  | v =>
    match v.iterate? with
    | some items => .ok items
    | none => refuse "cannot convert value to list"

def asciiLower (s : String) : String := String.ofList (s.toList.map Char.toLower)

/-- The order of values, of texts without regard to case unless it counts. -/
def orderBy (caseCounts : Bool) (a b : Value) : Ordering :=
  match a, b with
  | .text s _, .text t _ =>
    if caseCounts then compare s t else compare (asciiLower s) (asciiLower t)
  | a, b => compare a b

def sortBy (order : α → α → Ordering) (items : List α) : List α :=
  items.mergeSort fun a b => order a b != .gt

/-- Follow the names and places between the points of a path. -/
def follow (v : Value) (path : String) : Outcome Value :=
  (pieces '.' path.toList).foldlM (fun v part => do
    let next := match readInt? part with
      | some n => v.item? (.int n)
      | none => v.attr? (String.ofList part)
    match next with
    | some w => return w
    | none => if v.isUndefined then refuseUndefined else return .undefined false) v

def followOr (v : Value) (path : Option String) : Outcome Value :=
  match path with
  | some p => follow v p
  | none => .ok v

/-- Cut a list into pieces of a size. -/
def chunks {α : Type} (size : Nat) : Nat → List α → List (List α)
  | 0, _ => []
  | _, [] => []
  | fuel + 1, items => items.take size :: chunks size fuel (items.drop size)

def batch (count : Nat) (fill : Option Value) (items : List Value) : Outcome Value :=
  if count = 0 then refuse "count cannot be 0"
  else
    .ok (.ofList ((chunks count items.length items).map fun piece =>
      match fill with
      | some v => .ofList (piece ++ List.replicate (count - piece.length) v)
      | none => .ofList piece))

/-- Cut a list into a number of pieces, the longer ones first. -/
def slices (count : Nat) (fill : Option Value) (items : List Value) : Outcome Value :=
  if count = 0 then refuse "count cannot be 0"
  else
    let short := items.length / count
    let longer := items.length % count
    .ok (.ofList ((List.range count).map fun k =>
      let start := k * short + min k longer
      let piece := (items.drop start).take (short + if k < longer then 1 else 0)
      match fill with
      | some v => .ofList (if longer ≤ k then piece ++ [v] else piece)
      | none => .ofList piece))

/-- The items that differ from all before them. -/
def distinct (same : Value → Value → Bool) : List (Value × Value) → List Value → List Value
  | [], _ => []
  | (key, v) :: rest, seen =>
    if seen.any (same key) then distinct same rest seen
    else v :: distinct same rest (key :: seen)

def reverse (v : Value) : Outcome Value :=
  match v with
  | .undefined _ => .ok v
  | .none => .ok v
  | .text s _ => .ok (.ofString (String.ofList s.toList.reverse))
  | .list items _ => .ok (.list items.reverse true)
  | .map entries _ => .ok (.list (entries.map Prod.fst).reverse true)
  | v => refuse ("cannot reverse values of type " ++ v.kind.word)

def pairsOf (v : Value) (message : String) : Outcome (List (Value × Value)) :=
  match v with
  | .map entries _ => .ok entries
  | _ => refuse message

def pair (e : Value × Value) : Value := .ofList [e.1, e.2]

def swapIf (swap : Bool) (items : List α) : List α := if swap then items.reverse else items

def dictsort (v : Value) : ArgumentReader Value := do
  let entries ← pairsOf v "cannot convert value into pair list"
  let criterion ← namedAs? "by" exactText
  let caseCounts ← namedTruth "case_sensitive"
  let backward ← namedTruth "reverse"
  let onValues ← match criterion with
    | none => pure false
    | some "key" => pure false
    | some "value" => pure true
    | some s => throw (.of .invalidOperation ("invalid value '" ++ s ++ "' for 'by' parameter"))
  let sorted := sortBy (fun a b =>
    orderBy caseCounts (if onValues then a.2 else a.1) (if onValues then b.2 else b.1)) entries
  return .ofList ((swapIf backward sorted).map pair)

def sort (v : Value) : ArgumentReader Value := do
  let items ← listOf v
  let caseCounts ← namedTruth "case_sensitive"
  let path ← namedAs? "attribute" exactText
  let backward ← namedTruth "reverse"
  let keyed := items.map fun v => ((followOr v path).toOption, v)
  let sorted := sortBy (fun a b =>
    match a.1, b.1 with
    | some x, some y => orderBy caseCounts x y
    | _, _ => .eq) keyed
  return .ofList (swapIf backward (sorted.map Prod.snd))

def unique (v : Value) : ArgumentReader Value := do
  let items ← itemsOf v
  let caseCounts ← namedTruth "case_sensitive"
  let path ← namedAs? "attribute" exactText
  let keyed ← items.mapM fun v => do
    let key ← followOr v path
    return (key, v)
  return .ofList (distinct (fun a b => orderBy caseCounts a b == .eq) keyed [])

/-- Put items with equal keys together, in the order of the keys. -/
def groups : List (Value × Value) → List (Value × List Value)
  | [] => []
  | (key, v) :: rest =>
    match groups rest with
    | (k, vs) :: more => if orderBy false key k == .eq then (key, v :: vs) :: more
        else (key, [v]) :: (k, vs) :: more
    | [] => [(key, [v])]

def groupby (v : Value) : ArgumentReader Value := do
  let items ← itemsOf v
  let named ← namedAs? "attribute" exactText
  let path ← match named with
    | some p => pure p
    | none => nextText
  let standard ← named? "default"
  let keyed ← items.mapM fun v => do
    let key ← follow v path
    return (if key.isUndefined then standard.getD key else key, v)
  let sorted := sortBy (fun a b => orderBy false a.1 b.1) keyed
  return .ofList ((groups sorted).map fun (k, vs) => pair (k, .ofList vs))

/-! ### Numbers -/

/-- Why a text is not a number. -/
def noNumber {α : Type} (s : String) : Outcome α :=
  refuse (if s.isEmpty then "cannot parse float from empty string" else "invalid float literal")

/-- The whole part of a number, kept within 128 bits; what is no number counts as zero. -/
def wholePart (x : Binary64) : Int :=
  if x.isNaN then 0
  else
    let bound : Int := Nat.pow 2 127
    max (-bound) (min (bound - 1) x.toIntTrunc)

def toInt (v : Value) : Outcome Value :=
  match v with
  | .undefined _ => .ok (.int 0)
  | .none => .ok (.int 0)
  | .bool b => .ok (.int (if b then 1 else 0))
  | .int n => .ok (.int n)
  | .float x => .ok (.int (wholePart x))
  | .text s _ =>
    match (readInt? s.toList).bind BinaryOp.bounded?, Binary64.read? s.toList with
    | some n, _ => .ok (.int n)
    | none, some x => .ok (.int (wholePart x))
    | none, none => noNumber s
  | v => unconvertible v "integer"

def toFloat (v : Value) : Outcome Value :=
  match v with
  | .undefined _ => .ok (.float Binary64.zero)
  | .none => .ok (.float Binary64.zero)
  | .text s _ =>
    match Binary64.read? s.toList with
    | some x => .ok (.float x)
    | none => noNumber s
  | v =>
    match v.asFloat? true with
    | some x => .ok (.float x)
    | none => unconvertible v "float"

def absolute (v : Value) : Outcome Value :=
  match v with
  | .int n => .ok (.int n.natAbs)
  | .float x => .ok (.float x.abs)
  | _ => refuse "cannot get absolute value"

def round (v : Value) (places : Int) : Outcome Value :=
  match v with
  | .int n => .ok (.int n)
  | .float x =>
    let scale := (Binary64.ofInt 10).powInt places
    .ok (.float ((x.mul scale).roundHalfAway.div scale))
  | v => refuse ("cannot round value (" ++ v.kind.word ++ ")")

def sum (items : List Value) : Outcome Value :=
  items.foldlM (fun total v =>
    if v.isUndefined then .ok total
    else if v.kind = .number then BinaryOp.plus total v
    else refuse ("can only sum numbers, got " ++ v.kind.word)) (.int 0)

/-- The least item by an order, the first of equal ones. -/
def least (order : Value → Value → Ordering) (items : List Value) : Value :=
  match items with
  | [] => .undefined false
  | v :: rest => rest.foldl (fun best w => if order w best == .lt then w else best) v

/-- The greatest item, the last of equal ones. -/
def greatest (items : List Value) : Value :=
  match items with
  | [] => .undefined false
  | v :: rest => rest.foldl (fun best w => if compare w best == .lt then best else w) v

def length (v : Value) : Outcome Value :=
  match v.length? with
  | some n => .ok (.ofNat n)
  | none => refuse ("cannot calculate length of value of type " ++ v.kind.word)

def first (v : Value) : Outcome Value :=
  match v with
  | .undefined _ => refuse "cannot get first item from value"
  | .none => refuse "cannot get first item from value"
  | v =>
    match v.iterate? with
    | some items => .ok (.orUndefined items.head?)
    | none => refuse "cannot get first item from value"

def last (v : Value) : Outcome Value :=
  match v with
  | .text s _ => .ok (.orUndefined (s.toList.getLast?.map Value.ofChar))
  | .list items _ => .ok (.orUndefined items.getLast?)
  | _ => refuse "cannot get last item from value"

/-! ### By name -/

/-- A filter that takes no arguments by name. -/
def plain (read : Value → ArgumentReader Value) : Filter := fun v args => run (read v) args

/-- A filter that takes some arguments by name. -/
def withNames (read : Value → ArgumentReader Value) : Filter := fun v args => runNamed (read v) args

/-- A filter on texts. -/
def onText (f : String → String) : Filter :=
  plain fun v => do return .ofString (f (← anyText v))

/-- A filter without arguments. -/
def onValue (f : Value → Outcome Value) : Filter := plain fun v => do f v

/-- The filters that need no other filters or tests, by their names. -/
def named : List (String × Filter) := [
  ("replace_char", plain fun v => do
    let s ← exactText v
    let old ← nextExactText
    let new ← nextExactText
    return .ofString (replaceText old new s)),
  ("base64_encode", plain fun v => do return .ofString (Base64.encodeText (← exactText v))),
  ("base64_decode", plain fun v => do return .ofString (← base64Decode (← exactText v))),
  ("required", onValue required),
  ("safe", plain fun v => do return .text (← anyText v) true),
  ("escape", onValue fun v => .ok (.text v.printEscaped true)),
  ("e", onValue fun v => .ok (.text v.printEscaped true)),
  ("lower", onText lowerText),
  ("upper", onText upperText),
  ("title", onText fun s => String.ofList (titleFrom true s.toList)),
  ("capitalize", onText capitalize),
  ("string", plain fun v => match v with
    | .text s safe => pure (.text s safe)
    | v => do return .ofString (← anyText v)),
  ("replace", plain fun v => do
    let s ← anyText v
    let old ← nextText
    let new ← nextText
    return .ofString (replaceText old new s)),
  ("trim", plain fun v => do
    let s ← anyText v
    match ← givenText? with
    | some chars => return .ofString (trimOf s chars.toList)
    | none => return .ofString (trimBlanks s)),
  ("indent", plain fun v => do
    let s ← anyText v
    let width ← nextSize
    let first ← givenTruth
    let blank ← givenTruth
    return .ofString (indent s width first blank)),
  ("split", plain fun v => do
    let s ← anyText v
    let sep ← givenText?
    let limit ← givenAs? (intWithin "i64" minInt64 maxInt64)
    return split s sep limit),
  ("lines", plain fun v => do
    let s ← anyText v
    return .ofList ((textLines s.toList).map fun l => .ofString (String.ofList l))),
  ("length", onValue length),
  ("count", onValue length),
  ("items", onValue fun v => do
    return .ofList ((← pairsOf v "cannot convert value into pairs").map pair)),
  ("dictsort", withNames dictsort),
  ("reverse", onValue reverse),
  ("join", plain fun v => do
    let joiner := (← givenText?).getD ""
    match v with
    | .undefined _ => return .ofString ""
    | .none => return .ofString ""
    | v =>
      match v.iterate? with
      | some items => return .ofString (join joiner items)
      | none => refuse ("cannot join value of type " ++ v.kind.word)),
  ("default", plain fun v => do
    let other := (← next?).getD (.ofString "")
    let lax ← givenTruth
    return if v.isUndefined || (lax && !v.isTrue) then other else v),
  ("d", plain fun v => do
    let other := (← next?).getD (.ofString "")
    let lax ← givenTruth
    return if v.isUndefined || (lax && !v.isTrue) then other else v),
  ("abs", onValue absolute),
  ("int", onValue toInt),
  ("float", onValue toFloat),
  ("round", plain fun v => do
    let places := (← givenAs? (intWithin "i32" (-2147483648) 2147483647)).getD 0
    round v places),
  ("attr", plain fun v => do
    let key ← next
    match v.item? key with
    | some w => return w
    | none => if v.isUndefined then refuseUndefined else return .undefined false),
  ("first", onValue first),
  ("last", onValue last),
  ("min", onValue fun v => return least compare (← listOf v)),
  ("max", onValue fun v => return greatest (← listOf v)),
  ("sort", withNames sort),
  ("list", onValue fun v => return .ofList (← listOf v)),
  ("bool", onValue fun v => .ok (.bool v.isTrue)),
  ("batch", plain fun v => do
    let items ← itemsOf v
    let count ← nextSize
    let fill ← next?
    batch count fill items),
  ("slice", plain fun v => do
    let items ← itemsOf v
    let count ← nextSize
    let fill ← next?
    slices count fill items),
  ("sum", onValue fun v => do sum (← itemsOf v)),
  ("unique", withNames unique),
  ("groupby", withNames groupby),
  ("chain", fun v args => do
    let items ← (v :: args).mapM itemsOf
    return .list items.flatten true),
  ("zip", fun v args => do
    let columns ← (v :: args).mapM itemsOf
    let height := (columns.map List.length).min?.getD 0
    return .list ((List.range height).map fun k =>
      .ofList (columns.map fun column => .orUndefined column[k]?)) true)]

/-- Keep the items that pass a test, or those that do not. -/
def keep (passing byPath : Bool) (v : Value) (args : List Value) : Outcome Value := do
  let (path, args) ← if byPath then
      match args with
      | p :: rest => pure (some (← anyText p), rest)
      | [] => missing
    else pure (none, args)
  let items ← match args with
    | [] => itemsOf v
    | t :: _ => do
      let name ← anyText t
      if (Test.named.lookup name).isNone then .error ⟨.unknownTest, none, none⟩ else itemsOf v
  let kept ← items.filterM fun item => do
    let subject ← followOr item path
    let passed ← match args with
      | [] => pure subject.isTrue
      | t :: rest => Test.apply t.print subject rest
    return passed == passing
  return .ofList kept

/-- The attribute of every item. -/
def mapAttribute (wanted : Value) (standard : Option Value) (items : List Value) : Outcome Value := do
  let found ← items.mapM fun item => do
    let w := match wanted with
      | .text path _ => follow item path
      | key => .ok (.orUndefined (item.item? key))
    match w, standard with
    | .ok w, some d => return if w.isUndefined then d else w
    | .ok w, none => return w
    | .error _, some d => return d
    | .error e, none => .error e
  return .ofList found

/-- Whether there is a filter called `name`. -/
def isKnown (name : String) : Bool :=
  ["select", "reject", "selectattr", "rejectattr", "map"].contains name || (named.lookup name).isSome

/-- Apply the filter called `name`. Filters that apply other filters may do so up to a depth. -/
def applyWithin : Nat → String → Filter
  | 0, _, _, _ => refuse "recursion limit exceeded"
  | depth + 1, name, v, args =>
    match name with
    | "select" => keep true false v args
    | "reject" => keep false false v args
    | "selectattr" => keep true true v args
    | "rejectattr" => keep false true v args
    | "map" => do
      let split := Arguments.apart args
      match Keyed.get? split.named (.ofString "attribute") with
      | some wanted =>
        if !split.positional.isEmpty then .error ⟨.tooManyArguments, none, none⟩
        else mapAttribute wanted (Keyed.get? split.named (.ofString "default")) (← itemsOf v)
      | none =>
        match split.positional with
        | [] => refuse "filter name is required"
        | .text f _ :: rest => do
          if !isKnown f then .error ⟨.unknownFilter, none, none⟩
          let mapped ← (← itemsOf v).mapM fun item => applyWithin depth f item rest
          return .ofList mapped
        | _ => refuse "filter name must be a string"
    | name =>
      match named.lookup name with
      | some f => f v args
      | none => .error (.of .unknownFilter ("filter " ++ name ++ " is unknown"))

/-- Apply the filter called `name`. -/
def apply (name : String) : Filter := applyWithin 100 name

end Filter
end Provision.Template

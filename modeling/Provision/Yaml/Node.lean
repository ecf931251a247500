import Provision.Keyed
import Provision.Yaml.Token

/-!
The nodes of a YAML document, and how they are put together from tokens. Content that is left out is
an empty plain text.
-/

namespace Provision.Yaml

/-- A tag: what its handle stands for, and the rest. -/
structure Tag where
  handle : String
  suffix : String
deriving DecidableEq, Repr

/-- A node of a document. An anchor is a number from one on; zero means that there is none. -/
inductive Node where
  | alias (anchor : Nat)
  | scalar (anchor : Nat) (tag : Option Tag) (style : Style) (text : String)
  | sequence (anchor : Nat) (items : List Node)
  | mapping (anchor : Nat) (entries : List (Node × Node))
deriving Repr, Inhabited

namespace Node

/-- Content that is left out. -/
def empty : Node := .scalar 0 none .plain "~"

/-- What is known while nodes are put together. -/
structure Reader where
  rest : List Token
  /-- The anchors of this document by name. -/
  anchors : Keyed String Nat
  /-- The number of the next anchor of the stream. -/
  nextAnchor : Nat
  /-- What tag handles stand for. -/
  handles : Keyed String String

/-- A step of putting nodes together. -/
abbrev Read := StateT Reader (Except Fault)

def peek : Read (Option Token) := return (← get).rest.head?

def skip : Read Unit := modify fun s => { s with rest := s.rest.drop 1 }

def register (name : String) : Read Nat := do
  let s ← get
  set { s with anchors := Keyed.insert s.anchors name s.nextAnchor, nextAnchor := s.nextAnchor + 1 }
  return s.nextAnchor

/-- What a tag means: two exclamation marks stand for the core tags unless a directive says otherwise,
one alone for itself, and a named handle must have been declared. -/
def resolveTag (handles : Keyed String String) (handle suffix : String) : Except Fault Tag :=
  if handle = "!!" then
    .ok ⟨(Keyed.get? handles "!!").getD "tag:yaml.org,2002:", suffix⟩
  else
    match Keyed.get? handles handle with
    | some start => .ok ⟨start, suffix⟩
    | none =>
      let cs := handle.toList
      if 2 ≤ cs.length && cs.head? == some '!' && cs.getLast? == some '!' then
        .error (.unknownHandle handle)
      else .ok ⟨handle, suffix⟩

def readAnchor : Read Nat := do
  match ← peek with
  | some (.anchor name _) => skip; register name
  | _ => return 0

def readTag : Read (Option Tag) := do
  match ← peek with
  | some (.tag handle suffix _) =>
    skip
    return some (← resolveTag (← get).handles handle suffix)
  | _ => return none

/-- An anchor and a tag, in either order. -/
def properties : Read (Nat × Option Tag) := do
  match ← peek with
  | some (.tag ..) =>
    let tag ← readTag
    let anchor ← readAnchor
    return (anchor, tag)
  | _ =>
    let anchor ← readAnchor
    if anchor = 0 then return (0, none)
    let tag ← readTag
    return (anchor, tag)

/-- Whether the next token is one of these. -/
def nextIs (ts : List Token) : Read Bool := do
  match ← peek with
  | some t => return ts.contains t
  | none => return false

mutual

/-- A node. `block` says whether it may be a collection made by indentation, `indentless` whether it
may be a sequence that is not indented. -/
def node (block indentless : Bool) : Nat → Read Node
  | 0 => throw .nodeExpected
  | fuel + 1 => do
    match ← peek with
    | some (.alias name) =>
      skip
      match Keyed.get? (← get).anchors name with
      | some id => return .alias id
      | none => throw (.unknownAnchor name)
    | _ =>
    let (anchor, tag) ← properties
    match ← peek with
    | some (.scalar style text) => skip; return .scalar anchor tag style text
    | some .flowSequenceStart => skip; return .sequence anchor (← flowItems true fuel)
    | some .flowMappingStart => skip; return .mapping anchor (← flowEntries true fuel)
    | t =>
      if indentless && t = some .blockEntry then return .sequence anchor (← plainItems fuel)
      else if block && t = some .blockSequenceStart then
        skip
        return .sequence anchor (← blockItems fuel)
      else if block && t = some .blockMappingStart then
        skip
        return .mapping anchor (← blockEntries fuel)
      else if tag.isSome || 0 < anchor then return .scalar anchor tag .plain ""
      else throw .nodeExpected

/-- A node, or empty content if one of these tokens comes next. -/
def nodeUnless (ts : List Token) (block indentless : Bool) : Nat → Read Node
  | 0 => throw .nodeExpected
  | fuel + 1 => do
    if ← nextIs ts then return empty else node block indentless fuel

/-- The items of an indented sequence. -/
def blockItems : Nat → Read (List Node)
  | 0 => throw .entryExpected
  | fuel + 1 => do
    match ← peek with
    | some .blockEnd => skip; return []
    | some .blockEntry =>
      skip
      let item ← nodeUnless [.blockEntry, .blockEnd] true false fuel
      return item :: (← blockItems fuel)
    | _ => throw .entryExpected

/-- The items of a sequence that is not indented; any other token ends it. -/
def plainItems : Nat → Read (List Node)
  | 0 => throw .entryExpected
  | fuel + 1 => do
    match ← peek with
    | some .blockEntry =>
      skip
      let item ← nodeUnless [.blockEntry, .key, .value, .blockEnd] true false fuel
      return item :: (← plainItems fuel)
    | _ => return []

/-- The entries of an indented mapping. -/
def blockEntries : Nat → Read (List (Node × Node))
  | 0 => throw .keyExpected
  | fuel + 1 => do
    match ← peek with
    | some .blockEnd => skip; return []
    | some .key =>
      skip
      let key ← nodeUnless [.key, .value, .blockEnd] true true fuel
      let value ← blockValue fuel
      return (key, value) :: (← blockEntries fuel)
    | some .value =>
      let value ← blockValue fuel
      return (empty, value) :: (← blockEntries fuel)
    | _ => throw .keyExpected

/-- The value of an entry of an indented mapping. -/
def blockValue : Nat → Read Node
  | 0 => throw .nodeExpected
  | fuel + 1 => do
    match ← peek with
    | some .value => skip; nodeUnless [.key, .value, .blockEnd] true true fuel
    | _ => return empty

/-- The entries of a mapping in braces. -/
def flowEntries (first : Bool) : Nat → Read (List (Node × Node))
  | 0 => throw .commaExpected
  | fuel + 1 => do
    if ← nextIs [.flowMappingEnd] then
      skip
      return []
    if !first then
      if ← nextIs [.flowEntry] then skip else throw .commaExpected
    match ← peek with
    | some .flowMappingEnd => skip; return []
    | some .key =>
      skip
      let key ← nodeUnless [.value, .flowEntry, .flowMappingEnd] false false fuel
      let value ← flowValue .flowMappingEnd fuel
      return (key, value) :: (← flowEntries false fuel)
    | some .value =>
      let value ← flowValue .flowMappingEnd fuel
      return (empty, value) :: (← flowEntries false fuel)
    | _ =>
      let key ← node false false fuel
      return (key, empty) :: (← flowEntries false fuel)

/-- The value of an entry in brackets that `close` ends. -/
def flowValue (close : Token) : Nat → Read Node
  | 0 => throw .nodeExpected
  | fuel + 1 => do
    match ← peek with
    | some .value => skip; nodeUnless [.flowEntry, close] false false fuel
    | _ => return empty

/-- The items of a sequence in square brackets. -/
def flowItems (first : Bool) : Nat → Read (List Node)
  | 0 => throw .commaExpected
  | fuel + 1 => do
    if ← nextIs [.flowSequenceEnd] then
      skip
      return []
    if !first then
      if ← nextIs [.flowEntry] then skip else throw .commaExpected
    match ← peek with
    | some .flowSequenceEnd => skip; return []
    | some .key =>
      skip
      let key ←
        if ← nextIs [.value, .flowEntry, .flowSequenceEnd] then
          skip
          pure empty
        else node false false fuel
      let value ← flowValue .flowSequenceEnd fuel
      return .mapping 0 [(key, value)] :: (← flowItems false fuel)
    | _ =>
      let item ← node false false fuel
      return item :: (← flowItems false fuel)

end

/-- The directives before a document. Each one replaces what the one before it said about handles. -/
def directives : Nat → Bool → Read Unit
  | 0, _ => return
  | fuel + 1, versionSeen => do
    match ← peek with
    | some .versionDirective =>
      if versionSeen then throw .badDirective
      modify fun s => { s with handles := [] }
      skip
      directives fuel true
    | some (.tagDirective handle start) =>
      modify fun s => { s with handles := Keyed.insert [] handle start }
      skip
      directives fuel versionSeen
    | _ => return

def skipDocumentEnds : Read Unit :=
  modify fun s => { s with rest := s.rest.dropWhile (· = .documentEnd) }

def isDirective : Token → Bool
  | .versionDirective => true
  | .tagDirective .. => true
  | _ => false

/-- The content of a document that started with an indicator; it may be left out. -/
def content (fuel : Nat) : Read Node := do
  match ← peek with
  | some t =>
    if isDirective t || t = .documentStart || t = .documentEnd then return empty
    else node true false fuel
  | none => return empty

/-- The documents of a stream. `implicit` says whether the next one may start without an indicator. -/
def documents : Nat → Bool → Read (List Node)
  | 0, _ => return []
  | fuel + 1, implicit => do
    skipDocumentEnds
    match ← peek with
    | none => return []
    | some t =>
      modify fun s => { s with anchors := [] }
      let size := 4 * (← get).rest.length + 8
      let explicit := isDirective t || t = .documentStart || !implicit
      let root ←
        if explicit then do
          directives size false
          if ← nextIs [.documentStart] then skip else throw .documentExpected
          content size
        else node true false size
      let ended ← nextIs [.documentEnd]
      if ended then skip
      modify fun s => { s with handles := [] }
      if !ended then
        match ← peek with
        | some t => if isDirective t then throw .directiveWithoutEnd
        | none => pure ()
      return root :: (← documents fuel ended)

/-- The documents of a stream of tokens. -/
def ofTokens (ts : List Token) : Except Fault (List Node) := do
  let (roots, _) ← (documents (ts.length + 1) true).run ⟨ts, [], 1, []⟩
  return roots

end Node
end Provision.Yaml

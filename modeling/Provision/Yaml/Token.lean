import Provision.Yaml.Scalar

/-!
The tokens of a stream of YAML, and how the stream is cut into them.

Where a key starts without an indicator, that becomes known only at its colon. Every place where such
a key may have started is remembered, and the tokens that open the key are put in there afterwards.
-/

namespace Provision.Yaml

/-- A token of the stream. -/
inductive Token where
  | documentStart
  | documentEnd
  | versionDirective
  | tagDirective (handle start : String)
  | blockSequenceStart
  | blockMappingStart
  | blockEnd
  | flowSequenceStart
  | flowSequenceEnd
  | flowMappingStart
  | flowMappingEnd
  | blockEntry
  | flowEntry
  | key
  | value
  | alias (name : String)
  /-- An anchor, and whether it stands at the left margin. -/
  | anchor (name : String) (atMargin : Bool)
  /-- A tag, and whether it stands at the left margin. -/
  | tag (handle suffix : String) (atMargin : Bool)
  | scalar (style : Style) (text : String)
deriving DecidableEq, Repr

/-- Whether the token is an anchor or a tag at the left margin. -/
def Token.isMarginProperty : Token → Bool
  | anchor _ atMargin => atMargin
  | tag _ _ atMargin => atMargin
  | _ => false

/-- A place where a key may have started. -/
structure KeyPlace where
  possible : Bool
  /-- Whether a key must start here, since nothing else may stand at this column. -/
  required : Bool
  /-- How many tokens precede it. -/
  position : Nat
  index : Nat
  line : Nat
  column : Nat
deriving Repr, Inhabited

/-- An indentation that is open: the one outside it, and whether a token will close it. -/
structure OpenIndent where
  outer : Int
  closes : Bool
deriving Repr

/-- The state of cutting a stream into tokens. -/
structure Lexer where
  cursor : Cursor
  /-- The tokens so far, the latest first, and their number. -/
  reversed : List Token
  count : Nat
  /-- The innermost place first; one place for each open bracket and one for the block around. -/
  keys : List KeyPlace
  keyAllowed : Bool
  indent : Int
  indents : List OpenIndent
  flowLevel : Nat
  /-- The index at which a value may follow its key without a blank. -/
  adjacentAt : Nat
  /-- Whether a mapping in braces, or a key with an indicator in brackets, has been seen. -/
  mappingSeen : Bool
  /-- For each open square bracket, whether a mapping without braces is open in it. -/
  bareMappings : List Bool

namespace Lexer

def start (text : String) : Lexer where
  cursor := Cursor.start text.toList
  reversed := []
  count := 0
  keys := [⟨false, false, 0, 0, 0, 0⟩]
  keyAllowed := true
  indent := -1
  indents := []
  flowLevel := 0
  adjacentAt := 0
  mappingSeen := false
  bareMappings := []

/-- A step that may find the stream malformed. -/
abbrev Step := Except Fault Lexer

def inFlow (s : Lexer) : Bool := 0 < s.flowLevel

def push (s : Lexer) (t : Token) : Lexer :=
  { s with reversed := t :: s.reversed, count := s.count + 1 }

/-- Put a token in after the first `position` tokens. -/
def insertAt (s : Lexer) (position : Nat) (t : Token) : Lexer :=
  let later := s.count - position
  { s with
    reversed := s.reversed.take later ++ t :: s.reversed.drop later
    count := s.count + 1 }

def setPossible (p : KeyPlace) (b : Bool) : KeyPlace := { p with possible := b }

/-- Forget the places whose line is over or that lie too far back; in brackets a key may take several
lines. -/
def dropStaleKeys (s : Lexer) : Step :=
  let stale := fun (k : KeyPlace) => k.possible && !s.inFlow &&
    (k.line < s.cursor.line || k.index + 1024 < s.cursor.index)
  if s.keys.any fun k => stale k && k.required then .error .keyWithoutValue
  else .ok { s with keys := s.keys.map fun k => if stale k then setPossible k false else k }

/-- Remember this place as a possible start of a key. -/
def saveKey (s : Lexer) : Lexer :=
  if s.keyAllowed then
    let required := !s.inFlow && s.indent == (s.cursor.column : Int) &&
      (s.indents.head?.any fun i => i.closes)
    let place : KeyPlace :=
      ⟨true, required, s.count, s.cursor.index, s.cursor.line, s.cursor.column⟩
    { s with keys := place :: s.keys.drop 1 }
  else s

/-- Give up the innermost place. -/
def removeKey (s : Lexer) : Step :=
  match s.keys with
  | k :: rest =>
    if k.possible && k.required then .error .keyWithoutValue
    else .ok { s with keys := setPossible k false :: rest }
  | [] => .ok s

/-- Open the indentation `column` if it is deeper than the present one. The token that says so goes to
`position`, or to the end. -/
def rollIndent (s : Lexer) (column : Nat) (position : Option Nat) (t : Token) : Lexer :=
  if s.inFlow then s
  else
    let s :=
      match s.indents with
      | i :: rest =>
        if s.indent ≤ (column : Int) && !i.closes then { s with indent := i.outer, indents := rest }
        else s
      | [] => s
    if s.indent < (column : Int) then
      let s := { s with indents := ⟨s.indent, true⟩ :: s.indents, indent := column }
      match position with
      | some n => s.insertAt n t
      | none => s.push t
    else s

/-- Close indentations deeper than `column`. -/
def unrollTo (column : Int) : List OpenIndent → Lexer → Lexer
  | [], s => { s with indents := [] }
  | i :: rest, s =>
    if column < s.indent then
      let s := { s with indent := i.outer }
      unrollTo column rest (if i.closes then s.push .blockEnd else s)
    else { s with indents := i :: rest }

def unroll (s : Lexer) (column : Int) : Lexer :=
  if s.inFlow then s else unrollTo column s.indents s

/-- Indent by one column what follows an indicator. -/
def rollOne (s : Lexer) : Lexer :=
  if !s.inFlow && (s.indents.head?.any fun i => i.closes) then
    { s with indents := ⟨s.indent, false⟩ :: s.indents, indent := s.indent + 1 }
  else s

/-- Close the indentations that no token closes. -/
def unrollOpen : List OpenIndent → Lexer → Lexer
  | [], s => { s with indents := [] }
  | i :: rest, s =>
    if i.closes then { s with indents := i :: rest }
    else unrollOpen rest { s with indent := i.outer }

/-- Pass over blanks, breaks and comments. A line break lets a key start, except in brackets. -/
def skipBlanks : Nat → Lexer → Step
  | 0, s => .ok s
  | fuel + 1, s =>
    let c := s.cursor
    let d := c.peek
    if d == '\t' && !s.indents.isEmpty && c.fresh && (c.column : Int) < s.indent then
      match c.skipGap true with
      | .error e => .error e
      | .ok (_, c) =>
        if isBreakOrEnd c.peek then skipBlanks fuel { s with cursor := c }
        else .error .tabIndentation
    else if isSpace d then skipBlanks fuel { s with cursor := c.skipSpaces 1 }
    else if isBreak d then
      skipBlanks fuel { s with cursor := c.skipBreak, keyAllowed := s.keyAllowed || !s.inFlow }
    else if d == '#' then skipBlanks fuel { s with cursor := c.skipLine }
    else .ok s

def toNextToken (s : Lexer) : Step := skipBlanks (s.cursor.rest.length + 1) s

/-- Pass over what separates a token from the rest of its line. -/
def skipGap (s : Lexer) : Except Fault (Cursor.Gap × Lexer) := do
  let (gap, c) ← s.cursor.skipGap true
  return (gap, { s with cursor := c })

/-- Pass over the blanks after the key indicator: spaces, breaks and comments, at least one blank. -/
def skipAfterKey : Nat → Bool → Lexer → Step
  | 0, _, s => .ok s
  | fuel + 1, blank, s =>
    let c := s.cursor
    let d := c.peek
    if d == ' ' then skipAfterKey fuel true { s with cursor := c.skipSpaces 1 }
    else if isBreak d then
      skipAfterKey fuel true
        { s with cursor := c.skipBreak, keyAllowed := s.keyAllowed || !s.inFlow }
    else if d == '#' then skipAfterKey fuel blank { s with cursor := c.skipLine }
    else if blank then .ok s else .error .blankExpected

/-! ### Directives -/

/-- One or more digits, but fewer than ten. -/
def versionNumber (c : Cursor) : Except Fault Cursor :=
  let (ds, c) := c.takeWhile isAsciiDigit
  if ds.isEmpty || 9 < ds.length then .error .badDirective else .ok c

/-- A character of a tag written in hexadecimal after percent signs. -/
def uriEscape (c : Cursor) : Except Fault (Char × Cursor) := do
  let first ← byteAt c
  let width ←
    if first < 0x80 then pure 1
    else if first / 0x20 = 6 then pure 2
    else if first / 0x10 = 14 then pure 3
    else if first / 8 = 30 then pure 4
    else throw .badTag
  let (code, c) ← trailing (width - 1) first (c.advance 3)
  if code.isValidChar then return (Char.ofNat code, c) else throw .badTag
where
  /-- The byte after a percent sign. -/
  byteAt (c : Cursor) : Except Fault Nat :=
    if c.peek == '%' && isHex (c.ahead 1) && isHex (c.ahead 2) then
      .ok (hexValue (c.ahead 1) * 16 + hexValue (c.ahead 2))
    else .error .badTag
  /-- Bytes that continue a character. -/
  trailing : Nat → Nat → Cursor → Except Fault (Nat × Cursor)
    | 0, code, c => .ok (code, c)
    | n + 1, code, c => do
      let b ← byteAt c
      if b / 0x40 ≠ 2 then throw .badTag
      trailing n (code * 256 + b) (c.advance 3)

/-- Characters of a tag that satisfy `p`, with escapes resolved; in reverse. -/
def uriChars (p : Char → Bool) : Nat → List Char → Cursor → Except Fault (List Char × Cursor)
  | 0, acc, c => .ok (acc, c)
  | fuel + 1, acc, c =>
    if p c.peek then
      if c.peek == '%' then
        match uriEscape c with
        | .ok (d, c) => uriChars p fuel (d :: acc) c
        | .error e => .error e
      else uriChars p fuel (c.peek :: acc) (c.advance 1)
    else .ok (acc, c)

def uriText (p : Char → Bool) (c : Cursor) : Except Fault (List Char × Cursor) := do
  let (acc, c) ← uriChars p (c.rest.length + 1) [] c
  return (acc.reverse, c)

/-- A tag handle. In a directive it must be complete. -/
def tagHandle (directive : Bool) (c : Cursor) : Except Fault (List Char × Cursor) :=
  if c.peek ≠ '!' then .error .badTag
  else
    let (name, c) := (c.advance 1).takeWhile isNameChar
    if c.peek == '!' then .ok ('!' :: name ++ ['!'], c.advance 1)
    else if directive && !name.isEmpty then .error .badTag
    else .ok ('!' :: name, c)

/-- What a tag handle is to stand for. -/
def tagStart (c : Cursor) : Except Fault (List Char × Cursor) := do
  if c.peek == '!' then
    let (rest, c) ← uriText isUriChar (c.advance 1)
    return ('!' :: rest, c)
  else if !isTagChar c.peek then throw .badTag
  else uriText isUriChar c

def skipSpaces (c : Cursor) : Cursor :=
  c.skipSpaces (c.rest.takeWhile isSpace).length

/-- A directive at its percent sign, up to the end of its line. -/
def directive (c : Cursor) : Except Fault (Token × Cursor) := do
  let (name, c) := (c.advance 1).takeWhile isNameChar
  if name.isEmpty || !isSpaceBreakOrEnd c.peek then throw .badDirective
  let (t, c) ←
    if name = "YAML".toList then
      let c ← versionNumber (skipSpaces c)
      if c.peek ≠ '.' then throw .badDirective
      let c ← versionNumber (c.advance 1)
      pure (Token.versionDirective, c)
    else if name = "TAG".toList then
      let (handle, c) ← tagHandle true (skipSpaces c)
      let (start, c) ← tagStart (skipSpaces c)
      if !isSpaceBreakOrEnd c.peek then throw .badDirective
      pure (Token.tagDirective (String.ofList handle) (String.ofList start), c)
    else pure (Token.tagDirective "" "", c.skipLine)
  let (_, c) ← c.skipGap true
  if isBreakOrEnd c.peek then return (t, c.skipBreak) else throw .badDirective

/-! ### Tokens -/

def closeBlocks (s : Lexer) : Step := do
  let s ← (s.unroll (-1)).removeKey
  return { s with keyAllowed := false }

def fetchDirective (s : Lexer) : Step := do
  let s ← s.closeBlocks
  let (t, c) ← directive s.cursor
  return { s with cursor := c }.push t

def fetchIndicator (s : Lexer) (t : Token) : Step := do
  let s ← s.closeBlocks
  return { s with cursor := s.cursor.advance 3 }.push t

/-- Close a mapping without braces that is open in the innermost square brackets. -/
def endBareMapping (s : Lexer) : Lexer :=
  match s.bareMappings with
  | true :: rest =>
    { s with bareMappings := false :: rest, mappingSeen := false }.push .flowMappingEnd
  | _ => s

def fetchOpening (s : Lexer) (t : Token) : Step := do
  let s := s.saveKey.rollOne
  if s.flowLevel = 255 then throw .nestedTooDeep
  let s := { s with
    keys := ⟨false, false, 0, 0, 0, 0⟩ :: s.keys
    flowLevel := s.flowLevel + 1
    keyAllowed := true
    cursor := s.cursor.advance 1 }
  let s :=
    if t = .flowMappingStart then { s with mappingSeen := true }
    else { s with bareMappings := false :: s.bareMappings }
  let (_, s) ← s.skipGap
  return s.push t

def fetchClosing (s : Lexer) (t : Token) : Step := do
  let s ← s.removeKey
  let s :=
    if s.inFlow then { s with flowLevel := s.flowLevel - 1, keys := s.keys.drop 1 } else s
  let s := { s with keyAllowed := false }
  let s :=
    if t = .flowSequenceEnd then
      let s := s.endBareMapping
      { s with bareMappings := s.bareMappings.drop 1 }
    else s
  let (_, s) ← { s with cursor := s.cursor.advance 1 }.skipGap
  let s := if s.inFlow then { s with adjacentAt := s.cursor.index } else s
  return s.push t

def fetchFlowEntry (s : Lexer) : Step := do
  let s ← s.removeKey
  let s := { s with keyAllowed := true }.endBareMapping
  let (_, s) ← { s with cursor := s.cursor.advance 1 }.skipGap
  return s.push .flowEntry

def fetchBlockEntry (s : Lexer) : Step := do
  if s.inFlow || !s.keyAllowed then throw .entryNotAllowed
  if s.cursor.column = 0 && -1 < s.indent && (s.reversed.head?.any Token.isMarginProperty) then
    throw .badIndentation
  let column := s.cursor.column
  let s := { s with cursor := s.cursor.advance 1 }.rollIndent column none .blockSequenceStart
  let (gap, s) ← s.skipGap
  if gap.tab && s.cursor.peek == '-' && isSpaceBreakOrEnd (s.cursor.ahead 1) then
    throw .blankExpected
  let (_, c) ← s.cursor.skipGap false
  let s := { s with cursor := c }
  let s := if isBreak c.peek || isFlowIndicator c.peek then s.rollOne else s
  let s ← s.removeKey
  return { s with keyAllowed := true }.push .blockEntry

def fetchKey (s : Lexer) : Step := do
  let s ←
    if s.inFlow then pure { s with mappingSeen := true }
    else
      if !s.keyAllowed then throw .keyNotAllowed
      pure (s.rollIndent s.cursor.column none .blockMappingStart)
  let s ← s.removeKey
  let s := { s with keyAllowed := !s.inFlow, cursor := s.cursor.advance 1 }
  let s ← skipAfterKey (s.cursor.rest.length + 1) false s
  if s.cursor.peek == '\t' then throw .tabIndentation
  return s.push .key

/-- Open the key that started at `k`, now that its colon has been found on line `line`. -/
def openKey (s : Lexer) (k : KeyPlace) (bare : Bool) (line : Nat) : Step := do
  let s := s.insertAt k.position .key
  let s ←
    if bare then
      if k.line < line then throw .valueNotAllowed
      pure (s.insertAt k.position .flowMappingStart)
    else pure s
  let s := (s.rollIndent k.column (some k.position) .blockMappingStart).rollOne
  return { s with keys := setPossible k false :: s.keys.drop 1, keyAllowed := false }

/-- A value whose key is empty or was marked by an indicator. -/
def openValue (s : Lexer) (bare : Bool) (column : Nat) : Step := do
  let s := if bare then s.push .flowMappingStart else s
  let s ←
    if s.inFlow then pure s
    else
      if !s.keyAllowed then throw .valueNotAllowed
      pure (s.rollIndent column none .blockMappingStart)
  let s := s.rollOne
  return { s with keyAllowed := !s.inFlow }

def fetchValue (s : Lexer) : Step := do
  let k := s.keys.headD ⟨false, false, 0, 0, 0, 0⟩
  let line := s.cursor.line
  let column := s.cursor.column
  let bare := !s.bareMappings.isEmpty && !s.mappingSeen
  let s := if bare then { s with bareMappings := true :: s.bareMappings.drop 1 } else s
  let s := { s with cursor := s.cursor.advance 1 }
  let s ←
    if s.cursor.peek == '\t' then
      let (gap, s) ← s.skipGap
      if !gap.space && (s.cursor.peek == '-' || isNameChar s.cursor.peek) then throw .blankExpected
      pure s
    else pure s
  let s ← if k.possible then s.openKey k bare line else s.openValue bare column
  return s.push .value

def fetchAnchor (s : Lexer) (isAlias : Bool) : Step := do
  let s := { s.saveKey with keyAllowed := false }
  let (name, c) := (s.cursor.advance 1).takeWhile isAnchorChar
  if name.isEmpty then throw .badAnchor
  let t := if isAlias then Token.alias (String.ofList name)
    else .anchor (String.ofList name) (s.cursor.column = 0)
  return { s with cursor := c }.push t

/-- A tag at its exclamation mark: the handle and what follows it. -/
def readTag (c : Cursor) : Except Fault (List Char × List Char × Cursor) := do
  if c.ahead 1 == '<' then
    let (name, c) ← uriText isUriChar (c.advance 2)
    if c.peek ≠ '>' then throw .badTag
    return ([], name, c.advance 1)
  let (handle, c) ← tagHandle false c
  if 2 ≤ handle.length && handle.getLast? == some '!' then
    let (suffix, c) ← uriText isTagChar c
    if suffix.isEmpty then throw .badTag
    return (handle, suffix, c)
  let (more, c) ← uriText isTagChar c
  let suffix := handle.drop 1 ++ more
  if suffix.isEmpty then return ([], ['!'], c) else return (['!'], suffix, c)

def fetchTag (s : Lexer) : Step := do
  let s := { s.saveKey with keyAllowed := false }
  let (handle, suffix, c) ← readTag s.cursor
  if !(isSpaceBreakOrEnd c.peek || (s.inFlow && isFlowIndicator c.peek)) then throw .badTag
  let t := Token.tag (String.ofList handle) (String.ofList suffix) (s.cursor.column = 0)
  return { s with cursor := c }.push t

def fetchBlockScalar (s : Lexer) (literal : Bool) : Step := do
  let s := { s.saveKey with keyAllowed := true }
  let s := unrollOpen s.indents s
  let (text, c) ← Block.read literal s.indent s.cursor
  return { s with cursor := c }.push (.scalar .block text)

def fetchQuoted (s : Lexer) (single : Bool) : Step := do
  let s := { s.saveKey with keyAllowed := false }
  let (text, c) ← Quote.read single s.indent s.inFlow s.cursor
  let s ← { s with cursor := c }.toNextToken
  return { s with adjacentAt := s.cursor.index }.push (.scalar .quoted text)

def fetchPlain (s : Lexer) : Step := do
  let s := { s.saveKey with keyAllowed := false }
  let s := unrollOpen s.indents s
  let (text, c) ← Plain.read s.inFlow (s.indent + 1) s.cursor
  return { s with cursor := c, keyAllowed := s.keyAllowed || c.fresh }.push (.scalar .plain text)

/-- The token at a character that opens no document part. -/
def fetchContent (s : Lexer) : Step :=
  let c := s.cursor
  let next := c.ahead 1
  let alone := isSpaceBreakOrEnd next
  match c.peek with
  | '[' => s.fetchOpening .flowSequenceStart
  | '\x7b' => s.fetchOpening .flowMappingStart
  | ']' => s.fetchClosing .flowSequenceEnd
  | '\x7d' => s.fetchClosing .flowMappingEnd
  | ',' => s.fetchFlowEntry
  | '-' => if alone then s.fetchBlockEntry else s.fetchPlain
  | '?' => if alone then s.fetchKey else s.fetchPlain
  | ':' =>
    if alone || (s.inFlow && (isFlowIndicator next || c.index == s.adjacentAt)) then s.fetchValue
    else s.fetchPlain
  | '*' => s.fetchAnchor true
  | '&' => s.fetchAnchor false
  | '!' => s.fetchTag
  | '|' => if s.inFlow then s.fetchPlain else s.fetchBlockScalar true
  | '>' => if s.inFlow then s.fetchPlain else s.fetchBlockScalar false
  | '\'' => s.fetchQuoted true
  | '"' => s.fetchQuoted false
  | '%' => .error (.unexpectedChar '%')
  | '@' => .error (.unexpectedChar '@')
  | '\x60' => .error (.unexpectedChar '\x60')
  | _ => s.fetchPlain

/-- The end of the stream: no key can be pending, and every block ends. -/
def finish (s : Lexer) : Step := do
  if s.keys.any fun k => k.required && k.possible then throw .keyWithoutValue
  return s.unroll (-1)

/-- Cut off tokens until the text is used up. -/
def run : Nat → Lexer → Step
  | 0, s => .ok s
  | fuel + 1, s => do
    let s ← s.toNextToken
    let s ← s.dropStaleKeys
    let s := s.unroll s.cursor.column
    let c := s.cursor
    if isEnd c.peek then s.finish
    else if c.column = 0 && c.peek == '%' then run fuel (← s.fetchDirective)
    else if c.column = 0 && c.isIndicator '-' then run fuel (← s.fetchIndicator .documentStart)
    else if c.column = 0 && c.isIndicator '.' then
      let s ← s.fetchIndicator .documentEnd
      let (_, s) ← s.skipGap
      if !isBreakOrEnd s.cursor.peek then throw .contentAfterEnd
      run fuel s
    else if (c.column : Int) < s.indent then throw .badIndentation
    else run fuel (← s.fetchContent)

end Lexer

/-- The tokens of a stream. -/
def Token.ofText (text : String) : Except Fault (List Token) := do
  let s ← Lexer.run (text.length + 2) (Lexer.start text)
  return s.reversed.reverse

end Provision.Yaml

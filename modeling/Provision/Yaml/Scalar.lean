import Provision.Yaml.Cursor

/-!
Texts in a stream of YAML: in quotes, plain, or as a block of lines. A line break inside a quoted or
plain text is folded: one break is a space, and of several breaks the first is dropped.
-/

namespace Provision.Yaml

/-- How a text was written; only a plain text may be read as something else. -/
inductive Style where
  | plain
  | quoted
  | block
deriving DecidableEq, Repr

/-- Breaks passed over between two words: whether there was one, and how many more there were. -/
structure Breaks where
  first : Bool
  more : Nat

/-- What a run of breaks contributes to the text. -/
def Breaks.folded (b : Breaks) : List Char :=
  if b.first then
    if b.more = 0 then [' '] else List.replicate b.more '\n'
  else List.replicate b.more '\n'

namespace Quote

/-- The number of hexadecimal digits after the letter of an escape. -/
def escapeLength : Char → Option Nat
  | 'x' => some 2
  | 'u' => some 4
  | 'U' => some 8
  | _ => none

/-- The character that a one-letter escape stands for. -/
def escaped? : Char → Option Char
  | '0' => some '\x00'
  | 'a' => some '\x07'
  | 'b' => some '\x08'
  | 't' => some '\t'
  | '\t' => some '\t'
  | 'n' => some '\n'
  | 'v' => some '\x0b'
  | 'f' => some '\x0c'
  | 'r' => some '\r'
  | 'e' => some '\x1b'
  | ' ' => some ' '
  | '"' => some '"'
  | '/' => some '/'
  | '\\' => some '\\'
  | 'N' => some '\u0085'
  | '_' => some '\u00a0'
  | 'L' => some '\u2028'
  | 'P' => some '\u2029'
  | _ => none

/-- An escape at its backslash. -/
def escape (c : Cursor) : Except Fault (Char × Cursor) :=
  match escaped? (c.ahead 1), escapeLength (c.ahead 1) with
  | some d, _ => .ok (d, c.advance 2)
  | none, some n =>
    let c := c.advance 2
    let digits := c.rest.take n
    if digits.length = n ∧ digits.all isHex then
      let value := digits.foldl (fun v d => v * 16 + hexValue d) 0
      if value.isValidChar then .ok (Char.ofNat value, c.advance n) else .error .badEscape
    else .error .badEscape
  | none, none => .error .badEscape

/-- The characters up to a blank, a break or the closing quote. The flag says whether an escaped line
break ended them. -/
def word (single : Bool) : Nat → List Char → Cursor → Except Fault (List Char × Bool × Cursor)
  | 0, acc, c => .ok (acc, false, c)
  | fuel + 1, acc, c =>
    let d := c.peek
    if isSpaceBreakOrEnd d then .ok (acc, false, c)
    else if single && d == '\'' then
      if c.ahead 1 == '\'' then word single fuel ('\'' :: acc) (c.advance 2)
      else .ok (acc, false, c)
    else if !single && d == '"' then .ok (acc, false, c)
    else if !single && d == '\\' then
      if isBreak (c.ahead 1) then .ok (acc, true, (c.advance 1).skipBreak)
      else
        match escape c with
        | .ok (e, c) => word single fuel (e :: acc) c
        | .error e => .error e
    else word single fuel (d :: acc) (c.advance 1)

/-- The blanks and breaks between two words. `broken` says whether a break came already. -/
def between (indent : Int) : Nat → Bool → Breaks → List Char → Cursor →
    Except Fault (Bool × Breaks × List Char × Cursor)
  | 0, broken, breaks, spaces, c => .ok (broken, breaks, spaces, c)
  | fuel + 1, broken, breaks, spaces, c =>
    let d := c.peek
    if isSpace d then
      if broken then
        if d == '\t' && (c.column : Int) < indent then .error .tabIndentation
        else between indent fuel broken breaks spaces (c.skipSpaces 1)
      else between indent fuel broken breaks (d :: spaces) (c.skipSpaces 1)
    else if isBreak d then
      if broken then
        between indent fuel true { breaks with more := breaks.more + 1 } spaces c.skipBreak
      else between indent fuel true { breaks with first := true } [] c.skipBreak
    else .ok (broken, breaks, spaces, c)

/-- The body of a quoted text up to its closing quote; the text is collected in reverse. -/
def body (single : Bool) (indent : Int) : Nat → List Char → Cursor →
    Except Fault (List Char × Cursor)
  | 0, _, _ => .error .unclosedQuote
  | fuel + 1, acc, c => do
    if c.atDocumentBoundary then throw .indicatorInQuote
    if isEnd c.peek then throw .unclosedQuote
    if (c.column : Int) < indent then throw .badIndentation
    let (acc, broken, c) ← word single (c.rest.length + 1) acc c
    if (single && c.peek == '\'') || (!single && c.peek == '"') then return (acc, c)
    let (broken, breaks, spaces, c) ← between indent (c.rest.length + 1) broken ⟨false, 0⟩ [] c
    let joined := if broken then breaks.folded.reverse else spaces
    body single indent fuel (joined ++ acc) c

/-- A quoted text at its opening quote. What follows it on the line must be able to follow it. -/
def read (single : Bool) (indent : Int) (inFlow : Bool) (c : Cursor) :
    Except Fault (String × Cursor) := do
  let line := c.line
  let c := c.advance 1
  let (acc, c) ← body single indent (c.rest.length + 1) [] c
  let (_, c) ← (c.advance 1).skipGap true
  let d := c.peek
  let fine := isBreakOrEnd d ||
    (inFlow && (d == ',' || d == '\x7d' || d == ']' || d == ':')) ||
    (!inFlow && d == ':' && line == c.line)
  if fine then return (String.ofList acc.reverse, c) else throw .contentAfterQuote

end Quote

namespace Plain

/-- Whether the next character, not a blank, continues a plain text. -/
def continues (inFlow : Bool) (c : Cursor) : Bool :=
  let d := c.peek
  let next := c.ahead 1
  if d == ':' && (isSpaceBreakOrEnd next || (inFlow && isFlowIndicator next)) then false
  else !(inFlow && isFlowIndicator d)

/-- The characters of a plain text up to a blank or its end. -/
def word (inFlow : Bool) : Nat → List Char → Cursor → List Char × Cursor
  | 0, acc, c => (acc, c)
  | fuel + 1, acc, c =>
    if !isSpaceBreakOrEnd c.peek && continues inFlow c then
      word inFlow fuel (c.peek :: acc) (c.advance 1)
    else (acc, c)

/-- The blanks and breaks after a word. -/
def between (indent : Int) : Nat → Breaks → List Char → Cursor →
    Except Fault (Breaks × List Char × Cursor)
  | 0, breaks, spaces, c => .ok (breaks, spaces, c)
  | fuel + 1, breaks, spaces, c =>
    let d := c.peek
    if isSpace d then
      if !c.fresh then between indent fuel breaks (d :: spaces) (c.skipSpaces 1)
      else if (c.column : Int) < indent && d == '\t' then
        match c.skipGap true with
        | .error e => .error e
        | .ok (_, c) =>
          if isBreakOrEnd c.peek then between indent fuel breaks spaces c
          else .error .tabIndentation
      else between indent fuel breaks spaces (c.skipSpaces 1)
    else if isBreak d then
      if c.fresh then between indent fuel { breaks with more := breaks.more + 1 } spaces c.skipBreak
      else between indent fuel { breaks with first := true } [] c.skipBreak
    else .ok (breaks, spaces, c)

/-- A plain text from here on, collected in reverse. `breaks` and `spaces` were passed over before. -/
def body (inFlow : Bool) (indent : Int) : Nat → List Char → Breaks → List Char → Cursor →
    Except Fault (List Char × Cursor)
  | 0, acc, _, _, c => .ok (acc, c)
  | fuel + 1, acc, breaks, spaces, c => do
    if c.atDocumentBoundary || c.peek == '#' then return (acc, c)
    if inFlow && c.peek == '-' && isFlowIndicator (c.ahead 1) then
      throw (.unexpectedChar '-')
    let starts := !isSpaceBreakOrEnd c.peek && continues inFlow c
    let (acc, breaks, spaces, c) :=
      if starts then
        let joined := if c.fresh then breaks.folded.reverse else spaces
        let (acc, c) := word inFlow (c.rest.length + 1) (joined ++ acc) c
        (acc, ⟨false, 0⟩, [], c)
      else (acc, breaks, spaces, c)
    if !(isSpace c.peek || isBreak c.peek) then return (acc, c)
    let (breaks, spaces, c) ← between indent (c.rest.length + 1) breaks spaces c
    if !inFlow && (c.column : Int) < indent then return (acc, c)
    body inFlow indent fuel acc breaks spaces c

/-- A plain text at its first character; its lines are indented by at least `indent`. -/
def read (inFlow : Bool) (indent : Int) (c : Cursor) : Except Fault (String × Cursor) := do
  if inFlow && (c.column : Int) < indent then throw .badIndentation
  let (acc, c) ← body inFlow indent (c.rest.length + 2) [] ⟨false, 0⟩ [] c
  if acc.isEmpty then throw .emptyPlain
  return (String.ofList acc.reverse, c)

end Plain

namespace Block

/-- What becomes of the line breaks at the end of a block. -/
inductive Chomping where
  | clip
  | strip
  | keep
deriving DecidableEq, Repr

/-- The chomping that an indicator asks for. -/
def chomping? : Char → Option Chomping
  | '+' => some .keep
  | '-' => some .strip
  | _ => none

/-- An indentation of one to nine columns; zero if none is given. -/
def width (c : Cursor) : Except Fault (Nat × Cursor) :=
  let d := c.peek
  if isAsciiDigit d then
    if d == '0' then .error .badBlockHeader else .ok (d.toNat - 48, c.advance 1)
  else .ok (0, c)

/-- The indicators after the block character, in either order. -/
def header (c : Cursor) : Except Fault (Chomping × Nat × Cursor) := do
  match chomping? c.peek with
  | some ch =>
    let (n, c) ← width (c.advance 1)
    return (ch, n, c)
  | none =>
    let (n, c) ← width c
    if n = 0 then return (.clip, 0, c)
    match chomping? c.peek with
    | some ch => return (ch, n, c.advance 1)
    | none => return (.clip, n, c)

/-- Pass over spaces up to column `indent`. -/
def skipIndent (indent : Nat) (c : Cursor) : Cursor :=
  let spaces := c.rest.takeWhile (· == ' ')
  c.skipSpaces (min spaces.length (indent - c.column))

/-- Pass over empty lines and the indentation of the next line; counts the breaks. -/
def emptyLines (indent : Nat) : Nat → Nat → Cursor → Nat × Cursor
  | 0, breaks, c => (breaks, c)
  | fuel + 1, breaks, c =>
    let c := skipIndent indent c
    if isBreak c.peek then emptyLines indent fuel (breaks + 1) c.skipBreak else (breaks, c)

/-- Pass over empty lines before the first line that is not, and find the widest indentation. -/
def firstLines : Nat → Nat → Nat → Cursor → Nat × Nat × Cursor
  | 0, widest, breaks, c => (widest, breaks, c)
  | fuel + 1, widest, breaks, c =>
    let c := c.skipSpaces (c.rest.takeWhile (· == ' ')).length
    let widest := max widest c.column
    if isBreak c.peek then firstLines fuel widest (breaks + 1) c.skipBreak
    else (widest, breaks, c)

/-- What has been read of a block: the text in reverse and the breaks after it. -/
structure Progress where
  text : List Char
  /-- Whether the last line read ended with a break. -/
  lineEnded : Bool
  /-- Empty lines after it. -/
  empty : Nat
  /-- Whether the last line started with a blank, which keeps the breaks around it. -/
  indentedMore : Bool

/-- The lines of a block. -/
def lines (literal : Bool) (indent : Nat) : Nat → Progress → Cursor → Progress × Cursor
  | 0, p, c => (p, c)
  | fuel + 1, p, c =>
    if c.column ≠ indent || isEnd c.peek then (p, c)
    else if indent = 0 && c.isIndicator '.' then (p, c)
    else
      let blank := isSpace c.peek
      let breaks : List Char :=
        if !literal && p.lineEnded && !p.indentedMore && !blank then
          if p.empty = 0 then [' '] else List.replicate p.empty '\n'
        else List.replicate ((if p.lineEnded then 1 else 0) + p.empty) '\n'
      let (content, c) := c.takeWhile fun d => !isBreakOrEnd d
      let text := content.reverse ++ breaks ++ p.text
      if isEnd c.peek then (⟨text, false, 0, blank⟩, c)
      else
        let c := c.skipBreak
        let (empty, c) := emptyLines indent (c.rest.length + 1) 0 c
        lines literal indent fuel ⟨text, true, empty, blank⟩ c

/-- The text of a block that ends with the stream before any content. -/
def withoutContent (ch : Chomping) (sameLine : Bool) (broken : Bool) (empty : Nat) : List Char :=
  let first := if broken then ['\n'] else []
  match ch with
  | .strip => []
  | .clip => if sameLine then [] else first
  | .keep =>
    if sameLine then [] else if empty = 0 then first else List.replicate empty '\n'

/-- A block text at its block character. `indent` is the indentation of the node that holds it. -/
def read (literal : Bool) (indent : Int) (c : Cursor) : Except Fault (String × Cursor) := do
  let line := c.line
  let (ch, increment, c) ← header (c.advance 1)
  let (_, c) ← c.skipGap true
  if !isBreakOrEnd c.peek then throw .badBlockHeader
  let broken := isBreak c.peek
  let c := c.skipBreak
  if c.peek == '\t' then throw .tabIndentation
  let fixed : Nat :=
    if increment = 0 then 0
    else if 0 ≤ indent then (indent + increment).toNat else increment
  let (columns, empty, c) :=
    if fixed = 0 then
      let (widest, empty, c) := firstLines (c.rest.length + 1) 0 0 c
      let least := max widest (indent + 1).toNat
      (if 0 < indent then max least 1 else least, empty, c)
    else
      let (empty, c) := emptyLines fixed (c.rest.length + 1) 0 c
      (fixed, empty, c)
  if isEnd c.peek then
    return (String.ofList (withoutContent ch (c.line == line) broken empty), c)
  if c.column < columns && indent < (c.column : Int) then throw .badBlockIndentation
  let (p, c) := lines literal columns (c.rest.length + 1) ⟨[], false, empty, false⟩ c
  let ended : List Char :=
    if ch = .strip then []
    else
      (if p.lineEnded then ['\n'] else []) ++
        (if isEnd c.peek && max columns 1 ≤ c.column then ['\n'] else [])
  let kept := if ch = .keep then List.replicate p.empty '\n' else []
  return (String.ofList (p.text.reverse ++ ended ++ kept), c)

end Block
end Provision.Yaml

import Provision.Yaml.Error

/-!
A place in a stream of YAML: the unread text with the line and column that it starts at, and the
character classes of the format.
-/

namespace Provision.Yaml

/-- The character that stands for the end of the text. -/
def endChar : Char := '\x00'

def isEnd (c : Char) : Bool := c == endChar

def isBreak (c : Char) : Bool := c == '\n' || c == '\r'

def isBreakOrEnd (c : Char) : Bool := isBreak c || isEnd c

def isSpace (c : Char) : Bool := c == ' ' || c == '\t'

def isSpaceBreakOrEnd (c : Char) : Bool := isSpace c || isBreakOrEnd c

/-- The brackets and the comma of flow collections. -/
def isFlowIndicator (c : Char) : Bool :=
  c == ',' || c == '[' || c == ']' || c == '\x7b' || c == '\x7d'

def isAsciiDigit (c : Char) : Bool := '0' ≤ c && c ≤ '9'

def isAsciiAlnum (c : Char) : Bool :=
  isAsciiDigit c || ('a' ≤ c && c ≤ 'z') || ('A' ≤ c && c ≤ 'Z')

/-- The characters of handles and directive names. -/
def isNameChar (c : Char) : Bool := isAsciiAlnum c || c == '_' || c == '-'

def isUriChar (c : Char) : Bool :=
  isAsciiAlnum c || c == '-' || "#;/?:@&=+$,_.!~*'()[]%".toList.contains c

/-- The characters of a tag after its handle. -/
def isTagChar (c : Char) : Bool := isUriChar c && !isFlowIndicator c && c != '!'

/-- The characters of anchor names. -/
def isAnchorChar (c : Char) : Bool :=
  !isSpaceBreakOrEnd c && c != '\uFEFF' && !isFlowIndicator c

def isHex (c : Char) : Bool :=
  isAsciiDigit c || ('a' ≤ c && c ≤ 'f') || ('A' ≤ c && c ≤ 'F')

def hexValue (c : Char) : Nat :=
  if isAsciiDigit c then c.toNat - 48
  else if 'a' ≤ c then c.toNat - 87
  else c.toNat - 55

/-- A place in the stream. -/
structure Cursor where
  rest : List Char
  index : Nat
  line : Nat
  column : Nat
  /-- Whether only blanks stand before this place on its line. -/
  fresh : Bool
deriving Repr, Inhabited

namespace Cursor

/-- The start of a text, which ends before its first null character. -/
def start (text : List Char) : Cursor :=
  ⟨text.takeWhile fun c => !isEnd c, 0, 1, 0, true⟩

/-- The character `n` places ahead. -/
def ahead (c : Cursor) (n : Nat) : Char := (c.rest.drop n).headD endChar

/-- The next character. -/
def peek (c : Cursor) : Char := c.rest.headD endChar

/-- Pass over `n` characters of a line that are not blank. -/
def advance (c : Cursor) (n : Nat) : Cursor :=
  { c with rest := c.rest.drop n, index := c.index + n, column := c.column + n, fresh := false }

/-- Pass over `n` blanks of a line. -/
def skipSpaces (c : Cursor) (n : Nat) : Cursor :=
  { c with rest := c.rest.drop n, index := c.index + n, column := c.column + n }

/-- Pass over a line break; a carriage return and a line feed form one. -/
def skipBreak (c : Cursor) : Cursor :=
  match c.rest with
  | '\r' :: '\n' :: rest => ⟨rest, c.index + 2, c.line + 1, 0, true⟩
  | d :: rest => if isBreak d then ⟨rest, c.index + 1, c.line + 1, 0, true⟩ else c
  | [] => c

/-- The characters ahead that satisfy `p`, and the place after them. -/
def takeWhile (c : Cursor) (p : Char → Bool) : List Char × Cursor :=
  let taken := c.rest.takeWhile p
  (taken, if taken.isEmpty then c else c.advance taken.length)

/-- Pass over the rest of the line, such as a comment. -/
def skipLine (c : Cursor) : Cursor :=
  (c.takeWhile fun d => !isBreakOrEnd d).2

/-- Whether three equal characters of a document indicator stand here, and nothing beside them. -/
def isIndicator (c : Cursor) (d : Char) : Bool :=
  c.peek == d && c.ahead 1 == d && c.ahead 2 == d && isSpaceBreakOrEnd (c.ahead 3)

/-- Whether a document starts or ends on this line. -/
def atDocumentBoundary (c : Cursor) : Bool :=
  c.column == 0 && (c.isIndicator '-' || c.isIndicator '.')

/-- What lay between a token and the rest of its line. -/
structure Gap where
  tab : Bool
  space : Bool

/-- Pass over spaces, tabs if they are allowed, and a comment, which needs a blank before it. -/
def skipGap (tabs : Bool) (c : Cursor) : Except Fault (Gap × Cursor) :=
  let blanks := c.rest.takeWhile fun d => d == ' ' || (tabs && d == '\t')
  let gap : Gap := ⟨blanks.contains '\t', blanks.contains ' '⟩
  let c := c.skipSpaces blanks.length
  if c.peek == '#' then
    if blanks.isEmpty then .error .commentNotSeparated else .ok (gap, c.skipLine)
  else .ok (gap, c)

end Cursor
end Provision.Yaml

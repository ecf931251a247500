import Provision.Template.Value
import Provision.Text.Blank

/-!
Templates as tokens. Text outside of braces is data; between double braces stands an expression, between
braces with percent signs a statement, and between braces with hashes a comment. A hyphen at a brace
removes the blanks beyond it.

A fault ends the tokens, so that it counts only if the reader of the tokens gets that far.
-/

namespace Provision.Template

/-- A token without its place. -/
inductive TokenKind where
  | data (s : String)
  | expressionStart
  | expressionEnd
  | statementStart
  | statementEnd
  | name (s : String)
  | text (s : String)
  | int (n : Nat)
  | float (x : Binary64)
  | sign (s : String)
  | fault (e : Error)
deriving Repr

/-- A token and the line on which it starts. -/
structure Token where
  kind : TokenKind
  line : Nat
deriving Repr

/-- The template is not well formed. -/
def malformed (detail : String) : Error := .of .syntaxFault detail

namespace Token

/-- What a mark at a brace asks for. -/
inductive Edge where
  | plain
  | remove
  | keep
deriving DecidableEq, Repr

def edgeOf : List Char → Edge
  | '-' :: _ => .remove
  | '+' :: _ => .keep
  | _ => .plain

/-- What follows a mark at a brace. -/
def dropEdge : List Char → List Char
  | '-' :: rest => rest
  | '+' :: rest => rest
  | s => s

/-- The line after some text. -/
def lineAfter (line : Nat) (s : List Char) : Nat := line + s.count '\n'

/-- Blanks that separate tokens. -/
def isSpace (c : Char) : Bool :=
  c = ' ' || c = '\t' || c = '\n' || c = '\r' || c = '\x0c'

def isNameStart (c : Char) : Bool := c.isAlpha || c = '_'

def isNameChar (c : Char) : Bool := c.isAlphanum || c = '_'

/-- The text up to a mark, and what follows the mark. -/
def splitAtMark (mark : List Char) : List Char → Option (List Char × List Char)
  | [] => none
  | c :: rest =>
    if mark.isPrefixOf (c :: rest) then some ([], (c :: rest).drop mark.length)
    else (splitAtMark mark rest).map fun (before, after) => (c :: before, after)

/-- The data up to a brace that opens something, and what follows that brace. -/
def splitAtBrace : List Char → List Char × List Char
  | [] => ([], [])
  | '{' :: c :: rest =>
    if c = '{' || c = '%' || c = '#' then ([], '{' :: c :: rest)
    else
      let (data, rest) := splitAtBrace (c :: rest)
      ('{' :: data, rest)
  | c :: rest =>
    let (data, rest) := splitAtBrace rest
    (c :: data, rest)

/-- A statement that is a word alone, up to its end: the mark at the end, and what follows. -/
def bareStatement? (word : List Char) (s : List Char) : Option (Edge × List Char) :=
  let s := s.dropWhile isSpace
  if word.isPrefixOf s then
    let s := (s.drop word.length).dropWhile isSpace
    match dropEdge s with
    | '%' :: '}' :: rest => some (edgeOf s, rest)
    | _ => none
  else none

/-- Text that is not to be read, up to the statement that ends it: the text, the marks on both sides of that
statement, and what follows. -/
def splitAtRawEnd : List Char → Option (List Char × Edge × Edge × List Char)
  | [] => none
  | '{' :: '%' :: s =>
    match bareStatement? "endraw".toList (dropEdge s) with
    | some (last, rest) => some ([], edgeOf s, last, rest)
    | none => (splitAtRawEnd s).map fun (text, e) => ('{' :: '%' :: text, e)
  | c :: s => (splitAtRawEnd s).map fun (text, e) => (c :: text, e)

/-! ### Texts -/

/-- The inside of a quoted text, escapes as written, and what follows the closing quote. -/
def splitAtQuote (quote : Char) : List Char → Option (List Char × List Char)
  | [] => none
  | ['\\'] => none
  | '\\' :: c :: rest => (splitAtQuote quote rest).map fun (s, rest) => ('\\' :: c :: s, rest)
  | c :: rest =>
    if c = quote then some ([], rest)
    else (splitAtQuote quote rest).map fun (s, rest) => (c :: s, rest)

def hexValue? (c : Char) : Option Nat :=
  if '0' ≤ c && c ≤ '9' then some (c.toNat - 48)
  else if 'a' ≤ c && c ≤ 'f' then some (c.toNat - 87)
  else if 'A' ≤ c && c ≤ 'F' then some (c.toNat - 55)
  else none

/-- The number that digits of a base spell. -/
def numeral? (base : Nat) (ds : List Char) : Option Nat :=
  if ds.isEmpty then none
  else ds.foldlM (fun n c => (hexValue? c).bind fun v => if v < base then some (n * base + v) else none) 0

/-- Sixteen bits in four places; the first may be a plus sign. -/
def codeUnit? (ds : List Char) : Option Nat :=
  match ds with
  | '+' :: rest => numeral? 16 rest
  | ds => numeral? 16 ds

def isSurrogate (n : Nat) : Bool := 0xD800 ≤ n && n ≤ 0xDFFF

/-- The text that escapes stand for; `high` is the first half of a pair whose second half is due. -/
def unescape : Nat → Option Nat → List Char → Option (List Char)
  | 0, _, _ => none
  | _, none, [] => some []
  | _, some _, [] => none
  | fuel + 1, high, '\\' :: 'u' :: rest => do
    let n ← if rest.length < 4 then none else codeUnit? (rest.take 4)
    let rest := rest.drop 4
    match high, isSurrogate n with
    | none, false => (unescape fuel none rest).map (Char.ofNat n :: ·)
    | none, true => unescape fuel (some n) rest
    | some h, true =>
      if h < 0xDC00 && 0xDC00 ≤ n then
        (unescape fuel none rest).map (Char.ofNat (0x10000 + (h - 0xD800) * 0x400 + (n - 0xDC00)) :: ·)
      else none
    | some _, false => none
  | fuel + 1, none, '\\' :: c :: rest => do
    let d ← match c with
      | '"' => some '"'
      | '\\' => some '\\'
      | '/' => some '/'
      | '\'' => some '\''
      | 'b' => some '\x08'
      | 'f' => some '\x0c'
      | 'n' => some '\n'
      | 'r' => some '\r'
      | 't' => some '\t'
      | _ => none
    (unescape fuel none rest).map (d :: ·)
  | _, none, ['\\'] => none
  | fuel + 1, none, c :: rest => (unescape fuel none rest).map (c :: ·)
  | _, some _, _ => none

/-! ### Numbers -/

/-- The part of a number that is being read. -/
inductive NumberPart where
  | whole
  | fraction
  | exponentStart
  | exponent
deriving DecidableEq

/-- The characters of a decimal number, which part they end in, and what follows. -/
def takeDecimal : NumberPart → List Char → List Char × NumberPart × List Char
  | part, [] => ([], part, [])
  | part, c :: rest =>
    let next? : Option NumberPart :=
      if c = '.' && part = .whole then some .fraction
      else if (c = 'e' || c = 'E') && (part = .whole || part = .fraction) then some .exponentStart
      else if (c = '+' || c = '-') && part = .exponentStart then some .exponent
      else if isDigit c then some (if part = .exponentStart then .exponent else part)
      else if c = '_' then some part
      else none
    match next? with
    | some next =>
      let (ds, last, rest) := takeDecimal next rest
      (c :: ds, last, rest)
    | none => ([], part, c :: rest)

/-- The base that a number's first two characters name, and what follows them. -/
def baseOf? : List Char → Option (Nat × List Char)
  | '0' :: c :: rest =>
    if c = 'b' || c = 'B' then some (2, rest)
    else if c = 'o' || c = 'O' then some (8, rest)
    else if c = 'x' || c = 'X' then some (16, rest)
    else none
  | _ => none

/-- A whole number of at most 128 bits. -/
def intToken (base : Nat) (ds : List Char) : TokenKind :=
  match numeral? base ds with
  | some n => if n < Nat.pow 2 128 then .int n else .fault (malformed "invalid integer (too large)")
  | none => .fault (malformed "invalid integer")

/-- A number and what follows it. -/
def takeNumber (s : List Char) : TokenKind × List Char :=
  match baseOf? s with
  | some (base, s) =>
    let inside (c : Char) : Bool := isDigit c || c = '_' || (base = 16 && (hexValue? c).isSome)
    (finish (intToken base) (s.takeWhile inside), s.dropWhile inside)
  | none =>
    let (ds, part, rest) := takeDecimal .whole s
    if part = .whole then (finish (intToken 10) ds, rest)
    else (finish floatToken ds, rest)
where
  floatToken (ds : List Char) : TokenKind :=
    match Binary64.read? ds with
    | some x => .float x
    | none => .fault (malformed "invalid float")
  /-- Underscores may stand anywhere but at the end. -/
  finish (make : List Char → TokenKind) (ds : List Char) : TokenKind :=
    if ds.getLast? = some '_' then .fault (malformed "underscore at the end of a number")
    else make (ds.filter (· ≠ '_'))

/-! ### Tokens -/

/-- Signs of two characters and of one. -/
def longSigns : List String := ["//", "**", "==", "!=", ">=", "<="]
def shortSigns : List Char := "+-*/%.,:~|=><()[]{}".toList

/-- How a sign changes the number of brackets that are open. -/
def bracketChange (c : Char) : Int :=
  if c = '(' || c = '[' || c = '{' then 1
  else if c = ')' || c = ']' || c = '}' then -1
  else 0

/-- A quoted text whose opening quote is gone: its kind, how many lines it ends, and what follows it. -/
def takeText (quote : Char) (s : List Char) : TokenKind × Nat × List Char :=
  match splitAtQuote quote s with
  | none => (.fault (malformed "unexpected end of string"), 0, [])
  | some (inside, rest) =>
    match unescape (inside.length + 1) none inside with
    | some t => (.text (String.ofList t), inside.count '\n', rest)
    | none => (.fault ⟨.badEscape, none, none⟩, 0, [])

/-- The token at the start of some text: its kind, how many lines it ends, and what follows it. -/
def takeInner (s : List Char) : TokenKind × Nat × List Char :=
  match longSigns.find? fun l => l.toList.isPrefixOf s with
  | some l => (.sign l, 0, s.drop 2)
  | none =>
    match s with
    | [] => (.fault (malformed "unexpected end"), 0, [])
    | c :: rest =>
      if shortSigns.contains c then (.sign (String.ofList [c]), 0, rest)
      else if c = '\'' || c = '"' then takeText c rest
      else if isDigit c then
        let (kind, rest) := takeNumber s
        (kind, 0, rest)
      else if isNameStart c then
        (.name (String.ofList (s.takeWhile isNameChar)), 0, s.dropWhile isNameChar)
      else (.fault (malformed "unexpected character"), 0, [])

/-- Where the reader of characters stands. -/
inductive Place where
  /-- Outside of braces, with blanks to be removed or not. -/
  | outside (trim : Bool)
  /-- Inside of braces, with so many brackets open. -/
  | inside (statement : Bool) (openBrackets : Int)

/-- The end of an expression or a statement: its mark, and what follows it. -/
def innerEnd? (statement : Bool) (s : List Char) : Option (Edge × List Char) :=
  match statement, dropEdge s with
  | true, '%' :: '}' :: rest => some (edgeOf s, rest)
  | false, '}' :: '}' :: rest => some (edgeOf s, rest)
  | _, _ => none

/-- A data token, unless it is empty. -/
def dataToken (line : Nat) (s : List Char) : List Token :=
  if s.isEmpty then [] else [⟨.data (String.ofList s), line⟩]

/-- The tokens of the text from a line on. -/
def scan : Nat → Place → Nat → List Char → List Token
  | 0, _, _, _ => []
  | _, .outside _, _, [] => []
  | fuel + 1, .outside trim, line, s =>
    let kept := if trim then trimLeft s else s
    let line := if trim then lineAfter line (s.takeWhile isBlank) else line
    let (data, rest) := splitAtBrace kept
    let next := lineAfter line data
    match rest with
    | '{' :: kind :: inner =>
      let shown := if edgeOf inner = .remove then trimRight data else data
      let after := dropEdge inner
      let here := dataToken line shown
      if kind = '#' then
        match splitAtMark ['#', '}'] after with
        | some (comment, rest) =>
          here ++ scan fuel (.outside (comment.getLast? = some '-')) (lineAfter next comment) rest
        | none => here ++ [⟨.fault (malformed "unexpected end of comment"), next⟩]
      else if kind = '{' then
        here ++ ⟨.expressionStart, next⟩ :: scan fuel (.inside false 0) next after
      else
        match bareStatement? "raw".toList after with
        | none => here ++ ⟨.statementStart, next⟩ :: scan fuel (.inside true 0) next after
        | some (first, body) =>
          let bodyLine := next + (after.count '\n' - body.count '\n')
          match splitAtRawEnd body with
          | none => here ++ [⟨.fault (malformed "unexpected end of raw block"), next⟩]
          | some (text, left, right, rest) =>
            let text' := if first = .remove then trimLeft text else text
            let text' := if left = .remove then trimRight text' else text'
            here ++ dataToken bodyLine text' ++
              scan fuel (.outside (right = .remove))
                (bodyLine + (body.count '\n' - rest.count '\n')) rest
    | _ => dataToken line data
  | fuel + 1, .inside statement brackets, line, s =>
    let start := s.dropWhile isSpace
    let line := lineAfter line (s.takeWhile isSpace)
    if start.isEmpty then []
    else
      match if brackets = 0 then innerEnd? statement start else none with
      | some (edge, rest) =>
        ⟨if statement then .statementEnd else .expressionEnd, line⟩ ::
          scan fuel (.outside (edge = .remove)) line rest
      | none =>
        match takeInner start with
        | (.fault e, _) => [⟨.fault e, line⟩]
        | (kind, lines, rest) =>
          let change := match kind, start with
            | .sign _, c :: _ => bracketChange c
            | _, _ => 0
          ⟨kind, line⟩ :: scan fuel (.inside statement (brackets + change))
            (line + lines) rest

/-- The tokens of a template. -/
def ofTemplate (s : String) : List Token :=
  let cs := s.toList
  scan (2 * cs.length + 2) (.outside false) 1 cs

end Token
end Provision.Template

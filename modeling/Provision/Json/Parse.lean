import Provision.Binary64.Decimal
import Provision.Json.Print

/-!
Reading JSON text. A failure names its cause and the place in the text, counted in lines and in bytes
of the line.
-/

namespace Provision.Json

/-- Why a text is not JSON. -/
inductive Malformed where
  | endInList
  | endInObject
  | endInString
  | endInValue
  | expectedColon
  | expectedListCommaOrEnd
  | expectedObjectCommaOrEnd
  | expectedIdent
  | expectedValue
  | invalidEscape
  | invalidNumber
  | numberOutOfRange
  | controlCharacter
  | keyNotString
  | loneSurrogate
  | trailingComma
  | trailingCharacters
  | endOfHexEscape
  | recursionLimit
deriving DecidableEq, Repr

def Malformed.message : Malformed → String
  | endInList => "EOF while parsing a list"
  | endInObject => "EOF while parsing an object"
  | endInString => "EOF while parsing a string"
  | endInValue => "EOF while parsing a value"
  | expectedColon => "expected `:`"
  | expectedListCommaOrEnd => "expected `,` or `]`"
  | expectedObjectCommaOrEnd => "expected `,` or `\x7d`"
  | expectedIdent => "expected ident"
  | expectedValue => "expected value"
  | invalidEscape => "invalid escape"
  | invalidNumber => "invalid number"
  | numberOutOfRange => "number out of range"
  | controlCharacter => "control character (\\u0000-\\u001F) found while parsing a string"
  | keyNotString => "key must be a string"
  | loneSurrogate => "lone leading surrogate in hex escape"
  | trailingComma => "trailing comma"
  | trailingCharacters => "trailing characters"
  | endOfHexEscape => "unexpected end of hex escape"
  | recursionLimit => "recursion limit exceeded"

/-- A cause together with the text that had not been read when it arose. -/
structure ParseError where
  cause : Malformed
  unread : List Char
deriving Repr

/-- A parser step: a value and the unread rest. -/
abbrev Parsed (α : Type) := Except ParseError (α × List Char)

def fail {α : Type} (cause : Malformed) (unread : List Char) : Except ParseError α :=
  .error ⟨cause, unread⟩

/-- A failure at the next character, which is counted as read. -/
def failAt {α : Type} (cause : Malformed) (unread : List Char) : Except ParseError α :=
  .error ⟨cause, unread.drop 1⟩

/-- The line and the byte in that line up to which a text was read. -/
def location (text unread : List Char) : Nat × Nat :=
  let read := text.take (text.length - unread.length)
  let last := (read.reverse.takeWhile (· ≠ '\n'))
  (read.count '\n' + 1, last.foldl (fun n c => n + c.utf8Size) 0)

/-- The blanks between JSON tokens. -/
def isJsonBlank (c : Char) : Bool :=
  c == ' ' || c == '\n' || c == '\t' || c == '\r'

def skipBlanks (s : List Char) : List Char := s.dropWhile isJsonBlank

/-- Read the rest of a word. -/
def readWord (value : Json) : List Char → List Char → Parsed Json
  | [], s => .ok (value, s)
  | _ :: _, [] => fail .endInValue []
  | c :: cs, d :: s => if c = d then readWord value cs s else fail .expectedIdent s

/-- The value of a hexadecimal digit. -/
def hexValue? (c : Char) : Option Nat :=
  if '0' ≤ c ∧ c ≤ '9' then some (c.toNat - 48)
  else if 'a' ≤ c ∧ c ≤ 'f' then some (c.toNat - 87)
  else if 'A' ≤ c ∧ c ≤ 'F' then some (c.toNat - 55)
  else none

/-- Four hexadecimal digits. -/
def readHex4 : List Char → Parsed Nat
  | a :: b :: c :: d :: s =>
    match hexValue? a, hexValue? b, hexValue? c, hexValue? d with
    | some a, some b, some c, some d => .ok (((a * 16 + b) * 16 + c) * 16 + d, s)
    | _, _, _, _ => fail .invalidEscape s
  | _ => fail .endInString []

/-- The character of a `\u` escape: one unit, or a leading and a trailing surrogate. -/
def readUnicodeEscape (s : List Char) : Except ParseError (Char × List Char) := do
  let (first, s) ← readHex4 s
  if 0xDC00 ≤ first ∧ first ≤ 0xDFFF then fail .loneSurrogate s
  else if 0xD800 ≤ first ∧ first ≤ 0xDBFF then
    match s with
    | '\\' :: 'u' :: s => do
      let (second, s) ← readHex4 s
      if 0xDC00 ≤ second ∧ second ≤ 0xDFFF then
        .ok (Char.ofNat ((first - 0xD800) * 0x400 + (second - 0xDC00) + 0x10000), s)
      else fail .loneSurrogate s
    | '\\' :: _ :: s => fail .endOfHexEscape s
    | ['\\'] => fail .endInString []
    | _ :: s => fail .endOfHexEscape s
    | [] => fail .endInString []
  else .ok (Char.ofNat first, s)

/-- What a string's body is cut into: the end, a plain character, or an escape. -/
def parseStringBody : Nat → List Char → List Char → Parsed String
  | 0, _, s => fail .endInString s
  | _ + 1, _, [] => fail .endInString []
  | fuel + 1, acc, c :: s =>
    if c = '"' then .ok (String.ofList acc.reverse, s)
    else if c = '\\' then
      match s with
      | [] => fail .endInString []
      | e :: s =>
        match e with
        | '"' => parseStringBody fuel ('"' :: acc) s
        | '\\' => parseStringBody fuel ('\\' :: acc) s
        | '/' => parseStringBody fuel ('/' :: acc) s
        | 'b' => parseStringBody fuel ('\x08' :: acc) s
        | 'f' => parseStringBody fuel ('\x0c' :: acc) s
        | 'n' => parseStringBody fuel ('\n' :: acc) s
        | 'r' => parseStringBody fuel ('\r' :: acc) s
        | 't' => parseStringBody fuel ('\t' :: acc) s
        | 'u' =>
          match readUnicodeEscape s with
          | .ok (ch, s) => parseStringBody fuel (ch :: acc) s
          | .error e => .error e
        | _ => fail .invalidEscape s
    else if c.toNat < 0x20 then fail .controlCharacter s
    else parseStringBody fuel (c :: acc) s

/-- A string after its opening quote. -/
def parseString (s : List Char) : Parsed String := parseStringBody (s.length + 1) [] s

/-- A decimal scaled in one step: the digits rounded to a number, then multiplied or divided by a
rounded power of ten. Exponents beyond 308 take several steps. -/
def scaled : Nat → Binary64 → Int → Option Binary64
  | 0, x, _ => some x
  | fuel + 1, x, e =>
    if e.natAbs ≤ 308 then
      let power := Binary64.ofRatio false (Nat.pow 10 e.natAbs) 1
      if 0 ≤ e then
        let y := x.mul power
        if y.isInfinite then none else some y
      else some (x.div power)
    else if x.body = 0 then some x
    else if 0 ≤ e then none
    else scaled fuel (x.div (Binary64.ofRatio false (Nat.pow 10 308) 1)) (e + 308)

/-- Take digits into a 64-bit whole number while it has room: the number, how many were taken, and
the digits that found no room. -/
def takeInto : Nat → Nat → List Char → Nat × Nat × List Char
  | n, count, [] => (n, count, [])
  | n, count, d :: ds =>
    let next := n * 10 + decimalValue d
    if next < Nat.pow 2 64 then takeInto next (count + 1) ds else (n, count, d :: ds)

/-- The value of a number from its parts; `none` if it is out of range. -/
def numberOf (negative : Bool) (whole : List Char) (fraction : Option (List Char))
    (exponent : Option Int) : Option Json :=
  let (n, _, dropped) := takeInto 0 0 whole
  let sign := fun (x : Binary64) => if negative then x.neg else x
  if fraction.isNone && exponent.isNone && dropped.isEmpty then
    if !negative then some (int n)
    else if n = 0 || Nat.pow 2 63 < n then some (float (sign (Binary64.ofInt n)))
    else some (int (-n))
  else
    let (n, taken, _) :=
      if dropped.isEmpty then takeInto n 0 (fraction.getD []) else (n, 0, [])
    let e : Int := (dropped.length : Int) - taken
    let written := exponent.getD 0
    -- An exponent too large for 32 bits decides the value by itself.
    if Nat.pow 2 31 ≤ written.natAbs then
      if n ≠ 0 ∧ 0 < written then none else some (float (sign Binary64.zero))
    else (scaled ((e + written).natAbs / 308 + 1) (Binary64.ofInt n) (e + written)).map fun x => float (sign x)

/-- A number after its sign. -/
def parseNumber (negative : Bool) (s : List Char) : Parsed Json :=
  match s with
  | [] => fail .endInValue []
  | c :: s' =>
    if !isDigit c then fail .invalidNumber s'
    else
      let whole := if c = '0' then ['0'] else s.takeWhile isDigit
      let s := s.drop whole.length
      match s with
      | d :: s' =>
        if c = '0' ∧ isDigit d then fail .invalidNumber s'
        else if d = '.' then
          let fraction := s'.takeWhile isDigit
          let rest := s'.drop fraction.length
          if fraction.isEmpty then
            match rest with
            | [] => fail .endInValue []
            | _ :: r => fail .invalidNumber r
          else
            match rest with
            | e :: r =>
              if e = 'e' ∨ e = 'E' then exponentPart whole (some fraction) r
              else finish whole (some fraction) none rest
            | [] => finish whole (some fraction) none rest
        else if d = 'e' ∨ d = 'E' then exponentPart whole none s'
        else finish whole none none s
      | [] => finish whole none none s
where
  /-- The value, or a failure where the number ends. -/
  finish (whole : List Char) (fraction : Option (List Char)) (e : Option Int)
      (rest : List Char) : Parsed Json :=
    match numberOf negative whole fraction e with
    | some v => .ok (v, rest)
    | none => fail .numberOutOfRange rest
  /-- The exponent after its letter. -/
  exponentPart (whole : List Char) (fraction : Option (List Char)) (s : List Char) :
      Parsed Json :=
    let (minus, s) := takeSign s
    match s with
    | [] => fail .endInValue []
    | c :: s' =>
      if !isDigit c then fail .invalidNumber s'
      else
        let ds := s.takeWhile isDigit
        let n : Int := natOfDigits ds
        finish whole fraction (some (if minus then -n else n)) (s.drop ds.length)

mutual

/-- A value, with at most `depth` more levels of nesting. -/
def parseValue : Nat → Nat → List Char → Parsed Json
  | 0, _, s => fail .recursionLimit s
  | fuel + 1, depth, s =>
    match skipBlanks s with
    | [] => fail .endInValue []
    | 'n' :: s => readWord null ['u', 'l', 'l'] s
    | 't' :: s => readWord (bool true) ['r', 'u', 'e'] s
    | 'f' :: s => readWord (bool false) ['a', 'l', 's', 'e'] s
    | '-' :: s => parseNumber true s
    | '"' :: s => (parseString s).map fun (t, s) => (string t, s)
    | '[' :: s =>
      match depth with
      | 0 | 1 => fail .recursionLimit s
      | depth + 1 => (parseItems fuel depth true s).map fun (items, s) => (array items, s)
    | '\x7b' :: s =>
      match depth with
      | 0 | 1 => fail .recursionLimit s
      | depth + 1 => (parseFields fuel depth true s).map fun (fields, s) => (ofFields fields, s)
    | c :: s =>
      if isDigit c then parseNumber false (c :: s) else fail .expectedValue s

/-- The items of an array up to its closing bracket. -/
def parseItems : Nat → Nat → Bool → List Char → Parsed (List Json)
  | 0, _, _, s => fail .recursionLimit s
  | fuel + 1, depth, first, s =>
    match skipBlanks s with
    | [] => fail .endInList []
    | ']' :: s => .ok ([], s)
    | c :: s =>
      let start : Except ParseError (List Char) :=
        if first then .ok (c :: s)
        else if c = ',' then
          match skipBlanks s with
          | [] => fail .endInValue []
          | ']' :: s => fail .trailingComma s
          | s => .ok s
        else fail .expectedListCommaOrEnd s
      match start with
      | .error e => .error e
      | .ok s =>
        match parseValue fuel depth s with
        | .error e => .error e
        | .ok (v, s) => (parseItems fuel depth false s).map fun (vs, s) => (v :: vs, s)

/-- The members of an object up to its closing brace. -/
def parseFields : Nat → Nat → Bool → List Char → Parsed (List (String × Json))
  | 0, _, _, s => fail .recursionLimit s
  | fuel + 1, depth, first, s =>
    match skipBlanks s with
    | [] => fail .endInObject []
    | '\x7d' :: s => .ok ([], s)
    | c :: s =>
      let start : Except ParseError (List Char) :=
        if first then
          if c = '"' then .ok s else fail .keyNotString s
        else if c = ',' then
          match skipBlanks s with
          | [] => fail .endInValue []
          | '"' :: s => .ok s
          | '\x7d' :: s => fail .trailingComma s
          | _ :: s => fail .keyNotString s
        else fail .expectedObjectCommaOrEnd s
      match start with
      | .error e => .error e
      | .ok s =>
        match parseString s with
        | .error e => .error e
        | .ok (key, s) =>
          match skipBlanks s with
          | [] => fail .endInObject []
          | ':' :: s =>
            match parseValue fuel depth s with
            | .error e => .error e
            | .ok (v, s) =>
              (parseFields fuel depth false s).map fun (fs, s) => ((key, v) :: fs, s)
          | _ :: s => fail .expectedColon s

end

/-- The deepest nesting of arrays and objects that is read. -/
def maxDepth : Nat := 128

/-- Read a whole text as one value. -/
def parseChars (text : List Char) : Except ParseError Json :=
  match parseValue (2 * text.length + 2) maxDepth text with
  | .error e => .error e
  | .ok (v, rest) =>
    match skipBlanks rest with
    | [] => .ok v
    | _ :: s => fail .trailingCharacters s

/-- Read a text as one value; the message of a failure ends with its place. -/
def parse (text : String) : Except String Json :=
  match parseChars text.toList with
  | .ok v => .ok v
  | .error e =>
    let (line, column) := location text.toList e.unread
    .error s!"{e.cause.message} at line {line} column {column}"

end Provision.Json

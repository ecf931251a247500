import Provision.Binary64.Decimal
import Provision.Text.Blank

/-!
Points in time, counted in seconds from the start of 1970 in universal time. A leap second is the
second before it with a billion or more nanoseconds.

Their text is that of RFC 3339. Reading is lenient about blanks and the separator of date and time;
writing always gives universal time.
-/

namespace Provision

/-- A point in time. -/
structure Timestamp where
  seconds : Int
  nanos : Nat
deriving DecidableEq, Repr, Inhabited

namespace Timestamp

/-! ### The calendar -/

/-- Days from the start of 1970 to a date of the Gregorian calendar. Years are counted from March, so
that a leap day comes last. -/
def daysOfDate (year : Int) (month day : Nat) : Int :=
  let y := if month ≤ 2 then year - 1 else year
  let era := y.fdiv 400
  let yearOfEra := y - era * 400
  let shifted : Int := if month ≤ 2 then month + 9 else month - 3
  let dayOfYear := (153 * shifted + 2) / 5 + day - 1
  let dayOfEra := yearOfEra * 365 + yearOfEra / 4 - yearOfEra / 100 + dayOfYear
  era * 146097 + dayOfEra - 719468

/-- The date of a day counted from the start of 1970: year, month and day. -/
def dateOfDays (days : Int) : Int × Nat × Nat :=
  let z := days + 719468
  let era := z.fdiv 146097
  let dayOfEra := z - era * 146097
  let yearOfEra := (dayOfEra - dayOfEra / 1460 + dayOfEra / 36524 - dayOfEra / 146096) / 365
  let dayOfYear := dayOfEra - (365 * yearOfEra + yearOfEra / 4 - yearOfEra / 100)
  let shifted := (5 * dayOfYear + 2) / 153
  let day := dayOfYear - (153 * shifted + 2) / 5 + 1
  let month := if shifted < 10 then shifted + 3 else shifted - 9
  let year := yearOfEra + era * 400 + (if month ≤ 2 then 1 else 0)
  (year, month.toNat, day.toNat)

def isLeapYear (year : Int) : Bool :=
  year % 4 == 0 && (year % 100 != 0 || year % 400 == 0)

def daysInMonth (year : Int) (month : Nat) : Nat :=
  match month with
  | 2 => if isLeapYear year then 29 else 28
  | 4 | 6 | 9 | 11 => 30
  | _ => 31

/-- The years that dates can have, counted either way from year zero. -/
def lastYear : Int := 262142
def firstYear : Int := -262143

/-! ### Reading -/

/-- Why a text is not a point in time. -/
inductive Malformed where
  | outOfRange
  | invalid
  | tooShort
  | tooLong
deriving DecidableEq, Repr

def Malformed.message : Malformed → String
  | outOfRange => "input is out of range"
  | invalid => "input contains invalid characters"
  | tooShort => "premature end of input"
  | tooLong => "trailing input"

/-- A step of reading: a value and the rest of the text. -/
abbrev Reading (α : Type) := Except Malformed (α × List Char)

/-- A whole number of at least one and at most `width` digits. -/
def readNumber (width : Nat) (s : List Char) : Reading Nat :=
  let ds := (s.take width).takeWhile isDigit
  match s with
  | [] => .error .tooShort
  | _ =>
    if ds.isEmpty then .error .invalid
    else
      let n := natOfDigits ds
      if maxInt64 < n then .error .outOfRange else .ok (n, s.drop ds.length)

/-- A number after optional blanks. -/
def readField (width low high : Nat) (s : List Char) : Except Malformed (Nat × List Char) := do
  let (n, s) ← readNumber width (trimLeft s)
  if n < low || high < n then throw .outOfRange
  return (n, s)

/-- A year: four digits, or any number of digits after a sign. -/
def readYear (s : List Char) : Except Malformed (Int × List Char) := do
  let (year, s) ←
    match trimLeft s with
    | '-' :: rest => do
      let (n, s) ← readNumber rest.length rest
      pure (-(n : Int), s)
    | '+' :: rest => do
      let (n, s) ← readNumber rest.length rest
      pure ((n : Int), s)
    | s => do
      let (n, s) ← readNumber 4 s
      pure ((n : Int), s)
  if year < -2147483648 || 2147483648 ≤ year then throw .outOfRange
  return (year, s)

/-- A fixed character after optional blanks. -/
def readMark (c : Char) (s : List Char) : Except Malformed (List Char) :=
  match trimLeft s with
  | [] => .error .tooShort
  | d :: rest => if d = c then .ok rest else .error .invalid

/-- A fraction of a second after a point: nine digits count, further ones are passed over. -/
def readFraction : List Char → Reading Nat
  | '.' :: s =>
    match readNumber 9 s with
    | .error e => .error e
    | .ok (n, rest) =>
      let digits := s.length - rest.length
      .ok (n * Nat.pow 10 (9 - digits), rest.dropWhile isDigit)
  | s => .ok (0, s)

/-- Two digits of an offset. -/
def readPair (s : List Char) : Except Malformed (Nat × Nat × List Char) :=
  match s with
  | a :: b :: rest =>
    if isDigit a && isDigit b then .ok (decimalValue a, decimalValue b, rest) else .error .invalid
  | [a] => if a.utf8Size < 2 then .error .tooShort else .error .invalid
  | [] => .error .tooShort

/-- The offset from universal time in seconds, or a letter for universal time itself. -/
def readOffset (s : List Char) : Except Malformed (Int × List Char) := do
  let s := trimLeft s
  let word := (s.take 3).map Char.toLower
  if word = ['u', 't', 'c'] then return (0, s.drop 3)
  match s with
  | [] => throw .tooShort
  | 'Z' :: rest => return (0, rest)
  | 'z' :: rest => return (0, rest)
  | c :: rest =>
    if c ≠ '+' && c ≠ '-' && c ≠ '\u2212' then throw .invalid
    let (h1, h2, rest) ← readPair rest
    let (m1, m2, rest) ← readPair (rest.dropWhile fun d => d == ':' || isBlank d)
    if 6 ≤ m1 then throw .outOfRange
    let seconds : Int := (h1 * 10 + h2) * 3600 + (m1 * 10 + m2) * 60
    return (if c = '+' then seconds else -seconds, rest)

/-- Read a point in time. -/
def read (text : String) : Except Malformed Timestamp := do
  let (year, s) ← readYear text.toList
  let s ← readMark '-' s
  let (month, s) ← readField 2 1 12 s
  let s ← readMark '-' s
  let (day, s) ← readField 2 1 31 s
  let s ← match s with
    | [] => throw .tooShort
    | c :: rest => if c = 't' || c = 'T' || c = ' ' then pure rest else throw .invalid
  let (hour, s) ← readField 2 0 23 s
  let s ← readMark ':' s
  let (minute, s) ← readField 2 0 59 s
  let s ← readMark ':' s
  let (second, s) ← readField 2 0 60 s
  let (nanos, s) ← readFraction s
  let (offset, s) ← readOffset s
  if !(trimLeft s).isEmpty then throw .tooLong
  if year < firstYear || lastYear < year || daysInMonth year month < day then throw .outOfRange
  if 86400 ≤ offset.natAbs then throw .outOfRange
  let days := daysOfDate year month day
  let leap := second = 60
  let seconds := days * 86400 + hour * 3600 + minute * 60 + (if leap then 59 else second) - offset
  return ⟨seconds, if leap then nanos + 1000000000 else nanos⟩

/-! ### Writing -/

/-- A number with at least `width` digits. -/
def padded (width n : Nat) : String :=
  let ds := Nat.toDigits 10 n
  String.ofList (List.replicate (width - ds.length) '0' ++ ds)

/-- A year: four digits, with a sign outside the years 0 to 9999. -/
def yearText (year : Int) : String :=
  if 0 ≤ year && year ≤ 9999 then padded 4 year.toNat
  else (if year < 0 then "-" else "+") ++ padded 4 year.natAbs

/-- The fraction of a second in as many groups of three digits as it needs. -/
def fractionText (nanos : Nat) : String :=
  if nanos = 0 then ""
  else if nanos % 1000000 = 0 then "." ++ padded 3 (nanos / 1000000)
  else if nanos % 1000 = 0 then "." ++ padded 6 (nanos / 1000)
  else "." ++ padded 9 nanos

/-- Date and time to the second. -/
def textToSecond (t : Timestamp) : String :=
  let (year, month, day) := dateOfDays (t.seconds.fdiv 86400)
  let ofDay := (t.seconds.fmod 86400).toNat
  let second := ofDay % 60 + (if 1000000000 ≤ t.nanos then 1 else 0)
  yearText year ++ "-" ++ padded 2 month ++ "-" ++ padded 2 day ++ "T" ++ padded 2 (ofDay / 3600) ++
    ":" ++ padded 2 (ofDay / 60 % 60) ++ ":" ++ padded 2 second

/-- The text in whole seconds; a fraction is cut off. -/
def wholeText (t : Timestamp) : String := t.textToSecond ++ "Z"

/-- The text with the fraction of the second. -/
def text (t : Timestamp) : String := t.textToSecond ++ fractionText (t.nanos % 1000000000) ++ "Z"

example : dateOfDays (daysOfDate 2020 2 29) = (2020, 2, 29) := by decide +kernel
example : dateOfDays (-1) = (1969, 12, 31) := by decide +kernel

end Timestamp
end Provision

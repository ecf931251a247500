import Provision.Binary64.Digits

/-!
Reading decimal text as numbers: whole numbers as exact integers, other numbers as the nearest number
of the 64-bit format.
-/

namespace Provision

/-- Whether a character is one of the ten ASCII digits. -/
def isDigit (c : Char) : Bool := '0' ≤ c && c ≤ '9'

/-- The whole number that a list of digits spells in a base. -/
def digitsToNat (base : Nat) (value : Char → Nat) (ds : List Char) : Nat :=
  ds.foldl (fun n c => n * base + value c) 0

/-- The value of a decimal digit. -/
def decimalValue (c : Char) : Nat := c.toNat - '0'.toNat

/-- The whole number that decimal digits spell. -/
def natOfDigits (ds : List Char) : Nat := digitsToNat 10 decimalValue ds

/-- A sign in front of a number: whether it is a minus, and what follows. -/
def takeSign : List Char → Bool × List Char
  | '-' :: rest => (true, rest)
  | '+' :: rest => (false, rest)
  | s => (false, s)

/-- A whole number in decimal: an optional sign and digits, at least one. -/
def readInt? (s : List Char) : Option Int :=
  let (negative, ds) := takeSign s
  if ds.isEmpty || !ds.all isDigit then none
  else some (if negative then -(natOfDigits ds : Int) else natOfDigits ds)

/-- A whole number in decimal that lies within bounds. -/
def readIntWithin? (low high : Int) (s : List Char) : Option Int :=
  (readInt? s).filter fun n => low ≤ n && n ≤ high

/-- The least and greatest 64-bit signed whole number, and the greatest unsigned one. -/
def minInt64 : Int := -9223372036854775808
def maxInt64 : Int := 9223372036854775807
def maxNat64 : Int := 18446744073709551615

namespace Binary64

/-- How many decimal digits a whole number has. -/
def decimalLength (n : Nat) : Nat := (Nat.toDigits 10 n).length

/-- The number nearest to `± digits · 10 ^ exponent`. Beyond 400 places the answer is known without
computing it: infinity above, zero below. -/
def ofDecimal (negative : Bool) (digits : Nat) (exponent : Int) : Binary64 :=
  let places := exponent + decimalLength digits
  if digits = 0 || places < -400 then make negative 0
  else if 400 < places then make negative infinityBody
  else
    let (num, den) := timesTen digits 1 exponent
    ofRatio negative num den

/-- An exponent part: `e` or `E`, an optional sign and digits; no text at all is the exponent zero. -/
def readExponent? : List Char → Option Int
  | [] => some 0
  | c :: rest => if c = 'e' || c = 'E' then readInt? rest else none

/-- A number without its sign: digits with at most one point among or beside them, then an exponent. -/
def readUnsigned? (negative : Bool) (s : List Char) : Option Binary64 :=
  let whole := s.takeWhile isDigit
  let rest := s.dropWhile isDigit
  let (fraction, rest) := match rest with
    | '.' :: r => (r.takeWhile isDigit, r.dropWhile isDigit)
    | r => ([], r)
  if whole.isEmpty && fraction.isEmpty then none
  else (readExponent? rest).map fun e =>
    ofDecimal negative (natOfDigits (whole ++ fraction)) (e - fraction.length)

/-- A number as people write it, or one of the words `inf`, `infinity` and `nan` in any case. -/
def read? (text : List Char) : Option Binary64 :=
  let (negative, s) := takeSign text
  let word := s.map Char.toLower
  if word = "inf".toList || word = "infinity".toList then some (make negative infinityBody)
  else if word = "nan".toList then some notANumber
  else readUnsigned? negative s

example : ofDecimal false 99999999999999999999999999 0 = ⟨0x4554ADF4B7320335⟩ := by decide +kernel
example : read? ['.'] = none := by decide +kernel
example : read? ['-', '.', '5', 'e', '1'] = some (ofInt (-5)) := by decide +kernel

end Binary64
end Provision

/-!
Numbers of the 64-bit binary floating-point format, kept as their bits and computed exactly.

A finite number is a whole multiple of the smallest positive one, `2 ^ -1074`, and that multiple is its
magnitude here. Every operation is the exact result, rounded to the nearest representable magnitude
by `roundUnits`; a tie goes to the even significand.
-/

namespace Provision

/-- A number of the format: sign bit, eleven exponent bits, fifty-two fraction bits. -/
structure Binary64 where
  bits : UInt64
deriving DecidableEq, Inhabited, Repr

namespace Binary64

/-- The weight of the sign bit. -/
def signWeight : Nat := Nat.pow 2 63

/-- The weight of the lowest exponent bit, which is one more than the largest fraction. -/
def exponentWeight : Nat := Nat.pow 2 52

/-- How many units make one. -/
def unitsPerOne : Nat := Nat.pow 2 1074

/-- The bits without the sign. -/
def body (x : Binary64) : Nat := x.bits.toNat % signWeight

/-- The sign bit. -/
def negative (x : Binary64) : Bool := signWeight ≤ x.bits.toNat

/-- The body of infinity: above it are the bodies of what is not a number. -/
def infinityBody : Nat := 2047 * exponentWeight

def isNaN (x : Binary64) : Bool := infinityBody < x.body

def isInfinite (x : Binary64) : Bool := x.body == infinityBody

def isFinite (x : Binary64) : Bool := x.body < infinityBody

/-- How often the unit `2 ^ -1074` doubles to give the weight of the last fraction bit. -/
def scale (x : Binary64) : Nat := x.body / exponentWeight - 1

/-- The significand: the fraction bits, with the leading bit that normal numbers leave out. -/
def significand (x : Binary64) : Nat :=
  if x.body < exponentWeight then x.body else x.body % exponentWeight + exponentWeight

/-- The magnitude of a finite number in units of `2 ^ -1074`. -/
def units (x : Binary64) : Nat := x.significand * Nat.pow 2 x.scale

/-- The signed value of a finite number in units of `2 ^ -1074`. -/
def signedUnits (x : Binary64) : Int :=
  if x.negative then -(x.units : Int) else x.units

/-- A number from its sign and body. -/
def make (negative : Bool) (body : Nat) : Binary64 :=
  ⟨UInt64.ofNat (body + if negative then signWeight else 0)⟩

def zero : Binary64 := make false 0

def one : Binary64 := make false (1023 * exponentWeight)

def infinity : Binary64 := make false infinityBody

/-- The value of an invalid operation. -/
def notANumber : Binary64 := make false (2047 * exponentWeight + exponentWeight / 2)

/-- The quotient rounded to the nearest whole number, a half to the even one. -/
def roundQuotient (num den : Nat) : Nat :=
  let q := num / den
  let r := 2 * (num % den)
  if r < den then q
  else if den < r then q + 1
  else q + q % 2

/-- The body of the number nearest to `num / den` units; a quotient beyond the largest finite number
gives the body of infinity. -/
def roundUnits (num den : Nat) : Nat :=
  let whole := num / den
  let p := if whole < 2 * exponentWeight then 0 else whole.log2 - 52
  min (p * exponentWeight + roundQuotient num (den * Nat.pow 2 p)) infinityBody

/-- The number nearest to `num / den`, with a sign that zero keeps. -/
def ofRatio (negative : Bool) (num den : Nat) : Binary64 :=
  make negative (roundUnits (num * unitsPerOne) den)

/-- The number nearest to a whole number. -/
def ofInt (n : Int) : Binary64 :=
  ofRatio (n < 0) n.natAbs 1

def neg (x : Binary64) : Binary64 := make (!x.negative) x.body

def abs (x : Binary64) : Binary64 := make false x.body

/-- Whether two numbers are equal in value: the zeros are, and nothing equals what is not a number. -/
def eqv (x y : Binary64) : Bool :=
  !x.isNaN && !y.isNaN && (x.bits == y.bits || (x.body == 0 && y.body == 0))

/-- The order key of a number that is one: its body, negated with the sign. -/
def orderKey (x : Binary64) : Int :=
  if x.negative then -(x.body : Int) else x.body

/-- Whether `x` is less in value than `y`; false if one is not a number. -/
def lt (x y : Binary64) : Bool :=
  !x.isNaN && !y.isNaN && x.orderKey < y.orderKey

/-- Whether `x` is at most `y` in value; false if one is not a number. -/
def le (x y : Binary64) : Bool :=
  !x.isNaN && !y.isNaN && x.orderKey ≤ y.orderKey

/-- The smaller of two numbers, and the other one if one is not a number. -/
def minNum (x y : Binary64) : Binary64 :=
  if x.isNaN then y
  else if y.isNaN then x
  else if y.lt x then y else x

/-- Round `num / den` units with a sign. -/
def ofUnits (negative : Bool) (num den : Nat) : Binary64 :=
  make negative (roundUnits num den)

def add (x y : Binary64) : Binary64 :=
  if x.isNaN || y.isNaN then notANumber
  else if x.isInfinite then
    if y.isInfinite && x.negative != y.negative then notANumber else x
  else if y.isInfinite then y
  else
    let sum := x.signedUnits + y.signedUnits
    if sum = 0 then make (x.negative && y.negative) 0
    else ofUnits (sum < 0) sum.natAbs 1

def sub (x y : Binary64) : Binary64 := add x y.neg

def mul (x y : Binary64) : Binary64 :=
  let sign := x.negative != y.negative
  if x.isNaN || y.isNaN then notANumber
  else if x.isInfinite || y.isInfinite then
    if x.body == 0 || y.body == 0 then notANumber else make sign infinityBody
  else ofUnits sign (x.units * y.units) unitsPerOne

def div (x y : Binary64) : Binary64 :=
  let sign := x.negative != y.negative
  if x.isNaN || y.isNaN then notANumber
  else if x.isInfinite then
    if y.isInfinite then notANumber else make sign infinityBody
  else if y.isInfinite then make sign 0
  else if y.body == 0 then
    if x.body == 0 then notANumber else make sign infinityBody
  else ofUnits sign (x.units * unitsPerOne) y.units

/-- The remainder of the quotient cut toward zero; it has the sign of `x`. -/
def rem (x y : Binary64) : Binary64 :=
  if x.isNaN || y.isNaN || x.isInfinite || y.body == 0 then notANumber
  else if y.isInfinite then x
  else ofUnits x.negative (x.units % y.units) 1

/-- Cut the fraction off. -/
def trunc (x : Binary64) : Binary64 :=
  if x.isFinite then ofRatio x.negative (x.units / unitsPerOne) 1 else x

/-- The whole number nearest to a finite number, a half away from zero. -/
def roundHalfAway (x : Binary64) : Binary64 :=
  if x.isFinite then ofRatio x.negative ((2 * x.units + unitsPerOne) / (2 * unitsPerOne)) 1 else x

/-- Whether the number is finite and has no fraction. -/
def isWhole (x : Binary64) : Bool :=
  x.isFinite && x.units % unitsPerOne == 0

/-- The whole part of a finite number, toward zero. -/
def toIntTrunc (x : Binary64) : Int :=
  let n : Int := (x.units / unitsPerOne : Nat)
  if x.negative then -n else n

/-- A power by repeated squaring: the factor for each binary digit of the exponent, lowest first. -/
def powerOf : Nat → Binary64 → Nat → Binary64 → Binary64
  | 0, _, _, acc => acc
  | fuel + 1, base, n, acc =>
    let acc := if n % 2 = 1 then mul acc base else acc
    if n / 2 = 0 then acc else powerOf fuel (mul base base) (n / 2) acc

/-- A whole power; a negative exponent gives the reciprocal of the positive power. -/
def powInt (x : Binary64) (n : Int) : Binary64 :=
  let p := powerOf (n.natAbs + 1) x n.natAbs one
  if n < 0 then div one p else p

example : ofRatio false 1 10 = ⟨0x3FB999999999999A⟩ := by decide +kernel
example : add (ofRatio false 1 10) (ofRatio false 2 10) = ⟨0x3FD3333333333334⟩ := by decide +kernel
example : ofRatio false 1 3 = ⟨0x3FD5555555555555⟩ := by decide +kernel
example : (ofRatio false (Nat.pow 10 400) 1).isInfinite = true := by decide +kernel

end Binary64
end Provision

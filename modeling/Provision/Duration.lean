import Provision.Binary64.Decimal

/-!
Spans of time in whole nanoseconds, and how messages write them.
-/

namespace Provision

/-- A span of time in nanoseconds. -/
abbrev Nanoseconds := Nat

namespace Duration

def perSecond : Nat := 1000000000

def ofMillis (n : Nat) : Nanoseconds := n * 1000000

def ofSeconds (n : Nat) : Nanoseconds := n * perSecond

/-- A whole part and a fraction of `places` digits, of which the zeros at the end are dropped. -/
def decimalText (whole fraction places : Nat) : String :=
  let digits := Nat.toDigits 10 fraction
  let padded := List.replicate (places - digits.length) '0' ++ digits
  let kept := (padded.reverse.dropWhile (· = '0')).reverse
  toString whole ++ if kept.isEmpty then "" else String.ofList ('.' :: kept)

/-- The text of a span in the largest unit that it reaches. -/
def text (d : Nanoseconds) : String :=
  if perSecond ≤ d then decimalText (d / perSecond) (d % perSecond) 9 ++ "s"
  else if 1000000 ≤ d then decimalText (d / 1000000) (d % 1000000) 6 ++ "ms"
  else if 1000 ≤ d then decimalText (d / 1000) (d % 1000) 3 ++ "µs"
  else toString d ++ "ns"

/-- The span in seconds: the whole seconds plus the rest as a fraction of one. -/
def toSeconds (d : Nanoseconds) : Binary64 :=
  (Binary64.ofInt (d / perSecond)).add
    ((Binary64.ofInt (d % perSecond)).div (Binary64.ofInt perSecond))

/-- Whole seconds are counted in 64 bits. -/
def secondsLimit : Nat := Nat.pow 2 64

/-- The span nearest to a number of seconds, a half to the even nanosecond; a negative number of
seconds has none, and neither has one that cannot be counted. -/
def ofSeconds? (x : Binary64) : Option Nanoseconds :=
  if !x.isFinite || (x.negative && x.body ≠ 0) || secondsLimit ≤ x.units / Binary64.unitsPerOne then none
  else some (Binary64.roundQuotient (x.units * perSecond) Binary64.unitsPerOne)

end Duration
end Provision

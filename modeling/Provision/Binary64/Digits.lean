import Provision.Binary64.Basic

/-!
The shortest decimal that reads back as a given number, and of several the one nearest to it.

A body `b` stands for every magnitude between the midpoints to its neighbours, and for the midpoints
themselves when `b` is even. From the place of the leading digit downward, the two decimals around
the magnitude that end at that place are tried; seventeen places always suffice.
-/

namespace Provision.Binary64

/-- A decimal: the number `digits · 10 ^ exponent`. -/
structure Digits where
  digits : Nat
  exponent : Int
deriving DecidableEq, Repr

/-- Twice the magnitude of a body, in units. -/
def twiceUnits (body : Nat) : Nat :=
  2 * (if body < exponentWeight then body
    else (body % exponentWeight + exponentWeight) * Nat.pow 2 (body / exponentWeight - 1))

/-- Whether `num / den` units lie in the interval that rounds to `body`. Both ends are midpoints of
neighbouring magnitudes, so everything is compared after doubling. -/
def readsBack (body num den : Nat) : Bool :=
  let low := (twiceUnits (body - 1) + twiceUnits body) / 2 * den
  let high := (twiceUnits body + twiceUnits (body + 1)) / 2 * den
  let x := 2 * num
  if body % 2 = 0 then low ≤ x && x ≤ high else low < x && x < high

/-- Numerator and denominator of `num / den · 10 ^ e`. -/
def timesTen (num den : Nat) (e : Int) : Nat × Nat :=
  if e < 0 then (num, den * Nat.pow 10 e.natAbs) else (num * Nat.pow 10 e.toNat, den)

/-- The least `k` from `k` upward with `num / den < 10 ^ k`, looked for while `fuel` lasts. -/
def leadingPlace : Nat → Nat → Nat → Int → Int
  | 0, _, _, k => k
  | fuel + 1, num, den, k =>
    let (a, b) := timesTen 1 1 k
    if num * b < den * a then k else leadingPlace fuel num den (k + 1)

/-- The decimal with the exponent `e` that reads back, if one does: the nearer of the two neighbours,
and the even one if they are equally near. -/
def atExponent (body units : Nat) (e : Int) : Option Digits :=
  let (num, den) := timesTen units unitsPerOne (-e)
  let low := num / den
  let inRange := fun (d : Nat) =>
    let (a, b) := timesTen d 1 e
    readsBack body (a * unitsPerOne) b
  let r := 2 * (num % den)
  match 0 < low && inRange low, inRange (low + 1) with
  | true, true =>
    if r < den || (r = den && low % 2 = 0) then some ⟨low, e⟩ else some ⟨low + 1, e⟩
  | true, false => some ⟨low, e⟩
  | false, true => some ⟨low + 1, e⟩
  | false, false => none

/-- The first decimal found when the exponent goes down from `e`. -/
def downFrom : Nat → Nat → Nat → Int → Digits
  | 0, _, _, e => ⟨0, e⟩
  | fuel + 1, body, units, e =>
    match atExponent body units e with
    | some d => d
    | none => downFrom fuel body units (e - 1)

/-- Move the zeros at the end of the digits into the exponent. -/
def dropZeros : Nat → Digits → Digits
  | 0, d => d
  | fuel + 1, d =>
    if d.digits ≠ 0 ∧ d.digits % 10 = 0 then dropZeros fuel ⟨d.digits / 10, d.exponent + 1⟩ else d

/-- The shortest decimal of the magnitude of a finite number other than zero. -/
def shortest (x : Binary64) : Digits :=
  let units := x.units
  -- One doubling is a little more than 0.301 decimal places, and a unit lies between 10⁻³²⁴ and 10⁻³²³.
  let start : Int := (units.log2 : Int) * 301 / 1000 - 325
  let place := leadingPlace 10 units unitsPerOne start
  dropZeros 20 (downFrom 17 x.body units (place - 1))

/-- How a number is written once its digits are known. -/
structure Format where
  /-- Positional from this decimal exponent on. -/
  positionalFrom : Option Int
  /-- Positional up to this decimal exponent. -/
  positionalTo : Option Int
  /-- Whether a whole number keeps a point and a zero. -/
  keepsPoint : Bool
  /-- Whether a positive exponent is written with its sign. -/
  plusSign : Bool
  notANumber : String
  infinite : String

/-- Digits with a point somewhere: `point` digits stand before it. -/
def positional (ds : List Char) (point : Int) (keepsPoint : Bool) : List Char :=
  if point ≤ 0 then
    '0' :: '.' :: (List.replicate point.natAbs '0' ++ ds)
  else if ds.length ≤ point.toNat then
    ds ++ List.replicate (point.toNat - ds.length) '0' ++ (if keepsPoint then ['.', '0'] else [])
  else
    ds.take point.toNat ++ '.' :: ds.drop point.toNat

/-- Digits with one place before the point and an exponent. -/
def exponential (ds : List Char) (exponent : Int) (plusSign : Bool) : List Char :=
  let head :=
    match ds with
    | [] => ['0']
    | [d] => [d]
    | d :: rest => d :: '.' :: rest
  let sign := if exponent < 0 then ['-'] else if plusSign then ['+'] else []
  head ++ 'e' :: (sign ++ Nat.toDigits 10 exponent.natAbs)

/-- The text of a number. -/
def format (f : Format) (x : Binary64) : String :=
  if x.isNaN then f.notANumber
  else
    let sign := if x.negative then ['-'] else []
    if x.isInfinite then String.ofList (sign ++ f.infinite.toList)
    else if x.body == 0 then
      String.ofList (sign ++ (if f.keepsPoint then "0.0" else "0").toList)
    else
      let s := shortest x
      let ds := Nat.toDigits 10 s.digits
      let point := s.exponent + ds.length
      let exponent := point - 1
      let early := match f.positionalFrom with
        | some e => exponent < e
        | none => false
      let late := match f.positionalTo with
        | some e => e < exponent
        | none => false
      String.ofList (sign ++
        if early || late then exponential ds exponent f.plusSign
        else positional ds point f.keepsPoint)

end Provision.Binary64

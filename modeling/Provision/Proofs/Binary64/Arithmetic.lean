import Provision.Proofs.Binary64.Rounding

/-!
Sums, products and quotients of numbers that are not below zero. Each is rounded once, so it keeps the order of its
operands; a quotient reverses that of its divisors.
-/

namespace Provision.Binary64

/-! ### Numbers that are not below zero -/

/-- A number whose sign bit is clear. -/
structure Nonneg (x : Binary64) : Prop where
  positive : x.negative = false
  body_le : x.body ≤ infinityBody

theorem infinityBody_lt : infinityBody < signWeight := by decide

theorem isInfinite_iff {x : Binary64} : x.isInfinite = true ↔ x.body = infinityBody := by
  simp [isInfinite]

section Making

variable {body : Nat} (hbody : body ≤ infinityBody)
include hbody

theorem toNat_bits_make : (make false body).bits.toNat = body := by
  have hlt := infinityBody_lt
  have hsign : signWeight < 2 ^ 64 := by decide
  simp only [make, Bool.false_eq_true, if_false, Nat.add_zero, UInt64.toNat_ofNat']
  exact Nat.mod_eq_of_lt (by omega)

theorem body_make : (make false body).body = body := by
  have hlt := infinityBody_lt
  rw [Binary64.body, toNat_bits_make hbody]
  exact Nat.mod_eq_of_lt (by omega)

theorem nonneg_make : Nonneg (make false body) := by
  have hlt := infinityBody_lt
  refine ⟨?_, (body_make hbody).le.trans hbody⟩
  simp only [negative, toNat_bits_make hbody, decide_eq_false_iff_not]
  omega

end Making

namespace Nonneg

variable {x y : Binary64}

theorem isNaN_eq (hx : Nonneg x) : x.isNaN = false := decide_eq_false (Nat.not_lt.mpr hx.body_le)

theorem isInfinite_of_le (hy : Nonneg y) (hle : x.body ≤ y.body) (hx : x.isInfinite = true) : y.isInfinite = true := by
  have hbound := hy.body_le
  rw [isInfinite_iff] at hx ⊢
  omega

theorem orderKey_eq (hx : Nonneg x) : x.orderKey = x.body := by
  simp [orderKey, hx.positive]

theorem lt_iff (hx : Nonneg x) (hy : Nonneg y) : x.lt y = true ↔ x.body < y.body := by
  simp [lt, hx.isNaN_eq, hy.isNaN_eq, hx.orderKey_eq, hy.orderKey_eq]

theorem toNat_bits (hx : Nonneg x) : x.bits.toNat = x.body := by
  have hlt : x.bits.toNat < signWeight := by simpa [negative] using hx.positive
  exact (Nat.mod_eq_of_lt hlt).symm

/-- A number is known by its body. -/
theorem eq_of_body_eq (hx : Nonneg x) (hy : Nonneg y) (hbody : x.body = y.body) : x = y := by
  have hbits : x.bits.toNat = y.bits.toNat := by rw [hx.toNat_bits, hy.toNat_bits, hbody]
  cases x
  cases y
  simpa using UInt64.toNat_inj.mp hbits

theorem eq_of_isInfinite (hx : Nonneg x) (hinfinite : x.isInfinite = true) : x = make false infinityBody := by
  refine hx.eq_of_body_eq (nonneg_make (Nat.le_refl _)) ?_
  rw [isInfinite_iff.mp hinfinite, body_make (Nat.le_refl _)]

theorem minNum_eq (hx : Nonneg x) (hy : Nonneg y) : x.minNum y = make false (min x.body y.body) := by
  have hmin : min x.body y.body ≤ infinityBody := (min_le_left _ _).trans hx.body_le
  simp only [minNum, hx.isNaN_eq, hy.isNaN_eq, Bool.false_eq_true, if_false]
  split
  case isTrue hlt =>
    refine eq_of_body_eq hy (nonneg_make hmin) ?_
    rw [body_make hmin, min_eq_right ((hy.lt_iff hx).mp hlt).le]
  case isFalse hge =>
    refine eq_of_body_eq hx (nonneg_make hmin) ?_
    rw [body_make hmin, min_eq_left (Nat.not_lt.mp fun hlt => hge ((hy.lt_iff hx).mpr hlt))]

end Nonneg

theorem ofInt_natCast (n : Nat) : ofInt n = make false (roundUnits (n * unitsPerOne) 1) := by
  have hsign : decide ((n : Int) < 0) = false := decide_eq_false (by omega)
  rw [ofInt, ofRatio, hsign, Int.natAbs_natCast]

theorem nonneg_ofInt (n : Nat) : Nonneg (ofInt n) := by
  rw [ofInt_natCast]
  exact nonneg_make (roundUnits_le _ _)

theorem ofInt_mono {m n : Nat} (hle : m ≤ n) : (ofInt m).body ≤ (ofInt n).body := by
  rw [ofInt_natCast, ofInt_natCast, body_make (roundUnits_le _ _), body_make (roundUnits_le _ _)]
  exact roundUnits_mono Nat.one_pos Nat.one_pos (Nat.mul_le_mul_right _ (Nat.mul_le_mul_right _ hle))

/-! ### Results that are rounded once -/

/-- The body of a result that is infinite or a rounded quotient. -/
def roundedBody (infinite : Bool) (num den : Nat) : Nat :=
  if infinite then infinityBody else roundUnits num den

@[simp] theorem roundedBody_true (num den : Nat) : roundedBody true num den = infinityBody := if_pos rfl

@[simp] theorem roundedBody_false (num den : Nat) : roundedBody false num den = roundUnits num den :=
  if_neg Bool.false_ne_true

theorem roundedBody_le (infinite : Bool) (num den : Nat) : roundedBody infinite num den ≤ infinityBody := by
  cases infinite with
  | true => rw [roundedBody_true]
  | false =>
      rw [roundedBody_false]
      exact roundUnits_le num den

theorem roundedBody_mono {infinite infinite' : Bool} {num num' den : Nat} (hden : 0 < den)
    (hinfinite : infinite = true → infinite' = true) (hle : num ≤ num') :
    roundedBody infinite num den ≤ roundedBody infinite' num' den := by
  cases infinite' with
  | true =>
      rw [roundedBody_true]
      exact roundedBody_le infinite num den
  | false =>
      obtain rfl : infinite = false := by simpa using hinfinite
      rw [roundedBody_false, roundedBody_false]
      exact roundUnits_mono hden hden (Nat.mul_le_mul_right _ hle)

/-- If an operand is infinite, so is one of two that are not smaller. -/
theorem isInfinite_or_of_le {x y x' y' : Binary64} (hx' : Nonneg x') (hy' : Nonneg y') (hx : x.body ≤ x'.body)
    (hy : y.body ≤ y'.body) (hinfinite : (x.isInfinite || y.isInfinite) = true) :
    (x'.isInfinite || y'.isInfinite) = true := by
  rw [Bool.or_eq_true] at hinfinite ⊢
  exact hinfinite.imp (hx'.isInfinite_of_le hx) (hy'.isInfinite_of_le hy)

/-! ### Sums -/

/-- The body of a sum of numbers that are not below zero. -/
def sumBody (x y : Binary64) : Nat := roundedBody (x.isInfinite || y.isInfinite) (x.units + y.units) 1

theorem sumBody_le (x y : Binary64) : sumBody x y ≤ infinityBody := roundedBody_le _ _ _

theorem sumBody_mono {x y x' y' : Binary64} (hx' : Nonneg x') (hy' : Nonneg y') (hx : x.body ≤ x'.body)
    (hy : y.body ≤ y'.body) : sumBody x y ≤ sumBody x' y' :=
  roundedBody_mono Nat.one_pos (isInfinite_or_of_le hx' hy' hx hy) (Nat.add_le_add (unitsOf_mono hx) (unitsOf_mono hy))

/-- A sum that is zero is not rounded, but rounding it makes no difference. -/
theorem rounded_natCast (n : Nat) :
    (if (n : Int) = 0 then make false 0 else ofUnits ((n : Int) < 0) (n : Int).natAbs 1) =
      make false (roundUnits n 1) := by
  split
  case isTrue hzero =>
    obtain rfl : n = 0 := Int.natCast_eq_zero.mp hzero
    decide +kernel
  case isFalse =>
    have hsign : decide ((n : Int) < 0) = false := decide_eq_false (by omega)
    rw [ofUnits, hsign, Int.natAbs_natCast]

theorem add_of_nonneg {x y : Binary64} (hx : Nonneg x) (hy : Nonneg y) : x.add y = make false (sumBody x y) := by
  have hunits : x.signedUnits + y.signedUnits = (x.units + y.units : Nat) := by
    simp [signedUnits, hx.positive, hy.positive]
  rw [add, sumBody, hx.isNaN_eq, hy.isNaN_eq, hx.positive, hy.positive, hunits]
  cases hxinfinite : x.isInfinite with
  | true => simpa using hx.eq_of_isInfinite hxinfinite
  | false =>
      cases hyinfinite : y.isInfinite with
      | true => simpa using hy.eq_of_isInfinite hyinfinite
      | false =>
          simp only [Bool.or_self, Bool.and_self, Bool.false_eq_true, if_false, roundedBody_false]
          exact rounded_natCast (x.units + y.units)

theorem nonneg_add {x y : Binary64} (hx : Nonneg x) (hy : Nonneg y) : Nonneg (x.add y) := by
  rw [add_of_nonneg hx hy]
  exact nonneg_make (sumBody_le x y)

theorem body_add {x y : Binary64} (hx : Nonneg x) (hy : Nonneg y) : (x.add y).body = sumBody x y := by
  rw [add_of_nonneg hx hy, body_make (sumBody_le x y)]

/-! ### Numbers from one on -/

/-- A number that is not below one. -/
structure AtLeastOne (x : Binary64) : Prop extends Nonneg x where
  one_le : one.body ≤ x.body

theorem units_one : one.units = unitsPerOne := by decide +kernel

theorem isInfinite_one : one.isInfinite = false := by decide +kernel

theorem nonneg_one : Nonneg one := nonneg_make (by decide)

theorem atLeastOne_one : AtLeastOne one := ⟨nonneg_one, Nat.le_refl _⟩

theorem atLeastOne_of_le {x : Binary64} (hle : one.le x = true) : AtLeastOne x := by
  simp only [le, Bool.and_eq_true, Bool.not_eq_true', decide_eq_true_eq, nonneg_one.orderKey_eq] at hle
  obtain ⟨⟨-, hnumber⟩, hkey⟩ := hle
  have hpos : 0 < one.body := by decide +kernel
  cases hsign : x.negative with
  | true =>
      rw [orderKey, hsign, if_pos rfl] at hkey
      omega
  | false =>
      have hbody : x.body ≤ infinityBody := by simpa [isNaN] using hnumber
      have hx : Nonneg x := ⟨hsign, hbody⟩
      rw [hx.orderKey_eq] at hkey
      exact ⟨hx, Int.ofNat_le.mp hkey⟩

namespace AtLeastOne

variable {x : Binary64}

theorem body_pos (hx : AtLeastOne x) : 0 < x.body := by
  have hone := hx.one_le
  have hpos : 0 < one.body := by decide +kernel
  omega

theorem units_pos (hx : AtLeastOne x) : 0 < x.units := by
  have hle := unitsOf_mono hx.one_le
  rw [← units_eq, ← units_eq, units_one] at hle
  exact unitsPerOne_pos.trans_le hle

end AtLeastOne

/-! ### Products -/

/-- The body of a product of numbers that are not below zero. Zero times infinity has no value, and counts as infinite
here. -/
def productBody (x y : Binary64) : Nat :=
  roundedBody (x.isInfinite || y.isInfinite) (x.units * y.units) unitsPerOne

theorem productBody_le (x y : Binary64) : productBody x y ≤ infinityBody := roundedBody_le _ _ _

theorem productBody_mono {x y x' y' : Binary64} (hx' : Nonneg x') (hy' : Nonneg y') (hx : x.body ≤ x'.body)
    (hy : y.body ≤ y'.body) : productBody x y ≤ productBody x' y' :=
  roundedBody_mono unitsPerOne_pos (isInfinite_or_of_le hx' hy' hx hy)
    (Nat.mul_le_mul (unitsOf_mono hx) (unitsOf_mono hy))

theorem productBody_one_left {y : Binary64} (hy : Nonneg y) : productBody one y = y.body := by
  rw [productBody, isInfinite_one, Bool.false_or]
  cases hinfinite : y.isInfinite with
  | true => rw [roundedBody_true, isInfinite_iff.mp hinfinite]
  | false => rw [roundedBody_false, units_one, units_eq, roundUnits_unitsOf unitsPerOne_pos, min_eq_left hy.body_le]

theorem mul_of_nonneg {x y : Binary64} (hx : Nonneg x) (hy : Nonneg y) :
    x.mul y = if (x.isInfinite || y.isInfinite) && (x.body == 0 || y.body == 0) then notANumber
      else make false (productBody x y) := by
  simp only [mul, hx.isNaN_eq, hy.isNaN_eq, hx.positive, hy.positive, productBody, ofUnits, bne_self_eq_false,
    Bool.or_self, Bool.false_eq_true, if_false]
  cases x.isInfinite || y.isInfinite <;> simp

theorem minNum_notANumber_left (c : Binary64) : notANumber.minNum c = c := if_pos (by decide)

/-- A product that is cut at a limit. Where it has no value the limit stands in for it. -/
theorem minNum_mul {x y c : Binary64} (hx : Nonneg x) (hy : Nonneg y) (hc : Nonneg c) :
    (x.mul y).minNum c = make false (min (productBody x y) c.body) := by
  rw [mul_of_nonneg hx hy]
  split
  case isTrue hnone =>
    have hinfinite : productBody x y = infinityBody := by
      rw [productBody, Bool.and_elim_left hnone, roundedBody_true]
    rw [minNum_notANumber_left, hinfinite, min_eq_right hc.body_le]
    exact hc.eq_of_body_eq (nonneg_make hc.body_le) (body_make hc.body_le).symm
  case isFalse =>
    have hproduct := productBody_le x y
    rw [(nonneg_make hproduct).minNum_eq hc, body_make hproduct]

namespace AtLeastOne

variable {x y x' y' : Binary64}

theorem mul_eq (hx : AtLeastOne x) (hy : AtLeastOne y) : x.mul y = make false (productBody x y) := by
  have hvalue : ¬ ((x.isInfinite || y.isInfinite) && (x.body == 0 || y.body == 0)) = true := by
    simp [hx.body_pos.ne', hy.body_pos.ne']
  rw [mul_of_nonneg hx.toNonneg hy.toNonneg, if_neg hvalue]

theorem body_mul (hx : AtLeastOne x) (hy : AtLeastOne y) : (x.mul y).body = productBody x y := by
  rw [hx.mul_eq hy, body_make (productBody_le x y)]

theorem mul (hx : AtLeastOne x) (hy : AtLeastOne y) : AtLeastOne (x.mul y) := by
  constructor
  · rw [hx.mul_eq hy]
    exact nonneg_make (productBody_le x y)
  · rw [hx.body_mul hy, ← productBody_one_left nonneg_one]
    exact productBody_mono hx.toNonneg hy.toNonneg hx.one_le hy.one_le

theorem mul_mono (hx : AtLeastOne x) (hy : AtLeastOne y) (hx' : AtLeastOne x') (hy' : AtLeastOne y')
    (hxle : x.body ≤ x'.body) (hyle : y.body ≤ y'.body) : (x.mul y).body ≤ (x'.mul y').body := by
  rw [hx.body_mul hy, hx'.body_mul hy']
  exact productBody_mono hx'.toNonneg hy'.toNonneg hxle hyle

theorem one_mul (hy : AtLeastOne y) : one.mul y = y := by
  refine (atLeastOne_one.mul hy).eq_of_body_eq hy.toNonneg ?_
  rw [atLeastOne_one.body_mul hy, productBody_one_left hy.toNonneg]

end AtLeastOne

/-! ### Quotients -/

/-- The body of a quotient of numbers that are not below zero and not both infinite. -/
def quotientBody (x y : Binary64) : Nat :=
  if x.isInfinite then infinityBody
  else if y.isInfinite then 0
  else roundUnits (x.units * unitsPerOne) y.units

theorem quotientBody_le (x y : Binary64) : quotientBody x y ≤ infinityBody := by
  rw [quotientBody]
  split
  · exact Nat.le_refl _
  · split
    · exact Nat.zero_le _
    · exact roundUnits_le _ _

/-- A greater number divided by a smaller one has the greater quotient. -/
theorem quotientBody_mono {x y x' y' : Binary64} (hx' : Nonneg x') (hy : AtLeastOne y) (hy' : AtLeastOne y')
    (hxle : x.body ≤ x'.body) (hyle : y'.body ≤ y.body) : quotientBody x y ≤ quotientBody x' y' := by
  by_cases hinfinite : x'.isInfinite = true
  · rw [quotientBody.eq_1 x', if_pos hinfinite]
    exact quotientBody_le x y
  rw [quotientBody, if_neg fun h => hinfinite (hx'.isInfinite_of_le hxle h), quotientBody, if_neg hinfinite]
  by_cases hzero : y.isInfinite = true
  · rw [if_pos hzero]
    exact Nat.zero_le _
  · rw [if_neg hzero, if_neg fun h => hzero (hy.isInfinite_of_le hyle h)]
    refine roundUnits_mono hy.units_pos hy'.units_pos ?_
    exact Nat.mul_le_mul (Nat.mul_le_mul_right _ (unitsOf_mono hxle)) (unitsOf_mono hyle)

theorem quotientBody_self {y : Binary64} (hy : AtLeastOne y) (hfinite : y.isInfinite = false) :
    quotientBody y y = one.body := by
  rw [quotientBody, hfinite, if_neg (by decide), if_neg (by decide), ← units_one, units_eq one,
    roundUnits_unitsOf hy.units_pos, min_eq_left nonneg_one.body_le]

theorem div_of_nonneg {x y : Binary64} (hx : Nonneg x) (hy : AtLeastOne y)
    (hvalue : (x.isInfinite && y.isInfinite) = false) : x.div y = make false (quotientBody x y) := by
  have hpos : (y.body == 0) = false := by
    have := hy.body_pos
    simpa using Nat.pos_iff_ne_zero.mp this
  simp only [div, hx.isNaN_eq, hy.isNaN_eq, hx.positive, hy.positive, hpos, ofUnits, quotientBody, bne_self_eq_false,
    Bool.or_self, Bool.false_eq_true, if_false]
  cases hxinfinite : x.isInfinite with
  | true =>
      have hyfinite : y.isInfinite = false := by simpa [hxinfinite] using hvalue
      simp [hyfinite]
  | false =>
      simp only [Bool.false_eq_true, if_false]
      split <;> rfl

theorem body_div {x y : Binary64} (hx : Nonneg x) (hy : AtLeastOne y)
    (hvalue : (x.isInfinite && y.isInfinite) = false) : (x.div y).body = quotientBody x y := by
  rw [div_of_nonneg hx hy hvalue, body_make (quotientBody_le x y)]

theorem nonneg_div {x y : Binary64} (hx : Nonneg x) (hy : AtLeastOne y)
    (hvalue : (x.isInfinite && y.isInfinite) = false) : Nonneg (x.div y) := by
  rw [div_of_nonneg hx hy hvalue]
  exact nonneg_make (quotientBody_le x y)

/-- The quotient of a number by a finite one that is not below it is at most one. -/
theorem quotientBody_le_one {x y : Binary64} (hy : AtLeastOne y) (hfinite : y.isInfinite = false)
    (hle : x.body ≤ y.body) : quotientBody x y ≤ one.body := by
  rw [← quotientBody_self hy hfinite]
  exact quotientBody_mono hy.toNonneg hy hy hle (Nat.le_refl _)

end Provision.Binary64

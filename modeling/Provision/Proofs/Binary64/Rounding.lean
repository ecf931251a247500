import Mathlib.Algebra.Order.Group.Nat
import Mathlib.Tactic.Ring
import Provision.Binary64.Basic

/-!
Rounding keeps the order: of two quotients the smaller one is never rounded to the greater body. A greater body stands
for a greater magnitude, and the magnitude that a body stands for is its own rounding.
-/

namespace Provision.Binary64

/-! ### Quotients rounded to whole numbers -/

section Quotients

variable {num den num' den' : Nat} (hden : 0 < den) (hden' : 0 < den')
include hden

/-- A rounded quotient is at most `k` if the quotient lies below the midpoint behind `k`, or on it and `k` is even. -/
theorem roundQuotient_le_iff {k : Nat} : roundQuotient num den ≤ k ↔ 2 * num + k % 2 ≤ den * (2 * k + 1) := by
  have hnum := Nat.div_add_mod num den
  have hrest := Nat.mod_lt num hden
  simp only [roundQuotient]
  generalize num / den = q at *
  generalize num % den = r at *
  subst hnum
  rcases Nat.lt_trichotomy k q with hlt | rfl | hlt
  · obtain ⟨j, rfl⟩ := Nat.exists_eq_add_of_lt hlt
    have hfar : 2 * (den * (k + j + 1)) = den * (2 * k + 1) + den * (2 * j + 1) := by ring
    have hpos : 0 < den * (2 * j + 1) := Nat.mul_pos hden (Nat.succ_pos _)
    constructor
    · intro hle
      split at hle
      · omega
      · split at hle <;> omega
    · omega
  · have hmid : den * (2 * k + 1) = 2 * (den * k) + den := by ring
    rw [hmid]
    split
    · omega
    · split <;> omega
  · obtain ⟨j, rfl⟩ := Nat.exists_eq_add_of_lt hlt
    have hfar : den * (2 * (q + j + 1) + 1) = 2 * (den * q) + 3 * den + den * (2 * j) := by ring
    rw [hfar]
    constructor
    · omega
    · intro
      split
      · omega
      · split <;> omega

/-- A whole quotient is its own rounding. -/
theorem roundQuotient_mul_left (m : Nat) : roundQuotient (den * m) den = m := by
  simp [roundQuotient, Nat.mul_div_cancel_left m hden, hden]

include hden'

/-- Rounding to whole numbers keeps the order of quotients. -/
theorem roundQuotient_mono (hle : num * den' ≤ num' * den) : roundQuotient num den ≤ roundQuotient num' den' := by
  have hnear : 2 * num' + roundQuotient num' den' % 2 ≤ den' * (2 * roundQuotient num' den' + 1) :=
    (roundQuotient_le_iff hden').mp (Nat.le_refl _)
  rw [roundQuotient_le_iff hden]
  generalize roundQuotient num' den' = k at *
  have hcross : 2 * num * den' ≤ 2 * num' * den := by
    rw [Nat.mul_assoc, Nat.mul_assoc]
    exact Nat.mul_le_mul_left 2 hle
  -- On the midpoint behind an odd number the quotient is rounded up, so there the comparison is strict.
  rcases Nat.mod_two_eq_zero_or_one k with heven | hodd
  · rw [heven] at hnear ⊢
    refine Nat.le_of_mul_le_mul_right ?_ hden'
    calc (2 * num + 0) * den' ≤ 2 * num' * den := hcross
      _ ≤ den' * (2 * k + 1) * den := Nat.mul_le_mul_right den hnear
      _ = den * (2 * k + 1) * den' := by ring
  · rw [hodd] at hnear ⊢
    refine Nat.lt_of_mul_lt_mul_right (a := den') ?_
    calc 2 * num * den' ≤ 2 * num' * den := hcross
      _ < den' * (2 * k + 1) * den := Nat.mul_lt_mul_of_pos_right hnear hden
      _ = den * (2 * k + 1) * den' := by ring

/-- Cutting the fraction off keeps the order of quotients. -/
theorem quotient_mono (hle : num * den' ≤ num' * den) : num / den ≤ num' / den' := by
  rw [Nat.le_div_iff_mul_le hden']
  refine Nat.le_of_mul_le_mul_right ?_ hden
  calc num / den * den' * den = num / den * den * den' := Nat.mul_right_comm _ _ _
    _ ≤ num * den' := Nat.mul_le_mul_right den' (Nat.div_mul_le_self num den)
    _ ≤ num' * den := hle

end Quotients

/-! ### Quotients rounded to magnitudes -/

theorem exponentWeight_eq : exponentWeight = 2 ^ 52 := rfl

theorem exponentWeight_pos : 0 < exponentWeight := Nat.two_pow_pos 52

theorem unitsPerOne_pos : 0 < unitsPerOne := by decide +kernel

/-- How often the unit doubles to give the weight of the last place that is kept of so many whole units. -/
def doublings (whole : Nat) : Nat := if whole < 2 * exponentWeight then 0 else whole.log2 - 52

theorem roundUnits_eq (num den : Nat) :
    roundUnits num den = min (doublings (num / den) * exponentWeight +
      roundQuotient num (den * 2 ^ doublings (num / den))) infinityBody := rfl

theorem roundUnits_le (num den : Nat) : roundUnits num den ≤ infinityBody := min_le_right _ _

/-- A significand has at most 53 bits. -/
theorem lt_of_doublings (whole : Nat) : whole < 2 ^ (53 + doublings whole) := by
  rw [doublings]
  split
  case isTrue hsmall => simpa [exponentWeight_eq] using hsmall
  case isFalse =>
    exact lt_of_lt_of_le (Nat.lt_log2_self (n := whole)) (Nat.pow_le_pow_right (by decide) (by omega))

/-- A significand has its leading bit, unless the unit is not doubled at all. -/
theorem le_of_doublings_ne_zero {whole : Nat} (hne : doublings whole ≠ 0) : 2 ^ (52 + doublings whole) ≤ whole := by
  have hbig : ¬ whole < 2 * exponentWeight := fun hlt => hne (if_pos hlt)
  have heq : doublings whole = whole.log2 - 52 := if_neg hbig
  have hpos : whole ≠ 0 := fun hzero => hbig (hzero ▸ Nat.mul_pos (by decide) exponentWeight_pos)
  have hlog : 52 + doublings whole = whole.log2 := by omega
  rw [hlog]
  exact Nat.log2_self_le hpos

theorem doublings_mono {m n : Nat} (hle : m ≤ n) : doublings m ≤ doublings n := by
  rcases Nat.eq_zero_or_pos (doublings m) with hzero | hpos
  · omega
  · have hpow : 2 ^ (52 + doublings m) < 2 ^ (53 + doublings n) :=
      calc 2 ^ (52 + doublings m) ≤ m := le_of_doublings_ne_zero (by omega)
        _ ≤ n := hle
        _ < 2 ^ (53 + doublings n) := lt_of_doublings n
    have := (Nat.pow_lt_pow_iff_right (by decide)).mp hpow
    omega

section Significands

variable {den : Nat} (hden : 0 < den) (num : Nat)
include hden

/-- A rounded significand is at most the next power of two. -/
theorem significand_le : roundQuotient num (den * 2 ^ doublings (num / den)) ≤ 2 * exponentWeight := by
  have hscale : 0 < den * 2 ^ doublings (num / den) := Nat.mul_pos hden (Nat.two_pow_pos _)
  have hlt := (Nat.div_lt_iff_lt_mul hden).mp (lt_of_doublings (num / den))
  rw [← roundQuotient_mul_left hscale (2 * exponentWeight)]
  refine roundQuotient_mono hscale hscale (Nat.mul_le_mul_right _ ?_)
  refine Nat.le_of_lt (hlt.trans_eq ?_)
  rw [exponentWeight_eq, Nat.pow_add]
  ring

/-- A rounded significand keeps its leading bit. -/
theorem le_significand (hne : doublings (num / den) ≠ 0) :
    exponentWeight ≤ roundQuotient num (den * 2 ^ doublings (num / den)) := by
  have hscale : 0 < den * 2 ^ doublings (num / den) := Nat.mul_pos hden (Nat.two_pow_pos _)
  have hle := (Nat.le_div_iff_mul_le hden).mp (le_of_doublings_ne_zero hne)
  rw [← roundQuotient_mul_left hscale exponentWeight]
  refine roundQuotient_mono hscale hscale (Nat.mul_le_mul_right _ ?_)
  refine le_trans (le_of_eq ?_) hle
  rw [exponentWeight_eq, Nat.pow_add]
  ring

end Significands

/-- Rounding to magnitudes keeps the order of quotients. -/
theorem roundUnits_mono {num den num' den' : Nat} (hden : 0 < den) (hden' : 0 < den')
    (hle : num * den' ≤ num' * den) : roundUnits num den ≤ roundUnits num' den' := by
  rw [roundUnits_eq, roundUnits_eq]
  refine min_le_min_right _ ?_
  rcases (doublings_mono (quotient_mono hden hden' hle)).eq_or_lt with hsame | hmore
  · rw [hsame]
    refine Nat.add_le_add_left (roundQuotient_mono (Nat.mul_pos hden (Nat.two_pow_pos _))
      (Nat.mul_pos hden' (Nat.two_pow_pos _)) ?_) _
    rw [← Nat.mul_assoc, ← Nat.mul_assoc]
    exact Nat.mul_le_mul_right _ hle
  · -- The places differ: the smaller quotient reaches at most the power of two that the greater one starts from.
    have hup := significand_le hden num
    have hlow := le_significand hden' num' (by omega)
    have hstep := Nat.mul_le_mul_right exponentWeight (Nat.succ_le_of_lt hmore)
    rw [Nat.succ_mul] at hstep
    omega

/-! ### The magnitude that a body stands for -/

/-- The magnitude of a body in units. Infinity counts as the next one after the largest. -/
def unitsOf (body : Nat) : Nat :=
  (if body < exponentWeight then body else body % exponentWeight + exponentWeight) *
    2 ^ (body / exponentWeight - 1)

theorem units_eq (x : Binary64) : x.units = unitsOf x.body := rfl

theorem unitsOf_of_lt {body : Nat} (hlt : body < exponentWeight) : unitsOf body = body := by
  have hscale : body / exponentWeight - 1 = 0 := by rw [Nat.div_eq_of_lt hlt]
  rw [unitsOf, if_pos hlt, hscale, Nat.pow_zero, Nat.mul_one]

theorem unitsOf_of_ge {body : Nat} (hge : exponentWeight ≤ body) :
    unitsOf body = (body % exponentWeight + exponentWeight) * 2 ^ (body / exponentWeight - 1) := by
  rw [unitsOf, if_neg (by omega)]

theorem unitsOf_lt (body : Nat) : unitsOf body < 2 ^ (53 + (body / exponentWeight - 1)) := by
  have hrest : body % exponentWeight < exponentWeight := Nat.mod_lt body exponentWeight_pos
  have hweight : 2 ^ 53 = exponentWeight + exponentWeight := rfl
  rw [unitsOf, Nat.pow_add]
  refine Nat.mul_lt_mul_of_pos_right ?_ (Nat.two_pow_pos _)
  split <;> omega

theorem le_unitsOf {body : Nat} (hge : exponentWeight ≤ body) :
    2 ^ (52 + (body / exponentWeight - 1)) ≤ unitsOf body := by
  rw [unitsOf_of_ge hge, Nat.pow_add, ← exponentWeight_eq]
  exact Nat.mul_le_mul_right _ (Nat.le_add_left _ _)

/-- A greater body stands for a greater magnitude. -/
theorem unitsOf_mono {body body' : Nat} (hle : body ≤ body') : unitsOf body ≤ unitsOf body' := by
  rcases Nat.lt_or_ge body' exponentWeight with hsmall' | hbig'
  · rw [unitsOf_of_lt hsmall', unitsOf_of_lt (by omega)]
    exact hle
  have hpos' : 1 ≤ body' / exponentWeight := (Nat.one_le_div_iff exponentWeight_pos).mpr hbig'
  rcases Nat.lt_or_ge body exponentWeight with hsmall | hbig
  · rw [unitsOf_of_lt hsmall]
    calc body ≤ 2 ^ 52 := Nat.le_of_lt hsmall
      _ ≤ 2 ^ (52 + (body' / exponentWeight - 1)) := Nat.pow_le_pow_right (by decide) (Nat.le_add_right _ _)
      _ ≤ unitsOf body' := le_unitsOf hbig'
  · have hpos : 1 ≤ body / exponentWeight := (Nat.one_le_div_iff exponentWeight_pos).mpr hbig
    rcases (Nat.div_le_div_right (c := exponentWeight) hle).eq_or_lt with hsame | hless
    · have hbody := Nat.div_add_mod body exponentWeight
      have hbody' := Nat.div_add_mod body' exponentWeight
      rw [← hsame] at hbody'
      rw [unitsOf_of_ge hbig, unitsOf_of_ge hbig', hsame]
      exact Nat.mul_le_mul_right _ (by omega)
    · calc unitsOf body ≤ 2 ^ (53 + (body / exponentWeight - 1)) := Nat.le_of_lt (unitsOf_lt body)
        _ ≤ 2 ^ (52 + (body' / exponentWeight - 1)) := Nat.pow_le_pow_right (by decide) (by omega)
        _ ≤ unitsOf body' := le_unitsOf hbig'

theorem doublings_unitsOf (body : Nat) : doublings (unitsOf body) = body / exponentWeight - 1 := by
  apply Nat.le_antisymm
  · by_contra hmore
    have hne : doublings (unitsOf body) ≠ 0 := by omega
    have hlow := le_of_doublings_ne_zero hne
    have hpow := (Nat.pow_lt_pow_iff_right (by decide)).mp (hlow.trans_lt (unitsOf_lt body))
    omega
  · rcases Nat.lt_or_ge body exponentWeight with hsmall | hbig
    · simp [Nat.div_eq_of_lt hsmall]
    · have hhigh := lt_of_doublings (unitsOf body)
      have hpow := (Nat.pow_lt_pow_iff_right (by decide)).mp ((le_unitsOf hbig).trans_lt hhigh)
      omega

/-- A magnitude that a body stands for is its own rounding. -/
theorem roundUnits_unitsOf {den : Nat} (hden : 0 < den) (body : Nat) :
    roundUnits (den * unitsOf body) den = min body infinityBody := by
  rw [roundUnits_eq, Nat.mul_div_cancel_left _ hden, doublings_unitsOf]
  congr 1
  rw [unitsOf, Nat.mul_comm (ite _ _ _), ← Nat.mul_assoc,
    roundQuotient_mul_left (Nat.mul_pos hden (Nat.two_pow_pos _))]
  have hbody := Nat.div_add_mod body exponentWeight
  split
  case isTrue hsmall => simp [Nat.div_eq_of_lt hsmall]
  case isFalse hbig =>
    have hpos : 1 ≤ body / exponentWeight := (Nat.one_le_div_iff exponentWeight_pos).mpr (by omega)
    obtain ⟨e, he⟩ := Nat.exists_eq_add_of_le' hpos
    rw [he] at hbody ⊢
    rw [Nat.mul_comm, Nat.succ_mul] at hbody
    rw [Nat.add_sub_cancel]
    omega

end Provision.Binary64

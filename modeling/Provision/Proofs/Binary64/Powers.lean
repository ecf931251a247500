import Provision.Proofs.Binary64.Arithmetic

/-!
Whole powers of a number from one on do not shrink as the exponent grows. Repeated squaring rounds at every step, but
it rounds the same squares for each exponent, so the roundings of one exponent never overtake those of the next.
-/

namespace Provision.Binary64

/-! ### Repeated squaring -/

theorem powerOf_zero (fuel : Nat) (base acc : Binary64) : powerOf fuel base 0 acc = acc := by
  cases fuel <;> simp [powerOf]

/-- One binary digit of the exponent. -/
theorem powerOf_succ (fuel n : Nat) (base acc : Binary64) :
    powerOf (fuel + 1) base n acc =
      powerOf fuel (base.mul base) (n / 2) (if n % 2 = 1 then acc.mul base else acc) := by
  rw [powerOf]
  split
  case isTrue hlast => rw [hlast, powerOf_zero]
  case isFalse => rfl

section Squaring

variable {fuel fuel' n : Nat} {base acc acc' : Binary64} (hbase : AtLeastOne base) (hacc : AtLeastOne acc)
include hbase hacc

theorem atLeastOne_powerOf : AtLeastOne (powerOf fuel base n acc) := by
  induction fuel generalizing n base acc with
  | zero => exact hacc
  | succ fuel ih =>
      rw [powerOf_succ]
      refine ih (hbase.mul hbase) ?_
      split
      · exact hacc.mul hbase
      · exact hacc

/-- With a greater factor to start from the power is not smaller, and fuel to spare changes nothing. -/
theorem powerOf_mono (hacc' : AtLeastOne acc') (hle : acc.body ≤ acc'.body) (hfuel : n ≤ fuel) (hfuel' : n ≤ fuel') :
    (powerOf fuel base n acc).body ≤ (powerOf fuel' base n acc').body := by
  induction fuel generalizing fuel' n base acc acc' with
  | zero =>
      obtain rfl : n = 0 := by omega
      rw [powerOf_zero, powerOf_zero]
      exact hle
  | succ fuel ih =>
      cases fuel' with
      | zero =>
          obtain rfl : n = 0 := by omega
          rw [powerOf_zero, powerOf_zero]
          exact hle
      | succ fuel' =>
          rw [powerOf_succ, powerOf_succ]
          split
          · have hstep := hacc.mul_mono hbase hacc' hbase hle (Nat.le_refl _)
            exact ih (hbase.mul hbase) (hacc.mul hbase) (hacc'.mul hbase) hstep (by omega) (by omega)
          · exact ih (hbase.mul hbase) hacc hacc' hle (by omega) (by omega)

/-- The power for the next exponent is not smaller. The ones at the end of the exponent, which become zeros in the next
one, have gathered at most the square that the next one still has to take. -/
theorem powerOf_succ_exponent (hle : acc.body ≤ base.body) (hfuel : n ≤ fuel) (hfuel' : n + 1 ≤ fuel') :
    (powerOf fuel base n acc).body ≤ (powerOf fuel' base (n + 1) one).body := by
  induction fuel generalizing fuel' n base acc with
  | zero =>
      obtain rfl : n = 0 := by omega
      obtain ⟨fuel', rfl⟩ := Nat.exists_eq_add_of_le' hfuel'
      have hhalf : (0 + 1) / 2 = 0 := rfl
      rw [powerOf_zero, powerOf_succ, if_pos rfl, hbase.one_mul, hhalf, powerOf_zero]
      exact hle
  | succ fuel ih =>
      obtain ⟨fuel', rfl⟩ : ∃ k, fuel' = k + 1 := ⟨fuel' - 1, by omega⟩
      rw [powerOf_succ, powerOf_succ]
      rcases Nat.mod_two_eq_zero_or_one n with heven | hodd
      · have hhalf : (n + 1) / 2 = n / 2 := by omega
        rw [if_neg (by omega), if_pos (by omega), hhalf, hbase.one_mul]
        exact powerOf_mono (hbase.mul hbase) hacc hbase hle (by omega) (by omega)
      · have hhalf : (n + 1) / 2 = n / 2 + 1 := by omega
        have hstep := hacc.mul_mono hbase hbase hbase hle (Nat.le_refl _)
        rw [if_pos hodd, if_neg (by omega), hhalf]
        exact ih (hbase.mul hbase) (hacc.mul hbase) hstep (by omega) (by omega)

end Squaring

/-! ### Whole powers -/

theorem powInt_of_nonneg {x : Binary64} {n : Int} (hn : 0 ≤ n) :
    x.powInt n = powerOf (n.natAbs + 1) x n.natAbs one :=
  if_neg (by omega)

theorem powInt_of_neg {x : Binary64} {n : Int} (hn : n < 0) :
    x.powInt n = one.div (powerOf (n.natAbs + 1) x n.natAbs one) :=
  if_pos hn

namespace AtLeastOne

variable {x y : Binary64} (hx : AtLeastOne x)
include hx

/-- The power with an exponent that is not negative. -/
theorem power (n : Nat) : AtLeastOne (powerOf (n + 1) x n one) := atLeastOne_powerOf hx atLeastOne_one

theorem power_mono {m n : Nat} (hle : m ≤ n) :
    (powerOf (m + 1) x m one).body ≤ (powerOf (n + 1) x n one).body := by
  induction n, hle using Nat.le_induction with
  | base => exact Nat.le_refl _
  | succ n _ ih =>
      exact ih.trans (powerOf_succ_exponent hx atLeastOne_one hx.one_le (Nat.le_succ n) (Nat.le_succ (n + 1)))

theorem body_one_div : (one.div x).body = quotientBody one x :=
  body_div nonneg_one hx (by rw [isInfinite_one, Bool.false_and])

theorem nonneg_one_div : Nonneg (one.div x) :=
  nonneg_div nonneg_one hx (by rw [isInfinite_one, Bool.false_and])

/-- Reciprocals reverse the order. -/
theorem one_div_anti (hy : AtLeastOne y) (hle : x.body ≤ y.body) : (one.div y).body ≤ (one.div x).body := by
  rw [hx.body_one_div, hy.body_one_div]
  exact quotientBody_mono nonneg_one hy hx (Nat.le_refl _) hle

theorem one_div_le_one : (one.div x).body ≤ one.body := by
  rw [hx.body_one_div, ← quotientBody_self atLeastOne_one isInfinite_one]
  exact quotientBody_mono nonneg_one hx atLeastOne_one (Nat.le_refl _) hx.one_le

theorem nonneg_powInt (n : Int) : Nonneg (x.powInt n) := by
  rcases lt_or_ge n 0 with hn | hn
  · rw [powInt_of_neg hn]
    exact (hx.power _).nonneg_one_div
  · rw [powInt_of_nonneg hn]
    exact (hx.power _).toNonneg

/-- Powers do not shrink as the exponent grows, be it negative or not. -/
theorem powInt_mono {m n : Int} (hle : m ≤ n) : (x.powInt m).body ≤ (x.powInt n).body := by
  rcases lt_or_ge n 0 with hn | hn
  · rw [powInt_of_neg hn, powInt_of_neg (by omega)]
    exact (hx.power _).one_div_anti (hx.power _) (hx.power_mono (by omega))
  · rw [powInt_of_nonneg hn]
    rcases lt_or_ge m 0 with hm | hm
    · rw [powInt_of_neg hm]
      exact (hx.power _).one_div_le_one.trans (hx.power _).one_le
    · rw [powInt_of_nonneg hm]
      exact hx.power_mono (by omega)

end AtLeastOne

end Provision.Binary64

import Provision.Backoff
import Provision.Proofs.Binary64.Powers

/-!
The delays between attempts. With a multiplier that is not below one they do not shrink as the exponent grows: the
seconds are rounded again and again on the way, but each rounding keeps the order. The exponent is a signed number of
32 bits. It follows the number of failures up to `2 ^ 31` of them; the next failure makes it negative.
-/

namespace Provision

open Binary64 (Nonneg AtLeastOne)

namespace Duration

/-! ### Spans as seconds -/

/-- The first of two spans is not the longer one. One that cannot be counted is longer than all others. -/
def NoLonger (s t : Option Nanoseconds) : Prop := ∀ d ∈ t, ∃ c ∈ s, c ≤ d

theorem NoLonger.isSome {s t : Option Nanoseconds} (hle : NoLonger s t) (ht : t.isSome) : s.isSome := by
  obtain ⟨d, hd⟩ := Option.isSome_iff_exists.mp ht
  obtain ⟨c, hc, -⟩ := hle d hd
  exact Option.isSome_iff_exists.mpr ⟨c, hc⟩

theorem ofSeconds?_of_nonneg {x : Binary64} (hx : Nonneg x) :
    ofSeconds? x = if x.units / Binary64.unitsPerOne < secondsLimit then
      some (Binary64.roundQuotient (x.units * perSecond) Binary64.unitsPerOne) else none := by
  have hinfinite : x.isFinite = false → ¬ x.units / Binary64.unitsPerOne < secondsLimit := by
    intro hfinite
    have hbody : x.body = Binary64.infinityBody := by
      have hle := hx.body_le
      simp only [Binary64.isFinite, decide_eq_false_iff_not] at hfinite
      omega
    rw [Binary64.units_eq, hbody]
    decide +kernel
  rw [ofSeconds?, hx.positive]
  cases hfinite : x.isFinite with
  | false => simp [hinfinite hfinite]
  | true =>
      by_cases hlt : x.units / Binary64.unitsPerOne < secondsLimit
      · simp [hlt]
      · simp [hlt, Nat.not_lt.mp hlt]

theorem ofSeconds?_mono {x y : Binary64} (hx : Nonneg x) (hy : Nonneg y) (hle : x.body ≤ y.body) :
    NoLonger (ofSeconds? x) (ofSeconds? y) := by
  have hunits : x.units ≤ y.units := Binary64.unitsOf_mono hle
  intro d hd
  rw [ofSeconds?_of_nonneg hy, Option.mem_def, Option.ite_none_right_eq_some] at hd
  obtain ⟨hlimit, hround⟩ := hd
  have hcounted : x.units / Binary64.unitsPerOne < secondsLimit := (Nat.div_le_div_right hunits).trans_lt hlimit
  refine ⟨_, (ofSeconds?_of_nonneg hx).trans (if_pos hcounted), ?_⟩
  rw [← Option.some_inj.mp hround]
  exact Binary64.roundQuotient_mono Binary64.unitsPerOne_pos Binary64.unitsPerOne_pos
    (Nat.mul_le_mul_right _ (Nat.mul_le_mul_right _ hunits))

/-- Seconds that are not below zero have a span exactly if they can be counted. -/
theorem isSome_ofSeconds? {x : Binary64} (hx : Nonneg x) :
    (ofSeconds? x).isSome ↔ x.units / Binary64.unitsPerOne < secondsLimit := by
  rw [ofSeconds?_of_nonneg hx]
  split
  case isTrue hlt => simp [hlt]
  case isFalse hge => simp [hge]

/-- The part of a span behind its whole seconds. -/
def fraction (d : Nanoseconds) : Binary64 := (Binary64.ofInt (d % perSecond : Nat)).div (Binary64.ofInt perSecond)

theorem toSeconds_eq (d : Nanoseconds) : toSeconds d = (Binary64.ofInt (d / perSecond : Nat)).add (fraction d) := rfl

theorem atLeastOne_perSecond : AtLeastOne (Binary64.ofInt perSecond) := Binary64.atLeastOne_of_le (by decide +kernel)

theorem isInfinite_perSecond : (Binary64.ofInt perSecond).isInfinite = false := by decide +kernel

theorem nonneg_fraction (d : Nanoseconds) : Nonneg (fraction d) :=
  Binary64.nonneg_div (Binary64.nonneg_ofInt _) atLeastOne_perSecond (by rw [isInfinite_perSecond, Bool.and_false])

theorem fraction_le_one (d : Nanoseconds) : (fraction d).body ≤ Binary64.one.body := by
  have hrest : d % perSecond ≤ perSecond := Nat.le_of_lt (Nat.mod_lt d (by decide))
  rw [fraction, Binary64.body_div (Binary64.nonneg_ofInt _) atLeastOne_perSecond
    (by rw [isInfinite_perSecond, Bool.and_false])]
  exact Binary64.quotientBody_le_one atLeastOne_perSecond isInfinite_perSecond (Binary64.ofInt_mono hrest)

theorem nonneg_toSeconds (d : Nanoseconds) : Nonneg (toSeconds d) := by
  rw [toSeconds_eq]
  exact Binary64.nonneg_add (Binary64.nonneg_ofInt _) (nonneg_fraction d)

theorem body_toSeconds (d : Nanoseconds) :
    (toSeconds d).body = Binary64.sumBody (Binary64.ofInt (d / perSecond : Nat)) (fraction d) := by
  rw [toSeconds_eq, Binary64.body_add (Binary64.nonneg_ofInt _) (nonneg_fraction d)]

/-- A span survives being written as seconds unless these are rounded up to `2 ^ 64`. -/
theorem isSome_ofSeconds?_toSeconds {d : Nanoseconds} :
    (ofSeconds? (toSeconds d)).isSome ↔ d < ofSeconds (2 ^ 64 - 1024) := by
  have hwhole : d < ofSeconds (2 ^ 64 - 1024) ↔ d / perSecond < 2 ^ 64 - 1024 :=
    (Nat.div_lt_iff_lt_mul (by decide)).symm
  rw [isSome_ofSeconds? (nonneg_toSeconds d), hwhole, Binary64.units_eq, body_toSeconds]
  constructor
  · intro hlimit
    by_contra hge
    have hzero : Binary64.zero.body = 0 := by decide +kernel
    have hsum := Binary64.sumBody_mono (Binary64.nonneg_ofInt _) (nonneg_fraction d)
      (Binary64.ofInt_mono (Nat.not_lt.mp hge)) (hzero.trans_le (Nat.zero_le _))
    have hcounted := (Nat.div_le_div_right (Binary64.unitsOf_mono hsum)).trans_lt hlimit
    revert hcounted
    decide +kernel
  · intro hlt
    have hsum := Binary64.sumBody_mono (Binary64.nonneg_ofInt _) Binary64.nonneg_one
      (Binary64.ofInt_mono (Nat.le_sub_one_of_lt hlt)) (fraction_le_one d)
    refine (Nat.div_le_div_right (Binary64.unitsOf_mono hsum)).trans_lt ?_
    decide +kernel

end Duration

namespace Backoff

open Duration (NoLonger)

/-! ### The exponent -/

section Exponent

variable {failures : Nat}

theorem exponent_eq (failures : Nat) : exponent failures = ((failures - 1 : Nat) : Int).bmod 4294967296 := rfl

/-- The exponent follows the number of failures as long as it fits. -/
theorem exponent_of_le (hpos : 1 ≤ failures) (hfits : failures ≤ 2 ^ 31) : exponent failures = failures - 1 := by
  rw [exponent_eq, Int.bmod_def, if_pos (by omega)]
  omega

/-- From then on it is short of the number of failures by `2 ^ 32`, and negative. -/
theorem exponent_of_lt (hwraps : 2 ^ 31 < failures) (hword : failures < UInt32.size) :
    exponent failures = failures - 1 - 2 ^ 32 := by
  have hsize : UInt32.size = 4294967296 := rfl
  rw [exponent_eq, Int.bmod_def, if_neg (by omega)]
  omega

theorem exponent_eq_iff (hpos : 1 ≤ failures) (hword : failures < UInt32.size) :
    exponent failures = failures - 1 ↔ failures ≤ 2 ^ 31 := by
  constructor
  · intro heq
    by_contra hwraps
    have hless := exponent_of_lt (Nat.not_le.mp hwraps) hword
    omega
  · exact exponent_of_le hpos

/-- On either side of the place where it wraps the exponent grows with the number of failures. -/
theorem exponent_mono {earlier later : Nat} (hpos : 1 ≤ earlier) (hle : earlier ≤ later) (hword : later < UInt32.size)
    (hside : later ≤ 2 ^ 31 ∨ 2 ^ 31 < earlier) : exponent earlier ≤ exponent later := by
  rcases hside with hfits | hwraps
  · rw [exponent_of_le hpos (hle.trans hfits), exponent_of_le (hpos.trans hle) hfits]
    omega
  · rw [exponent_of_lt hwraps (hle.trans_lt hword), exponent_of_lt (hwraps.trans_le hle) hword]
    omega

end Exponent

/-! ### The delay -/

/-- The body of the seconds of a delay: the product of the first delay and the power, cut at the limit. -/
def secondsBody (b : Backoff) (failures : Nat) : Nat :=
  min (Binary64.productBody (Duration.toSeconds b.initialDelay) (b.multiplier.powInt (exponent failures)))
    (Duration.toSeconds b.maxDelay).body

theorem secondsBody_le_maxDelay (b : Backoff) (failures : Nat) :
    b.secondsBody failures ≤ (Duration.toSeconds b.maxDelay).body :=
  min_le_right _ _

theorem secondsBody_le (b : Backoff) (failures : Nat) : b.secondsBody failures ≤ Binary64.infinityBody :=
  (b.secondsBody_le_maxDelay failures).trans (Duration.nonneg_toSeconds b.maxDelay).body_le

section Delay

variable {b : Backoff} (hmultiplier : AtLeastOne b.multiplier)
include hmultiplier

theorem delay?_eq (failures : Nat) :
    b.delay? failures = Duration.ofSeconds? (Binary64.make false (b.secondsBody failures)) :=
  congrArg Duration.ofSeconds? (Binary64.minNum_mul (Duration.nonneg_toSeconds _) (hmultiplier.nonneg_powInt _)
    (Duration.nonneg_toSeconds _))

/-- A greater exponent does not give a shorter delay. -/
theorem delay?_mono {earlier later : Nat} (hle : exponent earlier ≤ exponent later) :
    NoLonger (b.delay? earlier) (b.delay? later) := by
  have hproduct := Binary64.productBody_mono (Duration.nonneg_toSeconds b.initialDelay)
    (hmultiplier.nonneg_powInt (exponent later)) (Nat.le_refl _) (hmultiplier.powInt_mono hle)
  have hearlier := b.secondsBody_le earlier
  have hlater := b.secondsBody_le later
  rw [delay?_eq hmultiplier, delay?_eq hmultiplier]
  refine Duration.ofSeconds?_mono (Binary64.nonneg_make hearlier) (Binary64.nonneg_make hlater) ?_
  rw [Binary64.body_make hearlier, Binary64.body_make hlater]
  exact min_le_min_right _ hproduct

/-- No delay is longer than the limit. -/
theorem delay?_noLonger_maxDelay (failures : Nat) :
    NoLonger (b.delay? failures) (Duration.ofSeconds? (Duration.toSeconds b.maxDelay)) := by
  have hbody := b.secondsBody_le failures
  rw [delay?_eq hmultiplier]
  refine Duration.ofSeconds?_mono (Binary64.nonneg_make hbody) (Duration.nonneg_toSeconds _) ?_
  rw [Binary64.body_make hbody]
  exact b.secondsBody_le_maxDelay failures

theorem isSome_delay? (hlimit : b.maxDelay < Duration.ofSeconds (2 ^ 64 - 1024)) (failures : Nat) :
    (b.delay? failures).isSome :=
  (delay?_noLonger_maxDelay hmultiplier failures).isSome (Duration.isSome_ofSeconds?_toSeconds.mpr hlimit)

end Delay

/-- Take a schedule with a multiplier that is not below one, and two numbers of failures after which it tries again.
The exponent is one less than the number of failures exactly up to `2 ^ 31`. If both numbers are on the same side of
that, the later delay is not the shorter one; if the exponent wraps between them, it is not the longer one. There is a
delay in any case if the limit itself is not rounded up to `2 ^ 64` seconds. -/
theorem grows_unless_wrapped {b : Backoff} (hword : b.maxAttempts < UInt32.size)
    (hmultiplier : Binary64.one.le b.multiplier = true) {earlier later : Nat} (hpos : 1 ≤ earlier)
    (hle : earlier ≤ later) (hagain : later < b.maxAttempts) :
    (exponent earlier = earlier - 1 ↔ earlier ≤ 2 ^ 31) ∧ (exponent later = later - 1 ↔ later ≤ 2 ^ 31) ∧
    (later ≤ 2 ^ 31 ∨ 2 ^ 31 < earlier → NoLonger (b.delay? earlier) (b.delay? later)) ∧
    (earlier ≤ 2 ^ 31 → 2 ^ 31 < later → NoLonger (b.delay? later) (b.delay? earlier)) ∧
    (b.maxDelay < Duration.ofSeconds (2 ^ 64 - 1024) → (b.delay? earlier).isSome ∧ (b.delay? later).isSome) := by
  have hone : AtLeastOne b.multiplier := Binary64.atLeastOne_of_le hmultiplier
  have hlater : later < UInt32.size := hagain.trans hword
  have hearlier : earlier < UInt32.size := hle.trans_lt hlater
  refine ⟨exponent_eq_iff hpos hearlier, exponent_eq_iff (hpos.trans hle) hlater, ?_, ?_, ?_⟩
  · intro hside
    exact delay?_mono hone (exponent_mono hpos hle hlater hside)
  · intro hfits hwraps
    have hsize : UInt32.size = 4294967296 := rfl
    refine delay?_mono hone ?_
    rw [exponent_of_le hpos hfits, exponent_of_lt hwraps hlater]
    omega
  · intro hlimit
    exact ⟨isSome_delay? hone hlimit earlier, isSome_delay? hone hlimit later⟩

/-! ### As many failures as a word can count -/

namespace Tireless

/-- The schedule of status updates with the largest number of attempts that there can be. -/
def schedule : Backoff := { statusUpdate with maxAttempts := UInt32.size - 1 }

/-- From the third failure to the last one before the exponent wraps. -/
theorem grows_to_limit : schedule.maxAttempts < UInt32.size ∧ Binary64.one.le schedule.multiplier = true ∧
    2 ^ 31 < schedule.maxAttempts ∧ NoLonger (schedule.delay? 3) (schedule.delay? (2 ^ 31)) ∧
    schedule.delay? 3 = some (Duration.ofMillis 40) ∧ schedule.delay? (2 ^ 31) = some (Duration.ofSeconds 1) := by
  have hword : schedule.maxAttempts < UInt32.size := by decide
  have hmultiplier : Binary64.one.le schedule.multiplier = true := by decide +kernel
  have hagain : 2 ^ 31 < schedule.maxAttempts := by decide
  have hthird : schedule.delay? 3 = some (Duration.ofMillis 40) := by decide +kernel
  have hlast : schedule.delay? (2 ^ 31) = some (Duration.ofSeconds 1) := by decide +kernel
  obtain ⟨-, -, hgrows, -, -⟩ := grows_unless_wrapped hword hmultiplier (show 1 ≤ 3 by decide)
    (show 3 ≤ 2 ^ 31 by decide) hagain
  exact ⟨hword, hmultiplier, hagain, hgrows (Or.inl (Nat.le_refl _)), hthird, hlast⟩

/-- With one failure more the exponent is negative, and there is no delay to speak of. -/
theorem shrinks_at_wrap : schedule.maxAttempts < UInt32.size ∧ Binary64.one.le schedule.multiplier = true ∧
    2 ^ 31 + 1 < schedule.maxAttempts ∧ exponent (2 ^ 31 + 1) = -2 ^ 31 ∧
    schedule.delay? (2 ^ 31) = some (Duration.ofSeconds 1) ∧ schedule.delay? (2 ^ 31 + 1) = some 0 ∧
    ¬ NoLonger (schedule.delay? (2 ^ 31)) (schedule.delay? (2 ^ 31 + 1)) := by
  have hbefore : schedule.delay? (2 ^ 31) = some (Duration.ofSeconds 1) := by decide +kernel
  have hafter : schedule.delay? (2 ^ 31 + 1) = some 0 := by decide +kernel
  refine ⟨by decide, by decide +kernel, by decide, by decide +kernel, hbefore, hafter, ?_⟩
  rw [hbefore, hafter]
  intro hle
  obtain ⟨d, hd, hzero⟩ := hle 0 rfl
  obtain rfl : Duration.ofSeconds 1 = d := Option.some_inj.mp hd
  exact absurd hzero (by decide)

end Tireless

end Backoff

end Provision

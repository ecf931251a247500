import Mathlib.Algebra.Order.Floor.Div
import Provision.Feature.Check
import Provision.Proofs.Feature.Perform

/-!
That waiting ends. A wait goes on until a check holds, or until a check that does not hold is made at or after the time
limit. On a clock that goes on while somebody sleeps there are only so many checks, so waiting with a bound on their
number is waiting without one.
-/

namespace Provision.Poll

/-! ### Waiting without a bound -/

section Waiting

variable {S : Type} [Clock (StateM S)]

/-- The most recent failure after one more check. -/
def lastAfter (last : Option Failure) : Except Failure Bool → Option Failure
  | .ok _ => last
  | .error f => some f

/-- Waiting, with no bound on the number of checks: how many are made until it ends, and how it ends. -/
inductive Ends (start timeout interval : Nat) (what : String) (check : ExceptT Failure (StateM S) Bool) :
    Nat → Option Failure → S → Except Failure Unit → S → Prop
  | holds {last : Option Failure} {w w' : S} (hcheck : check.run.run w = (.ok true, w')) :
      Ends start timeout interval what check 1 last w (.ok ()) w'
  | late {last : Option Failure} {outcome : Except Failure Bool} {now : Nat} {w w' w'' : S}
      (hcheck : check.run.run w = (outcome, w')) (hnot : outcome ≠ .ok true)
      (hnow : (Clock.elapsed : StateM S Nanoseconds).run w' = (now, w'')) (hlate : timeout ≤ now - start) :
      Ends start timeout interval what check 1 last w (.error (timedOut timeout what (lastAfter last outcome))) w''
  | again {last : Option Failure} {outcome : Except Failure Bool} {now : Nat} {checks : Nat}
      {result : Except Failure Unit} {w w' w'' w₃ w₄ : S}
      (hcheck : check.run.run w = (outcome, w')) (hnot : outcome ≠ .ok true)
      (hnow : (Clock.elapsed : StateM S Nanoseconds).run w' = (now, w'')) (hleft : ¬ timeout ≤ now - start)
      (hsleep : (Clock.sleep interval : StateM S Unit).run w'' = ((), w₃))
      (hrest : Ends start timeout interval what check checks (lastAfter last outcome) w₃ result w₄) :
      Ends start timeout interval what check (checks + 1) last w result w₄

variable {start timeout interval : Nat} {what : String} {check : ExceptT Failure (StateM S) Bool}

theorem Ends.pos {checks : Nat} {last : Option Failure} {result : Except Failure Unit} {w w' : S}
    (hends : Ends start timeout interval what check checks last w result w') : 0 < checks := by
  cases hends <;> exact Nat.succ_pos _

theorem run_checkFrom_of_holds (checks : Nat) (last : Option Failure) {w w' : S}
    (hcheck : check.run.run w = (.ok true, w')) :
    (checkFrom start timeout interval what check (checks + 1) last).run.run w = (.ok (), w') := by
  rw [checkFrom, ExceptT.run_mk, StateT.run_bind, hcheck]
  rfl

theorem run_checkFrom_of_not (checks : Nat) (last : Option Failure) {outcome : Except Failure Bool}
    {now : Nat} {w w' w'' : S} (hcheck : check.run.run w = (outcome, w')) (hnot : outcome ≠ .ok true)
    (hnow : (Clock.elapsed : StateM S Nanoseconds).run w' = (now, w'')) :
    (checkFrom start timeout interval what check (checks + 1) last).run.run w =
      if timeout ≤ now - start then (.error (timedOut timeout what (lastAfter last outcome)), w'')
      else (checkFrom start timeout interval what check checks (lastAfter last outcome)).run.run
        (((Clock.sleep interval : StateM S Unit).run w'').run).2 := by
  rw [checkFrom, ExceptT.run_mk, StateT.run_bind, hcheck]
  have hafter : ∀ last : Option Failure, (do
      let now ← Clock.elapsed
      if timeout ≤ now - start then pure (.error (timedOut timeout what last))
      else
        Clock.sleep interval
        (checkFrom start timeout interval what check checks last).run : StateM S (Except Failure Unit)).run w' =
      if timeout ≤ now - start then (.error (timedOut timeout what last), w'')
      else (checkFrom start timeout interval what check checks last).run.run
        (((Clock.sleep interval : StateM S Unit).run w'').run).2 := by
    intro last
    rw [StateT.run_bind, hnow]
    change StateT.run (m := Id) (if timeout ≤ now - start then _ else _) w'' = _
    split <;> rfl
  match outcome, hnot with
  | .ok false, _ => exact hafter last
  | .error f, _ => exact hafter (some f)

/-- The run lemma: with at least as many checks as are made without a bound, waiting ends the same way. -/
theorem Ends.run_checkFrom {checks bound : Nat} {last : Option Failure} {result : Except Failure Unit} {w w' : S}
    (hends : Ends start timeout interval what check checks last w result w') (hbound : checks ≤ bound) :
    (checkFrom start timeout interval what check bound last).run.run w = (result, w') := by
  induction hends generalizing bound with
  | holds hcheck =>
      obtain ⟨bound, rfl⟩ : ∃ b, bound = b + 1 := ⟨bound - 1, by omega⟩
      exact run_checkFrom_of_holds bound _ hcheck
  | late hcheck hnot hnow hlate =>
      obtain ⟨bound, rfl⟩ : ∃ b, bound = b + 1 := ⟨bound - 1, by omega⟩
      rw [run_checkFrom_of_not bound _ hcheck hnot hnow, if_pos hlate]
  | again hcheck hnot hnow hleft hsleep _ ih =>
      obtain ⟨bound, rfl⟩ : ∃ b, bound = b + 1 := ⟨bound - 1, by omega⟩
      rw [run_checkFrom_of_not bound _ hcheck hnot hnow, if_neg hleft, hsleep]
      exact ih (by omega)

/-! ### Clocks -/

/-- A clock shows a time, and a sleep on it takes at least as long as it should. -/
structure Shows (time : S → Nat) : Prop where
  elapsed (w : S) : (Clock.elapsed : StateM S Nanoseconds).run w = (time w, w)
  sleep (d : Nanoseconds) (w : S) : time w + d ≤ time ((Clock.sleep d : StateM S Unit).run w).run.2

/-- In some states, a sleep for the interval takes exactly that long and leads to such a state again. -/
structure Exact (time : S → Nat) (interval : Nat) (states : Set S) : Prop where
  sleep (w : S) (hw : w ∈ states) : time ((Clock.sleep interval : StateM S Unit).run w).run.2 = time w + interval
  stays (w : S) (hw : w ∈ states) : ((Clock.sleep interval : StateM S Unit).run w).run.2 ∈ states

/-- A computation does not turn the clock back. -/
def Forward (time : S → Nat) {α : Type} (x : ExceptT Failure (StateM S) α) : Prop :=
  ∀ w, time w ≤ time (x.run.run w).run.2

variable {time : S → Nat}

omit [Clock (StateM S)] in
theorem Forward.exists_run {α : Type} {x : ExceptT Failure (StateM S) α} (hforward : Forward time x) (w : S) :
    ∃ outcome w', x.run.run w = (outcome, w') ∧ time w ≤ time w' :=
  ⟨_, _, rfl, hforward w⟩

/-- If the time limit is at most so many intervals away, waiting ends after at most one check more. -/
theorem exists_ends (hclock : Shows time) (hforward : Forward time check) (start timeout interval : Nat)
    (what : String) (left : Nat) (last : Option Failure) {w : S} (hstart : start ≤ time w)
    (hleft : start + timeout ≤ time w + left * interval) :
    ∃ checks result w', checks ≤ left + 1 ∧ Ends start timeout interval what check checks last w result w' := by
  induction left generalizing last w with
  | zero =>
      obtain ⟨outcome, w', hcheck, htime⟩ := hforward.exists_run w
      by_cases hholds : outcome = .ok true
      · subst hholds
        exact ⟨1, _, w', Nat.le_refl 1, .holds hcheck⟩
      · exact ⟨1, _, w', Nat.le_refl 1, .late hcheck hholds (hclock.elapsed w') (by omega)⟩
  | succ left ih =>
      obtain ⟨outcome, w', hcheck, htime⟩ := hforward.exists_run w
      by_cases hholds : outcome = .ok true
      · subst hholds
        exact ⟨1, _, w', by omega, .holds hcheck⟩
      · by_cases hlate : timeout ≤ time w' - start
        · exact ⟨1, _, w', by omega, .late hcheck hholds (hclock.elapsed w') hlate⟩
        · -- The sleep takes at least one of the intervals that are left.
          have hslept := hclock.sleep interval w'
          rw [Nat.succ_mul] at hleft
          obtain ⟨checks, result, w₄, hchecks, hends⟩ := ih (lastAfter last outcome)
            (w := ((Clock.sleep interval : StateM S Unit).run w').run.2) (by omega) (by omega)
          exact ⟨checks + 1, result, w₄, by omega, .again hcheck hholds (hclock.elapsed w') hlate rfl hends⟩

theorem le_ceilDiv_mul {interval : Nat} (hpos : 0 < interval) (timeout : Nat) :
    timeout ≤ timeout ⌈/⌉ interval * interval := by
  rw [Nat.mul_comm]
  exact le_smul_ceilDiv hpos

/-- How often the interval fits into the time limit decides which checks are made at or after the limit. -/
theorem le_mul_iff {interval : Nat} (hpos : 0 < interval) (timeout j : Nat) :
    timeout ≤ j * interval ↔ timeout ⌈/⌉ interval ≤ j := by
  rw [ceilDiv_le_iff_le_smul hpos, smul_eq_mul, Nat.mul_comm]

/-- The bound on the number of checks is one that waiting never needs. -/
theorem ceilDiv_lt_maxChecks (timeout interval : Nat) : timeout ⌈/⌉ interval < maxChecks timeout interval := by
  rw [maxChecks, Nat.ceilDiv_eq_add_pred_div]
  rcases Nat.eq_zero_or_pos interval with rfl | hpos
  · simp
  · have hle : (timeout + interval - 1) / interval ≤ (timeout + interval) / interval :=
      Nat.div_le_div_right (Nat.sub_le _ 1)
    rw [Nat.add_div_right _ hpos] at hle
    rw [Nat.max_eq_left hpos]
    omega

/-- Waiting with its own bound on the number of checks is waiting without one. -/
theorem run_pollUntil (hclock : Shows time) {checks : Nat} {result : Except Failure Unit} {w w' : S}
    (hends : Ends (time w) timeout interval what check checks none w result w')
    (hchecks : checks ≤ timeout ⌈/⌉ interval + 1) :
    (pollUntil timeout interval what check).run.run w = (result, w') := by
  have hbound : checks ≤ maxChecks timeout interval := Nat.le_trans hchecks (ceilDiv_lt_maxChecks timeout interval)
  rw [pollUntil]
  exact (run_lift_bind _ (hclock.elapsed w)).trans (hends.run_checkFrom hbound)

/-- Whatever the time limit, waiting between checks for the interval of a wait ends. -/
theorem exists_ends_wait (hclock : Shows time) (hforward : Forward time check) (timeout : Nat) (what : String) (w : S) :
    ∃ checks result w', checks ≤ timeout ⌈/⌉ min Action.checkInterval timeout + 1 ∧
      Ends (time w) timeout (min Action.checkInterval timeout) what check checks none w result w' := by
  refine exists_ends hclock hforward (time w) timeout _ what _ none (Nat.le_refl _) (Nat.add_le_add_left ?_ _)
  rcases Nat.eq_zero_or_pos timeout with rfl | hpos
  · exact Nat.zero_le _
  · exact le_ceilDiv_mul (Nat.lt_min.mpr ⟨by decide, hpos⟩) timeout

omit [Clock (StateM S)] in
theorem Forward.map {α β : Type} {x : ExceptT Failure (StateM S) α} (hforward : Forward time x) (f : α → β) :
    Forward time (f <$> x) := by
  intro w
  have htime := hforward w
  rw [ExceptT.run_map, StateT.run_map]
  exact htime

end Waiting

end Provision.Poll

import Mathlib.Order.Bounds.Basic
import Provision.Backoff

/-!
How often an operation is tried. Retrying stops with the first call that succeeds or fails for good, and at the
latest with the last call that the schedule allows; the outcome of that call is the outcome of the whole. The loop
that counts its failures in a word of 32 bits comes to the same, so its count never overflows.
-/

namespace Provision.Backoff

/-! ### The calls of an operation -/

section Calls

variable {α ε E : Type} (retryable : ε → Bool) (outcomes : Nat → Except ε α)

/-- An outcome that is not retried: a success, or a failure for good. -/
def Settled : Except ε α → Prop
  | .ok _ => True
  | .error e => retryable e = false

/-- The calls that are not followed by another one: those whose outcome is not retried, and the last one allowed.
Calls are numbered from one. -/
def stops (allowed : Nat) : Set Nat :=
  {i | 1 ≤ i ∧ (Settled retryable (outcomes i) ∨ i = allowed)}

/-- What goes on around an operation, and how often the operation has been called. -/
structure Calls (E : Type) where
  made : Nat
  rest : E

/-- Do something that is no call of the operation. -/
def Calls.between (x : StateM E α) : StateM (Calls E) α := fun w =>
  let after := (x.run w.rest).run
  (after.1, { w with rest := after.2 })

instance [Clock (StateM E)] : Clock (StateM (Calls E)) where
  elapsed := Calls.between Clock.elapsed
  sleep d := Calls.between (Clock.sleep d)
  now := Calls.between Clock.now

/-- The operation with the given outcomes, one after the other. -/
def calls : ExceptT ε (StateM (Calls E)) α := ExceptT.mk fun w =>
  (outcomes (w.made + 1), { w with made := w.made + 1 })

variable {retryable outcomes}

/-- If the first call is not followed by another one, it is the last. -/
theorem isLeast_stops_one {allowed : Nat} (hstops : Settled retryable (outcomes 1) ∨ 1 = allowed) :
    IsLeast (stops retryable outcomes allowed) 1 := by
  constructor
  · exact ⟨Nat.le_refl 1, hstops⟩
  · intro i hi
    exact hi.1

/-- If the first call is retried, the last one is found among the others. -/
theorem isLeast_stops_succ {allowed k : Nat} (hfirst : ¬ Settled retryable (outcomes 1)) (hallowed : allowed ≠ 0)
    (hk : IsLeast (stops retryable (fun i => outcomes (i + 1)) allowed) k) :
    IsLeast (stops retryable outcomes (allowed + 1)) (k + 1) := by
  constructor
  · refine ⟨by omega, ?_⟩
    rcases hk.1.2 with hsettled | hlast
    · exact Or.inl hsettled
    · exact Or.inr (by omega)
  · rintro i ⟨hpos, hstops⟩
    have hne : i ≠ 1 := by
      rintro rfl
      rcases hstops with hsettled | hlast
      · exact hfirst hsettled
      · omega
    obtain ⟨j, rfl⟩ : ∃ j, i = j + 1 := ⟨i - 1, by omega⟩
    have hj : j ∈ stops retryable (fun i => outcomes (i + 1)) allowed := by
      refine ⟨by omega, ?_⟩
      rcases hstops with hsettled | hlast
      · exact Or.inl hsettled
      · exact Or.inr (by omega)
    have := hk.2 hj
    omega

/-- One attempt of several: its outcome decides whether there is another one. -/
theorem run_attempt_succ {S : Type} [Clock (StateM S)] (b : Backoff) (operation : ExceptT ε (StateM S) α)
    (left failures : Nat) (w : S) :
    (b.attempt retryable operation (left + 1) failures).run.run w =
      match operation.run.run w with
      | (.ok a, after) => (.ok a, after)
      | (.error e, after) =>
        if retryable e then
          (b.attempt retryable operation left (failures + 1)).run.run
            (((Clock.sleep ((b.delay? (failures + 1)).getD 0) : StateM S Unit).run after).run).2
        else (.error e, after) := by
  rw [attempt, ExceptT.run_mk, StateT.run_bind]
  rcases operation.run.run w with ⟨outcome, after⟩
  cases outcome with
  | ok a => rfl
  | error e =>
      change StateT.run (m := Id) (if retryable e = true then _ else _) after = _
      by_cases hretry : retryable e
      · rw [if_pos hretry]
        simp only [hretry, if_true]
        rfl
      · rw [if_neg hretry]
        simp only [hretry]
        rfl

variable [Clock (StateM E)]

/-- The run lemma: attempts go on up to the first call that is not followed by another one, and end as it does. -/
theorem attempt_calls (b : Backoff) (retryable : ε → Bool) (outcomes : Nat → Except ε α)
    (left failures made : Nat) (rest : E) :
    ∃ k rest', IsLeast (stops retryable (fun i => outcomes (made + i)) (left + 1)) k ∧
      (b.attempt retryable (calls outcomes) left failures).run.run ⟨made, rest⟩ =
        (outcomes (made + k), ⟨made + k, rest'⟩) := by
  induction left generalizing failures made rest with
  | zero => exact ⟨1, rest, isLeast_stops_one (Or.inr rfl), rfl⟩
  | succ left ih =>
      have hcall : (calls outcomes).run.run (⟨made, rest⟩ : Calls E) = (outcomes (made + 1), ⟨made + 1, rest⟩) := rfl
      rw [run_attempt_succ, hcall]
      by_cases hsettled : Settled retryable (outcomes (made + 1))
      · refine ⟨1, rest, isLeast_stops_one (Or.inl hsettled), ?_⟩
        cases houtcome : outcomes (made + 1) with
        | ok a => rfl
        | error e =>
            have hgood : retryable e = false := by simpa [houtcome, Settled] using hsettled
            simp [hgood]
      · cases houtcome : outcomes (made + 1) with
        | ok a => simp [houtcome, Settled] at hsettled
        | error e =>
            have hretry : retryable e = true := by simpa [houtcome, Settled] using hsettled
            obtain ⟨k, rest', hk, hrun⟩ := ih (failures + 1) (made + 1)
              ((Clock.sleep ((b.delay? (failures + 1)).getD 0) : StateM E Unit).run rest).run.2
            refine ⟨k + 1, rest', isLeast_stops_succ hsettled (Nat.succ_ne_zero left) ?_, ?_⟩
            · simpa only [Nat.add_assoc, Nat.add_comm 1] using hk
            · have hnumber : made + (k + 1) = made + 1 + k := by omega
              simp only [hretry, if_true, hnumber]
              exact hrun

end Calls

/-! ### Counting in words -/

section Counting

variable {m : Type → Type} [Monad m] [Clock m] {α ε : Type}

/-- One failure more, if the count fits into a word of 32 bits. -/
def countUp? (failures : UInt32) : Option UInt32 :=
  if failures.toNat + 1 < UInt32.size then some (failures + 1) else none

/-- Retrying as a loop that counts the failures in a word, for some rounds. There is no outcome if the loop would go
round once more, or if the count overflows. -/
def loop (b : Backoff) (retryable : ε → Bool) (operation : ExceptT ε m α) : Nat → UInt32 → m (Option (Except ε α))
  | 0, _ => pure none
  | rounds + 1, failures => do
    match ← operation.run with
    | .ok a => pure (some (.ok a))
    | .error e =>
      match countUp? failures with
      | none => pure none
      | some failures =>
        if !retryable e then pure (some (.error e))
        else if max 1 b.maxAttempts ≤ failures.toNat then pure (some (.error e))
        else
          Clock.sleep ((b.delay? failures.toNat).getD 0)
          loop b retryable operation rounds failures

theorem exists_countUp? (failures : UInt32) (hfits : failures.toNat + 1 < UInt32.size) :
    ∃ next, countUp? failures = some next ∧ next.toNat = failures.toNat + 1 := by
  refine ⟨failures + 1, if_pos hfits, ?_⟩
  rw [UInt32.toNat_add]
  exact Nat.mod_eq_of_lt hfits

/-- In as many rounds as there are attempts left, the loop comes to its end, and its count fits all the time. -/
theorem loop_eq [LawfulMonad m] {b : Backoff} (hword : b.maxAttempts < UInt32.size) (retryable : ε → Bool)
    (operation : ExceptT ε m α) (left rounds : Nat) (failures : UInt32)
    (hleft : failures.toNat + (left + 1) = max 1 b.maxAttempts) (hrounds : left < rounds) :
    b.loop retryable operation rounds failures =
      some <$> (b.attempt retryable operation left failures.toNat).run := by
  have hsize : 1 < UInt32.size := by decide
  induction left generalizing rounds failures with
  | zero =>
      obtain ⟨rounds, rfl⟩ : ∃ r, rounds = r + 1 := ⟨rounds - 1, by omega⟩
      obtain ⟨next, hnext, hcount⟩ := exists_countUp? failures (by omega)
      have hlast : max 1 b.maxAttempts ≤ next.toNat := by omega
      rw [loop, attempt, map_eq_pure_bind]
      refine bind_congr fun outcome => ?_
      cases outcome with
      | ok a => rfl
      | error e => simp [hnext, hlast]
  | succ left ih =>
      obtain ⟨rounds, rfl⟩ : ∃ r, rounds = r + 1 := ⟨rounds - 1, by omega⟩
      obtain ⟨next, hnext, hcount⟩ := exists_countUp? failures (by omega)
      have hmore : ¬ max 1 b.maxAttempts ≤ failures.toNat + 1 := by omega
      rw [loop, attempt, ExceptT.run_mk, map_bind]
      refine bind_congr fun outcome => ?_
      cases outcome with
      | ok a => simp
      | error e =>
          by_cases hretry : retryable e
          · have hrest := ih rounds next (by omega) (by omega)
            simp only [hnext, hretry, hcount, if_neg hmore]
            simp [hrest, hcount]
          · simp [hnext, hretry]

end Counting

/-! ### The whole -/

/-- With a schedule whose number of attempts fits into a word of 32 bits, and whatever the outcomes of the calls are,
an operation is called up to the first call that is not retried, but at most as often as the schedule allows and at
least once; the outcome is that of the last call. The loop that counts its failures in a word does the same and comes
to its end in as many rounds as there may be calls. -/
theorem calls_until_settled {α ε E : Type} [Clock (StateM E)] {b : Backoff} (hword : b.maxAttempts < UInt32.size)
    (retryable : ε → Bool) (outcomes : Nat → Except ε α) (rest : E) :
    ∃ k rest', IsLeast (stops retryable outcomes (max 1 b.maxAttempts)) k ∧
      (b.retry retryable (calls outcomes)).run.run ⟨0, rest⟩ = (outcomes k, ⟨k, rest'⟩) ∧
      (b.loop retryable (calls outcomes) (max 1 b.maxAttempts) 0).run ⟨0, rest⟩ =
        (some (outcomes k), ⟨k, rest'⟩) := by
  have hallowed : b.maxAttempts - 1 + 1 = max 1 b.maxAttempts := by omega
  obtain ⟨k, rest', hk, hrun⟩ :=
    attempt_calls b retryable outcomes (b.maxAttempts - 1) 0 0 rest
  have hzero : (0 : UInt32).toNat = 0 := rfl
  have hloop := loop_eq hword retryable (calls outcomes : ExceptT ε (StateM (Calls E)) α) (b.maxAttempts - 1)
    (max 1 b.maxAttempts) 0 (by omega) (by omega)
  simp only [Nat.zero_add, hallowed] at hk hrun
  refine ⟨k, rest', hk, hrun, ?_⟩
  rw [hloop, StateT.run_map, hzero, hrun]
  rfl

/-! ### As many attempts as a word can count -/

namespace Patient

/-- A clock that runs while somebody sleeps. -/
instance : Clock (StateM Nanoseconds) where
  elapsed := get
  sleep d := modify (· + d)
  now := pure default

/-- The largest number of attempts that a schedule can have. -/
def schedule : Backoff := { statusUpdate with maxAttempts := UInt32.size - 1 }

/-- Two failures that are retried, then one that is not. -/
def outcomes (i : Nat) : Except String Nat := .error (if i < 3 then "conflict" else "forbidden")

/-- The third call is the last one. -/
theorem stops_at_third : schedule.maxAttempts < UInt32.size ∧ ∃ elapsed : Nanoseconds,
    (schedule.retry (· == "conflict") (calls outcomes)).run.run ⟨0, (0 : Nanoseconds)⟩ =
      (.error "forbidden", ⟨3, elapsed⟩) ∧
    (schedule.loop (· == "conflict") (calls outcomes) (UInt32.size - 1) 0).run ⟨0, (0 : Nanoseconds)⟩ =
      (some (.error "forbidden"), ⟨3, elapsed⟩) := by
  have hword : schedule.maxAttempts < UInt32.size := by decide
  obtain ⟨k, elapsed, hk, hretry, hloop⟩ :=
    calls_until_settled hword (· == "conflict") outcomes (0 : Nanoseconds)
  have hthird : 3 ∈ stops (· == "conflict") outcomes (max 1 schedule.maxAttempts) := ⟨by decide, Or.inl rfl⟩
  have hle := hk.2 hthird
  have hge : 3 ≤ k := by
    rcases hk.1.2 with hsettled | hlast
    · by_contra hless
      have hconflict : outcomes k = .error "conflict" := by
        rw [outcomes, if_pos (by omega)]
      rw [hconflict] at hsettled
      exact absurd hsettled (by simp [Settled])
    · rw [hlast]
      decide
  obtain rfl : k = 3 := by omega
  exact ⟨hword, elapsed, hretry, hloop⟩

end Patient

end Provision.Backoff

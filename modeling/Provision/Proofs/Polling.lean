import Mathlib.Data.ENat.Lattice
import Provision.Proofs.Waiting
import Provision.Rehearsal.Client

/-!
When waiting ends. If checks take no time and each sleep takes exactly the interval, the number of checks is known from
the first check that holds and from how often the interval fits into the time limit. The waits of features end whatever
their time limit, also if checks take time and sleeps are too long.
-/

namespace Provision.Poll

/-! ### Checks with given outcomes -/

section Outcomes

variable (outcomes : Nat → Except Failure Bool)

/-- The checks that hold. Checks are numbered from one. -/
def holding : Set Nat :=
  {i | 1 ≤ i ∧ outcomes i = .ok true}

/-- The first check that holds; infinity if there is none. -/
noncomputable def firstHolding : ℕ∞ :=
  ⨅ i ∈ holding outcomes, (i : ℕ∞)

/-- The checks up to the given one that fail. -/
def failing (k : Nat) : Set Nat :=
  {i | 1 ≤ i ∧ i ≤ k ∧ ∃ f, outcomes i = .error f}

/-- A failure is that of the most recent check that failed. -/
def MostRecent (k : Nat) (f : Failure) : Prop :=
  ∃ i, IsGreatest (failing outcomes k) i ∧ outcomes i = .error f

/-- The checks after the given one that are the last: those that hold, and the last one that is allowed. -/
def stopsAfter (allowed j : Nat) : Set Nat :=
  {i | j < i ∧ (outcomes i = .ok true ∨ i = allowed)}

/-- The most recent failure as waiting keeps it. -/
def lastFailure : Nat → Option Failure
  | 0 => none
  | k + 1 => lastAfter (lastFailure k) (outcomes (k + 1))

/-- How waiting ends with the given check. -/
def resultAt (timeout : Nat) (what : String) (k : Nat) : Except Failure Unit :=
  match outcomes k with
  | .ok true => .ok ()
  | _ => .error (timedOut timeout what (lastFailure outcomes k))

variable {outcomes} {allowed j k : Nat}

theorem failing_succ_of_ok {b : Bool} (hok : outcomes (k + 1) = .ok b) :
    failing outcomes (k + 1) = failing outcomes k := by
  ext i
  constructor
  · rintro ⟨hpos, hle, f, hf⟩
    have hne : i ≠ k + 1 := by
      rintro rfl
      rw [hok] at hf
      cases hf
    exact ⟨hpos, by omega, f, hf⟩
  · rintro ⟨hpos, hle, hfails⟩
    exact ⟨hpos, by omega, hfails⟩

theorem isGreatest_failing_succ {f : Failure} (hfails : outcomes (k + 1) = .error f) :
    IsGreatest (failing outcomes (k + 1)) (k + 1) :=
  ⟨⟨by omega, Nat.le_refl _, f, hfails⟩, fun _ hi => hi.2.1⟩

theorem failing_zero (outcomes : Nat → Except Failure Bool) : failing outcomes 0 = ∅ := by
  apply Set.eq_empty_of_forall_notMem
  rintro i ⟨hpos, hle, -⟩
  omega

/-- Waiting keeps the failure of the most recent check that failed, if one did. -/
theorem lastFailure_spec (outcomes : Nat → Except Failure Bool) (k : Nat) :
    (lastFailure outcomes k = none ∧ failing outcomes k = ∅) ∨
      ∃ f, lastFailure outcomes k = some f ∧ MostRecent outcomes k f := by
  induction k with
  | zero => exact Or.inl ⟨rfl, failing_zero outcomes⟩
  | succ k ih =>
      rw [lastFailure]
      cases houtcome : outcomes (k + 1) with
      | ok b => simpa only [MostRecent, failing_succ_of_ok houtcome, lastAfter] using ih
      | error f => exact Or.inr ⟨f, rfl, k + 1, isGreatest_failing_succ houtcome, houtcome⟩

theorem isLeast_stopsAfter_next (hstops : outcomes (j + 1) = .ok true ∨ j + 1 = allowed) :
    IsLeast (stopsAfter outcomes allowed j) (j + 1) :=
  ⟨⟨Nat.lt_succ_self j, hstops⟩, fun _ hi => hi.1⟩

/-- If the next check is not the last one, that is found among those after it. -/
theorem isLeast_stopsAfter_later (hnot : outcomes (j + 1) ≠ .ok true) (hallowed : j + 1 ≠ allowed)
    (hk : IsLeast (stopsAfter outcomes allowed (j + 1)) k) : IsLeast (stopsAfter outcomes allowed j) k := by
  constructor
  · exact ⟨Nat.lt_of_succ_lt hk.1.1, hk.1.2⟩
  · rintro i ⟨hlt, hstops⟩
    have hne : i ≠ j + 1 := by
      rintro rfl
      rcases hstops with hholds | hlast
      · exact hnot hholds
      · exact hallowed hlast
    exact hk.2 ⟨by omega, hstops⟩

/-- The last check is the first one that holds or the last one that is allowed, whichever comes first. -/
theorem coe_eq_min_of_isLeast (hallowed : 0 < allowed) (hk : IsLeast (stopsAfter outcomes allowed 0) k) :
    (k : ℕ∞) = min (firstHolding outcomes) allowed := by
  apply le_antisymm
  · refine le_min (le_iInf₂ ?_) ?_
    · rintro i ⟨hpos, hholds⟩
      exact_mod_cast hk.2 ⟨hpos, Or.inl hholds⟩
    · exact_mod_cast hk.2 ⟨hallowed, Or.inr rfl⟩
  · obtain ⟨⟨hpos, hstops⟩, -⟩ := hk
    rcases hstops with hholds | rfl
    · exact min_le_of_left_le (iInf₂_le k ⟨hpos, hholds⟩)
    · exact min_le_right _ _

/-- The last check holds if and only if some check that is allowed does. -/
theorem holds_iff_firstHolding_le (hallowed : 0 < allowed) (hk : IsLeast (stopsAfter outcomes allowed 0) k) :
    outcomes k = .ok true ↔ firstHolding outcomes ≤ allowed := by
  have hle : k ≤ allowed := hk.2 ⟨hallowed, Or.inr rfl⟩
  constructor
  · intro hholds
    calc firstHolding outcomes ≤ k := iInf₂_le k ⟨hk.1.1, hholds⟩
      _ ≤ allowed := by exact_mod_cast hle
  · intro hfirst
    by_contra hnot
    have hlast : k = allowed := hk.1.2.resolve_left hnot
    have hlater : ((allowed + 1 : Nat) : ℕ∞) ≤ firstHolding outcomes := by
      refine le_iInf₂ ?_
      rintro i ⟨hpos, hholds⟩
      have hki : k ≤ i := hk.2 ⟨hpos, Or.inl hholds⟩
      have hne : i ≠ k := fun h => hnot (h ▸ hholds)
      exact_mod_cast (by omega : allowed + 1 ≤ i)
    have := hlater.trans hfirst
    norm_cast at this
    omega

theorem resultAt_of_holds {timeout : Nat} {what : String} (hholds : outcomes k = .ok true) :
    resultAt outcomes timeout what k = .ok () := by
  rw [resultAt, hholds]

theorem resultAt_of_not {timeout : Nat} {what : String} (hnot : outcomes k ≠ .ok true) :
    resultAt outcomes timeout what k = .error (timedOut timeout what (lastFailure outcomes k)) := by
  rw [resultAt]
  split
  · contradiction
  · rfl

theorem resultAt_eq_ok_iff {timeout : Nat} {what : String} :
    resultAt outcomes timeout what k = .ok () ↔ outcomes k = .ok true := by
  constructor
  · intro hok
    by_contra hnot
    rw [resultAt_of_not hnot] at hok
    cases hok
  · exact resultAt_of_holds

end Outcomes

/-! ### A clock that only sleeps move -/

section Punctual

variable {E : Type}

/-- The times of the checks, oldest first, and what goes on around them. -/
structure Checks (E : Type) where
  times : List Nat
  rest : E

/-- Do something that is no check. -/
def Checks.between {α : Type} (x : StateM E α) : StateM (Checks E) α := fun w =>
  let after := (x.run w.rest).run
  (after.1, { w with rest := after.2 })

theorem Checks.run_between {α : Type} {x : StateM E α} {a : α} {rest rest' : E} (hx : x.run rest = (a, rest'))
    (times : List Nat) : (Checks.between x).run ⟨times, rest⟩ = (a, ⟨times, rest'⟩) := by
  change ((x.run rest).1, Checks.mk times (x.run rest).2) = _
  rw [hx]

instance [Clock (StateM E)] : Clock (StateM (Checks E)) where
  elapsed := Checks.between Clock.elapsed
  sleep d := Checks.between (Clock.sleep d)
  now := Checks.between Clock.now

/-- Checks with the given outcomes, one after the other, that take no time. -/
def checkOf [Clock (StateM E)] (outcomes : Nat → Except Failure Bool) : ExceptT Failure (StateM (Checks E)) Bool :=
  ExceptT.mk do
    let now ← Clock.elapsed
    modifyGet fun w => (outcomes (w.times.length + 1), { w with times := w.times ++ [now] })

/-- The times of so many checks, of which the first is made at once and each other one an interval later. -/
def schedule (start interval checks : Nat) : List Nat :=
  (List.range checks).map fun i => start + i * interval

@[simp]
theorem length_schedule (start interval checks : Nat) : (schedule start interval checks).length = checks := by
  rw [schedule, List.length_map, List.length_range]

theorem schedule_succ (start interval checks : Nat) :
    schedule start interval (checks + 1) = schedule start interval checks ++ [start + checks * interval] := by
  rw [schedule, List.range_succ, List.map_append]
  rfl

variable [Clock (StateM E)] {time : E → Nat} {states : Set E} {outcomes : Nat → Except Failure Bool}
  {start timeout interval : Nat} {what : String}

theorem Shows.checks (hclock : Shows time) : Shows fun w : Checks E => time w.rest where
  elapsed w := Checks.run_between (hclock.elapsed w.rest) w.times
  sleep d w := hclock.sleep d w.rest

/-- One check is made on schedule. -/
theorem run_checkOf (hclock : Shows time) (outcomes : Nat → Except Failure Bool) {j : Nat} {rest : E}
    (htime : time rest = start + j * interval) :
    (checkOf outcomes).run.run (⟨schedule start interval j, rest⟩ : Checks E) =
      (outcomes (j + 1), ⟨schedule start interval (j + 1), rest⟩) := by
  rw [checkOf, ExceptT.run_mk, StateT.run_bind, hclock.checks.elapsed, schedule_succ, ← htime]
  change (outcomes ((schedule start interval j).length + 1),
    Checks.mk (schedule start interval j ++ [time rest]) rest) = _
  rw [length_schedule]

theorem ends_of_holds (hclock : Shows time) {j : Nat} {rest : E} (htime : time rest = start + j * interval)
    (hholds : outcomes (j + 1) = .ok true) (last : Option Failure) :
    Ends start timeout interval what (checkOf outcomes) 1 last ⟨schedule start interval j, rest⟩ (.ok ())
      ⟨schedule start interval (j + 1), rest⟩ := by
  apply Ends.holds
  rw [run_checkOf hclock outcomes htime, hholds]

/-- On schedule, the checks at or after the time limit are known by their number. -/
theorem le_sub_start_iff (hinterval : 0 < interval) {now j : Nat} (hnow : now = start + j * interval) :
    timeout ≤ now - start ↔ timeout ⌈/⌉ interval ≤ j := by
  rw [hnow, Nat.add_sub_cancel_left, le_mul_iff hinterval]

/-- The run lemma: from each check on, waiting goes on up to the last one and ends as that does. The induction is on how
many checks are still allowed after the next one. -/
theorem exists_ends_checkOf (hclock : Shows time) (hexact : Exact time interval states) (hinterval : 0 < interval)
    (timeout : Nat) (outcomes : Nat → Except Failure Bool) (what : String) (left : Nat) {j : Nat}
    (hleft : j + left = timeout ⌈/⌉ interval) {rest : E} (hrest : rest ∈ states)
    (htime : time rest = start + j * interval) :
    ∃ k rest', IsLeast (stopsAfter outcomes (timeout ⌈/⌉ interval + 1) j) k ∧
      Ends start timeout interval what (checkOf outcomes) (k - j) (lastFailure outcomes j)
        ⟨schedule start interval j, rest⟩ (resultAt outcomes timeout what k) ⟨schedule start interval k, rest'⟩ := by
  induction left generalizing j rest with
  | zero =>
      refine ⟨j + 1, rest, isLeast_stopsAfter_next (Or.inr (by omega)), ?_⟩
      rw [Nat.add_sub_cancel_left]
      by_cases hholds : outcomes (j + 1) = .ok true
      · rw [resultAt_of_holds hholds]
        exact ends_of_holds hclock htime hholds _
      · have hlate : timeout ≤ time rest - start := by
          rw [le_sub_start_iff hinterval htime]
          omega
        rw [resultAt_of_not hholds]
        exact .late (run_checkOf hclock outcomes htime) hholds (hclock.checks.elapsed _) hlate
  | succ left ih =>
      by_cases hholds : outcomes (j + 1) = .ok true
      · refine ⟨j + 1, rest, isLeast_stopsAfter_next (Or.inl hholds), ?_⟩
        rw [Nat.add_sub_cancel_left, resultAt_of_holds hholds]
        exact ends_of_holds hclock htime hholds _
      · have hnotLate : ¬ timeout ≤ time rest - start := by
          rw [le_sub_start_iff hinterval htime]
          omega
        have hslept : time ((Clock.sleep interval : StateM E Unit).run rest).run.2 = start + (j + 1) * interval := by
          rw [hexact.sleep rest hrest, htime, Nat.succ_mul, Nat.add_assoc]
        obtain ⟨k, rest', hk, hends⟩ := ih (by omega) (hexact.stays rest hrest) hslept
        refine ⟨k, rest', isLeast_stopsAfter_later hholds (by omega) hk, ?_⟩
        have hchecks : k - j = (k - (j + 1)) + 1 := by
          have := hk.1.1
          omega
        rw [hchecks]
        exact .again (run_checkOf hclock outcomes htime) hholds (hclock.checks.elapsed _) hnotLate rfl hends

/-- What a wait that ran out of time says before it says what failed. -/
def timeoutText (timeout : Nat) (what : String) : String :=
  "timed out after " ++ Duration.text timeout ++ " " ++ what

/-- What a wait that ran out of time says of a failed check. -/
def lastErrorText (f : Failure) : String :=
  " (last error: " ++ f.message ++ ")"

/-- How a wait has to end on a clock that only sleeps move: the times of its checks, and its result. -/
structure Timely (start timeout interval : Nat) (what : String) (outcomes : Nat → Except Failure Bool)
    (times : List Nat) (result : Except Failure Unit) : Prop where
  /-- The last check is the first one that holds or the first one after the time limit, whichever comes first. -/
  checks : (times.length : ℕ∞) = min (firstHolding outcomes) (timeout ⌈/⌉ interval + 1 : Nat)
  scheduled : times = schedule start interval times.length
  succeeds : result = .ok () ↔ firstHolding outcomes ≤ (timeout ⌈/⌉ interval + 1 : Nat)
  /-- It does not give up without a check at or after the time limit. -/
  patient : ∀ f, result = .error f → ∃ t ∈ times, start + timeout ≤ t
  reported : ∀ f, result = .error f →
    ((failing outcomes times.length).Nonempty ↔ ∃ g, MostRecent outcomes times.length g ∧
      f = .action (timeoutText timeout what ++ lastErrorText g))
  unreported : ∀ f, result = .error f →
    (failing outcomes times.length = ∅ ↔ f = .action (timeoutText timeout what))

theorem timedOut_none (timeout : Nat) (what : String) :
    timedOut timeout what none = .action (timeoutText timeout what) := by
  change Failure.action (timeoutText timeout what ++ "") = _
  rw [String.append_empty]

theorem timedOut_some (timeout : Nat) (what : String) (f : Failure) :
    timedOut timeout what (some f) = .action (timeoutText timeout what ++ lastErrorText f) := rfl

theorem timeoutText_append_ne (timeout : Nat) (what : String) (f : Failure) :
    timeoutText timeout what ++ lastErrorText f ≠ timeoutText timeout what := by
  intro heq
  have hlength := congrArg String.length heq
  simp only [lastErrorText, String.length_append] at hlength
  have hpos : 0 < " (last error: ".length := by decide
  omega

/-- The message of a wait that ran out of time tells whether a check failed, and which failure was the last. -/
theorem timedOut_lastFailure {f : Failure} {k : Nat} (hf : f = timedOut timeout what (lastFailure outcomes k)) :
    ((failing outcomes k).Nonempty ↔ ∃ g, MostRecent outcomes k g ∧
      f = .action (timeoutText timeout what ++ lastErrorText g)) ∧
    (failing outcomes k = ∅ ↔ f = .action (timeoutText timeout what)) := by
  rcases lastFailure_spec outcomes k with ⟨hlast, hempty⟩ | ⟨g, hlast, hrecent⟩
  · rw [hlast, timedOut_none] at hf
    refine ⟨⟨fun hsome => ?_, ?_⟩, fun _ => hf, fun _ => hempty⟩
    · rw [hempty] at hsome
      exact absurd hsome Set.not_nonempty_empty
    · rintro ⟨g, ⟨i, hi, -⟩, -⟩
      exact ⟨i, hi.1⟩
  · have hsome : (failing outcomes k).Nonempty := by
      obtain ⟨i, hi, -⟩ := hrecent
      exact ⟨i, hi.1⟩
    rw [hlast, timedOut_some] at hf
    refine ⟨⟨fun _ => ⟨g, hrecent, hf⟩, fun _ => hsome⟩, fun hempty => ?_, fun hplain => ?_⟩
    · exact absurd hempty hsome.ne_empty
    · rw [hf, Failure.action.injEq] at hplain
      exact absurd hplain (timeoutText_append_ne timeout what g)

/-- A wait that ends with the last check as it should is timely. -/
theorem timely_of_isLeast (hinterval : 0 < interval) {k : Nat}
    (hk : IsLeast (stopsAfter outcomes (timeout ⌈/⌉ interval + 1) 0) k) :
    Timely start timeout interval what outcomes (schedule start interval k) (resultAt outcomes timeout what k) := by
  have hallowed : 0 < timeout ⌈/⌉ interval + 1 := Nat.succ_pos _
  have hlate : ∀ f, resultAt outcomes timeout what k = .error f →
      k = timeout ⌈/⌉ interval + 1 ∧ f = timedOut timeout what (lastFailure outcomes k) := by
    intro f hf
    have hnot : outcomes k ≠ .ok true := by
      intro hholds
      rw [resultAt_of_holds hholds] at hf
      cases hf
    rw [resultAt_of_not hnot] at hf
    exact ⟨hk.1.2.resolve_left hnot, (Except.error.inj hf).symm⟩
  constructor
  · rw [length_schedule]
    exact coe_eq_min_of_isLeast hallowed hk
  · rw [length_schedule]
  · rw [resultAt_eq_ok_iff]
    exact holds_iff_firstHolding_le hallowed hk
  · intro f hf
    refine ⟨start + timeout ⌈/⌉ interval * interval, ?_, Nat.add_le_add_left (le_ceilDiv_mul hinterval timeout) start⟩
    rw [(hlate f hf).1, schedule_succ]
    exact List.mem_append_right _ (List.mem_singleton_self _)
  · intro f hf
    rw [length_schedule]
    exact (timedOut_lastFailure (hlate f hf).2).1
  · intro f hf
    rw [length_schedule]
    exact (timedOut_lastFailure (hlate f hf).2).2

end Punctual

/-! ### When waiting ends -/

section Main

variable {E : Type} [Clock (StateM E)] {time : E → Nat}

/-- What a step of a feature waits for: it ends after so many checks as waiting without a bound on their number. -/
def WaitEnds (time : E → Nat) (timeout : Nat) (what : String) (check : ExceptT Failure (StateM E) Bool)
    (step : ExceptT Failure (StateT DataBag (StateM E)) Unit) : Prop :=
  ∀ bag w, ∃ checks result w', checks ≤ timeout ⌈/⌉ min Action.checkInterval timeout + 1 ∧
    Ends (time w) timeout (min Action.checkInterval timeout) ("waiting for " ++ what) check checks none w result w' ∧
    perform step (bag, w) = (result, bag, w')

theorem waitEnds (hclock : Shows time) {check : ExceptT Failure (StateM E) Bool} (hforward : Forward time check)
    (timeout : Nat) (what : String) :
    WaitEnds time timeout what check (onCluster (Action.waitUntil timeout what check)) := by
  intro bag w
  obtain ⟨checks, result, w', hchecks, hends⟩ :=
    exists_ends_wait hclock hforward timeout ("waiting for " ++ what) w
  refine ⟨checks, result, w', hchecks, hends, ?_⟩
  rw [perform_onCluster, Action.waitUntil, run_pollUntil hclock hends hchecks]

/-- A wait without any time makes one check. -/
theorem WaitEnds.one_check {what : String} {check : ExceptT Failure (StateM E) Bool}
    {step : ExceptT Failure (StateT DataBag (StateM E)) Unit} (hwait : WaitEnds time 0 what check step)
    {bag : DataBag} {w : E} {result : Except Failure Unit} (hresult : (perform step (bag, w)).1 = result) :
    ∃ w', Ends (time w) 0 0 ("waiting for " ++ what) check 1 none w result w' ∧
      perform step (bag, w) = (result, bag, w') := by
  obtain ⟨checks, found, w', hchecks, hends, hrun⟩ := hwait bag w
  have hone : checks = 1 := Nat.le_antisymm hchecks hends.pos
  rw [hrun] at hresult
  subst hone hresult
  exact ⟨w', hends, hrun⟩

/-- Waiting stops when it should. On a clock that only sleeps move, the checks are those up to the first one that holds
or the first one after the time limit, with the outcome and the message that belong to them. The waits for pods and for
objects end on every clock, whatever their time limit. -/
theorem stops_in_time (hclock : Shows time) :
    (∀ (interval : Nat) (states : Set E), Exact time interval states → 0 < interval →
      ∀ (timeout : Nat) (what : String) (outcomes : Nat → Except Failure Bool), ∀ rest ∈ states,
        ∃ result times rest',
          (pollUntil timeout interval what (checkOf outcomes)).run.run ⟨[], rest⟩ = (result, ⟨times, rest'⟩) ∧
          Ends (time rest) timeout interval what (checkOf outcomes) times.length none ⟨[], rest⟩ result ⟨times, rest'⟩ ∧
          Timely (time rest) timeout interval what outcomes times result) ∧
    ∀ (c : Context (StateM E)) (timeout : Nat),
      (∀ space, Forward time (c.client.list Action.pods (some space) none) →
        WaitEnds time timeout ("pods in namespace " ++ space ++ " to be ready")
          (Action.allReady <$> c.client.list Action.pods (some space) none) (Action.waitForPods space timeout c)) ∧
      ∀ type key, Forward time (c.client.get type key) →
        WaitEnds time timeout (type.kind ++ " " ++ key.text) (Option.isSome <$> c.client.get type key)
          (Action.waitForObject type key timeout c) := by
  refine ⟨?_, fun c timeout => ⟨?_, ?_⟩⟩
  · intro interval states hexact hinterval timeout what outcomes rest hrest
    have htime : time rest = time rest + 0 * interval := by rw [Nat.zero_mul, Nat.add_zero]
    -- Before the first check the whole time is left, and none has been made.
    obtain ⟨k, rest', hk, hends⟩ := exists_ends_checkOf hclock hexact hinterval timeout outcomes what
      (timeout ⌈/⌉ interval) (Nat.zero_add _) hrest htime
    have hchecks : k ≤ timeout ⌈/⌉ interval + 1 := hk.2 ⟨Nat.succ_pos _, Or.inr rfl⟩
    refine ⟨_, schedule (time rest) interval k, rest', run_pollUntil hclock.checks hends hchecks, ?_,
      timely_of_isLeast hinterval hk⟩
    rw [length_schedule]
    exact hends
  · intro space hforward
    exact waitEnds hclock (hforward.map _) timeout _
  · intro type key hforward
    exact waitEnds hclock (hforward.map _) timeout _

end Main

/-! ### Rehearsals -/

namespace Rehearsed

open Rehearsal

theorem le_wakeTime (now d : Nat) : now + d ≤ wakeTime now d := by
  unfold wakeTime Duration.ofMillis Nanoseconds
  split <;> omega

/-- The clock of a rehearsal. -/
theorem shows_elapsed : Shows World.elapsed where
  elapsed _ := rfl
  sleep d w := le_wakeTime w.elapsed d

/-- The worlds whose clock stands at a whole number of milliseconds. -/
def wholeMillis : Set World :=
  {w | 1000000 ∣ w.elapsed}

theorem wakeTime_of_dvd {now d : Nat} (hnow : 1000000 ∣ now) (hd : 1000000 ∣ d) : wakeTime now d = now + d := by
  unfold wakeTime Duration.ofMillis Nanoseconds
  split <;> omega

theorem exact_elapsed {interval : Nat} (hinterval : 1000000 ∣ interval) : Exact World.elapsed interval wholeMillis where
  sleep _ hw := wakeTime_of_dvd hw hinterval
  stays w hw := by
    change 1000000 ∣ wakeTime w.elapsed interval
    rw [wakeTime_of_dvd hw hinterval]
    exact Nat.dvd_add hw hinterval

/-- No call of a rehearsal moves its clock. -/
theorem elapsed_call {α : Type} (target : BenchName) (c : Call) (nothing : Option α) (describe : α → String)
    (operation : Store → Store.Reply α) (w : World) :
    ((call target c nothing describe operation).run.run w).run.2.elapsed = w.elapsed := by
  cases target <;> rfl

theorem forward_call {α : Type} (target : BenchName) (c : Call) (nothing : Option α) (describe : α → String)
    (operation : Store → Store.Reply α) : Forward World.elapsed (call target c nothing describe operation) :=
  fun w => Nat.le_of_eq (elapsed_call target c nothing describe operation w).symm

theorem forward_list (target : BenchName) (type : ResourceType) (space selector : Option String) :
    Forward World.elapsed ((client target).list type space selector) := by
  dsimp only [client]
  apply forward_call

theorem forward_get (target : BenchName) (type : ResourceType) (key : ObjectKey) :
    Forward World.elapsed ((client target).get type key) := by
  dsimp only [client]
  apply forward_call

/-- A world before anything has happened. -/
def blank : World where
  timeOfDay := ⟨0, 0⟩

/-- The second check fails, and none holds. -/
def forbidden (i : Nat) : Except Failure Bool :=
  if i = 2 then .error (.action "forbidden") else .ok false

/-- What a feature sees in a rehearsal. -/
def rehearsing : Context Rehearsal where
  name := "gateway"
  space := "mesh"
  managed := false
  source := {}
  client := client .main

/-- The outcome of a wait of five milliseconds. -/
def gaveUp : Except Failure Unit :=
  .error (.action "timed out after 5ms waiting (last error: forbidden)")

/-- The outcome of a wait without any time. -/
def notThere (what : String) : Except Failure Unit :=
  .error (.action ("timed out after 0ns waiting for " ++ what))

/-- A wait of five milliseconds that checks every two makes four checks, the last of them when its time is over. Waits
without any time for pods and for a namespace that are not there make one. -/
theorem four_checks_and_one :
    (∃ rest : World,
      (pollUntil (Duration.ofMillis 5) (Duration.ofMillis 2) "waiting" (checkOf forbidden)).run.run ⟨[], blank⟩ =
        (gaveUp, ⟨[0, 2, 4, 6].map Duration.ofMillis, rest⟩) ∧
      Ends 0 (Duration.ofMillis 5) (Duration.ofMillis 2) "waiting" (checkOf forbidden) 4 none ⟨[], blank⟩ gaveUp
        ⟨[0, 2, 4, 6].map Duration.ofMillis, rest⟩ ∧
      Timely 0 (Duration.ofMillis 5) (Duration.ofMillis 2) "waiting" forbidden ([0, 2, 4, 6].map Duration.ofMillis)
        gaveUp) ∧
    (∃ w : World, Ends 0 0 0 "waiting for pods in namespace mesh to be ready"
        (Action.allReady <$> rehearsing.client.list Action.pods (some "mesh") none) 1 none blank
        (notThere "pods in namespace mesh to be ready") w ∧
      perform (Action.waitForPods "mesh" 0 rehearsing) ([], blank) =
        (notThere "pods in namespace mesh to be ready", [], w)) ∧
    ∃ w : World, Ends 0 0 0 "waiting for Namespace mesh"
        (Option.isSome <$> rehearsing.client.get Action.namespaces (.ofCluster "mesh")) 1 none blank
        (notThere "Namespace mesh") w ∧
      perform (Action.waitForObject Action.namespaces (.ofCluster "mesh") 0 rehearsing) ([], blank) =
        (notThere "Namespace mesh", [], w) := by
  obtain ⟨hpoll, hwaits⟩ := stops_in_time shows_elapsed
  obtain ⟨hpods, hobject⟩ := hwaits rehearsing 0
  refine ⟨?_, ?_, ?_⟩
  · obtain ⟨result, times, rest, hrun, hends, htimely⟩ := hpoll (Duration.ofMillis 2) wholeMillis
      (exact_elapsed (by decide)) (by decide) (Duration.ofMillis 5) "waiting" forbidden blank (Nat.dvd_zero _)
    have hcomputed : (pollUntil (Duration.ofMillis 5) (Duration.ofMillis 2) "waiting" (checkOf forbidden)).run.run
        ⟨[], blank⟩ =
          (gaveUp, ⟨[0, 2, 4, 6].map Duration.ofMillis, { blank with elapsed := Duration.ofMillis 6 }⟩) := rfl
    rw [hcomputed] at hrun
    cases hrun
    exact ⟨_, hcomputed, hends, htimely⟩
  · have hresult : (perform (Action.waitForPods "mesh" 0 rehearsing) ([], blank)).1 =
        notThere "pods in namespace mesh to be ready" := rfl
    exact (hpods "mesh" (forward_list .main Action.pods (some "mesh") none)).one_check hresult
  · have hresult : (perform (Action.waitForObject Action.namespaces (.ofCluster "mesh") 0 rehearsing) ([], blank)).1 =
        notThere "Namespace mesh" := rfl
    exact (hobject _ _ (forward_get .main Action.namespaces (.ofCluster "mesh"))).one_check hresult

end Rehearsed

end Provision.Poll

import Mathlib.Data.List.DropRight
import Mathlib.Data.List.Induction
import Provision.Proofs.Tracker.StatusHistory

/-!
A list of conditions over a whole run of settings. What is found of a type is what was said of it last, and since when
its status is what it is: since the earliest of the unbroken run of that status with which the history of the type
ends. Every entry keeps its position and its type, only the first entry of a type is ever changed, and new types come
at the end in the order in which they were first given.
-/

namespace Provision.Condition

section Runs

variable {start given conditions history : List Condition} {c new : Condition} {type : String}

/-- The conditions after others were set in turn. -/
def setAll (start given : List Condition) : List Condition :=
  given.foldl set start

/-- What was said of a type: by its first entry at the start, and then by the conditions given for it. -/
def historyOf (start given : List Condition) (type : String) : List Condition :=
  (find? start type).toList ++ given.filter fun c => c.type = type

/-- A condition shows a history. It says what was said last, and it is as old as the unbroken run of its status with
which the history ends. -/
structure ShowsHistory (history : List Condition) (c : Condition) : Prop where
  last : ∃ last, history.getLast? = some last ∧ c.type = last.type ∧ c.status = last.status ∧
    c.reason = last.reason ∧ c.message = last.message
  since : (history.rtakeWhile fun d => d.status = c.status).head?.map Condition.since = some c.since

/-! ### What is found of a type -/

theorem setAll_concat (start given : List Condition) (new : Condition) :
    setAll start (given ++ [new]) = set (setAll start given) new :=
  List.foldl_concat set start new given

theorem historyOf_concat_self (start given : List Condition) (new : Condition) :
    historyOf start (given ++ [new]) new.type = historyOf start given new.type ++ [new] := by
  simp [historyOf]

theorem historyOf_concat_of_ne (start given : List Condition) (hne : new.type ≠ type) :
    historyOf start (given ++ [new]) type = historyOf start given type := by
  simp [historyOf, hne]

/-- What is said first is shown as it is. -/
theorem showsHistory_singleton (c : Condition) : ShowsHistory [c] c where
  last := ⟨c, rfl, rfl, rfl, rfl, rfl⟩
  since := by simp [List.rtakeWhile]

/-- The step lemma: a condition that takes the place of one that shows the history shows what is then the history. -/
theorem ShowsHistory.succeed (hshows : ShowsHistory history c) (new : Condition) :
    ShowsHistory (history ++ [new]) (succeed c new) where
  last := by
    refine ⟨new, List.getLast?_concat, type_succeed c new, status_succeed c new, reason_succeed c new, ?_⟩
    simp only [Condition.succeed]
    split
    · rfl
    · rfl
  since := by
    rw [status_succeed, List.rtakeWhile_concat, if_pos (by simp), List.head?_append]
    by_cases hsame : c.status = new.status
    · -- The run goes on, so it starts where it started.
      rw [← hsame, Option.map_or, hshows.since]
      simp [Condition.succeed, hsame]
    · -- The history so far ends with another status.
      obtain ⟨last, hlast, -, hstatus, -⟩ := hshows.last
      have hrun : history.rtakeWhile (fun d => d.status = new.status) = [] := by
        rw [List.rtakeWhile_eq_nil_iff]
        intro hne
        rw [List.getLast?_eq_some_getLast hne] at hlast
        rw [Option.some.inj hlast, ← hstatus]
        simpa using hsame
      simp [hrun, Condition.succeed, hsame]

/-- The run lemma: what is found of a type shows all that was said of it. -/
theorem find?_setAll (start given : List Condition) (type : String) :
    (find? (setAll start given) type = none ∧ historyOf start given type = []) ∨
      ∃ c, find? (setAll start given) type = some c ∧ ShowsHistory (historyOf start given type) c := by
  induction given using List.reverseRecOn with
  | nil =>
      rw [setAll, List.foldl_nil, historyOf, List.filter_nil, List.append_nil]
      cases hfound : find? start type with
      | none => exact Or.inl ⟨rfl, rfl⟩
      | some c => exact Or.inr ⟨c, rfl, showsHistory_singleton c⟩
  | append_singleton given new ih =>
      rw [setAll_concat]
      by_cases htype : new.type = type
      · subst htype
        right
        rw [historyOf_concat_self, find?_set_self]
        rcases ih with ⟨hfound, hnothing⟩ | ⟨c, hfound, hshows⟩
        · rw [hfound, hnothing]
          exact ⟨new, rfl, showsHistory_singleton new⟩
        · rw [hfound]
          exact ⟨Condition.succeed c new, rfl, hshows.succeed new⟩
      · rw [historyOf_concat_of_ne start given htype, find?_set_of_ne _ _ htype]
        exact ih

/-! ### Where the conditions stand -/

/-- Setting a condition leaves every entry as it is, but for the first one of its type, which keeps its type. -/
theorem exists_getElem?_set (new : Condition) {i : Nat} {old : Condition} (hold : conditions[i]? = some old) :
    ∃ c, (set conditions new)[i]? = some c ∧ c.type = old.type ∧
      (c = old ∨ old.type = new.type ∧ i = (conditions.map Condition.type).idxOf old.type) := by
  induction conditions generalizing i with
  | nil => simp at hold
  | cons first rest ih =>
      by_cases hfirst : first.type = new.type
      · rw [set, if_pos hfirst]
        cases i with
        | zero =>
            obtain rfl : first = old := by simpa using hold
            exact ⟨succeed first new, rfl, (type_succeed first new).trans hfirst.symm, Or.inr ⟨hfirst, by simp⟩⟩
        | succ i => exact ⟨old, hold, rfl, Or.inl rfl⟩
      · rw [set, if_neg hfirst]
        cases i with
        | zero => exact ⟨old, hold, rfl, Or.inl rfl⟩
        | succ i =>
            obtain ⟨c, hc, htype, hsame⟩ := ih hold
            refine ⟨c, hc, htype, ?_⟩
            rcases hsame with hsame | ⟨hnew, hi⟩
            · exact Or.inl hsame
            · have hne : first.type ≠ old.type := fun heq => hfirst (heq.trans hnew)
              exact Or.inr ⟨hnew, by simp [hi, hne]⟩

/-- Every entry keeps its position and its type, and it stays as it is unless it is the first entry of a type that is
given. -/
theorem exists_getElem?_setAll {i : Nat} {old : Condition} (hold : start[i]? = some old) :
    ∃ c, (setAll start given)[i]? = some c ∧ c.type = old.type ∧
      (c = old ∨ old.type ∈ given.map Condition.type ∧ i = (start.map Condition.type).idxOf old.type) := by
  induction given generalizing start old with
  | nil => exact ⟨old, hold, rfl, Or.inl rfl⟩
  | cons new rest ih =>
      obtain ⟨between, hbetween, htype, hsame⟩ := exists_getElem?_set new hold
      obtain ⟨c, hc, htype', hsame'⟩ := ih hbetween
      refine ⟨c, hc, htype'.trans htype, ?_⟩
      have hmem : old.type ∈ start.map Condition.type := List.mem_map_of_mem (List.mem_of_getElem? hold)
      have hidx : ((set start new).map Condition.type).idxOf old.type =
          (start.map Condition.type).idxOf old.type := by
        rw [types_set]
        split
        · rfl
        · exact List.idxOf_append_of_mem hmem
      rw [htype, hidx] at hsame'
      rcases hsame' with rfl | ⟨hgiven, hi⟩
      · rcases hsame with rfl | ⟨hnew, hi⟩
        · exact Or.inl rfl
        · exact Or.inr ⟨by simp [hnew], hi⟩
      · exact Or.inr ⟨List.mem_cons_of_mem new.type hgiven, hi⟩

/-- The types are those at the start and after them the new ones, each where it was first given. -/
theorem types_setAll (start given : List Condition) :
    (setAll start given).map Condition.type = start.map Condition.type ++
      ((given.map Condition.type).filter (· ∉ start.map Condition.type)).eraseDups := by
  induction given generalizing start with
  | nil => simp [setAll]
  | cons new rest ih =>
      have hrest : setAll start (new :: rest) = setAll (set start new) rest := rfl
      rw [hrest, ih, List.map_cons, List.filter_cons]
      by_cases hmem : new.type ∈ start.map Condition.type
      · rw [types_set, if_pos hmem, if_neg (by simpa using hmem)]
      · rw [types_set, if_neg hmem, if_pos (by simpa using hmem), List.eraseDups_cons, List.filter_filter,
          List.append_assoc, List.singleton_append]
        have hsame : ∀ t, decide (t ∉ start.map Condition.type ++ [new.type]) =
            (!(t == new.type) && decide (t ∉ start.map Condition.type)) := by
          intro t
          rw [Bool.eq_iff_iff]
          simp [and_comm]
        simp only [hsame]

/-- Over any settings, what is found of a type shows its history; every entry keeps its position and its type, and
unless it is the first of a type that is given, it stays as it is; and the new types stand at the end, in the order in
which they were first given. -/
theorem shows_history (start given : List Condition) :
    (∀ type, (find? (setAll start given) type = none ∧ historyOf start given type = []) ∨
      ∃ c, find? (setAll start given) type = some c ∧ ShowsHistory (historyOf start given type) c) ∧
    (∀ i old, start[i]? = some old → ∃ c, (setAll start given)[i]? = some c ∧ c.type = old.type ∧
      (c = old ∨ old.type ∈ given.map Condition.type ∧ i = (start.map Condition.type).idxOf old.type)) ∧
    (setAll start given).map Condition.type = start.map Condition.type ++
      ((given.map Condition.type).filter (· ∉ start.map Condition.type)).eraseDups :=
  ⟨find?_setAll start given, fun _ _ hold => exists_getElem?_setAll hold, types_setAll start given⟩

end Runs

/-! ### A status that comes and goes -/

namespace Flapping

/-- A condition that says nothing but its type and status, given at a second. -/
def report (second : Int) (type : String) (status : ConditionStatus) : Condition :=
  ⟨type, status, "", "", ⟨second, 0⟩⟩

/-- Two entries of one type with an entry of another type between them. -/
def start : List Condition :=
  [report 1 "Ready" .holds, report 2 "Audited" .unknown, report 3 "Ready" .fails]

/-- The status is given again, changes, comes back and is given again, with a new type in between. -/
def given : List Condition := [report 4 "Ready" .holds, report 5 "Ready" .fails, report 6 "Scaled" .holds,
  report 7 "Ready" .holds, report 8 "Ready" .holds]

/-- The status holds since it came back. The second entry of the type stays, and the new type stands at the end. -/
theorem ready_since_return :
    (∃ c, find? (setAll start given) "Ready" = some c ∧ c.status = .holds ∧ c.since = ⟨7, 0⟩) ∧
    (setAll start given)[2]? = some (report 3 "Ready" .fails) ∧
    (setAll start given).map Condition.type = ["Ready", "Audited", "Ready", "Scaled"] := by
  obtain ⟨hfound, hplaces, htypes⟩ := shows_history start given
  refine ⟨?_, ?_, htypes.trans (by decide)⟩
  · rcases hfound "Ready" with ⟨-, hnothing⟩ | ⟨c, hc, hshows⟩
    · exact absurd hnothing (by decide)
    · obtain ⟨last, hlast, -, hstatus, -⟩ := hshows.last
      obtain rfl : report 8 "Ready" .holds = last := Option.some.inj hlast
      have hsince := hshows.since
      rw [hstatus] at hsince
      exact ⟨c, hc, hstatus, (Option.some.inj hsince).symm⟩
  · obtain ⟨c, hc, -, hsame⟩ := hplaces 2 (report 3 "Ready" .fails) rfl
    rcases hsame with rfl | ⟨-, hfirst⟩
    · exact hc
    · exact absurd hfirst (by decide)

end Flapping

end Provision.Condition

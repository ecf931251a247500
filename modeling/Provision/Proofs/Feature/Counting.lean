import Provision.Proofs.Collecting
import Provision.Proofs.Feature.StageOrder

/-!
What counts as a failure where failures are collected. A step that fails with an empty list of failures leaves nothing
to collect, and its stage goes on as if it had succeeded. Every other failure counts: the stage fails, and
nothing that comes after it is carried out.
-/

namespace Provision

/-- An outcome as it counts where failures are collected. -/
def Failure.counted : Except Failure Unit → Except Failure Unit
  | .error (.many []) => .ok ()
  | outcome => outcome

/-- A step that comes to what it counts for. -/
def Action.counted {m : Type → Type} [Monad m] (action : Action m) : Action m := fun c =>
  ExceptT.mk (Failure.counted <$> (action c).run)

/-- Stages in which the steps whose failures are collected come to what they count for. -/
def Stages.counted {m : Type → Type} [Monad m] (s : Stages m) : Stages m :=
  { s with
    data := s.data.map Action.counted
    preconditions := s.preconditions.map Action.counted
    postconditions := s.postconditions.map Action.counted }

namespace Failure

theorem counted_ne (outcome : Except Failure Unit) : counted outcome ≠ .error (.many []) := by
  unfold counted
  split
  · intro heq
    cases heq
  · next hne => exact hne

theorem pushResult_counted (collected : List Failure) (outcome : Except Failure Unit) :
    pushResult collected (counted outcome) = pushResult collected outcome := by
  unfold counted
  split
  · exact (List.append_nil collected).symm
  · rfl

/-- A list of failures comes to a success just if every failure that was given for it is an empty list. -/
theorem toResult_collect_eq_ok_iff (first : List Failure) (records : List Recording) :
    toResult (collect first records) = .ok () ↔ ∀ f ∈ allGiven first records, f = many [] := by
  rw [toResult_eq_ok_iff, collect_eq_flatMap, List.flatMap_eq_nil_iff]
  simp only [members_eq_nil_iff]

/-- What is collected from outcomes comes to a success just if every failure among them is an empty list. -/
theorem toResult_foldl_pushResult_eq_ok_iff (outcomes : List (Except Failure Unit)) :
    toResult (outcomes.foldl pushResult []) = .ok () ↔ ∀ f, .error f ∈ outcomes → f = many [] := by
  rw [toResult_eq_ok_iff, foldl_pushResult_eq_append, List.nil_append, flatMap_members_eq_nil_iff]

end Failure

namespace Stages

section Counted

variable {m : Type → Type} [Monad m] [LawfulMonad m]

theorem collectFailures_counted (c : Context m) (actions : List (Action m)) (failures : List Failure) :
    collectFailures c (actions.map Action.counted) failures = collectFailures c actions failures := by
  induction actions generalizing failures with
  | nil => rfl
  | cons action rest ih =>
      rw [List.map_cons, collectFailures, collectFailures]
      have hrun : (Action.counted action c).run = Failure.counted <$> (action c).run := rfl
      rw [hrun, bind_map_left]
      refine bind_congr fun outcome => ?_
      rw [Failure.pushResult_counted, ih]

theorem runAll_counted (c : Context m) (stage : Reason) (actions : List (Action m)) :
    runAll c stage (actions.map Action.counted) = runAll c stage actions := by
  rw [runAll, collectFailures_counted]
  rfl

/-- The stages of a feature run in the same way if their steps come to what they count for. -/
theorem run_counted (s : Stages m) (c : Context m) (renderer : Renderer m) :
    s.counted.run c renderer = s.run c renderer := by
  simp only [run, counted, runAll_counted]

end Counted

variable {S : Type}

/-- No step that comes to what it counts for fails with an empty list. -/
theorem counted_perform_ne {s : Stages (StateM S)} {c : Context (StateM S)} {action : Action (StateM S)}
    (haction : action ∈ s.counted.data ++ s.counted.preconditions ++ s.counted.postconditions)
    (start : DataBag × S) : (perform (action c) start).1 ≠ .error (.many []) := by
  simp only [counted, List.mem_append, List.mem_map] at haction
  obtain ⟨step, -, rfl⟩ | ⟨step, -, rfl⟩ | ⟨step, -, rfl⟩ := or_assoc.mp haction
  all_goals exact Failure.counted_ne _

/-- All failures count but an empty list. A list of failures comes to a success just if nothing but empty lists was
given for it; steps whose failures are collected are all carried out, and their stage succeeds just if none of
them failed with anything but an empty list; and the stages of a feature that has a tracker proceed in their order
as if each such step came to what it counts for, so that none is entered after one in which a step failed with
anything else. -/
theorem counts_all_but_empty (stages : Stages (StateM S)) (c : Context (StateM S))
    (renderer : Renderer (StateM S)) (first : List Failure) (records : List Failure.Recording) (reason : Reason)
    (actions : List (Action (StateM S))) (start : DataBag × S) :
    (Failure.toResult (Failure.collect first records) = .ok () ↔
      ∀ f ∈ Failure.allGiven first records, f = .many []) ∧
    (∃ outcomes finish result, Executes true (actions.map fun action => action c) start outcomes finish ∧
      perform (runAll c reason actions) start = (result, finish) ∧
      (result = .ok () ↔ ∀ f, .error f ∈ outcomes → f = .many [])) ∧
    ∀ t uid, c.tracker = some t → t.metadata.uid = some uid → ∃ options, c.metaOptions = .ok options ∧
      RunsStages (stages.run c renderer) (stages.counted.inOrder c renderer options) := by
  refine ⟨Failure.toResult_collect_eq_ok_iff first records, ?_, ?_⟩
  · obtain ⟨outcomes, finish, hexecutes, hcollects⟩ := executes_collectFailures c actions [] start
    refine ⟨outcomes, finish, _, hexecutes, by rw [perform_runAll, hcollects], ?_⟩
    rw [except_mapError_eq_ok_iff, Failure.toResult_foldl_pushResult_eq_ok_iff]
  · intro t uid htracker huid
    obtain ⟨options, hoptions⟩ := Context.exists_metaOptions htracker huid
    refine ⟨options, hoptions, ?_⟩
    rw [← run_counted]
    exact runsStages_run c renderer hoptions fun action haction start => counted_perform_ne haction start

/-! ### Steps that fail with nothing -/

namespace Unnoticed

/-- A step that fails. -/
def failWith (failure : Failure) : Action (StateM Nat) := fun _ => throw failure

/-- Stages with some preconditions, and a resource that the cluster counts. -/
def withPreconditions (preconditions : List (Action (StateM Nat))) : Stages (StateM Nat) where
  preconditions
  resources := [OtherName.count]

/-- Of two preconditions that fail, the first does so with an empty list. -/
def twoFail : Stages (StateM Nat) := withPreconditions [failWith (.many []), failWith (.action "no quota")]

/-- The stages stop for the second precondition, before the resource. -/
theorem stops_for_another : (OtherName.context.tracker.bind fun t => t.metadata.uid) = some "uid-1" ∧
    ∃ f, perform (twoFail.run OtherName.context OtherName.renderer) ([], 0) = (.error f, [], 0) ∧
      f.reason? = some .preConditions := by
  obtain ⟨-, -, hstages⟩ := counts_all_but_empty twoFail OtherName.context OtherName.renderer [] []
    .preConditions [] ([], 0)
  obtain ⟨options, -, hruns⟩ := hstages _ "uid-1" rfl rfl
  have hrun : perform (twoFail.run OtherName.context OtherName.renderer) ([], 0) =
      (.error (.stage .preConditions (.action "no quota")), [], 0) := rfl
  obtain ⟨_, _, result, -, hperform, -, herror⟩ := hruns ([], 0)
  obtain rfl := congrArg Prod.fst (hrun.symm.trans hperform)
  obtain ⟨reason, _, _, -, -, hstage⟩ := herror _ rfl
  cases hstage
  exact ⟨rfl, _, hrun, rfl⟩

/-- A precondition that fails with an empty list goes unnoticed: nothing is collected, its stage succeeds, and the
stages run to their end without a failure. -/
theorem goes_on : perform (failWith (.many []) OtherName.context) ([], 0) = (.error (.many []), [], 0) ∧
    Failure.toResult (Failure.collect [] [.outcome (.error (.many []) : Except Failure Unit)]) = .ok () ∧
    perform (runAll OtherName.context .preConditions [failWith (.many [])]) ([], 0) = (.ok (), [], 0) ∧
    perform ((withPreconditions [failWith (.many [])]).run OtherName.context OtherName.renderer) ([], 0) =
      (.ok (), [], 1) :=
  ⟨rfl, rfl, rfl, rfl⟩

end Unnoticed

end Stages

end Provision

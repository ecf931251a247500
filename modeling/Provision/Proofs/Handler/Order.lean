import Provision.Handler.Report
import Provision.Proofs.Failures
import Provision.Proofs.Feature.Perform

/-!
The order in which a handler works. Its features are applied as they were registered and deleted the other way
round; each call finds the cluster as the one before left it, none is left out because another failed, and the
result lists what failed under the names of the features.
-/

namespace Provision

variable {S : Type}

/-! ### Calling features -/

namespace Feature

/-- The calls of features that were made, with their outcomes. -/
abbrev Calls (S : Type) := List (Feature (StateM S) × Except Failure Unit)

/-- What failed in calls, in order, each failure as that of its feature. -/
def failuresOf (calls : Calls S) : List Failure :=
  calls.filterMap fun c => (Failure.ofOutcome? c.2).map (.feature c.1.name)

theorem failuresOf_eq_nil_iff (calls : Calls S) :
    failuresOf calls = [] ↔ ∀ c ∈ calls, c.2 = .ok () := by
  rw [failuresOf, List.filterMap_eq_nil_iff]
  refine forall₂_congr fun c _ => ?_
  cases c.2 <;> simp [Failure.ofOutcome?]

variable [Clock (StateM S)] {call : Call}

/-- Features are called one after the other, each anew, on the cluster as the call before left it. -/
inductive Visits (call : Call) : List (Feature (StateM S)) → S → Calls S → S → Prop
  | done (w : S) : Visits call [] w [] w
  | next {f : Feature (StateM S)} {rest : List (Feature (StateM S))} {outcome : Except Failure Unit}
      {p : Progress} {calls : Calls S} {w w' w'' : S}
      (hcall : perform (f.call call) ({}, w) = (outcome, p, w')) (hrest : Visits call rest w' calls w'') :
      Visits call (f :: rest) w ((f, outcome) :: calls) w''

/-- There is one way to visit features. -/
theorem Visits.unique {features : List (Feature (StateM S))} {calls₁ calls₂ : Calls S} {w w₁ w₂ : S}
    (hfirst : Visits call features w calls₁ w₁) (hsecond : Visits call features w calls₂ w₂) :
    calls₁ = calls₂ ∧ w₁ = w₂ := by
  induction hfirst generalizing calls₂ w₂ with
  | done w =>
      cases hsecond
      exact ⟨rfl, rfl⟩
  | next hcall _ ih =>
      cases hsecond with
      | next hcall' hrest' =>
          cases hcall.symm.trans hcall'
          obtain ⟨rfl, rfl⟩ := ih hrest'
          exact ⟨rfl, rfl⟩

theorem run_runEach_cons {f : Feature (StateM S)} (rest : List (Feature (StateM S)))
    (failures : List Failure) {w w' : S} {outcome : Except Failure Unit} {p : Progress}
    (hcall : perform (f.call call) ({}, w) = (outcome, p, w')) :
    (Handler.runEach (fun f => f.call call) (f :: rest) failures).run w =
      (Handler.runEach (fun f => f.call call) rest
        (Failure.pushResult failures (outcome.mapError (.feature f.name)))).run w' := by
  have hrun : ((f.call call).run.run {}).run w = ((outcome, p), w') :=
    congrArg (fun s : Except Failure Unit × Progress × S => ((s.1, s.2.1), s.2.2)) hcall
  rw [Handler.runEach, StateT.run_bind, hrun]
  rfl

/-- Running a call on every feature visits them in order, and collects what fails. -/
theorem run_runEach (call : Call) (features : List (Feature (StateM S))) (failures : List Failure) (w : S) :
    ∃ calls w', Visits call features w calls w' ∧
      (Handler.runEach (fun f => f.call call) features failures).run w =
        (failures ++ failuresOf calls, w') := by
  induction features generalizing failures w with
  | nil =>
      refine ⟨[], w, .done w, ?_⟩
      rw [failuresOf, List.filterMap_nil, List.append_nil]
      rfl
  | cons f rest ih =>
      cases hcall : perform (f.call call) ({}, w) with
      | mk outcome after =>
          obtain ⟨calls, w'', hvisits, hrun⟩ :=
            ih (Failure.pushResult failures (outcome.mapError (.feature f.name))) after.2
          refine ⟨(f, outcome) :: calls, w'', .next hcall hvisits, ?_⟩
          rw [run_runEach_cons rest failures hcall, hrun]
          cases outcome with
          | ok _ => rfl
          | error e =>
              exact congrArg (·, w'') (List.append_assoc failures [.feature f.name e] (failuresOf calls))

end Feature

/-! ### Operations of a handler -/

/-- What is asked of every feature in an operation. -/
def HandlerOperation.call : HandlerOperation → Feature.Call
  | apply => .apply
  | delete => .cleanup

/-- The order in which an operation goes through features. -/
def HandlerOperation.order {α : Type} : HandlerOperation → List α → List α
  | apply, features => features
  | delete, features => features.reverse

namespace Handler

/-- Features are made of their definitions one after the other. -/
inductive Makes (around : Surroundings (StateM S)) :
    List (Definition (StateM S)) → S → List (Feature (StateM S)) → S → Prop
  | done (w : S) : Makes around [] w [] w
  | next {d : Definition (StateM S)} {rest : List (Definition (StateM S))} {f : Feature (StateM S)}
      {features : List (Feature (StateM S))} {w w' w'' : S}
      (hmade : (d.create around).run.run w = (.ok f, w')) (hrest : Makes around rest w' features w'') :
      Makes around (d :: rest) w (f :: features) w''

/-- The providers of a handler succeed, and of every definition that they register, in order, a feature is
made. -/
inductive Prepares (around : Surroundings (StateM S)) (h : Handler (StateM S)) (w : S) :
    List (Feature (StateM S)) → S → Prop
  | nothing (hregistry : Registry.collect h.providers = .ok []) : Prepares around h w [] w
  | made {d : Definition (StateM S)} {rest : Registry (StateM S)} {client : Client (StateM S)}
      {features : List (Feature (StateM S))} {w' w'' : S}
      (hregistry : Registry.collect h.providers = .ok (d :: rest))
      (hclient : (h.connection.resolve around h.settings.fieldManager).run.run w = (.ok client, w'))
      (hmakes : Makes around ((d :: rest).map (h.adopt client)) w' features w'') :
      Prepares around h w features w''

variable {around : Surroundings (StateM S)} {h : Handler (StateM S)} {made : List (Feature (StateM S))}
  {w w' : S}

/-- Making the first feature, and then the others whatever came of it. -/
theorem run_createEach_cons (d : Definition (StateM S)) (rest : List (Definition (StateM S))) (w : S) :
    (createEach around (d :: rest)).run w =
      let first := (d.create around).run.run w
      let others := (createEach around rest).run first.2
      match first.1 with
      | .ok f => ((others.1.1, f :: others.1.2), others.2)
      | .error e => ((Failure.push [] e ++ others.1.1, others.1.2), others.2) := by
  rw [createEach, StateT.run_bind]
  cases hfirst : (d.create around).run.run w with
  | mk outcome w₁ => cases outcome <;> rfl

theorem Makes.run_createEach {definitions : List (Definition (StateM S))}
    (hmakes : Makes around definitions w made w') :
    (createEach around definitions).run w = (([], made), w') := by
  induction hmakes with
  | done w => rfl
  | next hmade _ ih => simp only [run_createEach_cons, hmade, ih]

theorem Prepares.run_features (hprepares : h.Prepares around w made w') :
    (h.features around).run.run w = (.ok made, w') := by
  cases hprepares with
  | nothing hregistry =>
      rw [features, hregistry]
      rfl
  | made hregistry hclient hmakes =>
      rw [features, hregistry, liftM_ok_bind, if_neg (by simp), run_bind_of_ok _ hclient,
        run_lift_bind _ hmakes.run_createEach]
      rfl

variable [Clock (StateM S)]

/-- An operation visits the features in its order, and its result is what failed. -/
theorem Prepares.run_perform (hprepares : h.Prepares around w made w') (operation : HandlerOperation) :
    ∃ calls w'', Feature.Visits operation.call (operation.order made) w' calls w'' ∧
      (h.perform around operation).run.run w =
        (Failure.toResult (Feature.failuresOf calls), w'') := by
  obtain ⟨calls, w'', hvisits, hrun⟩ := Feature.run_runEach operation.call (operation.order made) [] w'
  refine ⟨calls, w'', hvisits, ?_⟩
  cases operation with
  | apply =>
      rw [perform, apply, run_bind_of_ok _ hprepares.run_features]
      exact run_lift_bind _ hrun
  | delete =>
      rw [perform, delete, run_bind_of_ok _ hprepares.run_features]
      exact run_lift_bind _ hrun

/-- A handler works in order. If its features can be made, an operation calls every one of them exactly once, in
the order in which they were registered or the other way round, each on the cluster as the call before left it
and whatever the others came to. The result is a success if every call is, and otherwise it consists of what
failed, in the order of the calls, each failure unchanged under the name of its feature. -/
theorem works_in_order (hprepares : h.Prepares around w made w') (operation : HandlerOperation) :
    ∃ calls w'' result, Feature.Visits operation.call (operation.order made) w' calls w'' ∧
      (∀ calls' finish, Feature.Visits operation.call (operation.order made) w' calls' finish →
        calls' = calls ∧ finish = w'') ∧
      (h.perform around operation).run.run w = (result, w'') ∧
      (result = .ok () ↔ ∀ c ∈ calls, c.2 = .ok ()) ∧
      result = Failure.toResult (Feature.failuresOf calls) := by
  obtain ⟨calls, w'', hvisits, hperform⟩ := hprepares.run_perform operation
  refine ⟨calls, w'', _, hvisits, fun _ _ hother => hother.unique hvisits, hperform, ?_, rfl⟩
  rw [Failure.toResult_eq_ok_iff, Feature.failuresOf_eq_nil_iff]

/-! ### Two features that fail -/

namespace BothFail

/-- A cluster that notes which trackers it should delete, and refuses everything. -/
def client : Client (StateM (List String)) := .ofRequests fun r => ExceptT.mk do
  if let .deleteTracker name := r then modify (· ++ [name])
  return .error (.action "no cluster")

/-- A clock that stands still. -/
instance : Clock (StateM (List String)) where
  elapsed := pure 0
  sleep _ := pure ()
  now := pure default

def surroundings : Surroundings (StateM (List String)) where
  standardClient _ := throw (.action "no cluster")
  clientAt _ _ := throw (.action "no cluster")
  runProgram _ _ := throw "no programs"

def gateway : Definition (StateM (List String)) := { name := "gateway" }

def mesh : Definition (StateM (List String)) where
  name := "mesh"
  cleanups := [fun _ => throw (.action "no route")]

def handler : Handler (StateM (List String)) where
  space := "svc"
  providers := [Registry.add [mesh], Registry.add [gateway]]
  connection := .client client

/-- Both are deleted, the last one first, and the two failures of one feature stay together. -/
theorem last_fails_first : (handler.perform surroundings .delete).run.run [] =
    (.error (.many [.feature "gateway" (.action "no cluster"),
      .feature "mesh" (.many [.action "no route", .action "no cluster"])]), ["svc-gateway", "svc-mesh"]) := by
  have hprepares : handler.Prepares surroundings [] _ [] :=
    .made rfl rfl (.next rfl (.next rfl (.done _)))
  obtain ⟨calls, log, result, hvisits, -, hperform, -, hresult⟩ := works_in_order hprepares .delete
  obtain ⟨rfl, rfl⟩ := hvisits.unique (.next rfl (.next rfl (.done _)))
  rw [hperform, hresult]
  rfl

end BothFail

end Handler

end Provision

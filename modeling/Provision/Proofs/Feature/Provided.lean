import Provision.Feature.Check
import Provision.Proofs.Feature.Parts

/-!
The steps that the engine brings along. They only read, create what is missing, and wait; what holds of these
things holds of the steps. The same goes for applying objects.
-/

namespace Provision

variable {m : Type → Type} [Monad m] {P : (α : Type) → m α → Prop}

namespace Composable

/-! ### Applying objects -/

section Applying

variable (hP : Composable P) {client : Client m} (hget : ∀ type key, P _ (client.get type key).run)
  (hcreate : ∀ type o, P _ (client.create type o).run)

include hP hcreate

theorem createIfAbsent (type : ResourceType) (o : Object) : P _ (client.createIfAbsent type o).run := by
  refine hP.bind (hcreate type o) fun created => ?_
  match created with
  | .ok _ => exact hP.done (Except.ok true)
  | .error f => exact hP.done (if f.isAlreadyExists then Except.ok false else Except.error f)

include hget

theorem applyObject [LawfulMonad m] (hreplace : ∀ type o, P _ (client.replace type o).run) (options : List MetaOption)
    (o : Object) : P _ (client.applyObject options o).run := by
  refine hP.exceptLift _ fun type _ => hP.exceptBind (hget type _) fun found => ?_
  match found with
  | none => exact hP.exceptBind (hP.createIfAbsent hcreate type _) fun created => hP.done (Except.ok _)
  | some live =>
      change P _ (ExceptT.run (if live.isManaged then _ else _))
      by_cases hmanaged : live.isManaged
      · rw [if_pos hmanaged]
        exact hP.exceptBind (hreplace type _) fun _ => hP.done (Except.ok ApplyOutcome.updated)
      · rw [if_neg hmanaged]
        exact hP.done (Except.ok ApplyOutcome.unchanged)

theorem applyObjects [LawfulMonad m] (hreplace : ∀ type o, P _ (client.replace type o).run)
    (hpatch : ∀ type key patch, P _ (client.mergePatch type key patch).run) (options : List MetaOption)
    (patch : Bool) (objects : List Object) : P _ (client.applyObjects options patch objects).run := by
  induction objects with
  | nil => exact hP.done (Except.ok ())
  | cons o rest ih =>
      cases patch with
      | false => exact hP.exceptBind (hP.applyObject hget hcreate hreplace options o) fun _ => ih
      | true =>
          refine hP.exceptBind (hP.exceptLift _ fun type _ => ?_) fun _ => ih
          exact hP.exceptBind (hpatch type _ _) fun _ => hP.done (Except.ok ())

end Applying

/-! ### Waiting -/

section Waiting

variable [Clock m] (hP : Composable P) (helapsed : P _ (Clock.elapsed (m := m)))
  (hsleep : ∀ d, P _ (Clock.sleep (m := m) d)) {check : ExceptT Failure m Bool} (hcheck : P _ check.run)

include hP helapsed hsleep hcheck

theorem checkFrom (start timeout interval : Nanoseconds) (what : String) (checks : Nat)
    (last : Option Failure) : P _ (Poll.checkFrom start timeout interval what check checks last).run := by
  induction checks generalizing last with
  | zero => exact hP.error _
  | succ checks ih =>
      -- What follows a check that does not hold.
      have hwait : ∀ last : Option Failure, P (Except Failure Unit) (do
          let now ← Clock.elapsed
          if timeout ≤ now - start then pure (.error (Poll.timedOut timeout what last))
          else
            Clock.sleep interval
            (Poll.checkFrom start timeout interval what check checks last).run) := by
        intro last
        refine hP.bind helapsed fun now => ?_
        split
        · exact hP.done _
        · exact hP.bind (hsleep interval) fun _ => ih last
      refine hP.bind hcheck fun outcome => ?_
      match outcome with
      | .ok true => exact hP.done (Except.ok ())
      | .ok false => exact hwait last
      | .error f => exact hwait (some f)

theorem pollUntil [LawfulMonad m] (timeout interval : Nanoseconds) (what : String) :
    P _ (Poll.pollUntil timeout interval what check).run :=
  hP.exceptBind (hP.map Except.ok helapsed) fun _ => hP.checkFrom helapsed hsleep hcheck ..

end Waiting

end Composable

/-! ### Steps -/

/-- The steps that the engine brings along. -/
inductive Action.Provided [Clock m] : Action m → Prop
  | createNamespace (name : String) : Provided (createNamespace name)
  | requireDefinition (name : String) : Provided (requireDefinition name)
  | waitForPods (space : String) (timeout : Nanoseconds) : Provided (waitForPods space timeout)
  | waitForObject (type : ResourceType) (key : ObjectKey) (timeout : Nanoseconds) :
      Provided (waitForObject type key timeout)

/-- A property of reading, creating and waiting is a property of the steps that the engine brings along. -/
theorem Composable.provided [LawfulMonad m] [Clock m] (hP : Composable P) {c : Context m}
    (hget : ∀ type key, P _ (c.client.get type key).run)
    (hcreate : ∀ type o, P _ (c.client.create type o).run)
    (hlist : ∀ type space selector, P _ (c.client.list type space selector).run)
    (helapsed : P _ (Clock.elapsed (m := m))) (hsleep : ∀ d, P _ (Clock.sleep (m := m) d))
    {action : Action m} (hprovided : action.Provided) : InEveryState P _ _ (action c).run := by
  cases hprovided with
  | createNamespace name =>
      refine hP.onCluster (hP.exceptBind (hget _ _) fun found => ?_)
      match found with
      | some _ => exact hP.done (Except.ok ())
      | none => exact hP.exceptBind (hP.createIfAbsent hcreate _ _) fun _ => hP.done (Except.ok ())
  | requireDefinition name =>
      refine hP.onCluster (hP.exceptBind (hget _ _) fun found => ?_)
      match found with
      | some _ => exact hP.done (Except.ok ())
      | none => exact hP.error _
  | waitForPods space timeout =>
      refine hP.onCluster (hP.pollUntil helapsed hsleep ?_ ..)
      rw [ExceptT.run_map]
      exact hP.map _ (hlist _ _ _)
  | waitForObject type key timeout =>
      refine hP.onCluster (hP.pollUntil helapsed hsleep ?_ ..)
      rw [ExceptT.run_map]
      exact hP.map _ (hget _ _)

end Provision

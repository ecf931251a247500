import Provision.Proofs.Feature.Run
import Provision.Proofs.Store.Operations

/-!
Carrying out what a feature does. A computation with a state of its own runs on a cluster; what it leaves
behind is its outcome, the state and the cluster. The cluster can be anything with a state, and in
particular a scene that holds a reachable store.
-/

namespace Provision

variable {R S α β : Type}

/-- Carry out a computation on a state and a cluster. -/
def carryOut (x : StateT R (StateM S) α) (s : R × S) : α × R × S :=
  let after := ((x.run s.1).run s.2).run
  (after.1.1, after.1.2, after.2)

/-- Carry out a computation that may fail. -/
def perform (x : ExceptT Failure (StateT R (StateM S)) α) (s : R × S) : Except Failure α × R × S :=
  carryOut x.run s

theorem carryOut_bind (x : StateT R (StateM S) α) (next : α → StateT R (StateM S) β) (s : R × S) :
    carryOut (x >>= next) s = carryOut (next (carryOut x s).1) (carryOut x s).2 := rfl

theorem perform_bind_of_ok {x : ExceptT Failure (StateT R (StateM S)) α}
    (next : α → ExceptT Failure (StateT R (StateM S)) β) {s s' : R × S} {a : α}
    (hx : perform x s = (.ok a, s')) : perform (x >>= next) s = perform (next a) s' := by
  unfold perform at hx ⊢
  rw [ExceptT.run_bind, carryOut_bind, hx]

theorem perform_bind_of_error {x : ExceptT Failure (StateT R (StateM S)) α}
    (next : α → ExceptT Failure (StateT R (StateM S)) β) {s s' : R × S} {f : Failure}
    (hx : perform x s = (.error f, s')) : perform (x >>= next) s = (.error f, s') := by
  unfold perform at hx ⊢
  rw [ExceptT.run_bind, carryOut_bind, hx]
  rfl

theorem perform_adapt (x : ExceptT Failure (StateT R (StateM S)) α) (change : Failure → Failure)
    (s : R × S) :
    perform (x.adapt change) s = ((perform x s).1.mapError change, (perform x s).2) := rfl

/-! ### On the cluster alone -/

theorem run_bind_of_ok {x : ExceptT Failure (StateM S) α} (next : α → ExceptT Failure (StateM S) β)
    {w w' : S} {a : α} (hx : x.run.run w = (.ok a, w')) :
    (x >>= next).run.run w = (next a).run.run w' := by
  rw [ExceptT.run_bind, StateT.run_bind, hx]
  rfl

theorem run_bind_of_error {x : ExceptT Failure (StateM S) α} (next : α → ExceptT Failure (StateM S) β)
    {w w' : S} {f : Failure} (hx : x.run.run w = (.error f, w')) :
    (x >>= next).run.run w = (.error f, w') := by
  rw [ExceptT.run_bind, StateT.run_bind, hx]
  rfl

theorem run_lift_bind {x : StateM S α} (next : α → ExceptT Failure (StateM S) β) {w w' : S}
    {a : α} (hx : x.run w = (a, w')) : (ExceptT.lift x >>= next).run.run w = (next a).run.run w' := by
  have hlifted : (ExceptT.lift x : ExceptT Failure (StateM S) α).run.run w = (.ok a, w') := by
    rw [ExceptT.run_lift, StateT.run_map, hx]
    rfl
  exact run_bind_of_ok next hlifted

/-- What succeeds in the end has succeeded in between. -/
theorem exists_of_run_bind_ok {x : ExceptT Failure (StateM S) α} {next : α → ExceptT Failure (StateM S) β}
    {w w' : S} {b : β} (hrun : (x >>= next).run.run w = (.ok b, w')) :
    ∃ a w₁, x.run.run w = (.ok a, w₁) ∧ (next a).run.run w₁ = (.ok b, w') := by
  cases hx : x.run.run w with
  | mk outcome w₁ =>
      cases outcome with
      | ok a =>
          rw [run_bind_of_ok next hx] at hrun
          exact ⟨a, w₁, rfl, hrun⟩
      | error f =>
          rw [run_bind_of_error next hx] at hrun
          cases hrun

theorem of_run_lift_ok {x : StateM S α} {a : α} {w w' : S}
    (hrun : (ExceptT.lift x : ExceptT Failure (StateM S) α).run.run w = (.ok a, w')) : x.run w = (a, w') := by
  cases hx : x.run w with
  | mk b w₁ =>
      rw [ExceptT.run_lift, StateT.run_map, hx] at hrun
      cases hrun
      rfl

theorem of_run_liftM_ok {x : Except Failure α} {a : α} {w w' : S}
    (hrun : (liftM x : ExceptT Failure (StateM S) α).run.run w = (.ok a, w')) : x = .ok a ∧ w' = w :=
  ⟨congrArg Prod.fst hrun, (congrArg Prod.snd hrun).symm⟩

theorem perform_onCluster (x : ExceptT Failure (StateM S) α) (r : R) (w : S) :
    perform (onCluster x) (r, w) = ((x.run.run w).1, r, (x.run.run w).2) := rfl

theorem perform_onCluster_bind (x : ExceptT Failure (StateM S) α)
    (next : α → ExceptT Failure (StateM S) β) (s : R × S) :
    perform (onCluster (x >>= next)) s = perform (onCluster x >>= fun a => onCluster (next a)) s := by
  obtain ⟨r, w⟩ := s
  cases hx : x.run.run w with
  | mk outcome after =>
      have hperform : perform (onCluster x) (r, w) = (outcome, r, after) := by
        rw [perform_onCluster, hx]
      cases outcome with
      | ok a =>
          rw [perform_bind_of_ok _ hperform, perform_onCluster, perform_onCluster,
            run_bind_of_ok next hx]
      | error f =>
          rw [perform_bind_of_error _ hperform, perform_onCluster, run_bind_of_error next hx]

/-! ### With the state -/

theorem perform_get_bind (next : R → ExceptT Failure (StateT R (StateM S)) α) (s : R × S) :
    perform (get >>= next) s = perform (next s.1) s := by
  unfold perform carryOut
  rw [run_get_bind]

theorem perform_modify_bind (change : R → R)
    (next : Unit → ExceptT Failure (StateT R (StateM S)) α) (s : R × S) :
    perform (modify change >>= next) s = perform (next ()) (change s.1, s.2) := by
  unfold perform carryOut
  rw [run_modify_bind]

/-! ### What is kept -/

/-- A computation keeps a property of the state, however it ends. -/
def Keeps (I : R → Prop) (x : ExceptT Failure (StateT R (StateM S)) α) : Prop :=
  ∀ s, I s.1 → I (perform x s).2.1

namespace Keeps

variable {I : R → Prop}

theorem done (a : α) : Keeps I (pure a : ExceptT Failure (StateT R (StateM S)) α) :=
  fun _ hs => hs

theorem bind {x : ExceptT Failure (StateT R (StateM S)) α}
    {next : α → ExceptT Failure (StateT R (StateM S)) β} (hx : Keeps I x)
    (hnext : ∀ a, Keeps I (next a)) : Keeps I (x >>= next) := by
  intro s hs
  have hfirst := hx s hs
  cases hperform : perform x s with
  | mk outcome after =>
      rw [hperform] at hfirst
      cases outcome with
      | ok a =>
          rw [perform_bind_of_ok _ hperform]
          exact hnext a after hfirst
      | error f =>
          rw [perform_bind_of_error _ hperform]
          exact hfirst

theorem cluster (x : ExceptT Failure (StateM S) α) :
    Keeps I (onCluster x : ExceptT Failure (StateT R (StateM S)) α) :=
  fun _ hs => hs

theorem change {change : R → R} (hchange : ∀ r, I r → I (change r)) :
    Keeps I (modify change : ExceptT Failure (StateT R (StateM S)) Unit) :=
  fun s hs => hchange s.1 hs

end Keeps

/-! ### Scenes -/

/-- A store that operations have made, and whatever else there is. -/
structure Scene (E : Type) where
  store : Store
  reachable : store.Reachable
  rest : E

namespace Scene

variable {E : Type}

/-- Do something that has nothing to do with the store. -/
def around (x : StateM E α) : StateM (Scene E) α := fun w =>
  let after := (x.run w.rest).run
  (after.1, { w with rest := after.2 })

instance [Clock (StateM E)] : Clock (StateM (Scene E)) where
  elapsed := around Clock.elapsed
  sleep d := around (Clock.sleep d)
  now := around Clock.now

/-- Ask the store for something. -/
def request (r : Store.Request) : ExceptT Failure (StateM (Scene E)) r.Result := ExceptT.mk fun w =>
  ((r.perform w.store).1,
    { w with store := (r.perform w.store).2, reachable := w.reachable.apply (.request r) })

/-- The store as features see it. -/
def client : Client (StateM (Scene E)) := .ofRequests request

/-- A request is answered as the store answers it. -/
theorem run_request {r : Store.Request} {w : Scene E} {reply : Except Failure r.Result} {after : Store}
    (hreply : r.perform w.store = (reply, after)) :
    ∃ w', (request r).run.run w = (reply, w') ∧ w'.store = after := by
  have hanswer : ((request r).run.run w).1 = reply := congrArg Prod.fst hreply
  exact ⟨((request r).run.run w).2, Prod.ext hanswer rfl, congrArg Prod.snd hreply⟩

end Scene

end Provision

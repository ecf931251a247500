import Provision.Feature.Basic

/-!
The calls of a feature, the options that go with its tracker, and equations for its computations: reading and
changing the state, and what is known without the cluster, come to nothing but what follows them.
-/

namespace Provision

variable {m : Type → Type} {S α β : Type}

namespace Context

variable {c : Context m}

/-- With a tracker that has a uid, a feature can apply objects. -/
theorem exists_metaOptions {t : Tracker} {uid : String} (htracker : c.tracker = some t)
    (huid : t.metadata.uid = some uid) : ∃ options, c.metaOptions = .ok options := by
  simp only [metaOptions, ownerReference?, htracker, Option.bind_some, Tracker.ownerReference?, huid,
    Option.map_some]
  exact ⟨_, rfl⟩

/-- Objects are applied for the tracker of the feature. -/
theorem owner_of_metaOptions {options : List MetaOption} (hoptions : c.metaOptions = .ok options) :
    ∃ owner, c.ownerReference? = some owner ∧
      options = .ownedBy owner :: if c.managed then [.managed] else [] := by
  unfold metaOptions at hoptions
  cases howner : c.ownerReference? with
  | none =>
      rw [howner] at hoptions
      cases hoptions
  | some owner =>
      rw [howner] at hoptions
      cases hoptions
      exact ⟨owner, rfl, rfl⟩

end Context

variable [Monad m]

namespace Feature

/-- What can be asked of a feature. -/
inductive Call where
  | apply
  | cleanup

/-- Do what is asked. -/
def call [Clock m] (f : Feature m) : Call → Run m Unit
  | .apply => f.apply
  | .cleanup => f.cleanup

end Feature

variable [LawfulMonad m]

theorem run_get_bind (next : S → ExceptT Failure (StateT S m) α) (s : S) :
    (get >>= next).run.run s = (next s).run.run s := by
  change (ExceptT.lift (get : StateT S m S) >>= next).run.run s = _
  simp

theorem run_modify_bind (change : S → S) (next : Unit → ExceptT Failure (StateT S m) α) (s : S) :
    (modify change >>= next).run.run s = (next ()).run.run (change s) := by
  change (ExceptT.lift (modify change : StateT S m Unit) >>= next).run.run s = _
  simp

theorem run_modify (change : S → S) (s : S) :
    (modify change : ExceptT Failure (StateT S m) Unit).run.run s = pure (.ok (), change s) := by
  change (ExceptT.lift (modify change : StateT S m Unit)).run.run s = _
  simp

theorem liftM_ok_bind (a : α) (next : α → ExceptT Failure m β) :
    (liftM (Except.ok a : Except Failure α) >>= next : ExceptT Failure m β) = next a :=
  pure_bind a next

theorem run_liftM_error_bind (f : Failure) (next : α → ExceptT Failure m β) :
    (liftM (Except.error f : Except Failure α) >>= next : ExceptT Failure m β).run =
      pure (.error f) :=
  pure_bind (Except.error f) _

theorem adapt_bind (change : Failure → Failure) (x : ExceptT Failure m α)
    (next : α → ExceptT Failure m β) :
    (x >>= next).adapt change = x.adapt change >>= fun a => (next a).adapt change := by
  refine ExceptT.ext ?_
  change Except.mapError change <$> (x.run >>= _) = (Except.mapError change <$> x.run) >>= _
  rw [map_bind, bind_map_left]
  refine bind_congr fun outcome => ?_
  match outcome with
  | .ok a => rfl
  | .error f => exact map_pure (Except.mapError change) (Except.error f)

namespace Feature

/-- Applying a feature: its predicate decides what is done. -/
theorem run_apply [Clock m] (f : Feature m) (p : Progress) :
    f.apply.run.run p = (f.enabled (f.context p.tracker) p.data).run >>= fun answer =>
      match answer with
      | .ok true => f.enable.run.run p
      | .ok false => f.disable.run.run p
      | .error e => pure (.error e, p) := by
  have henabled : f.isEnabled.run.run p =
      (f.enabled (f.context p.tracker) p.data).run >>= fun answer => pure (answer, p) :=
    run_get_bind _ p
  unfold apply
  rw [ExceptT.run_bind, StateT.run_bind, henabled, bind_assoc]
  refine bind_congr fun answer => ?_
  rw [pure_bind]
  match answer with
  | .ok true => rfl
  | .ok false => rfl
  | .error e => rfl

end Feature

end Provision

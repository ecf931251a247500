import Provision.Proofs.Store.Operations

/-!
Collecting garbage. What goes with some uids is said by a relation of its own: what one of them owns, and what is
owned by an object that goes. A collection comes to an end, takes exactly these objects, and leaves all others as
they are, of which none names an owner that is gone.
-/

namespace Provision.Store

variable {uids : List String} {objects left : Keyed StoreKey Object} {entry : StoreKey × Object}

/-- The objects that go with some uids: the least set with the objects that name one of the uids as an owner, and
with those that name the uid of an object in it. -/
inductive Garbage (uids : List String) (objects : Keyed StoreKey Object) : StoreKey × Object → Prop
  | owned {entry : StoreKey × Object} {uid : String} (hentry : entry ∈ objects) (huid : uid ∈ uids)
      (howned : entry.2.metadata.isOwnedBy uid) : Garbage uids objects entry
  | through {owner entry : StoreKey × Object} {uid : String} (howner : Garbage uids objects owner)
      (huid : owner.2.metadata.uid = some uid) (hentry : entry ∈ objects)
      (howned : entry.2.metadata.isOwnedBy uid) : Garbage uids objects entry

/-! ### Rounds -/

/-- What goes in one round. -/
def orphans (uids : List String) (objects : Keyed StoreKey Object) : Keyed StoreKey Object :=
  objects.filter fun e => isOwned uids e.2

/-- What stays in one round. -/
def unowned (uids : List String) (objects : Keyed StoreKey Object) : Keyed StoreKey Object :=
  objects.filter fun e => !isOwned uids e.2

/-- The uids after one round: those of what went come to them. -/
def uidsAfter (uids : List String) (objects : Keyed StoreKey Object) : List String :=
  uids ++ (orphans uids objects).filterMap fun e => e.2.metadata.uid

/-- Round after round, until nothing goes. -/
inductive Sweeps : List String → Keyed StoreKey Object → Keyed StoreKey Object → Prop
  | done {uids : List String} {objects : Keyed StoreKey Object} (hnone : orphans uids objects = []) :
      Sweeps uids objects objects
  | round {uids : List String} {objects left : Keyed StoreKey Object} (hsome : orphans uids objects ≠ [])
      (hrest : Sweeps (uidsAfter uids objects) (unowned uids objects) left) : Sweeps uids objects left

theorem isOwned_iff {o : Object} : isOwned uids o ↔ ∃ uid ∈ uids, o.metadata.isOwnedBy uid := by
  simp only [isOwned, Metadata.isOwnedBy, List.any_eq_true, List.contains_iff_mem, beq_iff_eq]
  constructor
  · rintro ⟨owner, howner, hmem⟩
    exact ⟨owner.uid, hmem, owner, howner, rfl⟩
  · rintro ⟨uid, hmem, owner, howner, rfl⟩
    exact ⟨owner, howner, hmem⟩

theorem mem_orphans_iff : entry ∈ orphans uids objects ↔ entry ∈ objects ∧ isOwned uids entry.2 :=
  List.mem_filter

theorem mem_unowned_iff : entry ∈ unowned uids objects ↔ entry ∈ objects ∧ ¬ isOwned uids entry.2 := by
  simp [unowned]

theorem mem_uidsAfter_iff {uid : String} : uid ∈ uidsAfter uids objects ↔
    uid ∈ uids ∨ ∃ orphan ∈ orphans uids objects, orphan.2.metadata.uid = some uid := by
  simp only [uidsAfter, List.mem_append, List.mem_filterMap]

/-- A round in which something goes leaves fewer objects. -/
theorem length_unowned_lt (hsome : orphans uids objects ≠ []) :
    (unowned uids objects).length < objects.length := by
  obtain ⟨orphan, horphan⟩ := List.exists_mem_of_ne_nil _ hsome
  rw [unowned, List.length_filter_lt_length_iff_exists]
  obtain ⟨hmem, howned⟩ := mem_orphans_iff.mp horphan
  exact ⟨orphan, hmem, by simpa using howned⟩

theorem collectRounds_succ (rounds : Nat) (uids : List String) (objects : Keyed StoreKey Object) :
    collectRounds (rounds + 1) uids objects = if (orphans uids objects).isEmpty then objects
      else collectRounds rounds (uidsAfter uids objects) (unowned uids objects) := by
  simp only [collectRounds, List.partition_eq_filter_filter]
  rfl

/-- As many rounds as there are objects are enough: a collection has swept all by then. -/
theorem sweeps_collectRounds {rounds : Nat} (hrounds : objects.length ≤ rounds) :
    Sweeps uids objects (collectRounds rounds uids objects) := by
  induction rounds generalizing uids objects with
  | zero =>
      obtain rfl := List.length_eq_zero_iff.mp (Nat.le_zero.mp hrounds)
      exact .done rfl
  | succ rounds ih =>
      rw [collectRounds_succ]
      split
      · next hnone => exact .done (List.isEmpty_iff.mp hnone)
      · next hsome =>
          rw [List.isEmpty_iff] at hsome
          have hfewer := length_unowned_lt hsome
          exact .round hsome (ih (by omega))

/-! ### What goes -/

theorem Garbage.mem (hgarbage : Garbage uids objects entry) : entry ∈ objects := by
  cases hgarbage with
  | owned hentry _ _ => exact hentry
  | through _ _ hentry _ => exact hentry

theorem garbage_of_isOwned (hentry : entry ∈ objects) (howned : isOwned uids entry.2) :
    Garbage uids objects entry := by
  obtain ⟨uid, huid, hby⟩ := isOwned_iff.mp howned
  exact .owned hentry huid hby

/-- What goes is what goes in the first round, and what goes with the uids after it. -/
theorem garbage_iff : Garbage uids objects entry ↔
    entry ∈ orphans uids objects ∨ Garbage (uidsAfter uids objects) (unowned uids objects) entry := by
  constructor
  · intro hgarbage
    induction hgarbage with
    | owned hentry huid howned =>
        exact Or.inl (mem_orphans_iff.mpr ⟨hentry, isOwned_iff.mpr ⟨_, huid, howned⟩⟩)
    | @through owner entry uid _ huid hentry howned ih =>
        by_cases hfirst : isOwned uids entry.2
        · exact Or.inl (mem_orphans_iff.mpr ⟨hentry, hfirst⟩)
        · have hstays := mem_unowned_iff.mpr ⟨hentry, hfirst⟩
          rcases ih with horphan | hlater
          · exact Or.inr (.owned hstays (mem_uidsAfter_iff.mpr (Or.inr ⟨owner, horphan, huid⟩)) howned)
          · exact Or.inr (.through hlater huid hstays howned)
  · rintro (horphan | hlater)
    · obtain ⟨hentry, howned⟩ := mem_orphans_iff.mp horphan
      exact garbage_of_isOwned hentry howned
    · induction hlater with
      | owned hentry huid howned =>
          have hmem := (mem_unowned_iff.mp hentry).1
          rcases mem_uidsAfter_iff.mp huid with hold | ⟨orphan, horphan, huid⟩
          · exact .owned hmem hold howned
          · obtain ⟨horphan, hfirst⟩ := mem_orphans_iff.mp horphan
            exact .through (garbage_of_isOwned horphan hfirst) huid hmem howned
      | through _ huid hentry howned ih => exact .through ih huid (mem_unowned_iff.mp hentry).1 howned

/-- If nothing goes in the first round, nothing goes at all. -/
theorem not_garbage_of_orphans (hnone : orphans uids objects = []) : ¬ Garbage uids objects entry := by
  intro hgarbage
  induction hgarbage with
  | @owned entry uid hentry huid howned =>
      have horphan := mem_orphans_iff.mpr ⟨hentry, isOwned_iff.mpr ⟨uid, huid, howned⟩⟩
      rw [hnone] at horphan
      exact List.not_mem_nil horphan
  | through _ _ _ _ ih => exact ih

open Classical in
/-- What is left is all that does not go. -/
theorem Sweeps.eq_filter (hsweeps : Sweeps uids objects left) :
    left = objects.filter fun e => ¬ Garbage uids objects e := by
  induction hsweeps with
  | @done uids objects hnone =>
      refine (List.filter_eq_self.mpr ?_).symm
      intro entry _
      simpa using not_garbage_of_orphans hnone
  | @round uids objects left hsome _ ih =>
      rw [ih, unowned, List.filter_filter]
      refine List.filter_congr fun entry hentry => ?_
      have hgoes : Garbage uids objects entry ↔ entry ∈ orphans uids objects ∨
          Garbage (uidsAfter uids objects) (unowned uids objects) entry := garbage_iff
      by_cases howned : isOwned uids entry.2
      · have hgarbage := garbage_of_isOwned hentry howned
        simp [howned, hgarbage]
      · have hstays : entry ∉ orphans uids objects := fun horphan => howned (mem_orphans_iff.mp horphan).2
        simp only [hstays, false_or] at hgoes
        simp [howned, hgoes, unowned]

theorem mem_collectGarbage_iff {s : Store} {uid : String} :
    entry ∈ (s.collectGarbage uid).objects ↔ entry ∈ s.objects ∧ ¬ Garbage [uid] s.objects entry := by
  have hsweeps : Sweeps [uid] s.objects (s.collectGarbage uid).objects :=
    sweeps_collectRounds (Nat.le_refl _)
  rw [hsweeps.eq_filter, List.mem_filter]
  simp only [decide_eq_true_eq]

open Classical in
/-- A collection is exact. For every store, whoever owns what, and every uid, it comes to an end; it takes the objects
that go with the uid and nothing else; and no object that is left names the uid or that of an object that went. -/
theorem collects_exactly (s : Store) (uid : String) :
    Sweeps [uid] s.objects (s.collectGarbage uid).objects ∧
    s.collectGarbage uid =
      { s with objects := s.objects.filter fun e => ¬ Garbage [uid] s.objects e } ∧
    ∀ entry ∈ (s.collectGarbage uid).objects, ¬ entry.2.metadata.isOwnedBy uid ∧
      ∀ gone, Garbage [uid] s.objects gone → ∀ u, gone.2.metadata.uid = some u →
        ¬ entry.2.metadata.isOwnedBy u := by
  have hsweeps : Sweeps [uid] s.objects (s.collectGarbage uid).objects :=
    sweeps_collectRounds (Nat.le_refl _)
  refine ⟨hsweeps, congrArg (fun objects => { s with objects }) hsweeps.eq_filter, ?_⟩
  intro entry hentry
  obtain ⟨hmem, hstays⟩ := mem_collectGarbage_iff.mp hentry
  constructor
  · intro howned
    exact hstays (.owned hmem List.mem_cons_self howned)
  · intro gone hgone u hu howned
    exact hstays (.through hgone hu hmem howned)

end Provision.Store

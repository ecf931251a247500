import Provision.Failure

/-!
Collecting failures. What is collected from outcomes is what failed among them, in order; only a list of
failures is taken apart, and an empty one leaves nothing behind.
-/

namespace Provision

/-- One thing after another succeeds if both do. -/
theorem except_bind_eq_ok_iff {ε α β : Type} {x : Except ε α} {next : α → Except ε β} {b : β} :
    (x >>= next) = .ok b ↔ ∃ a, x = .ok a ∧ next a = .ok b := by
  cases x with
  | error e =>
      constructor
      · intro heq
        cases heq
      · rintro ⟨a, heq, -⟩
        cases heq
  | ok a =>
      constructor
      · intro heq
        exact ⟨a, rfl, heq⟩
      · rintro ⟨a', heq, hnext⟩
        cases heq
        exact hnext

theorem except_map_eq_ok_iff {ε α β : Type} {change : α → β} {result : Except ε α} {b : β} :
    result.map change = .ok b ↔ ∃ a, result = .ok a ∧ change a = b := by
  cases result <;> simp [Except.map]

theorem except_mapError_eq_ok_iff {ε ε' α : Type} (change : ε → ε') (result : Except ε α) {a : α} :
    result.mapError change = .ok a ↔ result = .ok a := by
  cases result with
  | error e =>
      constructor
      · intro heq
        cases heq
      · intro heq
        cases heq
  | ok b =>
      constructor
      · intro heq
        exact congrArg Except.ok (Except.ok.inj heq)
      · intro heq
        exact congrArg Except.ok (Except.ok.inj heq)

namespace Failure

/-- The failure of an outcome, if it is one. -/
def ofOutcome? : Except Failure Unit → Option Failure
  | .ok _ => none
  | .error f => some f

/-- Failures that are no list of failures. -/
def Single (f : Failure) : Prop := ∀ failures, f ≠ many failures

/-- Failures that carry the name of a stage. -/
def Named (f : Failure) : Prop := ∃ reason source, f = stage reason source

theorem Named.single {f : Failure} (hnamed : f.Named) : f.Single := by
  obtain ⟨reason, source, rfl⟩ := hnamed
  intro failures heq
  cases heq

theorem push_of_single {f : Failure} (hsingle : f.Single) (collected : List Failure) :
    push collected f = collected ++ [f] := by
  cases f with
  | many failures => exact absurd rfl (hsingle failures)
  | _ => rfl

theorem push_eq_nil_iff (collected : List Failure) (f : Failure) :
    push collected f = [] ↔ collected = [] ∧ f = many [] := by
  cases f <;> simp [push]

/-- What a failure consists of: the members of a list of failures, or the failure alone. -/
def members : Failure → List Failure
  | many failures => failures
  | f => [f]

theorem push_eq_append (collected : List Failure) (f : Failure) :
    push collected f = collected ++ f.members := by
  cases f <;> rfl

/-- From any outcomes, what failed is collected in order, member by member. -/
theorem foldl_pushResult_eq_append (outcomes : List (Except Failure Unit)) (collected : List Failure) :
    outcomes.foldl pushResult collected =
      collected ++ (outcomes.filterMap ofOutcome?).flatMap members := by
  induction outcomes generalizing collected with
  | nil => simp
  | cons outcome rest ih =>
      rw [List.foldl_cons, ih]
      cases outcome with
      | ok _ => rfl
      | error f => simp [pushResult, ofOutcome?, push_eq_append]

theorem members_eq_nil_iff (f : Failure) : f.members = [] ↔ f = many [] := by
  cases f <;> simp [members]

/-- Nothing is collected if nothing failed, or only without any failure. -/
theorem flatMap_members_eq_nil_iff (outcomes : List (Except Failure Unit)) :
    (outcomes.filterMap ofOutcome?).flatMap members = [] ↔ ∀ f, .error f ∈ outcomes → f = many [] := by
  simp only [List.flatMap_eq_nil_iff, List.mem_filterMap, members_eq_nil_iff]
  constructor
  · intro hnone f hf
    exact hnone f ⟨.error f, hf, rfl⟩
  · rintro hnone f ⟨outcome, houtcome, heq⟩
    cases outcome with
    | ok _ => cases heq
    | error e =>
        obtain rfl := Option.some.inj heq
        exact hnone e houtcome

/-- From outcomes without lists of failures, exactly what failed is collected. -/
theorem foldl_pushResult_of_single {outcomes : List (Except Failure Unit)}
    (hsingle : ∀ f, .error f ∈ outcomes → f.Single) (collected : List Failure) :
    outcomes.foldl pushResult collected = collected ++ outcomes.filterMap ofOutcome? := by
  induction outcomes generalizing collected with
  | nil => simp
  | cons outcome rest ih =>
      have hrest : ∀ f, .error f ∈ rest → f.Single :=
        fun f hf => hsingle f (List.mem_cons_of_mem outcome hf)
      rw [List.foldl_cons, ih hrest]
      cases outcome with
      | ok _ => rfl
      | error f =>
          have hpush := push_of_single (hsingle f List.mem_cons_self) collected
          simp [pushResult, ofOutcome?, hpush]

/-- The result of what failed among outcomes is a success if all of them are. -/
theorem toResult_filterMap_eq_ok_iff (outcomes : List (Except Failure Unit)) :
    toResult (outcomes.filterMap ofOutcome?) = .ok () ↔ ∀ outcome ∈ outcomes, outcome = .ok () := by
  rw [toResult_eq_ok_iff, List.filterMap_eq_nil_iff]
  refine forall₂_congr fun outcome _ => ?_
  cases outcome <;> simp [ofOutcome?]

/-- Nothing is collected only if nothing failed, unless something failed without a failure. -/
theorem foldl_pushResult_eq_nil_iff {outcomes : List (Except Failure Unit)}
    (hmany : .error (many []) ∉ outcomes) (collected : List Failure) :
    outcomes.foldl pushResult collected = [] ↔
      collected = [] ∧ ∀ outcome ∈ outcomes, outcome = .ok () := by
  induction outcomes generalizing collected with
  | nil => simp
  | cons outcome rest ih =>
      simp only [List.mem_cons, not_or] at hmany
      rw [List.foldl_cons, ih hmany.2]
      cases outcome with
      | ok _ => simp [pushResult]
      | error f =>
          have hf : f ≠ many [] := fun heq => hmany.1 (by rw [heq])
          simp [pushResult, push_eq_nil_iff, hf]

/-- What is collected is a failure if something failed, with a failure that is no list. -/
theorem exists_error_of_mem {outcomes : List (Except Failure Unit)} {f : Failure}
    (hf : .error f ∈ outcomes) (hsingle : f.Single) :
    ∃ e, toResult (outcomes.foldl pushResult []) = .error e := by
  have hsome : outcomes.foldl pushResult [] ≠ [] := by
    rw [foldl_pushResult_eq_append, List.nil_append]
    intro hnone
    exact hsingle [] ((flatMap_members_eq_nil_iff outcomes).mp hnone f hf)
  rw [ne_eq, ← toResult_eq_ok_iff] at hsome
  cases hresult : toResult (outcomes.foldl pushResult []) with
  | ok _ => exact absurd hresult hsome
  | error e => exact ⟨e, rfl⟩

/-- A failure that was given the name of a stage has it. -/
theorem stage_of_mapError {reason : Reason} {result : Except Failure Unit} {f : Failure}
    (hresult : result.mapError (.stage reason) = .error f) : ∃ source, f = .stage reason source := by
  cases result with
  | ok _ => cases hresult
  | error source =>
      cases hresult
      exact ⟨source, rfl⟩

end Failure

end Provision

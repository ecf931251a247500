/-!
Finite maps as lists of entries in the order of their keys.

An entry list is built by `insert` alone, so its keys stay strictly increasing (`Keyed.Sorted`) and
the list itself is the canonical form of the map: two maps with the same entries are equal lists.
-/

namespace Provision

universe u v

/-- A map from keys to values, listed by key. -/
abbrev Keyed (κ : Type u) (α : Type v) := List (κ × α)

namespace Keyed

variable {κ : Type u} {α β : Type v}

section Order

variable [Ord κ]

/-- Keys grow strictly along the list. -/
def Sorted (m : Keyed κ α) : Prop :=
  m.Pairwise fun a b => compare a.1 b.1 = .lt

instance (m : Keyed κ α) : Decidable (Sorted m) :=
  inferInstanceAs (Decidable (List.Pairwise _ m))

/-- Put `v` at `k`, in place of what was there. -/
def insert : Keyed κ α → κ → α → Keyed κ α
  | [], k, v => [(k, v)]
  | (k', v') :: rest, k, v =>
    match compare k k' with
    | .lt => (k, v) :: (k', v') :: rest
    | .eq => (k, v) :: rest
    | .gt => (k', v') :: insert rest k v

/-- The value at `k`. -/
def get? : Keyed κ α → κ → Option α
  | [], _ => none
  | (k', v') :: rest, k =>
    match compare k k' with
    | .eq => some v'
    | _ => get? rest k

/-- Whether some entry has the key `k`. -/
def contains (m : Keyed κ α) (k : κ) : Bool :=
  (m.get? k).isSome

/-- Drop the entry at `k`, if there is one. -/
def erase : Keyed κ α → κ → Keyed κ α
  | [], _ => []
  | (k', v') :: rest, k =>
    match compare k k' with
    | .eq => rest
    | _ => (k', v') :: erase rest k

/-- Insert entries from left to right, so that of two entries with one key the later one stays. -/
def ofList (entries : List (κ × α)) : Keyed κ α :=
  entries.foldl (fun m e => insert m e.1 e.2) []

/-- All entries of `m`, then all of `n` over them. -/
def union (m n : Keyed κ α) : Keyed κ α :=
  n.foldl (fun acc e => insert acc e.1 e.2) m

@[simp] theorem get?_nil (k : κ) : get? ([] : Keyed κ α) k = none := rfl

theorem sorted_nil : Sorted ([] : Keyed κ α) := List.Pairwise.nil

end Order

/-- Change every value and keep the keys. -/
def mapValues (f : α → β) (m : Keyed κ α) : Keyed κ β :=
  m.map fun e => (e.1, f e.2)

/-- The keys in increasing order. -/
def keys (m : Keyed κ α) : List κ :=
  m.map Prod.fst

/-- The values in the order of their keys. -/
def values (m : Keyed κ α) : List α :=
  m.map Prod.snd

@[simp] theorem keys_mapValues (f : α → β) (m : Keyed κ α) : (m.mapValues f).keys = m.keys := by
  simp [mapValues, keys]

end Keyed
end Provision

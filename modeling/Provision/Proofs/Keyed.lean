import Provision.Keyed

/-!
Keyed maps as finite maps. Insertion and removal change what is found under one key and leave every other
key alone, and they keep the entries sorted. In a sorted map an entry is found exactly under its own key.
-/

namespace Provision.Keyed

universe u v

variable {κ : Type u} {α : Type v} [Ord κ]

/-! ### Entries -/

theorem mem_insert {m : Keyed κ α} {k : κ} {v : α} {entry : κ × α}
    (hentry : entry ∈ insert m k v) : entry = (k, v) ∨ entry ∈ m := by
  induction m with
  | nil => simpa [insert] using hentry
  | cons head rest ih =>
      obtain ⟨key, value⟩ := head
      rw [insert] at hentry
      split at hentry
      · simpa using hentry
      · rcases List.mem_cons.mp hentry with rfl | hrest
        · exact Or.inl rfl
        · exact Or.inr (List.mem_cons_of_mem _ hrest)
      · rcases List.mem_cons.mp hentry with rfl | hrest
        · exact Or.inr List.mem_cons_self
        · exact (ih hrest).imp_right (List.mem_cons_of_mem _)

theorem erase_sublist (m : Keyed κ α) (k : κ) : (erase m k).Sublist m := by
  induction m with
  | nil => exact List.Sublist.refl _
  | cons head rest ih =>
      obtain ⟨key, value⟩ := head
      rw [erase]
      split
      · exact List.sublist_cons_self _ rest
      · exact ih.cons_cons _

/-! ### Lookup -/

section Lookup

variable [Std.LawfulEqOrd κ]

theorem get?_cons_self (k : κ) (value : α) (rest : Keyed κ α) :
    get? ((k, value) :: rest) k = some value := by
  simp only [get?, Std.ReflCmp.compare_self]

theorem get?_cons_of_ne {k key : κ} (value : α) (rest : Keyed κ α) (hne : k ≠ key) :
    get? ((key, value) :: rest) k = get? rest k := by
  have hcompare : compare k key ≠ .eq := fun h => hne (Std.compare_eq_iff_eq.mp h)
  rw [get?]
  split
  · contradiction
  · rfl

theorem mem_of_get? {m : Keyed κ α} {k : κ} {v : α} (hfound : get? m k = some v) :
    (k, v) ∈ m := by
  induction m with
  | nil => simp at hfound
  | cons head rest ih =>
      obtain ⟨key, value⟩ := head
      by_cases heq : k = key
      · subst heq
        rw [get?_cons_self] at hfound
        cases hfound
        exact List.mem_cons_self
      · rw [get?_cons_of_ne value rest heq] at hfound
        exact List.mem_cons_of_mem _ (ih hfound)

theorem get?_insert_self (m : Keyed κ α) (k : κ) (v : α) : get? (insert m k v) k = some v := by
  induction m with
  | nil => exact get?_cons_self k v []
  | cons head rest ih =>
      obtain ⟨key, value⟩ := head
      rw [insert]
      split
      · exact get?_cons_self k v _
      · exact get?_cons_self k v _
      · next hcompare =>
          have hne : k ≠ key := by
            intro heq
            rw [Std.compare_eq_iff_eq.mpr heq] at hcompare
            contradiction
          rw [get?_cons_of_ne value _ hne, ih]

theorem get?_insert_of_ne (m : Keyed κ α) {k other : κ} (v : α) (hne : other ≠ k) :
    get? (insert m k v) other = get? m other := by
  induction m with
  | nil => exact get?_cons_of_ne v [] hne
  | cons head rest ih =>
      obtain ⟨key, value⟩ := head
      rw [insert]
      split
      · exact get?_cons_of_ne v _ hne
      · next hcompare =>
          have heq : k = key := Std.compare_eq_iff_eq.mp hcompare
          rw [get?_cons_of_ne v rest hne, get?_cons_of_ne value rest (heq ▸ hne)]
      · by_cases heq : other = key
        · subst heq
          rw [get?_cons_self, get?_cons_self]
        · rw [get?_cons_of_ne value _ heq, get?_cons_of_ne value rest heq, ih]

theorem get?_erase_of_ne (m : Keyed κ α) {k other : κ} (hne : other ≠ k) :
    get? (erase m k) other = get? m other := by
  induction m with
  | nil => rfl
  | cons head rest ih =>
      obtain ⟨key, value⟩ := head
      rw [erase]
      split
      · next hcompare =>
          have heq : k = key := Std.compare_eq_iff_eq.mp hcompare
          rw [get?_cons_of_ne value rest (heq ▸ hne)]
      · by_cases heq : other = key
        · subst heq
          rw [get?_cons_self, get?_cons_self]
        · rw [get?_cons_of_ne value _ heq, get?_cons_of_ne value rest heq, ih]

end Lookup

/-! ### Order -/

theorem Sorted.erase {m : Keyed κ α} (hsorted : Sorted m) (k : κ) : Sorted (m.erase k) :=
  List.Pairwise.sublist (erase_sublist m k) hsorted

variable [Std.LawfulEqOrd κ]

theorem Sorted.insert [Std.TransOrd κ] {m : Keyed κ α} (hsorted : Sorted m) (k : κ) (v : α) :
    Sorted (m.insert k v) := by
  induction m with
  | nil => exact List.pairwise_singleton _ _
  | cons head rest ih =>
      obtain ⟨key, value⟩ := head
      obtain ⟨hhead, hrest⟩ := List.pairwise_cons.mp hsorted
      rw [Keyed.insert]
      split
      · next hless =>
          refine List.pairwise_cons.mpr ⟨?_, hsorted⟩
          intro entry hentry
          rcases List.mem_cons.mp hentry with rfl | hin
          · exact hless
          · exact Std.TransCmp.lt_trans hless (hhead entry hin)
      · next heq =>
          cases Std.compare_eq_iff_eq.mp heq
          exact List.pairwise_cons.mpr ⟨hhead, hrest⟩
      · next hgreater =>
          refine List.pairwise_cons.mpr ⟨?_, ih hrest⟩
          intro entry hentry
          rcases mem_insert hentry with rfl | hin
          · exact Std.OrientedCmp.lt_of_gt hgreater
          · exact hhead entry hin

/-- Two entries of a sorted map with one key are one entry. -/
theorem Sorted.get?_of_mem {m : Keyed κ α} (hsorted : Sorted m) {k : κ} {v : α}
    (hentry : (k, v) ∈ m) : get? m k = some v := by
  induction m with
  | nil => simp at hentry
  | cons head rest ih =>
      obtain ⟨key, value⟩ := head
      obtain ⟨hhead, hrest⟩ := List.pairwise_cons.mp hsorted
      rcases List.mem_cons.mp hentry with heq | hin
      · cases heq
        exact get?_cons_self k v rest
      · have hne : k ≠ key := by
          rintro rfl
          have hself : compare k k = .lt := hhead _ hin
          rw [Std.ReflOrd.compare_self] at hself
          contradiction
        rw [get?_cons_of_ne value rest hne]
        exact ih hrest hin

/-- The first key of a sorted map does not come again. -/
theorem Sorted.get?_rest {k : κ} {v : α} {rest : Keyed κ α} (hsorted : Sorted ((k, v) :: rest)) :
    get? rest k = none := by
  cases hfound : get? rest k with
  | none => rfl
  | some other =>
      have hless := (List.pairwise_cons.mp hsorted).1 _ (mem_of_get? hfound)
      rw [Std.ReflOrd.compare_self] at hless
      contradiction

/-- What is erased from a sorted map is gone. -/
theorem Sorted.get?_erase_self {m : Keyed κ α} (hsorted : Sorted m) (k : κ) :
    get? (m.erase k) k = none := by
  induction m with
  | nil => rfl
  | cons head rest ih =>
      obtain ⟨key, value⟩ := head
      have hrest := (List.pairwise_cons.mp hsorted).2
      rw [Keyed.erase]
      split
      · next hcompare =>
          cases Std.compare_eq_iff_eq.mp hcompare
          exact hsorted.get?_rest
      · next hcompare =>
          have hne : k ≠ key := by
            rintro rfl
            exact hcompare Std.ReflCmp.compare_self
          rw [get?_cons_of_ne value _ hne]
          exact ih hrest

/-- What is left of a sorted map are the entries with other keys. -/
theorem Sorted.mem_erase_iff {m : Keyed κ α} (hsorted : Sorted m) {k : κ} {entry : κ × α} :
    entry ∈ m.erase k ↔ entry ∈ m ∧ entry.1 ≠ k := by
  constructor
  · intro hentry
    refine ⟨(erase_sublist m k).subset hentry, ?_⟩
    rintro rfl
    have hfound := (hsorted.erase entry.1).get?_of_mem hentry
    rw [hsorted.get?_erase_self] at hfound
    cases hfound
  · rintro ⟨hentry, hne⟩
    have hfound := hsorted.get?_of_mem hentry
    rw [← get?_erase_of_ne m hne] at hfound
    exact mem_of_get? hfound

theorem Sorted.nodup_keys {m : Keyed κ α} (hsorted : Sorted m) : (m.map Prod.fst).Nodup := by
  refine List.pairwise_map.mpr (List.Pairwise.imp ?_ hsorted)
  intro a b hless heq
  rw [heq, Std.ReflOrd.compare_self] at hless
  contradiction

end Provision.Keyed

/-! ### Maps with the same entries -/

namespace Provision.Keyed

universe u v

/-- Two lists in strict order are the same if they have the same members. -/
theorem eq_of_mem_iff {β : Type u} {r : β → β → Prop} (hasymm : ∀ a b, r a b → ¬ r b a) {l l' : List β}
    (hl : l.Pairwise r) (hl' : l'.Pairwise r) (hmem : ∀ a, a ∈ l ↔ a ∈ l') : l = l' := by
  have hne : ∀ {a b}, r a b → a ≠ b := by
    rintro a b hab rfl
    exact hasymm a a hab hab
  have hperm : l.Perm l' := (List.perm_ext_iff_of_nodup (hl.imp hne) (hl'.imp hne)).mpr hmem
  exact hperm.eq_of_pairwise (fun a b _ _ hab hba => absurd hba (hasymm a b hab)) hl hl'

section Entries

variable {κ : Type u} {α : Type v} [Ord κ] [Std.TransOrd κ]

/-- A sorted map is known by its entries. -/
theorem Sorted.eq_of_mem_iff {m n : Keyed κ α} (hm : Sorted m) (hn : Sorted n)
    (hmem : ∀ entry, entry ∈ m ↔ entry ∈ n) : m = n :=
  Keyed.eq_of_mem_iff (fun _ _ => Std.OrientedCmp.not_lt_of_lt) hm hn hmem

variable [Std.LawfulEqOrd κ]

/-- A sorted map is known by what is found in it. -/
theorem Sorted.eq_of_get? {m n : Keyed κ α} (hm : Sorted m) (hn : Sorted n)
    (hfound : ∀ k, get? m k = get? n k) : m = n := by
  refine hm.eq_of_mem_iff hn ?_
  rintro ⟨k, v⟩
  constructor
  · intro hmem
    exact mem_of_get? ((hfound k).symm.trans (hm.get?_of_mem hmem))
  · intro hmem
    exact mem_of_get? ((hfound k).trans (hn.get?_of_mem hmem))

end Entries

/-! ### Maps made of entries -/

section Making

variable {κ : Type u} {α : Type v} [Ord κ] {m : Keyed κ α}

theorem mem_foldl_insert {entries : List (κ × α)} {entry : κ × α}
    (hmem : entry ∈ entries.foldl (fun m e => insert m e.1 e.2) m) : entry ∈ entries ∨ entry ∈ m := by
  induction entries generalizing m with
  | nil => exact Or.inr hmem
  | cons head rest ih =>
      rcases ih hmem with hrest | hinserted
      · exact Or.inl (List.mem_cons_of_mem head hrest)
      · rcases mem_insert hinserted with rfl | hold
        · exact Or.inl List.mem_cons_self
        · exact Or.inr hold

theorem mem_ofList {entries : List (κ × α)} {entry : κ × α} (hmem : entry ∈ ofList entries) :
    entry ∈ entries := by
  rcases mem_foldl_insert hmem with hin | hnil
  · exact hin
  · exact absurd hnil List.not_mem_nil

variable [Std.LawfulEqOrd κ]

theorem get?_foldl_insert_of_notMem {entries : List (κ × α)} {k : κ} (hout : k ∉ entries.map Prod.fst) :
    get? (entries.foldl (fun m e => insert m e.1 e.2) m) k = get? m k := by
  induction entries generalizing m with
  | nil => rfl
  | cons head rest ih =>
      simp only [List.map_cons, List.mem_cons, not_or] at hout
      rw [List.foldl_cons, ih hout.2, get?_insert_of_ne m head.2 hout.1]

/-- What is put in one by one is found if no key comes twice. -/
theorem get?_foldl_insert_of_mem {entries : List (κ × α)} (hnodup : (entries.map Prod.fst).Nodup)
    {k : κ} {v : α} (hmem : (k, v) ∈ entries) :
    get? (entries.foldl (fun m e => insert m e.1 e.2) m) k = some v := by
  induction entries generalizing m with
  | nil => simp at hmem
  | cons head rest ih =>
      simp only [List.map_cons, List.nodup_cons] at hnodup
      rcases List.mem_cons.mp hmem with rfl | hrest
      · rw [List.foldl_cons, get?_foldl_insert_of_notMem hnodup.1, get?_insert_self]
      · exact ih hnodup.2 hrest

/-- A key leads to what was put in under it last. -/
theorem get?_ofList_append_cons {before after : List (κ × α)} {k : κ} {v : α} (hlast : k ∉ after.map Prod.fst) :
    get? (ofList (before ++ (k, v) :: after)) k = some v := by
  rw [ofList, List.foldl_append, List.foldl_cons, get?_foldl_insert_of_notMem hlast, get?_insert_self]

/-- If no key comes twice, a map has just the entries that it is made of. -/
theorem mem_ofList_iff {entries : List (κ × α)} (hnodup : (entries.map Prod.fst).Nodup) {entry : κ × α} :
    entry ∈ ofList entries ↔ entry ∈ entries := by
  constructor
  · exact mem_ofList
  · intro hmem
    exact mem_of_get? (get?_foldl_insert_of_mem hnodup hmem)

theorem contains_insert {key : κ} (k : κ) (v : α) (hkey : contains m key) : contains (insert m k v) key := by
  by_cases heq : key = k
  · subst heq
    rw [contains, get?_insert_self]
    rfl
  · rw [contains, get?_insert_of_ne m v heq]
    exact hkey

/-- Entries put over others drop no key. -/
theorem contains_union {key : κ} (n : Keyed κ α) (hkey : contains m key) : contains (union m n) key := by
  induction n generalizing m with
  | nil => exact hkey
  | cons head rest ih => exact ih (contains_insert head.1 head.2 hkey)

variable [Std.TransOrd κ]

theorem Sorted.foldl_insert (hsorted : Sorted m) (entries : List (κ × α)) :
    Sorted (entries.foldl (fun m e => Keyed.insert m e.1 e.2) m) := by
  induction entries generalizing m with
  | nil => exact hsorted
  | cons head rest ih => exact ih (hsorted.insert head.1 head.2)

theorem sorted_ofList (entries : List (κ × α)) : Sorted (ofList entries) :=
  sorted_nil.foldl_insert entries

/-- If no key comes twice, no entry is lost. -/
theorem length_ofList {entries : List (κ × α)} (hnodup : (entries.map Prod.fst).Nodup) :
    (ofList entries).length = entries.length := by
  have hnodup_of_keys : ∀ {l : List (κ × α)}, (l.map Prod.fst).Nodup → l.Nodup := fun hkeys =>
    List.Pairwise.of_map Prod.fst (fun _ _ hne heq => hne (congrArg Prod.fst heq)) hkeys
  have hmade : (ofList entries).Nodup := hnodup_of_keys (sorted_ofList entries).nodup_keys
  have hperm : (ofList entries).Perm entries :=
    (List.perm_ext_iff_of_nodup hmade (hnodup_of_keys hnodup)).mpr fun _ => mem_ofList_iff hnodup
  exact hperm.length_eq

end Making

end Provision.Keyed

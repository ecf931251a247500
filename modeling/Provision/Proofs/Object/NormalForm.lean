import Mathlib.Data.List.Nodup
import Provision.Object.Format
import Provision.Proofs.Json.Ordered

/-!
What is left of an object that is read and written again. Members outside the metadata are kept as they are. Of the
metadata only the members are kept that have a meaning, and of these only what is not null; times are written in
whole seconds and universal time, and the texts of an owner reference are filled in.
-/

namespace Provision

namespace Json

/-! ### What a record keeps of a value -/

/-- A member that says something: it is there and not null. -/
def stated : Option Json → Option Json
  | some null => none
  | j => j

/-- Keep a member that says something, in another form. -/
def keepAs (form : Json → Json) (j : Option Json) : Option Json := (stated j).map form

/-- Keep a member as it is if it says something. -/
def keepStated : Option Json → Option Json := keepAs id

/-- Keep a text; one that says nothing is empty. -/
def keepText (j : Option Json) : Option Json := some ((stated j).getD (string ""))

/-- Every item of an array in another form. -/
def eachItem (form : Json → Json) : Json → Json
  | array items => array (items.map form)
  | j => j

/-- A time in whole seconds and universal time. -/
def inWholeSeconds (j : Json) : Json :=
  match readTime j with
  | .ok t => string t.wholeText
  | .error _ => j

/-- What a record keeps of each of its members. -/
abbrev Rules := List (String × (Option Json → Option Json))

/-- The members that are written, when those of the value are given by name. -/
def Rules.apply (rules : Rules) (member? : String → Option Json) : List (String × Option Json) :=
  rules.map fun rule => (rule.1, rule.2 (member? rule.1))

/-- A member without a rule makes no difference. -/
theorem Rules.apply_update_of_notMem {rules : Rules} {name : String} (hunknown : name ∉ rules.map Prod.fst)
    (member? : String → Option Json) (j : Json) :
    rules.apply (Function.update member? name (some j)) = rules.apply member? := by
  refine List.map_congr_left ?_
  intro rule hrule
  have hne : rule.1 ≠ name := by
    rintro rfl
    exact hunknown (List.mem_map_of_mem hrule)
  rw [Function.update_of_ne hne]

/-- What a record keeps of a value. -/
def Rules.keep (rules : Rules) (j : Json) : Json :=
  ofFields (presentFields (rules.apply j.field?))

end Json

open Json

def OwnerReference.rules : Rules := [
  ("apiVersion", keepText),
  ("blockOwnerDeletion", keepStated),
  ("controller", keepStated),
  ("kind", keepText),
  ("name", keepText),
  ("uid", keepText)]

def ManagedFields.rules : Rules := [
  ("apiVersion", keepStated),
  ("fieldsType", keepStated),
  ("fieldsV1", keepStated),
  ("manager", keepStated),
  ("operation", keepStated),
  ("subresource", keepStated),
  ("time", keepAs inWholeSeconds)]

def Metadata.rules : Rules := [
  ("annotations", keepStated),
  ("creationTimestamp", keepAs inWholeSeconds),
  ("deletionGracePeriodSeconds", keepStated),
  ("deletionTimestamp", keepAs inWholeSeconds),
  ("finalizers", keepStated),
  ("generateName", keepStated),
  ("generation", keepStated),
  ("labels", keepStated),
  ("managedFields", keepAs (eachItem ManagedFields.rules.keep)),
  ("name", keepStated),
  ("namespace", keepStated),
  ("ownerReferences", keepAs (eachItem OwnerReference.rules.keep)),
  ("resourceVersion", keepStated),
  ("selfLink", keepStated),
  ("uid", keepStated)]

namespace Json

/-! ### Reading and writing again -/

/-- What a reader accepts is written again in a certain form. -/
def Rewrites {α : Type} (read : Reader α) (write : α → Json) (form : Json → Json) : Prop :=
  ∀ ⦃j a⦄, j.Ordered → read j = .ok a → write a = form j

section Readers

variable {α : Type} {read : Reader α} {write : α → Json} {form : Json → Json} {j : Json}

theorem rewrites_readString : Rewrites readString string id := by
  intro j s _ hread
  cases j <;> cases hread
  rfl

theorem rewrites_readBool : Rewrites readBool bool id := by
  intro j b _ hread
  cases j <;> cases hread
  rfl

theorem rewrites_readInt64 : Rewrites readInt64 int id := by
  intro j n _ hread
  unfold readInt64 readIntBetween at hread
  split at hread
  · split at hread
    · cases hread
      rfl
    · cases hread
  · cases hread

theorem rewrites_readTime : Rewrites readTime (fun t => string t.wholeText) inWholeSeconds := by
  intro j t _ hread
  simp [inWholeSeconds, hread]

theorem rewrites_self : Rewrites Except.ok id id := by
  intro j a _ hread
  cases hread
  rfl

theorem map_write_readItemsFrom (hwrites : Rewrites read write form) {index : Nat} {items : List Json} {as : List α}
    (hordered : ∀ j ∈ items, j.Ordered) (hread : readItemsFrom read index items = .ok as) :
    as.map write = items.map form := by
  induction items generalizing index as with
  | nil =>
      cases hread
      rfl
  | cons j rest ih =>
      obtain ⟨a, hmapped, hothers⟩ := except_bind_eq_ok_iff.mp hread
      obtain ⟨others, hrest, hall⟩ := except_bind_eq_ok_iff.mp hothers
      cases hall
      have hfirst := hwrites (hordered j List.mem_cons_self) ((except_mapError_eq_ok_iff _ _).mp hmapped)
      have hlater := ih (fun j hj => hordered j (List.mem_cons_of_mem _ hj)) hrest
      rw [List.map_cons, List.map_cons, hfirst, hlater]

theorem Rewrites.readList (hwrites : Rewrites read write form) :
    Rewrites (readList read) (fun as => array (as.map write)) (eachItem form) := by
  intro j as hordered hread
  cases j <;> try cases hread
  exact congrArg array (map_write_readItemsFrom hwrites (fun _ => hordered.item) hread)

theorem eachItem_id : eachItem id = id := by
  funext j
  cases j <;> simp [eachItem]

theorem rewrites_readTexts : Rewrites (Json.readList readString) (fun as => array (as.map string)) id :=
  eachItem_id ▸ rewrites_readString.readList

theorem mapValues_string_of_mapM {fields : List (String × Json)} {entries : Keyed String String}
    (hread : fields.mapM (fun e => ((readString e.2).mapError (ReadFault.inMember e.1)).map fun v => (e.1, v)) =
      .ok entries) : entries.mapValues string = fields := by
  induction fields generalizing entries with
  | nil =>
      cases hread
      rfl
  | cons e rest ih =>
      rw [List.mapM_cons] at hread
      obtain ⟨entry, hfirst, hothers⟩ := except_bind_eq_ok_iff.mp hread
      obtain ⟨others, hrest, hall⟩ := except_bind_eq_ok_iff.mp hothers
      cases hall
      obtain ⟨key, value⟩ := e
      cases value <;> cases hfirst
      simp [Keyed.mapValues, ← ih hrest]

theorem rewrites_readStringMap : Rewrites readStringMap ofStrings id := by
  intro j entries _ hread
  cases j <;> try cases hread
  exact congrArg object (mapValues_string_of_mapM hread)

theorem stated_of_ne_null {j : Json} (hnull : j ≠ null) : stated (some j) = some j := by
  cases j <;> first | rfl | contradiction

theorem readOption_of_ne_null (hnull : j ≠ null) : readOption read j = (read j).map some := by
  cases j <;> first | rfl | contradiction

/-- A member that may be null is left out if it is. -/
theorem Rewrites.readOption (hwrites : Rewrites read write form) {a : Option α} (hordered : j.Ordered)
    (hread : readOption read j = .ok a) : a.map write = keepAs form (some j) := by
  by_cases hnull : j = null
  · subst hnull
    cases hread
    rfl
  · rw [readOption_of_ne_null hnull] at hread
    obtain ⟨v, hv, rfl⟩ := except_map_eq_ok_iff.mp hread
    rw [keepAs, stated_of_ne_null hnull, Option.map_some, Option.map_some, hwrites hordered hv]

/-- What becomes of a record when a member that may be null is put into it. -/
theorem Rewrites.exists_of_map {ρ : Type} (hwrites : Rewrites read write form) {set : Option α → ρ} {r : ρ}
    (hordered : j.Ordered) (hread : (Json.readOption read j).map set = .ok r) :
    ∃ a, set a = r ∧ a.map write = keepAs form (some j) := by
  obtain ⟨a, ha, hset⟩ := except_map_eq_ok_iff.mp hread
  exact ⟨a, hset, hwrites.readOption hordered ha⟩

/-- Likewise for a text, which is empty if the member is null. -/
theorem exists_of_map_text {ρ : Type} {set : String → ρ} {r : ρ}
    (hread : ((Json.readOption readString j).map fun s => s.getD "").map set = .ok r) :
    ∃ s, set s = r ∧ some (string s) = keepText (some j) := by
  obtain ⟨s, hs, hset⟩ := except_map_eq_ok_iff.mp hread
  obtain ⟨found, hfound, rfl⟩ := except_map_eq_ok_iff.mp hs
  refine ⟨_, hset, ?_⟩
  cases j <;> cases hfound <;> rfl

end Readers

/-! ### Records -/

section Records

variable {ρ : Type} {read : ρ → String × Json → Except ReadFault ρ} (members : ρ → List (String × Option Json))
  {rules : Rules}

/-- A record that reads a value member by member holds what its rules say of the members. -/
theorem members_of_readEach
    (hstep : ∀ {r e r' member?}, e.2.Ordered → read r e = .ok r' → members r = rules.apply member? →
      members r' = rules.apply (Function.update member? e.1 (some e.2)))
    {fields : List (String × Json)} (hordered : (object fields).Ordered) {r r' : ρ} {member? : String → Option Json}
    (hread : readEach read r fields = .ok r') (hr : members r = rules.apply member?) :
    members r' = rules.apply fun key => (Keyed.get? fields key).or (member? key) := by
  -- The members read so far are in `member?`, and the record holds what the rules say of them.
  induction fields generalizing r member? with
  | nil =>
      cases hread
      exact hr
  | cons e rest ih =>
      obtain ⟨next, hmapped, hrest⟩ := except_bind_eq_ok_iff.mp hread
      have hnext := hstep (hordered.member List.mem_cons_self) ((except_mapError_eq_ok_iff _ _).mp hmapped) hr
      have htail : (object rest).Ordered := ⟨(List.pairwise_cons.mp hordered.sorted).2, hordered.2.2⟩
      rw [ih htail hrest hnext]
      congr 1
      funext key
      obtain ⟨name, value⟩ := e
      by_cases hkey : key = name
      · subst hkey
        simp [hordered.sorted.get?_rest, Keyed.get?_cons_self]
      · simp [Keyed.get?_cons_of_ne value rest hkey, hkey]

/-- Such a record is written as the rules say. -/
theorem keep_of_read
    (hstep : ∀ {r e r' member?}, e.2.Ordered → read r e = .ok r' → members r = rules.apply member? →
      members r' = rules.apply (Function.update member? e.1 (some e.2)))
    {type : String} {j : Json} {start r : ρ} (hordered : j.Ordered)
    (hread : readMembers type j >>= readEach read start = .ok r)
    (hstart : members start = rules.apply fun _ => none) :
    ofFields (presentFields (members r)) = rules.keep j := by
  obtain ⟨fields, hfields, hmembers⟩ := except_bind_eq_ok_iff.mp hread
  cases j <;> cases hfields
  rw [members_of_readEach members hstep hordered hmembers hstart]
  simp only [Option.or_none]
  rfl

end Records

/-! ### What is kept -/

theorem mem_presentFields {fields : List (String × Option Json)} {key : String} {j : Json} :
    (key, j) ∈ presentFields fields ↔ (key, some j) ∈ fields := by
  simp only [presentFields, List.mem_filterMap, Option.map_eq_some_iff, Prod.mk.injEq]
  constructor
  · rintro ⟨e, he, value, hvalue, rfl, rfl⟩
    rw [← hvalue]
    exact he
  · intro hmem
    exact ⟨(key, some j), hmem, j, rfl, rfl, rfl⟩

theorem map_fst_presentFields_sublist (fields : List (String × Option Json)) :
    ((presentFields fields).map Prod.fst).Sublist (fields.map Prod.fst) := by
  induction fields with
  | nil => exact List.Sublist.refl _
  | cons e rest ih =>
      obtain ⟨key, value⟩ := e
      cases value with
      | none => exact ih.cons key
      | some j => exact ih.cons_cons key

/-- What is kept of a member is what its rule says. -/
theorem Rules.field?_keep_iff {rules : Rules} (hnodup : (rules.map Prod.fst).Nodup) {j v : Json} {key : String} :
    (rules.keep j).field? key = some v ↔ ∃ rule ∈ rules, rule.1 = key ∧ rule.2 (j.field? key) = some v := by
  have hkeys : ((presentFields (rules.apply j.field?)).map Prod.fst).Nodup := by
    refine List.Nodup.sublist (map_fst_presentFields_sublist _) ?_
    simpa [Rules.apply, Function.comp_def] using hnodup
  have hfound : (rules.keep j).field? key = some v ↔ (key, v) ∈ presentFields (rules.apply j.field?) := by
    rw [← Keyed.mem_ofList_iff hkeys]
    exact ⟨Keyed.mem_of_get?, (Keyed.sorted_ofList _).get?_of_mem⟩
  rw [hfound, mem_presentFields, Rules.apply, List.mem_map]
  refine exists_congr fun rule => and_congr_right fun _ => ?_
  rw [Prod.mk.injEq]
  refine and_congr_right ?_
  rintro rfl
  rfl

/-- A form that is null only for null. -/
def KeepsNull (form : Json → Json) : Prop := ∀ j, form j = null → j = null

theorem keepsNull_id : KeepsNull id := fun _ hnull => hnull

theorem keepsNull_eachItem (form : Json → Json) : KeepsNull (eachItem form) := by
  intro j hnull
  cases j <;> first | exact hnull | cases hnull

theorem keepsNull_inWholeSeconds : KeepsNull inWholeSeconds := by
  intro j hnull
  unfold inWholeSeconds at hnull
  split at hnull
  · cases hnull
  · exact hnull

/-- Null is never kept. -/
theorem keepAs_ne_null {form : Json → Json} (hform : KeepsNull form) (j : Option Json) :
    keepAs form j ≠ some null := by
  intro hkept
  obtain ⟨value, hstated, hnull⟩ := Option.map_eq_some_iff.mp hkept
  rw [hform value hnull] at hstated
  unfold stated at hstated
  split at hstated
  · cases hstated
  · next hne => exact hne hstated

end Json

namespace OwnerReference

/-- The members of a reference, in the order in which they are written. -/
def members (r : OwnerReference) : List (String × Option Json) := [
  ("apiVersion", some (string r.apiVersion)),
  ("blockOwnerDeletion", r.blockOwnerDeletion.map bool),
  ("controller", r.controller.map bool),
  ("kind", some (string r.kind)),
  ("name", some (string r.name)),
  ("uid", some (string r.uid))]

theorem members_readMember {r r' : OwnerReference} {e : String × Json} {member? : String → Option Json}
    (hordered : e.2.Ordered) (hread : readMember r e = .ok r') (hr : r.members = rules.apply member?) :
    r'.members = rules.apply (Function.update member? e.1 (some e.2)) := by
  obtain ⟨name, j⟩ := e
  simp only [members, rules, Rules.apply, List.map_cons, List.map_nil, List.cons.injEq, Prod.mk.injEq,
    true_and, and_true] at hr
  unfold readMember at hread
  dsimp only at hread
  -- One case for each member that has a meaning, by its reader, and one for all others.
  split at hread
  case h_2 | h_3 =>
    obtain ⟨b, rfl, hb⟩ := rewrites_readBool.exists_of_map hordered hread
    simp [members, rules, Rules.apply, hr, hb, keepStated]
  case h_7 =>
    cases hread
    rw [Rules.apply_update_of_notMem (by simp_all [rules])]
    simp [members, rules, Rules.apply, hr]
  all_goals
    obtain ⟨s, rfl, hs⟩ := exists_of_map_text hread
    simp [members, rules, Rules.apply, hr, hs]

theorem toJson_of_read {j : Json} {r : OwnerReference} (hordered : j.Ordered) (hread : read j = .ok r) :
    r.toJson = rules.keep j :=
  keep_of_read members members_readMember hordered hread rfl

end OwnerReference

namespace ManagedFields

/-- The members of an entry, in the order in which they are written. -/
def members (m : ManagedFields) : List (String × Option Json) := [
  ("apiVersion", m.apiVersion.map string),
  ("fieldsType", m.fieldsType.map string),
  ("fieldsV1", m.fields),
  ("manager", m.manager.map string),
  ("operation", m.operation.map string),
  ("subresource", m.subresource.map string),
  ("time", m.time.map fun t => string t.wholeText)]

theorem members_readMember {m m' : ManagedFields} {e : String × Json} {member? : String → Option Json}
    (hordered : e.2.Ordered) (hread : readMember m e = .ok m') (hm : m.members = rules.apply member?) :
    m'.members = rules.apply (Function.update member? e.1 (some e.2)) := by
  obtain ⟨name, j⟩ := e
  simp only [members, rules, Rules.apply, List.map_cons, List.map_nil, List.cons.injEq, Prod.mk.injEq,
    true_and, and_true] at hm
  unfold readMember at hread
  dsimp only at hread
  split at hread
  case h_3 =>
    obtain ⟨v, rfl, hv⟩ := rewrites_self.exists_of_map hordered hread
    simp [members, rules, Rules.apply, hm, ← hv, keepStated]
  case h_7 =>
    obtain ⟨t, rfl, ht⟩ := rewrites_readTime.exists_of_map hordered hread
    simp [members, rules, Rules.apply, hm, ht]
  case h_8 =>
    cases hread
    rw [Rules.apply_update_of_notMem (by simp_all [rules])]
    simp [members, rules, Rules.apply, hm]
  all_goals
    obtain ⟨s, rfl, hs⟩ := rewrites_readString.exists_of_map hordered hread
    simp [members, rules, Rules.apply, hm, hs, keepStated]

theorem toJson_of_read {j : Json} {m : ManagedFields} (hordered : j.Ordered) (hread : read j = .ok m) :
    m.toJson = rules.keep j :=
  keep_of_read members members_readMember hordered hread rfl

end ManagedFields

namespace Metadata

/-- The members of the metadata, in the order in which they are written. -/
def members (m : Metadata) : List (String × Option Json) := [
  ("annotations", m.annotations.map ofStrings),
  ("creationTimestamp", m.creationTimestamp.map fun t => string t.wholeText),
  ("deletionGracePeriodSeconds", m.deletionGracePeriodSeconds.map int),
  ("deletionTimestamp", m.deletionTimestamp.map fun t => string t.wholeText),
  ("finalizers", m.finalizers.map fun fs => array (fs.map string)),
  ("generateName", m.generateName.map string),
  ("generation", m.generation.map int),
  ("labels", m.labels.map ofStrings),
  ("managedFields", m.managedFields.map fun fs => array (fs.map ManagedFields.toJson)),
  ("name", m.name.map string),
  ("namespace", m.space.map string),
  ("ownerReferences", m.ownerReferences.map fun rs => array (rs.map OwnerReference.toJson)),
  ("resourceVersion", m.resourceVersion.map string),
  ("selfLink", m.selfLink.map string),
  ("uid", m.uid.map string)]

theorem rewrites_readManagedFields :
    Rewrites (readList ManagedFields.read) (fun fs => array (fs.map ManagedFields.toJson))
      (eachItem ManagedFields.rules.keep) :=
  Rewrites.readList fun _ _ => ManagedFields.toJson_of_read

theorem rewrites_readOwners :
    Rewrites (readList OwnerReference.read) (fun rs => array (rs.map OwnerReference.toJson))
      (eachItem OwnerReference.rules.keep) :=
  Rewrites.readList fun _ _ => OwnerReference.toJson_of_read

/-- One member that is read changes what is written under its name, as its rule says. -/
theorem members_readMember {m m' : Metadata} {e : String × Json} {member? : String → Option Json}
    (hordered : e.2.Ordered) (hread : readMember m e = .ok m') (hm : m.members = rules.apply member?) :
    m'.members = rules.apply (Function.update member? e.1 (some e.2)) := by
  obtain ⟨name, j⟩ := e
  simp only [members, rules, Rules.apply, List.map_cons, List.map_nil, List.cons.injEq, Prod.mk.injEq,
    true_and, and_true] at hm
  unfold readMember at hread
  dsimp only at hread
  split at hread
  case h_1 | h_8 =>
    obtain ⟨v, rfl, hv⟩ := rewrites_readStringMap.exists_of_map hordered hread
    simp [members, rules, Rules.apply, hm, hv, keepStated]
  case h_2 | h_4 =>
    obtain ⟨t, rfl, ht⟩ := rewrites_readTime.exists_of_map hordered hread
    simp [members, rules, Rules.apply, hm, ht]
  case h_3 | h_7 =>
    obtain ⟨n, rfl, hn⟩ := rewrites_readInt64.exists_of_map hordered hread
    simp [members, rules, Rules.apply, hm, hn, keepStated]
  case h_5 =>
    obtain ⟨fs, rfl, hfs⟩ := rewrites_readTexts.exists_of_map hordered hread
    simp [members, rules, Rules.apply, hm, hfs, keepStated]
  case h_9 =>
    obtain ⟨fs, rfl, hfs⟩ := rewrites_readManagedFields.exists_of_map hordered hread
    simp [members, rules, Rules.apply, hm, hfs]
  case h_12 =>
    obtain ⟨rs, rfl, hrs⟩ := rewrites_readOwners.exists_of_map hordered hread
    simp [members, rules, Rules.apply, hm, hrs]
  case h_16 =>
    cases hread
    rw [Rules.apply_update_of_notMem (by simp_all [rules])]
    simp [members, rules, Rules.apply, hm]
  all_goals
    obtain ⟨s, rfl, hs⟩ := rewrites_readString.exists_of_map hordered hread
    simp [members, rules, Rules.apply, hm, hs, keepStated]

theorem toJson_of_read {j : Json} {m : Metadata} (hordered : j.Ordered) (hread : read j = .ok m) :
    m.toJson = rules.keep j :=
  keep_of_read members members_readMember hordered hread rfl

theorem nodup_rules : (rules.map Prod.fst).Nodup := by decide

/-- No metadata are written that hold null. -/
theorem field?_keep_ne_null (j : Json) (key : String) : (rules.keep j).field? key ≠ some null := by
  have hrules : ∀ rule ∈ rules, ∀ member, rule.2 member ≠ some null := by
    simp [rules, keepStated, keepAs_ne_null, keepsNull_id, keepsNull_inWholeSeconds, keepsNull_eachItem]
  intro hnull
  obtain ⟨rule, hrule, -, hkept⟩ := (Rules.field?_keep_iff nodup_rules).mp hnull
  exact hrules rule hrule _ hkept

/-- No metadata are written that were not there. -/
theorem keep_none : ∀ rule ∈ rules, rule.2 none = none := by
  simp [rules, keepStated, keepAs, stated]

/-- A member of the metadata that is written as it is read. -/
def Survives (e : String × Json) : Prop :=
  ∃ rule ∈ rules, rule.1 = e.1 ∧ rule.2 (some e.2) = some e.2

/-- Metadata are written as they are read just if all their members are. -/
theorem keep_eq_self_iff {fields : List (String × Json)} (hsorted : Keyed.Sorted fields) :
    rules.keep (object fields) = object fields ↔ ∀ e ∈ fields, Survives e := by
  constructor
  · rintro hkept ⟨key, j⟩ hmember
    have hfound : (object fields).field? key = some j := hsorted.get?_of_mem hmember
    have hkept' : (rules.keep (object fields)).field? key = some j := by rw [hkept, hfound]
    obtain ⟨rule, hrule, hkey, hrulekeeps⟩ := (Rules.field?_keep_iff nodup_rules).mp hkept'
    rw [hfound] at hrulekeeps
    exact ⟨rule, hrule, hkey, hrulekeeps⟩
  · intro hall
    refine congrArg object ((Keyed.sorted_ofList _).eq_of_get? hsorted fun key => Option.ext fun j => ?_)
    change (rules.keep (object fields)).field? key = some j ↔ Keyed.get? fields key = some j
    rw [Rules.field?_keep_iff nodup_rules]
    constructor
    · rintro ⟨rule, hrule, rfl, hkept⟩
      change rule.2 (Keyed.get? fields rule.1) = some j at hkept
      cases hfound : Keyed.get? fields rule.1 with
      | none => rw [hfound, keep_none rule hrule] at hkept; cases hkept
      | some value =>
          obtain ⟨other, hother, hkey, hsurvives⟩ := hall _ (Keyed.mem_of_get? hfound)
          rw [List.inj_on_of_nodup_map nodup_rules hother hrule hkey, ← hfound, hkept, hfound] at hsurvives
          exact hsurvives.symm
    · intro hfound
      obtain ⟨rule, hrule, rfl, hkept⟩ := hall _ (Keyed.mem_of_get? hfound)
      exact ⟨rule, hrule, rfl, by rw [← hkept, ← hfound]; rfl⟩

end Metadata

/-! ### Objects -/

namespace Json

/-- A member as an object keeps it: metadata by their rules, all else as it is. -/
def keepMember (e : String × Json) : String × Json :=
  if e.1 = "metadata" then (e.1, Metadata.rules.keep e.2) else e

/-- The value with its metadata as they are written again. -/
def withKeptMetadata : Json → Json
  | object fields => object (fields.map keepMember)
  | j => j

@[simp] theorem keepMember_fst (e : String × Json) : (keepMember e).1 = e.1 := by
  unfold keepMember
  split <;> rfl

theorem keepMember_of_ne {e : String × Json} (hne : e.1 ≠ "metadata") : keepMember e = e := if_neg hne

theorem sorted_map_keepMember {fields : List (String × Json)} (hsorted : Keyed.Sorted fields) :
    Keyed.Sorted (fields.map keepMember) :=
  List.pairwise_map.mpr (by simpa [Keyed.Sorted] using hsorted)

theorem get?_map_keepMember (fields : List (String × Json)) (key : String) :
    Keyed.get? (fields.map keepMember) key = (Keyed.get? fields key).map fun j => (keepMember (key, j)).2 := by
  induction fields with
  | nil => rfl
  | cons e rest ih =>
      obtain ⟨name, j⟩ := e
      have hcons : keepMember (name, j) = (name, (keepMember (name, j)).2) :=
        Prod.ext (keepMember_fst (name, j)) rfl
      by_cases hkey : key = name
      · subst hkey
        rw [List.map_cons, hcons, Keyed.get?_cons_self, Keyed.get?_cons_self, Option.map_some]
      · rw [List.map_cons, hcons, Keyed.get?_cons_of_ne _ _ hkey, Keyed.get?_cons_of_ne _ _ hkey, ih]

theorem get?_map_keepMember_of_ne (fields : List (String × Json)) {key : String} (hne : key ≠ "metadata") :
    Keyed.get? (fields.map keepMember) key = Keyed.get? fields key := by
  rw [get?_map_keepMember]
  simp [keepMember_of_ne, hne]

/-- Outside the metadata every member is kept. -/
theorem field?_withKeptMetadata_of_ne (j : Json) {key : String} (hne : key ≠ "metadata") :
    j.withKeptMetadata.field? key = j.field? key := by
  cases j with
  | object fields => exact get?_map_keepMember_of_ne fields hne
  | _ => rfl

theorem field?_withKeptMetadata_metadata (j : Json) :
    j.withKeptMetadata.field? "metadata" = (j.field? "metadata").map Metadata.rules.keep := by
  cases j with
  | object fields =>
      rw [withKeptMetadata, field?, field?, get?_map_keepMember]
      simp [keepMember]
  | _ => rfl

/-- A value is kept just if its metadata are. -/
theorem withKeptMetadata_eq_self_iff {fields : List (String × Json)} (hsorted : Keyed.Sorted fields) {metadata : Json}
    (hmetadata : Keyed.get? fields "metadata" = some metadata) :
    (object fields).withKeptMetadata = object fields ↔ Metadata.rules.keep metadata = metadata := by
  constructor
  · intro hkept
    have hfield := field?_withKeptMetadata_metadata (object fields)
    rw [hkept, field?, hmetadata, Option.map_some] at hfield
    exact (Option.some.inj hfield).symm
  · intro hkept
    refine congrArg object ((sorted_map_keepMember hsorted).eq_of_get? hsorted fun key => ?_)
    by_cases hkey : key = "metadata"
    · subst hkey
      rw [get?_map_keepMember, hmetadata, Option.map_some, keepMember, if_pos rfl, hkept]
    · exact get?_map_keepMember_of_ne fields hkey

end Json

namespace Object

/-- A type is taken from two texts; what is left are the members that do not name it. -/
theorem takeTypes_eq_some {apiVersion kind : Option String} {fields left : List (String × Json)} {t : TypeMeta}
    (htypes : takeTypes apiVersion kind fields = (some t, left)) :
    left = fields.filter (fun e => e.1 ≠ "apiVersion" ∧ e.1 ≠ "kind") ∧
      (apiVersion = some t.apiVersion ∨ ("apiVersion", string t.apiVersion) ∈ fields) ∧
      (kind = some t.kind ∨ ("kind", string t.kind) ∈ fields) := by
  induction fields generalizing apiVersion kind left with
  | nil =>
      simp only [takeTypes, Prod.mk.injEq, Option.bind_eq_some_iff, Option.map_eq_some_iff] at htypes
      obtain ⟨⟨a, rfl, k, rfl, rfl⟩, rfl⟩ := htypes
      simp
  | cons e rest ih =>
      obtain ⟨name, j⟩ := e
      by_cases hname : name = "apiVersion" ∨ name = "kind"
      · obtain ⟨s, rfl⟩ : ∃ s, j = string s := by
          cases j <;> simp [takeTypes, hname] at htypes ⊢
        rcases hname with rfl | rfl
        · obtain ⟨rfl, hversion, hkind⟩ := ih (by simpa [takeTypes] using htypes)
          refine ⟨by simp, Or.inr ?_, hkind.imp_right (List.mem_cons_of_mem _)⟩
          rcases hversion with heq | hrest
          · rw [Option.some.inj heq]
            exact List.mem_cons_self
          · exact List.mem_cons_of_mem _ hrest
        · obtain ⟨rfl, hversion, hkind⟩ := ih (by simpa [takeTypes] using htypes)
          refine ⟨by simp, hversion.imp_right (List.mem_cons_of_mem _), Or.inr ?_⟩
          rcases hkind with heq | hrest
          · rw [Option.some.inj heq]
            exact List.mem_cons_self
          · exact List.mem_cons_of_mem _ hrest
      · obtain ⟨hnoversion, hnokind⟩ := not_or.mp hname
        simp only [takeTypes, hnoversion, hnokind, decide_false, Bool.or_self, Bool.false_eq_true, if_false,
          Prod.mk.injEq] at htypes
        obtain ⟨htypes, rfl⟩ := htypes
        obtain ⟨hleft, hversion, hkind⟩ := ih (Prod.ext htypes rfl)
        refine ⟨by simp [hleft, hnoversion, hnokind], hversion.imp_right (List.mem_cons_of_mem _),
          hkind.imp_right (List.mem_cons_of_mem _)⟩

section Reading

variable {fields : List (String × Json)} {o : Object}

/-- What an object that says its type takes from the members of a value. -/
theorem exists_of_read (hread : read (object fields) = .ok o) {t : TypeMeta} (htypes : o.types = some t)
    {metadata : Json} (hmetadata : Keyed.get? fields "metadata" = some metadata) :
    Metadata.read metadata = .ok o.metadata ∧
      o.data = (Keyed.erase fields "metadata").filter (fun e => e.1 ≠ "apiVersion" ∧ e.1 ≠ "kind") ∧
      ("apiVersion", string t.apiVersion) ∈ Keyed.erase fields "metadata" ∧
      ("kind", string t.kind) ∈ Keyed.erase fields "metadata" := by
  obtain ⟨_, hfields, hmetadataread⟩ := except_bind_eq_ok_iff.mp hread
  cases hfields
  obtain ⟨m, hm, htaken⟩ := except_bind_eq_ok_iff.mp hmetadataread
  cases htaken
  simp only [readMetadata, hmetadata] at hm
  obtain ⟨hleft, hversion, hkind⟩ := takeTypes_eq_some (Prod.ext htypes rfl)
  exact ⟨(except_mapError_eq_ok_iff _ _).mp hm, hleft, by simpa using hversion, by simpa using hkind⟩

theorem mem_members_iff (hordered : (object fields).Ordered) (hread : read (object fields) = .ok o) {t : TypeMeta}
    (htypes : o.types = some t) {metadata : Json} (hmetadata : Keyed.get? fields "metadata" = some metadata)
    (entry : String × Json) :
    entry ∈ typeFields o.types ++ ("metadata", o.metadata.toJson) :: o.data ↔ entry ∈ fields.map keepMember := by
  obtain ⟨hkept, hdata, hversion, hkind⟩ := exists_of_read hread htypes hmetadata
  have hwritten := Metadata.toJson_of_read (hordered.member (Keyed.mem_of_get? hmetadata)) hkept
  have hsorted := hordered.sorted
  rw [hsorted.mem_erase_iff] at hversion hkind
  -- A key has one value only, also the keys that name the type.
  have hsame : ∀ {key : String} {j j' : Json}, (key, j) ∈ fields → (key, j') ∈ fields → j = j' := by
    intro key j j' hj hj'
    exact Option.some.inj ((hsorted.get?_of_mem hj).symm.trans (hsorted.get?_of_mem hj'))
  simp only [htypes, typeFields, hdata, List.cons_append, List.nil_append, List.mem_cons, List.mem_filter,
    hsorted.mem_erase_iff, List.mem_map, decide_eq_true_eq]
  constructor
  · rintro (rfl | rfl | rfl | ⟨⟨hentry, hne⟩, -⟩)
    · exact ⟨_, hversion.1, keepMember_of_ne hversion.2⟩
    · exact ⟨_, hkind.1, keepMember_of_ne hkind.2⟩
    · exact ⟨_, Keyed.mem_of_get? hmetadata, by simp [keepMember, hwritten]⟩
    · exact ⟨entry, hentry, keepMember_of_ne hne⟩
  · rintro ⟨⟨key, j⟩, hmember, rfl⟩
    by_cases hkey : key = "metadata"
    · subst hkey
      rw [hsame hmember (Keyed.mem_of_get? hmetadata), hwritten]
      exact Or.inr (Or.inr (Or.inl rfl))
    · rw [keepMember_of_ne hkey]
      by_cases hnamed : key = "apiVersion"
      · subst hnamed
        rw [hsame hmember hversion.1]
        exact Or.inl rfl
      · by_cases hnamed' : key = "kind"
        · subst hnamed'
          rw [hsame hmember hkind.1]
          exact Or.inr (Or.inl rfl)
        · exact Or.inr (Or.inr (Or.inr ⟨⟨hmember, hkey⟩, hnamed, hnamed'⟩))

theorem nodup_members (hordered : (object fields).Ordered) (hread : read (object fields) = .ok o) {t : TypeMeta}
    (htypes : o.types = some t) {metadata : Json} (hmetadata : Keyed.get? fields "metadata" = some metadata) :
    ((typeFields o.types ++ ("metadata", o.metadata.toJson) :: o.data).map Prod.fst).Nodup := by
  obtain ⟨-, hdata, -, -⟩ := exists_of_read hread htypes hmetadata
  have hsorted := hordered.sorted
  have hleft : (o.data.map Prod.fst).Nodup := by
    rw [hdata]
    exact (hsorted.erase "metadata").nodup_keys.sublist (List.filter_sublist.map Prod.fst)
  simp only [htypes, typeFields, List.map_cons, List.cons_append, List.nil_append, List.nodup_cons, hleft]
  simp [hdata, hsorted.mem_erase_iff]

/-- An object that says its type is written as it was read, but for its metadata. -/
theorem toJson_of_read {j : Json} (hordered : j.Ordered) (hread : read j = .ok o) (htyped : o.types ≠ none)
    (hmetadata : j.field? "metadata" ≠ none) : o.toJson = j.withKeptMetadata := by
  obtain ⟨t, htypes⟩ := Option.ne_none_iff_exists'.mp htyped
  obtain ⟨metadata, hfound⟩ := Option.ne_none_iff_exists'.mp hmetadata
  obtain ⟨fields, rfl⟩ : ∃ fields, j = object fields := by
    cases j <;> first | exact ⟨_, rfl⟩ | cases hfound
  have hmem := mem_members_iff hordered hread htypes hfound
  have hnodup := nodup_members hordered hread htypes hfound
  refine congrArg object ((Keyed.sorted_ofList _).eq_of_mem_iff (sorted_map_keepMember hordered.sorted) ?_)
  intro entry
  rw [Keyed.mem_ofList_iff hnodup, hmem]

end Reading

end Object

end Provision

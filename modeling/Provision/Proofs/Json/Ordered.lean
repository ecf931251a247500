import Provision.Proofs.Failures
import Provision.Proofs.Keyed
import Provision.Yaml.Value

/-!
JSON values whose objects list their members by key, each key once, at every depth. The JSON counterpart of a YAML
document is such a value.
-/

namespace Provision

namespace Json

mutual

/-- All objects in a value list their members by key. -/
def Ordered : Json → Prop
  | array items => OrderedItems items
  | object fields => Keyed.Sorted fields ∧ OrderedFields fields
  | _ => True

def OrderedItems : List Json → Prop
  | [] => True
  | j :: rest => Ordered j ∧ OrderedItems rest

def OrderedFields : List (String × Json) → Prop
  | [] => True
  | e :: rest => Ordered e.2 ∧ OrderedFields rest

end

theorem orderedItems_iff {items : List Json} : OrderedItems items ↔ ∀ j ∈ items, j.Ordered := by
  induction items with
  | nil => simp [OrderedItems]
  | cons j rest ih => simp [OrderedItems, ih]

theorem orderedFields_iff {fields : List (String × Json)} :
    OrderedFields fields ↔ ∀ e ∈ fields, e.2.Ordered := by
  induction fields with
  | nil => simp [OrderedFields]
  | cons e rest ih => simp [OrderedFields, ih]

variable {items : List Json} {fields : List (String × Json)}

theorem Ordered.item (hordered : (array items).Ordered) {j : Json} (hj : j ∈ items) : j.Ordered :=
  orderedItems_iff.mp hordered j hj

theorem Ordered.sorted (hordered : (object fields).Ordered) : Keyed.Sorted fields := hordered.1

theorem Ordered.member (hordered : (object fields).Ordered) {e : String × Json} (he : e ∈ fields) :
    e.2.Ordered :=
  orderedFields_iff.mp hordered.2 e he

/-- Members are put in order when they are made into an object. -/
theorem ordered_ofFields (hordered : ∀ e ∈ fields, e.2.Ordered) : (ofFields fields).Ordered := by
  refine ⟨Keyed.sorted_ofList fields, orderedFields_iff.mpr ?_⟩
  intro e he
  exact hordered e (Keyed.mem_ofList he)

theorem ordered_ofBinary64 (x : Binary64) : (ofBinary64 x).Ordered := by
  unfold ofBinary64
  split <;> trivial

end Json

/-! ### From YAML -/

namespace Yaml

namespace Value

theorem ordered_numberOf {text : String} {j : Json} (hj : numberOf text = .ok j) : j.Ordered := by
  unfold numberOf at hj
  split at hj
  · cases hj
    exact Json.ordered_ofBinary64 _
  · cases hj

mutual

/-- The counterpart of a value lists all members by key. -/
theorem ordered_toJson (v : Value) {j : Json} (hj : v.toJson = .ok j) : j.Ordered := by
  match v with
  | null | bool _ | int _ | string _ =>
      cases hj
      trivial
  | real text => exact ordered_numberOf hj
  | bad => cases hj
  | array items =>
      rw [toJson] at hj
      obtain ⟨js, hitems, hall⟩ := except_bind_eq_ok_iff.mp hj
      cases hall
      exact Json.orderedItems_iff.mpr (ordered_itemsToJson items hitems)
  | mapping entries =>
      rw [toJson] at hj
      obtain ⟨fields, hentries, hall⟩ := except_bind_eq_ok_iff.mp hj
      cases hall
      exact Json.ordered_ofFields (ordered_entriesToJson entries hentries)

theorem ordered_itemsToJson (items : List Value) {js : List Json} (hjs : itemsToJson items = .ok js) :
    ∀ j ∈ js, j.Ordered := by
  match items with
  | [] =>
      cases hjs
      simp
  | v :: rest =>
      rw [itemsToJson] at hjs
      obtain ⟨first, hfirst, hothers⟩ := except_bind_eq_ok_iff.mp hjs
      obtain ⟨others, hrest, hall⟩ := except_bind_eq_ok_iff.mp hothers
      cases hall
      exact List.forall_mem_cons.mpr ⟨ordered_toJson v hfirst, ordered_itemsToJson rest hrest⟩

theorem ordered_entriesToJson (entries : List (Value × Value)) {fields : List (String × Json)}
    (hfields : entriesToJson entries = .ok fields) : ∀ e ∈ fields, e.2.Ordered := by
  match entries with
  | [] =>
      cases hfields
      simp
  | e :: rest =>
      rw [entriesToJson] at hfields
      obtain ⟨key, -, hvalue⟩ := except_bind_eq_ok_iff.mp hfields
      obtain ⟨value, hfirst, hothers⟩ := except_bind_eq_ok_iff.mp hvalue
      obtain ⟨others, hrest, hall⟩ := except_bind_eq_ok_iff.mp hothers
      cases hall
      exact List.forall_mem_cons.mpr ⟨ordered_toJson e.2 hfirst, ordered_entriesToJson rest hrest⟩

end

end Value

/-- The value of a document lists all members by key. -/
theorem ordered_toJson {document : String} {j : Json} (hj : toJson document = .ok j) : j.Ordered := by
  unfold toJson at hj
  split at hj
  · cases hj
  · cases hj
    trivial
  · exact Value.ordered_toJson _ hj
  · cases hj

end Yaml

end Provision

import Mathlib.Data.List.Forall2
import Provision.Proofs.Failures
import Provision.Proofs.Keyed
import Provision.Yaml.Value

/-!
The counterpart of a value in JSON has the structure of the value, at every depth. A number that is not finite becomes
null, as nothing else does but null itself, and a key that is no text becomes one.
-/

namespace Provision.Yaml.Value

/-- A number that is infinite or no number at all. -/
def NotFinite : Value → Prop
  | real text => ∃ x, Binary64.read? text.toList = some x ∧ x.isFinite = false
  | _ => False

/-- What a JSON value keeps of a value. Truth values, whole numbers and texts are the same, and a number is the one that
its text spells, or null if that is not finite. An array has what is kept of the items, in order. For a mapping,
`members` are the texts of its keys with what is kept of its values. The object has no other members than these; it
leads from each text that comes once to what is kept under it, and if all texts come once it has as many members as the
mapping has entries. -/
inductive Keeps : Value → Json → Prop where
  | null : Keeps null .null
  | bool (b : Bool) : Keeps (bool b) (.bool b)
  | int (n : Int) : Keeps (int n) (.int n)
  | string (s : String) : Keeps (string s) (.string s)
  | finite {text : String} {x : Binary64} (hread : Binary64.read? text.toList = some x)
      (hfinite : x.isFinite = true) : Keeps (real text) (.float x)
  | notFinite {v : Value} (hnotFinite : v.NotFinite) : Keeps v .null
  | array {items : List Value} {js : List Json} (hitems : List.Forall₂ Keeps items js) :
      Keeps (array items) (.array js)
  | mapping {entries : List (Value × Value)} {members fields : List (String × Json)}
      (htexts : List.Forall₂ (fun e m => keyText e.1 = .ok m.1) entries members)
      (hvalues : List.Forall₂ Keeps (entries.map Prod.snd) (members.map Prod.snd))
      (honly : ∀ m ∈ fields, m ∈ members)
      (hfound : ∀ m ∈ members, (members.map Prod.fst).count m.1 = 1 → Keyed.get? fields m.1 = some m.2)
      (hcount : (members.map Prod.fst).Nodup → fields.length = entries.length) :
      Keeps (mapping entries) (.object fields)

/-- A property of all values that a collection has if all values in it have it. Keys do not count. -/
theorem induction_on_parts {P : Value → Prop}
    (hscalar : ∀ v, (∀ items, v ≠ array items) → (∀ entries, v ≠ mapping entries) → P v)
    (harray : ∀ items, (∀ v ∈ items, P v) → P (array items))
    (hmapping : ∀ entries, (∀ e ∈ entries, P e.2) → P (mapping entries)) (v : Value) : P v := by
  match v with
  | array items => exact harray items fun w hw => induction_on_parts hscalar harray hmapping w
  | mapping entries => exact hmapping entries fun e he => induction_on_parts hscalar harray hmapping e.2
  | null | bool _ | int _ | real _ | string _ | bad =>
      exact hscalar _ (fun _ heq => by cases heq) fun _ heq => by cases heq
termination_by sizeOf v
decreasing_by
  · have := List.sizeOf_lt_of_mem hw
    simp only [array.sizeOf_spec]
    omega
  · have := List.sizeOf_lt_of_mem he
    obtain ⟨key, value⟩ := e
    simp only [Prod.mk.sizeOf_spec, mapping.sizeOf_spec] at this ⊢
    omega

/-! ### One item and one entry after another -/

section Collections

variable {items : List Value} {entries : List (Value × Value)} {js : List Json} {members : List (String × Json)}

theorem itemsToJson_eq_ok_iff :
    itemsToJson items = .ok js ↔ List.Forall₂ (fun v j => v.toJson = .ok j) items js := by
  induction items generalizing js with
  | nil => simp [itemsToJson, eq_comm]
  | cons v rest ih =>
      rw [itemsToJson, except_bind_eq_ok_iff, List.forall₂_cons_left_iff]
      constructor
      · rintro ⟨first, hfirst, hothers⟩
        obtain ⟨others, hrest, hall⟩ := except_bind_eq_ok_iff.mp hothers
        cases hall
        exact ⟨first, others, hfirst, ih.mp hrest, rfl⟩
      · rintro ⟨first, others, hfirst, hrest, rfl⟩
        exact ⟨first, hfirst, except_bind_eq_ok_iff.mpr ⟨others, ih.mpr hrest, rfl⟩⟩

theorem entriesToJson_eq_ok_iff : entriesToJson entries = .ok members ↔
    List.Forall₂ (fun e m => keyText e.1 = .ok m.1 ∧ e.2.toJson = .ok m.2) entries members := by
  induction entries generalizing members with
  | nil => simp [entriesToJson, eq_comm]
  | cons e rest ih =>
      rw [entriesToJson, except_bind_eq_ok_iff, List.forall₂_cons_left_iff]
      constructor
      · rintro ⟨text, htext, hvalue⟩
        obtain ⟨value, hfirst, hothers⟩ := except_bind_eq_ok_iff.mp hvalue
        obtain ⟨others, hrest, hall⟩ := except_bind_eq_ok_iff.mp hothers
        cases hall
        exact ⟨(text, value), others, ⟨htext, hfirst⟩, ih.mp hrest, rfl⟩
      · rintro ⟨⟨text, value⟩, others, ⟨htext, hfirst⟩, hrest, rfl⟩
        refine ⟨text, htext, except_bind_eq_ok_iff.mpr ⟨value, hfirst, ?_⟩⟩
        exact except_bind_eq_ok_iff.mpr ⟨others, ih.mpr hrest, rfl⟩

/-- What all values keep, all of them keep in their places. -/
theorem forall₂_keeps (hkeeps : ∀ v ∈ items, ∀ j, v.toJson = .ok j → Keeps v j)
    (hitems : List.Forall₂ (fun v j => v.toJson = .ok j) items js) : List.Forall₂ Keeps items js :=
  ((List.forall₂_and_left items js).mpr ⟨hkeeps, hitems⟩).imp fun _ _ h => h.1 _ h.2

end Collections

/-! ### Scalars and mappings -/

theorem keeps_numberOf {text : String} {j : Json} (hj : numberOf text = .ok j) : Keeps (real text) j := by
  unfold numberOf at hj
  split at hj
  · next x hread =>
      cases hj
      unfold Json.ofBinary64
      split
      · next hfinite => exact .finite hread hfinite
      · next hnot => exact .notFinite ⟨x, hread, by simpa using hnot⟩
  · cases hj

/-- A text that comes once leads to the value that it was put in with. -/
theorem get?_ofList_of_count {members : List (String × Json)} {m : String × Json} (hm : m ∈ members)
    (honce : (members.map Prod.fst).count m.1 = 1) : Keyed.get? (Keyed.ofList members) m.1 = some m.2 := by
  obtain ⟨before, after, rfl⟩ := List.append_of_mem hm
  have hlast : m.1 ∉ after.map Prod.fst := by
    intro hin
    have hpos := List.count_pos_iff.mpr hin
    simp only [List.map_append, List.map_cons, List.count_append, List.count_cons_self] at honce
    omega
  exact Keyed.get?_ofList_append_cons hlast

theorem keeps_ofFields {entries : List (Value × Value)} {members : List (String × Json)}
    (htexts : List.Forall₂ (fun e m => keyText e.1 = .ok m.1) entries members)
    (hvalues : List.Forall₂ Keeps (entries.map Prod.snd) (members.map Prod.snd)) :
    Keeps (mapping entries) (Json.ofFields members) := by
  refine .mapping htexts hvalues (fun m hm => Keyed.mem_ofList hm) (fun m hm => get?_ofList_of_count hm) ?_
  intro hnodup
  rw [Keyed.length_ofList hnodup, htexts.length_eq]

/-- Nothing but null and the numbers that are not finite becomes null. -/
theorem Keeps.eq_null_iff {v : Value} {j : Json} (hkeeps : v.Keeps j) : j = .null ↔ v = .null ∨ v.NotFinite := by
  cases hkeeps with
  | null => simp
  | finite hread hfinite =>
      constructor
      · intro heq
        cases heq
      · rintro (heq | ⟨y, hy, hnot⟩)
        · cases heq
        · cases hread.symm.trans hy
          cases hfinite.symm.trans hnot
  | notFinite hnotFinite => simp [hnotFinite]
  | bool _ | int _ | string _ | array _ | mapping _ _ _ _ _ => simp [NotFinite]

theorem keeps_of_scalar {v : Value} (hitems : ∀ items, v ≠ array items) (hentries : ∀ entries, v ≠ mapping entries)
    {j : Json} (hj : v.toJson = .ok j) : v.Keeps j := by
  cases v with
  | array items => exact absurd rfl (hitems items)
  | mapping entries => exact absurd rfl (hentries entries)
  | bad => cases hj
  | real text => exact keeps_numberOf hj
  | null =>
      cases hj
      exact .null
  | bool b =>
      cases hj
      exact .bool b
  | int n =>
      cases hj
      exact .int n
  | string s =>
      cases hj
      exact .string s

/-- The conversion to JSON keeps the structure. Whatever value is accepted, its counterpart keeps what there is at every
depth, but for mappings in which several keys have the same text, where only the other keys are accounted for; and null
comes from null and from numbers that are not finite alone. -/
theorem keeps_structure (v : Value) {j : Json} (hj : v.toJson = .ok j) :
    v.Keeps j ∧ (j = .null ↔ v = .null ∨ v.NotFinite) := by
  suffices hkeeps : ∀ v : Value, ∀ j, v.toJson = .ok j → v.Keeps j by
    exact ⟨hkeeps v j hj, (hkeeps v j hj).eq_null_iff⟩
  refine induction_on_parts (fun v hitems hentries j => keeps_of_scalar hitems hentries) ?_ ?_
  · intro items ih j hj
    rw [toJson] at hj
    obtain ⟨js, hitems, hall⟩ := except_bind_eq_ok_iff.mp hj
    cases hall
    exact .array (forall₂_keeps ih (itemsToJson_eq_ok_iff.mp hitems))
  · intro entries ih j hj
    rw [toJson] at hj
    obtain ⟨members, hentries, hall⟩ := except_bind_eq_ok_iff.mp hj
    cases hall
    have hmade := entriesToJson_eq_ok_iff.mp hentries
    have hvalues : List.Forall₂ (fun v j => v.toJson = .ok j) (entries.map Prod.snd) (members.map Prod.snd) := by
      rw [List.forall₂_map_left_iff, List.forall₂_map_right_iff]
      exact hmade.imp fun _ _ h => h.2
    exact keeps_ofFields (hmade.imp fun _ _ h => h.1) (forall₂_keeps (List.forall_mem_map.mpr ih) hvalues)

/-! ### Collections in collections -/

namespace Nested

/-- Keys that are no texts, and a number with a point and a null two levels down. -/
def ports : Value :=
  mapping [(string "ports", mapping [(int 8080, string "http"), (bool true, array [null, real "0.0", int (-1)])])]

/-- The same as JSON. -/
def kept : Json :=
  .object [("ports", .object [("8080", .string "http"), ("true", .array [.null, .float .zero, .int (-1)])])]

theorem ports_kept : ports.toJson = .ok kept ∧ ports.Keeps kept := by
  have hconverted : ports.toJson = .ok kept := by rfl
  exact ⟨hconverted, (keeps_structure ports hconverted).1⟩

/-- Two keys with one text, and what is no number. -/
def entries : List (Value × Value) :=
  [(int 8080, string "http"), (string "8080", string "web"), (string "ratio", real "NaN")]

/-- Two members are left of three entries, the text of the first key does not lead to the counterpart of its value, and
null comes from what is not null. -/
theorem lost : ∃ fields, (mapping entries).toJson = .ok (.object fields) ∧ fields.length ≠ entries.length ∧
    (¬ ∀ e ∈ entries, ∃ text j, keyText e.1 = .ok text ∧ e.2.toJson = .ok j ∧ Keyed.get? fields text = some j) ∧
    ¬ ∀ e ∈ entries, e.2.toJson = .ok .null → e.2 = null := by
  refine ⟨[("8080", .string "web"), ("ratio", .null)], by rfl, by decide, ?_, ?_⟩
  · intro hall
    obtain ⟨text, j, htext, hj, hfound⟩ := hall (int 8080, string "http") (by simp [entries])
    cases htext
    cases hj
    have heq : Json.string "web" = .string "http" := Option.some.inj hfound
    simp at heq
  · intro hall
    have heq := hall (string "ratio", real "NaN") (by simp [entries]) (by rfl)
    simp at heq

end Nested

end Provision.Yaml.Value

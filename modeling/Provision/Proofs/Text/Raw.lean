import Mathlib.Data.List.Infix
import Provision.Manifest.Files
import Provision.Proofs.Text.Lines
import Provision.Proofs.Text.Utf8

/-!
Texts as names and paths of an operating system. A text is known by its bytes and stands for itself, a character of one
byte is found among the bytes just where it is found in the text, and cutting the bytes at slashes gives the names that
cutting the text gives.
-/

namespace Provision

/-- The byte of a character that takes one is used for no other character. -/
theorem Utf8.mem_utf8EncodeChar_iff {c d : Char} (hc : c.toNat < 128) :
    UInt8.ofNat c.toNat ∈ String.utf8EncodeChar d ↔ c = d := by
  have hchar : c = d ↔ c.toNat = d.val.toNat := Char.toNat_inj.symm
  have hbyte : ∀ n < 256, UInt8.ofNat c.toNat = UInt8.ofNat n ↔ c.toNat = n := by
    intro n hn
    rw [← UInt8.toNat_inj, UInt8.toNat_ofNat', UInt8.toNat_ofNat']
    omega
  rw [hchar, String.utf8EncodeChar]
  split
  · rw [List.mem_singleton, hbyte _ (by omega)]
  · split
    · simp only [List.mem_cons, List.not_mem_nil, or_false]
      rw [hbyte _ (by omega), hbyte _ (by omega)]
      omega
    · split
      · simp only [List.mem_cons, List.not_mem_nil, or_false]
        rw [hbyte _ (by omega), hbyte _ (by omega), hbyte _ (by omega)]
        omega
      · simp only [List.mem_cons, List.not_mem_nil, or_false]
        rw [hbyte _ (by omega), hbyte _ (by omega), hbyte _ (by omega), hbyte _ (by omega)]
        omega

namespace RawText

theorem bytes_ofText (s : String) : (ofText s).bytes = Utf8.encode s := by
  have hbytes := Utf8.encode_ofList s.toList
  rw [String.ofList_toList] at hbytes
  exact hbytes.symm

/-- Different texts are different names. -/
theorem ofText_inj {s t : String} : ofText s = ofText t ↔ s = t := by
  rw [← Utf8.encode_inj, ← bytes_ofText, ← bytes_ofText, ofText, ofText, RawText.mk.injEq]

/-- A text stands for itself. -/
theorem shown_ofText (s : String) : (ofText s).shown = s := by
  rw [shown, bytes_ofText, Utf8.decodeAnyway_encode]

theorem mem_bytes_ofText_iff {c : Char} (hc : c.toNat < 128) {s : String} :
    UInt8.ofNat c.toNat ∈ (ofText s).bytes ↔ c ∈ s.toList := by
  simp only [ofText, List.mem_flatMap, Utf8.mem_utf8EncodeChar_iff hc, exists_eq_right']

theorem bytes_ofText_eq_nil_iff {s : String} : (ofText s).bytes = [] ↔ s = "" := by
  rw [← ofText_inj (t := "")]
  exact ⟨fun hnil => congrArg RawText.mk hnil, fun hempty => congrArg RawText.bytes hempty⟩

instance : Std.LawfulEqOrd RawText where
  compare_self {r} := Std.ReflOrd.compare_self (a := r.bytes)
  eq_of_compare {r r'} heq := by
    have hbytes : r.bytes = r'.bytes := Std.LawfulEqOrd.eq_of_compare heq
    exact congrArg RawText.mk hbytes

instance : Std.TransOrd RawText where
  eq_swap {r r'} := Std.OrientedOrd.eq_swap (a := r.bytes) (b := r'.bytes)
  isLE_trans {r r' r''} := Std.TransOrd.isLE_trans (a := r.bytes) (b := r'.bytes) (c := r''.bytes)

end RawText

namespace Disk

/-- Cutting the bytes of characters at slashes gives the bytes of what lies between the slashes. -/
theorem pieces_bytes (s : List Char) : pieces slash (s.flatMap String.utf8EncodeChar) =
    (pieces '/' s).map fun piece => piece.flatMap String.utf8EncodeChar := by
  induction s with
  | nil => rfl
  | cons c rest ih =>
      rw [List.flatMap_cons, pieces]
      by_cases hslash : c = '/'
      · subst hslash
        rw [if_pos rfl, List.map_cons, ← ih]
        rfl
      · obtain ⟨first, more, hmore⟩ := List.exists_cons_of_ne_nil (pieces_ne_nil '/' rest)
        have hnot : slash ∉ String.utf8EncodeChar c := by
          intro hmem
          exact hslash ((Utf8.mem_utf8EncodeChar_iff (c := '/') (by decide)).mp hmem).symm
        rw [hmore, List.map_cons] at ih
        rw [if_neg hslash, hmore, pieces_append hnot ih]
        rfl

/-- The names of the path of a text are the parts of that text. -/
theorem names_ofText (path : String) : names (RawText.ofText path) = (Path.parts path).map RawText.ofText := by
  rw [names, RawText.ofText, pieces_bytes, Path.parts, List.map_map, List.map_map]
  refine List.map_congr_left fun piece _ => ?_
  simp [RawText.ofText]

end Disk

/-- A path of texts is shown as it is. -/
theorem Files.shownPath_ofText (names : List String) : shownPath (names.map RawText.ofText) = Path.join names := by
  have hshown : RawText.shown ∘ RawText.ofText = id := funext RawText.shown_ofText
  rw [shownPath, List.map_map, hshown, List.map_id]

end Provision

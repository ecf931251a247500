import Provision.Text.Utf8

/-!
The bytes of texts. Different texts have different bytes, and reading bytes as a text accepts exactly those of a text
and gives that text back.
-/

namespace Provision.Utf8

theorem toListLoop_eq (bytes : ByteArray) (i : Nat) (read : List UInt8) :
    ByteArray.toList.loop bytes i read = read.reverse ++ bytes.data.toList.drop i := by
  fun_induction ByteArray.toList.loop bytes i read with
  | case1 i read hlt ih =>
      have hin : i < bytes.data.toList.length := by simpa using hlt
      have hbyte : bytes.get! i = bytes.data.toList[i] := by
        rw [Array.getElem_toList]
        exact getElem!_pos bytes.data i hlt
      rw [ih, List.drop_eq_getElem_cons hin, hbyte]
      simp
  | case2 i read hge =>
      have hout : bytes.data.toList.length ≤ i := by simpa using hge
      rw [List.drop_eq_nil_of_le hout, List.append_nil]

theorem encode_eq (s : String) : encode s = s.toByteArray.data.toList := by
  simp [encode, ByteArray.toList, toListLoop_eq]

/-- The bytes of a text are those of its characters. -/
theorem encode_ofList (cs : List Char) : encode (String.ofList cs) = cs.flatMap String.utf8EncodeChar := by
  rw [encode_eq, String.toByteArray_ofList, List.utf8Encode, List.toList_data_toByteArray]

/-- A text is known by its bytes. -/
theorem encode_inj {s t : String} : encode s = encode t ↔ s = t := by
  rw [encode_eq, encode_eq, Array.toList_inj, ← ByteArray.ext_iff, String.toByteArray_inj]

/-- Decoding accepts exactly the bytes of a text. -/
theorem decode_eq_ok_iff {bytes : List UInt8} {s : String} : decode bytes = .ok s ↔ bytes = encode s := by
  rw [decode, encode_eq]
  by_cases hvalid : ByteArray.IsValidUTF8 ⟨bytes.toArray⟩
  · have hread : String.fromUTF8? ⟨bytes.toArray⟩ = some (String.fromUTF8 _ hvalid) := dif_pos hvalid
    simp only [hread, Except.ok.injEq]
    constructor
    · rintro rfl
      rfl
    · rintro rfl
      exact String.toByteArray_inj.mp rfl
  · have hread : String.fromUTF8? ⟨bytes.toArray⟩ = none := dif_neg hvalid
    simp only [hread, reduceCtorEq, false_iff]
    rintro rfl
    exact hvalid s.isValidUTF8

/-- Bytes of a text stand for that text and no other. -/
theorem decodeAnyway_encode (s : String) : decodeAnyway (encode s) = s := by
  rw [decodeAnyway, decode_eq_ok_iff.mpr rfl]

end Provision.Utf8

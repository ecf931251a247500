import Provision.Text.Lines

/-!
The lines of a text. No line holds a line feed. A text whose lines end with line feeds alone is put together again from
its lines.
-/

namespace Provision

section Pieces

variable {α : Type} [DecidableEq α]

/-- Cutting at a separator is what the library calls splitting. -/
theorem pieces_eq_splitOn (sep : α) (s : List α) : pieces sep s = s.splitOn sep := by
  induction s with
  | nil => simp [pieces]
  | cons c rest ih =>
      rw [pieces, List.splitOn_cons_eq_if_modifyHead, ← ih]
      by_cases hsep : c = sep
      · simp [hsep]
      · simp only [hsep, if_false, beq_iff_eq]
        split
        · next hnil => exact absurd hnil (pieces_ne_nil sep rest)
        · next p ps hpieces => simp [hpieces]

theorem pieces_append_of_notMem {sep : α} {s : List α} (hs : sep ∉ s) (rest : List α) :
    pieces sep (s ++ sep :: rest) = s :: pieces sep rest := by
  rw [pieces_eq_splitOn, pieces_eq_splitOn, List.splitOn_append_cons_self_of_not_mem hs]

/-- What holds no separator goes to the first piece. -/
theorem pieces_append {sep : α} {s rest first : List α} {more : List (List α)} (hs : sep ∉ s)
    (hrest : pieces sep rest = first :: more) : pieces sep (s ++ rest) = (s ++ first) :: more := by
  induction s with
  | nil => exact hrest
  | cons a s ih =>
      rw [List.mem_cons, not_or] at hs
      rw [List.cons_append, pieces, if_neg (Ne.symm hs.1), ih hs.2]
      rfl

end Pieces

theorem mem_joinPieces_of_mem {sep c : Char} {found : List (List Char)} {piece : List Char} (hpiece : piece ∈ found)
    (hc : c ∈ piece) : c ∈ joinPieces sep found := by
  fun_induction joinPieces sep found with
  | case1 => cases hpiece
  | case2 p => rwa [← List.mem_singleton.mp hpiece]
  | case3 p q ps ih =>
      rcases List.mem_cons.mp hpiece with rfl | hlater
      · exact List.mem_append_left _ hc
      · exact List.mem_append_right _ (List.mem_cons_of_mem sep (ih hlater))

theorem dropReturn_sublist (piece : List Char) : (dropReturn piece).Sublist piece := by
  unfold dropReturn
  split
  · next r hend =>
      have hpiece : piece = r.reverse ++ ['\r'] := by rw [← List.reverse_reverse piece, hend, List.reverse_cons]
      rw [hpiece]
      exact List.sublist_append_left _ _
  · exact List.Sublist.refl piece

theorem dropReturn_of_notMem {piece : List Char} (hreturn : '\r' ∉ piece) : dropReturn piece = piece := by
  unfold dropReturn
  split
  · next r hend =>
      have hmem : '\r' ∈ piece := by
        rw [← List.mem_reverse, hend]
        exact List.mem_cons_self
      exact absurd hmem hreturn
  · rfl

/-- Every line comes of a piece. -/
theorem exists_piece_of_mem_lines {found : List (List Char)} {line : List Char} (hline : line ∈ linesOfPieces found) :
    ∃ piece ∈ found, line.Sublist piece := by
  fun_induction linesOfPieces found with
  | case1 => cases hline
  | case2 last hempty => cases hline
  | case3 last hsome =>
      obtain rfl := List.mem_singleton.mp hline
      exact ⟨line, List.mem_cons_self, List.Sublist.refl line⟩
  | case4 p q ps ih =>
      rcases List.mem_cons.mp hline with rfl | hlater
      · exact ⟨p, List.mem_cons_self, dropReturn_sublist p⟩
      · obtain ⟨piece, hpiece, hsub⟩ := ih hlater
        exact ⟨piece, List.mem_cons_of_mem p hpiece, hsub⟩

theorem lineFeed_notMem_of_mem_textLines {s line : List Char} (hline : line ∈ textLines s) : '\n' ∉ line := by
  obtain ⟨piece, hpiece, hsub⟩ := exists_piece_of_mem_lines hline
  exact fun hmem => sep_notMem_pieces '\n' s piece hpiece (hsub.subset hmem)

/-- The lines of a text have its characters. -/
theorem mem_of_mem_textLines {s line : List Char} {c : Char} (hline : line ∈ textLines s) (hc : c ∈ line) : c ∈ s := by
  obtain ⟨piece, hpiece, hsub⟩ := exists_piece_of_mem_lines hline
  rw [← joinPieces_pieces '\n' s]
  exact mem_joinPieces_of_mem hpiece (hsub.subset hc)

/-- Lines that are ended by line feeds are the lines of what they make. -/
theorem textLines_flatMap {lines : List (List Char)} (hlines : ∀ line ∈ lines, '\n' ∉ line ∧ '\r' ∉ line) :
    textLines (lines.flatMap fun line => line ++ ['\n']) = lines := by
  induction lines with
  | nil => rfl
  | cons line rest ih =>
      obtain ⟨⟨hfeed, hreturn⟩, hrest⟩ := List.forall_mem_cons.mp hlines
      have hpieces := pieces_append_of_notMem hfeed (rest.flatMap fun line => line ++ ['\n'])
      rw [List.flatMap_cons, List.append_assoc, List.singleton_append, textLines, hpieces]
      have hlater := ih hrest
      rw [textLines] at hlater
      cases hmore : pieces '\n' (rest.flatMap fun line => line ++ ['\n']) with
      | nil => exact absurd hmore (pieces_ne_nil _ _)
      | cons p ps => rw [linesOfPieces, dropReturn_of_notMem hreturn, ← hmore, hlater]

end Provision

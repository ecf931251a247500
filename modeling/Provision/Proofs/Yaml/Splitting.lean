import Provision.Proofs.Text.Lines
import Provision.Yaml.Documents

/-!
The documents of a text are its maximal runs of lines without a separator, in order, as far as anything can be seen in
them. Every other line is in exactly one run, as it was. Where no line ends with a carriage return, documents that are
put together with separators between them fall apart into the same documents again.
-/

namespace Provision.Yaml

/-! ### Separators -/

/-- A separator: three hyphens, and behind them only spaces and tabs. -/
def Separates (line : List Char) : Prop :=
  ∃ blanks, line = ['-', '-', '-'] ++ blanks ∧ ∀ c ∈ blanks, c = ' ' ∨ c = '\t'

theorem isSeparator_iff {line : List Char} : isSeparator line = true ↔ Separates line := by
  constructor
  · intro hsep
    unfold isSeparator at hsep
    split at hsep
    · next blanks => exact ⟨blanks, rfl, by simpa using hsep⟩
    · cases hsep
  · rintro ⟨blanks, rfl, hblanks⟩
    simpa [isSeparator] using hblanks

instance : DecidablePred Separates := fun _ => decidable_of_iff _ isSeparator_iff

theorem isSeparator_eq_false_iff {line : List Char} : isSeparator line = false ↔ ¬ Separates line := by
  rw [← isSeparator_iff, Bool.not_eq_true]

/-! ### Runs -/

/-- A run of lines, perhaps of none, that stands behind `start` other lines. It holds no separator, and it is as long as
it can be: what is next to it on either side, if anything, is a separator. -/
structure RunAt (lines : List (List Char)) (start : Nat) (run : List (List Char)) : Prop where
  plain : ∀ line ∈ run, ¬ Separates line
  maximal : ∃ before after, lines = before ++ run ++ after ∧ before.length = start ∧
    (∀ line, before.getLast? = some line → Separates line) ∧ ∀ line, after.head? = some line → Separates line

section Runs

variable {lines rest run : List (List Char)} {line sep : List Char} {start : Nat}

theorem runAt_nil_iff : RunAt [] start run ↔ start = 0 ∧ run = [] := by
  constructor
  · rintro ⟨-, before, after, heq, rfl, -, -⟩
    obtain ⟨hfirst, -⟩ := List.append_eq_nil_iff.mp heq.symm
    obtain ⟨rfl, rfl⟩ := List.append_eq_nil_iff.mp hfirst
    exact ⟨rfl, rfl⟩
  · rintro ⟨rfl, rfl⟩
    exact ⟨by simp, [], [], rfl, rfl, by simp, by simp⟩

/-- In front of a separator there is a run of no lines. -/
theorem runAt_cons_separator_iff (hsep : Separates sep) :
    RunAt (sep :: rest) start run ↔ (start = 0 ∧ run = []) ∨ ∃ s, start = s + 1 ∧ RunAt rest s run := by
  constructor
  · rintro ⟨hplain, before, after, heq, rfl, hbefore, hafter⟩
    cases before with
    | nil =>
        refine Or.inl ⟨rfl, ?_⟩
        cases run with
        | nil => rfl
        | cons first run =>
            obtain ⟨rfl, -⟩ := List.cons.inj heq
            exact absurd hsep (hplain sep List.mem_cons_self)
    | cons first before =>
        obtain ⟨rfl, hrest⟩ := List.cons.inj heq
        refine Or.inr ⟨before.length, rfl, hplain, before, after, hrest, rfl, ?_, hafter⟩
        intro line hline
        exact hbefore line (by rw [List.getLast?_cons, hline, Option.getD_some])
  · rintro (⟨rfl, rfl⟩ | ⟨s, rfl, hplain, before, after, rfl, rfl, hbefore, hafter⟩)
    · exact ⟨by simp, [], sep :: rest, rfl, rfl, by simp, by simpa using hsep⟩
    · refine ⟨hplain, sep :: before, after, rfl, rfl, ?_, hafter⟩
      intro line hline
      rw [List.getLast?_cons, Option.some.injEq] at hline
      cases hlast : before.getLast? with
      | none => rwa [← hline, hlast]
      | some last =>
          rw [hlast, Option.getD_some] at hline
          exact hbefore line (hline ▸ hlast)

/-- Any other line goes to the run that follows it. -/
theorem runAt_cons_plain_iff (hline : ¬ Separates line) :
    RunAt (line :: rest) start run ↔
      (start = 0 ∧ ∃ r, run = line :: r ∧ RunAt rest 0 r) ∨ ∃ s, start = s + 2 ∧ RunAt rest (s + 1) run := by
  constructor
  · rintro ⟨hplain, before, after, heq, rfl, hbefore, hafter⟩
    cases before with
    | nil =>
        cases run with
        | nil =>
            -- The run could be longer by this line.
            refine absurd (hafter line ?_) hline
            rw [← show line :: rest = after from heq]
            rfl
        | cons first run =>
            obtain ⟨rfl, hrest⟩ := List.cons.inj heq
            obtain ⟨-, hrun⟩ := List.forall_mem_cons.mp hplain
            exact Or.inl ⟨rfl, run, rfl, hrun, [], after, hrest, rfl, by simp, hafter⟩
    | cons first before =>
        obtain ⟨rfl, hrest⟩ := List.cons.inj heq
        cases before with
        | nil => exact absurd (hbefore line rfl) hline
        | cons second before =>
            refine Or.inr ⟨before.length, rfl, hplain, second :: before, after, hrest, rfl, ?_, hafter⟩
            intro last hlast
            exact hbefore last (by rw [List.getLast?_cons_cons, hlast])
  · rintro (⟨rfl, r, rfl, hplain, before, after, rfl, hstart, -, hafter⟩ |
      ⟨s, rfl, hplain, before, after, rfl, hstart, hbefore, hafter⟩)
    · obtain rfl := List.length_eq_zero_iff.mp hstart
      exact ⟨List.forall_mem_cons.mpr ⟨hline, hplain⟩, [], after, rfl, rfl, by simp, hafter⟩
    · refine ⟨hplain, line :: before, after, rfl, by rw [List.length_cons, hstart], ?_, hafter⟩
      obtain ⟨second, before, rfl⟩ := List.exists_cons_of_length_eq_add_one hstart
      intro last hlast
      exact hbefore last (by rwa [List.getLast?_cons_cons] at hlast)

end Runs

/-- Cutting at separators is what the library calls splitting. -/
theorem runs_eq_splitOnP (lines : List (List Char)) : runs lines = lines.splitOnP isSeparator := by
  induction lines with
  | nil => rfl
  | cons line rest ih =>
      rw [runs, List.splitOnP_cons_eq_if_modifyHead, ih]
      split
      · rfl
      · cases hfound : rest.splitOnP isSeparator with
        | nil => exact absurd hfound (List.splitOnP_ne_nil _ _)
        | cons r rs => rfl

theorem runs_ne_nil (lines : List (List Char)) : runs lines ≠ [] := by
  rw [runs_eq_splitOnP]
  exact List.splitOnP_ne_nil _ _

/-- Runs with the number of lines in front of each, separators counted. -/
def placedFrom (start : Nat) : List (List (List Char)) → List (Nat × List (List Char))
  | [] => []
  | run :: rest => (start, run) :: placedFrom (start + run.length + 1) rest

section Placed

variable {found : List (List (List Char))} {lines run : List (List Char)} {line : List Char} {start s : Nat}

theorem map_snd_placedFrom (start : Nat) (found : List (List (List Char))) :
    (placedFrom start found).map Prod.snd = found := by
  induction found generalizing start with
  | nil => rfl
  | cons run rest ih => rw [placedFrom, List.map_cons, ih]

theorem le_of_mem_placedFrom (hmem : (s, run) ∈ placedFrom start found) : start ≤ s := by
  induction found generalizing start with
  | nil => cases hmem
  | cons first rest ih =>
      rcases List.mem_cons.mp hmem with heq | hlater
      · exact Nat.le_of_eq (Prod.mk.inj heq).1.symm
      · have hle := ih hlater
        omega

theorem pairwise_placedFrom (start : Nat) (found : List (List (List Char))) :
    (placedFrom start found).Pairwise fun a b => a.1 < b.1 := by
  induction found generalizing start with
  | nil => exact List.Pairwise.nil
  | cons run rest ih =>
      refine List.pairwise_cons.mpr ⟨?_, ih _⟩
      rintro ⟨s, later⟩ hlater
      have hle := le_of_mem_placedFrom hlater
      show start < s
      omega

theorem mem_placedFrom_succ_iff :
    (s, run) ∈ placedFrom (start + 1) found ↔ ∃ s', s = s' + 1 ∧ (s', run) ∈ placedFrom start found := by
  induction found generalizing start with
  | nil => simp [placedFrom]
  | cons first rest ih =>
      have hnext : start + 1 + first.length + 1 = start + first.length + 1 + 1 := by omega
      rw [placedFrom, placedFrom, hnext, List.mem_cons, ih]
      simp only [List.mem_cons, Prod.mk.injEq]
      constructor
      · rintro (⟨rfl, rfl⟩ | ⟨s', rfl, hmem⟩)
        · exact ⟨start, rfl, Or.inl ⟨rfl, rfl⟩⟩
        · exact ⟨s', rfl, Or.inr hmem⟩
      · rintro ⟨s', rfl, ⟨rfl, rfl⟩ | hmem⟩
        · exact Or.inl ⟨rfl, rfl⟩
        · exact Or.inr ⟨s', rfl, hmem⟩

/-- A line put in front of the first run moves the other runs on, and it is in no other run. -/
theorem mem_placedFrom_cons_line_iff {r : List (List Char)} :
    (s, run) ∈ placedFrom 0 ((line :: r) :: found) ↔
      (s = 0 ∧ ∃ r', run = line :: r' ∧ (0, r') ∈ placedFrom 0 (r :: found)) ∨
        ∃ s', s = s' + 2 ∧ (s' + 1, run) ∈ placedFrom 0 (r :: found) := by
  have hnext : 0 + (line :: r).length + 1 = 0 + r.length + 1 + 1 := by simp
  have hold : ∀ s run, (s, run) ∈ placedFrom 0 (r :: found) ↔
      (s = 0 ∧ run = r) ∨ (s, run) ∈ placedFrom (0 + r.length + 1) found := by
    intro s run
    rw [placedFrom, List.mem_cons, Prod.mk.injEq]
  rw [placedFrom, hnext, List.mem_cons, mem_placedFrom_succ_iff, Prod.mk.injEq]
  simp only [hold]
  constructor
  · rintro (⟨rfl, rfl⟩ | ⟨s', rfl, hmem⟩)
    · exact Or.inl ⟨rfl, r, rfl, Or.inl ⟨trivial, rfl⟩⟩
    · have hle := le_of_mem_placedFrom hmem
      obtain ⟨s', rfl⟩ := Nat.exists_eq_add_of_le' (Nat.le_of_add_left_le hle)
      exact Or.inr ⟨s', rfl, Or.inr hmem⟩
  · rintro (⟨rfl, r', rfl, ⟨-, rfl⟩ | hmem⟩ | ⟨s', rfl, ⟨hzero, -⟩ | hmem⟩)
    · exact Or.inl ⟨rfl, rfl⟩
    · have hle := le_of_mem_placedFrom hmem
      omega
    · omega
    · exact Or.inr ⟨s' + 1, rfl, hmem⟩

/-- What cutting at separators finds are the maximal runs, each in its place. -/
theorem mem_placedFrom_iff (lines : List (List Char)) (start : Nat) (run : List (List Char)) :
    (start, run) ∈ placedFrom 0 (runs lines) ↔ RunAt lines start run := by
  induction lines generalizing start run with
  | nil => simp [runs, placedFrom, runAt_nil_iff]
  | cons line rest ih =>
      by_cases hsep : Separates line
      · rw [runAt_cons_separator_iff hsep, runs, if_pos (isSeparator_iff.mpr hsep), placedFrom, List.mem_cons]
        simp only [List.length_nil, Nat.add_zero, mem_placedFrom_succ_iff, ih, Prod.mk.injEq]
      · rw [runAt_cons_plain_iff hsep, runs, if_neg (mt isSeparator_iff.mp hsep)]
        cases hfound : runs rest with
        | nil => exact absurd hfound (runs_ne_nil rest)
        | cons r rs => simp only [mem_placedFrom_cons_line_iff, ← ih, hfound]

/-- All lines but the separators are in the runs, in order. -/
theorem flatten_runs (lines : List (List Char)) : (runs lines).flatten = lines.filter fun line => ¬ Separates line := by
  induction lines with
  | nil => rfl
  | cons line rest ih =>
      by_cases hsep : Separates line
      · rw [runs, if_pos (isSeparator_iff.mpr hsep), List.filter_cons_of_neg (by simpa using hsep), ← ih]
        rfl
      · rw [runs, if_neg (mt isSeparator_iff.mp hsep), List.filter_cons_of_pos (by simpa using hsep), ← ih]
        cases hfound : runs rest with
        | nil => exact absurd hfound (runs_ne_nil rest)
        | cons r rs => rfl

/-- The lines of runs are lines of the text, and no separators. -/
theorem mem_of_mem_runs (hrun : run ∈ runs lines) (hline : line ∈ run) : line ∈ lines ∧ ¬ Separates line := by
  have hin : line ∈ (runs lines).flatten := List.mem_flatten.mpr ⟨run, hrun, hline⟩
  rw [flatten_runs] at hin
  simpa using List.mem_filter.mp hin

end Placed

/-! ### Documents -/

/-- There is something to see in some line. -/
def Visible (run : List (List Char)) : Prop := ∃ line ∈ run, ∃ c ∈ line, isBlank c = false

instance : DecidablePred Visible := fun run => inferInstanceAs (Decidable (∃ line ∈ run, ∃ c ∈ line, isBlank c = false))

/-- The document of a run of lines: each is ended by one line feed. -/
def document (run : List (List Char)) : String := String.ofList (unlines run)

/-- A run of lines that can be told from its document. -/
structure Readable (run : List (List Char)) : Prop where
  plain : ∀ line ∈ run, ¬ Separates line
  whole : ∀ line ∈ run, '\n' ∉ line ∧ '\r' ∉ line
  visible : Visible run

section Documents

variable {lines run : List (List Char)} {found : List (List (List Char))}

theorem all_blank_unlines_iff : (unlines run).all isBlank = true ↔ ¬ Visible run := by
  have hfeed : isBlank '\n' = true := by decide
  simp only [unlines, Visible, List.all_flatMap, List.all_append, List.all_cons, List.all_nil, hfeed, Bool.and_true,
    List.all_eq_true, not_exists, not_and, Bool.not_eq_false]

theorem splitDocuments_eq (content : String) :
    splitDocuments content = ((runs (textLines content.toList)).filter fun run => Visible run).map document := by
  have hkept : ((fun d : List Char => !d.all isBlank) ∘ unlines) = fun run => decide (Visible run) := by
    funext run
    rw [Function.comp_apply, Bool.eq_iff_iff, Bool.not_eq_true', ← Bool.not_eq_true, all_blank_unlines_iff,
      Decidable.not_not, decide_eq_true_iff]
  rw [splitDocuments, List.filter_map, List.map_map, hkept]
  rfl

theorem readable_of_mem {content : String} (hreturns : '\r' ∉ content.toList)
    (hrun : run ∈ (runs (textLines content.toList)).filter fun run => Visible run) : Readable run where
  plain line hline := (mem_of_mem_runs (List.mem_filter.mp hrun).1 hline).2
  whole line hline := by
    have htext := (mem_of_mem_runs (List.mem_filter.mp hrun).1 hline).1
    exact ⟨lineFeed_notMem_of_mem_textLines htext, fun hmem => hreturns (mem_of_mem_textLines htext hmem)⟩
  visible := by simpa using (List.mem_filter.mp hrun).2

/-- The documents of lines that are ended by line feeds. -/
theorem splitDocuments_document (hlines : ∀ line ∈ lines, '\n' ∉ line ∧ '\r' ∉ line) :
    splitDocuments (document lines) = ((runs lines).filter fun run => Visible run).map document := by
  rw [splitDocuments_eq, document, String.toList_ofList, unlines, textLines_flatMap hlines]

/-- Runs that are put together with separators between them are found again. -/
theorem runs_intercalate (hplain : ∀ run ∈ found, ∀ line ∈ run, ¬ Separates line) (hsome : found ≠ []) :
    runs ([['-', '-', '-']].intercalate found) = found := by
  induction found with
  | nil => contradiction
  | cons run rest ih =>
      obtain ⟨hrun, hrest⟩ := List.forall_mem_cons.mp hplain
      have hfree : ∀ line ∈ run, isSeparator line = false := fun line hline =>
        isSeparator_eq_false_iff.mpr (hrun line hline)
      by_cases hlast : rest = []
      · subst hlast
        rw [List.intercalate_singleton, runs_eq_splitOnP, List.splitOnP_eq_singleton hfree]
      · rw [List.intercalate_cons_of_ne_nil hlast, List.append_assoc, List.singleton_append, runs_eq_splitOnP,
          List.splitOnP_append_cons_of_forall_mem hfree _ rfl, ← runs_eq_splitOnP, ih hrest hlast]

theorem whole_intercalate (hlines : ∀ run ∈ found, ∀ line ∈ run, '\n' ∉ line ∧ '\r' ∉ line) :
    ∀ line ∈ [['-', '-', '-']].intercalate found, '\n' ∉ line ∧ '\r' ∉ line := by
  induction found with
  | nil => simp
  | cons run rest ih =>
      obtain ⟨hrun, hrest⟩ := List.forall_mem_cons.mp hlines
      by_cases hlast : rest = []
      · subst hlast
        rwa [List.intercalate_singleton]
      · intro line hline
        rw [List.intercalate_cons_of_ne_nil hlast, List.append_assoc, List.mem_append, List.mem_append,
          List.mem_singleton] at hline
        rcases hline with hin | rfl | hin
        · exact hrun line hin
        · decide
        · exact ih hrest line hin

/-- Separators between documents are lines between their lines. -/
theorem intercalate_documents (found : List (List (List Char))) :
    String.intercalate "---\n" (found.map document) = document ([['-', '-', '-']].intercalate found) := by
  induction found with
  | nil => rfl
  | cons run rest ih =>
      by_cases hlast : rest = []
      · subst hlast
        rw [List.map_singleton, String.intercalate_singleton, List.intercalate_singleton]
      · rw [List.map_cons, String.intercalate_cons_of_ne_nil (by simpa using hlast), ih,
          List.intercalate_cons_of_ne_nil hlast, ← String.toList_inj]
        simp [document, unlines]

/-- Documents are the same after they were put together. -/
theorem splitDocuments_intercalate (hreadable : ∀ run ∈ found, Readable run) :
    splitDocuments (String.intercalate "---\n" (found.map document)) = found.map document := by
  by_cases hsome : found = []
  · subst hsome
    rfl
  · have hwhole := whole_intercalate fun run hrun => (hreadable run hrun).whole
    have hruns := runs_intercalate (fun run hrun => (hreadable run hrun).plain) hsome
    have hkept : (found.filter fun run => Visible run) = found := by
      rw [List.filter_eq_self]
      exact fun run hrun => decide_eq_true (hreadable run hrun).visible
    rw [intercalate_documents, splitDocuments_document hwhole, hruns, hkept]

/-- A single one is put together without a separator. -/
theorem splitDocuments_of_readable (hreadable : Readable run) : splitDocuments (document run) = [document run] := by
  have hall : ∀ r ∈ [run], Readable r := by simpa using hreadable
  have hone := splitDocuments_intercalate hall
  rwa [List.map_singleton, String.intercalate_singleton] at hone

end Documents

/-- Splitting into documents is a partition of the lines. There is a list of all maximal runs of lines without a
separator, in order; together they have all lines but the separators, in order, and the documents are those runs in
which there is something to see, with one line feed behind each line. If there are no carriage returns, documents that
are put together with separators between them fall apart into the same documents, and none falls apart further. -/
theorem splits_into_runs (content : String) :
    (∃ found : List (Nat × List (List Char)),
      (∀ start run, (start, run) ∈ found ↔ RunAt (textLines content.toList) start run) ∧
      found.Pairwise (fun a b => a.1 < b.1) ∧
      (found.map Prod.snd).flatten = (textLines content.toList).filter (fun line => ¬ Separates line) ∧
      splitDocuments content = ((found.map Prod.snd).filter fun run => Visible run).map document) ∧
    ('\r' ∉ content.toList →
      splitDocuments (String.intercalate "---\n" (splitDocuments content)) = splitDocuments content ∧
      ∀ doc ∈ splitDocuments content, splitDocuments doc = [doc]) := by
  have hruns := map_snd_placedFrom 0 (runs (textLines content.toList))
  refine ⟨⟨placedFrom 0 (runs (textLines content.toList)), mem_placedFrom_iff _, pairwise_placedFrom 0 _, ?_, ?_⟩, ?_⟩
  · rw [hruns, flatten_runs]
  · rw [hruns, splitDocuments_eq]
  · intro hreturns
    rw [splitDocuments_eq content]
    refine ⟨splitDocuments_intercalate fun run hrun => readable_of_mem hreturns hrun, ?_⟩
    intro doc hdoc
    obtain ⟨run, hrun, rfl⟩ := List.mem_map.mp hdoc
    exact splitDocuments_of_readable (readable_of_mem hreturns hrun)

/-- Of two carriage returns one belongs to the end of the line, and the next splitting takes the other one. -/
example : splitDocuments "a\r\r\n" = ["a\r\n"] ∧ splitDocuments "a\r\n" = ["a\n"] := by constructor <;> rfl

/-! ### Separators everywhere -/

namespace Padded

/-- Separators at the start, behind blanks and around a run in which there is nothing to see. -/
def content : String := "---\na: 1\n\nb: 2\n--- \t\n \n---\n---\nc: ---\n --- \n"

/-- Two documents are left, and they come apart again. -/
theorem two_documents : '\r' ∉ content.toList ∧
    splitDocuments content = ["a: 1\n\nb: 2\n", "c: ---\n --- \n"] ∧
    splitDocuments "a: 1\n\nb: 2\n---\nc: ---\n --- \n" = ["a: 1\n\nb: 2\n", "c: ---\n --- \n"] ∧
    splitDocuments "c: ---\n --- \n" = ["c: ---\n --- \n"] := by
  have hreturns : '\r' ∉ content.toList := by decide
  have hsplit : splitDocuments content = ["a: 1\n\nb: 2\n", "c: ---\n --- \n"] := by rfl
  obtain ⟨hjoined, hsingle⟩ := (splits_into_runs content).2 hreturns
  rw [hsplit] at hjoined hsingle
  exact ⟨hreturns, hsplit, hjoined, hsingle _ (List.mem_cons_of_mem _ List.mem_cons_self)⟩

end Padded

end Provision.Yaml

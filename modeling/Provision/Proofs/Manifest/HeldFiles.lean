import Provision.Proofs.Disk

/-!
Texts that a tree of files holds. Every set of texts under paths in normal form, none of which is a directory of
another, is held by a tree; and what such a tree has at a place and below it are the texts whose paths say so.
-/

namespace Provision

/-- Every text is held by some bytes. -/
theorem Utf8.exists_decode_eq_ok (text : String) : ∃ content, decode content = .ok text :=
  ⟨encode text, decode_eq_ok_iff.mpr rfl⟩

/-- Texts that can be held as files: under paths in normal form, none of which is a directory of another. -/
structure FileSet (texts : List (String × String)) : Prop where
  distinct : (texts.map Prod.fst).Nodup
  normal : ∀ e ∈ texts, Path.normalize e.1 = .ok e.1
  no_nul : ∀ e ∈ texts, '\x00' ∉ e.1.toList
  apart : ∀ e ∈ texts, ∀ e' ∈ texts, e.1 ≠ e'.1 → ¬ Path.isBelow e.1 e'.1

namespace FileSet

variable {texts : List (String × String)} {e : String × String}

theorem tail (hset : FileSet (e :: texts)) : FileSet texts where
  distinct := (List.nodup_cons.mp hset.distinct).2
  normal e' he' := hset.normal e' (List.mem_cons_of_mem e he')
  no_nul e' he' := hset.no_nul e' (List.mem_cons_of_mem e he')
  apart e' he' e'' he'' := hset.apart e' (List.mem_cons_of_mem e he') e'' (List.mem_cons_of_mem e he'')

/-- The path of a text is made of names that a directory can hold. -/
theorem allowed (hset : FileSet texts) (he : e ∈ texts) :
    e.1 = Path.join (Path.components e.1) ∧ ∀ name ∈ Path.components e.1, Disk.AllowedName name := by
  obtain ⟨hjoin, hnames⟩ := Path.normalize_eq_ok (hset.normal e he)
  refine ⟨hjoin, fun name hname => ⟨hnames name hname, fun hnul => hset.no_nul e he ?_⟩⟩
  rw [hjoin, Path.mem_join_iff (by decide)]
  exact ⟨name, hname, hnul⟩

theorem not_prefix (hset : FileSet texts) {e' : String × String} (he : e ∈ texts) (he' : e' ∈ texts)
    (hne : e.1 ≠ e'.1) : ¬ Path.components e'.1 <+: Path.components e.1 := by
  rintro ⟨rest, hrest⟩
  obtain ⟨hjoin, hnames⟩ := hset.allowed he
  obtain ⟨hjoin', hnames'⟩ := hset.allowed he'
  refine hset.apart e he e' he' hne ?_
  rw [hjoin, hjoin', Path.isBelow_join_iff (fun name hname => (hnames name hname).toIsName)
    (fun name hname => (hnames' name hname).toIsName)]
  refine Or.inr ⟨rest, ?_, hrest.symm⟩
  rintro rfl
  exact hne (by rw [hjoin, hjoin', ← hrest, List.append_nil])

end FileSet

namespace Disk.Node

/-- A tree of text files that holds exactly the given texts, each under its path in normal form. -/
structure Holds (n : Node) (texts : List (String × String)) : Prop where
  plain : n.Plain
  distinct : (texts.map Prod.fst).Nodup
  same : ∀ path text, (path, text) ∈ texts ↔ Path.normalize path = .ok path ∧
    ∃ content, n.at? (Path.components path) = some (.file content) ∧ Utf8.decode content = .ok text

variable {n : Node} {texts : List (String × String)} {names : List String}

theorem Holds.mem_iff (hholds : n.Holds texts) (hnames : ∀ name ∈ names, Path.IsName name) {text : String} :
    (Path.join names, text) ∈ texts ↔
      ∃ content, n.at? names = some (.file content) ∧ Utf8.decode content = .ok text := by
  rw [hholds.same, Path.components_join hnames]
  exact and_iff_right (Path.normalize_join hnames)

/-- Every path is made of the names of a place where a file stands. -/
theorem Holds.exists_names (hholds : n.Holds texts) {path text : String} (hmem : (path, text) ∈ texts) :
    ∃ names, path = Path.join names ∧ (∀ name ∈ names, Path.IsName name) ∧
      ∃ content, n.at? names = some (.file content) ∧ Utf8.decode content = .ok text := by
  obtain ⟨hnormal, hfile⟩ := (hholds.same path text).mp hmem
  obtain ⟨hjoin, hnames⟩ := Path.normalize_eq_ok hnormal
  exact ⟨Path.components path, hjoin, hnames, hfile⟩

/-- Where a file stands, there is a text. -/
theorem Holds.exists_text (hholds : n.Holds texts) {content : List UInt8} (hfile : n.at? names = some (.file content)) :
    ∃ text, Utf8.decode content = .ok text ∧ (Path.join names, text) ∈ texts := by
  obtain ⟨text, htext⟩ := hholds.plain.of_at? hfile
  have hnames := fun name hname => (hholds.plain.allowed_of_at? hfile name hname).toIsName
  exact ⟨text, htext, (hholds.mem_iff hnames).mpr ⟨content, hfile, htext⟩⟩

/-- The texts at a path or below it are those of the files at a place or below it. -/
theorem Holds.mem_below_iff (hholds : n.Holds texts) (hnames : ∀ name ∈ names, Path.IsName name) {path : String} :
    (∃ text, (path, text) ∈ texts ∧ (path = Path.join names ∨ Path.isBelow path (Path.join names))) ↔
      ∃ rest content, path = Path.join (names ++ rest) ∧ n.at? (names ++ rest) = some (.file content) := by
  constructor
  · rintro ⟨text, hmem, hwhere⟩
    obtain ⟨ns, rfl, hns, content, hfile, -⟩ := hholds.exists_names hmem
    obtain ⟨rest, rfl⟩ : ∃ rest, ns = names ++ rest := by
      rcases hwhere with heq | hbelow
      · exact ⟨[], by simpa using Path.join_inj hns hnames heq⟩
      · rcases (Path.isBelow_join_iff hns hnames).mp hbelow with rfl | ⟨rest, -, heq⟩
        · exact ⟨ns, rfl⟩
        · exact ⟨rest, heq⟩
    exact ⟨rest, content, rfl, hfile⟩
  · rintro ⟨rest, content, rfl, hfile⟩
    obtain ⟨text, -, hmem⟩ := hholds.exists_text hfile
    refine ⟨text, hmem, ?_⟩
    by_cases hrest : rest = []
    · exact Or.inl (by rw [hrest, List.append_nil])
    · have hall := fun name hname => (hholds.plain.allowed_of_at? hfile name hname).toIsName
      exact Or.inr ((Path.isBelow_join_iff hall hnames).mpr (Or.inr ⟨rest, hrest, rfl⟩))

/-! ### Making a tree -/

/-- The texts of the files of a tree, place by place. -/
def HoldsAt (n : Node) (texts : List (String × String)) : Prop :=
  ∀ names, (∀ name ∈ names, Path.IsName name) → ∀ text, (Path.join names, text) ∈ texts ↔
    ∃ content, n.at? names = some (.file content) ∧ Utf8.decode content = .ok text

/-- Putting one more file of a set keeps clear of the others. -/
theorem holdsAt_put {path text : String} {content : List UInt8} (hset : FileSet ((path, text) :: texts))
    (hcontent : Utf8.decode content = .ok text) (hn : HoldsAt n texts) :
    HoldsAt (put ((Path.components path).map RawText.ofText) (.file content) n) ((path, text) :: texts) := by
  intro names hnames other
  by_cases hsame : names = Path.components path
  · subst hsame
    have hkey : path ∉ texts.map Prod.fst := (List.nodup_cons.mp hset.distinct).1
    have hfirst : (path, other) ∉ texts := fun hmem => hkey (List.mem_map_of_mem hmem)
    have hjoin : path = Path.join (Path.components path) := (hset.allowed List.mem_cons_self).1
    rw [← hjoin, at?_put_self]
    simp [hfirst, hcontent, eq_comm]
  · have hne : Path.join names ≠ path := by
      rintro rfl
      exact hsame (Path.components_join hnames).symm
    rw [List.mem_cons, Prod.mk.injEq, or_iff_right (fun hboth => hne hboth.1), hn names hnames]
    refine exists_congr fun found => and_congr_left fun hfound => (at?_put_file_iff hsame ?_).symm
    intro hfile
    have hmem : (Path.join names, other) ∈ texts := (hn names hnames other).mpr ⟨found, hfile, hfound⟩
    have hleft := hset.not_prefix (List.mem_cons_of_mem _ hmem) List.mem_cons_self hne
    have hright := hset.not_prefix List.mem_cons_self (List.mem_cons_of_mem _ hmem) hne.symm
    rw [Path.components_join hnames] at hleft hright
    exact ⟨hleft, hright⟩

/-- The tree of some texts; without any it is an empty directory, which holds none. -/
theorem exists_holdsAt (hset : FileSet texts) :
    ∃ n : Node, (n.Plain ∨ texts = [] ∧ n = .dir []) ∧ HoldsAt n texts := by
  induction texts with
  | nil =>
      refine ⟨.dir [], Or.inr ⟨rfl, rfl⟩, ?_⟩
      intro names _ text
      cases names <;> simp [at?]
  | cons e rest ih =>
      obtain ⟨n, hplain, hn⟩ := ih hset.tail
      obtain ⟨content, hcontent⟩ := Utf8.exists_decode_eq_ok e.2
      have hallowed := (hset.allowed List.mem_cons_self).2
      exact ⟨put ((Path.components e.1).map RawText.ofText) (.file content) n,
        Or.inl (plain_put hallowed ⟨e.2, hcontent⟩ (hplain.imp_right And.right)), holdsAt_put hset hcontent hn⟩

/-- Every set of files is held by a tree. -/
theorem exists_holds (hset : FileSet texts) (hne : texts ≠ []) : ∃ n : Node, n.Holds texts := by
  obtain ⟨n, hplain, hn⟩ := exists_holdsAt hset
  refine ⟨n, hplain.resolve_right fun hnil => hne hnil.1, hset.distinct, ?_⟩
  intro path text
  constructor
  · intro hmem
    obtain ⟨hjoin, hallowed⟩ := hset.allowed hmem
    refine ⟨hset.normal _ hmem, (hn _ (fun name hname => (hallowed name hname).toIsName) text).mp ?_⟩
    rwa [← hjoin]
  · rintro ⟨hnormal, hfile⟩
    obtain ⟨hjoin, hnames⟩ := Path.normalize_eq_ok hnormal
    rw [hjoin]
    exact (hn _ hnames text).mpr hfile

end Disk.Node

end Provision

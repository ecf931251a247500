import Mathlib.Data.List.Nodup
import Provision.Manifest.Basic
import Provision.Proofs.Failures
import Provision.Proofs.Manifest.HeldFiles

/-!
The same files on disk and in memory yield the same manifests. One is a tree whose directories are listed, the other
a flat map whose keys are compared as texts; what stands at a place of the tree decides for both what is there, what
is listed and what is read.
-/

namespace Provision

namespace Files

open Disk (Node)

variable {top n n' : Node} {root : String} {texts : List (String × String)} {names : List String}

/-! ### In memory -/

theorem ofTexts_eq (hholds : n.Holds texts) : ofTexts texts = .memory (Keyed.ofList texts) := by
  refine congrArg Files.memory (List.foldl_ext _ _ _ ?_)
  rintro held ⟨path, text⟩ hmem
  obtain ⟨names, rfl, hnames, -⟩ := hholds.exists_names hmem
  rw [hold, heldPath_join hnames]

theorem get?_ofList_iff (hholds : n.Holds texts) {path text : String} :
    Keyed.get? (Keyed.ofList texts) path = some text ↔ (path, text) ∈ texts := by
  rw [← Keyed.mem_ofList_iff hholds.distinct]
  exact ⟨Keyed.mem_of_get?, (Keyed.sorted_ofList texts).get?_of_mem⟩

theorem mem_keys_ofList_iff (hholds : n.Holds texts) {path : String} :
    path ∈ Keyed.keys (Keyed.ofList texts) ↔ ∃ text, (path, text) ∈ texts := by
  simp only [Keyed.keys, List.mem_map, Keyed.mem_ofList_iff hholds.distinct]
  constructor
  · rintro ⟨⟨_, text⟩, hmem, rfl⟩
    exact ⟨text, hmem⟩
  · rintro ⟨text, hmem⟩
    exact ⟨(path, text), hmem, rfl⟩

/-- A path is that of a text just if a file stands there. -/
theorem contains_ofList_iff (hholds : n.Holds texts) (hnames : ∀ name ∈ names, Path.IsName name) :
    Keyed.contains (Keyed.ofList texts) (Path.join names) ↔ ∃ content, n.at? names = some (.file content) := by
  rw [Keyed.contains, Option.isSome_iff_exists]
  constructor
  · rintro ⟨text, hfound⟩
    obtain ⟨content, hfile, -⟩ := (hholds.mem_iff hnames).mp ((get?_ofList_iff hholds).mp hfound)
    exact ⟨content, hfile⟩
  · rintro ⟨content, hfile⟩
    obtain ⟨text, -, hmem⟩ := hholds.exists_text hfile
    exact ⟨text, (get?_ofList_iff hholds).mpr hmem⟩

/-! ### On disk -/

/-- From where the root is, names lead down into the tree. -/
theorem lookup_onDisk_iff (hplain : n.Plain)
    (hfound : Disk.lookup false 40 ⟨top, []⟩ ((Path.parts root).map RawText.ofText) = .ok n)
    (hnames : ∀ name ∈ names, Path.IsName name) (last : Bool) :
    Disk.lookup last 40 ⟨top, []⟩ ((Path.parts (onDisk root (Path.join names))).map RawText.ofText) = .ok n' ↔
      n.at? names = some n' := by
  by_cases hne : names = []
  · subst hne
    rw [← Disk.lookup_append hplain hnames hfound n', List.map_nil, List.append_nil]
    rfl
  · obtain ⟨start, hstart, hparts⟩ := exists_parts_onDisk root hnames hne
    rw [hparts, List.map_append]
    rcases hstart with heq | heq
    · rw [heq] at hfound
      exact Disk.lookup_append hplain hnames hfound n'
    · rw [heq, List.map_append] at hfound
      have hmore : names.map RawText.ofText ≠ [] := by simpa using hne
      rw [← Disk.lookup_skip hmore, List.append_cons]
      exact Disk.lookup_append hplain hnames hfound n'

/-- What the operating system finds is what stands in the tree. -/
theorem find_onDisk_iff (hroot : Disk.find false top root = .ok n) (hplain : n.Plain)
    (hnames : ∀ name ∈ names, Path.IsName name) (last : Bool) :
    Disk.find last top (onDisk root (Path.join names)) = .ok n' ↔ n.at? names = some n' := by
  obtain ⟨hnul, hempty, hfound⟩ := Disk.find_eq_ok_iff.mp hroot
  rw [Disk.find_eq_ok_iff, lookup_onDisk_iff hplain hfound hnames]
  constructor
  · rintro ⟨-, -, hfile⟩
    exact hfile
  · intro hfile
    by_cases hne : names = []
    · subst hne
      exact ⟨hnul, hempty, hfile⟩
    · have hallowed : ¬ ∃ name ∈ names, '\x00' ∈ name.toList := by
        rintro ⟨name, hname, hin⟩
        exact (hplain.allowed_of_at? hfile name hname).no_nul hin
      rw [← Path.mem_join_iff (by decide)] at hallowed
      rcases onDisk_join root hnames hne with ⟨-, heq⟩ | ⟨-, heq⟩
      · exact ⟨by simp [heq, hnul, hallowed], by simp [heq, hempty], hfile⟩
      · exact ⟨by simp [heq, hnul, hallowed], by simp [heq, hempty], hfile⟩

theorem compare_ne_gt (a b : String) : (compare a b != .gt) = (compare a b).isLE := by
  cases compare a b <;> rfl

/-- Paths are sorted in their order. -/
theorem pairwise_mergeSort (paths : List String) :
    (paths.mergeSort fun a b => compare a b != .gt).Pairwise fun a b => compare a b ≠ .gt := by
  refine (List.pairwise_mergeSort ?_ ?_ paths).imp ?_
  · intro a b c hab hbc
    rw [compare_ne_gt] at *
    exact Std.TransOrd.isLE_trans hab hbc
  · intro a b
    rw [compare_ne_gt, compare_ne_gt, Std.OrientedOrd.eq_swap (a := b)]
    cases compare a b <;> rfl
  · intro a b hab
    simpa using hab

theorem eq_of_compare_ne_gt {a b : String} (hab : compare a b ≠ .gt) (hba : compare b a ≠ .gt) : a = b := by
  rw [Std.OrientedOrd.eq_swap] at hba
  cases hcompare : compare a b with
  | lt => simp [hcompare] at hba
  | eq => exact Std.compare_eq_iff_eq.mp hcompare
  | gt => exact absurd hcompare hab

/-- Paths that differ are sorted in strict order. -/
theorem pairwise_mergeSort_compare {paths : List String} (hnodup : paths.Nodup) :
    (paths.mergeSort fun a b => compare a b != .gt).Pairwise fun a b => compare a b = .lt := by
  have hdistinct : (paths.mergeSort fun a b => compare a b != .gt).Nodup :=
    (List.mergeSort_perm paths _).nodup_iff.mpr hnodup
  refine ((pairwise_mergeSort paths).and hdistinct).imp ?_
  rintro a b ⟨hab, hne⟩
  cases hcompare : compare a b with
  | lt => rfl
  | eq => exact absurd (Std.compare_eq_iff_eq.mp hcompare) hne
  | gt => exact absurd hcompare hab

section SameTree

variable (hroot : Disk.find false top root = .ok n) (hholds : n.Holds texts) (hnames : ∀ name ∈ names, Path.IsName name)

include hroot hholds hnames

theorem contains_disk_iff : contains (.disk root top) (Path.join names) ↔ ∃ n', n.at? names = some n' := by
  have hfind : ∀ n', Disk.find true top (onDisk root (Path.join names)) = .ok n' ↔ n.at? names = some n' :=
    fun n' => find_onDisk_iff hroot hholds.plain hnames true
  rw [contains, Disk.follow]
  cases hfound : Disk.find true top (onDisk root (Path.join names)) with
  | error e =>
      simp only [hfound] at hfind
      simp [← hfind, Except.isOk, Except.toBool]
  | ok n' =>
      have hstands := (hfind n').mp hfound
      simp [hstands, Except.isOk, Except.toBool]

omit hroot in
theorem contains_memory_iff : contains (ofTexts texts) (Path.join names) ↔ ∃ n', n.at? names = some n' := by
  have htexts : contains (ofTexts texts) (Path.join names) ↔
      ∃ path text, (path, text) ∈ texts ∧ (path = Path.join names ∨ Path.isBelow path (Path.join names)) := by
    rw [ofTexts_eq hholds, contains, Bool.or_eq_true, isDir, List.any_eq_true, Keyed.contains, Option.isSome_iff_exists]
    simp only [get?_ofList_iff hholds, Prod.exists, Keyed.mem_ofList_iff hholds.distinct, Bool.and_eq_true, bne_iff_ne]
    constructor
    · rintro (⟨text, hmem⟩ | ⟨path, text, hmem, -, hbelow⟩)
      · exact ⟨_, text, hmem, Or.inl rfl⟩
      · exact ⟨path, text, hmem, Or.inr hbelow⟩
    · rintro ⟨path, text, hmem, hwhere⟩
      by_cases heq : path = Path.join names
      · exact Or.inl ⟨text, heq ▸ hmem⟩
      · exact Or.inr ⟨path, text, hmem, heq, hwhere.resolve_left heq⟩
  rw [htexts, Disk.exists_at?_iff hholds.plain]
  simp only [hholds.mem_below_iff hnames]
  constructor
  · rintro ⟨-, rest, content, -, hfile⟩
    exact ⟨rest, content, hfile⟩
  · rintro ⟨rest, content, hfile⟩
    exact ⟨_, rest, content, rfl, hfile⟩

omit hholds in
theorem walk_disk_eq (hplain : n.Plain) (hfound : n.at? names = some n') :
    walk (.disk root top) (Path.join names) =
      .ok (((Disk.filesAt (names.map RawText.ofText) n').map shownPath).mergeSort fun a b => compare a b != .gt) := by
  have hfind : Disk.find false top (onDisk root (Path.join names)) = .ok n' :=
    (find_onDisk_iff hroot hplain hnames false).mpr hfound
  have hwalk : Disk.walk top (onDisk root (Path.join names)) (names.map RawText.ofText) =
      .ok (Disk.filesAt (names.map RawText.ofText) n') := by
    rw [Disk.walk, hfind]
    cases n' with
    | link _ => exact absurd (hplain.of_at? hfound) id
    | _ => rfl
  rw [walk, Path.components_join hnames, hwalk]

omit hroot in
theorem mem_walk_disk_iff (hfound : n.at? names = some n') {path : String} :
    path ∈ ((Disk.filesAt (names.map RawText.ofText) n').map shownPath).mergeSort (fun a b => compare a b != .gt) ↔
      ∃ text, (path, text) ∈ texts ∧ (path = Path.join names ∨ Path.isBelow path (Path.join names)) := by
  rw [hholds.mem_below_iff hnames, List.mem_mergeSort, List.mem_map]
  simp only [Disk.mem_filesAt_iff n' (hholds.plain.of_at? hfound), Disk.Node.at?_append, hfound, Option.bind_some]
  constructor
  · rintro ⟨_, ⟨rest, content, rfl, hfile⟩, rfl⟩
    exact ⟨rest, content, by rw [← List.map_append, shownPath_ofText], hfile⟩
  · rintro ⟨rest, content, rfl, hfile⟩
    exact ⟨_, ⟨rest, content, rfl, hfile⟩, by rw [← List.map_append, shownPath_ofText]⟩

/-- Both list the same files. -/
theorem walk_eq (hfound : n.at? names = some n') :
    walk (ofTexts texts) (Path.join names) = walk (.disk root top) (Path.join names) := by
  rw [walk_disk_eq hroot hnames hholds.plain hfound, ofTexts_eq hholds, walk]
  by_cases hfile : Keyed.contains (Keyed.ofList texts) (Path.join names) = true
  · obtain ⟨content, hcontent⟩ := (contains_ofList_iff hholds hnames).mp hfile
    rw [hfound] at hcontent
    cases hcontent
    rw [if_pos hfile, Disk.filesAt, List.map_singleton, List.mergeSort_singleton, shownPath_ofText]
  · rw [if_neg hfile]
    have hkeys : (Keyed.keys (Keyed.ofList texts)).Pairwise fun a b => compare a b = .lt :=
      List.pairwise_map.mpr (Keyed.sorted_ofList texts)
    -- Both listings are in strict order, so it is enough that they have the same members.
    have hhere : ∀ name ∈ names.map RawText.ofText, Disk.TextName name :=
      List.forall_mem_map.mpr fun name hname => ⟨name, hnames name hname, rfl⟩
    have hlisted := pairwise_mergeSort_compare
      (Disk.nodup_paths (Disk.Node.named_of_plain n' (hholds.plain.of_at? hfound)) hhere)
    refine congrArg Except.ok
      (Keyed.eq_of_mem_iff (fun _ _ => Std.OrientedCmp.not_lt_of_lt) (hkeys.filter _) hlisted ?_)
    intro path
    rw [mem_walk_disk_iff hholds hnames hfound, List.mem_filter, mem_keys_ofList_iff hholds]
    constructor
    · rintro ⟨⟨text, hmem⟩, hbelow⟩
      exact ⟨text, hmem, Or.inr hbelow⟩
    · rintro ⟨text, hmem, rfl | hbelow⟩
      · obtain ⟨content, hcontent, -⟩ := (hholds.mem_iff hnames).mp hmem
        exact absurd ((contains_ofList_iff hholds hnames).mpr ⟨content, hcontent⟩) hfile
      · exact ⟨⟨text, hmem⟩, hbelow⟩

/-- Both read the same texts. -/
theorem read_eq {text : String} (hmem : (Path.join names, text) ∈ texts) :
    read (.disk root top) (Path.join names) = .ok text ∧ read (ofTexts texts) (Path.join names) = .ok text := by
  obtain ⟨content, hfile, htext⟩ := (hholds.mem_iff hnames).mp hmem
  have hfind := (find_onDisk_iff hroot hholds.plain hnames true).mpr hfile
  constructor
  · rw [read, Disk.read, Disk.follow, hfind]
    simp only [htext]
  · rw [ofTexts_eq hholds, read, (get?_ofList_iff hholds).mpr hmem]

end SameTree

end Files

namespace Manifest

/-- The manifest with another collection of files behind an overlay. -/
def withFiles (files : Files) : Manifest → Manifest
  | overlay path _ => overlay path files
  | man => man

variable {files files' : Files}

theorem withFiles_of_ofFile (files : Files) {file content : String} {man : Manifest}
    (hman : ofFile file content = .ok man) : man.withFiles files = man := by
  unfold ofFile at hman
  split at hman
  · cases hman
    rfl
  · obtain ⟨objects, -, rfl⟩ := except_map_eq_ok_iff.mp hman
    rfl

/-- The manifests of some files depend on nothing but what is read from these. -/
theorem loadFiles_eq {roots loaded found : List String} (hread : ∀ file ∈ found, files.read file = files'.read file) :
    loadFiles files roots loaded found = (loadFiles files' roots loaded found).map (List.map (withFiles files)) := by
  induction found generalizing loaded with
  | nil => rfl
  | cons file rest ih =>
      obtain ⟨hfirst, hrest⟩ := List.forall_mem_cons.mp hread
      rw [loadFiles, loadFiles]
      split
      · split
        · exact ih hrest
        · rw [ih hrest]
          cases loadFiles files' roots _ rest <;> rfl
      · rw [hfirst, ih hrest]
        cases files'.read file with
        | error f => rfl
        | ok content =>
            simp only [bind, Except.bind]
            cases hman : ofFile file content with
            | error f => rfl
            | ok man =>
                have hsame := withFiles_of_ofFile files hman
                cases loadFiles files' roots loaded rest with
                | error f => rfl
                | ok others => simp [Except.map, pure, Except.pure, hsame]

theorem load_of_contains {path normal : String} (hnormal : Path.normalize path = .ok normal)
    (hthere : files.contains normal = true) {found : List String} (hwalk : files.walk normal = .ok found) :
    load files path = loadFiles files (overlayRoots found) [] found := by
  simp only [load, hnormal, bind, Except.bind, hthere, Bool.not_true, Bool.false_eq_true, if_false, hwalk]

theorem load_of_not_contains {path normal : String} (hnormal : Path.normalize path = .ok normal)
    (hthere : files.contains normal = false) :
    load files path = .error (.manifest normal "no such file or directory") := by
  simp only [load, hnormal, bind, Except.bind, hthere, Bool.not_false, if_true]
  rfl

section SameTexts

variable {top n : Disk.Node} {root : String} {texts : List (String × String)}

/-- What is loaded is decided by what stands at the path, and that is the same on both sides. -/
theorem load_disk_eq (hroot : Disk.find false top root = .ok n) (hholds : n.Holds texts) (path : String) :
    load (.disk root top) path =
      (load (.ofTexts texts) path).map (List.map (withFiles (.disk root top))) := by
  cases hnormal : Path.normalize path with
  | error f =>
      rw [load, load, hnormal]
      rfl
  | ok normal =>
      obtain ⟨rfl, hnames⟩ := Path.normalize_eq_ok hnormal
      have hdisk := Files.contains_disk_iff hroot hholds hnames
      have hmemory := Files.contains_memory_iff hholds hnames
      by_cases hthere : ∃ n', n.at? (Path.components path) = some n'
      · obtain ⟨n', hfound⟩ := hthere
        have hwalk := Files.walk_disk_eq hroot hnames hholds.plain hfound
        have hsame := (Files.walk_eq hroot hholds hnames hfound).trans hwalk
        rw [load_of_contains hnormal (hdisk.mpr ⟨n', hfound⟩) hwalk,
          load_of_contains hnormal (hmemory.mpr ⟨n', hfound⟩) hsame]
        refine loadFiles_eq ?_
        intro file hfile
        obtain ⟨text, hmem, -⟩ := (Files.mem_walk_disk_iff hholds hnames hfound).mp hfile
        obtain ⟨names, rfl, hnames', -⟩ := hholds.exists_names hmem
        obtain ⟨hleft, hright⟩ := Files.read_eq hroot hholds hnames' hmem
        rw [hleft, hright]
      · rw [load_of_not_contains hnormal (Bool.eq_false_iff.mpr (mt hdisk.mp hthere)),
          load_of_not_contains hnormal (Bool.eq_false_iff.mpr (mt hmemory.mp hthere))]
        rfl

/-- A set of texts can be held on disk, and from any tree that holds it the same manifests are loaded as from memory,
whatever path is asked for. -/
theorem disk_agrees_with_memory (hset : FileSet texts) (hne : texts ≠ []) :
    (∃ top, ∃ root : String, ∃ n, Disk.find false top root = .ok n ∧ n.Holds texts) ∧
      ∀ top (root : String) n, Disk.find false top root = .ok n → n.Holds texts → ∀ path,
        load (.disk root top) path =
          (load (.ofTexts texts) path).map (List.map (withFiles (.disk root top))) := by
  refine ⟨?_, fun top root n hroot hholds path => load_disk_eq hroot hholds path⟩
  obtain ⟨n, hholds⟩ := Disk.Node.exists_holds hset hne
  have hroot : Disk.find false (.dir [("files", n)]) "files" = .ok n := by
    cases n with
    | link _ => exact absurd hholds.plain id
    | _ => rfl
  exact ⟨_, _, n, hroot, hholds⟩

end SameTexts

/-! ### Names with a common start -/

namespace CommonStart

/-- A directory, a file and another directory whose names start alike. -/
def texts : List (String × String) :=
  [("mesh/gateway.tmpl", "a"), ("mesh.tmpl", "b"), ("meshes/other.tmpl", "c")]

theorem fileSet : FileSet texts where
  distinct := by decide
  normal := by
    intro e he
    simp only [texts, List.mem_cons, List.not_mem_nil, or_false] at he
    rcases he with rfl | rfl | rfl <;> rfl
  no_nul := by decide
  apart := by decide

/-- Only what lies in the directory is loaded, from disk as from memory. -/
theorem mesh_alone : ∃ top, ∃ root : String, ∃ n, Disk.find false top root = .ok n ∧ n.Holds texts ∧
    load (.disk root top) "mesh" = .ok [.template "mesh/gateway.tmpl" false "a"] := by
  have hmemory : load (.ofTexts texts) "mesh" = .ok [.template "mesh/gateway.tmpl" false "a"] := by
    rfl
  obtain ⟨⟨top, root, n, hroot, hholds⟩, hsame⟩ := disk_agrees_with_memory fileSet (by decide)
  refine ⟨top, root, n, hroot, hholds, ?_⟩
  rw [hsame top root n hroot hholds, hmemory]
  rfl

end CommonStart

end Manifest
end Provision

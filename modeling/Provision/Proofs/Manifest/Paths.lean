import Mathlib.Data.List.Infix
import Provision.Manifest.Files
import Provision.Proofs.Text.Lines

/-!
Paths as lists of names. A path in normal form is a list of names with slashes between them, and nothing of the list
is lost: its parts are the names again. What lies below a directory are the lists that continue its own.
-/

namespace Provision

namespace Path

/-- A name of an entry of a directory. -/
structure IsName (name : String) : Prop where
  ne_empty : name ≠ ""
  ne_dot : name ≠ "."
  ne_dots : name ≠ ".."
  no_slash : '/' ∉ name.toList

instance (name : String) : Decidable (IsName name) :=
  decidable_of_iff (name ≠ "" ∧ name ≠ "." ∧ name ≠ ".." ∧ '/' ∉ name.toList)
    ⟨fun h => ⟨h.1, h.2.1, h.2.2.1, h.2.2.2⟩, fun h => ⟨h.ne_empty, h.ne_dot, h.ne_dots, h.no_slash⟩⟩

/-! ### Parts -/

theorem parts_append (a b : String) : parts (a ++ "/" ++ b) = parts a ++ parts b := by
  simp only [parts, pieces_eq_splitOn, String.toList_append]
  have hslash : "/".toList = ['/'] := rfl
  rw [hslash, List.append_assoc, List.singleton_append, List.splitOn_append_cons_self, List.map_append]

theorem parts_of_no_slash {name : String} (hslash : '/' ∉ name.toList) : parts name = [name] := by
  rw [parts, pieces_eq_splitOn, List.splitOn_eq_singleton hslash]
  simp

theorem no_slash_of_mem_parts {path part : String} (hpart : part ∈ parts path) : '/' ∉ part.toList := by
  obtain ⟨piece, hpiece, rfl⟩ := List.mem_map.mp hpart
  rw [String.toList_ofList]
  exact sep_notMem_pieces '/' path.toList piece hpiece

variable {names dir : List String}

theorem join_cons (name : String) (hnames : names ≠ []) : join (name :: names) = name ++ "/" ++ join names :=
  String.intercalate_cons_of_ne_nil hnames

theorem join_append {more : List String} (hnames : names ≠ []) (hmore : more ≠ []) :
    join (names ++ more) = join names ++ "/" ++ join more := by
  induction names with
  | nil => contradiction
  | cons name rest ih =>
      by_cases hrest : rest = []
      · subst hrest
        rw [List.singleton_append, join_cons name hmore]
        rfl
      · rw [List.cons_append, join_cons name (by simp [hrest]), join_cons name hrest, ih hrest]
        simp only [String.append_assoc]

/-- All characters of a path but the slashes come from its names. -/
theorem mem_join_iff {c : Char} (hc : c ≠ '/') : c ∈ (join names).toList ↔ ∃ name ∈ names, c ∈ name.toList := by
  induction names with
  | nil => simp [join]
  | cons name rest ih =>
      by_cases hrest : rest = []
      · subst hrest
        simp [join]
      · simp [join_cons name hrest, hc, ih]

/-- What is joined with slashes falls into the same parts again. -/
theorem parts_join_of_no_slash (hslash : ∀ name ∈ names, '/' ∉ name.toList) (hne : names ≠ []) :
    parts (join names) = names := by
  induction names with
  | nil => contradiction
  | cons name rest ih =>
      have hname := parts_of_no_slash (hslash name List.mem_cons_self)
      by_cases hrest : rest = []
      · subst hrest
        exact hname
      · rw [join_cons name hrest, parts_append, hname, List.singleton_append,
          ih (fun other hother => hslash other (List.mem_cons_of_mem name hother)) hrest]

/-- The parts of a path are the names that it is made of. -/
theorem parts_join (hnames : ∀ name ∈ names, IsName name) (hne : names ≠ []) : parts (join names) = names :=
  parts_join_of_no_slash (fun name hname => (hnames name hname).no_slash) hne

theorem components_join (hnames : ∀ name ∈ names, IsName name) : components (join names) = names := by
  by_cases hne : names = []
  · subst hne
    rfl
  · rw [components, parts_join hnames hne, List.filter_eq_self]
    intro name hname
    simp [(hnames name hname).ne_empty, (hnames name hname).ne_dot]

/-- Different lists of names make different paths. -/
theorem join_inj {names' : List String} (hnames : ∀ name ∈ names, IsName name) (hnames' : ∀ name ∈ names', IsName name)
    (heq : join names = join names') : names = names' := by
  rw [← components_join hnames, heq, components_join hnames']

theorem join_eq_empty_iff (hnames : ∀ name ∈ names, IsName name) : join names = "" ↔ names = [] := by
  constructor
  · intro hempty
    rw [← components_join hnames, hempty]
    rfl
  · rintro rfl
    rfl

/-- Wherever a path is cut at a slash, its names are the parts of both sides. -/
theorem names_of_join_eq (hnames : ∀ name ∈ names, IsName name) {a b : String} (heq : join names = a ++ "/" ++ b) :
    names = parts a ++ parts b := by
  have hne : names ≠ [] := by
    rintro rfl
    have hempty := congrArg String.toList heq
    simp [join] at hempty
  rw [← parts_append, ← heq, parts_join hnames hne]

theorem isName_of_join_eq (hnames : ∀ name ∈ names, IsName name) {a b : String} (heq : join names = a ++ "/" ++ b)
    {part : String} (hpart : part ∈ parts a ∨ part ∈ parts b) : IsName part := by
  rw [← List.mem_append, ← names_of_join_eq hnames heq] at hpart
  exact hnames part hpart

/-! ### Normal form -/

/-- A normal form is made of names. -/
theorem normalize_eq_ok {path normal : String} (hnormal : normalize path = .ok normal) :
    normal = join (components path) ∧ ∀ name ∈ components path, IsName name := by
  unfold normalize at hnormal
  split at hnormal
  · cases hnormal
  · split at hnormal
    · cases hnormal
    · next hdots =>
        cases hnormal
        refine ⟨rfl, ?_⟩
        intro name hname
        obtain ⟨hpart, hkept⟩ := List.mem_filter.mp hname
        simp only [Bool.and_eq_true, bne_iff_ne] at hkept
        refine ⟨hkept.1, hkept.2, ?_, no_slash_of_mem_parts hpart⟩
        rintro rfl
        exact hdots (List.contains_iff_mem.mpr hpart)

/-- No path that is made of names starts with a slash. -/
theorem head?_join_ne_slash (hnames : ∀ name ∈ names, IsName name) : (join names).toList.head? ≠ some '/' := by
  intro hslash
  obtain ⟨rest, hrest⟩ := List.head?_eq_some_iff.mp hslash
  have hcut : join names = "" ++ "/" ++ String.ofList rest := by
    rw [← String.toList_inj, hrest]
    simp
  exact (isName_of_join_eq hnames hcut (Or.inl List.mem_cons_self)).ne_empty rfl

/-- No path that is made of names ends with a slash. -/
theorem getLast?_join_ne_slash (hnames : ∀ name ∈ names, IsName name) : (join names).toList.getLast? ≠ some '/' := by
  intro hslash
  obtain ⟨rest, hrest⟩ := List.getLast?_eq_some_iff.mp hslash
  have hcut : join names = String.ofList rest ++ "/" ++ "" := by
    rw [← String.toList_inj, hrest]
    simp
  exact (isName_of_join_eq hnames hcut (Or.inr List.mem_cons_self)).ne_empty rfl

/-- Nor does it start with `./`, not even if it is followed by slashes: no name is a dot. -/
theorem toList_join_append_ne (hnames : ∀ name ∈ names, IsName name) (hne : names ≠ []) {trailing : Nat}
    {rest : List Char} : (join names).toList ++ List.replicate trailing '/' ≠ '.' :: '/' :: rest := by
  intro hstart
  have hparts := parts_join hnames hne
  have hdot : "." ∈ parts (join names) := by
    cases hpath : (join names).toList with
    | nil =>
        rw [String.toList_eq_nil_iff, join_eq_empty_iff hnames] at hpath
        exact absurd hpath hne
    | cons c tail =>
        rw [hpath, List.cons_append, List.cons.injEq] at hstart
        obtain ⟨rfl, hslash⟩ := hstart
        cases tail with
        | nil =>
            have hpath : join names = "." := String.toList_inj.mp hpath
            rw [hpath]
            exact List.mem_cons_self
        | cons c' tail =>
            obtain ⟨rfl, -⟩ := List.cons.inj hslash
            have hcut : join names = "." ++ "/" ++ String.ofList tail := by
              rw [← String.toList_inj, hpath]
              simp
            rw [hcut, parts_append]
            exact List.mem_append_left _ List.mem_cons_self
  rw [hparts] at hdot
  exact (hnames "." hdot).ne_dot rfl

theorem normalize_join (hnames : ∀ name ∈ names, IsName name) : normalize (join names) = .ok (join names) := by
  have hdots : ".." ∉ parts (join names) := by
    by_cases hne : names = []
    · subst hne
      decide
    · rw [parts_join hnames hne]
      exact fun hmem => (hnames ".." hmem).ne_dots rfl
  rw [normalize, if_neg (head?_join_ne_slash hnames), if_neg (by simpa using hdots), components_join hnames]

/-! ### Below a directory -/

theorem afterStart?_eq_some_iff {start path : String} {rest : List Char} :
    afterStart? start path = some rest ↔ path = start ++ String.ofList rest := by
  rw [← String.toList_inj, String.toList_append, String.toList_ofList, afterStart?]
  constructor
  · intro hstart
    split at hstart
    · next hprefix =>
        obtain ⟨tail, htail⟩ := List.isPrefixOf_iff_prefix.mp hprefix
        rw [← htail, ← String.length_toList, List.drop_left] at hstart
        rw [← htail, Option.some.inj hstart]
    · cases hstart
  · intro heq
    have hprefix : start.toList.isPrefixOf path.toList := by
      rw [heq]
      exact List.isPrefixOf_iff_prefix.mpr (List.prefix_append _ _)
    rw [if_pos hprefix, heq, ← String.length_toList, List.drop_left]

theorem isBelow_iff {path dir : String} : isBelow path dir ↔ dir = "" ∨ ∃ rest, path = dir ++ "/" ++ rest := by
  rw [isBelow, Bool.or_eq_true, String.isEmpty_iff]
  refine or_congr_right ?_
  constructor
  · intro hbelow
    split at hbelow
    · next rest hrest =>
        refine ⟨String.ofList rest, ?_⟩
        rw [afterStart?_eq_some_iff.mp hrest, ← String.toList_inj]
        simp
    · cases hbelow
  · rintro ⟨rest, rfl⟩
    have hafter : afterStart? dir (dir ++ "/" ++ rest) = some ('/' :: rest.toList) := by
      rw [afterStart?_eq_some_iff, ← String.toList_inj]
      simp
    simp [hafter]

/-- Below a directory lie the paths that go on from it. -/
theorem isBelow_join_iff (hnames : ∀ name ∈ names, IsName name) (hdir : ∀ name ∈ dir, IsName name) :
    isBelow (join names) (join dir) ↔ dir = [] ∨ ∃ rest, rest ≠ [] ∧ names = dir ++ rest := by
  rw [isBelow_iff, join_eq_empty_iff hdir]
  by_cases hroot : dir = []
  · simp [hroot]
  · simp only [hroot, false_or]
    constructor
    · rintro ⟨rest, hrest⟩
      refine ⟨parts rest, by simp [parts, pieces_ne_nil], ?_⟩
      rw [names_of_join_eq hnames hrest, parts_join hdir hroot]
    · rintro ⟨rest, hne, rfl⟩
      exact ⟨join rest, join_append hroot hne⟩

end Path

namespace Files

/-! ### What a text is held under -/

/-- A path with `./` before it some times, then slashes, and slashes behind it. -/
def padded (dots slashes trailing : Nat) (path : String) : String :=
  String.ofList ((List.replicate dots ['.', '/']).flatten ++ List.replicate slashes '/' ++ path.toList ++
    List.replicate trailing '/')

theorem dropDots_append (dots : Nat) (s : List Char) :
    dropDots ((List.replicate dots ['.', '/']).flatten ++ s) = dropDots s := by
  induction dots with
  | zero => rfl
  | succ dots ih =>
      rw [List.replicate_succ, List.flatten_cons, List.append_assoc]
      exact ih

theorem dropDots_of_ne {s : List Char} (hdots : ∀ rest, s ≠ '.' :: '/' :: rest) : dropDots s = s := by
  unfold dropDots
  split
  · next rest => exact absurd rfl (hdots rest)
  · rfl

theorem dropWhile_replicate_slash (slashes : Nat) {s : List Char} (hhead : s.head? ≠ some '/') :
    (List.replicate slashes '/' ++ s).dropWhile (· = '/') = s := by
  rw [List.dropWhile_append_of_pos (by simp)]
  cases s with
  | nil => rfl
  | cons c rest =>
      have hc : c ≠ '/' := by simpa using hhead
      simp [hc]

/-- Whatever stands around a path that is made of names, a text is held under that path. -/
theorem heldPath_padded {names : List String} (hnames : ∀ name ∈ names, Path.IsName name) (hne : names ≠ [])
    (dots slashes trailing : Nat) : heldPath (padded dots slashes trailing (Path.join names)) = Path.join names := by
  have hsome : (Path.join names).toList ≠ [] := by
    simpa using mt (Path.join_eq_empty_iff hnames).mp hne
  have hdots : ∀ rest, List.replicate slashes '/' ++ ((Path.join names).toList ++ List.replicate trailing '/') ≠
      '.' :: '/' :: rest := by
    intro rest hrest
    cases slashes with
    | zero => exact Path.toList_join_append_ne hnames hne hrest
    | succ slashes => cases hrest
  have hstart := Path.head?_join_ne_slash hnames
  have hend : (Path.join names).toList.reverse.head? ≠ some '/' := by
    simpa using Path.getLast?_join_ne_slash hnames
  rw [heldPath, padded, String.toList_ofList, List.append_assoc, List.append_assoc, dropDots_append,
    dropDots_of_ne hdots, dropWhile_replicate_slash slashes (by rwa [List.head?_append_of_ne_nil _ hsome]),
    List.reverse_append, List.reverse_replicate, dropWhile_replicate_slash trailing hend, List.reverse_reverse,
    String.ofList_toList]

/-- A path that is made of names is held as it is. -/
theorem heldPath_join {names : List String} (hnames : ∀ name ∈ names, Path.IsName name) :
    heldPath (Path.join names) = Path.join names := by
  by_cases hne : names = []
  · subst hne
    rfl
  · have hbare : padded 0 0 0 (Path.join names) = Path.join names := by simp [padded]
    have hheld := heldPath_padded hnames hne 0 0 0
    rwa [hbare] at hheld

/-! ### Under a root -/

variable {root : String} {names : List String}

/-- A path that is made of names goes behind a slash, unless the root is empty or ends with one. -/
theorem onDisk_join (root : String) (hnames : ∀ name ∈ names, Path.IsName name) (hne : names ≠ []) :
    root ≠ "" ∧ onDisk root (Path.join names) = root ++ "/" ++ Path.join names ∨
      (root = "" ∨ ∃ above, root = above ++ "/") ∧ onDisk root (Path.join names) = root ++ Path.join names := by
  have hempty : (Path.join names).isEmpty = false := by
    rw [← Bool.not_eq_true, String.isEmpty_iff, Path.join_eq_empty_iff hnames]
    exact hne
  rw [onDisk, hempty, if_neg Bool.false_ne_true, if_neg (Path.head?_join_ne_slash hnames)]
  split
  · next hslash =>
      refine Or.inr ⟨?_, rfl⟩
      cases hlast : root.toList.getLast? with
      | none => exact Or.inl (by simpa using hlast)
      | some c =>
          obtain rfl : c = '/' := by simpa [hlast] using hslash
          obtain ⟨above, habove⟩ := List.getLast?_eq_some_iff.mp hlast
          refine Or.inr ⟨String.ofList above, ?_⟩
          rw [← String.toList_inj, habove]
          simp
  · next hslash =>
      refine Or.inl ⟨?_, rfl⟩
      rintro rfl
      exact hslash rfl

/-- The parts of the root go on with the names; an empty part at the end of the root is not kept. -/
theorem exists_parts_onDisk (root : String) (hnames : ∀ name ∈ names, Path.IsName name) (hne : names ≠ []) :
    ∃ start, (Path.parts root = start ∨ Path.parts root = start ++ [""]) ∧
      Path.parts (onDisk root (Path.join names)) = start ++ names := by
  rcases onDisk_join root hnames hne with ⟨-, heq⟩ | ⟨rfl | ⟨above, rfl⟩, heq⟩
  · exact ⟨_, Or.inl rfl, by rw [heq, Path.parts_append, Path.parts_join hnames hne]⟩
  · exact ⟨[], Or.inr rfl, by rw [heq, String.empty_append, Path.parts_join hnames hne]; rfl⟩
  · refine ⟨Path.parts above, Or.inr ?_, by rw [heq, Path.parts_append, Path.parts_join hnames hne]⟩
    have hend := Path.parts_append above ""
    rwa [String.append_empty] at hend

end Files
end Provision

import Provision.Proofs.Manifest.Roots

/-!
Normal forms of paths. A path has one unless it is absolute or goes up; it is made of the parts that lead somewhere, and
it is its own normal form. Going through a path step by step and giving up at the first step that is not allowed comes
to the same. A normal form leads from any root to a place at or below it, by the text of the paths alone.
-/

namespace Provision.Path

/-! ### Parts and steps -/

/-- The parts of a path are what stands between its slashes. -/
structure Splits (path : String) (found : List String) : Prop where
  nonempty : found ≠ []
  no_slash : ∀ part ∈ found, '/' ∉ part.toList
  joined : "/".intercalate found = path

theorem splits_parts (path : String) : Splits path (parts path) where
  nonempty := parts_ne_nil path
  no_slash _ hpart := no_slash_of_mem_parts hpart
  joined := join_parts path

theorem Splits.eq_parts {path : String} {found : List String} (hsplits : Splits path found) : found = parts path := by
  rw [← hsplits.joined]
  exact (parts_join_of_no_slash hsplits.no_slash hsplits.nonempty).symm

/-- A step of a path. -/
inductive Step where
  | root
  | here
  | up
  | name (text : String)

/-- The step of a part. Nothing between two slashes is none, and neither is a dot behind another part. -/
def Step.ofPart? (part : String) : Option Step :=
  if part = "" ∨ part = "." then none
  else if part = ".." then some .up
  else some (.name part)

/-- The steps of a path: to the root first if it starts with a slash, and staying here first if it starts with a dot. -/
def steps (path : String) : List Step :=
  let first := if path.toList.head? = some '/' then [Step.root]
    else if (parts path).head? = some "." then [Step.here]
    else []
  first ++ (parts path).filterMap Step.ofPart?

/-- Collect the names of steps, of which none leads to the root or up. -/
def namesOf? : List String → List Step → Option (List String)
  | names, [] => some names
  | names, .name text :: rest => namesOf? (names ++ [text]) rest
  | names, .here :: rest => namesOf? names rest
  | _, _ :: _ => none

/-- The normal form of a path as the walk along its steps finds it. -/
def normalizeBySteps (path : String) : Except Failure String :=
  if path.toList.head? = some '/' then
    .error (.manifest path "manifest paths must be relative")
  else
    match namesOf? [] (steps path) with
    | some names => .ok (join names)
    | none => .error (.manifest path "manifest paths may not leave the manifest root")

/-- The run lemma: the walk ends early just if some part goes up, and otherwise keeps what leads somewhere. -/
theorem namesOf?_filterMap (names found : List String) :
    namesOf? names (found.filterMap Step.ofPart?) =
      if ".." ∈ found then none else some (names ++ found.filter fun part => part != "" && part != ".") := by
  induction found generalizing names with
  | nil => simp [namesOf?]
  | cons part rest ih =>
      by_cases hstay : part = "" ∨ part = "."
      · have hup : ".." ≠ part := by rintro rfl; simp at hstay
        have hkept : (part != "" && part != ".") = false := by rcases hstay with rfl | rfl <;> rfl
        have hnone : Step.ofPart? part = none := if_pos hstay
        rw [List.filterMap_cons_none hnone, ih]
        simp only [List.mem_cons, hup, false_or, List.filter_cons, hkept, Bool.false_eq_true, if_false]
      · by_cases hup : part = ".."
        · subst hup
          have hsome : Step.ofPart? ".." = some .up := rfl
          rw [List.filterMap_cons_some hsome, if_pos List.mem_cons_self]
          rfl
        · have hsome : Step.ofPart? part = some (.name part) := by rw [Step.ofPart?, if_neg hstay, if_neg hup]
          have hkept : (part != "" && part != ".") = true := by simpa using hstay
          rw [List.filterMap_cons_some hsome, namesOf?, ih]
          simp only [List.mem_cons, Ne.symm hup, false_or, List.filter_cons, hkept, if_true, List.append_assoc,
            List.singleton_append]

/-- Going step by step comes to the same as looking at all parts at once. -/
theorem normalizeBySteps_eq (path : String) : normalizeBySteps path = normalize path := by
  unfold normalizeBySteps normalize
  split
  · rfl
  · next hrelative =>
      have hwalk : namesOf? [] (steps path) = namesOf? [] ((parts path).filterMap Step.ofPart?) := by
        rw [steps, if_neg hrelative]
        split <;> rfl
      rw [hwalk, namesOf?_filterMap]
      by_cases hup : ".." ∈ parts path
      · simp [hup]
      · simp [hup, components]

/-- Just absolute paths and those that go up have no normal form. -/
theorem exists_normalize_eq_error_iff (path : String) :
    (∃ f, normalize path = .error f) ↔ (∃ rest, path = "/" ++ rest) ∨ ".." ∈ parts path := by
  have habsolute : path.toList.head? = some '/' ↔ ∃ rest, path = "/" ++ rest := by
    rw [List.head?_eq_some_iff]
    constructor
    · rintro ⟨rest, hrest⟩
      refine ⟨String.ofList rest, ?_⟩
      rw [← String.toList_inj, hrest]
      simp
    · rintro ⟨rest, rfl⟩
      exact ⟨rest.toList, by simp⟩
  rw [← habsolute, normalize]
  by_cases hstart : path.toList.head? = some '/'
  · simp [hstart]
  · by_cases hup : ".." ∈ parts path <;> simp [hstart, hup]

/-! ### Places -/

/-- Where a path leads if nothing is looked up: the names that are left, from the root of the file system or from the
directory where one is. -/
structure Place where
  absolute : Bool
  names : List String

namespace Place

/-- Follow one part. Going up takes back the last name; from where there is none to take back it leads further up,
unless that is the root of the file system. -/
def follow (p : Place) (part : String) : Place :=
  if part = "" ∨ part = "." then p
  else if part = ".." then
    match p.names.getLast? with
    | none => if p.absolute then p else { p with names := [".."] }
    | some last => { p with names := if last = ".." then p.names ++ [".."] else p.names.dropLast }
  else { p with names := p.names ++ [part] }

/-- The place that is reached by going down. -/
def below (p : Place) (names : List String) : Place := { p with names := p.names ++ names }

theorem follow_empty (p : Place) : p.follow "" = p := if_pos (Or.inl rfl)

/-- Names lead down. -/
theorem foldl_follow {names : List String} (hnames : ∀ name ∈ names, IsName name) (p : Place) :
    names.foldl follow p = p.below names := by
  induction names generalizing p with
  | nil => simp [below]
  | cons name rest ih =>
      obtain ⟨hname, hrest⟩ := List.forall_mem_cons.mp hnames
      have hdown : p.follow name = p.below [name] := by
        rw [follow, if_neg (by simp [hname.ne_empty, hname.ne_dot]), if_neg hname.ne_dots]
        rfl
      rw [List.foldl_cons, hdown, ih hrest]
      simp [below]

end Place

/-- The place of a path. -/
def place (path : String) : Place :=
  (parts path).foldl Place.follow ⟨decide (path.toList.head? = some '/'), []⟩

/-- What stands under a root is absolute just if the root is. -/
theorem head?_onDisk_join {root : String} {names : List String} (hnames : ∀ name ∈ names, IsName name) :
    (Files.onDisk root (join names)).toList.head? = some '/' ↔ root.toList.head? = some '/' := by
  by_cases hne : names = []
  · subst hne
    rfl
  · have hstart : ∀ {above rest : String}, above ≠ "" → (above ++ rest).toList.head? = above.toList.head? := by
      intro above rest hsome
      rw [String.toList_append, List.head?_append_of_ne_nil _ (by simpa using hsome)]
    rcases Files.onDisk_join root hnames hne with ⟨hsome, heq⟩ | ⟨rfl | ⟨above, rfl⟩, heq⟩
    · rw [heq, String.append_assoc, hstart hsome]
    · rw [heq, String.empty_append]
      exact iff_of_false (head?_join_ne_slash hnames) (by simp)
    · rw [heq, hstart (by simp)]

/-- Under a root, names lead to a place below that of the root. -/
theorem place_onDisk_join (root : String) {names : List String} (hnames : ∀ name ∈ names, IsName name) :
    place (Files.onDisk root (join names)) = (place root).below names := by
  by_cases hne : names = []
  · subst hne
    exact (congrArg (Place.mk _) (List.append_nil _)).symm
  · obtain ⟨start, hstart, hparts⟩ := Files.exists_parts_onDisk root hnames hne
    have hroot : (parts root).foldl Place.follow ⟨decide (root.toList.head? = some '/'), []⟩ =
        start.foldl Place.follow ⟨decide (root.toList.head? = some '/'), []⟩ := by
      rcases hstart with heq | heq
      · rw [heq]
      · rw [heq, List.foldl_concat, Place.follow_empty]
    rw [place, place, hroot, hparts, List.foldl_append, Place.foldl_follow hnames]
    simp only [head?_onDisk_join hnames]

/-- Normalizing is exact and keeps paths below their root. Every path falls into parts between its slashes in one way
only. It has no normal form just if it starts with a slash or one of the parts is `..`; otherwise the normal form joins
the parts with slashes, in order, without the empty ones and those that are `.`; and a walk along the path comes to the
same. A normal form is its own normal form, and from every root it leads straight down. -/
theorem normalize_confines (path : String) : ∃ found, Splits path found ∧
    (∀ other, Splits path other → other = found) ∧
    normalizeBySteps path = normalize path ∧
    ((∃ f, normalize path = .error f) ↔ (∃ rest, path = "/" ++ rest) ∨ ".." ∈ found) ∧
    ((¬ ∃ f, normalize path = .error f) →
      normalize path = .ok ("/".intercalate (found.filter fun part => part != "" && part != "."))) ∧
    ∀ normal, normalize path = .ok normal → normalize normal = .ok normal ∧
      ".." ∉ found.filter (fun part => part != "" && part != ".") ∧
      ∀ root, place (Files.onDisk root normal) =
        (place root).below (found.filter fun part => part != "" && part != ".") := by
  refine ⟨parts path, splits_parts path, fun other hother => hother.eq_parts, normalizeBySteps_eq path,
    exists_normalize_eq_error_iff path, ?_, ?_⟩
  · intro hnone
    cases hresult : normalize path with
    | error f => exact absurd ⟨f, hresult⟩ hnone
    | ok normal => rw [(normalize_eq_ok hresult).1]; rfl
  · intro normal hnormal
    obtain ⟨rfl, hnames⟩ := normalize_eq_ok hnormal
    exact ⟨normalize_join hnames, fun hup => (hnames ".." hup).ne_dots rfl, fun root => place_onDisk_join root hnames⟩

/-- Only whole parts count: names may start with dots. -/
example : normalize "./mesh//.cache/./..old/" = .ok "mesh/.cache/..old" := by rfl

end Provision.Path

import Provision.Manifest.Basic
import Provision.Proofs.Keyed
import Provision.Proofs.Manifest.Paths

/-!
The overlays among some files. Directories that contain one path lie one within the other, so of the directories with a
configuration file those that lie in no other one keep apart from each other, and together they contain all of them.
-/

namespace Provision

/-- Looking for a part finds just what stands somewhere in a text. -/
theorem holdsPart_iff (part s : List Char) : holdsPart part s = true ↔ part <:+: s := by
  induction s with
  | nil => simp [holdsPart]
  | cons c rest ih => rw [holdsPart, Bool.or_eq_true, List.isPrefixOf_iff_prefix, ih, List.infix_cons_iff]

theorem Keyed.mem_keys_ofList_iff {κ α : Type} [Ord κ] [Std.LawfulEqOrd κ] {entries : List (κ × α)} {k : κ} :
    k ∈ keys (ofList entries) ↔ k ∈ entries.map Prod.fst := by
  constructor
  · intro hkey
    obtain ⟨entry, hentry, rfl⟩ := List.mem_map.mp hkey
    exact List.mem_map_of_mem (mem_ofList hentry)
  · intro hkey
    have hfound : (get? (ofList entries) k).isSome := by
      induction entries using List.reverseRecOn with
      | nil => simp at hkey
      | append_singleton front entry ih =>
          have hlast : ofList (front ++ [entry]) = insert (ofList front) entry.1 entry.2 := List.foldl_concat ..
          rw [hlast]
          by_cases hk : k = entry.1
          · rw [hk, get?_insert_self]
            rfl
          · rw [get?_insert_of_ne _ _ hk]
            exact ih (by simpa [hk] using hkey)
    obtain ⟨v, hv⟩ := Option.isSome_iff_exists.mp hfound
    exact List.mem_map_of_mem (mem_of_get? hv)

namespace Path

/-- A path is a directory or lies below it; everything lies in the root of the files. -/
def Within (path dir : String) : Prop :=
  dir = "" ∨ path = dir ∨ ∃ rest, path = dir ++ "/" ++ rest

variable {path dir dir' : String}

theorem isWithin_eq (path dir : String) : isWithin path dir = (path == dir || isBelow path dir) := by
  have hself : path = dir ↔ afterStart? dir path = some [] := by
    rw [afterStart?_eq_some_iff, String.ofList_nil, String.append_empty]
  rw [isWithin, isBelow, Bool.eq_iff_iff]
  simp only [Bool.or_eq_true, beq_iff_eq, hself]
  split <;> simp_all

theorem isWithin_iff : isWithin path dir = true ↔ Within path dir := by
  rw [isWithin_eq, Bool.or_eq_true, beq_iff_eq, isBelow_iff, Within]
  exact or_left_comm

/-! ### Cutting off the last part -/

theorem parts_ne_nil (path : String) : parts path ≠ [] := by
  simp [parts, pieces_ne_nil]

theorem join_map_ofList (ps : List (List Char)) : join (ps.map String.ofList) = String.ofList (joinPieces '/' ps) := by
  induction ps with
  | nil => rfl
  | cons p rest ih =>
      cases rest with
      | nil => rfl
      | cons q qs =>
          rw [List.map_cons, join_cons _ (by simp), ih, joinPieces, ← String.toList_inj]
          simp

/-- The parts of a path with slashes between them are the path again. -/
theorem join_parts (path : String) : join (parts path) = path := by
  rw [parts, join_map_ofList, joinPieces_pieces, String.ofList_toList]

theorem fileName_eq_getLast (path : String) : fileName path = (parts path).getLast (parts_ne_nil path) := by
  rw [fileName, List.getLast?_eq_some_getLast (parts_ne_nil path)]
  rfl

/-- A path is its last part, or that comes after the directory and a slash. -/
theorem eq_parentDir_or (path : String) :
    parentDir path = "" ∧ path = fileName path ∨ path = parentDir path ++ "/" ++ fileName path := by
  have hsplit : (parts path).dropLast ++ [fileName path] = parts path := by
    rw [fileName_eq_getLast, List.dropLast_append_getLast]
  by_cases hfirst : (parts path).dropLast = []
  · left
    rw [hfirst, List.nil_append] at hsplit
    constructor
    · rw [parentDir, hfirst]
      rfl
    · have hone : join [fileName path] = fileName path := rfl
      rw [← hone, hsplit, join_parts]
  · right
    have hcut : join ((parts path).dropLast ++ [fileName path]) = parentDir path ++ "/" ++ fileName path :=
      join_append hfirst (List.cons_ne_nil _ _)
    rw [← hcut, hsplit, join_parts]

/-- A file lies in the directory that holds it. -/
theorem within_parentDir (path : String) : Within path (parentDir path) := by
  rcases eq_parentDir_or path with ⟨hroot, -⟩ | hcut
  · exact Or.inl hroot
  · exact Or.inr (Or.inr ⟨fileName path, hcut⟩)

/-! ### The order of directories -/

/-- What lies in a directory goes on from its parts. -/
theorem within_iff_parts : Within path dir ↔ dir = "" ∨ parts dir <+: parts path := by
  refine or_congr_right ?_
  constructor
  · rintro (rfl | ⟨rest, rfl⟩)
    · exact List.prefix_rfl
    · rw [parts_append]
      exact List.prefix_append _ _
  · rintro ⟨more, hmore⟩
    by_cases hnone : more = []
    · left
      rw [← join_parts path, ← hmore, hnone, List.append_nil, join_parts]
    · right
      refine ⟨join more, ?_⟩
      rw [← join_parts path, ← hmore, join_append (parts_ne_nil dir) hnone, join_parts]

theorem within_root_iff : Within "" dir ↔ dir = "" := by
  constructor
  · rintro (hroot | hroot | ⟨rest, hrest⟩)
    · exact hroot
    · exact hroot.symm
    · have hlength := congrArg String.length hrest
      have hslash : "/".length = 1 := rfl
      simp only [String.length_append, String.length_empty] at hlength
      omega
  · exact Or.inl

theorem Within.refl (path : String) : Within path path := Or.inr (Or.inl rfl)

theorem Within.trans {inner : String} (hinner : Within inner path) (hpath : Within path dir) : Within inner dir := by
  rcases hinner with rfl | rfl | ⟨rest, rfl⟩
  · exact Or.inl (within_root_iff.mp hpath)
  · exact hpath
  · rcases hpath with rfl | rfl | ⟨between, rfl⟩
    · exact Or.inl rfl
    · exact Or.inr (Or.inr ⟨rest, rfl⟩)
    · exact Or.inr (Or.inr ⟨between ++ "/" ++ rest, by simp only [String.append_assoc]⟩)

/-- What lies in a directory and is not that directory has a longer path. -/
theorem Within.length_lt (hwithin : Within path dir) (hne : path ≠ dir) : dir.length < path.length := by
  rcases hwithin with rfl | rfl | ⟨rest, rfl⟩
  · have hpositive : path.length ≠ 0 := by simpa using hne
    simp only [String.length_empty]
    omega
  · exact absurd rfl hne
  · simp only [String.length_append]
    have hslash : "/".length = 1 := rfl
    omega

/-- Of two directories that contain one path, one contains the other. -/
theorem Within.total (hdir : Within path dir) (hdir' : Within path dir') : Within dir dir' ∨ Within dir' dir := by
  simp only [within_iff_parts] at *
  rcases hdir with rfl | hdir
  · exact Or.inr (Or.inl rfl)
  · rcases hdir' with rfl | hdir'
    · exact Or.inl (Or.inl rfl)
    · rcases List.prefix_or_prefix_of_prefix hdir hdir' with hprefix | hprefix
      · exact Or.inr (Or.inr hprefix)
      · exact Or.inl (Or.inr hprefix)

end Path

namespace Manifest

variable {files : List String} {dir root root' path : String}

/-! ### Overlays -/

theorem mem_overlayDirs_iff :
    dir ∈ overlayDirs files ↔ ∃ file ∈ files, Path.isOverlayConfig file = true ∧ Path.parentDir file = dir := by
  rw [overlayDirs, Keyed.mem_keys_ofList_iff, List.map_map]
  simp [and_assoc]

theorem nodup_overlayDirs (files : List String) : (overlayDirs files).Nodup :=
  (Keyed.sorted_ofList _).nodup_keys

/-- An overlay is a directory with a configuration file that lies in no other one. -/
theorem mem_overlayRoots_iff : root ∈ overlayRoots files ↔
    root ∈ overlayDirs files ∧ ∀ other ∈ overlayDirs files, Path.Within root other → other = root := by
  simp only [overlayRoots, List.mem_filter, Bool.not_eq_true', List.any_eq_false, Bool.and_eq_true, bne_iff_ne,
    Path.isWithin_iff, not_and, not_imp_not]

/-- No overlay lies in another one. -/
theorem eq_of_within (hroot : root ∈ overlayRoots files) (hroot' : root' ∈ overlayRoots files)
    (hwithin : Path.Within root root') : root' = root :=
  (mem_overlayRoots_iff.mp hroot).2 root' (mem_overlayRoots_iff.mp hroot').1 hwithin

/-- Some directories keep apart: nothing lies in two of them. -/
def Apart (dirs : List String) : Prop :=
  ∀ dir ∈ dirs, ∀ dir' ∈ dirs, ∀ path, Path.Within path dir → Path.Within path dir' → dir = dir'

theorem apart_overlayRoots (files : List String) : Apart (overlayRoots files) := by
  intro root hroot root' hroot' path hpath hpath'
  rcases hpath.total hpath' with hwithin | hwithin
  · exact (eq_of_within hroot hroot' hwithin).symm
  · exact eq_of_within hroot' hroot hwithin

/-- Every directory with a configuration file lies in an overlay: going out from it, the paths get shorter. -/
theorem exists_overlay (hdir : dir ∈ overlayDirs files) : ∃ root ∈ overlayRoots files, Path.Within dir root := by
  induction hlength : dir.length using Nat.strong_induction_on generalizing dir with
  | h n ih =>
      by_cases hroot : ∀ other ∈ overlayDirs files, Path.Within dir other → other = dir
      · exact ⟨dir, mem_overlayRoots_iff.mpr ⟨hdir, hroot⟩, Path.Within.refl dir⟩
      · push Not at hroot
        obtain ⟨other, hother, hwithin, hne⟩ := hroot
        have hshorter : other.length < n := hlength ▸ hwithin.length_lt (Ne.symm hne)
        obtain ⟨root, hroot, houter⟩ := ih other.length hshorter hother rfl
        exact ⟨root, hroot, hwithin.trans houter⟩

/-- What is known of the overlays among some files: no two of them lie one within the other, each has a configuration
file right below it, and every directory with one lies within exactly one of them. -/
structure Partition (files roots : List String) : Prop where
  distinct : roots.Nodup
  apart : ∀ root ∈ roots, ∀ root' ∈ roots, Path.Within root root' → root = root'
  above : ∀ root ∈ roots, ∃ file ∈ files, Path.isOverlayConfig file = true ∧ Path.parentDir file = root
  covers : ∀ file ∈ files, Path.isOverlayConfig file = true →
    ∃! root, root ∈ roots ∧ Path.Within (Path.parentDir file) root

theorem partition_overlayRoots (files : List String) : Partition files (overlayRoots files) where
  distinct := (nodup_overlayDirs files).filter _
  apart root hroot root' hroot' hwithin := (eq_of_within hroot hroot' hwithin).symm
  above root hroot := mem_overlayDirs_iff.mp (mem_overlayRoots_iff.mp hroot).1
  covers file hfile hconfig := by
    obtain ⟨root, hroot, hwithin⟩ := exists_overlay (mem_overlayDirs_iff.mpr ⟨file, hfile, hconfig, rfl⟩)
    refine ⟨root, ⟨hroot, hwithin⟩, ?_⟩
    rintro other ⟨hother, hwithin'⟩
    exact apart_overlayRoots files other hother root hroot _ hwithin' hwithin

end Manifest

end Provision

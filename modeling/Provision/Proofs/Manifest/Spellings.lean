import Provision.Proofs.Manifest.LoadedOnce

/-!
Under which spellings of a path a text in memory is found again. A text is held under its path without the dots and
slashes at the ends. A lookup asks for the normal form, which also drops slashes that are doubled and dots that stand
further inside. The two agree just on the paths that have nothing to drop inside; a text that is held under any other
spelling is not found at the normal form of its path.
-/

namespace Provision

namespace Files

/-! ### Spellings that are held alike -/

/-- What is dropped at the start is `./` some times. -/
theorem exists_eq_dropDots (s : List Char) : ∃ dots, s = (List.replicate dots ['.', '/']).flatten ++ dropDots s := by
  fun_induction dropDots s with
  | case1 rest ih =>
      obtain ⟨dots, hdots⟩ := ih
      refine ⟨dots + 1, ?_⟩
      rw [List.replicate_succ, List.flatten_cons, List.append_assoc, ← hdots]
      rfl
  | case2 s => exact ⟨0, rfl⟩

theorem exists_eq_dropWhile_slash (s : List Char) :
    ∃ slashes, s = List.replicate slashes '/' ++ s.dropWhile (· = '/') := by
  refine ⟨(s.takeWhile (· = '/')).length, ?_⟩
  have hslashes : s.takeWhile (· = '/') = List.replicate (s.takeWhile (· = '/')).length '/' := by
    rw [List.eq_replicate_iff]
    exact ⟨rfl, fun c hc => by simpa using List.all_eq_true.mp List.all_takeWhile c hc⟩
  rw [← hslashes, List.takeWhile_append_dropWhile]

/-- Every path is what it is held under, with something around it. -/
theorem exists_eq_padded_heldPath (path : String) :
    ∃ dots slashes trailing, path = padded dots slashes trailing (heldPath path) := by
  obtain ⟨dots, hdots⟩ := exists_eq_dropDots path.toList
  obtain ⟨slashes, hslashes⟩ := exists_eq_dropWhile_slash (dropDots path.toList)
  obtain ⟨trailing, htrailing⟩ := exists_eq_dropWhile_slash ((dropDots path.toList).dropWhile (· = '/')).reverse
  have hend := congrArg List.reverse htrailing
  rw [List.reverse_append, List.reverse_reverse, List.reverse_replicate] at hend
  refine ⟨dots, slashes, trailing, ?_⟩
  rw [← String.toList_inj, padded, heldPath, String.toList_ofList, String.toList_ofList, List.append_assoc, ← hend,
    List.append_assoc, ← hslashes, ← hdots]

/-- A path is held under its normal form just if it is that normal form with something around it. -/
theorem heldPath_eq_iff {path normal : String} (hnormal : Path.normalize path = .ok normal) (hsome : normal ≠ "") :
    heldPath path = normal ↔ ∃ dots slashes trailing, path = padded dots slashes trailing normal := by
  constructor
  · rintro rfl
    exact exists_eq_padded_heldPath path
  · rintro ⟨dots, slashes, trailing, heq⟩
    obtain ⟨hjoin, hnames⟩ := Path.normalize_eq_ok hnormal
    rw [heq, hjoin]
    refine heldPath_padded hnames ?_ dots slashes trailing
    rintro hnil
    rw [hnil] at hjoin
    exact hsome hjoin

/-! ### Reading what is held -/

variable {texts : Keyed String String} {path normal text : String}

theorem read_hold_self (texts : Keyed String String) (path text : String) :
    read (.memory (hold texts path text)) (heldPath path) = .ok text := by
  simp only [read, hold, Keyed.get?_insert_self]

theorem read_hold_of_ne (texts : Keyed String String) (text : String) {other : String} (hne : other ≠ heldPath path) :
    read (.memory (hold texts path text)) other = read (.memory texts) other := by
  simp only [read, hold, Keyed.get?_insert_of_ne _ _ hne]

/-- In memory just the paths can be read under which texts are held. -/
theorem contains_of_read (hread : read (.memory texts) path = .ok text) : Keyed.contains texts path = true := by
  unfold read at hread
  cases hget : Keyed.get? texts path with
  | none => simp [hget] at hread
  | some _ => simp [Keyed.contains, hget]

end Files

namespace Manifest

/-- The overlay of a single file is its directory, if it is a configuration file. -/
theorem overlayRoots_singleton (file : String) :
    overlayRoots [file] = if Path.isOverlayConfig file then [Path.parentDir file] else [] := by
  by_cases hconfig : Path.isOverlayConfig file
  · have hdirs : overlayDirs [file] = [Path.parentDir file] := by
      rw [overlayDirs, List.filter_cons_of_pos hconfig]
      rfl
    simp [overlayRoots, hdirs, hconfig]
  · have hdirs : overlayDirs [file] = [] := by
      rw [overlayDirs, List.filter_cons_of_neg hconfig]
      rfl
    simp [overlayRoots, hdirs, hconfig]

/-- What is loaded of a single file. -/
theorem loadFiles_singleton {files : Files} {file content : String} (hread : files.read file = .ok content) :
    loadFiles files (overlayRoots [file]) [] [file] =
      if Path.isOverlayConfig file then .ok [.overlay (Path.parentDir file) files]
      else (ofFile file content).map fun man => [man] := by
  rw [overlayRoots_singleton]
  by_cases hconfig : Path.isOverlayConfig file
  · have hwithin := Path.isWithin_iff.mpr (Path.within_parentDir file)
    simp [hconfig, loadFiles, hwithin, Except.map]
  · simp only [hconfig, Bool.false_eq_true, if_false, loadFiles, List.find?_nil, hread, bind, Except.bind]
    cases ofFile file content <;> rfl

/-- A text that can be read in memory at the normal form of a path is loaded from that path, and nothing else. -/
theorem load_of_read {texts : Keyed String String} {path normal text : String}
    (hnormal : Path.normalize path = .ok normal) (hread : (Files.memory texts).read normal = .ok text) :
    load (.memory texts) path =
      if Path.isOverlayConfig normal then .ok [.overlay (Path.parentDir normal) (.memory texts)]
      else (ofFile normal text).map fun man => [man] := by
  have hheld := Files.contains_of_read hread
  have hthere : (Files.memory texts).contains normal = true := by simp [Files.contains, hheld]
  have hwalk : (Files.memory texts).walk normal = .ok [normal] := if_pos hheld
  rw [load_of_contains hnormal hthere hwalk, loadFiles_singleton hread]

/-- Which spellings of a path are found again. A text that is held under a path can be read at the normal form of the
path, whatever else is held, just if the path is that normal form with nothing around it but `./` and slashes before it and
slashes behind it. Then loading from the path finds that file and no other. Under any other spelling, what is read at
the normal form is what was read there before. -/
theorem found_as_spelled {path normal : String} (hnormal : Path.normalize path = .ok normal) (hsome : normal ≠ "") :
    ((∀ texts text, (Files.memory (Files.hold texts path text)).read normal = .ok text) ↔
      ∃ dots slashes trailing, path = Files.padded dots slashes trailing normal) ∧
    ((∃ dots slashes trailing, path = Files.padded dots slashes trailing normal) → ∀ texts text,
      load (.memory (Files.hold texts path text)) path =
        if Path.isOverlayConfig normal then .ok [.overlay (Path.parentDir normal) (.memory (Files.hold texts path text))]
        else (ofFile normal text).map fun man => [man]) ∧
    ((¬ ∃ dots slashes trailing, path = Files.padded dots slashes trailing normal) → ∀ texts text,
      (Files.memory (Files.hold texts path text)).read normal = (Files.memory texts).read normal) := by
  rw [← Files.heldPath_eq_iff hnormal hsome]
  refine ⟨⟨?_, ?_⟩, ?_, ?_⟩
  · intro hfound
    by_contra hne
    have hread := hfound [] ""
    rw [Files.read_hold_of_ne [] "" (Ne.symm hne)] at hread
    cases hread
  · rintro rfl texts text
    exact Files.read_hold_self texts path text
  · intro hheld texts text
    have hread := Files.read_hold_self texts path text
    rw [hheld] at hread
    exact load_of_read hnormal hread
  · intro hne texts text
    exact Files.read_hold_of_ne texts text (Ne.symm hne)

/-! ### Slashes before, behind and between -/

namespace DoubledSlash

/-- Dots and slashes around a path do no harm. -/
theorem found_with_slashes_around : Path.normalize ".//mesh/gateway.tmpl/" = .ok "mesh/gateway.tmpl" ∧
    load (.memory (Files.hold [] ".//mesh/gateway.tmpl/" "a")) ".//mesh/gateway.tmpl/" =
      .ok [.template "mesh/gateway.tmpl" false "a"] := by
  have hnormal : Path.normalize ".//mesh/gateway.tmpl/" = .ok "mesh/gateway.tmpl" := by rfl
  refine ⟨hnormal, ?_⟩
  rw [(found_as_spelled hnormal (by decide)).2.1 ⟨1, 1, 1, by rfl⟩ [] "a"]
  rfl

/-- A slash that is doubled inside does: the text is held, but not where it is looked for. -/
theorem not_found_with_slash_inside : Path.normalize "mesh//gateway.tmpl" = .ok "mesh/gateway.tmpl" ∧
    (Files.memory (Files.hold [] "mesh//gateway.tmpl" "a")).read "mesh/gateway.tmpl" ≠ .ok "a" ∧
    load (.memory (Files.hold [] "mesh//gateway.tmpl" "a")) "mesh//gateway.tmpl" =
      .error (.manifest "mesh/gateway.tmpl" "no such file or directory") := by
  refine ⟨by rfl, ?_, by rfl⟩
  intro hread
  cases hread

end DoubledSlash

end Manifest

end Provision

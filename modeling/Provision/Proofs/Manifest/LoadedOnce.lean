import Provision.Proofs.Manifest.Roots
import Provision.Proofs.Manifest.SameFiles

/-!
How often a file is loaded. A file that lies in an overlay is loaded with it, and every other file has a manifest for
each time that its path is listed. Of the files of an overlay the first brings it in and the others are passed over, so
the manifests come in the order of the first files that they stand for. On disk, names that are no texts may look like
other names; then one path is listed more than once, and so its manifest is loaded again. If all names are texts, no
path is listed twice, and every file is loaded exactly once.
-/

namespace Provision

/-! ### Listing -/

namespace Files

/-- Texts in memory are held in the order of their paths. -/
def Sorted : Files → Prop
  | memory texts => Keyed.Sorted texts
  | disk _ _ => True

/-- All names on disk are texts. -/
def Named : Files → Prop
  | memory _ => True
  | disk _ tree => tree.Named

variable {files : Files} {found : List String}

/-- A listing is known by what is listed and by its order. -/
theorem walk_disk_eq_ok {root path : String} {top : Disk.Node} {listed : List String}
    (hwalk : (Disk.walk top (onDisk root path) ((Path.components path).map RawText.ofText)).map (List.map shownPath) =
      .ok listed)
    (hperm : found.Perm listed) (hsorted : found.Pairwise fun a b => compare a b ≠ .gt) :
    walk (.disk root top) path = .ok found := by
  obtain ⟨names, hnames, rfl⟩ := except_map_eq_ok_iff.mp hwalk
  have hsame : (names.map shownPath).mergeSort (fun a b => compare a b != .gt) = found := by
    refine List.Perm.eq_of_pairwise ?_ (pairwise_mergeSort _) hsorted ((List.mergeSort_perm _ _).trans hperm.symm)
    intro a b _ _ hab hba
    exact eq_of_compare_ne_gt hab hba
  simp only [walk, hnames, hsame]

/-- What is listed of a tree are the files at or below one of its nodes. -/
theorem exists_of_diskWalk {kind : RawText → Prop} {top : Disk.Node} {path : String} {here : List RawText}
    {found : List (List RawText)} (hkept : top.Kept kind) (hwalk : Disk.walk top path here = .ok found) :
    found = [] ∨ ∃ n : Disk.Node, n.Kept kind ∧ found = Disk.filesAt here n := by
  unfold Disk.walk at hwalk
  split at hwalk
  · cases hwalk
  · split at hwalk
    · cases hwalk
    · next entries hfollow =>
        cases hwalk
        exact Or.inr ⟨.dir entries, Disk.kept_of_find hkept hfollow, rfl⟩
    · cases hwalk
      exact Or.inl rfl
  · next n _ hfind =>
      cases hwalk
      exact Or.inr ⟨n, Disk.kept_of_find hkept hfind, rfl⟩

/-- Files are listed in the order of their paths. -/
theorem sorted_walk (hsorted : files.Sorted) {path : String} (hwalk : files.walk path = .ok found) :
    found.Pairwise fun a b => compare a b ≠ .gt := by
  cases files with
  | memory texts =>
      have hkeys : (Keyed.keys texts).Pairwise fun a b => compare a b ≠ .gt := by
        refine List.pairwise_map.mpr (List.Pairwise.imp ?_ hsorted)
        intro a b hless
        simp [hless]
      rw [walk] at hwalk
      split at hwalk
      · cases hwalk
        exact List.pairwise_singleton _ _
      · cases hwalk
        exact hkeys.filter _
  | disk root top =>
      rw [walk] at hwalk
      split at hwalk
      · cases hwalk
      · cases hwalk
        exact pairwise_mergeSort _

/-- If all names are texts, no path is listed twice. -/
theorem nodup_walk (hsorted : files.Sorted) (hnamed : files.Named) {path normal : String}
    (hnormal : Path.normalize path = .ok normal) (hwalk : files.walk normal = .ok found) : found.Nodup := by
  obtain ⟨rfl, hnames⟩ := Path.normalize_eq_ok hnormal
  cases files with
  | memory texts =>
      rw [walk] at hwalk
      split at hwalk
      · cases hwalk
        exact List.nodup_singleton _
      · cases hwalk
        exact (Keyed.Sorted.nodup_keys hsorted).filter _
  | disk root top =>
      have hhere : ∀ name ∈ (Path.components path).map RawText.ofText, Disk.TextName name :=
        List.forall_mem_map.mpr fun name hname => ⟨name, hnames name hname, rfl⟩
      rw [walk, Path.components_join hnames] at hwalk
      split at hwalk
      · cases hwalk
      · next listed hdisk =>
          cases hwalk
          rw [(List.mergeSort_perm _ _).nodup_iff]
          rcases exists_of_diskWalk hnamed hdisk with rfl | ⟨n, hn, rfl⟩
          · exact List.nodup_nil
          · exact Disk.nodup_paths hn hhere

end Files

namespace Manifest

section Loading

/-! ### What a manifest stands for -/

/-- Whether a manifest stands for a file: an overlay for all that lie in it, any other one for its own. -/
def standsFor : Manifest → String → Bool
  | raw path _ _, file => file == path
  | template path _ _, file => file == path
  | overlay root _, file => Path.isWithin file root

/-- Where the first of some files stands that a manifest stands for. -/
def firstOf (found : List String) (man : Manifest) : Nat :=
  found.findIdx man.standsFor

/-- A manifest is that of a single file: it has the path of the file, is a template just if the file name says so, is to
be merged just if the file name says so, and has what is read from the file. -/
def IsOf (files : Files) (file : String) : Manifest → Prop
  | raw path patch objects => path = file ∧ ¬ ".tmpl".toList <:+: (Path.fileName file).toList ∧
    (patch = true ↔ ".patch".toList <:+: (Path.fileName file).toList) ∧
    ∃ content, files.read file = .ok content ∧ parseDocuments file content = .ok objects
  | template path patch content => path = file ∧ ".tmpl".toList <:+: (Path.fileName file).toList ∧
    (patch = true ↔ ".patch".toList <:+: (Path.fileName file).toList) ∧ files.read file = .ok content
  | overlay _ _ => False

variable {files : Files} {file content : String} {man : Manifest}

theorem isOf_of_ofFile (hread : files.read file = .ok content) (hman : ofFile file content = .ok man) :
    man.IsOf files file := by
  unfold ofFile at hman
  split at hman
  · next htemplate =>
      cases hman
      exact ⟨rfl, (holdsPart_iff _ _).mp htemplate, holdsPart_iff _ _, hread⟩
  · next htemplate =>
      obtain ⟨objects, hobjects, rfl⟩ := except_map_eq_ok_iff.mp hman
      exact ⟨rfl, mt (holdsPart_iff _ _).mpr htemplate, holdsPart_iff _ _, content, hread, hobjects⟩

theorem IsOf.path_eq (hman : man.IsOf files file) : man.path = file := by
  cases man with
  | raw path patch objects => exact hman.1
  | template path patch content => exact hman.1
  | overlay root held => exact absurd hman id

/-- The manifest of a file is decided by what is read from it. -/
theorem IsOf.unique {man' : Manifest} (hman : man.IsOf files file) (hman' : man'.IsOf files file) : man = man' := by
  cases man with
  | raw path patch objects =>
      cases man' with
      | raw path' patch' objects' =>
          obtain ⟨rfl, -, hpatch, content, hread, hobjects⟩ := hman
          obtain ⟨rfl, -, hpatch', content', hread', hobjects'⟩ := hman'
          obtain rfl : content = content' := Except.ok.inj (hread.symm.trans hread')
          obtain rfl : objects = objects' := Except.ok.inj (hobjects.symm.trans hobjects')
          rw [Bool.eq_iff_iff.mpr (hpatch.trans hpatch'.symm)]
      | template path' patch' content' => exact absurd hman'.2.1 hman.2.1
      | overlay root held => exact absurd hman' id
  | template path patch content =>
      cases man' with
      | raw path' patch' objects' => exact absurd hman.2.1 hman'.2.1
      | template path' patch' content' =>
          obtain ⟨rfl, -, hpatch, hread⟩ := hman
          obtain ⟨rfl, -, hpatch', hread'⟩ := hman'
          obtain rfl : content = content' := Except.ok.inj (hread.symm.trans hread')
          rw [Bool.eq_iff_iff.mpr (hpatch.trans hpatch'.symm)]
      | overlay root held => exact absurd hman' id
  | overlay root held => exact absurd hman id

theorem IsOf.standsFor_iff (hman : man.IsOf files file) {other : String} :
    man.standsFor other = true ↔ other = file := by
  obtain rfl := hman.path_eq
  cases man with
  | raw path patch objects => exact beq_iff_eq
  | template path patch content => exact beq_iff_eq
  | overlay root held => exact absurd hman id

/-! ### One file after the other -/

/-- A file lies in no overlay. -/
def Outside (roots : List String) (file : String) : Prop :=
  ∀ root ∈ roots, ¬ Path.Within file root

/-- How manifests are loaded: a file in an overlay brings it in unless that is loaded, and any other file brings in its
own manifest. -/
inductive Loads (files : Files) (roots : List String) : List String → List String → List Manifest → Prop
  | done (loaded : List String) : Loads files roots loaded [] []
  | again {loaded rest : List String} {file root : String} {manifests : List Manifest} (hroot : root ∈ roots)
      (hwithin : Path.Within file root) (hloaded : root ∈ loaded) (hrest : Loads files roots loaded rest manifests) :
      Loads files roots loaded (file :: rest) manifests
  | overlay {loaded rest : List String} {file root : String} {manifests : List Manifest} (hroot : root ∈ roots)
      (hwithin : Path.Within file root) (hloaded : root ∉ loaded)
      (hrest : Loads files roots (root :: loaded) rest manifests) :
      Loads files roots loaded (file :: rest) (.overlay root files :: manifests)
  | single {loaded rest : List String} {file : String} {man : Manifest} {manifests : List Manifest}
      (houtside : Outside roots file) (hman : man.IsOf files file) (hrest : Loads files roots loaded rest manifests) :
      Loads files roots loaded (file :: rest) (man :: manifests)

variable {roots loaded found : List String} {manifests : List Manifest}

theorem loads_of_loadFiles (hload : loadFiles files roots loaded found = .ok manifests) :
    Loads files roots loaded found manifests := by
  induction found generalizing loaded manifests with
  | nil =>
      cases hload
      exact .done loaded
  | cons file rest ih =>
      rw [loadFiles] at hload
      split at hload
      · next root hfind =>
          have hroot := List.mem_of_find?_eq_some hfind
          have hwithin := Path.isWithin_iff.mp (List.find?_some hfind)
          by_cases hloaded : root ∈ loaded
          · rw [if_pos (List.contains_iff_mem.mpr hloaded)] at hload
            exact .again hroot hwithin hloaded (ih hload)
          · rw [if_neg (mt List.contains_iff_mem.mp hloaded)] at hload
            obtain ⟨others, hothers, rfl⟩ := except_map_eq_ok_iff.mp hload
            exact .overlay hroot hwithin hloaded (ih hothers)
      · next hfind =>
          have houtside : Outside roots file := by
            intro root hroot hwithin
            exact List.find?_eq_none.mp hfind root hroot (Path.isWithin_iff.mpr hwithin)
          obtain ⟨content, hread, hload⟩ := except_bind_eq_ok_iff.mp hload
          obtain ⟨man, hman, hload⟩ := except_bind_eq_ok_iff.mp hload
          obtain ⟨others, hothers, hload⟩ := except_bind_eq_ok_iff.mp hload
          cases hload
          exact .single houtside (isOf_of_ofFile hread hman) (ih hothers)

namespace Loads

/-- Nothing is loaded but overlays that were not loaded yet, and the manifests of files outside of all overlays. -/
theorem sound (hloads : Loads files roots loaded found manifests) : ∀ man ∈ manifests,
    (∃ root ∈ roots, root ∉ loaded ∧ man = .overlay root files) ∨
      ∃ file ∈ found, Outside roots file ∧ man.IsOf files file := by
  induction hloads with
  | done loaded => simp
  | again hroot hwithin hloaded hrest ih =>
      intro man hman
      rcases ih man hman with hoverlay | ⟨file, hfile, hof⟩
      · exact Or.inl hoverlay
      · exact Or.inr ⟨file, List.mem_cons_of_mem _ hfile, hof⟩
  | @overlay loaded rest file root manifests hroot hwithin hloaded hrest ih =>
      intro man hman
      rcases List.mem_cons.mp hman with rfl | hman
      · exact Or.inl ⟨root, hroot, hloaded, rfl⟩
      · rcases ih man hman with ⟨root', hroot', hnew, rfl⟩ | ⟨file, hfile, hof⟩
        · exact Or.inl ⟨root', hroot', fun hin => hnew (List.mem_cons_of_mem _ hin), rfl⟩
        · exact Or.inr ⟨file, List.mem_cons_of_mem _ hfile, hof⟩
  | @single loaded rest file first manifests houtside hfirst hrest ih =>
      intro man hman
      rcases List.mem_cons.mp hman with rfl | hman
      · exact Or.inr ⟨file, List.mem_cons_self, houtside, hfirst⟩
      · rcases ih man hman with hoverlay | ⟨file, hfile, hof⟩
        · exact Or.inl hoverlay
        · exact Or.inr ⟨file, List.mem_cons_of_mem _ hfile, hof⟩

/-- For every file there is a manifest, unless it lies in an overlay that was loaded before. -/
theorem complete (hloads : Loads files roots loaded found manifests) : ∀ file ∈ found,
    (∃ root ∈ loaded, Path.Within file root) ∨ ∃ man ∈ manifests, man.standsFor file = true := by
  induction hloads with
  | done loaded => simp
  | again hroot hwithin hloaded hrest ih =>
      intro file hfile
      rcases List.mem_cons.mp hfile with rfl | hfile
      · exact Or.inl ⟨_, hloaded, hwithin⟩
      · exact ih file hfile
  | @overlay loaded rest first root manifests hroot hwithin hloaded hrest ih =>
      intro file hfile
      have hthere (hin : Path.Within file root) :
          ∃ man ∈ Manifest.overlay root files :: manifests, man.standsFor file = true :=
        ⟨_, List.mem_cons_self, Path.isWithin_iff.mpr hin⟩
      rcases List.mem_cons.mp hfile with rfl | hfile
      · exact Or.inr (hthere hwithin)
      · rcases ih file hfile with ⟨root', hroot', hin⟩ | ⟨man, hman, hstands⟩
        · rcases List.mem_cons.mp hroot' with rfl | hold
          · exact Or.inr (hthere hin)
          · exact Or.inl ⟨root', hold, hin⟩
        · exact Or.inr ⟨man, List.mem_cons_of_mem _ hman, hstands⟩
  | single houtside hman hrest ih =>
      intro file hfile
      rcases List.mem_cons.mp hfile with rfl | hfile
      · exact Or.inr ⟨_, List.mem_cons_self, hman.standsFor_iff.mpr rfl⟩
      · rcases ih file hfile with hbefore | ⟨man, hman, hstands⟩
        · exact Or.inl hbefore
        · exact Or.inr ⟨man, List.mem_cons_of_mem _ hman, hstands⟩

/-- A file of an overlay that is loaded has no other manifest. -/
theorem not_standsFor_within (hloads : Loads files roots loaded found manifests) (hapart : Apart roots) {root : String}
    (hroot : root ∈ roots) (hloaded : root ∈ loaded) (hwithin : Path.Within file root) :
    ∀ man ∈ manifests, ¬ man.standsFor file = true := by
  intro man hman hstands
  rcases hloads.sound man hman with ⟨root', hroot', hnew, rfl⟩ | ⟨other, -, houtside, hof⟩
  · rw [hapart root hroot root' hroot' file hwithin (Path.isWithin_iff.mp hstands)] at hloaded
    exact hnew hloaded
  · rw [hof.standsFor_iff.mp hstands] at hwithin
    exact houtside root hroot hwithin

/-- A file outside of all overlays that does not come again has no other manifest. -/
theorem not_standsFor_outside (hloads : Loads files roots loaded found manifests) (houtside : Outside roots file)
    (hnew : file ∉ found) : ∀ man ∈ manifests, ¬ man.standsFor file = true := by
  intro man hman hstands
  rcases hloads.sound man hman with ⟨root, hroot, -, rfl⟩ | ⟨other, hother, -, hof⟩
  · exact houtside root hroot (Path.isWithin_iff.mp hstands)
  · rw [hof.standsFor_iff.mp hstands] at hnew
    exact hnew hother

/-- An overlay that is loaded is not loaded again, and no other manifest has its path. -/
theorem path_ne_of_loaded (hloads : Loads files roots loaded found manifests) {root : String} (hroot : root ∈ roots)
    (hloaded : root ∈ loaded) : ∀ man ∈ manifests, man.path ≠ root := by
  rintro man hman rfl
  rcases hloads.sound man hman with ⟨root', -, hnew, rfl⟩ | ⟨file, -, houtside, hof⟩
  · exact hnew hloaded
  · rw [hof.path_eq] at hroot
    exact houtside file hroot (Path.Within.refl file)

/-- An overlay is loaded once, however many files lie in it. -/
theorem filter_overlay (hloads : Loads files roots loaded found manifests) (hapart : Apart roots) {root : String}
    (hroot : root ∈ roots) (hnew : root ∉ loaded) (hfile : ∃ file ∈ found, Path.Within file root) :
    manifests.filter (fun man => man.path = root) = [.overlay root files] := by
  induction hloads with
  | done loaded => simp at hfile
  | @again loaded rest file root' manifests hroot' hwithin hloaded hrest ih =>
      refine ih hnew ?_
      obtain ⟨other, hother, hin⟩ := hfile
      rcases List.mem_cons.mp hother with rfl | hlater
      · rw [hapart root' hroot' root hroot other hwithin hin] at hloaded
        exact absurd hloaded hnew
      · exact ⟨other, hlater, hin⟩
  | @overlay loaded rest file root' manifests hroot' hwithin hloaded hrest ih =>
      by_cases hsame : root' = root
      · subst hsame
        have hnone := hrest.path_ne_of_loaded hroot List.mem_cons_self
        rw [List.filter_cons_of_pos (by simp [path]), List.filter_eq_nil_iff.mpr (by simpa using hnone)]
      · have hne : (Manifest.overlay root' files).path ≠ root := hsame
        rw [List.filter_cons_of_neg (by simpa using hne)]
        refine ih (by simp [hnew, Ne.symm hsame]) ?_
        obtain ⟨other, hother, hin⟩ := hfile
        rcases List.mem_cons.mp hother with rfl | hlater
        · exact absurd (hapart root' hroot' root hroot other hwithin hin) hsame
        · exact ⟨other, hlater, hin⟩
  | @single loaded rest file first manifests houtside hfirst hrest ih =>
      have hne : first.path ≠ root := by
        rintro rfl
        rw [hfirst.path_eq] at hroot
        exact houtside file hroot (Path.Within.refl file)
      rw [List.filter_cons_of_neg (by simpa using hne)]
      refine ih hnew ?_
      obtain ⟨other, hother, hin⟩ := hfile
      rcases List.mem_cons.mp hother with rfl | hlater
      · exact absurd hin (houtside root hroot)
      · exact ⟨other, hlater, hin⟩

/-- A file outside of all overlays is loaded as often as it is listed. -/
theorem filter_single (hloads : Loads files roots loaded found manifests) (houtside : Outside roots file)
    (hman : man.IsOf files file) :
    manifests.filter (fun man => man.path = file) = List.replicate (found.count file) man := by
  induction hloads with
  | done loaded => simp
  | @again loaded rest other root manifests hroot hwithin hloaded hrest ih =>
      have hne : other ≠ file := by
        rintro rfl
        exact houtside root hroot hwithin
      rw [List.count_cons_of_ne hne, ih]
  | @overlay loaded rest other root manifests hroot hwithin hloaded hrest ih =>
      have hne : other ≠ file := by
        rintro rfl
        exact houtside root hroot hwithin
      have hroot : (Manifest.overlay root files).path ≠ file := by
        rintro rfl
        exact houtside root hroot (Path.Within.refl root)
      rw [List.filter_cons_of_neg (by simpa using hroot), List.count_cons_of_ne hne, ih]
  | @single loaded rest other first manifests hother hfirst hrest ih =>
      by_cases hsame : other = file
      · subst hsame
        obtain rfl := hfirst.unique hman
        rw [List.filter_cons_of_pos (by simpa using hfirst.path_eq), List.count_cons_self, ih, List.replicate_succ]
      · have hne : first.path ≠ file := by rwa [hfirst.path_eq]
        rw [List.filter_cons_of_neg (by simpa using hne), List.count_cons_of_ne hsame, ih]

/-- Only manifests with one path stand for one file. -/
theorem path_eq_of_standsFor (hloads : Loads files roots loaded found manifests) (hapart : Apart roots)
    {man' : Manifest} (hman : man ∈ manifests) (hman' : man' ∈ manifests) (hstands : man.standsFor file = true)
    (hstands' : man'.standsFor file = true) : man.path = man'.path := by
  rcases hloads.sound man hman with ⟨root, hroot, -, rfl⟩ | ⟨single, -, houtside, hof⟩
  · have hwithin := Path.isWithin_iff.mp hstands
    rcases hloads.sound man' hman' with ⟨root', hroot', -, rfl⟩ | ⟨single', -, houtside', hof'⟩
    · exact hapart root hroot root' hroot' file hwithin (Path.isWithin_iff.mp hstands')
    · rw [hof'.standsFor_iff.mp hstands'] at hwithin
      exact absurd hwithin (houtside' root hroot)
  · rw [hof.standsFor_iff.mp hstands] at hstands'
    rcases hloads.sound man' hman' with ⟨root', hroot', -, rfl⟩ | ⟨single', -, -, hof'⟩
    · exact absurd (Path.isWithin_iff.mp hstands') (houtside root' hroot')
    · rw [hof.path_eq, hof'.path_eq, hof'.standsFor_iff.mp hstands']

end Loads

/-! ### The order of manifests -/

theorem firstOf_cons (file : String) (rest : List String) (man : Manifest) :
    firstOf (file :: rest) man = if man.standsFor file then 0 else firstOf rest man + 1 := by
  cases hstands : man.standsFor file <;> simp [firstOf, List.findIdx_cons, hstands]

/-- Two manifests keep their order when another file comes first, unless only the later one stands for it. -/
theorem firstOf_cons_le {rest : List String} {man' : Manifest} (hless : firstOf rest man ≤ firstOf rest man')
    (hstands : man'.standsFor file = true → man.standsFor file = true) :
    firstOf (file :: rest) man ≤ firstOf (file :: rest) man' := by
  rw [firstOf_cons, firstOf_cons]
  by_cases hlater : man'.standsFor file = true
  · rw [if_pos (hstands hlater)]
    exact Nat.zero_le _
  · rw [if_neg hlater]
    split <;> omega

/-- In a sorted list a path that comes again comes next. -/
theorem exists_eq_cons_of_sorted {rest : List String}
    (hsorted : (file :: rest).Pairwise fun a b => compare a b ≠ .gt) (hagain : file ∈ rest) :
    ∃ more, rest = file :: more := by
  cases rest with
  | nil => cases hagain
  | cons next more =>
      obtain ⟨hfirst, hrest⟩ := List.pairwise_cons.mp hsorted
      rcases List.mem_cons.mp hagain with rfl | hlater
      · exact ⟨more, rfl⟩
      · have hsame := Files.eq_of_compare_ne_gt (hfirst next List.mem_cons_self)
          ((List.pairwise_cons.mp hrest).1 file hlater)
        exact ⟨more, by rw [hsame]⟩

/-- The run lemma: manifests come in the order of the first files that they stand for. -/
theorem Loads.ordered (hloads : Loads files roots loaded found manifests) (hapart : Apart roots)
    (hsorted : found.Pairwise fun a b => compare a b ≠ .gt) :
    manifests.Pairwise fun man man' => firstOf found man ≤ firstOf found man' := by
  induction hloads with
  | done loaded => exact List.Pairwise.nil
  | again hroot hwithin hloaded hrest ih =>
      refine (ih (List.pairwise_cons.mp hsorted).2).imp_of_mem ?_
      intro man man' _ hman' hless
      exact firstOf_cons_le hless fun hstands =>
        absurd hstands (hrest.not_standsFor_within hapart hroot hloaded hwithin man' hman')
  | @overlay loaded rest file root manifests hroot hwithin hloaded hrest ih =>
      have hstands : (Manifest.overlay root files).standsFor file = true := Path.isWithin_iff.mpr hwithin
      refine List.pairwise_cons.mpr ⟨?_, (ih (List.pairwise_cons.mp hsorted).2).imp_of_mem ?_⟩
      · intro man' _
        rw [firstOf_cons, if_pos hstands]
        exact Nat.zero_le _
      · intro man man' _ hman' hless
        exact firstOf_cons_le hless fun hstands =>
          absurd hstands (hrest.not_standsFor_within hapart hroot List.mem_cons_self hwithin man' hman')
  | @single loaded rest file first manifests houtside hfirst hrest ih =>
      refine List.pairwise_cons.mpr ⟨?_, (ih (List.pairwise_cons.mp hsorted).2).imp_of_mem ?_⟩
      · intro man' _
        rw [firstOf_cons, if_pos (hfirst.standsFor_iff.mpr rfl)]
        exact Nat.zero_le _
      · intro man man' _ hman' hless
        refine firstOf_cons_le hless fun hstands => ?_
        by_cases hagain : file ∈ rest
        · -- The path comes again at once, so the earlier manifest cannot stand for a file before it.
          obtain ⟨more, rfl⟩ := exists_eq_cons_of_sorted hsorted hagain
          rw [firstOf_cons file more man', if_pos hstands, firstOf_cons] at hless
          by_contra hnot
          rw [if_neg hnot] at hless
          omega
        · exact absurd hstands (hrest.not_standsFor_outside houtside hagain man' hman')

/-! ### The whole -/

/-- Some files are loaded as some manifests, as often as they are listed: the overlays are a partition of the directories
with configuration files; there is exactly one manifest with the path of each overlay, which is that overlay; each file
outside of them has one and the same manifest for each time that its path is listed; there are no others; and they come
in the order of the first files that they stand for. -/
structure LoadedAsListed (files : Files) (found : List String) (manifests : List Manifest) : Prop where
  roots : Partition found (overlayRoots found)
  overlays : ∀ root ∈ overlayRoots found, manifests.filter (fun man => man.path = root) = [overlay root files]
  singles : ∀ file ∈ found, Outside (overlayRoots found) file → ∃ man : Manifest, man.IsOf files file ∧
    manifests.filter (fun man => man.path = file) = List.replicate (found.count file) man
  others : ∀ man ∈ manifests, (∃ root ∈ overlayRoots found, man = overlay root files) ∨
    ∃ file ∈ found, Outside (overlayRoots found) file ∧ man.IsOf files file
  ordered : manifests.Pairwise fun man man' => firstOf found man ≤ firstOf found man'

/-- They are loaded each once: each file outside of the overlays has exactly one manifest, and no two manifests stand for
the same first file. -/
structure LoadedOnce (files : Files) (found : List String) (manifests : List Manifest) : Prop
    extends LoadedAsListed files found manifests where
  once : ∀ file ∈ found, Outside (overlayRoots found) file →
    ∃ man, manifests.filter (fun man => man.path = file) = [man] ∧ man.IsOf files file
  strictly : manifests.Pairwise fun man man' => firstOf found man < firstOf found man'

/-- For every file outside of all overlays there is its manifest. -/
theorem Loads.exists_isOf (hloads : Loads files (overlayRoots found) [] found manifests) (hfile : file ∈ found)
    (houtside : Outside (overlayRoots found) file) : ∃ man : Manifest, man.IsOf files file := by
  rcases hloads.complete file hfile with ⟨root, hroot, -⟩ | ⟨man, hman, hstands⟩
  · cases hroot
  · rcases hloads.sound man hman with ⟨root, hroot, -, rfl⟩ | ⟨other, -, -, hof⟩
    · exact absurd (Path.isWithin_iff.mp hstands) (houtside root hroot)
    · rw [hof.standsFor_iff.mp hstands]
      exact ⟨man, hof⟩

theorem Loads.loadedAsListed (hloads : Loads files (overlayRoots found) [] found manifests)
    (hsorted : found.Pairwise fun a b => compare a b ≠ .gt) : LoadedAsListed files found manifests where
  roots := partition_overlayRoots found
  overlays root hroot := by
    obtain ⟨file, hfile, -, rfl⟩ := (partition_overlayRoots found).above root hroot
    exact hloads.filter_overlay (apart_overlayRoots found) hroot List.not_mem_nil
      ⟨file, hfile, Path.within_parentDir file⟩
  singles file hfile houtside := by
    obtain ⟨man, hman⟩ := hloads.exists_isOf hfile houtside
    exact ⟨man, hman, hloads.filter_single houtside hman⟩
  others man hman := by
    rcases hloads.sound man hman with ⟨root, hroot, -, hoverlay⟩ | hsingle
    · exact Or.inl ⟨root, hroot, hoverlay⟩
    · exact Or.inr hsingle
  ordered := hloads.ordered (apart_overlayRoots found) hsorted

/-- If every file outside of the overlays is listed once, every manifest has a path of its own. -/
theorem LoadedAsListed.nodup_paths (hlisted : LoadedAsListed files found manifests)
    (hone : ∀ file ∈ found, Outside (overlayRoots found) file → found.count file = 1) :
    (manifests.map Manifest.path).Nodup := by
  rw [List.nodup_iff_count_le_one]
  intro path
  have hcount : (manifests.map Manifest.path).count path = (manifests.filter fun man => man.path = path).length := by
    rw [List.count, List.countP_map, List.countP_eq_length_filter]
    rfl
  rw [hcount]
  by_cases hpath : path ∈ manifests.map Manifest.path
  · obtain ⟨man, hman, rfl⟩ := List.mem_map.mp hpath
    rcases hlisted.others man hman with ⟨root, hroot, rfl⟩ | ⟨file, hfile, houtside, hof⟩
    · exact (congrArg List.length (hlisted.overlays root hroot)).le
    · obtain ⟨man', -, hfilter⟩ := hlisted.singles file hfile houtside
      rw [hof.path_eq, hfilter, hone file hfile houtside]
      exact Nat.le_refl 1
  · have hnone : manifests.filter (fun man => man.path = path) = [] := by
      rw [List.filter_eq_nil_iff]
      intro man hman hsame
      exact hpath (of_decide_eq_true hsame ▸ List.mem_map_of_mem hman)
    rw [hnone]
    exact Nat.zero_le 1

/-- Every manifest stands for a file that is listed. -/
theorem LoadedAsListed.exists_standsFor (hlisted : LoadedAsListed files found manifests) (hman : man ∈ manifests) :
    ∃ file ∈ found, man.standsFor file = true := by
  rcases hlisted.others man hman with ⟨root, hroot, rfl⟩ | ⟨file, hfile, -, hof⟩
  · obtain ⟨file, hfile, -, rfl⟩ := hlisted.roots.above root hroot
    exact ⟨file, hfile, Path.isWithin_iff.mpr (Path.within_parentDir file)⟩
  · exact ⟨file, hfile, hof.standsFor_iff.mpr rfl⟩

/-- If every file outside of the overlays is listed once, no two manifests stand for the same first file. -/
theorem Loads.strictly_ordered (hloads : Loads files (overlayRoots found) [] found manifests)
    (hlisted : LoadedAsListed files found manifests)
    (hone : ∀ file ∈ found, Outside (overlayRoots found) file → found.count file = 1) :
    manifests.Pairwise fun man man' => firstOf found man < firstOf found man' := by
  have hpaths : manifests.Pairwise fun man man' => man.path ≠ man'.path :=
    List.pairwise_map.mp (hlisted.nodup_paths hone)
  refine (hlisted.ordered.and hpaths).imp_of_mem ?_
  rintro man man' hman hman' ⟨hle, hne⟩
  refine Nat.lt_of_le_of_ne hle fun hsame => hne ?_
  have hfirst : firstOf found man < found.length := List.findIdx_lt_length_of_exists (hlisted.exists_standsFor hman)
  have hstands : man.standsFor (found[firstOf found man]) = true := List.findIdx_getElem
  have hstands' : man'.standsFor (found[firstOf found man]) = true := by
    simp only [hsame]
    exact List.findIdx_getElem
  exact hloads.path_eq_of_standsFor (apart_overlayRoots found) hman hman' hstands hstands'

theorem Loads.loadedOnce_iff (hloads : Loads files (overlayRoots found) [] found manifests)
    (hlisted : LoadedAsListed files found manifests) : LoadedOnce files found manifests ↔
      ∀ file ∈ found, Outside (overlayRoots found) file → found.count file = 1 := by
  constructor
  · intro honce file hfile houtside
    obtain ⟨man, hman, -⟩ := honce.once file hfile houtside
    obtain ⟨man', -, hfilter⟩ := hlisted.singles file hfile houtside
    rw [hman] at hfilter
    simpa using (congrArg List.length hfilter).symm
  · intro hone
    refine ⟨hlisted, ?_, hloads.strictly_ordered hlisted hone⟩
    intro file hfile houtside
    obtain ⟨man, hman, hfilter⟩ := hlisted.singles file hfile houtside
    rw [hone file hfile houtside] at hfilter
    exact ⟨man, hfilter, hman⟩

/-- Whatever is loaded of some files, in memory or on disk, every file that is listed is loaded as often as it is
listed. Every file is loaded exactly once just if no file outside of the overlays is listed twice; and that is so if all
names on disk are texts. -/
theorem loads_as_often_as_listed {path : String} (hsorted : files.Sorted) (hload : load files path = .ok manifests) :
    ∃ normal found, Path.normalize path = .ok normal ∧ files.walk normal = .ok found ∧
      LoadedAsListed files found manifests ∧
      (LoadedOnce files found manifests ↔
        ∀ file ∈ found, Outside (overlayRoots found) file → found.count file = 1) ∧
      (files.Named → LoadedOnce files found manifests) := by
  obtain ⟨normal, hnormal, hthere⟩ := except_bind_eq_ok_iff.mp hload
  by_cases hcontains : files.contains normal
  · simp only [hcontains, Bool.not_true, Bool.false_eq_true, if_false] at hthere
    obtain ⟨found, hwalk, hfiles⟩ := except_bind_eq_ok_iff.mp hthere
    have hloads := loads_of_loadFiles hfiles
    have hlisted := hloads.loadedAsListed (Files.sorted_walk hsorted hwalk)
    refine ⟨normal, found, hnormal, hwalk, hlisted, hloads.loadedOnce_iff hlisted, fun hnamed => ?_⟩
    rw [hloads.loadedOnce_iff hlisted]
    intro file hfile _
    exact List.count_eq_one_of_mem (Files.nodup_walk hsorted hnamed hnormal hwalk) hfile
  · simp only [hcontains, Bool.not_false, if_true] at hthere
    cases hthere

end Loading

/-! ### Overlays whose names start alike -/

namespace StartAlike

/-- An overlay with another one in it, an overlay whose name goes on, and files next to them. -/
def top : Disk.Node := .dir [("fs", .dir [("mesh", .dir [
  ("base", .dir [("gateway.tmpl", .file []), ("kustomization.yaml", .file []),
    ("nested", .dir [("Kustomization", .file [])])]),
  ("base-routes.patch.tmpl", .file [97]),
  ("basement", .dir [("kustomization.yml", .file [])]),
  ("zone.tmpl", .file [98])])])]

def files : Files := .disk "fs" top

/-- The files in the order of their paths, which is not that of the tree. -/
def found : List String := ["mesh/base-routes.patch.tmpl", "mesh/base/gateway.tmpl", "mesh/base/kustomization.yaml",
  "mesh/base/nested/Kustomization", "mesh/basement/kustomization.yml", "mesh/zone.tmpl"]

def manifests : List Manifest := [
  .template "mesh/base-routes.patch.tmpl" true "a", .overlay "mesh/base" files, .overlay "mesh/basement" files,
  .template "mesh/zone.tmpl" false "b"]

theorem walk_mesh : files.walk "mesh" = .ok found := by
  have hdisk : (Disk.walk top (Files.onDisk "fs" "mesh") ((Path.components "mesh").map RawText.ofText)).map
      (List.map Files.shownPath) = .ok ["mesh/base/gateway.tmpl", "mesh/base/kustomization.yaml",
        "mesh/base/nested/Kustomization", "mesh/base-routes.patch.tmpl", "mesh/basement/kustomization.yml",
        "mesh/zone.tmpl"] := by decide +kernel
  exact Files.walk_disk_eq_ok hdisk (by decide) (by decide)

theorem load_mesh : load files "./mesh/" = .ok manifests := by
  have hcontains : files.contains "mesh" = true := by decide +kernel
  rw [load_of_contains (by rfl) hcontains walk_mesh]
  rfl

/-- Each overlay is loaded once and each file next to them once, in the order of the files. -/
theorem each_once : files.Sorted ∧ files.Named ∧ load files "./mesh/" = .ok manifests ∧
    files.walk "mesh" = .ok found ∧ overlayRoots found = ["mesh/base", "mesh/basement"] ∧
      LoadedOnce files found manifests := by
  have hsorted : files.Sorted := trivial
  have hnamed : files.Named := show top.Named by decide +kernel
  obtain ⟨normal, listed, hnormal, hlisted, -, -, honce⟩ := loads_as_often_as_listed hsorted load_mesh
  cases hnormal
  cases hlisted.symm.trans walk_mesh
  exact ⟨hsorted, hnamed, load_mesh, walk_mesh, by decide, honce hnamed⟩

end StartAlike

/-! ### Names that look alike -/

namespace LookAlike

/-- A name with a replacement character. -/
def path : String := "a\uFFFD.tmpl"

/-- The same name with a byte in place of that character, which is part of no text. -/
def name : RawText := ⟨[0x61, 0xFF, 0x2E, 0x74, 0x6D, 0x70, 0x6C]⟩

/-- A directory with a file under each of the names. -/
def top : Disk.Node := .dir [("fs", .dir [(path, .file [97]), (name, .file [98])])]

def files : Files := .disk "fs" top

theorem walk_all : files.walk "" = .ok [path, path] := by
  have hdisk : (Disk.walk top (Files.onDisk "fs" "") ((Path.components "").map RawText.ofText)).map
      (List.map Files.shownPath) = .ok [path, path] := by decide +kernel
  exact Files.walk_disk_eq_ok hdisk (by decide) (by decide)

theorem load_all : load files "" = .ok [.template path false "a", .template path false "a"] := by
  have hcontains : files.contains "" = true := by decide +kernel
  rw [load_of_contains (by rfl) hcontains walk_all]
  rfl

/-- One of the files is loaded twice, the other one not at all. -/
theorem loaded_twice : top.Proper ∧ files.walk "" = .ok [path, path] ∧
    load files "" = .ok [.template path false "a", .template path false "a"] ∧
    ¬ LoadedOnce files [path, path] [.template path false "a", .template path false "a"] := by
  have hproper : top.Proper := by decide +kernel
  refine ⟨hproper, walk_all, load_all, ?_⟩
  intro honce
  have hless := (List.pairwise_cons.mp honce.strictly).1 _ List.mem_cons_self
  exact Nat.lt_irrefl _ hless

end LookAlike

end Manifest

end Provision

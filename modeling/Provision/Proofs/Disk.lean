import Mathlib.Data.List.Nodup
import Provision.Disk
import Provision.Proofs.Keyed
import Provision.Proofs.Manifest.Paths
import Provision.Proofs.Text.Raw

/-!
Trees of files. In a proper tree every directory has its entries in the order of their names. If all names are texts,
no path is listed twice. Trees of text files are such trees, without links and empty directories. What stands at a place
of a tree of text files is found by going down from its root, whatever links lead to the root, and listing a directory
gives exactly the places below it where files stand.
-/

namespace Provision.Disk

/-- A name that can be looked up in a directory. -/
structure EntryName (name : RawText) : Prop where
  ne_empty : name ≠ ""
  ne_dot : name ≠ "."
  ne_dots : name ≠ ".."
  no_slash : slash ∉ name.bytes

instance (name : RawText) : Decidable (EntryName name) :=
  decidable_of_iff (name ≠ "" ∧ name ≠ "." ∧ name ≠ ".." ∧ slash ∉ name.bytes)
    ⟨fun h => ⟨h.1, h.2.1, h.2.2.1, h.2.2.2⟩, fun h => ⟨h.ne_empty, h.ne_dot, h.ne_dots, h.no_slash⟩⟩

/-- Such a name that is a text. -/
def TextName (name : RawText) : Prop :=
  ∃ text, Path.IsName text ∧ name = RawText.ofText text

theorem textName_iff {name : RawText} :
    TextName name ↔ ∃ text, Utf8.decode name.bytes = .ok text ∧ Path.IsName text := by
  have hbytes : ∀ text, name = RawText.ofText text ↔ Utf8.decode name.bytes = .ok text := by
    intro text
    rw [Utf8.decode_eq_ok_iff, ← RawText.bytes_ofText]
    exact ⟨congrArg RawText.bytes, congrArg RawText.mk⟩
  simp only [TextName, hbytes, and_comm]

instance (name : RawText) : Decidable (TextName name) :=
  match hdecode : Utf8.decode name.bytes with
  | .ok text => decidable_of_iff (Path.IsName text) (by simp [textName_iff, hdecode])
  | .error _ => .isFalse (by simp [textName_iff, hdecode])

/-- A text that the operating system allows for an entry of a directory. -/
structure AllowedName (name : String) : Prop extends Path.IsName name where
  no_nul : '\x00' ∉ name.toList

namespace Node

/-- What stands at a place below a node. -/
def at? : List String → Node → Option Node
  | [], n => some n
  | name :: rest, .dir entries => (Keyed.get? entries name).bind (at? rest)
  | _ :: _, _ => none

section Kept

variable (kind : RawText → Prop)

mutual

/-- A tree as a file system keeps it, with names of a kind: a directory has its entries in the order of their names. -/
def Kept : Node → Prop
  | .file _ => True
  | .link _ => True
  | .dir entries => Keyed.Sorted entries ∧ KeptEntries entries

def KeptEntries : List (RawText × Node) → Prop
  | [] => True
  | (name, n) :: rest => kind name ∧ Kept n ∧ KeptEntries rest

end

variable {kind}

theorem keptEntries_iff {entries : List (RawText × Node)} :
    KeptEntries kind entries ↔ ∀ e ∈ entries, kind e.1 ∧ e.2.Kept kind := by
  induction entries with
  | nil => simp [KeptEntries]
  | cons e rest ih =>
      obtain ⟨name, n⟩ := e
      simp [KeptEntries, ih, and_assoc]

mutual

/-- Going through a tree decides whether it is kept. -/
def decideKept [DecidablePred kind] : (n : Node) → Decidable (n.Kept kind)
  | .file _ => .isTrue trivial
  | .link _ => .isTrue trivial
  | .dir entries =>
    have := decideKeptEntries entries
    inferInstanceAs (Decidable (Keyed.Sorted entries ∧ KeptEntries kind entries))

def decideKeptEntries [DecidablePred kind] : (entries : List (RawText × Node)) → Decidable (KeptEntries kind entries)
  | [] => .isTrue trivial
  | (name, n) :: rest =>
    have := decideKept n
    have := decideKeptEntries rest
    inferInstanceAs (Decidable (kind name ∧ n.Kept kind ∧ KeptEntries kind rest))

end

instance [DecidablePred kind] (n : Node) : Decidable (n.Kept kind) := decideKept n

end Kept

/-- A tree as a file system keeps it. -/
abbrev Proper (n : Node) : Prop := n.Kept EntryName

/-- A tree as a file system keeps it, all of whose names are texts. -/
abbrev Named (n : Node) : Prop := n.Kept TextName

mutual

/-- A text file, or a directory that leads to text files only. -/
def Plain : Node → Prop
  | .file content => ∃ text, Utf8.decode content = .ok text
  | .link _ => False
  | .dir entries => entries ≠ [] ∧ Keyed.Sorted entries ∧ PlainEntries entries

def PlainEntries : List (RawText × Node) → Prop
  | [] => True
  | (name, n) :: rest => (∃ text, AllowedName text ∧ name = RawText.ofText text) ∧ Plain n ∧ PlainEntries rest

end

theorem plainEntries_iff {entries : List (RawText × Node)} : PlainEntries entries ↔
    ∀ e ∈ entries, (∃ text, AllowedName text ∧ e.1 = RawText.ofText text) ∧ e.2.Plain := by
  induction entries with
  | nil => simp [PlainEntries]
  | cons e rest ih =>
      obtain ⟨name, n⟩ := e
      simp [PlainEntries, ih, and_assoc]

mutual

/-- In a tree of text files all names are texts. -/
theorem named_of_plain (n : Node) (hplain : n.Plain) : n.Named := by
  match n with
  | .file _ => trivial
  | .link _ => trivial
  | .dir entries => exact ⟨hplain.2.1, namedEntries_of_plain entries hplain.2.2⟩

theorem namedEntries_of_plain (entries : List (RawText × Node)) (hplain : PlainEntries entries) :
    KeptEntries TextName entries := by
  match entries with
  | [] => trivial
  | (_, n) :: rest =>
      obtain ⟨⟨text, hallowed, hname⟩, hn, hrest⟩ := hplain
      exact ⟨⟨text, hallowed.toIsName, hname⟩, named_of_plain n hn, namedEntries_of_plain rest hrest⟩

end

variable {n n' : Node} {entries : List (RawText × Node)} {ps rest : List String}

theorem Plain.entry (hplain : (dir entries).Plain) {name : String} (hentry : Keyed.get? entries name = some n) :
    AllowedName name ∧ n.Plain := by
  obtain ⟨⟨text, hallowed, hname⟩, hn⟩ := plainEntries_iff.mp hplain.2.2 _ (Keyed.mem_of_get? hentry)
  rw [RawText.ofText_inj.mp hname]
  exact ⟨hallowed, hn⟩

theorem at?_append (n : Node) : n.at? (ps ++ rest) = (n.at? ps).bind (at? rest) := by
  induction ps generalizing n with
  | nil => rfl
  | cons name ps ih =>
      cases n with
      | dir entries =>
          rw [List.cons_append, at?, at?]
          cases Keyed.get? entries name with
          | none => rfl
          | some next => exact ih next
      | _ => rfl

/-- Whatever stands in a tree of text files is such a tree. -/
theorem Plain.of_at? (hplain : n.Plain) (hfound : n.at? ps = some n') : n'.Plain := by
  induction ps generalizing n with
  | nil =>
      cases hfound
      exact hplain
  | cons name rest ih =>
      cases n with
      | dir entries =>
          obtain ⟨next, hentry, hrest⟩ := Option.bind_eq_some_iff.mp hfound
          exact ih (hplain.entry hentry).2 hrest
      | _ => cases hfound

theorem Plain.allowed_of_at? (hplain : n.Plain) (hfound : n.at? ps = some n') :
    ∀ name ∈ ps, AllowedName name := by
  induction ps generalizing n with
  | nil => simp
  | cons name rest ih =>
      cases n with
      | dir entries =>
          obtain ⟨next, hentry, hrest⟩ := Option.bind_eq_some_iff.mp hfound
          obtain ⟨hname, hnext⟩ := hplain.entry hentry
          exact List.forall_mem_cons.mpr ⟨hname, ih hnext hrest⟩
      | _ => cases hfound

end Node

/-! ### Listing -/

section Listing

variable {n : Node} {names : List String}

mutual

/-- The files that are listed are those that stand somewhere below. -/
theorem mem_filesAt_iff (n : Node) (hplain : n.Plain) (here names : List RawText) : names ∈ filesAt here n ↔
    ∃ rest content, names = here ++ rest.map RawText.ofText ∧ n.at? rest = some (.file content) := by
  match n with
  | .file content =>
      rw [filesAt, List.mem_singleton]
      constructor
      · intro heq
        exact ⟨[], content, by simp [heq], rfl⟩
      · rintro ⟨rest, other, rfl, hfile⟩
        cases rest with
        | nil => simp
        | cons name rest => cases hfile
  | .link _ => exact absurd hplain id
  | .dir entries =>
      rw [filesAt, mem_filesIn_iff entries hplain.2.2]
      constructor
      · rintro ⟨⟨name, n⟩, hentry, rest, content, heq, hfile⟩
        obtain ⟨⟨text, -, rfl⟩, -⟩ := Node.plainEntries_iff.mp hplain.2.2 _ hentry
        refine ⟨text :: rest, content, heq, ?_⟩
        rw [Node.at?, hplain.2.1.get?_of_mem hentry]
        exact hfile
      · rintro ⟨rest, content, heq, hfile⟩
        cases rest with
        | nil => cases hfile
        | cons name rest =>
            obtain ⟨n, hentry, hrest⟩ := Option.bind_eq_some_iff.mp hfile
            exact ⟨(RawText.ofText name, n), Keyed.mem_of_get? hentry, rest, content, heq, hrest⟩

theorem mem_filesIn_iff (entries : List (RawText × Node)) (hplain : Node.PlainEntries entries)
    (here names : List RawText) : names ∈ filesIn here entries ↔ ∃ e ∈ entries, ∃ rest content,
      names = here ++ e.1 :: rest.map RawText.ofText ∧ e.2.at? rest = some (.file content) := by
  match entries with
  | [] => simp [filesIn]
  | (name, n) :: rest =>
      rw [filesIn, List.mem_append, mem_filesAt_iff n hplain.2.1, mem_filesIn_iff rest hplain.2.2]
      simp [List.append_assoc]

end

section Kept

variable {kind : RawText → Prop}

mutual

/-- The files that are listed lie below the place where the listing starts. -/
theorem exists_of_mem_filesAt (n : Node) (hkept : n.Kept kind) (here names : List RawText)
    (hmem : names ∈ filesAt here n) : ∃ rest, names = here ++ rest ∧ ∀ name ∈ rest, kind name := by
  match n with
  | .file _ => exact ⟨[], by simpa [filesAt] using hmem, by simp⟩
  | .link _ => cases hmem
  | .dir entries =>
      obtain ⟨e, -, rest, heq, hnames⟩ := exists_of_mem_filesIn entries hkept.2 here names hmem
      exact ⟨e.1 :: rest, heq, hnames⟩

theorem exists_of_mem_filesIn (entries : List (RawText × Node)) (hkept : Node.KeptEntries kind entries)
    (here names : List RawText) (hmem : names ∈ filesIn here entries) : ∃ e ∈ entries, ∃ rest,
      names = here ++ e.1 :: rest ∧ ∀ name ∈ e.1 :: rest, kind name := by
  match entries with
  | [] => cases hmem
  | (name, n) :: others =>
      rcases List.mem_append.mp hmem with hfirst | hlater
      · obtain ⟨rest, rfl, hrest⟩ := exists_of_mem_filesAt n hkept.2.1 (here ++ [name]) names hfirst
        exact ⟨(name, n), List.mem_cons_self, rest, by simp, List.forall_mem_cons.mpr ⟨hkept.1, hrest⟩⟩
      · obtain ⟨e, he, hrest⟩ := exists_of_mem_filesIn others hkept.2.2 here names hlater
        exact ⟨e, List.mem_cons_of_mem _ he, hrest⟩

end

mutual

/-- No file is listed twice. -/
theorem nodup_filesAt (n : Node) (hkept : n.Kept kind) (here : List RawText) : (filesAt here n).Nodup := by
  match n with
  | .file _ => simp [filesAt]
  | .link _ => simp [filesAt]
  | .dir entries => exact nodup_filesIn entries hkept.1 hkept.2 here

theorem nodup_filesIn (entries : List (RawText × Node)) (hsorted : Keyed.Sorted entries)
    (hkept : Node.KeptEntries kind entries) (here : List RawText) : (filesIn here entries).Nodup := by
  match entries with
  | [] => simp [filesIn]
  | (name, n) :: rest =>
      have hname : name ∉ rest.map Prod.fst := (List.nodup_cons.mp hsorted.nodup_keys).1
      rw [filesIn, List.nodup_append]
      have hrest := nodup_filesIn rest (List.pairwise_cons.mp hsorted).2 hkept.2.2 here
      refine ⟨nodup_filesAt n hkept.2.1 _, hrest, ?_⟩
      rintro names hfirst _ hlater rfl
      obtain ⟨below, heq, -⟩ := exists_of_mem_filesAt n hkept.2.1 _ names hfirst
      obtain ⟨e, he, below', heq', -⟩ := exists_of_mem_filesIn rest hkept.2.2 here names hlater
      rw [heq, List.append_assoc, List.append_cancel_left_eq] at heq'
      rw [(List.cons.inj heq').1] at hname
      exact hname (List.mem_map_of_mem he)

end

end Kept

/-- Names that are texts are those of a path. -/
theorem exists_texts {found : List RawText} (hfound : ∀ name ∈ found, TextName name) :
    ∃ texts : List String, found = texts.map RawText.ofText ∧ ∀ text ∈ texts, Path.IsName text := by
  induction found with
  | nil => exact ⟨[], rfl, by simp⟩
  | cons name rest ih =>
      obtain ⟨⟨text, htext, rfl⟩, hrest⟩ := List.forall_mem_cons.mp hfound
      obtain ⟨texts, rfl, htexts⟩ := ih hrest
      exact ⟨text :: texts, rfl, List.forall_mem_cons.mpr ⟨htext, htexts⟩⟩

/-- If all names are texts, no path is listed twice: the texts that stand for different names are different. -/
theorem nodup_paths (hnamed : n.Named) {here : List RawText} (hhere : ∀ name ∈ here, TextName name) :
    ((filesAt here n).map Files.shownPath).Nodup := by
  have hall : ∀ ns ∈ filesAt here n, ∃ texts : List String, ns = texts.map RawText.ofText ∧
      ∀ text ∈ texts, Path.IsName text := by
    intro ns hns
    obtain ⟨rest, rfl, hrest⟩ := exists_of_mem_filesAt n hnamed here ns hns
    refine exists_texts ?_
    intro name hname
    rcases List.mem_append.mp hname with hfirst | hlater
    · exact hhere name hfirst
    · exact hrest name hlater
  refine List.Nodup.map_on ?_ (nodup_filesAt n hnamed here)
  intro ns hns ns' hns' heq
  obtain ⟨texts, rfl, htexts⟩ := hall ns hns
  obtain ⟨texts', rfl, htexts'⟩ := hall ns' hns'
  rw [Files.shownPath_ofText, Files.shownPath_ofText] at heq
  rw [Path.join_inj htexts htexts' heq]

/-- A tree of text files holds at least one. -/
theorem exists_file_of_plain (n : Node) (hplain : n.Plain) : ∃ rest content, n.at? rest = some (.file content) := by
  match n with
  | .file content => exact ⟨[], content, rfl⟩
  | .link _ => exact absurd hplain id
  | .dir [] => exact absurd rfl hplain.1
  | .dir ((name, n) :: entries) =>
      obtain ⟨⟨text, -, rfl⟩, hn, -⟩ := hplain.2.2
      obtain ⟨rest, content, hfile⟩ := exists_file_of_plain n hn
      refine ⟨text :: rest, content, ?_⟩
      rw [Node.at?, Keyed.get?_cons_self]
      exact hfile

/-- Something stands at a place just if a file stands there or below. -/
theorem exists_at?_iff (hplain : n.Plain) :
    (∃ n', n.at? names = some n') ↔ ∃ rest content, n.at? (names ++ rest) = some (.file content) := by
  simp only [Node.at?_append, Option.bind_eq_some_iff]
  constructor
  · rintro ⟨n', hfound⟩
    obtain ⟨rest, content, hfile⟩ := exists_file_of_plain n' (hplain.of_at? hfound)
    exact ⟨rest, content, n', hfound, hfile⟩
  · rintro ⟨-, -, n', hfound, -⟩
    exact ⟨n', hfound⟩

end Listing

/-! ### Putting -/

section Putting

variable {new old : Node} {ps qs : List String}

/-- The entries of a directory; anything else has none. -/
def Node.entries : Node → List (RawText × Node)
  | .dir entries => entries
  | _ => []

theorem put_cons (name : RawText) (rest : List RawText) (new old : Node) :
    put (name :: rest) new old =
      .dir (Keyed.insert old.entries name (put rest new ((Keyed.get? old.entries name).getD (.dir [])))) := by
  cases old <;> rfl

theorem Node.at?_file (content : List UInt8) (hne : ps ≠ []) : (file content).at? ps = none := by
  cases ps with
  | nil => contradiction
  | cons _ _ => rfl

theorem Node.at?_cons (name : String) (rest : List String) (n : Node) :
    n.at? (name :: rest) = (Keyed.get? n.entries name).bind (at? rest) := by
  cases n <;> rfl

theorem at?_put_self (ps : List String) (new old : Node) : (put (ps.map RawText.ofText) new old).at? ps = some new := by
  induction ps generalizing old with
  | nil => rfl
  | cons name rest ih =>
      rw [List.map_cons, put_cons, Node.at?, Keyed.get?_insert_self]
      exact ih _

/-- Apart from the way to the place and what is below it, everything stays. -/
theorem at?_put_of_apart (hpq : ¬ ps <+: qs) (hqp : ¬ qs <+: ps) (new old : Node) :
    (put (ps.map RawText.ofText) new old).at? qs = old.at? qs := by
  induction ps generalizing qs old with
  | nil => exact absurd List.nil_prefix hpq
  | cons name rest ih =>
      cases qs with
      | nil => exact absurd List.nil_prefix hqp
      | cons other more =>
          rw [List.map_cons, put_cons, Node.at?, Node.at?_cons]
          by_cases hname : other = name
          · subst hname
            rw [List.cons_prefix_cons, and_iff_right rfl] at hpq hqp
            rw [Keyed.get?_insert_self, Option.bind_some, ih hpq hqp]
            cases Keyed.get? old.entries (RawText.ofText other) with
            | some next => rfl
            | none =>
                cases more with
                | nil => exact absurd List.nil_prefix hqp
                | cons _ _ => rfl
          · rw [Keyed.get?_insert_of_ne _ _ (mt RawText.ofText_inj.mp hname)]

/-- A file that is put clear of another one leaves that one alone. -/
theorem at?_put_file_iff {content content' : List UInt8} (hne : qs ≠ ps)
    (hclear : old.at? qs = some (.file content') → ¬ ps <+: qs ∧ ¬ qs <+: ps) :
    (put (ps.map RawText.ofText) (.file content) old).at? qs = some (.file content') ↔
      old.at? qs = some (.file content') := by
  constructor
  · intro hfile
    have hself := at?_put_self ps (.file content) old
    by_cases hpq : ps <+: qs
    · obtain ⟨rest, rfl⟩ := hpq
      have hrest : rest ≠ [] := by
        rintro rfl
        exact hne (List.append_nil ps)
      rw [Node.at?_append, hself, Option.bind_some, Node.at?_file content hrest] at hfile
      cases hfile
    · by_cases hqp : qs <+: ps
      · obtain ⟨rest, rfl⟩ := hqp
        have hrest : rest ≠ [] := by
          rintro rfl
          exact hne (List.append_nil qs).symm
        rw [Node.at?_append, hfile, Option.bind_some, Node.at?_file content' hrest] at hself
        cases hself
      · rwa [at?_put_of_apart hpq hqp] at hfile
  · intro hfile
    obtain ⟨hpq, hqp⟩ := hclear hfile
    rwa [at?_put_of_apart hpq hqp]

/-- A tree of text files, or an empty directory, stays one when another such tree is put into it. -/
theorem plain_put (hps : ∀ name ∈ ps, AllowedName name) (hnew : new.Plain) (hold : old.Plain ∨ old = .dir []) :
    (put (ps.map RawText.ofText) new old).Plain := by
  induction ps generalizing old with
  | nil => exact hnew
  | cons name rest ih =>
      obtain ⟨hname, hrest⟩ := List.forall_mem_cons.mp hps
      have hentries : Keyed.Sorted old.entries ∧
          ∀ e ∈ old.entries, (∃ text, AllowedName text ∧ e.1 = RawText.ofText text) ∧ e.2.Plain := by
        rcases hold with hplain | rfl
        · cases old with
          | dir entries => exact ⟨hplain.2.1, Node.plainEntries_iff.mp hplain.2.2⟩
          | _ => simp [Node.entries, Keyed.sorted_nil]
        · simp [Node.entries, Keyed.sorted_nil]
      have hchild : (put (rest.map RawText.ofText) new
          ((Keyed.get? old.entries (RawText.ofText name)).getD (.dir []))).Plain := by
        refine ih hrest ?_
        cases hfound : Keyed.get? old.entries (RawText.ofText name) with
        | none => exact Or.inr rfl
        | some next => exact Or.inl (hentries.2 _ (Keyed.mem_of_get? hfound)).2
      rw [List.map_cons, put_cons]
      refine ⟨?_, hentries.1.insert _ _, Node.plainEntries_iff.mpr ?_⟩
      · intro hnone
        have hfound := Keyed.get?_insert_self old.entries (RawText.ofText name)
          (put (rest.map RawText.ofText) new ((Keyed.get? old.entries (RawText.ofText name)).getD (.dir [])))
        rw [hnone] at hfound
        cases hfound
      · intro e he
        rcases Keyed.mem_insert he with rfl | hin
        · exact ⟨⟨name, hname, rfl⟩, hchild⟩
        · exact hentries.2 e hin

end Putting

/-! ### Looking up -/

section Lookup

variable {n n' : Node} {ns : List RawText} {ps : List String} {last : Bool}
  {onLink onLink' : Trail → RawText → List RawText → Except Fault Node}

/-- In a tree of text files every path of names leads straight down. -/
theorem lookFrom_eq_ok_iff (hplain : n.Plain) (hps : ∀ name ∈ ps, Path.IsName name) {t : Trail} (ht : t.node = n) :
    lookFrom last onLink t (ps.map RawText.ofText) = .ok n' ↔ n.at? ps = some n' := by
  induction ps generalizing n t with
  | nil => simp [lookFrom, Node.at?, ht]
  | cons name rest ih =>
      obtain ⟨hname, hrest⟩ := List.forall_mem_cons.mp hps
      cases n with
      | file _ => simp [lookFrom, Node.at?, ht]
      | link _ => exact absurd hplain id
      | dir entries =>
          simp only [List.map_cons, lookFrom, Node.at?, ht, RawText.ofText_inj, hname.ne_empty, hname.ne_dot,
            hname.ne_dots, decide_false, Bool.or_self, Bool.false_eq_true, if_false]
          cases hentry : Keyed.get? entries (RawText.ofText name) with
          | none => simp
          | some next =>
              have hnext := (hplain.entry hentry).2
              cases next with
              | link _ => exact absurd hnext id
              | _ => exact ih hnext hrest rfl

/-- Where a lookup leads to a tree of text files, further names lead down from there. -/
theorem lookFrom_append (hplain : n.Plain) (hps : ∀ name ∈ ps, Path.IsName name)
    (hlink : ∀ t target rest, onLink t target rest = .ok n →
      ∀ n', onLink' t target (rest ++ ps.map RawText.ofText) = .ok n' ↔ n.at? ps = some n')
    {t : Trail} (hfound : lookFrom false onLink t ns = .ok n) (n' : Node) :
    lookFrom last onLink' t (ns ++ ps.map RawText.ofText) = .ok n' ↔ n.at? ps = some n' := by
  induction ns generalizing t with
  | nil => exact lookFrom_eq_ok_iff hplain hps (Except.ok.inj hfound)
  | cons name rest ih =>
      rw [lookFrom] at hfound
      rw [List.cons_append, lookFrom]
      split at hfound
      · next entries _ =>
          by_cases hstay : (decide (name = "") || decide (name = ".")) = true
          · rw [if_pos hstay] at hfound ⊢
            exact ih hfound
          · rw [if_neg hstay] at hfound ⊢
            by_cases hup : name = ".."
            · rw [if_pos hup] at hfound ⊢
              exact ih hfound
            · rw [if_neg hup] at hfound ⊢
              split at hfound
              · cases hfound
              · next target _ =>
                  -- A link at the end would be the place itself, and that is no link.
                  by_cases hrest : rest = []
                  · subst hrest
                    cases hfound
                    exact absurd hplain id
                  · have hempty : rest.isEmpty = false := List.isEmpty_eq_false_iff.mpr hrest
                    have hmore : (rest ++ ps.map RawText.ofText).isEmpty = false := by simp [hrest]
                    simp only [hempty, Bool.false_and, Bool.false_eq_true, if_false] at hfound
                    simp only [hmore, Bool.false_and, Bool.false_eq_true, if_false]
                    exact hlink _ _ _ hfound n'
              · exact ih hfound
      · cases hfound

/-- The same for a lookup that follows links: the target of a link is looked up with the names that are left. -/
theorem lookup_append (hplain : n.Plain) (hps : ∀ name ∈ ps, Path.IsName name) {links : Nat} {t : Trail}
    (hfound : lookup false links t ns = .ok n) (n' : Node) :
    lookup last links t (ns ++ ps.map RawText.ofText) = .ok n' ↔ n.at? ps = some n' := by
  induction links generalizing t ns n' with
  | zero => exact lookFrom_append hplain hps (by simp) hfound n'
  | succ links ih =>
      refine lookFrom_append hplain hps ?_ hfound n'
      intro t target rest htarget n'
      rw [← List.append_assoc]
      exact ih htarget n'

/-- An empty name in front of other names is passed over. -/
theorem lookFrom_skip {more : List RawText} (hmore : more ≠ [])
    (hlink : ∀ t target rest, onLink t target (rest ++ RawText.ofText "" :: more) = onLink t target (rest ++ more)) (t : Trail) :
    lookFrom last onLink t (ns ++ RawText.ofText "" :: more) = lookFrom last onLink t (ns ++ more) := by
  induction ns generalizing t with
  | nil =>
      obtain ⟨p, rest, rfl⟩ := List.exists_cons_of_ne_nil hmore
      rw [List.nil_append, List.nil_append, lookFrom]
      split
      · exact if_pos rfl
      · next hfile =>
          rw [lookFrom]
          split
          · next entries hdir => exact absurd hdir (hfile entries)
          · rfl
  | cons name rest ih =>
      have hlast : (rest ++ RawText.ofText "" :: more).isEmpty = (rest ++ more).isEmpty := by cases rest <;> simp [hmore]
      simp only [List.cons_append, lookFrom, ih, hlink, hlast]

theorem lookup_skip {more : List RawText} (hmore : more ≠ []) {links : Nat} {t : Trail} :
    lookup last links t (ns ++ RawText.ofText "" :: more) = lookup last links t (ns ++ more) := by
  induction links generalizing t ns last with
  | zero => exact lookFrom_skip hmore (fun _ _ _ => rfl) t
  | succ links ih =>
      refine lookFrom_skip hmore ?_ t
      intro t target rest
      rw [← List.append_assoc, ih, List.append_assoc]

/-- A path that is a text is looked up by its parts. -/
theorem find_eq_ok_iff {top : Node} {path : String} : find last top path = .ok n ↔
    '\x00' ∉ path.toList ∧ path ≠ "" ∧ lookup last 40 ⟨top, []⟩ ((Path.parts path).map RawText.ofText) = .ok n := by
  have hnul : 0 ∈ (RawText.ofText path).bytes ↔ '\x00' ∈ path.toList :=
    RawText.mem_bytes_ofText_iff (c := '\x00') (by decide)
  rw [find, names_ofText]
  simp only [List.contains_iff_mem, hnul, List.isEmpty_iff, RawText.bytes_ofText_eq_nil_iff]
  by_cases hin : '\x00' ∈ path.toList
  · simp [hin]
  · by_cases hempty : path = "" <;> simp [hin, hempty]

end Lookup

/-! ### Looking up in a tree that is kept -/

section Kept

variable {kind : RawText → Prop} {n : Node} {ns : List RawText} {last : Bool} {t : Trail}

/-- All directories on the way are kept with names of a kind. -/
structure Trail.Kept (kind : RawText → Prop) (t : Trail) : Prop where
  top : t.top.Kept kind
  below : ∀ n ∈ t.below, n.Kept kind

theorem Trail.Kept.node (ht : t.Kept kind) : t.node.Kept kind := by
  obtain ⟨top, below⟩ := t
  cases below with
  | nil => exact ht.top
  | cons n rest => exact ht.below n List.mem_cons_self

theorem Trail.Kept.parent (ht : t.Kept kind) : t.parent.Kept kind where
  top := ht.top
  below n hn := ht.below n (List.mem_of_mem_tail hn)

theorem Trail.Kept.enter (ht : t.Kept kind) (hn : n.Kept kind) : (t.enter n).Kept kind where
  top := ht.top
  below := List.forall_mem_cons.mpr ⟨hn, ht.below⟩

theorem Trail.Kept.start (ht : t.Kept kind) (path : RawText) : (t.start path).Kept kind := by
  unfold Trail.start
  split
  · exact ⟨ht.top, by simp⟩
  · exact ht

/-- No lookup leads out of the tree. -/
theorem kept_of_lookFrom {onLink : Trail → RawText → List RawText → Except Fault Node}
    (hlink : ∀ t target rest n, t.Kept kind → onLink t target rest = .ok n → n.Kept kind)
    (ht : t.Kept kind) (hfound : lookFrom last onLink t ns = .ok n) : n.Kept kind := by
  induction ns generalizing t with
  | nil =>
      obtain rfl : t.node = n := Except.ok.inj hfound
      exact ht.node
  | cons name rest ih =>
      rw [lookFrom] at hfound
      split at hfound
      · next entries hnode =>
          have hentries := ht.node
          rw [hnode] at hentries
          split at hfound
          · exact ih ht hfound
          · split at hfound
            · exact ih ht.parent hfound
            · split at hfound
              · cases hfound
              · split at hfound
                · cases hfound
                  trivial
                · exact hlink _ _ _ _ ht hfound
              · next next _ hentry =>
                  have hnext := (Node.keptEntries_iff.mp hentries.2 _ (Keyed.mem_of_get? hentry)).2
                  exact ih (ht.enter hnext) hfound
      · cases hfound

theorem kept_of_lookup {links : Nat} (ht : t.Kept kind) (hfound : lookup last links t ns = .ok n) : n.Kept kind := by
  induction links generalizing t ns n with
  | zero => exact kept_of_lookFrom (by simp) ht hfound
  | succ links ih => exact kept_of_lookFrom (fun t target rest n ht htarget => ih (ht.start target) htarget) ht hfound

theorem kept_of_find {top : Node} {path : String} (htop : top.Kept kind) (hfound : find last top path = .ok n) :
    n.Kept kind :=
  kept_of_lookup ⟨htop, by simp⟩ (find_eq_ok_iff.mp hfound).2.2

end Kept

end Provision.Disk

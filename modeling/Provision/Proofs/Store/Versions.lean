import Mathlib
import Provision.Proofs.Store.Operations

/-!
Versions in a store. Whatever an operation puts into a store carries a number that was never taken before,
and everything else in the store after it was there before. Hence a version names one state of one
object: what is found under a key with a version that was read there earlier is what was read, and it has
been there all the time.
-/

namespace Provision

/-! ### Maps of versioned entries -/

namespace Keyed

universe u v

variable {κ : Type u} {α : Type v} {version : α → Option String}

/-- Every entry of `m'` is an entry of `m`, or its number lies after `last` and up to `last'`. -/
def Renewed (version : α → Option String) (last last' : Nat) (m m' : Keyed κ α) : Prop :=
  ∀ entry ∈ m', entry ∈ m ∨ ∃ n, last < n ∧ n ≤ last' ∧ version entry.2 = some (toString n)

theorem Renewed.of_sublist {last last' : Nat} {m m' : Keyed κ α} (hsublist : m'.Sublist m) :
    Renewed version last last' m m' :=
  fun _ hentry => Or.inl (hsublist.subset hentry)

theorem Renewed.trans {last₁ last₂ last₃ : Nat} {m₁ m₂ m₃ : Keyed κ α} (hle₁ : last₁ ≤ last₂)
    (hle₂ : last₂ ≤ last₃) (hfirst : Renewed version last₁ last₂ m₁ m₂)
    (hsecond : Renewed version last₂ last₃ m₂ m₃) : Renewed version last₁ last₃ m₁ m₃ := by
  intro entry hentry
  rcases hsecond entry hentry with hmiddle | ⟨n, hlt, hle, hversion⟩
  · rcases hfirst entry hmiddle with hold | ⟨n, hlt, hle, hversion⟩
    · exact Or.inl hold
    · exact Or.inr ⟨n, hlt, Nat.le_trans hle hle₂, hversion⟩
  · exact Or.inr ⟨n, Nat.lt_of_le_of_lt hle₁ hlt, hle, hversion⟩

variable [Ord κ]

theorem Renewed.insert {last : Nat} (m : Keyed κ α) (k : κ) {v : α}
    (hversion : version v = some (toString (last + 1))) :
    Renewed version last (last + 1) m (m.insert k v) := by
  intro entry hentry
  rcases mem_insert hentry with rfl | hold
  · exact Or.inr ⟨last + 1, Nat.lt_succ_self last, Nat.le_refl _, hversion⟩
  · exact Or.inl hold

/-- Every entry has the text of a number up to `last` as its version, and the entries are sorted. -/
structure Numbered (version : α → Option String) (last : Nat) (m : Keyed κ α) : Prop where
  sorted : Sorted m
  number : ∀ entry ∈ m, ∃ n ≤ last, version entry.2 = some (toString n)

theorem Numbered.mono {last last' : Nat} {m : Keyed κ α} (hnumbered : Numbered version last m)
    (hle : last ≤ last') : Numbered version last' m where
  sorted := hnumbered.sorted
  number entry hentry := by
    obtain ⟨n, hn, hversion⟩ := hnumbered.number entry hentry
    exact ⟨n, Nat.le_trans hn hle, hversion⟩

theorem Numbered.sublist {last : Nat} {m m' : Keyed κ α} (hnumbered : Numbered version last m)
    (hsublist : m'.Sublist m) : Numbered version last m' where
  sorted := List.Pairwise.sublist hsublist hnumbered.sorted
  number entry hentry := hnumbered.number entry (hsublist.subset hentry)

theorem Numbered.insert [Std.TransOrd κ] [Std.LawfulEqOrd κ] {last : Nat} {m : Keyed κ α}
    (hnumbered : Numbered version last m) (k : κ) {v : α}
    (hversion : version v = some (toString (last + 1))) :
    Numbered version (last + 1) (m.insert k v) where
  sorted := hnumbered.sorted.insert k v
  number entry hentry := by
    rcases mem_insert hentry with rfl | hold
    · exact ⟨last + 1, Nat.le_refl _, hversion⟩
    · exact (hnumbered.mono (Nat.le_succ last)).number entry hold

/-- An entry with a version that is found again under its key was there in between as well. -/
theorem Renewed.get?_between [Std.LawfulEqOrd κ] {last₁ last₂ last₃ : Nat} {m₁ m₂ m₃ : Keyed κ α}
    (hnumbered₁ : Numbered version last₁ m₁) (hnumbered₂ : Numbered version last₂ m₂)
    (hle : last₁ ≤ last₂) (hfirst : Renewed version last₁ last₂ m₁ m₂)
    (hsecond : Renewed version last₂ last₃ m₂ m₃) {k : κ} {old new : α}
    (hold : m₁.get? k = some old) (hnew : m₃.get? k = some new) (hsame : version new = version old) :
    m₂.get? k = some old ∧ new = old := by
  obtain ⟨read, hread, hversion⟩ := hnumbered₁.number _ (mem_of_get? hold)
  -- A number taken after `old` was read is not the number of `old`.
  have hstale : ∀ n, last₁ < n → version new ≠ some (toString n) := by
    intro n hlt heq
    rw [hsame, hversion] at heq
    have : read = n := Nat.repr_inj.mp (Option.some.inj heq)
    omega
  have hmiddle : (k, new) ∈ m₂ := by
    rcases hsecond _ (mem_of_get? hnew) with hin | ⟨n, hlt, _, hnumber⟩
    · exact hin
    · exact absurd hnumber (hstale n (Nat.lt_of_le_of_lt hle hlt))
  have hstart : (k, new) ∈ m₁ := by
    rcases hfirst _ hmiddle with hin | ⟨n, hlt, _, hnumber⟩
    · exact hin
    · exact absurd hnumber (hstale n hlt)
  have heq : new = old := by
    have hfound := hnumbered₁.sorted.get?_of_mem hstart
    rw [hold] at hfound
    exact (Option.some.inj hfound).symm
  exact ⟨heq ▸ hnumbered₂.sorted.get?_of_mem hmiddle, heq⟩

end Keyed

namespace Store

/-! ### What operations keep -/

/-- The entries of a store are sorted and numbered, and trackers are kept under their names. -/
structure Valid (s : Store) : Prop where
  objects : Keyed.Numbered Object.version s.lastNumber s.objects
  trackers : Keyed.Numbered Tracker.version s.lastNumber s.trackers
  named : ∀ entry ∈ s.trackers, entry.2.displayName = entry.1

/-- What lies between a store and a later one: everything new has a new number. -/
structure Advances (s s' : Store) : Prop where
  number : s.lastNumber ≤ s'.lastNumber
  objects : Keyed.Renewed Object.version s.lastNumber s'.lastNumber s.objects s'.objects
  trackers : Keyed.Renewed Tracker.version s.lastNumber s'.lastNumber s.trackers s'.trackers
  valid : s'.Valid

theorem Valid.empty : ({} : Store).Valid where
  objects := ⟨List.Pairwise.nil, by simp⟩
  trackers := ⟨List.Pairwise.nil, by simp⟩
  named := by simp

theorem Advances.trans {s₁ s₂ s₃ : Store} (hfirst : s₁.Advances s₂) (hsecond : s₂.Advances s₃) :
    s₁.Advances s₃ where
  number := Nat.le_trans hfirst.number hsecond.number
  objects := hfirst.objects.trans hfirst.number hsecond.number hsecond.objects
  trackers := hfirst.trackers.trans hfirst.number hsecond.number hsecond.trackers
  valid := hsecond.valid

/-- Nothing new: entries can only go. -/
theorem Advances.of_sublist {s s' : Store} (hvalid : s.Valid)
    (hobjects : s'.objects.Sublist s.objects) (htrackers : s'.trackers.Sublist s.trackers)
    (hnumber : s'.lastNumber = s.lastNumber) : s.Advances s' where
  number := Nat.le_of_eq hnumber.symm
  objects := Keyed.Renewed.of_sublist hobjects
  trackers := Keyed.Renewed.of_sublist htrackers
  valid := by
    refine ⟨?_, ?_, fun entry hentry => hvalid.named entry (htrackers.subset hentry)⟩
    · rw [hnumber]
      exact hvalid.objects.sublist hobjects
    · rw [hnumber]
      exact hvalid.trackers.sublist htrackers

theorem Advances.refl {s : Store} (hvalid : s.Valid) : s.Advances s :=
  Advances.of_sublist hvalid (List.Sublist.refl _) (List.Sublist.refl _) rfl

theorem Advances.of_eq {s s' : Store} (hvalid : s.Valid) (heq : s' = s) : s.Advances s' := by
  rw [heq]
  exact Advances.refl hvalid

/-- One object is put in with the next number. -/
theorem Advances.of_object {s s' : Store} (hvalid : s.Valid) (key : StoreKey) {o : Object}
    (hversion : o.version = some (toString s.nextNumber))
    (hobjects : s'.objects = Keyed.insert s.objects key o) (htrackers : s'.trackers = s.trackers)
    (hnumber : s'.lastNumber = s.nextNumber) : s.Advances s' where
  number := by
    rw [hnumber]
    exact Nat.le_succ _
  objects := by
    rw [hobjects, hnumber]
    exact Keyed.Renewed.insert s.objects key hversion
  trackers := Keyed.Renewed.of_sublist (htrackers ▸ List.Sublist.refl _)
  valid := by
    refine ⟨?_, ?_, ?_⟩
    · rw [hobjects, hnumber]
      exact hvalid.objects.insert key hversion
    · rw [htrackers, hnumber]
      exact hvalid.trackers.mono (Nat.le_succ _)
    · rw [htrackers]
      exact hvalid.named

/-- One tracker is put in under its name with the next number. -/
theorem Advances.of_tracker {s s' : Store} (hvalid : s.Valid) {t : Tracker}
    (hversion : t.version = some (toString s.nextNumber)) (hobjects : s'.objects = s.objects)
    (htrackers : s'.trackers = Keyed.insert s.trackers t.displayName t)
    (hnumber : s'.lastNumber = s.nextNumber) : s.Advances s' where
  number := by
    rw [hnumber]
    exact Nat.le_succ _
  objects := Keyed.Renewed.of_sublist (hobjects ▸ List.Sublist.refl _)
  trackers := by
    rw [htrackers, hnumber]
    exact Keyed.Renewed.insert s.trackers t.displayName hversion
  valid := by
    refine ⟨?_, ?_, ?_⟩
    · rw [hobjects, hnumber]
      exact hvalid.objects.mono (Nat.le_succ _)
    · rw [htrackers, hnumber]
      exact hvalid.trackers.insert t.displayName hversion
    · intro entry hentry
      rw [htrackers] at hentry
      rcases Keyed.mem_insert hentry with rfl | hold
      · rfl
      · exact hvalid.named entry hold

/-- An object that is found again with its version has been there in between, and is the same. -/
theorem Advances.get?_between {s₁ s₂ s₃ : Store} (hvalid : s₁.Valid) (hfirst : s₁.Advances s₂)
    (hsecond : s₂.Advances s₃) {type : ResourceType} {key : ObjectKey} {old new : Object}
    (hold : s₁.get? type key = some old) (hnew : s₃.get? type key = some new)
    (hsame : new.version = old.version) : s₂.get? type key = some old ∧ new = old :=
  hfirst.objects.get?_between hvalid.objects hfirst.valid.objects hfirst.number hsecond.objects
    hold hnew hsame

/-- Every stored object has a version. -/
theorem Valid.version_ne_none {s : Store} (hvalid : s.Valid) {type : ResourceType} {key : ObjectKey}
    {o : Object} (hfound : s.get? type key = some o) : o.version ≠ none := by
  obtain ⟨n, -, hversion⟩ := hvalid.objects.number _ (Keyed.mem_of_get? hfound)
  rw [hversion]
  exact Option.some_ne_none _

/-- A tracker that is found again with its version is the same. -/
theorem Advances.getTracker?_same {s₁ s₂ : Store} (hvalid : s₁.Valid) (hadvances : s₁.Advances s₂)
    {name : String} {old new : Tracker} (hold : s₁.getTracker? name = some old)
    (hnew : s₂.getTracker? name = some new) (hsame : new.version = old.version) : new = old :=
  (hadvances.trackers.get?_between hvalid.trackers hadvances.valid.trackers hadvances.number
    (Advances.refl hadvances.valid).trackers hold hnew hsame).2

/-! ### Each operation -/

variable {s : Store}

theorem create_advances (hvalid : s.Valid) (type : ResourceType) (o : Object) :
    s.Advances (s.create type o).2 := by
  cases hlive : s.get? type o.key with
  | none =>
      rw [create_of_absent hlive]
      exact Advances.of_object hvalid (.of type o.key) (o := s.newObject o) rfl rfl rfl rfl
  | some live =>
      rw [create_of_present hlive]
      exact Advances.refl hvalid

theorem replace_advances (hvalid : s.Valid) (type : ResourceType) (o : Object) :
    s.Advances (s.replace type o).2 := by
  cases hlive : s.get? type o.key with
  | none =>
      rw [replace_of_absent hlive]
      exact Advances.refl hvalid
  | some live =>
      rw [replace_of_present hlive]
      split
      · exact Advances.of_object hvalid (.of type o.key) (o := s.successor live o) rfl rfl rfl rfl
      · exact Advances.refl hvalid

theorem mergePatch_advances (hvalid : s.Valid) (type : ResourceType) (key : ObjectKey)
    (patch : Json) : s.Advances (s.mergePatch type key patch).2 := by
  obtain ⟨f, heq⟩ | ⟨live, o, -, -, heq⟩ := s.mergePatch_cases type key patch
  · rw [heq]
    exact Advances.refl hvalid
  · rw [heq]
    exact Advances.of_object hvalid (.of type key) (o := s.reversioned o) rfl rfl rfl rfl

theorem delete_advances (hvalid : s.Valid) (type : ResourceType) (key : ObjectKey) :
    s.Advances (s.delete type key).2 := by
  refine Advances.of_sublist hvalid (delete_objects_sublist s type key) ?_ ?_
  · rw [delete_trackers]
  · rw [delete_lastNumber]

theorem insertTracker_advances (hvalid : s.Valid) (t : Tracker) :
    s.Advances (s.insertTracker t).2 :=
  Advances.of_tracker (t := s.newTracker t) hvalid rfl rfl rfl rfl

theorem createTracker_advances (hvalid : s.Valid) (t : Tracker) :
    s.Advances (s.createTracker t).2 := by
  unfold createTracker
  split
  · exact Advances.refl hvalid
  · exact Advances.of_tracker (t := s.newTracker t) hvalid rfl rfl rfl rfl

/-- The tracker under a name has that name. -/
theorem Valid.displayName_of_getTracker? (hvalid : s.Valid) {name : String} {t : Tracker}
    (hfound : s.getTracker? name = some t) : t.displayName = name :=
  hvalid.named (name, t) (Keyed.mem_of_get? hfound)

theorem replaceTrackerStatus_advances (hvalid : s.Valid) (t : Tracker) :
    s.Advances (s.replaceTrackerStatus t).2 := by
  rcases s.replaceTrackerStatus_cases t with ⟨f, left, _, heq⟩ | ⟨old, hfound, _, heq⟩
  · rw [heq]
    exact Advances.of_sublist hvalid (List.Sublist.refl _) (List.Sublist.refl _) rfl
  · rw [heq]
    have hname := hvalid.displayName_of_getTracker? hfound
    change (s.revised old t.status).displayName = t.displayName at hname
    exact Advances.of_tracker hvalid (t := s.revised old t.status) rfl rfl (hname ▸ rfl) rfl

theorem deleteTracker_advances (hvalid : s.Valid) (name : String) :
    s.Advances (s.deleteTracker name).2 := by
  unfold deleteTracker
  split
  · exact Advances.refl hvalid
  · refine Advances.of_sublist hvalid (collectOwned_objects_sublist _ _) ?_ ?_
    · rw [collectOwned_trackers]
      exact Keyed.erase_sublist s.trackers name
    · simp only [collectOwned_lastNumber, record]

theorem insert_advances (hvalid : s.Valid) (o : Object) : s.Advances (s.insert o) := by
  unfold insert
  split
  · exact Advances.refl hvalid
  · exact Advances.of_object hvalid _ rfl rfl rfl rfl

/-- The step lemma: whatever a client asks for, the store advances. -/
theorem perform_advances (hvalid : s.Valid) (r : Request) : s.Advances (r.perform s).2 := by
  cases r with
  | get type key => exact Advances.refl hvalid
  | create type o => exact create_advances hvalid type o
  | replace type o => exact replace_advances hvalid type o
  | mergePatch type key patch => exact mergePatch_advances hvalid type key patch
  | delete type key => exact delete_advances hvalid type key
  | list type space selector => exact Advances.refl hvalid
  | getTracker name => exact Advances.refl hvalid
  | createTracker t => exact createTracker_advances hvalid t
  | replaceTrackerStatus t => exact replaceTrackerStatus_advances hvalid t
  | deleteTracker name => exact deleteTracker_advances hvalid name

theorem apply_advances (hvalid : s.Valid) (op : Operation) : s.Advances (op.apply s) := by
  cases op with
  | request r => exact perform_advances hvalid r
  | insert o => exact insert_advances hvalid o
  | insertTracker t => exact insertTracker_advances hvalid t
  | refuseStatus n =>
      exact Advances.of_sublist hvalid (List.Sublist.refl _) (List.Sublist.refl _) rfl

theorem Reachable.valid (hreachable : s.Reachable) : s.Valid := by
  induction hreachable with
  | empty => exact Valid.empty
  | apply op _ ih => exact (apply_advances ih op).valid

end Store

end Provision

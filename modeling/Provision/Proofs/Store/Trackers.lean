import Provision.Proofs.Store.Deletion

/-!
What can happen to the trackers of a store: they come with a new uid, which they keep as long as they are there,
and only operations that name them concern them.
-/

namespace Provision

/-- Whether an operation can end the life of a tracker. -/
def Operation.Ends (name : String) : Operation → Prop
  | .request (.deleteTracker gone) => gone = name
  | .insertTracker t => t.displayName = name
  | _ => False

namespace Store

variable {s s' : Store} {name other uid : String}

/-! ### Each operation -/

/-- What an operation can do to the trackers. -/
inductive TracksAfter (s : Store) : Operation → Keyed String Tracker → Prop
  | same (op : Operation) : TracksAfter s op s.trackers
  | created {t : Tracker} (habsent : s.getTracker? t.displayName = none) :
      TracksAfter s (.request (.createTracker t)) (Keyed.insert s.trackers t.displayName (s.newTracker t))
  | inserted (t : Tracker) :
      TracksAfter s (.insertTracker t) (Keyed.insert s.trackers t.displayName (s.newTracker t))
  | revised {t old : Tracker} (hold : s.getTracker? t.displayName = some old) :
      TracksAfter s (.request (.replaceTrackerStatus t))
        (Keyed.insert s.trackers t.displayName (s.revised old t.status))
  | deleted (name : String) :
      TracksAfter s (.request (.deleteTracker name)) (Keyed.erase s.trackers name)

/-- The step lemma. -/
theorem tracksAfter_perform (s : Store) (r : Request) :
    s.TracksAfter (.request r) (r.perform s).2.trackers := by
  cases r with
  | get type key => exact .same _
  | list type space selector => exact .same _
  | getTracker name => exact .same _
  | create type o =>
      cases hlive : s.get? type o.key with
      | none =>
          rw [Request.perform, create_of_absent hlive]
          exact .same _
      | some live =>
          rw [Request.perform, create_of_present hlive]
          exact .same _
  | replace type o =>
      cases hlive : s.get? type o.key with
      | none =>
          rw [Request.perform, replace_of_absent hlive]
          exact .same _
      | some live =>
          rw [Request.perform, replace_of_present hlive]
          split
          · exact .same _
          · exact .same _
  | mergePatch type key patch =>
      obtain ⟨f, heq⟩ | ⟨live, o, -, -, heq⟩ := s.mergePatch_cases type key patch
      · rw [Request.perform, heq]
        exact .same _
      · rw [Request.perform, heq]
        exact .same _
  | delete type key =>
      rw [Request.perform, delete_trackers]
      exact .same _
  | createTracker t =>
      cases hfound : s.getTracker? t.displayName with
      | none =>
          rw [Request.perform, createTracker_of_absent hfound]
          exact .created hfound
      | some old =>
          rw [Request.perform, createTracker_of_present hfound]
          exact .same _
  | replaceTrackerStatus t =>
      rcases s.replaceTrackerStatus_cases t with ⟨f, left, -, heq⟩ | ⟨old, hold, -, heq⟩
      · rw [Request.perform, heq]
        exact .same _
      · rw [Request.perform, heq]
        exact .revised hold
  | deleteTracker name =>
      cases hfound : s.getTracker? name with
      | none =>
          rw [Request.perform, deleteTracker_of_absent hfound]
          exact .same _
      | some t =>
          rw [Request.perform, deleteTracker_of_present hfound, collectOwned_trackers]
          exact .deleted name

theorem tracksAfter_apply (s : Store) (op : Operation) : s.TracksAfter op (op.apply s).trackers := by
  cases op with
  | request r => exact s.tracksAfter_perform r
  | insert o =>
      simp only [Operation.apply, Store.insert]
      split
      · exact .same _
      · exact .same _
  | insertTracker t => exact .inserted t
  | refuseStatus n => exact .same _

/-! ### Uids -/

/-- Every tracker has a uid. -/
def Identified (s : Store) : Prop := ∀ entry ∈ s.trackers, entry.2.metadata.uid ≠ none

/-- Every tracker has the uid of a number that was taken, and of two trackers each has its own. -/
structure Marked (s : Store) : Prop where
  number : ∀ entry ∈ s.trackers, ∃ n ≤ s.lastNumber, entry.2.metadata.uid = some (uidOf n)
  distinct : ∀ entry ∈ s.trackers, ∀ entry' ∈ s.trackers,
    entry.2.metadata.uid = entry'.2.metadata.uid → entry.1 = entry'.1

theorem uidOf_inj {n n' : Nat} (heq : uidOf n = uidOf n') : n = n' := by
  have hnumbers : toString n = toString n' := (String.append_right_inj "uid-").mp heq
  exact Nat.repr_inj.mp hnumbers

namespace Marked

/-- Trackers may go, and stay with their uids. -/
theorem of_old (hmarked : s.Marked) (hnumber : s.lastNumber ≤ s'.lastNumber)
    (hold : ∀ entry ∈ s'.trackers, ∃ entry' ∈ s.trackers,
      entry'.1 = entry.1 ∧ entry'.2.metadata.uid = entry.2.metadata.uid) : s'.Marked where
  number entry hentry := by
    obtain ⟨entry', hentry', -, huid⟩ := hold entry hentry
    obtain ⟨n, hn, hmark⟩ := hmarked.number entry' hentry'
    exact ⟨n, Nat.le_trans hn hnumber, huid.symm.trans hmark⟩
  distinct entry hentry entry' hentry' hsame := by
    obtain ⟨was, hwas, hname, huid⟩ := hold entry hentry
    obtain ⟨was', hwas', hname', huid'⟩ := hold entry' hentry'
    rw [← hname, ← hname']
    exact hmarked.distinct was hwas was' hwas' (huid.trans (hsame.trans huid'.symm))

/-- A new tracker has a new uid. -/
theorem insert (hmarked : s.Marked) {key : String} {t : Tracker}
    (huid : t.metadata.uid = some (uidOf s.nextNumber)) (hnumber : s'.lastNumber = s.nextNumber)
    (htrackers : s'.trackers = Keyed.insert s.trackers key t) : s'.Marked := by
  have hfresh : ∀ entry ∈ s.trackers, entry.2.metadata.uid ≠ t.metadata.uid := by
    intro entry hentry heq
    obtain ⟨n, hn, hmark⟩ := hmarked.number entry hentry
    rw [hmark, huid] at heq
    have := uidOf_inj (Option.some.inj heq)
    unfold nextNumber at this
    omega
  refine ⟨fun entry hentry => ?_, fun entry hentry entry' hentry' hsame => ?_⟩
  · rw [htrackers] at hentry
    rw [hnumber]
    rcases Keyed.mem_insert hentry with rfl | hold
    · exact ⟨s.nextNumber, Nat.le_refl _, huid⟩
    · obtain ⟨n, hn, hmark⟩ := hmarked.number entry hold
      exact ⟨n, Nat.le_succ_of_le hn, hmark⟩
  · rw [htrackers] at hentry hentry'
    rcases Keyed.mem_insert hentry with rfl | hold <;> rcases Keyed.mem_insert hentry' with rfl | hold'
    · rfl
    · exact absurd hsame.symm (hfresh entry' hold')
    · exact absurd hsame (hfresh entry hold)
    · exact hmarked.distinct entry hold entry' hold' hsame

end Marked

theorem createTracker_lastNumber {t : Tracker} (habsent : s.getTracker? t.displayName = none) :
    (s.createTracker t).2.lastNumber = s.nextNumber := by
  rw [createTracker_of_absent habsent]
  rfl

/-- The step lemma. -/
theorem Marked.apply (hmarked : s.Marked) (hvalid : s.Valid) (op : Operation) : (op.apply s).Marked := by
  have hnumber := (apply_advances hvalid op).number
  have htracks := s.tracksAfter_apply op
  generalize hafter : (op.apply s).trackers = trackers at htracks
  cases htracks with
  | same => exact hmarked.of_old hnumber fun entry hentry => ⟨entry, hafter ▸ hentry, rfl, rfl⟩
  | created habsent => exact hmarked.insert rfl (createTracker_lastNumber habsent) hafter
  | inserted t => exact hmarked.insert rfl rfl hafter
  | @revised t old hold =>
      refine hmarked.of_old hnumber fun entry hentry => ?_
      rw [hafter] at hentry
      rcases Keyed.mem_insert hentry with rfl | hin
      · exact ⟨_, Keyed.mem_of_get? hold, rfl, rfl⟩
      · exact ⟨entry, hin, rfl, rfl⟩
  | deleted name =>
      refine hmarked.of_old hnumber fun entry hentry => ?_
      rw [hafter] at hentry
      exact ⟨entry, (Keyed.erase_sublist s.trackers name).subset hentry, rfl, rfl⟩

/-- The run lemma: trackers differ by their uids. -/
theorem Reachable.marked (hreachable : s.Reachable) : s.Marked := by
  induction hreachable with
  | empty => exact ⟨by simp, by simp⟩
  | apply op hbefore ih => exact ih.apply hbefore.valid op

theorem Reachable.identified (hreachable : s.Reachable) : s.Identified := by
  intro entry hentry
  obtain ⟨n, -, hmark⟩ := hreachable.marked.number entry hentry
  rw [hmark]
  exact Option.some_ne_none _

theorem trackerUid?_of_found {t : Tracker} (hfound : s.getTracker? name = some t) :
    s.trackerUid? name = t.metadata.uid := by
  rw [trackerUid?, hfound, Option.bind_some]

theorem trackerUid?_of_absent (habsent : s.getTracker? name = none) : s.trackerUid? name = none := by
  rw [trackerUid?, habsent, Option.bind_none]

theorem Identified.exists_uid (hidentified : s.Identified) {t : Tracker} (hfound : s.getTracker? name = some t) :
    ∃ uid, t.metadata.uid = some uid ∧ s.trackerUid? name = some uid := by
  obtain ⟨uid, huid⟩ := Option.ne_none_iff_exists'.mp (hidentified (name, t) (Keyed.mem_of_get? hfound))
  exact ⟨uid, huid, (trackerUid?_of_found hfound).trans huid⟩

/-- Two trackers do not share a uid. -/
theorem Marked.trackerUid?_ne (hmarked : s.Marked) (hne : other ≠ name) (huid : s.trackerUid? name = some uid) :
    s.trackerUid? other ≠ some uid := by
  intro hsame
  obtain ⟨t, hfound, ht⟩ := Option.bind_eq_some_iff.mp huid
  obtain ⟨t', hfound', ht'⟩ := Option.bind_eq_some_iff.mp hsame
  exact hne (hmarked.distinct _ (Keyed.mem_of_get? hfound') _ (Keyed.mem_of_get? hfound) (ht'.trans ht.symm))

/-! ### Trackers by their names -/

/-- The tracker that a request may write. -/
def Request.written? : Request → Option String
  | createTracker t => some t.displayName
  | replaceTrackerStatus t => some t.displayName
  | deleteTracker name => some name
  | _ => none

/-- A request leaves every tracker but the one that it may write as it is. -/
theorem getTracker?_perform_of_ne {r : Request} (hother : r.written? ≠ some name) :
    (r.perform s).2.getTracker? name = s.getTracker? name := by
  have htracks := s.tracksAfter_perform r
  unfold getTracker?
  generalize (r.perform s).2.trackers = trackers at htracks
  cases htracks with
  | same => rfl
  | created _ => exact Keyed.get?_insert_of_ne _ _ fun heq => hother (congrArg some heq.symm)
  | revised _ => exact Keyed.get?_insert_of_ne _ _ fun heq => hother (congrArg some heq.symm)
  | deleted _ => exact Keyed.get?_erase_of_ne _ fun heq => hother (congrArg some heq.symm)

/-- As long as a tracker lives, it keeps its uid. -/
theorem trackerUid?_apply {op : Operation} (hlives : ¬ op.Ends name) (huid : s.trackerUid? name = some uid) :
    (op.apply s).trackerUid? name = some uid := by
  obtain ⟨t, hfound, ht⟩ := Option.bind_eq_some_iff.mp huid
  have htracks := s.tracksAfter_apply op
  unfold trackerUid? getTracker?
  generalize (op.apply s).trackers = trackers at htracks
  cases htracks with
  | same => exact huid
  | @created new habsent =>
      have hne : name ≠ new.displayName := by
        rintro rfl
        rw [hfound] at habsent
        cases habsent
      rw [Keyed.get?_insert_of_ne _ _ hne]
      exact huid
  | inserted new =>
      rw [Keyed.get?_insert_of_ne _ _ fun heq => hlives heq.symm]
      exact huid
  | @revised new old hold =>
      by_cases hname : name = new.displayName
      · subst hname
        obtain rfl : old = t := Option.some.inj (hold.symm.trans hfound)
        rw [Keyed.get?_insert_self]
        exact ht
      · rw [Keyed.get?_insert_of_ne _ _ hname]
        exact huid
  | deleted gone =>
      rw [Keyed.get?_erase_of_ne _ fun heq => hlives heq.symm]
      exact huid

end Store

end Provision

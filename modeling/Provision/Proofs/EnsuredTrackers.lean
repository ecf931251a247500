import Provision.Proofs.Process
import Provision.Proofs.Store.Trackers
import Provision.Tracker.Report

/-!
Making sure of a tracker at the same time. Any number of callers look for a tracker and create it if they do not
find it; who is refused because somebody was faster looks again. As long as nobody deletes the tracker, all of them
come to the same one, which was created once at most.
-/

namespace Provision

/-! ### The process -/

namespace Process

/-- What a caller does whose tracker is there already. -/
def afterConflict (name : String) : Except Failure (Option Tracker) → Process (Except Failure Tracker)
  | .ok (some t) => done (.ok t)
  | .ok none => done (.error
      (.internal ("tracker " ++ name ++ " vanished after create conflict") "ensure_tracker"))
  | .error f => done (.error f)

/-- What a caller does who tried to create a tracker. -/
def afterCreate (name : String) : Except Failure Tracker → Process (Except Failure Tracker)
  | .ok t => done (.ok t)
  | .error f =>
    if f.isAlreadyExists then ask (.request (.getTracker name)) (afterConflict name) else done (.error f)

/-- What a caller does who looked for a tracker. -/
def afterLook (name : String) (spec : TrackerSpec) (owner : Option OwnerReference) :
    Except Failure (Option Tracker) → Process (Except Failure Tracker)
  | .ok (some t) => done (.ok t)
  | .ok none => ask (.request (.createTracker (Client.freshTracker name spec owner))) (afterCreate name)
  | .error f => done (.error f)

theorem run_trackerOfOther (name : String) :
    (client.trackerOfOther name).run = ask (.request (.getTracker name)) (afterConflict name) := by
  refine congrArg (ask (.request (.getTracker name))) (funext fun found => ?_)
  match found with
  | .error f => rfl
  | .ok (some t) => rfl
  | .ok none => rfl

/-- Making sure of a tracker, question by question. -/
theorem run_ensureTracker (name : String) (spec : TrackerSpec) (owner : Option OwnerReference) :
    (client.ensureTracker name spec owner).run =
      ask (.request (.getTracker name)) (afterLook name spec owner) := by
  refine congrArg (ask (.request (.getTracker name))) (funext fun found => ?_)
  match found with
  | .error f => rfl
  | .ok (some t) => rfl
  | .ok none =>
      refine congrArg (ask (.request (.createTracker _))) (funext fun created => ?_)
      match created with
      | .ok t => rfl
      | .error f =>
          change (if f.isAlreadyExists then _ else _) = (if f.isAlreadyExists then _ else _)
          exact if_congr Iff.rfl (run_trackerOfOther name) rfl

/-- A caller after some questions, with what it knows of the tracker that is stored. -/
inductive Ensures (name : String) (s : Store) : Nat → Process (Except Failure Tracker) → Prop
  | looks (spec : TrackerSpec) (owner : Option OwnerReference) :
      Ensures name s 0 (.ask (.request (.getTracker name)) (afterLook name spec owner))
  | creates (spec : TrackerSpec) (owner : Option OwnerReference) :
      Ensures name s 1
        (.ask (.request (.createTracker (Client.freshTracker name spec owner))) (afterCreate name))
  | looksAgain {uid : String} (hstored : s.trackerUid? name = some uid) :
      Ensures name s 2 (.ask (.request (.getTracker name)) (afterConflict name))
  | returns {asked : Nat} {t : Tracker} {uid : String} (huid : t.metadata.uid = some uid)
      (hstored : s.trackerUid? name = some uid) : Ensures name s asked (.done (.ok t))

namespace Ensures

variable {name : String} {s s' : Store} {asked : Nat} {p : Process (Except Failure Tracker)}

/-- What a caller knows stays true as long as the tracker lives. -/
theorem mono (hensures : Ensures name s asked p)
    (hlives : ∀ uid, s.trackerUid? name = some uid → s'.trackerUid? name = some uid) :
    Ensures name s' asked p := by
  cases hensures with
  | looks spec owner => exact .looks spec owner
  | creates spec owner => exact .creates spec owner
  | looksAgain hstored => exact .looksAgain (hlives _ hstored)
  | returns huid hstored => exact .returns huid (hlives _ hstored)

/-- A caller only asks for what ends no tracker, and at most three times. -/
theorem asks {q : Query} {next : q.Answer → Process (Except Failure Tracker)}
    (hensures : Ensures name s asked (.ask q next)) :
    asked < 3 ∧ ∃ r, q = .request r ∧ ¬ (Operation.request r).Ends name := by
  cases hensures with
  | looks spec owner => exact ⟨by omega, _, rfl, id⟩
  | creates spec owner => exact ⟨by omega, _, rfl, id⟩
  | looksAgain hstored => exact ⟨by omega, _, rfl, id⟩

/-- A caller that is done has come to a tracker with the uid of the stored one. -/
theorem returned {result : Except Failure Tracker} (hensures : Ensures name s asked (.done result)) :
    ∃ t uid, result = .ok t ∧ t.metadata.uid = some uid ∧ s.trackerUid? name = some uid := by
  cases hensures with
  | returns huid hstored => exact ⟨_, _, rfl, huid, hstored⟩

theorem returns_of_found (hidentified : s.Identified) {t : Tracker} (hfound : s.getTracker? name = some t)
    (asked : Nat) : Ensures name s asked (.done (.ok t)) := by
  obtain ⟨uid, huid, hstored⟩ := hidentified.exists_uid hfound
  exact .returns huid hstored

/-- The step lemma: the answer to a caller takes it one question further. -/
theorem answer {q : Query} {next : q.Answer → Process (Except Failure Tracker)} {a : q.Answer}
    (hensures : Ensures name s asked (.ask q next)) (hanswers : q.Answers s a s')
    (hidentified : s.Identified) : Ensures name s' (asked + 1) (next a) := by
  cases hensures with
  | looks spec owner =>
      obtain ⟨rfl, rfl⟩ := Prod.mk.inj hanswers
      cases hfound : s.getTracker? name with
      | none => exact .creates spec owner
      | some t => exact returns_of_found hidentified hfound 1
  | creates spec owner =>
      change s.createTracker (Client.freshTracker name spec owner) = (a, s') at hanswers
      cases hfound : s.getTracker? name with
      | none =>
          rw [Store.createTracker_of_absent (t := Client.freshTracker name spec owner) hfound] at hanswers
          obtain ⟨rfl, rfl⟩ := Prod.mk.inj hanswers
          exact .returns rfl (congrArg (Option.bind · _) (Keyed.get?_insert_self s.trackers _ _))
      | some t =>
          rw [Store.createTracker_of_present (t := Client.freshTracker name spec owner) hfound] at hanswers
          obtain ⟨rfl, rfl⟩ := Prod.mk.inj hanswers
          obtain ⟨uid, -, hstored⟩ := hidentified.exists_uid hfound
          exact .looksAgain hstored
  | looksAgain hstored =>
      obtain ⟨rfl, rfl⟩ := Prod.mk.inj hanswers
      cases hfound : s.getTracker? name with
      | none =>
          rw [Store.trackerUid?_of_absent hfound] at hstored
          cases hstored
      | some t => exact returns_of_found hidentified hfound 3

end Ensures

end Process

/-! ### In a system -/

instance (i : Nat) : (e : Event) → Decidable (e.isOf i)
  | .answer j _ _ => inferInstanceAs (Decidable (j = i))
  | .other _ => inferInstanceAs (Decidable False)

namespace Moment

/-- Whether a tracker came at some moment. -/
def creates (name : String) (m : Moment) : Bool :=
  (m.before.getTracker? name).isNone && (m.after.getTracker? name).isSome

/-- A tracker that lives is there afterwards if it was there or came. -/
theorem isSome_add_creates {name : String} {s : Store} {op : Operation} (hreachable : s.Reachable)
    (hlives : ¬ op.Ends name) (event : Event) :
    (s.getTracker? name).isSome.toNat + (creates name ⟨s, event, op.apply s⟩).toNat =
      ((op.apply s).getTracker? name).isSome.toNat := by
  cases hfound : s.getTracker? name with
  | none => simp [creates, hfound]
  | some t =>
      obtain ⟨uid, -, hstored⟩ := hreachable.identified.exists_uid hfound
      obtain ⟨after, hafter, -⟩ := Option.bind_eq_some_iff.mp (Store.trackerUid?_apply hlives hstored)
      simp [creates, hfound, hafter]

end Moment

namespace System

/-- How many questions of the process with a number were answered. -/
def asked (i : Nat) (past : List Moment) : Nat := past.countP fun m => m.event.isOf i

variable {name : String} {start : Store} {sys sys' : System (Except Failure Tracker)} {past : List Moment}
  {m : Moment}

theorem asked_append_of_isOf {i : Nat} (hown : m.event.isOf i) : asked i (past ++ [m]) = asked i past + 1 := by
  simp [asked, hown]

theorem asked_append_of_not_isOf {i : Nat} (hother : ¬ m.event.isOf i) : asked i (past ++ [m]) = asked i past := by
  simp [asked, hother]

/-- Every process is a caller that makes sure of the tracker, which came at most once. -/
structure Agrees (name : String) (start : Store) (past : List Moment)
    (sys : System (Except Failure Tracker)) : Prop where
  reachable : sys.store.Reachable
  ensures (i : Nat) (p : Process (Except Failure Tracker)) (hp : sys.processes[i]? = some p) :
    Process.Ensures name sys.store (asked i past) p
  created : (start.getTracker? name).isSome.toNat + past.countP (Moment.creates name) =
    (sys.store.getTracker? name).isSome.toNat

namespace Agrees

theorem created_append (hagrees : Agrees name start past sys) {op : Operation} (hlives : ¬ op.Ends name)
    (event : Event) : (start.getTracker? name).isSome.toNat +
      (past ++ [Moment.mk sys.store event (op.apply sys.store)]).countP (Moment.creates name) =
        ((op.apply sys.store).getTracker? name).isSome.toNat := by
  rw [List.countP_append, ← Nat.add_assoc, hagrees.created,
    ← Moment.isSome_add_creates hagrees.reachable hlives event, List.countP_singleton]
  cases Moment.creates name ⟨sys.store, event, op.apply sys.store⟩ <;> rfl

/-- The step lemma. -/
theorem step (hagrees : Agrees name start past sys) (hstep : Step sys m sys')
    (hlives : ∀ op, m.event = .other op → ¬ op.Ends name) : Agrees name start (past ++ [m]) sys' := by
  have hreachable := hstep.reachable hagrees.reachable
  cases hstep with
  | other op =>
      have hends := hlives op rfl
      refine ⟨hreachable, fun i p hp => ?_, hagrees.created_append hends _⟩
      rw [asked_append_of_not_isOf (m := ⟨_, .other op, _⟩) id]
      exact (hagrees.ensures i p hp).mono fun uid huid => Store.trackerUid?_apply hends huid
  | @answer j q next a after hwaits hanswers =>
      have hensures := hagrees.ensures j _ hwaits
      obtain ⟨-, r, rfl, hends⟩ := hensures.asks
      have hafter : after = (Operation.request r).apply sys.store := congrArg Prod.snd hanswers.symm
      refine ⟨hreachable, fun i p hp => ?_, ?_⟩
      · dsimp only at hp ⊢
        by_cases hj : j = i
        · subst hj
          have hlt : j < sys.processes.length := (List.getElem?_eq_some_iff.mp hwaits).1
          rw [List.getElem?_set_self hlt] at hp
          obtain rfl := Option.some.inj hp
          rw [asked_append_of_isOf (m := ⟨_, .answer j _ a, after⟩) rfl]
          exact hensures.answer hanswers hagrees.reachable.identified
        · rw [List.getElem?_set_ne hj] at hp
          rw [asked_append_of_not_isOf (m := ⟨_, .answer j _ a, after⟩) hj, hafter]
          exact (hagrees.ensures i p hp).mono fun uid huid => Store.trackerUid?_apply hends huid
      · subst hafter
        exact hagrees.created_append hends _

end Agrees

/-- A caller that makes sure of a tracker: what the tracker is to say, and who is to own it. -/
abbrev Caller := TrackerSpec × Option OwnerReference

/-- What a caller does. -/
def Caller.process (name : String) (c : Caller) : Process (Except Failure Tracker) :=
  (Process.client.ensureTracker name c.1 c.2).run

/-- The run lemma. -/
theorem Run.agrees {callers : List Caller} (hreachable : start.Reachable)
    (hrun : Run ⟨start, callers.map (Caller.process name)⟩ past sys)
    (hlives : ∀ m ∈ past, ∀ op, m.event = .other op → ¬ op.Ends name) : Agrees name start past sys := by
  induction hrun with
  | start =>
      refine ⟨hreachable, fun i p hp => ?_, by simp⟩
      obtain ⟨c, -, rfl⟩ := List.mem_map.mp (List.mem_of_getElem? hp)
      rw [Caller.process, Process.run_ensureTracker]
      exact .looks c.1 c.2
  | step _ hstep ih =>
      have hbefore := ih fun m hm => hlives m (List.mem_append_left _ hm)
      exact hbefore.step hstep (hlives _ (List.mem_append_right _ List.mem_cons_self))

/-- Whoever waits can be answered. -/
theorem exists_step {α : Type} {sys : System α} {i : Nat} {r : Store.Request}
    {next : Query.Answer (.request r) → Process α} (hwaits : sys.processes[i]? = some (.ask (.request r) next)) :
    ∃ m sys', Step sys m sys' ∧ m.event.isOf i :=
  ⟨_, _, .answer hwaits rfl, rfl⟩

/-- The caller with a number has come to a tracker. -/
def CameTo (sys : System (Except Failure Tracker)) (i : Nat) (t : Tracker) : Prop :=
  sys.processes[i]? = some (.done (.ok t))

theorem Agrees.uid_of_cameTo (hagrees : Agrees name start past sys) {i : Nat} {t : Tracker}
    (hcame : sys.CameTo i t) : ∃ uid, t.metadata.uid = some uid ∧ sys.store.trackerUid? name = some uid := by
  obtain ⟨came, uid, hresult, huid, hstored⟩ := (hagrees.ensures i _ hcame).returned
  obtain rfl : t = came := Except.ok.inj hresult
  exact ⟨uid, huid, hstored⟩

theorem Agrees.cameTo_or_waits (hagrees : Agrees name start past sys) {i : Nat}
    {p : Process (Except Failure Tracker)} (hp : sys.processes[i]? = some p) :
    (∃ t, sys.CameTo i t) ∨ asked i past < 3 ∧ ∃ m sys', Step sys m sys' ∧ m.event.isOf i := by
  have hensures := hagrees.ensures i p hp
  cases p with
  | done result =>
      obtain ⟨t, _, rfl, -⟩ := hensures.returned
      exact Or.inl ⟨t, hp⟩
  | ask q next =>
      obtain ⟨hasked, r, rfl, -⟩ := hensures.asks
      exact Or.inr ⟨hasked, exists_step hp⟩

/-- All callers agree. In every run of any number of callers that make sure of a tracker, among anything else that
happens to the store but for the end of the tracker, no caller ever fails: it has come to a tracker, or it can be
answered and was answered less than three times. What callers have come to has the uid of the tracker that is
stored. The tracker was not created if it was there at the start; if it was not, it was created exactly once by the
time that a caller has come to it. -/
theorem callers_agree {callers : List Caller} (hreachable : start.Reachable)
    (hrun : Run ⟨start, callers.map (Caller.process name)⟩ past sys)
    (hlives : ∀ m ∈ past, ∀ op, m.event = .other op → ¬ op.Ends name) :
    (∀ i < callers.length, (∃ t, sys.CameTo i t) ∨
      asked i past < 3 ∧ ∃ m sys', Step sys m sys' ∧ m.event.isOf i) ∧
    (∀ i t, sys.CameTo i t → ∃ uid, t.metadata.uid = some uid ∧ sys.store.trackerUid? name = some uid) ∧
    (start.getTracker? name ≠ none → past.countP (Moment.creates name) = 0) ∧
    (start.getTracker? name = none → (∃ i t, sys.CameTo i t) → past.countP (Moment.creates name) = 1) := by
  have hagrees := hrun.agrees hreachable hlives
  have hcreated := hagrees.created
  refine ⟨fun i hi => ?_, fun i t => hagrees.uid_of_cameTo, fun hpresent => ?_, fun habsent hcame => ?_⟩
  · have hlt : i < sys.processes.length := by
      rw [hrun.length_processes]
      exact hi.trans_eq (List.length_map _).symm
    exact hagrees.cameTo_or_waits (List.getElem?_eq_getElem hlt)
  · have hsome : (start.getTracker? name).isSome := Option.isSome_iff_ne_none.mpr hpresent
    have hle := Bool.toNat_le (sys.store.getTracker? name).isSome
    rw [hsome, Bool.toNat_true] at hcreated
    omega
  · obtain ⟨i, t, hcame⟩ := hcame
    obtain ⟨uid, -, huid⟩ := hagrees.uid_of_cameTo hcame
    obtain ⟨now, hnow, -⟩ := Option.bind_eq_some_iff.mp huid
    simpa [habsent, hnow] using hcreated

/-! ### Two callers -/

namespace TwoCallers

/-- Two callers that want different owners. -/
def callers : List Caller := [({}, none), ({}, some ⟨"v1", none, none, "Namespace", "svc", "uid-0"⟩)]

/-- Neither finds the tracker, and the second one is refused: both come to the tracker of the first. -/
theorem second_comes_to_first : ∃ past sys,
    Run ⟨{}, callers.map (Caller.process "svc-mesh")⟩ past sys ∧
    (∃ t, sys.CameTo 0 t) ∧ (∃ t, sys.CameTo 1 t) ∧
    (∀ i t, sys.CameTo i t → t.metadata.uid = some "uid-1") ∧
    past.countP (Moment.creates "svc-mesh") = 1 := by
  have hlooked := ((Run.start : Run ⟨{}, callers.map (Caller.process "svc-mesh")⟩ [] _).step
    (.answer (i := 0) rfl rfl)).step (.answer (i := 1) rfl rfl)
  have hcreated := (hlooked.step (.answer (i := 0) rfl rfl)).step (.answer (i := 1) rfl rfl)
  have hdone := hcreated.step (.answer (i := 1) rfl rfl)
  obtain ⟨-, huids, -, honce⟩ := callers_agree .empty hdone (by simp)
  refine ⟨_, _, hdone, ⟨_, rfl⟩, ⟨_, rfl⟩, fun i t hcame => ?_, honce rfl ⟨0, _, rfl⟩⟩
  obtain ⟨uid, huid, hstored⟩ := huids i t hcame
  rw [huid, ← hstored]
  rfl

end TwoCallers

end System

end Provision

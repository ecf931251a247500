import Provision.Proofs.Feature.Outcome

/-!
The status of a tracker over a whole run of reports, each of which says that the feature is being applied or how
that ended. Whatever the reports are, no condition is there twice, and conditions that are none of theirs stay
as they are. The phase shows the last report. What became of the feature shows from its first outcome on, also
while it is being applied again: of being available and being degraded exactly the one that the last outcome
told is true.
-/

namespace Provision

/-! ### Conditions that are set -/

namespace Condition

variable {conditions : List Condition} {new : Condition} {type reason : String} {status : ConditionStatus}

/-- No two conditions have one type. -/
def OnePerType (conditions : List Condition) : Prop :=
  (conditions.map Condition.type).Nodup

/-- There is a condition of a type with a status. -/
def Has (conditions : List Condition) (type : String) (status : ConditionStatus) : Prop :=
  ∃ c ∈ conditions, c.type = type ∧ c.status = status

/-- The types of the conditions that reports set. -/
def reported : List String := [available, progressing, degraded]

/-- The conditions that no report sets. -/
def others (conditions : List Condition) : List Condition :=
  conditions.filter fun c => c.type ∉ reported

/-- Setting a condition adds its type at the end, unless it is there. -/
theorem types_set (conditions : List Condition) (new : Condition) :
    (set conditions new).map Condition.type =
      if new.type ∈ conditions.map Condition.type then conditions.map Condition.type
      else conditions.map Condition.type ++ [new.type] := by
  induction conditions with
  | nil => simp [set]
  | cons old rest ih =>
      by_cases hsame : old.type = new.type
      · simp [set, hsame]
      · have hother : new.type ≠ old.type := Ne.symm hsame
        simp only [set, if_neg hsame, List.map_cons, ih, List.mem_cons, hother, false_or]
        split
        · rfl
        · rfl

theorem OnePerType.set (honce : OnePerType conditions) (new : Condition) :
    OnePerType (set conditions new) := by
  rw [OnePerType, types_set]
  by_cases hmem : new.type ∈ conditions.map Condition.type
  · rw [if_pos hmem]
    exact honce
  · rw [if_neg hmem, ← List.concat_eq_append]
    exact List.Nodup.concat hmem honce

/-- The conditions of other types stay, in their order. -/
theorem others_set (conditions : List Condition) (hreported : new.type ∈ reported) :
    others (set conditions new) = others conditions := by
  induction conditions with
  | nil => simp [set, others, hreported]
  | cons old rest ih =>
      by_cases hsame : old.type = new.type
      · simp [set, others, hsame, hreported]
      · simp only [others] at ih
        simp only [set, others, if_neg hsame, List.filter_cons, ih]

theorem mem_set {c : Condition} (hmem : c ∈ set conditions new) : c ∈ conditions ∨ c.type = new.type := by
  induction conditions with
  | nil => simp_all [set]
  | cons old rest ih =>
      by_cases hsame : old.type = new.type
      · rw [set, if_pos hsame] at hmem
        rcases List.mem_cons.mp hmem with rfl | hrest
        · exact Or.inr (type_succeed old new)
        · exact Or.inl (List.mem_cons_of_mem old hrest)
      · rw [set, if_neg hsame] at hmem
        rcases List.mem_cons.mp hmem with rfl | hrest
        · exact Or.inl List.mem_cons_self
        · exact (ih hrest).imp_left (List.mem_cons_of_mem old)

/-- Setting a condition brings up no other type. -/
theorem has_of_has_set (hne : new.type ≠ type) (hhas : Has (set conditions new) type status) :
    Has conditions type status := by
  obtain ⟨c, hmem, htype, hstatus⟩ := hhas
  rcases mem_set hmem with hold | hnew
  · exact ⟨c, hold, htype, hstatus⟩
  · exact absurd (hnew.symm.trans htype) hne

theorem OnePerType.find?_of_mem (honce : OnePerType conditions) {c : Condition} (hmem : c ∈ conditions) :
    find? conditions c.type = some c := by
  induction conditions with
  | nil => simp at hmem
  | cons first rest ih =>
      simp only [OnePerType, List.map_cons, List.nodup_cons] at honce
      rcases List.mem_cons.mp hmem with rfl | hrest
      · simp [find?]
      · have hne : first.type ≠ c.type := by
          intro heq
          exact honce.1 (heq ▸ List.mem_map_of_mem hrest)
        have hfound := ih honce.2 hrest
        simp only [find?] at hfound
        simp [find?, hne, hfound]

/-- What is told of a type is all that there is of it. -/
theorem Tells.eq_of_has {other : ConditionStatus} (htells : Tells conditions type status reason)
    (honce : OnePerType conditions) (hhas : Has conditions type other) : other = status := by
  obtain ⟨told, hfound, hstatus, -⟩ := htells
  obtain ⟨c, hmem, rfl, rfl⟩ := hhas
  rw [honce.find?_of_mem hmem] at hfound
  rw [Option.some.inj hfound, hstatus]

end Condition

/-! ### Reports -/

namespace TrackerStatus

/-- What can be reported of a feature. -/
inductive Report where
  | started (now : Timestamp) (message : String)
  | ended (now : Timestamp) (outcome : Option Failure)

namespace Report

/-- The status after a report. -/
def apply : Report → TrackerStatus → TrackerStatus
  | started now message => markProgressing now message
  | ended now outcome => markOutcome now outcome

/-- The outcome that is reported. -/
def outcome? : Report → Option (Option Failure)
  | started _ _ => none
  | ended _ outcome => some outcome

end Report

/-- The status after some reports. -/
def after (reports : List Report) (start : TrackerStatus) : TrackerStatus :=
  reports.foldl (fun status report => report.apply status) start

/-- The outcome that was reported last. -/
def lastOutcome? (reports : List Report) : Option (Option Failure) :=
  (reports.filterMap Report.outcome?).getLast?

/-- A status shows a report: what the phase is and whether the feature is being applied. -/
def ShowsReport (status : TrackerStatus) : Report → Prop
  | .started _ _ => status.phase = .progressing ∧
    Condition.Tells status.conditions Condition.progressing .holds Reason.featureCreated.text
  | .ended _ outcome => status.phase = (if outcome.isSome then .degraded else .available) ∧
    Condition.Tells status.conditions Condition.progressing .fails Reason.featureCreated.text

/-- A status shows an outcome: one of the two conditions is true and the other one is not. -/
def ShowsOutcome (status : TrackerStatus) : Option Failure → Prop
  | none =>
    Condition.Tells status.conditions Condition.available .holds Reason.featureCreated.text ∧
    ¬ Condition.Has status.conditions Condition.degraded .holds
  | some f =>
    Condition.Tells status.conditions Condition.degraded .holds
      ((f.reason?.map Reason.text).getD "Failed") ∧
    ¬ Condition.Has status.conditions Condition.available .holds

/-- What a status shows that some reports have made of another one. -/
structure Reflects (start : TrackerStatus) (reports : List Report) (status : TrackerStatus) : Prop where
  once : Condition.OnePerType status.conditions
  others : Condition.others status.conditions = Condition.others start.conditions
  report : ∀ report, reports.getLast? = some report → status.ShowsReport report
  outcome : ∀ outcome, lastOutcome? reports = some outcome → status.ShowsOutcome outcome

section Runs

variable {start status : TrackerStatus} {reports : List Report}

theorem onePerType_setAll (honce : Condition.OnePerType status.conditions) (new : List Condition) :
    Condition.OnePerType (status.setAll new).conditions := by
  unfold setAll
  induction new generalizing status with
  | nil => exact honce
  | cons c rest ih => exact @ih ⟨Condition.set status.conditions c, status.phase⟩ (honce.set c)

theorem others_setAll (status : TrackerStatus) {new : List Condition}
    (hreported : ∀ c ∈ new, c.type ∈ Condition.reported) :
    Condition.others (status.setAll new).conditions = Condition.others status.conditions := by
  unfold setAll
  induction new generalizing status with
  | nil => rfl
  | cons c rest ih =>
      have hrest := ih ⟨Condition.set status.conditions c, status.phase⟩
        fun other hother => hreported other (List.mem_cons_of_mem c hother)
      exact hrest.trans (Condition.others_set status.conditions (hreported c List.mem_cons_self))

/-- The conditions that a report sets. -/
def Report.conditions : Report → List Condition
  | .started now message => [⟨Condition.progressing, .holds, Reason.featureCreated.text, message, now⟩]
  | .ended now outcome => outcomeConditions now outcome

theorem Report.conditions_apply (report : Report) (status : TrackerStatus) :
    (report.apply status).conditions = (status.setAll report.conditions).conditions := by
  cases report with
  | started now message => rfl
  | ended now outcome => rfl

theorem Report.reported_of_mem (report : Report) : ∀ c ∈ report.conditions, c.type ∈ Condition.reported := by
  cases report with
  | started now message => simp [conditions, Condition.reported]
  | ended now outcome =>
      cases outcome with
      | none => simp [conditions, outcomeConditions, Condition.reported]
      | some f => simp [conditions, outcomeConditions, Condition.reported]

theorem Report.showsReport_apply (report : Report) (status : TrackerStatus) :
    (report.apply status).ShowsReport report := by
  cases report with
  | started now message => exact ⟨rfl, Condition.tells_set_self status.conditions _⟩
  | ended now outcome =>
      refine ⟨rfl, ?_⟩
      cases outcome with
      | none => exact Condition.tells_set_self _ _
      | some f => exact Condition.tells_set_self _ _

/-- An outcome that is reported is shown. -/
theorem showsOutcome_markOutcome (honce : Condition.OnePerType status.conditions) (now : Timestamp)
    (outcome : Option Failure) : (markOutcome now outcome status).ShowsOutcome outcome := by
  have hpa : Condition.progressing ≠ Condition.available := by decide
  have hpd : Condition.progressing ≠ Condition.degraded := by decide
  have hda : Condition.degraded ≠ Condition.available := by decide
  have honce' : Condition.OnePerType (markOutcome now outcome status).conditions :=
    onePerType_setAll honce (outcomeConditions now outcome)
  cases outcome with
  | none =>
      constructor
      · refine Condition.tells_set_of_ne _ hpa (Condition.tells_set_of_ne _ hda ?_)
        exact Condition.tells_set_self status.conditions _
      · intro hhas
        have hdegraded : Condition.Tells (markOutcome now none status).conditions Condition.degraded
            .fails "" := Condition.tells_set_of_ne _ hpd (Condition.tells_set_self _ _)
        have hstatus := hdegraded.eq_of_has honce' hhas
        contradiction
  | some f =>
      constructor
      · exact Condition.tells_set_of_ne _ hpd (Condition.tells_set_self _ _)
      · intro hhas
        have havailable : Condition.Tells (markOutcome now (some f) status).conditions Condition.available
            .fails ((f.reason?.map Reason.text).getD "Failed") := by
          refine Condition.tells_set_of_ne _ hpa (Condition.tells_set_of_ne _ hda ?_)
          exact Condition.tells_set_self status.conditions _
        have hstatus := havailable.eq_of_has honce' hhas
        contradiction

/-- An outcome is shown for as long as only progress is reported. -/
theorem ShowsOutcome.markProgressing {outcome : Option Failure} (hshows : status.ShowsOutcome outcome)
    (now : Timestamp) (message : String) : (markProgressing now message status).ShowsOutcome outcome := by
  have hpa : Condition.progressing ≠ Condition.available := by decide
  have hpd : Condition.progressing ≠ Condition.degraded := by decide
  cases outcome with
  | none =>
      exact ⟨Condition.tells_set_of_ne _ hpa hshows.1, fun hhas => hshows.2 (Condition.has_of_has_set hpd hhas)⟩
  | some f =>
      exact ⟨Condition.tells_set_of_ne _ hpd hshows.1, fun hhas => hshows.2 (Condition.has_of_has_set hpa hhas)⟩

/-- The step lemma: a further report is reflected as well. -/
theorem Reflects.apply (hreflects : Reflects start reports status) (report : Report) :
    Reflects start (reports ++ [report]) (report.apply status) where
  once := by
    rw [report.conditions_apply]
    exact onePerType_setAll hreflects.once report.conditions
  others := by
    rw [report.conditions_apply, others_setAll status report.reported_of_mem]
    exact hreflects.others
  report last hlast := by
    rw [List.getLast?_concat] at hlast
    obtain rfl := Option.some.inj hlast
    exact report.showsReport_apply status
  outcome outcome hlast := by
    cases report with
    | started now message =>
        have hbefore : lastOutcome? reports = some outcome := by
          simpa [lastOutcome?, Report.outcome?] using hlast
        exact (hreflects.outcome outcome hbefore).markProgressing now message
    | ended now reported =>
        obtain rfl : reported = outcome := by
          simpa [lastOutcome?, Report.outcome?] using hlast
        exact showsOutcome_markOutcome hreflects.once now reported

/-- Whatever is reported of a feature, its status reflects it: one condition for each type, other conditions as
they were, the phase and the progress of the last report, and the outcome that was reported last. -/
theorem reflects_after (honce : Condition.OnePerType start.conditions) (reports : List Report) :
    Reflects start reports (after reports start) := by
  induction reports using List.reverseRecOn with
  | nil => exact ⟨honce, rfl, by simp, by simp [lastOutcome?]⟩
  | append_singleton reports report ih =>
      rw [after, List.foldl_append]
      exact ih.apply report

end Runs

/-! ### Applied again after a failure -/

namespace AppliedAgain

/-- A status with a condition that is none of the reported ones between two that are. -/
def start : TrackerStatus where
  conditions := [
    ⟨Condition.degraded, .fails, "", "", default⟩,
    ⟨"Audited", .unknown, "Scheduled", "tonight", default⟩,
    ⟨Condition.available, .holds, "FeatureCreated", "", default⟩]
  phase := .available

/-- A failure deep inside names its stage. -/
def failure : Failure :=
  .feature "mesh" (.many [.action "no reason", .stage .postConditions (.action "pods are not ready")])

def reports : List Report :=
  [.ended default none, .ended default (some failure), .started default "Applying feature [mesh]"]

/-- While the feature is applied again, it is still the failure that shows. -/
theorem degraded_meanwhile : Condition.OnePerType start.conditions ∧
    (after reports start).phase = .progressing ∧
    (after reports start).conditions.map Condition.type =
      [Condition.degraded, "Audited", Condition.available, Condition.progressing] ∧
    Condition.Tells (after reports start).conditions Condition.degraded .holds "PostConditions" ∧
    ¬ Condition.Has (after reports start).conditions Condition.available .holds := by
  have honce : Condition.OnePerType start.conditions := by
    unfold Condition.OnePerType
    decide
  have hreflects := reflects_after honce reports
  have hshows := hreflects.outcome (some failure) rfl
  refine ⟨honce, (hreflects.report _ rfl).1, ?_, hshows.1, hshows.2⟩
  decide

end AppliedAgain

end TrackerStatus

end Provision

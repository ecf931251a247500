import Provision.Proofs.Process
import Provision.Tracker.Report

/-!
Status updates under concurrency. A reporter reads the tracker, changes the status and puts it back, again
and again as long as it is refused, and anything may happen in between. No update is lost: a write that
succeeds changes the status that is stored at that moment, and an update that fails has changed nothing.
-/

namespace Provision

/-- What a reporter can write to a tracker. -/
inductive Report where
  | progress (message : String)
  | outcome (failure : Option Failure)

/-- What a report makes of a status at a point in time. -/
def Report.change : Report → Timestamp → TrackerStatus → TrackerStatus
  | progress message, now => TrackerStatus.markProgressing now message
  | outcome failure, now => TrackerStatus.markOutcome now failure

/-- One status update: whose tracker is written, what, and how often it is tried. -/
structure StatusUpdate where
  tracker : String
  report : Report
  retry : Backoff

namespace StatusUpdate

/-- The reporter at work. -/
def process (u : StatusUpdate) : Process (Except Failure Unit) :=
  match u.report with
  | .progress message => (Process.client.reportProgress u.retry u.tracker message).run
  | .outcome failure => (Process.client.reportOutcome u.retry u.tracker failure).run

/-- A tracker with the status that the update makes of its own. -/
def revise (u : StatusUpdate) (now : Timestamp) (t : Tracker) : Tracker :=
  { t with status := some (u.report.change now (t.status.getD {})) }

theorem process_eq (u : StatusUpdate) :
    u.process = (Process.client.updateStatus u.retry u.tracker u.report.change).run := by
  obtain ⟨tracker, report, retry⟩ := u
  cases report <;> rfl

/-- The turns of a reporter, by what it was answered before: it looks for its tracker, asks for the time
and writes what it makes of the two. A write that succeeds is its last turn. -/
inductive Follows (u : StatusUpdate) :
    List System.Answered → Process (Except Failure Unit) → Prop
  | done (known : List System.Answered) (outcome : Except Failure Unit) :
      Follows u known (.done outcome)
  | look {known : List System.Answered} {next : Query.Answer (.request (.getTracker u.tracker)) → _}
      (hnext : ∀ a, Follows u [⟨.request (.getTracker u.tracker), a⟩] (next a)) :
      Follows u known (.ask (.request (.getTracker u.tracker)) next)
  | time {t : Tracker} {next : Query.Answer .now → _}
      (hnext : ∀ now, Follows u
        [⟨.now, now⟩, ⟨.request (.getTracker u.tracker), .ok (some t)⟩] (next now)) :
      Follows u [⟨.request (.getTracker u.tracker), .ok (some t)⟩] (.ask .now next)
  | write {t : Tracker} {now : Timestamp}
      {next : Query.Answer (.request (.replaceTrackerStatus (u.revise now t))) → _}
      (hwritten : ∀ stored, next (.ok stored) = .done (.ok ()))
      (hrefused : ∀ f, Follows u [] (next (.error f))) :
      Follows u [⟨.now, now⟩, ⟨.request (.getTracker u.tracker), .ok (some t)⟩]
        (.ask (.request (.replaceTrackerStatus (u.revise now t))) next)
  | wait {known : List System.Answered} {d : Nanoseconds} {next : Query.Answer (.sleep d) → _}
      (hnext : Follows u [] (next ())) : Follows u known (.ask (.sleep d) next)

/-- Who needs no answer may have any. -/
theorem Follows.any {u : StatusUpdate} {p : Process (Except Failure Unit)} (hfollows : Follows u [] p)
    (known : List System.Answered) : Follows u known p := by
  cases hfollows with
  | done => exact .done known _
  | look hnext => exact .look hnext
  | wait hnext => exact .wait hnext

/-- One attempt, before what comes after it: nothing if it succeeds. -/
theorem follows_changeStatus_bind (u : StatusUpdate)
    {after : Except Failure Unit → Process (Except Failure Unit)}
    (hok : after (.ok ()) = .done (.ok ())) (herror : ∀ f, Follows u [] (after (.error f))) :
    Follows u [] ((Process.client.changeStatus u.tracker u.report.change).run >>= after) := by
  refine .look fun found => ?_
  match found with
  | .error f => exact (herror f).any _
  | .ok none => exact (herror _).any _
  | .ok (some t) =>
      refine .time fun now => .write (fun _ => hok) fun f => herror f

theorem follows_attempt (u : StatusUpdate) (left failures : Nat) :
    Follows u [] ((u.retry.attempt Failure.isConflict
      (Process.client.changeStatus u.tracker u.report.change) left failures).run) := by
  induction left generalizing failures with
  | zero =>
      rw [Backoff.attempt, ← bind_pure (ExceptT.run _)]
      exact follows_changeStatus_bind u rfl fun f => .done _ _
  | succ left ih =>
      refine follows_changeStatus_bind u rfl fun f => ?_
      dsimp only
      split
      · exact .wait (ih (failures + 1))
      · exact .done _ _

theorem follows_process (u : StatusUpdate) : Follows u [] u.process := by
  rw [process_eq]
  exact follows_attempt u (u.retry.maxAttempts - 1) 0

/-! ### Updates in a system -/

variable {u : StatusUpdate} {i : Nat} {past : List Moment} {m : Moment}

/-- The process with a number is in its turns, and until its update has succeeded it has not changed any
tracker. -/
def Running (u : StatusUpdate) (i : Nat) (past : List Moment) (p : Process (Except Failure Unit)) :
    Prop :=
  (∃ known, Follows u known p ∧ System.Recalls i past known) ∧
    ((∀ m ∈ past, m.event.isOf i → m.after.trackers = m.before.trackers) ∨ p = .done (.ok ()))

theorem Running.step {p : Process (Except Failure Unit)} (hrunning : Running u i past p)
    (hother : ¬ m.event.isOf i) : Running u i (past ++ [m]) p := by
  obtain ⟨⟨known, hfollows, hrecalls⟩, hchanged⟩ := hrunning
  refine ⟨⟨known, hfollows, hrecalls.step hother⟩, hchanged.imp_left fun hquiet x hx hown => ?_⟩
  rcases List.mem_append.mp hx with hin | hin
  · exact hquiet x hin hown
  · rw [List.mem_singleton.mp hin] at hown
    exact absurd hown hother

/-- A question that leaves the trackers as they are. -/
theorem Running.quiet {before after : Store} {q : Query} {a : q.Answer}
    {next : q.Answer → Process (Except Failure Unit)} (hrunning : Running u i past (.ask q next))
    (known : List System.Answered) (htrackers : after.trackers = before.trackers)
    (hfollows : Follows u known (next a))
    (hrecalls : System.Recalls i (past ++ [⟨before, .answer i q a, after⟩]) known) :
    Running u i (past ++ [⟨before, .answer i q a, after⟩]) (next a) := by
  refine ⟨⟨known, hfollows, hrecalls⟩, Or.inl fun x hx hown => ?_⟩
  rcases List.mem_append.mp hx with hin | hin
  · rcases hrunning.2 with hquiet | hdone
    · exact hquiet x hin hown
    · cases hdone
  · rw [List.mem_singleton.mp hin]
    exact htrackers

/-- The step lemma: a reporter stays in its turns. -/
theorem Running.answer {before after : Store} {q : Query} {a : q.Answer}
    {next : q.Answer → Process (Except Failure Unit)} (hanswers : q.Answers before a after)
    (hrunning : Running u i past (.ask q next)) :
    Running u i (past ++ [⟨before, .answer i q a, after⟩]) (next a) := by
  obtain ⟨known, hfollows, hrecalls⟩ := hrunning.1
  cases hfollows with
  | look hnext =>
      have htrackers : after.trackers = before.trackers :=
        congrArg (fun reply => Store.trackers reply.2) hanswers.symm
      have hnothing : System.Recalls i past [] := trivial
      exact hrunning.quiet _ htrackers (hnext a) (hnothing.now before a after)
  | time hnext =>
      have htrackers : after.trackers = before.trackers := congrArg Store.trackers hanswers
      exact hrunning.quiet _ htrackers (hnext a) (hrecalls.now before a after)
  | wait hnext =>
      exact hrunning.quiet [] (congrArg Store.trackers hanswers) hnext trivial
  | @write t now next hwritten hrefused =>
      match a with
      | .ok stored => exact ⟨⟨[], hwritten stored ▸ .done _ _, trivial⟩, Or.inr (hwritten stored)⟩
      | .error f =>
          have htrackers := (Store.replaceTrackerStatus_error hanswers).2
          exact hrunning.quiet [] htrackers (hrefused f) trivial

/-- In every run, a process that is an update is in its turns. -/
theorem running_of_run {start sys : System (Except Failure Unit)}
    (hprocess : start.processes[i]? = some u.process) (hrun : start.Run past sys) :
    ∃ p, sys.processes[i]? = some p ∧ Running u i past p :=
  hrun.keeps hprocess ⟨⟨[], u.follows_process, trivial⟩, Or.inl (by simp)⟩
    (fun _ _ _ _ _ _ hanswers hrunning => hrunning.answer hanswers)
    (fun _ _ _ hother hrunning => hrunning.step hother)

/-- A moment at which the update applied its change: to the status that was stored just before, at a time
that it asked for. Nothing but the status and the version of its tracker changed. -/
def Applied (u : StatusUpdate) (now : Timestamp) (m : Moment) : Prop :=
  ∃ old version, m.before.getTracker? u.tracker = some old ∧
    m.after.getTracker? u.tracker =
      some { u.revise now old with metadata := { old.metadata with resourceVersion := version } } ∧
    ∀ other ≠ u.tracker, m.after.getTracker? other = m.before.getTracker? other

/-- What a reporter that is about to write has read was stored, and from there the store advanced. -/
theorem read_of_recalls {start sys : System (Except Failure Unit)} {read : Tracker} {now : Timestamp}
    (hvalid : start.store.Valid) (hrun : start.Run past sys)
    (hrecalls : System.Recalls i past
      [⟨.now, now⟩, ⟨.request (.getTracker u.tracker), .ok (some read)⟩]) :
    ∃ s : Store, s.Valid ∧ s.getTracker? u.tracker = some read ∧ s.Advances sys.store := by
  obtain ⟨earlier, others, htimed, _, _, hread, -⟩ := hrecalls
  obtain ⟨asks, told, hearlier, htime, hothers⟩ := htimed.answers hrun
  obtain ⟨looks, sees, hbefore, hfound, hbetween⟩ := hread.answers hearlier
  obtain ⟨hreply, hlooks⟩ := Prod.mk.inj hfound
  have hsees : sees.store.Valid := hlooks ▸ (hbefore.advances hvalid).valid
  have hasks := hbetween.advances hsees
  have htold : told.store = asks.store := htime
  have hsys := hothers.advances (htold ▸ hasks.valid)
  refine ⟨sees.store, hsees, ?_, hasks.trans (htold ▸ hsys)⟩
  rw [← hlooks]
  exact Except.ok.inj hreply

/-- A status write that succeeds on what was read earlier is a write on what is stored now. -/
theorem applied_of_answers {now : Timestamp} {read : Tracker} {s before after : Store}
    {stored : Tracker} (hvalid : s.Valid) (hadvances : s.Advances before)
    (hread : s.getTracker? u.tracker = some read)
    (hanswers : before.replaceTrackerStatus (u.revise now read) = (.ok stored, after))
    (event : Event) : u.Applied now ⟨before, event, after⟩ := by
  have hname : (u.revise now read).displayName = u.tracker :=
    hvalid.displayName_of_getTracker? (t := read) hread
  obtain ⟨old, hold, hversion, htrackers⟩ := Store.replaceTrackerStatus_ok hanswers
  rw [hname] at hold htrackers
  -- The write names the version that was read, so what is stored is what was read.
  obtain rfl : old = read := hadvances.getTracker?_same hvalid hread hold hversion.symm
  refine ⟨old, some (toString before.nextNumber), hold, ?_, ?_⟩
  · exact (congrArg (Keyed.get? · u.tracker) htrackers).trans (Keyed.get?_insert_self _ _ _)
  · intro other hne
    exact (congrArg (Keyed.get? · other) htrackers).trans (Keyed.get?_insert_of_ne _ _ hne)

/-- The processes of a system of updates are those updates. -/
theorem exists_update {updates : List StatusUpdate} {s : Store}
    {sys : System (Except Failure Unit)} {p : Process (Except Failure Unit)}
    (hrun : System.Run ⟨s, updates.map process⟩ past sys) (hp : sys.processes[i]? = some p) :
    ∃ u, updates[i]? = some u ∧ (updates.map process)[i]? = some u.process := by
  obtain ⟨p₀, hstart⟩ := hrun.exists_start hp
  have hmap : (updates[i]?).map process = some p₀ := by
    rw [← List.getElem?_map]
    exact hstart
  obtain ⟨u, hu, rfl⟩ := Option.map_eq_some_iff.mp hmap
  exact ⟨u, hu, hstart⟩

/-- No update is lost. In every run of any number of updates among anything else that happens to the
store, a status write of an update that succeeds applies its change to the status that is stored at that
moment, and an update that fails has left all trackers as they were at each of its turns. -/
theorem never_lost {updates : List StatusUpdate} {s : Store} (hreachable : s.Reachable)
    {sys : System (Except Failure Unit)}
    (hrun : System.Run ⟨s, updates.map process⟩ past sys) :
    (∀ earlier later before after i t stored, past = earlier ++
        ⟨before, .answer i (.request (.replaceTrackerStatus t)) (.ok stored), after⟩ :: later →
      ∃ u now, updates[i]? = some u ∧
        (∃ read others, System.LastAnswer i earlier .now now read others) ∧
        u.Applied now ⟨before, .answer i (.request (.replaceTrackerStatus t)) (.ok stored), after⟩) ∧
    ∀ i f, sys.processes[i]? = some (.done (.error f)) →
      ∀ m ∈ past, m.event.isOf i → m.after.trackers = m.before.trackers := by
  constructor
  · intro earlier later before after i t stored hpast
    rw [hpast] at hrun
    obtain ⟨middle, middle', hearlier, hstep, -⟩ := hrun.moment
    cases hstep with
    | answer hwaits hanswers =>
        obtain ⟨u, hu, hprocess⟩ := exists_update hearlier hwaits
        obtain ⟨p, hp, ⟨known, hfollows, hrecalls⟩, -⟩ := running_of_run hprocess hearlier
        obtain rfl := Option.some.inj (hp.symm.trans hwaits)
        cases hfollows with
        | @write read now =>
            obtain ⟨s₁, hvalid, hfound, hadvances⟩ :=
              read_of_recalls hreachable.valid hearlier hrecalls
            obtain ⟨asked, others, hasked, -⟩ := hrecalls
            refine ⟨u, now, hu, ⟨asked, others, hasked⟩, ?_⟩
            exact applied_of_answers hvalid hadvances hfound hanswers _
  · intro i f hdone m hm hown
    obtain ⟨u, hu, hprocess⟩ := exists_update hrun hdone
    obtain ⟨p, hp, -, hchanged⟩ := running_of_run hprocess hrun
    obtain rfl : p = .done (.error f) := Option.some.inj (hp.symm.trans hdone)
    rcases hchanged with hquiet | hdone
    · exact hquiet m hm hown
    · cases hdone

/-! ### A race -/

namespace Race

/-- A store with one tracker. -/
def bench : Store := (({} : Store).insertTracker (Tracker.make "svc-mesh" {})).2

def once : Backoff := { Backoff.statusUpdate with maxAttempts := 1 }

def starts : StatusUpdate := ⟨"svc-mesh", .progress "Applying feature [mesh]", once⟩

def ends : StatusUpdate := ⟨"svc-mesh", .outcome none, once⟩

/-- Both updates read the tracker before either writes: the first write is applied, and the second one is
refused and changes nothing. -/
theorem first_write_wins : ∃ past sys, System.Run ⟨bench, [starts, ends].map process⟩ past sys ∧
    (∃ now, ∃ m ∈ past, starts.Applied now m) ∧
    sys.processes[1]? = some (.done (.error Store.conflict)) ∧
    ∀ m ∈ past, m.event.isOf 1 → m.after.trackers = m.before.trackers := by
  have hreachable : bench.Reachable := .apply (.insertTracker _) .empty
  have hread := ((System.Run.start : System.Run ⟨bench, [starts, ends].map process⟩ [] _).step
    (.answer (i := 0) rfl rfl)).step (.answer (i := 1) rfl rfl)
  have hwritten := (hread.step (.answer (i := 0) (a := (default : Timestamp)) rfl rfl)).step
    (.answer (i := 0) rfl rfl)
  have hrefused := (hwritten.step (.answer (i := 1) (a := (default : Timestamp)) rfl rfl)).step
    (.answer (i := 1) rfl rfl)
  obtain ⟨hwrites, hfails⟩ := never_lost hreachable hrefused
  obtain ⟨u, now, hu, -, happlied⟩ := hwrites [_, _, _] [_, _] _ _ 0 _ _ rfl
  obtain rfl : starts = u := Option.some.inj hu
  exact ⟨_, _, hrefused, ⟨now, _, List.mem_of_getElem? (i := 3) rfl, happlied⟩, rfl,
    hfails 1 _ rfl⟩

end Race

end StatusUpdate
end Provision

import Provision.Proofs.Feature.Parts
import Provision.Proofs.Process

/-!
What a feature leaves alone. A feature whose steps only read and apply objects asks for an object before it
writes it. Anything may happen in between, and still a create has an effect only where there is no object,
and a replacement only on the managed object that was read, as long as nobody has touched it.
-/

namespace Provision

/-! ### Processes that read and apply -/

/-- Whether a query only looks. -/
def Query.Reads : Query → Prop
  | request (.get _ _) => True
  | request (.list _ _ _) => True
  | request (.getTracker _) => True
  | request _ => False
  | elapsed => True
  | sleep _ => True
  | now => True

/-- Whether a query can change the objects of a store. -/
def Query.WritesObjects : Query → Prop
  | request (.create _ _) => True
  | request (.replace _ _) => True
  | request (.mergePatch _ _ _) => True
  | request (.delete _ _) => True
  | request (.deleteTracker _) => True
  | _ => False

theorem Query.Reads.not_writesObjects {q : Query} (hreads : q.Reads) : ¬ q.WritesObjects := by
  cases q with
  | request r => cases r <;> first | exact id | exact hreads.elim
  | _ => exact id

namespace Process

variable {α β : Type}

/-- Whether a process asks nothing but such queries. -/
def AsksOnly (A : Query → Prop) : Process α → Prop
  | done _ => True
  | ask q next => A q ∧ ∀ a, (next a).AsksOnly A

/-- A process can end with a result. -/
inductive Returns (result : α) : Process α → Prop
  | done : Returns result (.done result)
  | ask {q : Query} {next : q.Answer → Process α} (a : q.Answer) (hnext : Returns result (next a)) :
      Returns result (.ask q next)

/-- Processes that read, and that apply objects as a feature does. -/
inductive AppliesOnly (c : Context Process) : Process α → Prop
  | done (a : α) : AppliesOnly c (.done a)
  | read {q : Query} {next : q.Answer → Process α} (hreads : q.Reads)
      (hnext : ∀ a, AppliesOnly c (next a)) : AppliesOnly c (.ask q next)
  | apply (o : Object) {next : Except Failure ApplyOutcome → Process α}
      (hnext : ∀ outcome, AppliesOnly c (next outcome)) :
      AppliesOnly c ((c.applyObject o).run >>= next)

/-- Processes that write an object only right after they looked for it: they create what was not there, and
replace what was managed, in the version that they saw. Trackers may be written any time, and one of them
deleted if that is permitted. -/
inductive Cautious (removal : Prop) (tracker : String) :
    List System.Answered → Process α → Prop
  | done (known : List System.Answered) (a : α) : Cautious removal tracker known (.done a)
  | look {known : List System.Answered} {type : ResourceType} {key : ObjectKey}
      {next : Query.Answer (.request (.get type key)) → Process α}
      (hnext : ∀ a, Cautious removal tracker [⟨.request (.get type key), a⟩] (next a)) :
      Cautious removal tracker known (.ask (.request (.get type key)) next)
  | create {type : ResourceType} {o : Object}
      {next : Query.Answer (.request (.create type o)) → Process α}
      (hnext : ∀ a, Cautious removal tracker [] (next a)) :
      Cautious removal tracker [⟨.request (.get type o.key), .ok none⟩]
        (.ask (.request (.create type o)) next)
  | replace {type : ResourceType} {o live : Object}
      {next : Query.Answer (.request (.replace type o)) → Process α}
      (hmanaged : live.isManaged) (hversion : o.version = live.version)
      (hnext : ∀ a, Cautious removal tracker [] (next a)) :
      Cautious removal tracker [⟨.request (.get type o.key), .ok (some live)⟩]
        (.ask (.request (.replace type o)) next)
  | spare {known : List System.Answered} {q : Query} {next : q.Answer → Process α}
      (hspares : ¬ q.WritesObjects) (hnext : ∀ a, Cautious removal tracker [] (next a)) :
      Cautious removal tracker known (.ask q next)
  | remove {known : List System.Answered}
      {next : Query.Answer (.request (.deleteTracker tracker)) → Process α} (hremoval : removal)
      (hnext : ∀ a, Cautious removal tracker [] (next a)) :
      Cautious removal tracker known (.ask (.request (.deleteTracker tracker)) next)

namespace Cautious

variable {removal : Prop} {tracker : String} {known : List System.Answered} {p : Process α}
  {next : α → Process β}

/-- Who needs no answer may have any. -/
theorem any (hcautious : Cautious removal tracker [] p) (known : List System.Answered) :
    Cautious removal tracker known p := by
  cases hcautious with
  | done => exact .done known _
  | look hnext => exact .look hnext
  | spare hspares hnext => exact .spare hspares hnext
  | remove hremoval hnext => exact .remove hremoval hnext

/-- A cautious process and then cautious processes, for every result that it can have. -/
theorem bind (hfirst : Cautious removal tracker known p)
    (hnext : ∀ a, p.Returns a → Cautious removal tracker [] (next a)) :
    Cautious removal tracker known (p >>= next) := by
  induction hfirst with
  | done known a => exact (hnext a .done).any known
  | look _ ih => exact .look fun a => ih a fun b hb => hnext b (.ask a hb)
  | create _ ih => exact .create fun a => ih a fun b hb => hnext b (.ask a hb)
  | replace hmanaged hversion _ ih =>
      exact .replace hmanaged hversion fun a => ih a fun b hb => hnext b (.ask a hb)
  | spare hspares _ ih => exact .spare hspares fun a => ih a fun b hb => hnext b (.ask a hb)
  | remove hremoval _ ih => exact .remove hremoval fun a => ih a fun b hb => hnext b (.ask a hb)

theorem composable (removal : Prop) (tracker : String) :
    Composable fun α (p : Process α) => Cautious removal tracker [] p where
  done a := .done [] a
  bind hfirst hnext := hfirst.bind fun a _ => hnext a

/-- Creating an object that was not there is cautious. -/
theorem createIfAbsent (type : ResourceType) (o : Object) :
    Cautious removal tracker [⟨.request (.get type o.key), .ok none⟩]
      (client.createIfAbsent type o).run := by
  refine .create fun created => ?_
  match created with
  | .ok _ => exact .done _ _
  | .error f => exact .done _ (if f.isAlreadyExists then Except.ok false else Except.error f)

/-- Applying an object is cautious: it is looked for, and what is written depends on what was found. -/
theorem applyObject (options : List MetaOption) (o : Object) :
    Cautious removal tracker [] (client.applyObject options o).run := by
  refine (composable removal tracker).exceptLift _ fun type _ => .look fun found => ?_
  match found with
  | .error f => exact .done _ _
  | .ok none =>
      change Cautious removal tracker _
        ((client.createIfAbsent type (MetaOption.applyAll options o)).run >>= _)
      refine (createIfAbsent type (MetaOption.applyAll options o)).bind fun created _ => ?_
      match created with
      | .ok _ => exact .done _ _
      | .error f => exact .done _ _
  | .ok (some live) =>
      change Cautious removal tracker _ (ExceptT.run (if live.isManaged then _ else _))
      by_cases hmanaged : live.isManaged
      · rw [if_pos hmanaged]
        refine .replace (o := Client.replacementOf live (MetaOption.applyAll options o)) hmanaged rfl
          fun replaced => ?_
        match replaced with
        | .ok _ => exact .done _ _
        | .error f => exact .done _ _
      · rw [if_neg hmanaged]
        exact .done _ _

theorem applyObjects (options : List MetaOption) (objects : List Object) :
    Cautious removal tracker [] (client.applyObjects options false objects).run := by
  have hP := composable removal tracker
  induction objects with
  | nil => exact .done [] _
  | cons o rest ih => exact hP.exceptBind (applyObject options o) fun _ => ih

end Cautious

theorem AsksOnly.cautious {p : Process α} (hasks : p.AsksOnly Query.Reads) (removal : Prop)
    (tracker : String) : Cautious removal tracker [] p := by
  induction p with
  | done a => exact .done [] a
  | ask q next ih => exact .spare hasks.1.not_writesObjects fun a => ih a (hasks.2 a)

theorem AppliesOnly.cautious {c : Context Process} {p : Process α} (happlies : AppliesOnly c p)
    (hclient : c.client = client) (removal : Prop) (tracker : String) :
    Cautious removal tracker [] p := by
  have hP := Cautious.composable removal tracker
  induction happlies with
  | done a => exact .done [] a
  | read hreads _ ih => exact .spare hreads.not_writesObjects ih
  | apply o _ ih =>
      refine hP.bind (hP.exceptLift _ fun options _ => ?_) ih
      rw [hclient]
      exact .applyObject options o

end Process

/-! ### Features -/

namespace Feature

/-- Features whose predicate and steps read and apply objects, and whose manifests are no patches. -/
structure AppliesOnly (f : Feature Process) : Prop where
  client : f.client = Process.client
  predicate (tracker : Option Tracker) (data : DataBag) :
    Process.AppliesOnly (f.context tracker) (f.enabled (f.context tracker) data).run
  step (tracker : Option Tracker) (action : Action Process)
    (haction : action ∈ f.stages.data ++ f.stages.preconditions ++ f.stages.resources ++
      f.stages.postconditions ++ f.stages.cleanups) (data : DataBag) :
    Process.AppliesOnly (f.context tracker) ((action (f.context tracker)).run.run data)
  manifest (man : Manifest) (hman : man ∈ f.stages.manifests) : man.isPatch = false
  engine (dir : String) : (f.renderer.engine dir).run.AsksOnly Query.Reads

/-- Whether a call can delete the tracker of a feature: if it is to be cleaned up, or its predicate can say
no. -/
def MayRemove (f : Feature Process) (p : Progress) : Call → Prop
  | .apply => (f.enabled (f.context p.tracker) p.data).run.Returns (.ok false)
  | .cleanup => True

variable {f : Feature Process}

theorem AppliesOnly.parts (happlies : f.AppliesOnly) (removal : Prop) :
    f.Parts fun α (p : Process α) => Process.Cautious removal f.trackerName [] p where
  composable := Process.Cautious.composable removal f.trackerName
  step tracker action haction data :=
    (happlies.step tracker action haction data).cautious happlies.client removal f.trackerName
  engine dir := (happlies.engine dir).cautious removal f.trackerName
  objects options man hman objects := by
    rw [happlies.client, happlies.manifest man hman]
    exact .applyObjects options objects
  getTracker := by
    rw [happlies.client]
    exact .spare id fun a => .done [] a
  createTracker := by
    rw [happlies.client]
    exact .spare id fun a => .done [] a
  changeStatus change := by
    rw [happlies.client]
    exact (Process.Cautious.composable removal f.trackerName).changeStatus (.spare id fun a => .done [] a)
      (.spare id fun a => .done [] a) (fun t => .spare id fun a => .done [] a) change
  sleep d := .spare id fun a => .done [] a

theorem AppliesOnly.deleteTracker (happlies : f.AppliesOnly) {removal : Prop} (hremoval : removal) :
    Process.Cautious removal f.trackerName [] (f.client.deleteTracker f.trackerName).run := by
  rw [happlies.client]
  exact .remove hremoval fun a => .done [] a

/-- The calls of such a feature are cautious. -/
theorem AppliesOnly.cautious (happlies : f.AppliesOnly) (p : Progress) (call : Call) :
    Process.Cautious (f.MayRemove p call) f.trackerName [] ((f.call call).run.run p) := by
  cases call with
  | cleanup => exact (happlies.parts _).cleanup (happlies.deleteTracker trivial) p
  | apply =>
      have hpredicate := (happlies.predicate p.tracker p.data).cautious happlies.client
        (f.MayRemove p .apply) f.trackerName
      rw [call, run_apply]
      refine hpredicate.bind fun answer hanswer => ?_
      match answer with
      | .error e => exact .done [] _
      | .ok true => exact (happlies.parts _).enable p
      | .ok false => exact (happlies.parts _).disable (happlies.deleteTracker hanswer) p

end Feature

/-! ### Cautious processes in a system -/

namespace System

variable {α : Type} {start sys : System α} {i : Nat} {past : List Moment} {removal : Prop}
  {tracker : String}

/-- In every run, a cautious process is cautious about what it was answered last. -/
theorem Run.cautious {p : Process α} (hrun : start.Run past sys)
    (hprocess : start.processes[i]? = some p) (hcautious : Process.Cautious removal tracker [] p) :
    ∃ p, sys.processes[i]? = some p ∧
      ∃ known, Process.Cautious removal tracker known p ∧ Recalls i past known := by
  refine hrun.keeps (I := fun past p => ∃ known, Process.Cautious removal tracker known p ∧
    Recalls i past known) hprocess ⟨[], hcautious, trivial⟩ ?_ ?_
  · rintro past before q a after next - ⟨known, hcautious, hrecalls⟩
    cases hcautious with
    | look hnext =>
        have hnothing : Recalls i past [] := trivial
        exact ⟨_, hnext a, hnothing.now before a after⟩
    | create hnext => exact ⟨[], hnext a, trivial⟩
    | replace _ _ hnext => exact ⟨[], hnext a, trivial⟩
    | spare _ hnext => exact ⟨[], hnext a, trivial⟩
    | remove _ hnext => exact ⟨[], hnext a, trivial⟩
  · rintro past m p hother ⟨known, hcautious, hrecalls⟩
    exact ⟨known, hcautious, hrecalls.step hother⟩

/-- An object that was there at the start of a run has been there all the time, or somebody touched it, and
its version is gone. -/
theorem Run.untouched_or_stale {type : ResourceType} {key : ObjectKey} {live : Object}
    (hrun : start.Run past sys) (hvalid : start.store.Valid)
    (hread : start.store.get? type key = some live) :
    (sys.store.get? type key = some live ∧ ∀ m ∈ past, m.after.get? type key = some live) ∨
      (∃ m ∈ past, m.after.get? type key ≠ some live) ∧
        ∀ current, sys.store.get? type key = some current → current.version ≠ live.version := by
  by_cases hall : ∀ m ∈ past, m.after.get? type key = some live
  · exact Or.inl ⟨hrun.store_of_all (P := fun s => s.get? type key = some live) hread hall, hall⟩
  · right
    constructor
    · push Not at hall
      exact hall
    · intro current hcurrent hsame
      apply hall
      intro m hm
      obtain ⟨hfirst, hsecond⟩ := hrun.advances_between hvalid hm
      exact (hfirst.get?_between hvalid hsecond hread hcurrent hsame).1

/-- What happens to the objects of a store when the process with a number asks something. -/
def Spares (removal : Prop) (tracker : String) (i : Nat) (earlier : List Moment)
    (before after : Store) : Query → Prop
  | .request (.create type o) =>
    (∃ read others,
      LastAnswer i earlier (.request (.get type o.key)) (.ok none) read others) ∧
    (before.get? type o.key = none ∧
        after.objects = Keyed.insert before.objects (.of type o.key) (before.newObject o) ∨
      before.get? type o.key ≠ none ∧ after = before)
  | .request (.replace type o) => ∃ live read others,
    LastAnswer i earlier (.request (.get type o.key)) (.ok (some live)) read others ∧
    live.isManaged ∧ o.version = live.version ∧
    ((before.get? type o.key = some live ∧ ∀ m ∈ others, m.after.get? type o.key = some live) ∧
        after.objects = Keyed.insert before.objects (.of type o.key) (before.successor live o) ∨
      (∃ m ∈ others, m.after.get? type o.key ≠ some live) ∧ after = before)
  | .request (.mergePatch _ _ _) => False
  | .request (.delete _ _) => False
  | .request (.deleteTracker name) => removal ∧ name = tracker ∧ after.objects.Sublist before.objects
  | _ => after.objects = before.objects

theorem spares_create {type : ResourceType} {o : Object} {before after : Store}
    {a : Query.Answer (.request (.create type o))} {known : List Answered}
    (hanswers : Query.Answers (.request (.create type o)) before a after)
    (hrecalls : Recalls i past (⟨.request (.get type o.key), .ok none⟩ :: known)) :
    Spares removal tracker i past before after (.request (.create type o)) := by
  obtain ⟨read, others, hlast, -⟩ := hrecalls
  have hafter : after = (before.create type o).2 := congrArg Prod.snd hanswers.symm
  refine ⟨⟨read, others, hlast⟩, ?_⟩
  cases hpresent : before.get? type o.key with
  | none =>
      refine Or.inl ⟨rfl, ?_⟩
      rw [hafter, Store.create_of_absent hpresent]
      rfl
  | some live =>
      refine Or.inr ⟨Option.some_ne_none live, ?_⟩
      rw [hafter, Store.create_of_present hpresent]

theorem spares_replace {type : ResourceType} {o live : Object} {after : Store}
    {a : Query.Answer (.request (.replace type o))} {known : List Answered}
    (hrun : start.Run past sys) (hvalid : start.store.Valid)
    (hanswers : Query.Answers (.request (.replace type o)) sys.store a after)
    (hrecalls : Recalls i past (⟨.request (.get type o.key), .ok (some live)⟩ :: known))
    (hmanaged : live.isManaged) (hversion : o.version = live.version) :
    Spares removal tracker i past sys.store after (.request (.replace type o)) := by
  obtain ⟨read, others, hlast, -⟩ := hrecalls
  obtain ⟨middle, middle', hread, hfound, hothers⟩ := hlast.answers hrun
  obtain ⟨hreply, hmiddle⟩ := Prod.mk.inj hfound
  have hvalid' : middle'.store.Valid := hmiddle ▸ (hread.advances hvalid).valid
  have hlive : middle'.store.get? type o.key = some live := hmiddle ▸ Except.ok.inj hreply
  have hafter : after = (sys.store.replace type o).2 := congrArg Prod.snd hanswers.symm
  refine ⟨live, read, others, hlast, hmanaged, hversion, ?_⟩
  rcases hothers.untouched_or_stale hvalid' hlive with ⟨hpresent, huntouched⟩ | ⟨htouched, hstale⟩
  · refine Or.inl ⟨⟨hpresent, huntouched⟩, ?_⟩
    have hadmits : Store.admits live o := by
      simp [Store.admits, hversion]
    rw [hafter, Store.replace_of_present hpresent, if_pos hadmits]
    rfl
  · refine Or.inr ⟨htouched, hafter.trans (Store.replace_of_stale ?_ ?_)⟩
    · rw [hversion]
      exact hvalid'.version_ne_none hlive
    · rw [hversion]
      exact hstale

theorem spares_of_not_writesObjects {q : Query} {a : q.Answer} {before after : Store}
    (hanswers : q.Answers before a after) (hspares : ¬ q.WritesObjects) :
    Spares removal tracker i past before after q := by
  cases q with
  | request r =>
      have hafter : after = (r.perform before).2 := congrArg Prod.snd hanswers.symm
      rw [hafter]
      cases r with
      | get type key => rfl
      | list type space selector => rfl
      | getTracker name => rfl
      | createTracker t => exact Store.createTracker_objects before t
      | replaceTrackerStatus t => exact Store.replaceTrackerStatus_objects before t
      | _ => exact absurd trivial hspares
  | elapsed => exact congrArg Store.objects hanswers
  | sleep d => exact congrArg Store.objects hanswers
  | now => exact congrArg Store.objects hanswers

/-- The step lemma: every question of a cautious process spares the objects of others. -/
theorem spares_of_cautious {q : Query} {next : q.Answer → Process α} {a : q.Answer} {after : Store}
    {known : List Answered} (hrun : start.Run past sys) (hvalid : start.store.Valid)
    (hanswers : q.Answers sys.store a after)
    (hcautious : Process.Cautious removal tracker known (.ask q next))
    (hrecalls : Recalls i past known) : Spares removal tracker i past sys.store after q := by
  cases hcautious with
  | look _ => exact spares_of_not_writesObjects hanswers id
  | create _ => exact spares_create hanswers hrecalls
  | replace hmanaged hversion _ => exact spares_replace hrun hvalid hanswers hrecalls hmanaged hversion
  | spare hspares _ => exact spares_of_not_writesObjects hanswers hspares
  | remove hremoval _ =>
      have hafter : after = (sys.store.deleteTracker tracker).2 := congrArg Prod.snd hanswers.symm
      rw [hafter]
      exact ⟨hremoval, rfl, Store.deleteTracker_objects_sublist _ _⟩

end System

namespace Feature

variable {f : Feature Process} {start sys : System (Except Failure Unit × Progress)} {p : Progress}
  {i : Nat}

/-- A feature never overwrites what is not its own. In every run of any processes among anything else that
happens to the store, a call of a feature creates objects only where it found none, and this has an effect
only if there still is none; and it replaces only managed objects that it found, and this has an effect only
if nobody has touched the object since. Nothing else that it asks changes an object, but that objects go
with the tracker of a feature that is cleaned up. -/
theorem never_overwrites (happlies : f.AppliesOnly) (hreachable : start.store.Reachable) (call : Call)
    (hprocess : start.processes[i]? = some ((f.call call).run.run p)) {earlier later : List Moment}
    {before after : Store} {q : Query} {a : q.Answer}
    (hrun : start.Run (earlier ++ ⟨before, .answer i q a, after⟩ :: later) sys) :
    System.Spares (f.MayRemove p call) f.trackerName i earlier before after q := by
  obtain ⟨middle, middle', hearlier, hstep, -⟩ := hrun.moment
  cases hstep with
  | answer hwaits hanswers =>
      obtain ⟨p', hp', known, hcautious, hrecalls⟩ :=
        hearlier.cautious hprocess (happlies.cautious p call)
      obtain rfl := Option.some.inj (hp'.symm.trans hwaits)
      exact System.spares_of_cautious hearlier hreachable.valid hanswers hcautious hrecalls

/-! ### A late write -/

namespace LateWrite

def configMaps : ResourceType := .of "v1" "ConfigMap"

/-- A managed object. -/
def settings : Object where
  types := some ⟨"v1", "ConfigMap"⟩
  metadata := {
    name := some "settings", space := some "svc",
    annotations := some [(Object.managedAnnotation, "true")] }

/-- A step that applies the object. -/
def applySettings : Action Process := fun c => do
  let _ ← onCluster (c.applyObject settings)

def mesh : Feature Process where
  name := "mesh"
  space := "svc"
  managed := true
  source := {}
  client := Process.client
  enabled := fun _ _ => pure true
  stages := { resources := [applySettings] }
  renderer := { engine := fun _ => throw (.action "no overlays") }
  owner := none
  statusRetry := Backoff.statusUpdate

/-- A store with the object and the tracker of the feature. -/
def bench : Store := ((({} : Store).insert settings).insertTracker (Tracker.make mesh.trackerName {})).2

theorem mesh_appliesOnly : mesh.AppliesOnly where
  client := rfl
  predicate _ _ := .done _
  step tracker action haction data := by
    obtain rfl : action = applySettings := List.mem_singleton.mp haction
    have hrun : (applySettings (mesh.context tracker)).run.run data =
        ((mesh.context tracker).applyObject settings).run >>= fun outcome =>
          .done (outcome.map fun _ => (), data) := by
      change ((mesh.context tracker).applyObject settings).run >>= (fun outcome => pure (outcome, data))
        >>= _ = _
      rw [bind_assoc]
      refine bind_congr fun outcome => ?_
      match outcome with
      | .ok _ => rfl
      | .error _ => rfl
    rw [hrun]
    exact .apply settings fun outcome => .done _
  manifest man hman := absurd hman List.not_mem_nil
  engine _ := trivial

/-- Somebody puts another object in its place after the feature has looked for it: the replacement that
follows has no effect. -/
theorem changed_in_between : ∃ past o before a after sys,
    System.Run ⟨bench, [mesh.apply.run.run {}]⟩
      (past ++ [⟨before, .answer 0 (.request (.replace configMaps o)) a, after⟩]) sys ∧
    after = before := by
  have hreachable : bench.Reachable := .apply (.insertTracker _) (.apply (.insert settings) .empty)
  have htracked := ((((System.Run.start : System.Run ⟨bench, [mesh.apply.run.run {}]⟩ [] _).step
    (.answer (i := 0) rfl rfl)).step (.answer (i := 0) rfl rfl)).step
    (.answer (i := 0) (a := (default : Timestamp)) rfl rfl)).step (.answer (i := 0) rfl rfl)
  have hread := htracked.step (.answer (i := 0) rfl rfl)
  have hchanged := hread.step (.other (.insert settings))
  have hrefused := hchanged.step (.answer (i := 0) rfl rfl)
  refine ⟨_, _, _, _, _, _, hrefused, ?_⟩
  obtain ⟨live, _, _, _, _, _, ⟨_, hwritten⟩ | ⟨_, hsame⟩⟩ :=
    never_overwrites (i := 0) (f := mesh) (p := {}) mesh_appliesOnly hreachable .apply rfl hrefused
  · have hversions : some "4" = some "5" := congrArg
      (fun objects => (Keyed.get? objects (StoreKey.of configMaps settings.key)).bind Object.version) hwritten
    exact absurd hversions (by decide)
  · exact hsame

end LateWrite

end Feature

end Provision

import Provision.Proofs.Feature.Provided
import Provision.Proofs.Process
import Provision.Proofs.Store.Ownership

/-!
What features do to each other. A feature writes no tracker but the one of its name, so features with different
trackers leave each other's trackers alone, and the objects that only these own. But features of different
namespaces and names can share a tracker: the dash between the two can stand in either.
-/

namespace Provision

/-! ### Names of trackers -/

namespace Tracker

/-- The names of two features start where those of their namespaces end, so that put together they are the same:
a middle part belongs to the namespace of one and to the name of the other. -/
def Clash (space feature space' feature' : String) : Prop :=
  ∃ middle, space' = space ++ "-" ++ middle ∧ feature = middle ++ "-" ++ feature' ∨
    space = space' ++ "-" ++ middle ∧ feature' = middle ++ "-" ++ feature

variable {space feature space' feature' : String}

theorem toList_nameFor (space feature : String) :
    (nameFor space feature).toList = space.toList ++ '-' :: feature.toList := by
  simp [nameFor]

/-- If one namespace is the longer one, what it has more starts with the dash. -/
theorem exists_middle {more : List Char} (hspace : space'.toList = space.toList ++ more)
    (hfeature : '-' :: feature.toList = more ++ '-' :: feature'.toList) :
    space = space' ∧ feature = feature' ∨
      ∃ middle, space' = space ++ "-" ++ middle ∧ feature = middle ++ "-" ++ feature' := by
  cases more with
  | nil =>
      rw [List.append_nil] at hspace
      rw [List.nil_append, List.cons_inj_right] at hfeature
      exact Or.inl ⟨String.ext hspace.symm, String.ext hfeature⟩
  | cons dash middle =>
      rw [List.cons_append] at hfeature
      obtain ⟨rfl, hrest⟩ := List.cons_eq_cons.mp hfeature
      refine Or.inr ⟨String.ofList middle, String.ext ?_, String.ext ?_⟩
      · simp [hspace]
      · simp [hrest]

/-- Two features share a tracker just if their namespaces and names are the same or clash. -/
theorem nameFor_eq_iff : nameFor space feature = nameFor space' feature' ↔
    space = space' ∧ feature = feature' ∨ Clash space feature space' feature' := by
  constructor
  · intro heq
    have hlist := congrArg String.toList heq
    rw [toList_nameFor, toList_nameFor, List.append_eq_append_iff] at hlist
    rcases hlist with ⟨more, hspace, hfeature⟩ | ⟨more, hspace, hfeature⟩
    · rcases exists_middle hspace hfeature with hsame | ⟨middle, hclash⟩
      · exact Or.inl hsame
      · exact Or.inr ⟨middle, Or.inl hclash⟩
    · rcases exists_middle hspace hfeature with ⟨rfl, rfl⟩ | ⟨middle, hclash⟩
      · exact Or.inl ⟨rfl, rfl⟩
      · exact Or.inr ⟨middle, Or.inr hclash⟩
  · rintro (⟨rfl, rfl⟩ | ⟨middle, ⟨rfl, rfl⟩ | ⟨rfl, rfl⟩⟩)
    · rfl
    · simp only [nameFor, String.append_assoc]
    · simp only [nameFor, String.append_assoc]

end Tracker

/-! ### Processes that mind one tracker -/

namespace Query

/-- Whether a query writes no tracker but the one with a name. -/
def Minds (tracker : String) : Query → Prop
  | request r => r.written? = none ∨ r.written? = some tracker
  | _ => True

/-- Answers that a store can give: a tracker has the name under which it is found. -/
def Genuine : (q : Query) → q.Answer → Prop
  | request (.getTracker name), .ok (some t) => t.displayName = name
  | _, _ => True

theorem Answers.genuine {q : Query} {a : q.Answer} {before after : Store} (hanswers : q.Answers before a after)
    (hvalid : before.Valid) : q.Genuine a := by
  cases q with
  | request r =>
      cases r with
      | getTracker name =>
          cases a with
          | error f => trivial
          | ok found =>
              cases found with
              | none => trivial
              | some t => exact hvalid.displayName_of_getTracker? (Except.ok.inj (congrArg Prod.fst hanswers))
      | _ => trivial
  | _ => trivial

end Query

namespace Process

variable {α β : Type} {tracker : String}

/-- Whether a process writes no tracker but the one with a name, as long as the answers are genuine. -/
def Minds (tracker : String) : Process α → Prop
  | done _ => True
  | ask q next => q.Minds tracker ∧ ∀ a, q.Genuine a → (next a).Minds tracker

theorem Minds.bind {p : Process α} {next : α → Process β} (hfirst : p.Minds tracker)
    (hnext : ∀ a, (next a).Minds tracker) : (p >>= next).Minds tracker := by
  induction p with
  | done a => exact hnext a
  | ask q after ih => exact ⟨hfirst.1, fun a ha => ih a (hfirst.2 a ha)⟩

theorem composable_minds (tracker : String) : Composable fun α (p : Process α) => p.Minds tracker where
  done _ := trivial
  bind hfirst hnext := hfirst.bind hnext

theorem Minds.ask {q : Query} {next : q.Answer → Process α} (hminds : q.Minds tracker)
    (hnext : ∀ a, q.Genuine a → (next a).Minds tracker) : (Process.ask q next).Minds tracker :=
  ⟨hminds, hnext⟩

theorem minds_ask {q : Query} (hminds : q.Minds tracker) : (ask q done).Minds tracker :=
  .ask hminds fun _ _ => trivial

theorem minds_request {r : Store.Request} (hminds : r.written? = none ∨ r.written? = some tracker) :
    (request r).run.Minds tracker :=
  minds_ask hminds

/-- Writing a status concerns the tracker that was read. -/
theorem minds_changeStatus (tracker : String) (change : Timestamp → TrackerStatus → TrackerStatus) :
    (client.changeStatus tracker change).run.Minds tracker := by
  refine .ask (Or.inl rfl) fun found hfound => ?_
  match found with
  | .error f => trivial
  | .ok none => trivial
  | .ok (some t) =>
      refine .ask trivial fun now _ => .ask (Or.inr (congrArg some hfound)) fun written _ => ?_
      · match written with
        | .ok _ => trivial
        | .error f => trivial

end Process

/-! ### Features that mind their tracker -/

namespace Feature

/-- Features whose predicate, steps and overlay engine write no other tracker, whatever they do to objects. -/
structure MindsOwn (f : Feature Process) : Prop where
  client : f.client = Process.client
  predicate (tracker : Option Tracker) (data : DataBag) :
    (f.enabled (f.context tracker) data).run.Minds f.trackerName
  step (tracker : Option Tracker) (action : Action Process)
    (haction : action ∈ f.stages.data ++ f.stages.preconditions ++ f.stages.resources ++
      f.stages.postconditions ++ f.stages.cleanups) (data : DataBag) :
    ((action (f.context tracker)).run.run data).Minds f.trackerName
  engine (dir : String) : (f.renderer.engine dir).run.Minds f.trackerName

variable {f : Feature Process}

/-- The steps that the engine brings along write no tracker. -/
theorem minds_provided (hclient : f.client = Process.client) (tracker : Option Tracker)
    {action : Action Process} (hprovided : action.Provided) (data : DataBag) :
    ((action (f.context tracker)).run.run data).Minds f.trackerName := by
  have hP := Process.composable_minds f.trackerName
  refine hP.provided (c := f.context tracker) ?_ ?_ ?_ ?_ ?_ hprovided data
  · intro type key
    rw [context, hclient]
    exact Process.minds_request (Or.inl rfl)
  · intro type o
    rw [context, hclient]
    exact Process.minds_request (Or.inl rfl)
  · intro type space selector
    rw [context, hclient]
    exact Process.minds_request (Or.inl rfl)
  · exact Process.minds_ask trivial
  · exact fun _ => Process.minds_ask trivial

namespace MindsOwn

variable (hminds : f.MindsOwn)

include hminds

theorem parts : f.Parts fun α (p : Process α) => p.Minds f.trackerName where
  composable := Process.composable_minds f.trackerName
  step := hminds.step
  engine := hminds.engine
  objects options man _ objects := by
    rw [hminds.client]
    refine (Process.composable_minds f.trackerName).applyObjects ?_ ?_ ?_ ?_ options man.isPatch objects
    · exact fun _ _ => Process.minds_request (Or.inl rfl)
    · exact fun _ _ => Process.minds_request (Or.inl rfl)
    · exact fun _ _ => Process.minds_request (Or.inl rfl)
    · exact fun _ _ _ => Process.minds_request (Or.inl rfl)
  getTracker := by
    rw [hminds.client]
    exact Process.minds_request (Or.inl rfl)
  createTracker := by
    rw [hminds.client]
    exact Process.minds_request (Or.inr rfl)
  changeStatus change := by
    rw [hminds.client]
    exact Process.minds_changeStatus f.trackerName change
  sleep _ := Process.minds_ask trivial

theorem deleteTracker : (f.client.deleteTracker f.trackerName).run.Minds f.trackerName := by
  rw [hminds.client]
  exact Process.minds_request (Or.inr rfl)

/-- The calls of such a feature write no other tracker. -/
theorem minds_call (p : Progress) (call : Call) : ((f.call call).run.run p).Minds f.trackerName := by
  cases call with
  | cleanup => exact hminds.parts.cleanup hminds.deleteTracker p
  | apply =>
      rw [call, run_apply]
      refine (hminds.predicate p.tracker p.data).bind fun answer => ?_
      match answer with
      | .error e => trivial
      | .ok true => exact hminds.parts.enable p
      | .ok false => exact hminds.parts.disable hminds.deleteTracker p

end MindsOwn

end Feature

/-! ### In a system -/

/-- Whether an event is the deletion of what is kept in a place. -/
def Event.Deletes (place : StoreKey) : Event → Prop
  | answer _ (.request (.delete type key)) _ => .of type key = place
  | _ => False

def Event.Genuine : Event → Prop
  | answer _ q a => q.Genuine a
  | other _ => True

/-- At some moment a tracker is left alone, and if no object claims to be it, so is what only the tracker owns,
unless this is deleted itself. -/
structure Moment.Leaves (tracker : String) (m : Moment) : Prop where
  alone : m.after.getTracker? tracker = m.before.getTracker? tracker
  owned {uid : String} {place : StoreKey} {o : Object} (huid : m.before.trackerUid? tracker = some uid)
    (hfree : m.before.Free uid) (hfound : Keyed.get? m.before.objects place = some o)
    (howned : o.OwnedOnlyBy uid) (hstays : ¬ m.event.Deletes place) :
    Keyed.get? m.after.objects place ≠ none

theorem Moment.Leaves.of_eq {before after : Store} (hsame : after = before) (event : Event)
    (tracker : String) : Moment.Leaves tracker ⟨before, event, after⟩ where
  alone := congrArg (Store.getTracker? · tracker) hsame
  owned _ _ hfound _ _ := by
    rw [hsame, hfound]
    exact Option.some_ne_none _

/-- The step lemma: a query that minds one tracker leaves every other one alone. -/
theorem Query.Minds.leaves {tracker other : String} {q : Query} {a : q.Answer} {before after : Store} {i : Nat}
    (hminds : q.Minds tracker) (hanswers : q.Answers before a after) (hreachable : before.Reachable)
    (hne : other ≠ tracker) : Moment.Leaves other ⟨before, .answer i q a, after⟩ := by
  cases q with
  | request r =>
      have hafter : after = (r.perform before).2 := congrArg Prod.snd hanswers.symm
      subst hafter
      have hwritten : ∀ name, r.written? = some name → name = tracker := by
        intro name hname
        rcases hminds with hnone | hown
        · rw [hnone] at hname
          cases hname
        · exact Option.some.inj (hname.symm.trans hown)
      refine ⟨Store.getTracker?_perform_of_ne fun hother => hne (hwritten other hother), ?_⟩
      intro uid place o huid hfree hfound howned hstays
      refine Store.get?_perform_ne_none hreachable.valid hfound howned hfree ?_ ?_
      · rintro name rfl
        rw [hwritten name rfl]
        exact hreachable.marked.trackerUid?_ne hne.symm huid
      · rintro type key rfl heq
        exact hstays heq
  | elapsed => exact .of_eq hanswers _ other
  | sleep d => exact .of_eq hanswers _ other
  | now => exact .of_eq hanswers _ other

namespace System

variable {α : Type} {start sys : System α} {past : List Moment} {i : Nat} {tracker : String}

theorem Run.genuine (hrun : start.Run past sys) (hvalid : start.store.Valid) :
    ∀ m ∈ past, m.event.Genuine := by
  intro m hm
  obtain ⟨_, _, middle, middle', hearlier, hstep, -⟩ := hrun.moment_of_mem hm
  cases hstep with
  | other op => trivial
  | answer _ hanswers => exact hanswers.genuine (hearlier.advances hvalid).valid

/-- In every run, a process that minds its tracker goes on doing so. -/
theorem Run.minds {p : Process α} (hrun : start.Run past sys) (hvalid : start.store.Valid)
    (hprocess : start.processes[i]? = some p) (hminds : p.Minds tracker) :
    ∃ p, sys.processes[i]? = some p ∧ p.Minds tracker := by
  have hkeeps : ∃ p, sys.processes[i]? = some p ∧ ((∀ m ∈ past, m.event.Genuine) → p.Minds tracker) := by
    refine hrun.keeps (I := fun past p => (∀ m ∈ past, m.event.Genuine) → p.Minds tracker) hprocess
      (fun _ => hminds) ?_ ?_
    · intro past before q a after next hanswers hkept hgenuine
      rw [List.forall_mem_append, List.forall_mem_singleton] at hgenuine
      exact (hkept hgenuine.1).2 a hgenuine.2
    · intro past m p hother hkept hgenuine
      exact hkept fun e he => hgenuine e (List.mem_append_left _ he)
  obtain ⟨p', hp', hkept⟩ := hkeeps
  exact ⟨p', hp', hkept (hrun.genuine hvalid)⟩

end System

namespace Feature

variable {f g : Feature Process} {start sys : System (Except Failure Unit × Progress)} {p : Progress}
  {past : List Moment} {i : Nat}

/-- Features share a tracker just if their namespaces and names are the same or clash. If they do not, then in
every run of any processes among anything else that happens to the store, no question of a call of one writes or
deletes the tracker of the other, and nothing that only this tracker owns is collected as garbage. -/
theorem isolated_unless_shared (hminds : f.MindsOwn) (hreachable : start.store.Reachable) (call : Call)
    (hprocess : start.processes[i]? = some ((f.call call).run.run p)) (hrun : start.Run past sys) :
    (f.trackerName = g.trackerName ↔
      f.space = g.space ∧ f.name = g.name ∨ Tracker.Clash f.space f.name g.space g.name) ∧
    (f.trackerName ≠ g.trackerName → ∀ m ∈ past, m.event.isOf i → m.Leaves g.trackerName) := by
  refine ⟨Tracker.nameFor_eq_iff, ?_⟩
  intro hne m hm hown
  obtain ⟨_, _, middle, middle', hearlier, hstep, -⟩ := hrun.moment_of_mem hm
  cases hstep with
  | other op => exact hown.elim
  | answer hwaits hanswers =>
      obtain rfl := hown
      obtain ⟨p', hp', hminds'⟩ := hearlier.minds hreachable.valid hprocess (hminds.minds_call p call)
      obtain rfl := Option.some.inj (hp'.symm.trans hwaits)
      exact hminds'.1.leaves hanswers (hearlier.reachable hreachable) hne.symm

/-! ### Neighbours -/

namespace Neighbours

/-- A feature that makes a namespace. -/
def feature (space name : String) : Feature Process where
  name
  space
  managed := false
  source := {}
  client := Process.client
  enabled := fun _ _ => pure true
  stages := { resources := [Action.createNamespace space] }
  renderer := { engine := fun _ => throw (.action "no overlays") }
  owner := none
  statusRetry := Backoff.statusUpdate

theorem feature_mindsOwn (space name : String) : (feature space name).MindsOwn where
  client := rfl
  predicate _ _ := trivial
  step tracker action haction data := by
    obtain rfl : action = Action.createNamespace space := List.mem_singleton.mp haction
    exact minds_provided rfl tracker (.createNamespace space) data
  engine _ := trivial

def gateway : Feature Process := feature "svc-mesh" "gateway"

/-- An object that the first tracker owns. -/
def settings : Object where
  types := some ⟨"v1", "ConfigMap"⟩
  metadata := {
    name := some "settings", space := some "svc-mesh",
    ownerReferences := some [⟨Tracker.apiVersion, none, none, Tracker.kind, gateway.trackerName, "uid-1"⟩] }

/-- Where the object is kept. -/
def place : StoreKey := ⟨"v1", "ConfigMap", some "svc-mesh", "settings"⟩

/-- A store with two trackers, of which the first one owns an object. -/
def bench : Store :=
  ((({} : Store).insertTracker (Tracker.make gateway.trackerName {})).2.insertTracker
    (Tracker.make (feature "svc" "mesh").trackerName {})).2.insert settings

/-- The object as it is kept. -/
def stored : Object :=
  { settings with metadata := { settings.metadata with resourceVersion := some "3", uid := some "uid-3" } }

theorem bench_reachable : bench.Reachable :=
  .apply (.insert settings) (.apply (.insertTracker _) (.apply (.insertTracker _) .empty))

/-- Cleaning up a feature with another tracker leaves the tracker and the object where they are. -/
theorem settings_stay : ∃ m sys,
    System.Run ⟨bench, [(feature "svc" "mesh").cleanup.run.run {}]⟩ [m] sys ∧
    sys.store.getTracker? (feature "svc" "mesh").trackerName = none ∧
    sys.store.getTracker? gateway.trackerName = bench.getTracker? gateway.trackerName ∧
    Keyed.get? sys.store.objects place ≠ none := by
  have hrun := (System.Run.start : System.Run ⟨bench, [(feature "svc" "mesh").cleanup.run.run {}]⟩ [] _).step
    (.answer (i := 0) rfl rfl)
  obtain ⟨-, hleaves⟩ := isolated_unless_shared (g := gateway) (i := 0) (p := {})
    (feature_mindsOwn "svc" "mesh") bench_reachable .cleanup rfl hrun
  obtain ⟨halone, howned⟩ := hleaves (by decide) _ List.mem_cons_self rfl
  have huid : bench.trackerUid? gateway.trackerName = some "uid-1" := by decide
  have hfree : bench.Free "uid-1" := by decide
  have hfound : Keyed.get? bench.objects place = some stored := rfl
  have hstored : stored.OwnedOnlyBy "uid-1" := by decide
  exact ⟨_, _, hrun, rfl, halone, howned huid hfree hfound hstored id⟩

/-- Cleaning up a feature of another namespace and another name takes the tracker and the object away. -/
theorem settings_go : ∃ m sys,
    System.Run ⟨bench, [(feature "svc" "mesh-gateway").cleanup.run.run {}]⟩ [m] sys ∧
    (feature "svc" "mesh-gateway").space ≠ gateway.space ∧ (feature "svc" "mesh-gateway").name ≠ gateway.name ∧
    bench.trackerUid? gateway.trackerName = some "uid-1" ∧ bench.Free "uid-1" ∧
    Keyed.get? bench.objects place = some stored ∧ stored.metadata.isOwnedBy "uid-1" ∧
    stored.OwnedOnlyBy "uid-1" ∧ sys.store.getTracker? gateway.trackerName = none ∧
    Keyed.get? sys.store.objects place = none := by
  have hrun := (System.Run.start :
    System.Run ⟨bench, [(feature "svc" "mesh-gateway").cleanup.run.run {}]⟩ [] _).step
    (.answer (i := 0) rfl rfl)
  exact ⟨_, _, hrun, by decide, by decide, by decide, by decide, rfl, by decide, by decide, rfl, rfl⟩

end Neighbours

end Feature

end Provision

import Mathlib.Data.List.Nodup
import Provision.Proofs.Handler.Making

/-!
Registering definitions. Providers only ever add lists of definitions, and go on or end as they like when that
fails; whatever they do, the registry holds the first definition of every name that was given, in order, and
an addition fails with exactly the definitions whose names were given before. So the features of a handler have
trackers of their own.
-/

namespace Provision

/-- A collection without lists is what its failure consists of. -/
theorem Failure.members_of_toResult {failures : List Failure} {e : Failure} (hsingle : ∀ f ∈ failures, f.Single)
    (he : toResult failures = .error e) : e.members = failures := by
  have hsome : failures ≠ [] := by
    rintro rfl
    cases he
  obtain ⟨e', he', hmembers⟩ := exists_toResult_of_single hsome hsingle
  cases he'.symm.trans he
  exact hmembers

namespace Registry

variable {m : Type → Type}

/-- The names of definitions. -/
def names (ds : List (Definition m)) : List String := ds.map Definition.name

/-- The first definition of every name. -/
def firsts : List (Definition m) → List (Definition m)
  | [] => []
  | d :: rest => d :: (firsts rest).filter fun e => e.name ≠ d.name

/-- The definitions whose names others before them have, of which some are given. -/
def repeats : List (Definition m) → List (Definition m) → List (Definition m)
  | _, [] => []
  | earlier, d :: rest =>
    if d.name ∈ names earlier then d :: repeats (earlier ++ [d]) rest else repeats (earlier ++ [d]) rest

/-! ### First definitions -/

theorem mem_names_firsts {ds : List (Definition m)} {name : String} :
    name ∈ names (firsts ds) ↔ name ∈ names ds := by
  induction ds with
  | nil => simp [firsts]
  | cons d rest ih =>
      simp only [names, List.mem_map] at ih
      by_cases hname : name = d.name
      · simp [names, firsts, hname]
      · simp only [names, firsts, List.map_cons, List.mem_cons, hname, false_or, List.mem_map, List.mem_filter]
        rw [← ih]
        constructor
        · rintro ⟨e, ⟨he, -⟩, rfl⟩
          exact ⟨e, he, rfl⟩
        · rintro ⟨e, he, rfl⟩
          exact ⟨e, ⟨he, by simpa using hname⟩, rfl⟩

theorem nodup_names_firsts (ds : List (Definition m)) : (names (firsts ds)).Nodup := by
  induction ds with
  | nil => simp [firsts, names]
  | cons d rest ih =>
      simp only [firsts, names, List.map_cons, List.nodup_cons]
      constructor
      · simp
      · exact ih.sublist (List.filter_sublist.map Definition.name)

theorem mem_names_append {ds es : List (Definition m)} {name : String} :
    name ∈ names (ds ++ es) ↔ name ∈ names ds ∨ name ∈ names es := by
  simp [names]

/-- What has neither the name of a definition nor one of others has none of theirs together. -/
theorem filter_filter_new (ds earlier : List (Definition m)) (d : Definition m) :
    (ds.filter fun e => e.name ≠ d.name).filter (fun e => e.name ∉ names earlier) =
      ds.filter fun e => e.name ∉ names (earlier ++ [d]) := by
  rw [List.filter_filter]
  refine List.filter_congr fun e _ => ?_
  simp [names]

/-- Further definitions add those of the names that are new. -/
theorem firsts_append (ds es : List (Definition m)) :
    firsts (ds ++ es) = firsts ds ++ (firsts es).filter fun e => e.name ∉ names ds := by
  induction ds with
  | nil => simp [firsts, names]
  | cons d rest ih =>
      have hnew (e : Definition m) :
          (decide (e.name ≠ d.name) && decide (e.name ∉ names rest)) = decide (e.name ∉ names (d :: rest)) := by
        simp [names]
      simp only [List.cons_append, firsts, ih, List.filter_append, List.filter_filter, hnew]

/-! ### Repeated definitions -/

/-- Nothing is repeated if all names differ, also from those given before. -/
theorem repeats_eq_nil_iff {earlier ds : List (Definition m)} :
    repeats earlier ds = [] ↔ (names ds).Nodup ∧ ∀ name ∈ names ds, name ∉ names earlier := by
  induction ds generalizing earlier with
  | nil => simp [repeats, names]
  | cons d rest ih =>
      by_cases hd : d.name ∈ names earlier
      · rw [repeats, if_pos hd]
        simp only [reduceCtorEq, false_iff, not_and]
        intro _ hnew
        exact hnew d.name List.mem_cons_self hd
      · rw [repeats, if_neg hd, ih]
        simp only [names, List.map_cons, List.map_append, List.map_nil, List.nodup_cons, List.mem_cons,
          List.mem_append, forall_eq_or_imp] at hd ⊢
        grind

/-! ### Registering in turn -/

theorem hasName_iff {registry : Registry m} {name : String} : registry.hasName name ↔ name ∈ names registry := by
  simp [hasName, names]

/-- The step lemma: registering definitions adds those of new names, and fails for the repeated ones. The names in
the registry need only be those of the definitions that were given before. -/
theorem register_eq (registry : Registry m) {earlier : List (Definition m)} (ds : List (Definition m))
    (hnames : ∀ name, name ∈ names registry ↔ name ∈ names earlier) :
    register registry ds = ((repeats earlier ds).map fun d => duplicate d.name,
      registry ++ (firsts ds).filter fun d => d.name ∉ names earlier) := by
  induction ds generalizing registry earlier with
  | nil => simp [register, repeats, firsts]
  | cons d rest ih =>
      by_cases hd : d.name ∈ names earlier
      · have htaken : registry.hasName d.name := hasName_iff.mpr ((hnames d.name).mpr hd)
        have hsame : ∀ name, name ∈ names registry ↔ name ∈ names (earlier ++ [d]) := by
          intro name
          rw [hnames, mem_names_append, or_iff_left_of_imp]
          intro hname
          rwa [show name = d.name by simpa [names] using hname]
        rw [register, if_pos htaken, ih registry hsame, repeats, if_pos hd, firsts,
          List.filter_cons_of_neg (by simpa using hd), filter_filter_new]
        rfl
      · have hfree : ¬ registry.hasName d.name := fun htaken => hd ((hnames d.name).mp (hasName_iff.mp htaken))
        have hsame : ∀ name, name ∈ names (registry ++ [d]) ↔ name ∈ names (earlier ++ [d]) := by
          intro name
          rw [mem_names_append, mem_names_append, hnames]
        rw [register, if_neg hfree, ih (registry ++ [d]) hsame, repeats, if_neg hd, firsts,
          List.filter_cons_of_pos (by simpa using hd), filter_filter_new, List.append_assoc]
        rfl

/-- What is registered after lists of definitions were added in turn, whatever came of each. -/
def addAll (registry : Registry m) (calls : List (List (Definition m))) : Registry m :=
  calls.foldl (fun registry ds => (register registry ds).2) registry

/-- The run lemma: after any additions the first definition of every name is registered. -/
theorem addAll_firsts (done : List (Definition m)) (calls : List (List (Definition m))) :
    addAll (firsts done) calls = firsts (done ++ calls.flatten) := by
  induction calls generalizing done with
  | nil => simp [addAll]
  | cons ds rest ih =>
      have hstep : (register (firsts done) ds).2 = firsts (done ++ ds) := by
        rw [register_eq (firsts done) ds fun _ => mem_names_firsts, firsts_append]
      rw [addAll, List.foldl_cons, hstep]
      exact (ih (done ++ ds)).trans (by rw [List.flatten_cons, List.append_assoc])

theorem addAll_append (registry : Registry m) (calls more : List (List (Definition m))) :
    addAll registry (calls ++ more) = addAll (addAll registry calls) more :=
  List.foldl_append

/-- An addition after others registers what is new and fails for what is repeated. -/
theorem run_add (calls : List (List (Definition m))) (ds : List (Definition m)) :
    (add ds).run.run (addAll [] calls) =
      (Failure.toResult ((repeats calls.flatten ds).map fun d => duplicate d.name), addAll [] (calls ++ [ds])) := by
  have hfirsts : addAll [] calls = firsts calls.flatten := addAll_firsts [] calls
  have hnames (name : String) : name ∈ names (addAll [] calls) ↔ name ∈ names calls.flatten := by
    rw [hfirsts, mem_names_firsts]
  have hregister := register_eq (addAll [] calls) ds hnames
  rw [addAll_append]
  exact Prod.ext (congrArg (fun s : List Failure × Registry m => Failure.toResult s.1) hregister) rfl

end Registry

/-! ### Providers -/

/-- What a provider does: it adds a list of definitions, learns whether that failed and goes on accordingly, or it
ends with a result of its own. -/
inductive Provider.Script (m : Type → Type) where
  | done (result : Except Failure Unit)
  | add (ds : List (Definition m)) (next : Except Failure Unit → Script m)

namespace Provider.Script

variable {m : Type → Type}

/-- The provider that does it. -/
def provider : Script m → Provider m
  | done result => ExceptT.mk (pure result)
  | add ds next => ExceptT.mk do
    let outcome ← (Registry.add ds).run
    (next outcome).provider.run

/-- The lists that are added, from a registry on. -/
def calls : Script m → Registry m → List (List (Definition m))
  | done _, _ => []
  | add ds next, registry =>
    let after := (Registry.add ds).run.run registry
    ds :: (next after.1).calls after.2

/-- The lists that are added if all of several scripts are followed. -/
def callsInTurn : List (Script m) → Registry m → List (List (Definition m))
  | [], _ => []
  | script :: rest, registry =>
    script.calls registry ++ callsInTurn rest (Registry.addAll registry (script.calls registry))

theorem run_provider (script : Script m) (registry : Registry m) :
    (script.provider.run.run registry).2 = Registry.addAll registry (script.calls registry) := by
  induction script generalizing registry with
  | done result => rfl
  | add ds next ih => exact ih ((Registry.add ds).run.run registry).1 ((Registry.add ds).run.run registry).2

theorem run_forM_of_ok {scripts : List (Script m)} {registry after : Registry m}
    (hrun : ((scripts.map provider).forM id).run.run registry = (.ok (), after)) :
    after = Registry.addAll registry (callsInTurn scripts registry) := by
  induction scripts generalizing registry with
  | nil => exact (congrArg Prod.snd hrun).symm
  | cons script rest ih =>
      have hcons : ((List.map provider (script :: rest)).forM id : Provider m) =
          (script.provider >>= fun _ => (rest.map provider).forM id) := rfl
      rw [hcons] at hrun
      obtain ⟨_, registry', hfirst, hrest⟩ := exists_of_run_bind_ok hrun
      have hregistry : registry' = Registry.addAll registry (script.calls registry) := by
        rw [← run_provider, hfirst]
      rw [callsInTurn, Registry.addAll_append, ← hregistry]
      exact ih hrest

/-- What providers register together is the first definition of every name that any of them gave. -/
theorem collect_of_ok {scripts : List (Script m)} {registry : Registry m}
    (hcollect : Registry.collect (scripts.map provider) = .ok registry) :
    registry = Registry.firsts (callsInTurn scripts []).flatten := by
  unfold Registry.collect at hcollect
  obtain ⟨_, houtcome, rfl⟩ := except_map_eq_ok_iff.mp hcollect
  exact (run_forM_of_ok (Prod.ext houtcome rfl)).trans (Registry.addAll_firsts [] _)

end Provider.Script

/-! ### The features of a handler -/

namespace Handler

variable {S : Type} {around : Surroundings (StateM S)} {h : Handler (StateM S)}

theorem space_of_checkedSpace {d : Definition (StateM S)} {space : String} (hchecked : d.checkedSpace = .ok space) :
    d.space = some space := by
  unfold Definition.checkedSpace at hchecked
  split at hchecked
  · cases hchecked
  · split at hchecked
    · rename_i hspace
      rw [Except.ok.inj hchecked] at hspace
      exact (Option.filter_eq_some_iff.mp hspace).1
    · cases hchecked

/-- A feature has the name and the namespace of its definition. -/
theorem address_of_create {d : Definition (StateM S)} {f : Feature (StateM S)} {w w' : S}
    (hmade : (d.create around).run.run w = (.ok f, w')) : f.name = d.name ∧ d.space = some f.space := by
  obtain ⟨space, _, hspace, hmanifests⟩ := exists_of_run_bind_ok hmade
  obtain ⟨manifests, _, -, hclient⟩ := exists_of_run_bind_ok hmanifests
  obtain ⟨client, _, -, hdone⟩ := exists_of_run_bind_ok hclient
  cases hdone
  exact ⟨rfl, space_of_checkedSpace (of_run_liftM_ok hspace).1⟩

/-- The features that are made have the names and the namespaces of definitions, in order; some may be missing. -/
theorem addresses_of_createEach (around : Surroundings (StateM S)) (definitions : List (Definition (StateM S)))
    (w : S) :
    (((createEach around definitions).run w).1.2.map fun f => (f.name, some f.space)).Sublist
      (definitions.map fun d => (d.name, d.space)) := by
  induction definitions generalizing w with
  | nil => exact .slnil
  | cons d rest ih =>
      rw [run_createEach_cons]
      cases hfirst : (d.create around).run.run w with
      | mk outcome w₁ =>
          cases outcome with
          | error e => exact (ih w₁).cons _
          | ok f =>
              obtain ⟨hname, hspace⟩ := address_of_create hfirst
              simpa [hname, hspace] using (ih w₁).cons_cons (d.name, d.space)

/-- The trackers of the features of a handler have the names that go with the registered definitions, in order. -/
theorem trackerNames_of_features {made : List (Feature (StateM S))} {w w' : S}
    (hfeatures : (h.features around).run.run w = (.ok made, w')) :
    ∃ registry, Registry.collect h.providers = .ok registry ∧
      (made.map Feature.trackerName).Sublist ((Registry.names registry).map (Tracker.nameFor h.space)) := by
  obtain ⟨registry, _, hregistry, hrest⟩ := exists_of_run_bind_ok hfeatures
  refine ⟨registry, (of_run_liftM_ok hregistry).1, ?_⟩
  split at hrest
  · cases hrest
    simp
  · obtain ⟨client, w₁, -, hcreate⟩ := exists_of_run_bind_ok hrest
    obtain ⟨⟨failures, features⟩, _, hmade, hchecked⟩ := exists_of_run_bind_ok hcreate
    obtain ⟨_, _, -, hdone⟩ := exists_of_run_bind_ok hchecked
    cases hdone
    have haddresses := addresses_of_createEach around (registry.map (h.adopt client)) w₁
    rw [of_run_lift_ok hmade] at haddresses
    have hnames := haddresses.map fun address => Tracker.nameFor (address.2.getD "") address.1
    rw [List.map_map, List.map_map, List.map_map] at hnames
    rwa [Registry.names, List.map_map]

theorem nameFor_injective (space : String) : Function.Injective (Tracker.nameFor space) := by
  intro name name' heq
  simpa [Tracker.nameFor] using heq

/-- Registered names stay unique. After any additions, whatever came of them, the registry holds the first definition of
every name that was given, in order, so no two of them share a name. A further addition succeeds exactly if no name in
its list came before, in the list or in an earlier one, and otherwise its failure consists of one for each repeated
definition, in order. What the providers of a handler register comes about in this way, whatever they make of failures;
and no two features of the handler share a tracker. -/
theorem registers_unique_names {scripts : List (Provider.Script (StateM S))}
    (hproviders : h.providers = scripts.map Provider.Script.provider) :
    (∀ calls : List (List (Definition (StateM S))), Registry.addAll [] calls = Registry.firsts calls.flatten ∧
      (Registry.names (Registry.addAll [] calls)).Nodup ∧
      ∀ ds, ∃ outcome, (Registry.add ds).run.run (Registry.addAll [] calls) =
          (outcome, Registry.addAll [] (calls ++ [ds])) ∧
        (outcome = .ok () ↔
          (Registry.names ds).Nodup ∧ ∀ name ∈ Registry.names ds, name ∉ Registry.names calls.flatten) ∧
        ∀ e, outcome = .error e →
          e.members = (Registry.repeats calls.flatten ds).map fun d => Registry.duplicate d.name) ∧
    (∀ registry, Registry.collect h.providers = .ok registry →
      registry = Registry.firsts (Provider.Script.callsInTurn scripts []).flatten) ∧
    ∀ w made w', (h.features around).run.run w = (.ok made, w') → (made.map Feature.trackerName).Nodup := by
  have hcollected : ∀ registry, Registry.collect h.providers = .ok registry →
      registry = Registry.firsts (Provider.Script.callsInTurn scripts []).flatten := by
    intro registry hcollect
    rw [hproviders] at hcollect
    exact Provider.Script.collect_of_ok hcollect
  refine ⟨fun calls => ?_, hcollected, ?_⟩
  · have hfirsts : Registry.addAll [] calls = Registry.firsts calls.flatten := Registry.addAll_firsts [] calls
    refine ⟨hfirsts, hfirsts ▸ Registry.nodup_names_firsts calls.flatten, fun ds => ?_⟩
    refine ⟨_, Registry.run_add calls ds, ?_, ?_⟩
    · rw [Failure.toResult_eq_ok_iff, List.map_eq_nil_iff, Registry.repeats_eq_nil_iff]
    · intro e he
      refine Failure.members_of_toResult (fun f hf => ?_) he
      obtain ⟨d, -, rfl⟩ := List.mem_map.mp hf
      exact Failure.single_validation _ _ _
  · intro w made w' hfeatures
    obtain ⟨registry, hcollect, hnames⟩ := trackerNames_of_features hfeatures
    rw [hcollected registry hcollect] at hnames
    exact ((Registry.nodup_names_firsts _).map (nameFor_injective h.space)).sublist hnames

/-! ### Providers that repeat each other -/

namespace Repeating

def gateway : Definition (StateM Unit) := { name := "gateway" }

def mesh : Definition (StateM Unit) := { name := "mesh" }

def routes : Definition (StateM Unit) := { name := "routes" }

/-- Two providers that swallow the failures of their additions. -/
def scripts : List (Provider.Script (StateM Unit)) :=
  [.add [gateway, mesh, gateway] fun _ => .done (.ok ()), .add [mesh, routes] fun _ => .done (.ok ())]

def surroundings : Surroundings (StateM Unit) where
  standardClient _ := throw (.action "no cluster")
  clientAt _ _ := throw (.action "no cluster")
  runProgram _ _ := throw "no programs"

def handler : Handler (StateM Unit) where
  space := "svc"
  providers := scripts.map Provider.Script.provider
  connection := .client (.ofRequests fun _ => throw (.action "no cluster"))

/-- Each name is registered once, and there is one tracker for each; the second addition fails for the one name that
the first had given. -/
theorem each_name_once :
    Registry.collect handler.providers = .ok [gateway, mesh, routes] ∧
    (∃ made, (handler.features surroundings).run.run () = (.ok made, ()) ∧
      made.map Feature.trackerName = ["svc-gateway", "svc-mesh", "svc-routes"] ∧
      (made.map Feature.trackerName).Nodup) ∧
    ∃ e, ((Registry.add [mesh, routes]).run.run (Registry.addAll [] [[gateway, mesh, gateway]])).1 = .error e ∧
      e.members = [Registry.duplicate "mesh"] := by
  obtain ⟨hadds, -, htrackers⟩ := @registers_unique_names Unit surroundings handler scripts rfl
  obtain ⟨-, -, hadd⟩ := hadds [[gateway, mesh, gateway]]
  obtain ⟨outcome, hrun, -, hmembers⟩ := hadd [mesh, routes]
  have hfailed := hmembers (Registry.duplicate "mesh") (congrArg Prod.fst hrun).symm
  exact ⟨rfl, ⟨_, rfl, rfl, htrackers () _ () rfl⟩, Registry.duplicate "mesh", rfl, hfailed⟩

end Repeating

end Handler
end Provision

import Provision.Proofs.Converging
import Provision.Proofs.Handler.Enrichment
import Provision.Proofs.Manifest.LoadedOnce
import Provision.Proofs.Manifest.WellFormed

/-!
Namespaces and the kinds that live in them. A rendered object of such a kind is addressed inside a namespace. One of any
other kind is addressed as its document says: no transform and no option puts it into a namespace, but none takes it out
of one either, and no check looks.
-/

namespace Provision

namespace Object

/-- An object says that it is in a namespace, be its kind what it may. -/
def SaysSpace (o : Object) : Prop :=
  ∃ space, o.metadata.space = some space ∧ space ≠ ""

/-- The address of a rendered object, and of the one in its document. Inside namespaces it has the namespace that it
says it is in; outside it has the address of its document. So the address has a namespace just if the kind lives in one,
unless the kind does not and the document says a namespace nevertheless. No change to owners or annotations moves the
object. -/
structure Addressed (written o : Object) : Prop where
  kind : o.kind = written.kind
  inside : ¬ ResourceType.isClusterScoped o.kind →
    ∃ space, space ≠ "" ∧ o.metadata.space = some space ∧ o.key.space = some space
  outside : ResourceType.isClusterScoped o.kind → o.key = written.key
  matches_iff : (o.key.space = none ↔ ResourceType.isClusterScoped o.kind) ↔
    ¬ (ResourceType.isClusterScoped written.kind ∧ written.SaysSpace)
  stays : ∀ options, (MetaOption.applyAll options o).key = o.key

variable {o o' : Object}

theorem key_space_eq_some {space : String} (hspace : o.metadata.space = some space) (hsome : space ≠ "") :
    o.key.space = some space := by
  simp [key, hspace, hsome]

theorem key_space_eq_none_iff : o.key.space = none ↔ ¬ o.SaysSpace := by
  unfold key SaysSpace
  cases o.metadata.space <;> simp

theorem key_eq_of_spares (hspares : Transform.Spares o o') (hscoped : ResourceType.isClusterScoped o.kind) :
    o'.key = o.key := by
  have hname : o'.displayName = o.displayName := by
    change o'.core.displayName = o.core.displayName
    rw [hspares.core]
  rw [key, key, hspares.outside hscoped, hname]

/-- What transforms leave of an object is addressed so if it passed the check of namespaces. -/
theorem addressed_of_spares (hspares : Transform.Spares o o') (hplaced : o'.Placed) : Addressed o o' := by
  have hkind := kind_eq_of_core hspares.core
  have hinside : ¬ ResourceType.isClusterScoped o'.kind →
      ∃ space, space ≠ "" ∧ o'.metadata.space = some space ∧ o'.key.space = some space := by
    intro hnot
    obtain ⟨space, hspace, hsome⟩ := hplaced hnot
    exact ⟨space, hsome, hspace, key_space_eq_some hspace hsome⟩
  refine ⟨hkind, hinside, fun hscoped => key_eq_of_spares hspares (hkind ▸ hscoped), ?_,
    fun options => MetaOption.key_applyAll options o'⟩
  by_cases hscoped : ResourceType.isClusterScoped o.kind
  · rw [key_eq_of_spares hspares hscoped, key_space_eq_none_iff, hkind]
    simp [hscoped]
  · obtain ⟨space, -, -, hkey⟩ := hinside (hkind ▸ hscoped)
    simp [hkey, hkind, hscoped]

end Object

namespace Manifest

section Rendering

variable {S : Type} {files : Files} {path : String} {data : DataBag} {engine : OverlayEngine (StateM S)}
  {transforms : List Transform} {man : Manifest} {w w' : S}

/-- The text in which the objects of a manifest are written: what is in its file, what is made of it with the data, or
what the engine builds of its directory. -/
def WrittenIn (files : Files) (data : DataBag) (engine : OverlayEngine (StateM S)) (w : S) (text : String) :
    Manifest → Prop
  | raw path _ _ => files.read path = .ok text
  | template path _ content => files.read path = .ok content ∧ Template.render content data = .ok text
  | overlay path held => ∃ dir w', overlayDir path held = .ok dir ∧ (engine dir).run.run w = (.ok text, w')

/-- Every manifest that is loaded is an overlay or that of a single file. -/
theorem isOf_or_overlay_of_load {manifests : List Manifest} (hload : load files path = .ok manifests)
    (hman : man ∈ manifests) : (∃ root, man = .overlay root files) ∨ ∃ file, man.IsOf files file := by
  obtain ⟨normal, -, hthere⟩ := except_bind_eq_ok_iff.mp hload
  by_cases hcontains : files.contains normal
  · simp only [hcontains, Bool.not_true, Bool.false_eq_true, if_false] at hthere
    obtain ⟨found, -, hloads⟩ := except_bind_eq_ok_iff.mp hthere
    rcases (loads_of_loadFiles hloads).sound man hman with ⟨root, -, -, hoverlay⟩ | ⟨file, -, -, hof⟩
    · exact Or.inl ⟨root, hoverlay⟩
    · exact Or.inr ⟨file, hof⟩
  · simp only [hcontains, Bool.not_false, if_true] at hthere
    cases hthere

theorem parseObjects_of_parseDocuments {content : String} {objects : List Object}
    (hobjects : parseDocuments path content = .ok objects) : parseObjects path content = .ok objects := by
  obtain ⟨parsed, hparsed, hchecks⟩ := except_bind_eq_ok_iff.mp hobjects
  obtain ⟨_, -, hall⟩ := except_bind_eq_ok_iff.mp hchecks
  cases hall
  exact hparsed

/-- What is rendered was written somewhere, and transforms alone have changed it. -/
theorem exists_written_of_render {manifests : List Manifest} (hload : load files path = .ok manifests)
    (hman : man ∈ manifests) {rendered : Rendered}
    (hrender : (man.render data engine transforms).run.run w = (.ok rendered, w')) :
    ∃ text written, man.WrittenIn files data engine w text ∧ parseObjects man.path text = .ok written ∧
      List.Forall₂ Transform.Spares written rendered.objects := by
  have hsame : ∀ objects : List Object, List.Forall₂ Transform.Spares objects objects := fun objects =>
    List.forall₂_same.mpr fun o _ => .refl o
  rcases isOf_or_overlay_of_load hload hman with ⟨root, rfl⟩ | ⟨file, hof⟩
  · obtain ⟨dir, output, written, hdir, houtput, hwritten, hobjects⟩ := Handler.exists_output_of_render hrender
    refine ⟨output, written, ⟨dir, w', hdir, houtput⟩, hwritten, ?_⟩
    rw [hobjects, List.forall₂_map_right_iff, List.forall₂_same]
    exact fun o _ => Transform.spares_applyAll transforms o
  · obtain ⟨objects, _, hobjects, hdone⟩ := exists_of_run_bind_ok hrender
    cases hdone
    cases man with
    | raw path patch written =>
        obtain ⟨rfl, -, -, content, hread, hparsed⟩ := hof
        cases hobjects
        exact ⟨content, objects, hread, parseObjects_of_parseDocuments hparsed, hsame objects⟩
    | template path patch content =>
        obtain ⟨rfl, -, -, hread⟩ := hof
        have hrendered : renderTemplate data path content = .ok objects := congrArg Prod.fst hobjects
        unfold renderTemplate at hrendered
        split at hrendered
        · next text htext =>
            exact ⟨text, objects, ⟨hread, htext⟩, parseObjects_of_parseDocuments hrendered, hsame objects⟩
        · cases hrendered
    | overlay root held => exact absurd hof id

/-- Addresses match the scope of the kind, unless a document says otherwise. Whatever a loaded manifest is rendered
with, its objects are those written in its text, in order; one of a kind that lives in namespaces is addressed inside
the namespace that it has, and one of any other kind is addressed as it is written, so inside a namespace just if its
document says one. Applying it asks for that address. -/
theorem addresses_by_scope {manifests : List Manifest} (hload : load files path = .ok manifests)
    (hman : man ∈ manifests) {rendered : Rendered}
    (hrender : (man.render data engine transforms).run.run w = (.ok rendered, w')) :
    ∃ text written, man.WrittenIn files data engine w text ∧ parseObjects man.path text = .ok written ∧
      List.Forall₂ Object.Addressed written rendered.objects := by
  obtain ⟨text, written, hwritten, hparsed, hspares⟩ := exists_written_of_render hload hman hrender
  refine ⟨text, written, hwritten, hparsed, ?_⟩
  have hplaced : ∀ o ∈ rendered.objects, o.Placed := by
    intro o ho
    obtain ⟨objects, _, hobjects, hdone⟩ := exists_of_run_bind_ok hrender
    cases hdone
    exact (wellFormed_of_objects (sound_of_load hload man hman) hobjects ho).placed
  rw [List.forall₂_iff_get] at hspares ⊢
  refine ⟨hspares.1, fun i hi hi' => ?_⟩
  exact Object.addressed_of_spares (hspares.2 i hi hi') (hplaced _ (List.get_mem _ _))

end Rendering

/-! ### Kinds outside namespaces -/

namespace OutsideKinds

/-- A directory with an overlay. -/
def overlays : Files :=
  .disk "fs" (.dir [("fs", .dir [("mesh", .dir [("kustomization.yaml", .file [])])])])

/-- Builds an object without a namespace, and two of kinds outside all namespaces; the last one says a namespace. -/
def engine : OverlayEngine (StateM Unit) := fun _ =>
  pure ("apiVersion: v1\nkind: Secret\nmetadata:\n  name: token\n---\n" ++
    "apiVersion: v1\nkind: Namespace\nmetadata:\n  name: svc\n---\n" ++
    "apiVersion: v1\nkind: Namespace\nmetadata:\n  name: edge\n  namespace: team\n")

/-- The kinds and addresses of what the only manifest of a path yields. -/
def addresses? (files : Files) (path : String) : Option (List (String × ObjectKey)) :=
  match load files path with
  | .ok [man] =>
    match (man.render [] engine [.setSpace "svc"]).run.run () with
    | (.ok rendered, _) => some (rendered.objects.map fun o => (o.kind, o.key))
    | _ => none
  | _ => none

theorem exists_of_addresses? {files : Files} {path : String} {found : List (String × ObjectKey)}
    (hfound : addresses? files path = some found) : ∃ man rendered, load files path = .ok [man] ∧
      (man.render [] engine [.setSpace "svc"]).run.run () = (.ok rendered, ()) ∧
      rendered.objects.map (fun o => (o.kind, o.key)) = found := by
  unfold addresses? at hfound
  split at hfound
  · next man hload =>
      split at hfound
      · next rendered _ hrender => exact ⟨man, rendered, hload, hrender, Option.some.inj hfound⟩
      · cases hfound
  · cases hfound

/-- The transform puts only the first one into a namespace. -/
theorem only_token_moves : ∃ man rendered, load overlays "mesh" = .ok [man] ∧
    (man.render [] engine [.setSpace "svc"]).run.run () = (.ok rendered, ()) ∧
    rendered.objects.map (fun o => (o.kind, o.key)) =
      [("Secret", ⟨some "svc", "token"⟩), ("Namespace", ⟨none, "svc"⟩), ("Namespace", ⟨some "team", "edge"⟩)] ∧
    ∃ text written, man.WrittenIn overlays [] engine () text ∧ parseObjects man.path text = .ok written ∧
      List.Forall₂ Object.Addressed written rendered.objects := by
  have hfound : addresses? overlays "mesh" = some
      [("Secret", ⟨some "svc", "token"⟩), ("Namespace", ⟨none, "svc"⟩), ("Namespace", ⟨some "team", "edge"⟩)] := by
    decide +kernel
  obtain ⟨man, rendered, hload, hrender, haddresses⟩ := exists_of_addresses? hfound
  exact ⟨man, rendered, hload, hrender, haddresses, addresses_by_scope hload List.mem_cons_self hrender⟩

/-- A file with an object of a kind outside all namespaces that says a namespace. -/
def stated : Files :=
  .ofTexts [("svc.yaml", "apiVersion: v1\nkind: Namespace\nmetadata:\n  name: svc\n  namespace: team\n")]

/-- It is addressed inside that namespace. -/
theorem addressed_inside : ∃ man rendered, load stated "svc.yaml" = .ok [man] ∧
    (man.render [] engine [.setSpace "svc"]).run.run () = (.ok rendered, ()) ∧
    ¬ ∀ o ∈ rendered.objects, (o.key.space = none ↔ ResourceType.isClusterScoped o.kind) := by
  have hfound : addresses? stated "svc.yaml" = some [("Namespace", ⟨some "team", "svc"⟩)] := by decide +kernel
  obtain ⟨man, rendered, hload, hrender, haddresses⟩ := exists_of_addresses? hfound
  refine ⟨man, rendered, hload, hrender, fun hall => ?_⟩
  obtain ⟨o, hobjects, ho⟩ := List.map_eq_singleton_iff.mp haddresses
  obtain ⟨hkind, hkey⟩ := Prod.mk.inj ho
  have hscope := hall o (by simp [hobjects])
  rw [hkind, hkey] at hscope
  exact absurd (hscope.mpr (by decide)) (by simp)

end OutsideKinds

end Manifest

end Provision

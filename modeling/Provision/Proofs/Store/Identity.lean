import Provision.Proofs.Json.Merging
import Provision.Proofs.Object.NormalForm
import Provision.Proofs.Store.Deletion

/-!
How long an object keeps its uid. Creating and replacing see to it by themselves; a patch is merged into the whole
object, its uid included, so an object keeps its uid for as long as it is in its place just if no patch says
otherwise. What it owns is found by that uid.
-/

namespace Provision

open Json

theorem Json.eq_object_of_readMembers {type : String} {j : Json} {fields : List (String × Json)}
    (hread : readMembers type j = .ok fields) : j = object fields := by
  cases j <;> cases hread
  rfl

/-! ### The uid in metadata -/

namespace Metadata

/-- One member that is read decides the uid if it is the uid, and else leaves it. -/
theorem uid_readMember {m m' : Metadata} {e : String × Json} (hread : readMember m e = .ok m') :
    m'.uid.map string = if e.1 = "uid" then stated (some e.2) else m.uid.map string := by
  obtain ⟨name, j⟩ := e
  unfold readMember at hread
  dsimp only at hread
  -- One case for each member that has a meaning, of which the uid is one, and one for all others.
  split at hread
  case h_15 =>
    obtain ⟨uid, huid, rfl⟩ := except_map_eq_ok_iff.mp hread
    cases j <;> cases huid <;> rfl
  case h_16 =>
    cases hread
    simp_all
  all_goals
    obtain ⟨v, -, rfl⟩ := except_map_eq_ok_iff.mp hread
    simp

theorem uid_readEach {fields : List (String × Json)} (hsorted : Keyed.Sorted fields) {m m' : Metadata}
    (hread : readEach readMember m fields = .ok m') :
    m'.uid.map string = match Keyed.get? fields "uid" with
      | some j => stated (some j)
      | none => m.uid.map string := by
  induction fields generalizing m with
  | nil =>
      cases hread
      rfl
  | cons e rest ih =>
      obtain ⟨next, hmapped, hrest⟩ := except_bind_eq_ok_iff.mp hread
      have hnext := uid_readMember ((except_mapError_eq_ok_iff _ _).mp hmapped)
      have hlater := ih (List.pairwise_cons.mp hsorted).2 hrest
      obtain ⟨name, j⟩ := e
      by_cases hname : "uid" = name
      · subst hname
        rw [hsorted.get?_rest] at hlater
        rw [Keyed.get?_cons_self, hlater, hnext]
        simp
      · rw [Keyed.get?_cons_of_ne j rest hname, hlater, hnext, if_neg (Ne.symm hname)]

/-- The uid that is read is what is stated of it. -/
theorem uid_read {fields : List (String × Json)} (hsorted : Keyed.Sorted fields) {m : Metadata}
    (hread : read (object fields) = .ok m) : m.uid.map string = stated (Keyed.get? fields "uid") := by
  have huid := uid_readEach hsorted (show readEach readMember {} fields = .ok m from hread)
  rw [huid]
  cases Keyed.get? fields "uid" <;> rfl

/-- The uid is written under its name. -/
theorem exists_toJson (m : Metadata) : ∃ fields, m.toJson = object fields ∧ Keyed.Sorted fields ∧
    Keyed.get? fields "uid" = m.uid.map string := by
  refine ⟨Keyed.ofList (presentFields m.members), rfl, Keyed.sorted_ofList _, ?_⟩
  have hnodup : ((presentFields m.members).map Prod.fst).Nodup :=
    List.Nodup.sublist (map_fst_presentFields_sublist m.members) nodup_rules
  refine Option.ext fun v => ?_
  have hfound : Keyed.get? (Keyed.ofList (presentFields m.members)) "uid" = some v ↔
      ("uid", v) ∈ presentFields m.members := by
    rw [← Keyed.mem_ofList_iff hnodup]
    exact ⟨Keyed.mem_of_get?, (Keyed.sorted_ofList _).get?_of_mem⟩
  rw [hfound, mem_presentFields]
  simp [members, eq_comm]

end Metadata

/-! ### Patches -/

/-- What a patch of an object makes of its uid: it goes with the metadata, and else becomes what the patch says. -/
def Json.uidAfter (patch : Json) (uid : Option Json) : Option Json :=
  match patch.field? "metadata" with
  | none => uid
  | some null => none
  | some metadata => memberAfter (fun _ new => new) uid (metadata.field? "uid")

/-- The metadata of an object are not among the rest, as they are for every object that was read. -/
def Object.Plain (o : Object) : Prop := "metadata" ∉ o.data.map Prod.fst

instance (o : Object) : Decidable o.Plain := inferInstanceAs (Decidable (_ ∉ _))

namespace Object

theorem takeTypes_sublist (apiVersion kind : Option String) (fields : List (String × Json)) :
    (takeTypes apiVersion kind fields).2.Sublist fields := by
  induction fields generalizing apiVersion kind with
  | nil => exact .slnil
  | cons e rest ih =>
      rw [takeTypes]
      split
      · split
        · split
          · exact (ih apiVersion _).cons e
          · exact (ih _ kind).cons e
        · exact (List.Sublist.refl rest).cons e
      · exact (ih apiVersion kind).cons_cons e

/-- What is read of an object: its metadata, and a rest without them. -/
theorem of_read {fields : List (String × Json)} (hsorted : Keyed.Sorted fields) {o : Object}
    (hread : read (object fields) = .ok o) : readMetadata fields = .ok o.metadata ∧ o.Plain := by
  obtain ⟨_, hfields, hrest⟩ := except_bind_eq_ok_iff.mp hread
  cases hfields
  obtain ⟨m, hm, htaken⟩ := except_bind_eq_ok_iff.mp hrest
  cases htaken
  refine ⟨hm, ?_⟩
  intro hmem
  obtain ⟨e, he, hkey⟩ := List.mem_map.mp hmem
  have hleft := (takeTypes_sublist none none _).subset he
  exact (hsorted.mem_erase_iff.mp hleft).2 hkey

/-- The metadata are written under their name. -/
theorem exists_toJson {o : Object} (hplain : o.Plain) : ∃ fields, o.toJson = object fields ∧ Keyed.Sorted fields ∧
    Keyed.get? fields "metadata" = some o.metadata.toJson :=
  ⟨_, rfl, Keyed.sorted_ofList _, Keyed.get?_ofList_append_cons hplain⟩

end Object

/-- Metadata that a patch was merged into have the uid that the patch states, if it states any. -/
theorem Metadata.uid_of_merge {m m' : Metadata} {patch : Json} (hpatch : patch.Ordered)
    (hread : read (m.toJson.merge patch) = .ok m') :
    m'.uid.map string = memberAfter (fun _ new => new) (m.uid.map string) (patch.field? "uid") := by
  obtain hno | ⟨fields, rfl⟩ := noObject_or_exists patch
  · rw [merge_of_noObject hno] at hread
    obtain ⟨fields, hfields, -⟩ := except_bind_eq_ok_iff.mp hread
    exact absurd (eq_object_of_readMembers hfields) (hno fields)
  · obtain ⟨target, htarget, hsorted, huid⟩ := m.exists_toJson
    rw [htarget, merge_object] at hread
    have hmerged := uid_read (sorted_foldl_putMember hsorted fields) hread
    rw [get?_foldl_putMember hsorted hpatch.sorted, huid] at hmerged
    rw [hmerged, field?]
    cases hsaid : Keyed.get? fields "uid" with
    | none => cases m.uid <;> rfl
    | some new =>
        by_cases hnull : new = null
        · rw [hnull]
          rfl
        · have hleaf : ((m.uid.map string).getD null).NoObject := by
            cases m.uid <;> exact fun _ heq => by cases heq
          rw [memberAfter_of_ne hnull, memberAfter_of_ne hnull, merge_into_noObject hleaf, stated_of_ne_null hnull]

/-- An object that a patch was merged into has the uid that the patch makes of that it had. -/
theorem Object.uid_of_merge {old o : Object} (hplain : old.Plain) {patch : Json} (hpatch : patch.Ordered)
    (hread : read (old.toJson.merge patch) = .ok o) :
    o.metadata.uid.map string = patch.uidAfter (old.metadata.uid.map string) ∧ o.Plain := by
  obtain hno | ⟨fields, rfl⟩ := noObject_or_exists patch
  · rw [merge_of_noObject hno] at hread
    obtain ⟨fields, hfields, -⟩ := except_bind_eq_ok_iff.mp hread
    exact absurd (eq_object_of_readMembers hfields) (hno fields)
  · obtain ⟨target, htarget, hsorted, hmetadata⟩ := exists_toJson hplain
    rw [htarget, merge_object] at hread
    obtain ⟨hm, hoplain⟩ := of_read (sorted_foldl_putMember hsorted fields) hread
    refine ⟨?_, hoplain⟩
    rw [readMetadata, get?_foldl_putMember hsorted hpatch.sorted, hmetadata] at hm
    rw [uidAfter, field?]
    cases hsaid : Keyed.get? fields "metadata" with
    | none =>
        rw [hsaid] at hm
        obtain ⟨members, hmembers, hordered, huid⟩ := old.metadata.exists_toJson
        have hread := (except_mapError_eq_ok_iff _ _).mp hm
        rw [hmembers] at hread
        rw [Metadata.uid_read hordered hread, huid]
        cases old.metadata.uid <;> rfl
    | some metadata =>
        by_cases hnull : metadata = null
        · rw [hsaid, hnull] at hm
          rw [← Except.ok.inj hm, hnull]
          rfl
        · rw [hsaid, memberAfter_of_ne hnull] at hm
          have hread := (except_mapError_eq_ok_iff _ _).mp hm
          have huid := Metadata.uid_of_merge (hpatch.member (Keyed.mem_of_get? hsaid)) hread
          rw [huid]
          cases metadata <;> first | rfl | contradiction

/-! ### What a request leaves in a place -/

namespace Store

/-- What requests are like that were written as JSON: the metadata of an object are not among its rest, and the
members of a patch are in order. -/
def Request.WellFormed : Store.Request → Prop
  | create _ o => o.Plain
  | replace _ o => o.Plain
  | mergePatch _ _ patch => patch.Ordered
  | _ => True

/-- A request leaves the uid of what is in a place alone: it is no patch of that place, or one that makes of the uid
what it is. -/
def Request.SparesUid (place : StoreKey) (uid : Option String) : Store.Request → Prop
  | mergePatch type key patch => StoreKey.of type key = place → patch.uidAfter (uid.map string) = uid.map string
  | _ => True

/-- Requests one after another. -/
def performAll (s : Store) (requests : List Store.Request) : Store :=
  requests.foldl (fun s r => (r.perform s).2) s

variable {s : Store} {place : StoreKey} {o o' : Object}

theorem Valid.performAll (hvalid : s.Valid) (requests : List Store.Request) : (s.performAll requests).Valid := by
  induction requests generalizing s with
  | nil => exact hvalid
  | cons r _ ih => exact ih (perform_advances hvalid r).valid

theorem map_string_inj {uid uid' : Option String} : uid.map string = uid'.map string ↔ uid = uid' :=
  (Option.map_injective fun _ _ heq => string.inj heq).eq_iff

/-- A patch that succeeds gives the object the uid that it makes of the old one. -/
theorem uid_of_mergePatch {type : ResourceType} {key : ObjectKey} {patch : Json} {stored : Object}
    (hlive : s.get? type key = some o) (hplain : o.Plain) (hpatch : patch.Ordered)
    (hok : (s.mergePatch type key patch).1 = .ok stored) :
    stored.metadata.uid.map string = patch.uidAfter (o.metadata.uid.map string) ∧ stored.Plain := by
  obtain ⟨f, heq⟩ | ⟨live, merged, hfound, hread, heq⟩ := s.mergePatch_cases type key patch
  · rw [heq] at hok
    cases hok
  · obtain rfl : o = live := Option.some.inj (hlive.symm.trans hfound)
    rw [heq] at hok
    cases hok
    have hmerged := Object.uid_of_merge hplain hpatch hread
    exact hmerged

/-- What was there before a collection and is there after it is the same. -/
theorem eq_of_sublist {objects left : Keyed StoreKey Object} (hsorted : Keyed.Sorted objects)
    (hsublist : left.Sublist objects) (hfound : Keyed.get? objects place = some o)
    (hafter : Keyed.get? left place = some o') : o' = o := by
  have hentry := hsublist.subset (Keyed.mem_of_get? hafter)
  exact Option.some.inj ((hsorted.get?_of_mem hentry).symm.trans hfound)

/-- Deleting an object with a uid leaves what is elsewhere and does not go with the uid. -/
theorem mem_delete_iff (hsorted : Keyed.Sorted s.objects) {type : ResourceType} {key : ObjectKey} {uid : String}
    (hlive : s.get? type key = some o) (huid : o.metadata.uid = some uid) {entry : StoreKey × Object} :
    entry ∈ (s.delete type key).2.objects ↔ (entry ∈ s.objects ∧ entry.1 ≠ .of type key) ∧
      ¬ Garbage [uid] (Keyed.erase s.objects (.of type key)) entry := by
  rw [delete_of_present hlive, huid, collectOwned, mem_collectGarbage_iff]
  exact and_congr_left' hsorted.mem_erase_iff

/-- What is in a place after something was kept: what was kept there, or what was there before. -/
theorem of_get?_insert {objects : Keyed StoreKey Object} {key : StoreKey} {new : Object}
    (hafter : Keyed.get? (Keyed.insert objects key new) place = some o') :
    key = place ∧ new = o' ∨ key ≠ place ∧ Keyed.get? objects place = some o' := by
  by_cases hplace : key = place
  · rw [hplace, Keyed.get?_insert_self] at hafter
    exact .inl ⟨hplace, Option.some.inj hafter⟩
  · rw [Keyed.get?_insert_of_ne objects new (Ne.symm hplace)] at hafter
    exact .inr ⟨hplace, hafter⟩

/-- The step lemma: a request that leaves the uid alone. -/
theorem uid_perform (hvalid : s.Valid) {r : Store.Request} (hformed : r.WellFormed)
    (hspares : r.SparesUid place o.metadata.uid) (hfound : Keyed.get? s.objects place = some o) (hplain : o.Plain)
    (hafter : Keyed.get? (r.perform s).2.objects place = some o') :
    o'.metadata.uid = o.metadata.uid ∧ o'.Plain := by
  have hsame : ∀ {left : Store}, left.objects.Sublist s.objects → Keyed.get? left.objects place = some o' →
      o'.metadata.uid = o.metadata.uid ∧ o'.Plain := by
    intro left hsublist hleft
    rw [eq_of_sublist hvalid.objects.sorted hsublist hfound hleft]
    exact ⟨rfl, hplain⟩
  cases r with
  | get type key | list type space selector | getTracker name => exact hsame (.refl _) hafter
  | create type new =>
      cases hlive : s.get? type new.key with
      | some live =>
          rw [Request.perform, create_of_present hlive] at hafter
          exact hsame (.refl _) hafter
      | none =>
          rw [Request.perform, create_of_absent hlive] at hafter
          obtain ⟨rfl, -⟩ | ⟨-, hafter⟩ := of_get?_insert hafter
          · cases hlive.symm.trans hfound
          · exact hsame (.refl _) hafter
  | replace type new =>
      cases hlive : s.get? type new.key with
      | none =>
          rw [Request.perform, replace_of_absent hlive] at hafter
          exact hsame (.refl _) hafter
      | some live =>
          rw [Request.perform, replace_of_present hlive] at hafter
          split at hafter
          · obtain ⟨rfl, rfl⟩ | ⟨-, hafter⟩ := of_get?_insert hafter
            · obtain rfl : live = o := Option.some.inj (hlive.symm.trans hfound)
              exact ⟨rfl, hformed⟩
            · exact hsame (.refl _) hafter
          · exact hsame (.refl _) hafter
  | mergePatch type key patch =>
      obtain ⟨f, heq⟩ | ⟨live, merged, hlive, hread, heq⟩ := s.mergePatch_cases type key patch
      · rw [Request.perform, heq] at hafter
        exact hsame (.refl _) hafter
      · rw [Request.perform, heq] at hafter
        obtain ⟨rfl, rfl⟩ | ⟨-, hafter⟩ := of_get?_insert hafter
        · obtain rfl : live = o := Option.some.inj (hlive.symm.trans hfound)
          obtain ⟨huid, hmerged⟩ := Object.uid_of_merge hplain hformed hread
          exact ⟨map_string_inj.mp (huid.trans (hspares rfl)), hmerged⟩
        · exact hsame (.refl _) hafter
  | delete type key => exact hsame (delete_objects_sublist s type key) hafter
  | createTracker t =>
      rw [Request.perform, createTracker_objects] at hafter
      exact hsame (.refl _) hafter
  | replaceTrackerStatus t =>
      rw [Request.perform, replaceTrackerStatus_objects] at hafter
      exact hsame (.refl _) hafter
  | deleteTracker name => exact hsame (deleteTracker_objects_sublist s name) hafter

/-- The run lemma: requests that leave the uid alone, while there is something in the place. -/
theorem uid_performAll (hvalid : s.Valid) {requests : List Store.Request} (hformed : ∀ r ∈ requests, r.WellFormed)
    (hspares : ∀ r ∈ requests, r.SparesUid place o.metadata.uid) (hfound : Keyed.get? s.objects place = some o)
    (hplain : o.Plain)
    (hstays : ∀ before, before <+: requests → Keyed.get? (s.performAll before).objects place ≠ none) :
    ∃ o', Keyed.get? (s.performAll requests).objects place = some o' ∧ o'.metadata.uid = o.metadata.uid ∧
      o'.Plain := by
  induction requests generalizing s o with
  | nil => exact ⟨o, hfound, rfl, hplain⟩
  | cons r rest ih =>
      simp only [List.mem_cons, forall_eq_or_imp] at hformed hspares
      obtain ⟨next, hnext⟩ := Option.ne_none_iff_exists'.mp (hstays [r] (List.prefix_append [r] rest))
      obtain ⟨huid, hnextPlain⟩ := uid_perform hvalid hformed.1 hspares.1 hfound hplain hnext
      have hlater : ∀ before, before <+: rest →
          Keyed.get? (((r.perform s).2).performAll before).objects place ≠ none := by
        intro before hbefore
        exact hstays (r :: before) (List.cons_prefix_cons.mpr ⟨rfl, hbefore⟩)
      obtain ⟨o', hfinal, huid', hplain'⟩ :=
        ih (perform_advances hvalid r).valid hformed.2 (huid ▸ hspares.2) hnext hnextPlain hlater
      exact ⟨o', hfinal, huid'.trans huid, hplain'⟩

/-- A uid is for life unless a patch changes it. Whatever is done to a store, an object keeps its uid for as long as
there is something in its place and no patch makes another uid of it, and deleting it then collects exactly the objects
that go with that uid. Of the next patch it is known what it does: if it succeeds, the uid is kept just if the patch
makes of it what it is. -/
theorem uid_for_life_unless_patched (hreachable : s.Reachable) {requests : List Store.Request}
    (hformed : ∀ r ∈ requests, r.WellFormed) (hspares : ∀ r ∈ requests, r.SparesUid place o.metadata.uid)
    (hfound : Keyed.get? s.objects place = some o) (hplain : o.Plain)
    (hstays : ∀ before, before <+: requests → Keyed.get? (s.performAll before).objects place ≠ none) :
    ∃ o', Keyed.get? (s.performAll requests).objects place = some o' ∧ o'.metadata.uid = o.metadata.uid ∧
      (∀ uid, o.metadata.uid = some uid → ∀ type key, StoreKey.of type key = place → ∀ entry,
        entry ∈ ((s.performAll requests).delete type key).2.objects ↔
          (entry ∈ (s.performAll requests).objects ∧ entry.1 ≠ place) ∧
            ¬ Garbage [uid] (Keyed.erase (s.performAll requests).objects place) entry) ∧
      ∀ type key patch stored, StoreKey.of type key = place → patch.Ordered →
        ((s.performAll requests).mergePatch type key patch).1 = .ok stored →
          (stored.metadata.uid = o.metadata.uid ↔
            patch.uidAfter (o.metadata.uid.map string) = o.metadata.uid.map string) := by
  obtain ⟨o', hlive, huid, hplain'⟩ := uid_performAll hreachable.valid hformed hspares hfound hplain hstays
  refine ⟨o', hlive, huid, ?_, ?_⟩
  · rintro uid hsome type key rfl entry
    exact mem_delete_iff (hreachable.valid.performAll requests).objects.sorted hlive (huid.trans hsome)
  · rintro type key patch stored rfl hpatch hok
    obtain ⟨hnew, -⟩ := uid_of_mergePatch hlive hplain' hpatch hok
    rw [← map_string_inj, hnew, huid]

/-! ### A patch that changes a uid -/

namespace Renamed

def type : ResourceType := .of "v1" "ConfigMap"

def settings : Object where
  types := some ⟨"v1", "ConfigMap"⟩
  metadata := { name := some "settings", space := some "svc" }

/-- An object that the settings own. -/
def routes : Object where
  types := some ⟨"v1", "ConfigMap"⟩
  metadata := { name := some "routes", space := some "svc"
                ownerReferences := some [⟨"v1", none, none, "ConfigMap", "settings", "uid-1"⟩] }

/-- A store with both. -/
def store : Store := performAll {} [.create type settings, .create type routes]

theorem reachable_store : store.Reachable :=
  .apply (.request (.create type routes)) (.apply (.request (.create type settings)) .empty)

/-- A patch of one member of the metadata of the settings. -/
def patched (name value : String) : Store.Request :=
  .mergePatch type settings.key (object [("metadata", object [(name, string value)])])

/-- The settings as they are stored. -/
def stored : Object :=
  { settings with metadata := { settings.metadata with uid := some "uid-1", resourceVersion := some "1" } }

/-- A patch that is silent about the uid, and a replacement without one. -/
def silent : List Store.Request := [patched "selfLink" "/settings", .replace type settings]

theorem silent_stays : ∀ before, before <+: silent →
    Keyed.get? (store.performAll before).objects (.of type settings.key) ≠ none := by
  have hinits : ∀ before ∈ silent.inits,
      Keyed.get? (store.performAll before).objects (.of type settings.key) ≠ none := by decide
  intro before hbefore
  exact hinits before ((List.mem_inits before silent).mpr hbefore)

/-- What is silent about the uid leaves it, and deleting the settings then takes what they own. -/
theorem uid_stays_when_unsaid :
    ∃ o', Keyed.get? (store.performAll silent).objects (.of type settings.key) = some o' ∧
      o'.metadata.uid = some "uid-1" ∧ ((store.performAll silent).delete type settings.key).2.objects = [] := by
  have hformed : ∀ r ∈ silent, r.WellFormed := by
    have hpatch : (patched "selfLink" "/settings").WellFormed := by
      simp [patched, Request.WellFormed, Ordered, OrderedFields, Keyed.Sorted]
    have hsettings : settings.Plain := by decide
    simpa [silent] using ⟨hpatch, hsettings⟩
  have hspares : ∀ r ∈ silent, r.SparesUid (.of type settings.key) stored.metadata.uid := by
    have hpatch : (patched "selfLink" "/settings").SparesUid (.of type settings.key) stored.metadata.uid := by
      intro _
      rfl
    simpa [silent, Request.SparesUid] using hpatch
  have hfound : Keyed.get? store.objects (.of type settings.key) = some stored := by rfl
  obtain ⟨o', hlive, huid, -⟩ :=
    uid_for_life_unless_patched reachable_store hformed hspares hfound (by decide) silent_stays
  exact ⟨o', hlive, huid, by rfl⟩

/-- After a patch of the uid, deleting the settings leaves behind what they own. -/
theorem orphan_stays :
    (Keyed.get? (store.performAll [patched "uid" "other"]).objects (.of type settings.key)).map
      (fun o => o.metadata.uid) = some (some "other") ∧
    Keyed.get? (store.performAll [patched "uid" "other", .delete type settings.key]).objects
      (.of type routes.key) ≠ none := by
  constructor
  · rfl
  · decide

end Renamed

end Store
end Provision

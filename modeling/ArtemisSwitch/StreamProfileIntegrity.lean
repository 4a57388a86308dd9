import ArtemisSwitch.Library.AssocMap
import ArtemisSwitch.Library.Runs
import ArtemisSwitch.StreamProfileCalls
import Mathlib.Algebra.Order.BigOperators.Group.List
import Mathlib.Algebra.Order.Group.Nat

/-!
# The profile store over whole runs

Ids stay unique, host bindings and the active profile name listed profiles, and the file says
what the store holds, except after two calls.
-/

namespace ArtemisSwitch.StreamProfile
open Jansson

/-! ## Texts -/

lemma isUtf8_iff {s : Bytes} :
    isUtf8 s = true ↔ ∃ bounds, s.foldl utf8Step (some (0, 0x80, 0xBF)) = some (0, bounds) := by
  unfold isUtf8
  split
  · rename_i bounds heq
    exact iff_of_true rfl ⟨bounds, heq⟩
  · rename_i hne
    refine iff_of_false (by simp) ?_
    rintro ⟨bounds, heq⟩
    exact hne bounds heq

/-- Between two characters the bounds do not matter. -/
lemma foldl_between (s : Bytes) (bounds : UInt8 × UInt8)
    (h : ∃ b, s.foldl utf8Step (some (0, 0x80, 0xBF)) = some (0, b)) :
    ∃ b, s.foldl utf8Step (some (0, bounds)) = some (0, b) := by
  cases s with
  | nil => exact ⟨bounds, rfl⟩
  | cons c s => exact h

lemma storable_append {s t : Bytes} (hs : Storable s) (ht : Storable t) : Storable (s ++ t) := by
  constructor
  · obtain ⟨bounds, hfirst⟩ := isUtf8_iff.mp hs.1
    rw [isUtf8_iff, List.foldl_append, hfirst]
    exact foldl_between t bounds (isUtf8_iff.mp ht.1)
  · rw [List.mem_append]
    exact not_or.mpr ⟨hs.2, ht.2⟩

lemma storable_nil : Storable [] := by decide

namespace StreamConfigProfileStore

variable {s t : StreamConfigProfileStore} {makeId : MakeId} {id hostKey : Bytes}

lemma mem_usedIds : id ∈ s.usedIds ↔ ∃ q ∈ s.profiles, q.id = id := List.mem_map

lemma ne_nil_of_mem_usedIds (h : id ∈ s.usedIds) : id ≠ [] := by
  obtain ⟨q, hq, rfl⟩ := mem_usedIds.mp h
  exact s.ids q hq

lemma isSome_get : (s.get id).isSome = true ↔ id ∈ s.usedIds := by
  unfold get
  split_ifs with hempty
  · refine iff_of_false (by simp) ?_
    intro hmem
    exact ne_nil_of_mem_usedIds hmem hempty
  · rw [List.find?_isSome, mem_usedIds]
    simp

lemma isNone_get : (s.get id).isNone = true ↔ id ∉ s.usedIds := by
  rw [← isSome_get, ← Option.not_isSome]
  simp

lemma frontId_eq_nil : frontId s.profiles = [] ↔ s.profiles = [] := by
  cases hp : s.profiles with
  | nil => simp [frontId]
  | cons q profiles =>
    have hq : q.id ≠ [] := s.ids q (by simp [hp])
    simp [frontId, hq]

lemma frontId_mem (h : s.profiles ≠ []) : frontId s.profiles ∈ s.usedIds := by
  cases hp : s.profiles with
  | nil => exact absurd hp h
  | cons q profiles => simp [usedIds, frontId, hp]

/-! ## What is asked of the store -/

/-- Every reference names a listed profile. -/
structure Sound (s : StreamConfigProfileStore) : Prop where
  unique : s.usedIds.Nodup
  nonempty : ∀ id ∈ s.usedIds, id ≠ []
  bound : ∀ hostKey id, s.hostProfile.lookup hostKey = some id → id ∈ s.usedIds
  shown_empty : s.shownProfileId = [] ↔ s.profiles = []
  shown_listed : s.profiles ≠ [] → s.shownProfileId ∈ s.usedIds

/-- What a reload has to leave as it is: ids and names, host bindings, the active profile. -/
def view (s : StreamConfigProfileStore) : List (Bytes × Bytes) × (Bytes → Option Bytes) × Bytes :=
  (s.profiles.map fun q => (q.id, q.name), fun hostKey => s.hostProfile.lookup hostKey,
    s.shownProfileId)

def ReloadKeeps (s : StreamConfigProfileStore) : Prop :=
  ∀ ids makeId, (s.load ids makeId).view = s.view

/-- The invariant: with the references, every text can be stored. -/
structure Inv (s : StreamConfigProfileStore) : Prop where
  unique : s.usedIds.Nodup
  bound : ∀ hostKey id, s.hostProfile.lookup hostKey = some id → id ∈ s.usedIds
  texts : ∀ q ∈ s.profiles, Storable q.id ∧ Storable q.name
  hosts : ∀ hostKey ∈ s.hostProfile, Storable hostKey
  active : Storable s.activeProfileId

def Named (s : StreamConfigProfileStore) : Prop := ∀ q ∈ s.profiles, q.name ≠ []

/-- The active profile is shown, or else the first one. -/
lemma shownProfileId_eq : s.shownProfileId =
    if s.activeProfileId ∈ s.usedIds then s.activeProfileId else frontId s.profiles := by
  have hne : s.activeProfileId ∈ s.usedIds → s.activeProfileId ≠ [] := ne_nil_of_mem_usedIds
  unfold shownProfileId
  simp only [isSome_get]
  by_cases h : s.activeProfileId ∈ s.usedIds
  · rw [if_pos ⟨hne h, h⟩, if_pos h]
  · rw [if_neg fun h' => h h'.2, if_neg h]

lemma Inv.sound (h : s.Inv) : s.Sound where
  unique := h.unique
  nonempty := fun _ => ne_nil_of_mem_usedIds
  bound := h.bound
  shown_empty := by
    rw [shownProfileId_eq]
    split_ifs with hactive
    · refine iff_of_false (ne_nil_of_mem_usedIds hactive) ?_
      intro hempty
      simp [usedIds, hempty] at hactive
    · exact frontId_eq_nil
  shown_listed := by
    intro hne
    rw [shownProfileId_eq]
    split_ifs with hactive
    · exact hactive
    · exact frontId_mem hne

/-! ## What is saved is read back -/

lemma profileFromJson_name {p : StreamConfigProfile} (h : Storable p.name) :
    (profileFromJson (profileToJson p)).name = profileName p.name := by
  have hobject : (profileToJson p).isObject = true := rfl
  have hname : ∀ q : StreamConfigProfile, (normalizeProfile q).name = profileName q.name :=
    fun _ => rfl
  rw [profileFromJson, if_pos hobject, hname, readFields_name, readText_written p 1 h rfl]

lemma lookup_readHosts {entries : List (Σ _ : Bytes, Bytes)} (hnodup : entries.NodupKeys) :
    (readHosts (some (.object (entries.map fun e => (e.1, .string e.2))))).lookup hostKey =
      entries.dlookup hostKey := by
  rw [readHosts, List.foldl_map]
  exact AList.lookup_foldl_insert hnodup hostKey

lemma hosts_written (h : s.Inv) : (readHosts (s.exportJson.get (ascii "host_profile"))).lookup
    hostKey = s.hostProfile.lookup hostKey := by
  have hvalues : ∀ e ∈ s.hostProfile.entries, Storable e.1 ∧ Storable e.2 := by
    intro e he
    have hlookup : s.hostProfile.lookup e.1 = some e.2 := AList.mem_lookup_iff.mpr he
    obtain ⟨q, hq, hid⟩ := mem_usedIds.mp (h.bound e.1 e.2 hlookup)
    refine ⟨h.hosts e.1 (AList.lookup_isSome.mp (by simp [hlookup])), ?_⟩
    rw [← hid]
    exact (h.texts q hq).1
  have hmembers : makeObject (s.hostProfile.entries.map fun e => (e.1, jsonString e.2)) =
      .object (s.hostProfile.entries.map fun e => (e.1, Value.string e.2)) := by
    rw [makeObject_eq]
    · rw [List.filterMap_map]
      congr 1
      rw [← List.filterMap_eq_map]
      apply List.filterMap_congr
      intro e he
      simp [jsonString_of_storable (hvalues e he).2]
    · rw [List.map_map]
      exact s.hostProfile.nodupKeys
    · intro f hf
      obtain ⟨e, he, rfl⟩ := List.mem_map.mp hf
      exact (hvalues e he).1.1
  have hget : s.exportJson.get (ascii "host_profile") =
      some (makeObject (s.hostProfile.entries.map fun e => (e.1, jsonString e.2))) :=
    get_makeObject_at 2 exportKeys_ok rfl rfl
  rw [hget, hmembers, lookup_readHosts s.hostProfile.nodupKeys]
  rfl

lemma active_written (h : s.Inv) :
    (s.exportJson.read Value.text "active_profile_id").getD [] = s.activeProfileId := by
  have hread : s.exportJson.read Value.text "active_profile_id" =
      (if s.activeProfileId = [] then none else jsonString s.activeProfileId).bind Value.text :=
    read_makeObject 3 exportKeys_ok rfl rfl
  rw [hread]
  split_ifs with hempty
  · simp [hempty]
  · rw [jsonString_bind h.active]
    rfl

lemma frontId_eq (profiles : List StreamConfigProfile) :
    frontId profiles = (profiles.map (·.id)).head?.getD [] := by
  rw [frontId, List.head?_map]

lemma any_id (profiles : List StreamConfigProfile) :
    profiles.any (·.id = id) = true ↔ id ∈ profiles.map (·.id) := by
  simp

def storedItems (root : Value) : List Value :=
  ((root.get (ascii "profiles")).map Value.items).getD []

def storedActive (root : Value) : Bytes := (root.read Value.text "active_profile_id").getD []

/-- What `reload` takes from the root that it finds. -/
structure Reads (root : Value) (ids : ℕ → Id) (t : StreamConfigProfileStore) : Prop where
  profiles : t.profiles = readProfiles ids (storedItems root)
  hostProfile : t.hostProfile = readHosts (root.get (ascii "host_profile"))
  activeProfileId : t.activeProfileId =
    if storedActive root ≠ [] ∧ t.profiles.any (·.id = storedActive root) then storedActive root
    else frontId t.profiles

lemma load_reads {root : Value} {migrated : Bool} {ids : ℕ → Id}
    (h : s.root = some (root, migrated)) : Reads root ids (s.load ids makeId) := by
  unfold load reload
  rw [h]
  cases migrated <;> exact ⟨rfl, rfl, rfl⟩

/-- The active profile that was read is shown as it would be without the choice of `reload`. -/
lemma Reads.shown {root : Value} {ids : ℕ → Id} (h : Reads root ids t) :
    t.shownProfileId =
      if storedActive root ∈ t.usedIds then storedActive root else frontId t.profiles := by
  have hlisted : (storedActive root ≠ [] ∧ t.profiles.any (·.id = storedActive root) = true) ↔
      storedActive root ∈ t.usedIds := by
    rw [any_id]
    exact and_iff_right_of_imp ne_nil_of_mem_usedIds
  rw [shownProfileId_eq, h.activeProfileId]
  simp only [hlisted]
  by_cases hactive : storedActive root ∈ t.usedIds <;> simp [hactive]

/-- What a reload shows of a saved store. -/
lemma view_reload_save (h : s.Inv) (ids : ℕ → Id) (makeId : MakeId) :
    (s.save.load ids makeId).view =
      (s.profiles.map fun q => (q.id, profileName q.name),
        fun hostKey => s.hostProfile.lookup hostKey, s.shownProfileId) := by
  have hstored : ∀ q ∈ s.profiles, Storable q.id := fun q hq => (h.texts q hq).1
  have hreads : Reads s.exportJson ids (s.save.load ids makeId) :=
    @load_reads _ _ _ false _ rfl
  have hprofiles : (s.save.load ids makeId).profiles =
      s.profiles.map fun q => profileFromJson (profileToJson q) := reload_save hstored
  have hids : (s.save.load ids makeId).usedIds = s.usedIds := by
    rw [usedIds, hprofiles, List.map_map, usedIds]
    apply List.map_congr_left
    intro q hq
    exact profileFromJson_id (hstored q hq)
  have hfront : frontId (s.save.load ids makeId).profiles = frontId s.profiles := by
    rw [frontId_eq, frontId_eq]
    exact congrArg (fun l => l.head?.getD []) hids
  have hactive : storedActive s.exportJson = s.activeProfileId := active_written h
  have hpairs : (s.save.load ids makeId).profiles.map (fun q => (q.id, q.name)) =
      s.profiles.map fun q => (q.id, profileName q.name) := by
    rw [hprofiles, List.map_map]
    apply List.map_congr_left
    intro q hq
    simp only [Function.comp_apply]
    rw [profileFromJson_id (hstored q hq), profileFromJson_name (h.texts q hq).2]
  have hhosts : ∀ hostKey, (s.save.load ids makeId).hostProfile.lookup hostKey =
      s.hostProfile.lookup hostKey := by
    intro hostKey
    rw [hreads.hostProfile, hosts_written h]
  have hshown : (s.save.load ids makeId).shownProfileId = s.shownProfileId := by
    rw [hreads.shown, hids, hfront, hactive, shownProfileId_eq]
  rw [view, hpairs, hshown]
  simp only [hhosts]

lemma Reads.view_eq {root : Value} {ids ids' : ℕ → Id} (hs : Reads root ids s)
    (ht : Reads root ids' t) (hprofiles : s.profiles = t.profiles) : s.view = t.view := by
  have hids : s.usedIds = t.usedIds := by rw [usedIds, hprofiles, usedIds]
  rw [view, view, hs.shown, ht.shown, hs.hostProfile, ht.hostProfile, hids, hprofiles]

lemma profileName_ne_nil (name : Bytes) : profileName name ≠ [] := by
  unfold profileName
  split_ifs with h
  · decide +kernel
  · exact h

lemma storable_profileName {name : Bytes} (h : Storable name) : Storable (profileName name) := by
  unfold profileName
  split_ifs
  · decide +kernel
  · exact h

lemma profileName_eq_self {name : Bytes} : profileName name = name ↔ name ≠ [] := by
  constructor
  · intro h
    rw [← h]
    exact profileName_ne_nil name
  · intro h
    rw [profileName, if_neg h]

/-- An id longer than all that are used. -/
def longId (used : List Bytes) : Bytes := List.replicate ((used.map List.length).sum + 1) 97

lemma longId_fresh (used : List Bytes) :
    longId used ≠ [] ∧ Storable (longId used) ∧ longId used ∉ used := by
  have hascii : ∀ c ∈ longId used, c = 97 := fun c hc => (List.mem_replicate.mp hc).2
  refine ⟨List.cons_ne_nil _ _, ⟨isUtf8_of_ascii ?_, ?_⟩, ?_⟩
  · intro c hc
    rw [hascii c hc]
    decide
  · intro hzero
    exact absurd (hascii 0 hzero) (by decide)
  · intro hused
    have hle : (longId used).length ≤ (used.map List.length).sum :=
      List.le_sum_of_mem (List.mem_map_of_mem hused)
    rw [longId, List.length_replicate] at hle
    omega

/-- A saved store is what a reload finds exactly when every profile has a name. -/
lemma reloadKeeps_save (h : s.Inv) : s.save.ReloadKeeps ↔ s.Named := by
  have hview : s.save.view = s.view := rfl
  constructor
  · intro hkeeps q hq
    have hread := view_reload_save h (fun _ => ⟨[97], by simp⟩) fun used =>
      ⟨longId used, longId_fresh used⟩
    rw [hkeeps, hview] at hread
    have hpairs := (congrArg Prod.fst hread).symm
    have hname := List.map_inj_left.mp hpairs q hq
    exact profileName_eq_self.mp (congrArg Prod.snd hname)
  · intro hnamed ids makeId
    rw [view_reload_save h, hview, view]
    congr 1
    apply List.map_congr_left
    intro q hq
    rw [profileName_eq_self.mpr (hnamed q hq)]

/-! ## What the calls change -/

variable {p : StreamConfigProfile}

lemma usedIds_push (hid : p.id ≠ []) : (s.push p hid).usedIds = s.usedIds ++ [p.id] := by
  simp [usedIds, push]

lemma Inv.push (h : s.Inv) (hid : p.id ≠ []) (hfresh : p.id ∉ s.usedIds)
    (htexts : Storable p.id ∧ Storable p.name) : (s.push p hid).Inv where
  unique := by
    rw [usedIds_push]
    exact List.nodup_append.mpr ⟨h.unique, List.nodup_singleton _, fun a ha b hb => by
      rw [List.mem_singleton.mp hb]
      rintro rfl
      exact hfresh ha⟩
  bound := by
    intro hostKey id hlookup
    rw [usedIds_push]
    exact List.mem_append_left _ (h.bound hostKey id hlookup)
  texts := by
    intro q hq
    rcases List.mem_append.mp hq with hold | hnew
    · exact h.texts q hold
    · rw [List.mem_singleton.mp hnew]
      exact htexts
  hosts := h.hosts
  active := h.active

lemma named_push (hid : p.id ≠ []) : (s.push p hid).Named ↔ s.Named ∧ p.name ≠ [] := by
  simp [Named, StreamConfigProfileStore.push, or_imp, forall_and]

lemma Inv.withActive (h : s.Inv) (hid : Storable id) : Inv { s with activeProfileId := id } :=
  ⟨h.unique, h.bound, h.texts, h.hosts, hid⟩

/-- The profiles change, and their ids stay. -/
lemma Inv.withProfiles (h : s.Inv) {profiles : List StreamConfigProfile}
    (hids : profiles.map (·.id) = s.profiles.map (·.id))
    (htexts : ∀ q ∈ profiles, Storable q.id ∧ Storable q.name) :
    Inv { s with profiles := profiles, ids := ids_of_map hids s.ids } := by
  have hused : ({ s with profiles := profiles, ids := ids_of_map hids s.ids } :
      StreamConfigProfileStore).usedIds = s.usedIds := hids
  refine ⟨?_, ?_, htexts, h.hosts, h.active⟩
  · rw [hused]
    exact h.unique
  · intro hostKey id hlookup
    rw [hused]
    exact h.bound hostKey id hlookup

lemma Inv.bind (h : s.Inv) (hkey : Storable hostKey) (hid : id ∈ s.usedIds) :
    Inv { s with hostProfile := s.hostProfile.insert hostKey id } := by
  refine ⟨h.unique, ?_, h.texts, ?_, h.active⟩
  · intro key id' hlookup
    by_cases heq : key = hostKey
    · subst heq
      rw [AList.lookup_insert] at hlookup
      rwa [← Option.some.inj hlookup]
    · rw [AList.lookup_insert_ne heq] at hlookup
      exact h.bound key id' hlookup
  · intro key hmem
    rcases (AList.mem_insert _).mp hmem with rfl | hold
    · exact hkey
    · exact h.hosts key hold

lemma Inv.unbind (h : s.Inv) : Inv { s with hostProfile := s.hostProfile.erase hostKey } := by
  refine ⟨h.unique, ?_, h.texts, ?_, h.active⟩
  · intro key id hlookup
    have hkept : s.hostProfile.lookup key = some id := by
      by_cases heq : key = hostKey
      · subst heq
        simp at hlookup
      · rwa [AList.lookup_erase_ne heq] at hlookup
    exact h.bound key id hkept
  · intro key hmem
    exact h.hosts key (AList.mem_erase.mp hmem).2

lemma storable_frontId (h : ∀ q ∈ s.profiles, Storable q.id) : Storable (frontId s.profiles) := by
  cases hp : s.profiles with
  | nil => exact storable_nil
  | cons q profiles => exact h q (by simp [hp])

/-! ### addMissingDefaults -/

lemma defaults_texts : ∀ spec ∈ kDefaultStreamProfiles, Storable spec.name ∧ spec.name ≠ [] := by
  decide +kernel

lemma mem_missing {spec : DefaultStreamProfileSpec} (h : spec ∈ s.missing) :
    Storable spec.name ∧ spec.name ≠ [] := by
  unfold missing missingDefaultProfiles at h
  exact defaults_texts spec (List.mem_of_mem_filter h)

lemma pushDefaults_inv {specs : List DefaultStreamProfileSpec}
    (hspecs : ∀ spec ∈ specs, Storable spec.name ∧ spec.name ≠ []) (h : s.Inv) :
    (specs.foldl (pushDefault makeId) s).Inv ∧
      (s.Named → (specs.foldl (pushDefault makeId) s).Named) := by
  induction specs generalizing s with
  | nil => exact ⟨h, id⟩
  | cons spec specs ih =>
    obtain ⟨hname, hne⟩ := hspecs spec (by simp)
    have hid := (makeId s.usedIds).2
    have hpushed : (s.pushDefault makeId spec).Inv := h.push hid.1 hid.2.2 ⟨hid.2.1, hname⟩
    have hnext := ih (fun spec' hmem => hspecs spec' (by simp [hmem])) hpushed
    refine ⟨hnext.1, fun hnamed => hnext.2 ?_⟩
    exact (named_push hid.1).mpr ⟨hnamed, hne⟩

lemma chooseActive_inv (h : s.Inv) : s.chooseActive.Inv ∧ (s.Named → s.chooseActive.Named) := by
  unfold chooseActive
  split_ifs
  · refine ⟨h.withActive ?_, fun hnamed => hnamed⟩
    cases hfind : s.profiles.find? (·.name = kDefaultActiveProfileName) with
    | none => exact storable_frontId fun q hq => (h.texts q hq).1
    | some q => exact (h.texts q (List.mem_of_find?_eq_some hfind)).1
  · exact ⟨h, id⟩

/-! ### create, rename, update, remove, duplicate -/

/-- The call ends with a save, and leaves every profile with a name under the condition. -/
def Saves (s u : StreamConfigProfileStore) (named : Prop) : Prop :=
  ∃ t : StreamConfigProfileStore, u = t.save ∧ t.Inv ∧ (s.Named → (t.Named ↔ named))

lemma newProfile_name (settings : StreamConfigProfile) (fromCurrentSettings : Bool)
    (id name : Bytes) :
    (normalizeProfile (newProfile settings fromCurrentSettings id name)).name =
      profileName name := by
  have hnormal : (newProfile settings fromCurrentSettings id name).name = profileName name := by
    cases fromCurrentSettings with
    | false => rfl
    | true =>
      change (if name = [] then profileName (profileName name) else name) = profileName name
      rw [profileName_eq_self.mpr (profileName_ne_nil name)]
      by_cases hname : name = []
      · rw [if_pos hname]
      · rw [if_neg hname, profileName_eq_self.mpr hname]
  change profileName (newProfile settings fromCurrentSettings id name).name = profileName name
  rw [hnormal, profileName_eq_self.mpr (profileName_ne_nil name)]

lemma create_saves (h : s.Inv) (settings : StreamConfigProfile) {name : Bytes}
    (hname : Storable name) (fromCurrentSettings : Bool) :
    s.Saves (s.create makeId settings name fromCurrentSettings) True := by
  have hid := (makeId s.usedIds).2
  have hne : (normalizeProfile (newProfile settings fromCurrentSettings
      (makeId s.usedIds) name)).id ≠ [] := by
    rw [newProfile_id]
    exact hid.1
  have hpushed := h.push hne (by
    rw [newProfile_id]
    exact hid.2.2) (by
    rw [newProfile_id, newProfile_name]
    exact ⟨hid.2.1, storable_profileName hname⟩)
  refine ⟨_, rfl, hpushed.withActive ?_, ?_⟩
  · split_ifs
    · rw [newProfile_id]
      exact hid.2.1
    · exact h.active
  · intro hnamed
    refine iff_true_intro ((named_push hne).mpr ⟨hnamed, ?_⟩)
    rw [newProfile_name]
    exact profileName_ne_nil name

lemma mem_renameFirst {name : Bytes} {q : StreamConfigProfile} {profiles}
    (h : q ∈ renameFirst id name profiles) :
    q ∈ profiles ∨ ∃ r ∈ profiles, q = { r with name := name } := by
  induction profiles with
  | nil => simp [renameFirst] at h
  | cons r profiles ih =>
    unfold renameFirst at h
    split_ifs at h with hid
    · rcases List.mem_cons.mp h with rfl | hrest
      · exact .inr ⟨r, by simp, rfl⟩
      · exact .inl (List.mem_cons_of_mem _ hrest)
    · rcases List.mem_cons.mp h with rfl | hrest
      · exact .inl (by simp)
      · rcases ih hrest with hold | ⟨r', hr', rfl⟩
        · exact .inl (List.mem_cons_of_mem _ hold)
        · exact .inr ⟨r', List.mem_cons_of_mem _ hr', rfl⟩

lemma rename_saves (h : s.Inv) {name : Bytes} (hname : Storable name) :
    s.rename id name = s ∨ s.Saves (s.rename id name) True := by
  unfold rename
  split_ifs with hempty hknown
  · exact .inl rfl
  · refine .inr ⟨_, rfl, h.withProfiles (renameFirst_ids id name s.profiles) ?_, ?_⟩
    · intro q hq
      rcases mem_renameFirst hq with hold | ⟨r, hr, rfl⟩
      · exact h.texts q hold
      · exact ⟨(h.texts r hr).1, hname⟩
    · refine fun hnamed => iff_true_intro fun q hq => ?_
      rcases mem_renameFirst hq with hold | ⟨r, hr, rfl⟩
      · exact hnamed q hold
      · exact hempty
  · exact .inl rfl

lemma mem_replace {q : StreamConfigProfile} {profiles} (h : q ∈ replace p profiles) :
    q ∈ profiles ∨ q = { normalizeProfile p with id := p.id } := by
  induction profiles with
  | nil => simp [replace] at h
  | cons r profiles ih =>
    unfold replace at h
    split_ifs at h with hid
    · rcases List.mem_cons.mp h with rfl | hrest
      · exact .inr rfl
      · exact .inl (List.mem_cons_of_mem _ hrest)
    · rcases List.mem_cons.mp h with rfl | hrest
      · exact .inl (by simp)
      · exact (ih hrest).imp_left (List.mem_cons_of_mem _)

lemma update_saves (h : s.Inv) (hp : Storable p.id ∧ Storable p.name) :
    (s.update p).2 = s ∨ s.Saves (s.update p).2 True := by
  unfold update
  split_ifs with hempty hknown
  · exact .inl rfl
  · refine .inr ⟨_, rfl, h.withProfiles (replace_ids p s.profiles) ?_, ?_⟩
    · intro q hq
      rcases mem_replace hq with hold | rfl
      · exact h.texts q hold
      · exact ⟨hp.1, storable_profileName hp.2⟩
    · refine fun hnamed => iff_true_intro fun q hq => ?_
      rcases mem_replace hq with hold | rfl
      · exact hnamed q hold
      · exact profileName_ne_nil p.name
  · exact .inl rfl

lemma remove_saves (h : s.Inv) : s.remove id = s ∨ s.Saves (s.remove id) True := by
  unfold remove
  by_cases hknown : s.profiles.any (·.id = id) = true
  · refine .inr ⟨_, if_pos hknown, ⟨?_, ?_, ?_, ?_, ?_⟩, ?_⟩
    · exact h.unique.sublist (List.filter_sublist.map _)
    · intro hostKey id' hlookup
      obtain ⟨hmem, hne⟩ := List.mem_filter.mp (AList.mem_lookup_iff.mp hlookup)
      obtain ⟨q, hq, rfl⟩ := mem_usedIds.mp (h.bound hostKey id' (AList.mem_lookup_iff.mpr hmem))
      exact mem_usedIds.mpr ⟨q, List.mem_filter.mpr ⟨hq, hne⟩, rfl⟩
    · exact fun q hq => h.texts q (List.mem_of_mem_filter hq)
    · intro hostKey hmem
      have hkept : hostKey ∈ s.hostProfile.entries.keys :=
        (List.filter_sublist.map Sigma.fst).subset hmem
      exact h.hosts hostKey hkept
    · change Storable (if s.activeProfileId = id then frontId (s.profiles.filter (·.id ≠ id))
        else s.activeProfileId)
      split_ifs
      · rw [frontId]
        cases hhead : (s.profiles.filter (·.id ≠ id)).head? with
        | none => exact storable_nil
        | some q => exact (h.texts q (List.mem_of_mem_filter (List.mem_of_head? hhead))).1
      · exact h.active
    · exact fun hnamed => iff_true_intro fun q hq => hnamed q (List.mem_of_mem_filter hq)
  · exact .inl (if_neg hknown)

lemma mem_of_get {q : StreamConfigProfile} (h : s.get id = some q) : q ∈ s.profiles := by
  unfold get at h
  split_ifs at h
  exact List.mem_of_find?_eq_some h

lemma duplicate_saves (h : s.Inv) (settings : StreamConfigProfile) {newName : Bytes}
    (hname : Storable newName) : s.Saves (s.duplicate makeId settings id newName) True := by
  unfold duplicate
  split
  · refine create_saves h settings ?_ true
    split_ifs
    · decide +kernel
    · exact hname
  · rename_i existing hget
    have hid := (makeId s.usedIds).2
    have hcopy : Storable (ascii " copy") := by decide +kernel
    have hexisting := h.texts existing (mem_of_get hget)
    refine ⟨_, rfl, h.push hid.1 hid.2.2 ⟨hid.2.1, ?_⟩, ?_⟩
    · change Storable (if newName = [] then existing.name ++ ascii " copy" else newName)
      split_ifs
      · exact storable_append hexisting.2 hcopy
      · exact hname
    · refine fun hnamed => iff_true_intro ((named_push hid.1).mpr ⟨hnamed, ?_⟩)
      change (if newName = [] then existing.name ++ ascii " copy" else newName) ≠ []
      split_ifs with hempty
      · exact List.append_ne_nil_of_left_ne_nil (hnamed existing (mem_of_get hget)) _
      · exact hempty

/-! ### Host bindings and the active profile -/

lemma setSelectedForHost_saves (h : s.Inv) (hkey : Storable hostKey) :
    s.setSelectedForHost hostKey id = s ∨ s.Saves (s.setSelectedForHost hostKey id) True := by
  unfold setSelectedForHost
  split_ifs with hempty hunknown
  · exact .inl rfl
  · exact .inr ⟨_, rfl, h.unbind, iff_true_intro⟩
  · rw [isNone_get, not_or, not_not] at hunknown
    exact .inr ⟨_, rfl, h.bind hkey hunknown.2, iff_true_intro⟩

lemma setActiveProfileId_saves (h : s.Inv) :
    s.setActiveProfileId id = s ∨ s.Saves (s.setActiveProfileId id) True := by
  unfold setActiveProfileId
  split_ifs with hunknown
  · exact .inl rfl
  · rw [isNone_get, not_or, not_not] at hunknown
    obtain ⟨q, hq, rfl⟩ := mem_usedIds.mp hunknown.2
    exact .inr ⟨_, rfl, h.withActive (h.texts q hq).1, iff_true_intro⟩

/-! ### importJson -/

lemma readText_storable {item : Value} (hitem : Parsed item) (key : String) :
    Storable (readText item key []) := by
  unfold readText Value.read
  cases hget : item.get (ascii key) with
  | none => exact storable_nil
  | some v =>
    cases hitem.get hget with
    | string hs => exact hs
    | _ => exact storable_nil

/-- What the reader takes from an item: texts of the file, and a name unless it is no object. -/
lemma profileFromJson_texts {item : Value} (hitem : Parsed item) :
    Storable (profileFromJson item).id ∧ Storable (profileFromJson item).name ∧
      ((profileFromJson item).name ≠ [] ↔ item.isObject = true) := by
  unfold profileFromJson
  split_ifs with hobject
  · refine ⟨readText_storable hitem "id", storable_profileName (readText_storable hitem "name"), ?_⟩
    exact iff_of_true (profileName_ne_nil _) hobject
  · refine ⟨storable_nil, storable_nil, ?_⟩
    exact iff_of_false (fun hne => hne rfl) hobject

/-- An item that is no object has no id, and is never in conflict. -/
lemma profileFromJson_id_of_not_object {item : Value} (h : ¬item.isObject = true) :
    (profileFromJson item).id = [] := by
  rw [profileFromJson, if_neg h]

lemma readProfile_texts {item : Value} (hitem : Parsed item) {fresh : Id}
    (hfresh : Storable fresh.1) :
    Storable (readProfile fresh item).id ∧ Storable (readProfile fresh item).name ∧
      ((readProfile fresh item).name ≠ [] ↔ item.isObject = true) := by
  have htexts := profileFromJson_texts hitem
  unfold readProfile
  dsimp only
  split_ifs
  · exact ⟨hfresh, htexts.2⟩
  · exact htexts

lemma importItem_inv {renameOnConflict : Bool} {item : Value} (h : s.Inv) (hitem : Parsed item) :
    (s.importItem makeId renameOnConflict item).Inv ∧
      ((s.importItem makeId renameOnConflict item).Named ↔ s.Named ∧ item.isObject = true) := by
  have hid := (makeId s.usedIds).2
  have htexts := @readProfile_texts _ hitem ⟨makeId s.usedIds, hid.1⟩ hid.2.1
  have himport : Storable (ascii " (import)") := by decide +kernel
  -- without an id of its own the item gets a fresh one
  have hconflict : (readProfile ⟨makeId s.usedIds, hid.1⟩ item).id ∈ s.usedIds →
      item.isObject = true := by
    intro hused
    by_contra hobject
    have hfresh : (readProfile ⟨makeId s.usedIds, hid.1⟩ item).id = makeId s.usedIds := by
      rw [readProfile, if_pos (profileFromJson_id_of_not_object hobject)]
    exact hid.2.2 (hfresh ▸ hused)
  unfold importItem
  dsimp only
  simp only [isSome_get]
  split_ifs with hused hrename
  · have hobject := hconflict hused
    have hname := List.append_ne_nil_of_left_ne_nil (htexts.2.2.mpr hobject) (ascii " (import)")
    refine ⟨h.push hid.1 hid.2.2 ⟨hid.2.1, storable_append htexts.2.1 himport⟩, ?_⟩
    rw [named_push]
    exact and_congr_right fun _ => iff_of_true hname hobject
  · exact ⟨h, (and_iff_left (hconflict hused)).symm⟩
  · refine ⟨h.push (readProfile_id _ item) hused ⟨htexts.1, htexts.2.1⟩, ?_⟩
    rw [named_push, htexts.2.2]

lemma importItems_inv {renameOnConflict : Bool} {items : List Value} (h : s.Inv)
    (hitems : ∀ item ∈ items, Parsed item) :
    (items.foldl (importItem makeId renameOnConflict) s).Inv ∧
      ((items.foldl (importItem makeId renameOnConflict) s).Named ↔
        s.Named ∧ ∀ item ∈ items, item.isObject = true) := by
  induction items generalizing s with
  | nil => exact ⟨h, by simp⟩
  | cons item items ih =>
    have hfirst := @importItem_inv _ makeId renameOnConflict _ h
      (hitems item (by simp))
    have hrest := ih hfirst.1 fun item' hmem => hitems item' (by simp [hmem])
    refine ⟨hrest.1, ?_⟩
    rw [List.foldl_cons, hrest.2, hfirst.2, List.forall_mem_cons, and_assoc]

lemma importHosts_inv (h : s.Inv) {hosts : Option Value} (hparsed : ∀ v ∈ hosts, Parsed v) :
    (s.importHosts hosts).Inv ∧ ((s.importHosts hosts).Named ↔ s.Named) := by
  have hmember : ∀ (s : StreamConfigProfileStore) (member : Bytes × Value), s.Inv →
      Storable member.1 → (s.importHost member).Inv ∧ ((s.importHost member).Named ↔ s.Named) := by
    intro s member h hkey
    unfold importHost
    split
    · split_ifs with hlisted
      · exact ⟨h.bind hkey (isSome_get.mp hlisted), Iff.rfl⟩
      · exact ⟨h, Iff.rfl⟩
    · exact ⟨h, Iff.rfl⟩
  have hmembers : ∀ (members : List (Bytes × Value)) (s : StreamConfigProfileStore), s.Inv →
      (∀ m ∈ members, Storable m.1) → (members.foldl importHost s).Inv ∧
        ((members.foldl importHost s).Named ↔ s.Named) := by
    intro members
    induction members with
    | nil => exact fun s h _ => ⟨h, Iff.rfl⟩
    | cons m members ih =>
      intro s h hkeys
      have hfirst := hmember s m h (hkeys m (by simp))
      have hrest := ih (s.importHost m) hfirst.1 fun m' hm => hkeys m' (by simp [hm])
      exact ⟨hrest.1, hrest.2.trans hfirst.2⟩
  unfold importHosts
  split
  · rename_i members
    cases hparsed _ rfl with
    | object hkeys _ => exact hmembers members s h hkeys
  · exact ⟨h, Iff.rfl⟩

lemma importActive_inv (h : s.Inv) (active : Option Value) :
    (s.importActive active).Inv ∧ ((s.importActive active).Named ↔ s.Named) := by
  unfold importActive
  split
  · split_ifs with hlisted
    · obtain ⟨q, hq, rfl⟩ := mem_usedIds.mp (isSome_get.mp hlisted)
      exact ⟨h.withActive (h.texts q hq).1, Iff.rfl⟩
    · exact ⟨h, Iff.rfl⟩
  · exact ⟨h, Iff.rfl⟩

lemma importItems_parsed {file : Option Document} {items : List Value}
    (h : importItems file = some items) : ∀ item ∈ items, Parsed item := by
  unfold importItems at h
  split at h
  · rename_i members hparsed
    split at h
    · rename_i stored hget
      cases h
      cases hparsed.get hget with
      | array hitems => exact hitems
    · cases h
  · cases h

lemma importJson_saves (h : s.Inv) (file : Option Document) (renameOnConflict : Bool) :
    s.importJson makeId file renameOnConflict = s ∧ importItems file = none ∨
      ∃ items, importItems file = some items ∧
        s.Saves (s.importJson makeId file renameOnConflict)
          (∀ item ∈ items, item.isObject = true) := by
  cases hitems : importItems file with
  | none =>
    refine .inl ⟨?_, rfl⟩
    cases file <;> simp only [importJson, hitems]
  | some items =>
    cases file with
    | none => cases hitems
    | some root =>
      have hprofiles := @importItems_inv _ makeId renameOnConflict _ h
        (importItems_parsed hitems)
      have hhosts := @importHosts_inv _ hprofiles.1 (root.1.get (ascii "host_profile"))
        fun v hv => root.2.get hv
      have hactive := importActive_inv hhosts.1 (root.1.get (ascii "active_profile_id"))
      have hnamed : ∀ hnamed : s.Named, _ := fun hnamed =>
        (hactive.2.trans hhosts.2).trans (hprofiles.2.trans (and_iff_right hnamed))
      refine .inr ⟨items, rfl, _, ?_, hactive.1, hnamed⟩
      simp only [importJson, hitems]

/-! ## The calls -/

inductive Call
  | create (makeId : MakeId) (settings : StreamConfigProfile) (name : Text)
      (fromCurrentSettings : Bool)
  | rename (id name : Text)
  | update (profile : { p : StreamConfigProfile // Storable p.id ∧ Storable p.name })
  | remove (id : Text)
  | duplicate (makeId : MakeId) (settings : StreamConfigProfile) (id newName : Text)
  | setSelectedForHost (hostKey profileId : Text)
  | setActiveProfileId (profileId : Text)
  | importJson (makeId : MakeId) (file : Option Document) (renameOnConflict : Bool)
  | addMissingDefaults (makeId : MakeId)
  | reload (ids : ℕ → Id) (makeId : MakeId)

def apply (s : StreamConfigProfileStore) : Call → StreamConfigProfileStore
  | .create makeId settings name fromCurrentSettings =>
    s.create makeId settings name fromCurrentSettings
  | .rename id name => s.rename id name
  | .update profile => (s.update profile).2
  | .remove id => s.remove id
  | .duplicate makeId settings id newName => s.duplicate makeId settings id newName
  | .setSelectedForHost hostKey profileId => s.setSelectedForHost hostKey profileId
  | .setActiveProfileId profileId => s.setActiveProfileId profileId
  | .importJson makeId file renameOnConflict => s.importJson makeId file renameOnConflict
  | .addMissingDefaults makeId => s.addMissingDefaults makeId
  | .reload ids makeId => s.load ids makeId

/-- The condition on a call: an imported list holds objects only, and defaults that are added to
a store without an active profile add one, unless the first profile is the one they choose. -/
def Allowed (s : StreamConfigProfileStore) : Call → Prop
  | .importJson _ file _ => ((importItems file).getD []).all Value.isObject = true
  | .addMissingDefaults _ =>
    s.missing ≠ [] ∨ s.activeProfileId ≠ [] ∨
      s.profiles.head?.map (·.name) = some kDefaultActiveProfileName
  | _ => True

instance (s : StreamConfigProfileStore) : ∀ c, Decidable (s.Allowed c)
  | .importJson _ file _ => inferInstanceAs (Decidable (((importItems file).getD []).all _ = true))
  | .addMissingDefaults _ => inferInstanceAs (Decidable (_ ∨ _ ∨ _))
  | .create .. | .rename .. | .update _ | .remove _ | .duplicate .. | .setSelectedForHost ..
  | .setActiveProfileId _ | .reload .. => inferInstanceAs (Decidable True)

/-- A call changes nothing, saves, makes a default active without a save, or reloads. -/
lemma apply_cases (h : s.Inv) (c : Call) :
    s.apply c = s ∧ s.Allowed c ∨ s.Saves (s.apply c) (s.Allowed c) ∨
      (s.apply c = s.chooseActive ∧ s.missing = [] ∧ ∃ makeId, c = .addMissingDefaults makeId) ∨
      ∃ ids makeId, c = .reload ids makeId := by
  cases c with
  | create makeId settings name fromCurrentSettings =>
    exact .inr (.inl (create_saves h settings name.2 fromCurrentSettings))
  | rename id name => exact (rename_saves h name.2).imp (⟨·, trivial⟩) .inl
  | update profile => exact (update_saves h profile.2).imp (⟨·, trivial⟩) .inl
  | remove id => exact (remove_saves h).imp (⟨·, trivial⟩) .inl
  | duplicate makeId settings id newName =>
    exact .inr (.inl (duplicate_saves h settings newName.2))
  | setSelectedForHost hostKey profileId =>
    exact (setSelectedForHost_saves h hostKey.2).imp (⟨·, trivial⟩) .inl
  | setActiveProfileId profileId => exact (setActiveProfileId_saves h).imp (⟨·, trivial⟩) .inl
  | importJson makeId file renameOnConflict =>
    rcases @importJson_saves _ makeId h file renameOnConflict with
      ⟨hsame, hitems⟩ | ⟨items, hitems, hsaves⟩
    · exact .inl ⟨hsame, by simp [Allowed, hitems]⟩
    · have hallowed : s.Allowed (.importJson makeId file renameOnConflict) ↔
          ∀ item ∈ items, item.isObject = true := by
        simp only [Allowed, hitems, Option.getD_some, List.all_eq_true]
      refine .inr (.inl ?_)
      rw [hallowed]
      exact hsaves
  | addMissingDefaults makeId =>
    have hadded := @pushDefaults_inv _ makeId s.missing
      (fun spec hspec => mem_missing hspec) h
    have hactive := chooseActive_inv hadded.1
    by_cases hmissing : s.missing = []
    · refine .inr (.inr (.inl ⟨?_, hmissing, makeId, rfl⟩))
      simp [apply, addMissingDefaults, hmissing]
    · refine .inr (.inl ⟨_, if_neg hmissing, hactive.1, fun hnamed => ?_⟩)
      exact iff_of_true (hactive.2 (hadded.2 hnamed)) (.inl hmissing)
  | reload ids makeId => exact .inr (.inr (.inr ⟨ids, makeId, rfl⟩))

/-! ## The file -/

/-- The invariant of the store and its file. -/
structure Good (s : StreamConfigProfileStore) : Prop where
  inv : s.Inv
  file : ∃ root, s.file = some root ∧ root.isObject = true
  loads : ∀ ids makeId, (s.load ids makeId).Inv

lemma root_of_file {root : Value} (h : s.file = some root) (hobject : root.isObject = true) :
    s.root = some (root, false) := by
  unfold StreamConfigProfileStore.root
  rw [h, Option.filter_some, if_pos hobject]

lemma Inv.congr (h : s.Inv) (hprofiles : t.profiles = s.profiles)
    (hhosts : t.hostProfile = s.hostProfile) (hactive : Storable t.activeProfileId) : t.Inv := by
  have hids : t.usedIds = s.usedIds := by rw [usedIds, hprofiles, usedIds]
  refine ⟨?_, ?_, ?_, ?_, hactive⟩
  · rw [hids]
    exact h.unique
  · rw [hids, hhosts]
    exact h.bound
  · rw [hprofiles]
    exact h.texts
  · rw [hhosts]
    exact h.hosts

lemma load_file {ids : ℕ → Id} (h : ∃ root, s.file = some root ∧ root.isObject = true) :
    (s.load ids makeId).file = s.file := by
  obtain ⟨root, hfile, hobject⟩ := h
  have hroot := root_of_file hfile hobject
  simp only [load, reload, hroot, Bool.false_eq_true, if_false]

/-- A reload depends on the file only. -/
lemma load_same {ids : ℕ → Id} (h : ∃ root, s.file = some root ∧ root.isObject = true)
    (hfile : t.file = s.file) :
    (t.load ids makeId).view = (s.load ids makeId).view ∧
      ((s.load ids makeId).Inv → (t.load ids makeId).Inv) := by
  obtain ⟨root, hs, hobject⟩ := h
  have hreads : Reads root ids (s.load ids makeId) := load_reads (root_of_file hs hobject)
  have hreads' : Reads root ids (t.load ids makeId) :=
    load_reads (root_of_file (hfile.trans hs) hobject)
  have hprofiles := hreads'.profiles.trans hreads.profiles.symm
  refine ⟨hreads'.view_eq hreads hprofiles, fun hinv => ?_⟩
  refine hinv.congr hprofiles (hreads'.hostProfile.trans hreads.hostProfile.symm) ?_
  rw [hreads'.activeProfileId, hprofiles, ← hreads.activeProfileId]
  exact hinv.active

lemma Good.withFile (h : s.Good) (ht : t.Inv) (hfile : t.file = s.file) : t.Good := by
  refine ⟨ht, ?_, fun ids makeId => (load_same h.file hfile).2 (h.loads ids makeId)⟩
  rw [hfile]
  exact h.file

lemma inv_reload_save (h : s.Inv) (ids : ℕ → Id) (makeId : MakeId) :
    (s.save.load ids makeId).Inv := by
  have hview := view_reload_save h ids makeId
  have hpairs : (s.save.load ids makeId).profiles.map (fun q => (q.id, q.name)) =
      s.profiles.map fun q => (q.id, profileName q.name) := congrArg (·.1) hview
  have hhosts : ∀ hostKey, (s.save.load ids makeId).hostProfile.lookup hostKey =
      s.hostProfile.lookup hostKey := fun hostKey => congrFun (congrArg (·.2.1) hview) hostKey
  have hids : (s.save.load ids makeId).usedIds = s.usedIds := by
    have hfirst := congrArg (List.map Prod.fst) hpairs
    rwa [List.map_map, List.map_map] at hfirst
  have htexts : ∀ q ∈ (s.save.load ids makeId).profiles, Storable q.id ∧ Storable q.name := by
    intro q hq
    have hmem := List.mem_map_of_mem (f := fun q => (q.id, q.name)) hq
    rw [hpairs] at hmem
    obtain ⟨r, hr, heq⟩ := List.mem_map.mp hmem
    obtain ⟨hid, hname⟩ := Prod.mk.inj heq
    exact ⟨hid ▸ (h.texts r hr).1, hname ▸ storable_profileName (h.texts r hr).2⟩
  have hreads : Reads s.exportJson ids (s.save.load ids makeId) :=
    @load_reads _ _ _ false _ rfl
  refine ⟨?_, ?_, htexts, ?_, ?_⟩
  · rw [hids]
    exact h.unique
  · intro hostKey id hlookup
    rw [hids]
    exact h.bound hostKey id ((hhosts hostKey).symm.trans hlookup)
  · intro hostKey hmem
    have hsome := AList.lookup_isSome.mpr hmem
    rw [hhosts] at hsome
    exact h.hosts hostKey (AList.lookup_isSome.mp hsome)
  · rw [hreads.activeProfileId]
    split_ifs
    · rw [storedActive, active_written h]
      exact h.active
    · exact storable_frontId fun q hq => (htexts q hq).1

lemma Inv.good_save (h : s.Inv) : s.save.Good :=
  ⟨h.congr rfl rfl h.active, ⟨s.exportJson, rfl, rfl⟩, inv_reload_save h⟩

lemma Good.apply (h : s.Good) (c : Call) : (s.apply c).Good := by
  rcases apply_cases h.inv c with ⟨hsame, -⟩ | ⟨t, hsave, ht, -⟩ | ⟨hactive, -, -⟩ |
    ⟨ids, makeId, rfl⟩
  · rwa [hsame]
  · rw [hsave]
    exact ht.good_save
  · rw [hactive]
    refine h.withFile (chooseActive_inv h.inv).1 ?_
    unfold chooseActive
    split_ifs <;> rfl
  · exact h.withFile (h.loads ids makeId) (load_file h.file)

/-! ## What a call leaves for the next reload -/

lemma default_of_missing (h : s.missing = []) :
    ∃ q ∈ s.profiles, q.name = kDefaultActiveProfileName := by
  have hspec : ∃ spec ∈ kDefaultStreamProfiles, spec.name = kDefaultActiveProfileName := by
    decide +kernel
  obtain ⟨spec, hmem, hname⟩ := hspec
  unfold missing missingDefaultProfiles at h
  have hlisted := List.filter_eq_nil_iff.mp h spec hmem
  rw [decide_eq_true_iff, not_not, hname] at hlisted
  exact List.mem_map.mp hlisted

/-- The chosen default is the profile that was shown exactly when it is the first one. -/
lemma view_chooseActive (h : s.Inv) (hmissing : s.missing = []) :
    s.chooseActive.view = s.view ↔ s.activeProfileId ≠ [] ∨
      s.profiles.head?.map (·.name) = some kDefaultActiveProfileName := by
  by_cases hactive : s.activeProfileId = []
  swap
  · refine iff_of_true ?_ (.inl hactive)
    rw [chooseActive, if_neg fun hboth => hactive hboth.1]
  obtain ⟨q, hq, hname⟩ := default_of_missing hmissing
  cases hp : s.profiles with
  | nil => simp [hp] at hq
  | cons first rest =>
    have hsome : (s.profiles.find? (·.name = kDefaultActiveProfileName)).isSome = true := by
      rw [List.find?_isSome]
      exact ⟨q, hq, by simp [hname]⟩
    obtain ⟨found, hfound⟩ := Option.isSome_iff_exists.mp hsome
    have hchosen : s.chooseActive = { s with activeProfileId := found.id } := by
      rw [chooseActive, if_pos ⟨hactive, by simp [hp]⟩, hfound]
      rfl
    have hlisted : found.id ∈ s.usedIds :=
      List.mem_map_of_mem (List.mem_of_find?_eq_some hfound)
    have hshown : s.chooseActive.shownProfileId = found.id := by
      rw [hchosen, shownProfileId_eq]
      exact if_pos hlisted
    have hfront : s.shownProfileId = first.id := by
      have hnone : s.activeProfileId ∉ s.usedIds := fun hmem => ne_nil_of_mem_usedIds hmem hactive
      rw [shownProfileId_eq, if_neg hnone, hp]
      rfl
    have hview : s.chooseActive.view = s.view ↔ found.id = first.id := by
      rw [view, view, hshown, hfront, hchosen]
      simp
    rw [hview]
    simp only [ne_eq, hactive, not_true_eq_false, false_or, List.head?_cons, Option.map_some,
      Option.some.injEq]
    rw [hp] at hfound
    by_cases hdefault : first.name = kDefaultActiveProfileName
    · rw [List.find?_cons_of_pos (by simpa using hdefault)] at hfound
      rw [← Option.some.inj hfound]
      exact iff_of_true rfl hdefault
    · rw [List.find?_cons_of_neg (by simpa using hdefault)] at hfound
      refine iff_of_false ?_ hdefault
      intro hid
      have hunique : (first.id :: rest.map (·.id)).Nodup := by
        simpa only [usedIds, hp, List.map_cons] using h.unique
      apply (List.nodup_cons.mp hunique).1
      rw [← hid]
      exact List.mem_map_of_mem (List.mem_of_find?_eq_some hfound)

lemma named_of_view (h : t.view = s.view) : t.Named ↔ s.Named := by
  have hpairs : t.profiles.map (fun q => (q.id, q.name)) =
      s.profiles.map fun q => (q.id, q.name) := congrArg (·.1) h
  have hnames : t.profiles.map (·.name) = s.profiles.map (·.name) := by
    have hsecond := congrArg (List.map Prod.snd) hpairs
    rwa [List.map_map, List.map_map] at hsecond
  have hall : ∀ u : StreamConfigProfileStore, u.Named ↔ ∀ name ∈ u.profiles.map (·.name),
      name ≠ [] := by
    intro u
    rw [List.forall_mem_map]
    rfl
  rw [hall t, hall s, hnames]

/-- With the same file a reload shows what it did. -/
lemma reloadKeeps_of_file (h : s.Good) (hkeeps : s.ReloadKeeps) (hfile : t.file = s.file) :
    t.ReloadKeeps ↔ t.view = s.view := by
  have hload : ∀ ids makeId, (t.load ids makeId).view = s.view := fun ids makeId =>
    (load_same h.file hfile).1.trans (hkeeps ids makeId)
  constructor
  · intro ht
    have hid := longId_fresh []
    have hsame := ht (fun _ => ⟨longId [], hid.1⟩) fun used => ⟨longId used, longId_fresh used⟩
    exact hsame.symm.trans (hload _ _)
  · intro hview ids makeId
    exact (hload ids makeId).trans hview.symm

/-- The step: the next reload keeps the store exactly when the call is allowed. -/
lemma reloadKeeps_apply (h : s.Good) (hnamed : s.Named) (hkeeps : s.ReloadKeeps) (c : Call) :
    ((s.apply c).ReloadKeeps ↔ s.Allowed c) ∧ (s.Allowed c → (s.apply c).Named) := by
  rcases apply_cases h.inv c with ⟨hsame, hallowed⟩ | ⟨t, hsave, ht, hname⟩ |
    ⟨hactive, hmissing, makeId, rfl⟩ | ⟨ids, makeId, rfl⟩
  · rw [hsame]
    exact ⟨iff_of_true hkeeps hallowed, fun _ => hnamed⟩
  · rw [hsave, reloadKeeps_save ht]
    exact ⟨hname hnamed, (hname hnamed).mpr⟩
  · have hfile : s.chooseActive.file = s.file := by
      unfold chooseActive
      split_ifs <;> rfl
    have hallowed : s.Allowed (.addMissingDefaults makeId) ↔ s.activeProfileId ≠ [] ∨
        s.profiles.head?.map (·.name) = some kDefaultActiveProfileName := by
      simp only [Allowed, hmissing, ne_eq, not_true_eq_false, false_or]
    rw [hactive, reloadKeeps_of_file h hkeeps hfile, view_chooseActive h.inv hmissing, hallowed]
    exact ⟨Iff.rfl, fun _ => (chooseActive_inv h.inv).2 hnamed⟩
  · have hview : (s.load ids makeId).view = s.view := hkeeps ids makeId
    have hreload := reloadKeeps_of_file h hkeeps (@load_file _ makeId ids h.file)
    exact ⟨iff_of_true (hreload.mpr hview) trivial, fun _ => (named_of_view hview).mpr hnamed⟩

/-! ## The first load -/

/-- A profiles file with ids of its own and bindings to them; its active profile may be any. -/
structure WellFormed (root : Value) : Prop where
  nonempty : ∀ item ∈ storedItems root, (profileFromJson item).id ≠ []
  unique : ((storedItems root).map fun item => (profileFromJson item).id).Nodup
  bound : ∀ hostKey id, (readHosts (root.get (ascii "host_profile"))).lookup hostKey = some id →
    id ∈ (storedItems root).map fun item => (profileFromJson item).id

lemma ids_nil : ∀ q ∈ ([] : List StreamConfigProfile), q.id ≠ [] := by
  intro q hq
  cases hq

/-- The store before its first load. -/
def fromFiles (file legacyFile : Option Document) : StreamConfigProfileStore where
  file := file.map (·.1)
  legacyFile := legacyFile.map (·.1)
  ids := ids_nil

lemma readProfiles_wellFormed {root : Value} (h : WellFormed root) (ids : ℕ → Id) :
    readProfiles ids (storedItems root) = (storedItems root).map profileFromJson := by
  apply List.ext_getElem
  · simp [readProfiles]
  · intro n h₁ h₂
    have hn : n < (storedItems root).length := by simpa using h₂
    have hid := h.nonempty _ (List.getElem_mem hn)
    simp [readProfiles, readProfile, hid]

lemma parsed_storedItems {root : Value} (h : Parsed root) :
    ∀ item ∈ storedItems root, Parsed item := by
  intro item hitem
  unfold storedItems at hitem
  cases hget : root.get (ascii "profiles") with
  | none => simp [hget] at hitem
  | some v =>
    have hv := h.get hget
    rw [hget, Option.map_some, Option.getD_some] at hitem
    cases hv with
    | array hitems => exact hitems item hitem
    | _ => simp [Value.items] at hitem

lemma storable_readHosts {hosts : Option Value} (h : ∀ v ∈ hosts, Parsed v) :
    ∀ hostKey ∈ readHosts hosts, Storable hostKey := by
  intro hostKey hmem
  unfold readHosts at hmem
  split at hmem
  · rename_i members
    refine (@AList.mem_foldl _ _ _ hostKey _ _ Prod.fst ?_ _ hmem).elim
      (absurd · (AList.notMem_empty hostKey)) ?_
    · -- only a member that is a text enters the map
      intro hosts m hadded
      split at hadded
      · exact ((AList.mem_insert _).mp hadded).symm
      · exact .inl hadded
    · rintro ⟨m, hm, rfl⟩
      cases h _ rfl with
      | object hkeys _ => exact hkeys m hm
  · cases hmem

/-- What `reload` takes from a well-formed root keeps the invariant, and every item names its
profile. -/
lemma Reads.inv {root : Value} {ids : ℕ → Id} (h : Reads root ids t) (hroot : WellFormed root)
    (hparsed : Parsed root) : t.Inv ∧ t.Named := by
  have hprofiles : t.profiles = (storedItems root).map profileFromJson :=
    h.profiles.trans (readProfiles_wellFormed hroot ids)
  have hids : t.usedIds = (storedItems root).map fun item => (profileFromJson item).id := by
    rw [usedIds, hprofiles, List.map_map]
    rfl
  have hitems : ∀ item ∈ storedItems root, Storable (profileFromJson item).id ∧
      Storable (profileFromJson item).name ∧ (profileFromJson item).name ≠ [] := by
    intro item hitem
    have htexts := profileFromJson_texts (parsed_storedItems hparsed item hitem)
    have hobject : item.isObject = true := by
      by_contra hno
      exact hroot.nonempty item hitem (profileFromJson_id_of_not_object hno)
    exact ⟨htexts.1, htexts.2.1, htexts.2.2.mpr hobject⟩
  have htexts : ∀ q ∈ t.profiles, Storable q.id ∧ Storable q.name := by
    rw [hprofiles, List.forall_mem_map]
    exact fun item hitem => ⟨(hitems item hitem).1, (hitems item hitem).2.1⟩
  refine ⟨⟨?_, ?_, htexts, ?_, ?_⟩, ?_⟩
  · rw [hids]
    exact hroot.unique
  · rw [hids, h.hostProfile]
    exact hroot.bound
  · rw [h.hostProfile]
    exact storable_readHosts fun v hv => hparsed.get hv
  · rw [h.activeProfileId]
    split_ifs
    · exact readText_storable hparsed "active_profile_id"
    · exact storable_frontId fun q hq => (htexts q hq).1
  · rw [Named, hprofiles, List.forall_mem_map]
    exact fun item hitem => (hitems item hitem).2.2

lemma mem_root {root : Value} {migrated : Bool} {file legacyFile : Option Document}
    (h : (fromFiles file legacyFile).root = some (root, migrated)) :
    Parsed root ∧ root.isObject = true ∧
      (migrated = false → (fromFiles file legacyFile).file = some root) := by
  unfold StreamConfigProfileStore.root at h
  split at h
  · rename_i root' hfile
    obtain ⟨hroot, hmigrated⟩ := Prod.mk.inj (Option.some.inj h)
    subst hroot
    obtain ⟨hsome, hobject⟩ := Option.filter_eq_some_iff.mp hfile
    obtain ⟨document, -, rfl⟩ := Option.map_eq_some_iff.mp hsome
    exact ⟨document.2, hobject, fun _ => hsome⟩
  · obtain ⟨root', hlegacy, heq⟩ := Option.map_eq_some_iff.mp h
    obtain ⟨hroot, hmigrated⟩ := Prod.mk.inj heq
    subst hroot hmigrated
    obtain ⟨hsome, hobject⟩ := Option.filter_eq_some_iff.mp hlegacy
    obtain ⟨document, -, rfl⟩ := Option.map_eq_some_iff.mp hsome
    exact ⟨document.2, hobject, fun hfalse => by cases hfalse⟩

lemma inv_empty : Inv {} where
  unique := List.nodup_nil
  bound := by simp
  texts := by simp
  hosts := by simp
  active := storable_nil

lemma load_migrated {root : Value} {ids : ℕ → Id} (h : s.root = some (root, true)) :
    ∃ t : StreamConfigProfileStore, s.load ids makeId = t.save ∧ Reads root ids t := by
  unfold load reload
  rw [h]
  exact ⟨_, rfl, rfl, rfl, rfl⟩

/-- What the first load has to reach. -/
structure Settled (s : StreamConfigProfileStore) : Prop where
  good : s.Good
  named : s.Named
  keeps : s.ReloadKeeps

lemma Inv.settled_save (h : s.Inv) (hnamed : s.Named) : s.save.Settled :=
  ⟨h.good_save, hnamed, (reloadKeeps_save h).mpr hnamed⟩

lemma seeded_val : (seeded makeId).1 = (addMissingDefaults makeId {}).profiles := by
  unfold seeded
  dsimp only

lemma named_empty : Named {} := by simp [Named]

lemma reload_none {ids : ℕ → Id} {defaults : { l : List StreamConfigProfile // ∀ q ∈ l, q.id ≠ [] }}
    (h : s.root = none) (hunique : (defaults.1.map (·.id)).Nodup)
    (htexts : ∀ q ∈ defaults.1, (Storable q.id ∧ Storable q.name) ∧ q.name ≠ []) :
    (s.reload ids defaults).Settled := by
  have hstorable : ∀ q ∈ defaults.1, Storable q.id := fun q hq => (htexts q hq).1.1
  unfold reload
  rw [h]
  refine Inv.settled_save ⟨hunique, by simp, fun q hq => (htexts q hq).1, by simp, ?_⟩
    fun q hq => (htexts q hq).2
  change Storable (((defaults.1.find? (·.name = kDefaultActiveProfileName)).map (·.id)).getD
    (frontId defaults.1))
  cases hfind : defaults.1.find? (·.name = kDefaultActiveProfileName) with
  | none =>
    change Storable (frontId defaults.1)
    rw [frontId]
    cases hhead : defaults.1.head? with
    | none => exact storable_nil
    | some q => exact hstorable q (List.mem_of_head? hhead)
  | some q => exact hstorable q (List.mem_of_find?_eq_some hfind)

lemma addMissingDefaults_profiles : (s.addMissingDefaults makeId).profiles =
    (s.missing.foldl (pushDefault makeId) s).chooseActive.profiles := by
  unfold addMissingDefaults
  dsimp only
  split_ifs <;> rfl

lemma addMissingDefaults_texts (h : s.Inv) (hnamed : s.Named) :
    ((s.addMissingDefaults makeId).profiles.map (·.id)).Nodup ∧
      ∀ q ∈ (s.addMissingDefaults makeId).profiles,
        (Storable q.id ∧ Storable q.name) ∧ q.name ≠ [] := by
  have hadded := @pushDefaults_inv _ makeId s.missing
    (fun spec hspec => mem_missing hspec) h
  have hchosen := chooseActive_inv hadded.1
  have hall := hchosen.2 (hadded.2 hnamed)
  rw [addMissingDefaults_profiles]
  exact ⟨hchosen.1.unique, fun q hq => ⟨hchosen.1.texts q hq, hall q hq⟩⟩

/-- After the first load the invariant holds, every profile has a name, and a reload changes
nothing. -/
lemma load_settled (file legacyFile : Option Document)
    (hroot : ∀ root migrated, (fromFiles file legacyFile).root = some (root, migrated) →
      WellFormed root) (ids : ℕ → Id) (makeId : MakeId) :
    ((fromFiles file legacyFile).load ids makeId).Settled := by
  cases hfound : (fromFiles file legacyFile).root with
  | none =>
    have hseeded := @addMissingDefaults_texts _ makeId inv_empty named_empty
    rw [← seeded_val] at hseeded
    exact reload_none hfound hseeded.1 hseeded.2
  | some found =>
    obtain ⟨root, migrated⟩ := found
    have hwell := hroot root migrated hfound
    obtain ⟨hparsed, hobject, hfile⟩ := mem_root hfound
    cases migrated with
    | true =>
      obtain ⟨t, hload, hreads⟩ := @load_migrated _ makeId _ ids hfound
      have ht := hreads.inv hwell hparsed
      rw [hload]
      exact ht.1.settled_save ht.2
    | false =>
      have hreads : ∀ ids makeId, Reads root ids ((fromFiles file legacyFile).load ids makeId) :=
        fun ids makeId => load_reads hfound
      have hprofiles : ∀ ids makeId, ((fromFiles file legacyFile).load ids makeId).profiles =
          (storedItems root).map profileFromJson := fun ids makeId =>
        (hreads ids makeId).profiles.trans (readProfiles_wellFormed hwell ids)
      have hsame : ∃ root, (fromFiles file legacyFile).file = some root ∧ root.isObject = true :=
        ⟨root, hfile rfl, hobject⟩
      have hinv := (hreads ids makeId).inv hwell hparsed
      have hstays := @load_file _ makeId ids hsame
      refine ⟨⟨hinv.1, ⟨root, hstays.trans (hfile rfl), hobject⟩, ?_⟩, hinv.2, ?_⟩
      · intro ids' makeId'
        exact (load_same hsame hstays).2 ((hreads ids' makeId').inv hwell hparsed).1
      · intro ids' makeId'
        rw [(load_same hsame hstays).1]
        exact (hreads ids' makeId').view_eq (hreads ids makeId)
          ((hprofiles ids' makeId').trans (hprofiles ids makeId).symm)

/-! ## Runs -/

lemma good_run (h : s.Good) (calls : List Call) :
    (calls.foldl StreamConfigProfileStore.apply s).Good := by
  apply Runs.foldl_invariant _ calls h
  intro s c hgood
  exact hgood.apply c

/-- Every state of a run is kept by a reload exactly when every call is allowed. -/
lemma reloadKeeps_run (h : s.Settled) (calls : List Call) :
    (∀ n, ((calls.take n).foldl StreamConfigProfileStore.apply s).ReloadKeeps) ↔
      Runs.allowed StreamConfigProfileStore.apply Allowed s calls = true := by
  apply Runs.forall_take_iff_allowed _ _ h h.keeps
  · intro s c hsettled
    exact (reloadKeeps_apply hsettled.good hsettled.named hsettled.keeps c).1
  · -- an allowed call leaves the store settled
    intro s c hsettled hallowed
    have hstep := reloadKeeps_apply hsettled.good hsettled.named hsettled.keeps c
    exact ⟨hsettled.good.apply c, hstep.2 hallowed, hstep.1.mpr hallowed⟩

/-- In every run from a well-formed file the references hold, and the store is what the next
reload finds exactly while every call is allowed. -/
theorem store_integrity {file legacyFile : Option Document} {ids : ℕ → Id}
    (hroot : ∀ root migrated, (fromFiles file legacyFile).root = some (root, migrated) →
      WellFormed root) (calls : List Call) :
    (calls.foldl StreamConfigProfileStore.apply
        ((fromFiles file legacyFile).load ids makeId)).Sound ∧
      ((∀ n, ((calls.take n).foldl StreamConfigProfileStore.apply
          ((fromFiles file legacyFile).load ids makeId)).ReloadKeeps) ↔
        Runs.allowed StreamConfigProfileStore.apply Allowed
          ((fromFiles file legacyFile).load ids makeId) calls = true) := by
  have hstart := load_settled file legacyFile hroot ids makeId
  exact ⟨(good_run hstart.good calls).inv.sound, reloadKeeps_run hstart calls⟩

def longIds : MakeId := fun used => ⟨longId used, longId_fresh used⟩

def listOf (items : List Value) : Value := .object [(ascii "profiles", .array items)]

lemma parsed_listOf {items : List Value} (h : ∀ v ∈ items, Parsed v) : Parsed (listOf items) := by
  have hkey : Storable (ascii "profiles") := by decide +kernel
  refine .object ?_ ?_ <;> simp only [List.mem_singleton, forall_eq]
  · exact hkey
  · exact .array h

/-- A file without profiles. -/
def emptyList : Document := ⟨listOf [], parsed_listOf (by simp)⟩

/-- A file whose one profile is a number. -/
def numberList : Document := ⟨listOf [.integer 5], parsed_listOf (by simp [Parsed.integer])⟩

theorem wellFormed_emptyList : WellFormed emptyList.1 where
  nonempty := by decide +kernel
  unique := by decide +kernel
  bound := by
    intro hostKey id hlookup
    cases hlookup

def firstStore : StreamConfigProfileStore :=
  (fromFiles (some emptyList) none).load (fun _ => ⟨[97], by simp⟩) longIds

/-- A profile is made, bound to a host and copied, and the first one is removed. -/
def someCalls : List Call :=
  [.create longIds {} ⟨ascii "Mine", by decide +kernel⟩ false,
    .setSelectedForHost ⟨ascii "pc", by decide +kernel⟩ ⟨[97], by decide +kernel⟩,
    .duplicate longIds {} ⟨[97], by decide +kernel⟩ ⟨[], by decide +kernel⟩,
    .remove ⟨[97], by decide +kernel⟩, .importJson longIds (some emptyList) true,
    .reload (fun _ => ⟨[97], by simp⟩) longIds]

lemma root_emptyList {root : Value} {migrated : Bool}
    (h : (fromFiles (some emptyList) none).root = some (root, migrated)) : WellFormed root := by
  have hroot : (fromFiles (some emptyList) none).root = some (emptyList.1, false) := rfl
  rw [hroot] at h
  obtain ⟨rfl, -⟩ := Prod.mk.inj (Option.some.inj h)
  exact wellFormed_emptyList

theorem store_integrity_someCalls :
    (someCalls.foldl StreamConfigProfileStore.apply firstStore).Sound ∧
      ∀ n, ((someCalls.take n).foldl StreamConfigProfileStore.apply firstStore).ReloadKeeps := by
  have hrun := @store_integrity longIds (some emptyList) none (fun _ => ⟨[97], by simp⟩)
    (fun root migrated => root_emptyList) someCalls
  exact ⟨hrun.1, hrun.2.mpr (by decide +kernel)⟩

/-- An imported number becomes a profile without a name, which the next reload calls
"Profile". -/
theorem imported_number_is_renamed : WellFormed emptyList.1 ∧
    ¬(firstStore.apply (.importJson longIds (some numberList) false)).ReloadKeeps := by
  refine ⟨wellFormed_emptyList, fun hkeeps => ?_⟩
  have hview := congrArg (·.1) (hkeeps (fun _ => ⟨[97], by simp⟩) longIds)
  revert hview
  decide +kernel

end StreamConfigProfileStore
end ArtemisSwitch.StreamProfile

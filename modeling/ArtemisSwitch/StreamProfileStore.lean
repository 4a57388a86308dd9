import ArtemisSwitch.StreamProfile
import Mathlib.Data.List.AList

/-!
# StreamConfigProfileStore

The stored profiles and their file, once they are loaded.  Every stored profile has an id,
since one is made for each that comes without.
-/

namespace ArtemisSwitch.StreamProfile
open Jansson

/-- What `makeId` can return. -/
abbrev Id := { id : Bytes // id ≠ [] }

structure StreamConfigProfileStore where
  profiles : List StreamConfigProfile := []
  hostProfile : AList fun _ : Bytes => Bytes := ∅
  activeProfileId : Bytes := []
  /-- `profile.json`. -/
  file : Option Value := none
  /-- `artemis_profiles.json`. -/
  legacyFile : Option Value := none
  ids : ∀ q ∈ profiles, q.id ≠ [] := by simp

namespace StreamConfigProfileStore

def SchemaVersion : Int32 := 14

def kDefaultActiveProfileName : Bytes := ascii "720p 60 10M"

def get (s : StreamConfigProfileStore) (id : Bytes) : Option StreamConfigProfile :=
  if id = [] then none else s.profiles.find? (·.id = id)

def exportFields (s : StreamConfigProfileStore) : List (Bytes × Option Value) :=
  [(ascii "schema_version", jsonInteger SchemaVersion),
    (ascii "profiles", some (.array (s.profiles.map profileToJson))),
    (ascii "host_profile",
      some (makeObject (s.hostProfile.entries.map fun e => (e.1, jsonString e.2)))),
    (ascii "active_profile_id",
      if s.activeProfileId = [] then none else jsonString s.activeProfileId)]

def exportJson (s : StreamConfigProfileStore) : Value := makeObject s.exportFields

def save (s : StreamConfigProfileStore) : StreamConfigProfileStore :=
  { s with file := some s.exportJson }

/-- `existing = normalizeProfile(profile)` on the first profile with the id. -/
def replace (profile : StreamConfigProfile) : List StreamConfigProfile → List StreamConfigProfile
  | [] => []
  | existing :: profiles =>
    if existing.id = profile.id then { normalizeProfile profile with id := profile.id } :: profiles
    else existing :: replace profile profiles

lemma replace_ids (profile : StreamConfigProfile) (profiles : List StreamConfigProfile) :
    (replace profile profiles).map (·.id) = profiles.map (·.id) := by
  induction profiles with
  | nil => rfl
  | cons existing profiles ih =>
    unfold replace
    split_ifs with hid
    · simp [hid]
    · simp [ih]

lemma ids_of_map {l l' : List StreamConfigProfile} (h : l.map (·.id) = l'.map (·.id))
    (hl : ∀ q ∈ l', q.id ≠ []) : ∀ q ∈ l, q.id ≠ [] := by
  intro q hq hempty
  have hmem : q.id ∈ l'.map (·.id) := h ▸ List.mem_map_of_mem hq
  obtain ⟨r, hr, hid⟩ := List.mem_map.mp hmem
  exact hl r hr (hid.trans hempty)

def update (profile : StreamConfigProfile) (s : StreamConfigProfileStore) :
    Bool × StreamConfigProfileStore :=
  if profile.id = [] then (false, s)
  else if s.profiles.any (·.id = profile.id) then
    (true, save { s with
      profiles := replace profile s.profiles
      ids := ids_of_map (replace_ids profile s.profiles) s.ids })
  else (false, s)

/-- A profile of the file, with an id in any case. -/
def readProfile (makeId : Id) (item : Value) : StreamConfigProfile :=
  let profile := profileFromJson item
  if profile.id = [] then { profile with id := makeId.1 } else profile

lemma readProfile_id (makeId : Id) (item : Value) : (readProfile makeId item).id ≠ [] := by
  dsimp only [readProfile]
  split_ifs with hid
  · exact makeId.2
  · exact hid

/-- The `n`-th profile would get the `n`-th of the ids. -/
def readProfiles (makeId : ℕ → Id) (items : List Value) : List StreamConfigProfile :=
  items.mapIdx fun n item => readProfile (makeId n) item

lemma readProfiles_ids (makeId : ℕ → Id) (items : List Value) :
    ∀ q ∈ readProfiles makeId items, q.id ≠ [] := by
  intro q hq
  obtain ⟨n, -, rfl⟩ := List.mem_mapIdx.mp hq
  exact readProfile_id _ _

def readHosts : Option Value → AList fun _ : Bytes => Bytes
  | some (.object members) =>
    members.foldl (fun hosts member =>
      match member.2 with
      | .string value => hosts.insert member.1 value
      | _ => hosts) ∅
  | _ => ∅

/-- The profile that becomes active without a choice. -/
def frontId (profiles : List StreamConfigProfile) : Bytes := (profiles.head?.map (·.id)).getD []

/-- The file, or the one of an earlier version; the flag says that it was the latter. -/
def root (s : StreamConfigProfileStore) : Option (Value × Bool) :=
  match s.file.filter Value.isObject with
  | some root => some (root, false)
  | none => (s.legacyFile.filter Value.isObject).map (·, true)

/-- What `addMissingDefaults` makes of the built-in profiles is given. -/
def reload (makeId : ℕ → Id) (defaults : { l : List StreamConfigProfile // ∀ q ∈ l, q.id ≠ [] })
    (s : StreamConfigProfileStore) : StreamConfigProfileStore :=
  match s.root with
  | none =>
    let named := defaults.1.find? (·.name = kDefaultActiveProfileName)
    save { s with
      profiles := defaults.1
      hostProfile := ∅
      activeProfileId := (named.map (·.id)).getD (frontId defaults.1)
      ids := defaults.2 }
  | some (root, migratedFromLegacy) =>
    let items := ((root.get (ascii "profiles")).map Value.items).getD []
    let profiles := readProfiles makeId items
    let active := (root.read Value.text "active_profile_id").getD []
    let loaded : StreamConfigProfileStore := { s with
      profiles := profiles
      hostProfile := readHosts (root.get (ascii "host_profile"))
      activeProfileId :=
        if active ≠ [] ∧ profiles.any (·.id = active) then active else frontId profiles
      ids := readProfiles_ids makeId items }
    if migratedFromLegacy then loaded.save else loaded

/-! ## What is stored is read back -/

variable {p : StreamConfigProfile} {s : StreamConfigProfileStore} {makeId : ℕ → Id}
  {defaults : { l : List StreamConfigProfile // ∀ q ∈ l, q.id ≠ [] }}

lemma profileFromJson_id (h : Jansson.Storable p.id) :
    (profileFromJson (profileToJson p)).id = p.id := by
  have hobject : (profileToJson p).isObject = true := rfl
  have hid : ∀ q : StreamConfigProfile, (normalizeProfile q).id = q.id := fun _ => rfl
  rw [profileFromJson, if_pos hobject, hid, readFields_id, readText_written p 0 h rfl]

/-- The stored profiles are read one by one, and none gets another id. -/
lemma readProfiles_written {profiles : List StreamConfigProfile}
    (hids : ∀ q ∈ profiles, q.id ≠ []) (hs : ∀ q ∈ profiles, Jansson.Storable q.id) :
    readProfiles makeId (profiles.map profileToJson) =
      profiles.map fun q => profileFromJson (profileToJson q) := by
  apply List.ext_getElem
  · simp [readProfiles]
  · intro n h₁ h₂
    have hn : n < profiles.length := by simpa using h₂
    have hmem : profiles[n] ∈ profiles := List.getElem_mem hn
    have hid : (profileFromJson (profileToJson profiles[n])).id ≠ [] := by
      rw [profileFromJson_id (hs _ hmem)]
      exact hids _ hmem
    simp [readProfiles, readProfile, hid]

/-- The members of the exported file. -/
def exportKeys : List Bytes :=
  [ascii "schema_version", ascii "profiles", ascii "host_profile", ascii "active_profile_id"]

lemma exportKeys_ok : keysOk exportKeys = true := by decide +kernel

lemma reload_save (hs : ∀ q ∈ s.profiles, Jansson.Storable q.id) :
    (s.save.reload makeId defaults).profiles =
      s.profiles.map fun q => profileFromJson (profileToJson q) := by
  have hroot : s.save.root = some (s.exportJson, false) := rfl
  have hitems : s.exportJson.get (ascii "profiles") =
      some (.array (s.profiles.map profileToJson)) :=
    get_makeObject_at 1 exportKeys_ok rfl rfl
  simp only [reload, hroot, hitems, Option.map_some, Option.getD_some, Value.items,
    Bool.false_eq_true, if_false]
  exact readProfiles_written s.ids hs

/-- A profile is found in the read list where it was in the stored one. -/
lemma get_reload_save (hs : ∀ q ∈ s.profiles, Jansson.Storable q.id) (id : Bytes) :
    (s.save.reload makeId defaults).get id =
      (s.save.get id).map fun q => profileFromJson (profileToJson q) := by
  have hfind : ∀ profiles : List StreamConfigProfile, (∀ q ∈ profiles, Jansson.Storable q.id) →
      (profiles.map fun q => profileFromJson (profileToJson q)).find? (·.id = id) =
        (profiles.find? (·.id = id)).map fun q => profileFromJson (profileToJson q) := by
    intro profiles
    induction profiles with
    | nil => exact fun _ => rfl
    | cons q profiles ih =>
      intro hs
      have hid := profileFromJson_id (hs q (by simp))
      have hrest := ih fun r hr => hs r (List.mem_cons_of_mem _ hr)
      by_cases hq : q.id = id
      · simp [hid, hq]
      · simpa [hid, hq] using hrest
  have hsaved : s.save.profiles = s.profiles := rfl
  unfold get
  split_ifs with hempty
  · rfl
  · rw [reload_save hs, hsaved]
    exact hfind s.profiles hs

lemma find_replace {profiles : List StreamConfigProfile}
    (h : profiles.any (·.id = p.id) = true) :
    (replace p profiles).find? (·.id = p.id) = some (normalizeProfile p) := by
  induction profiles with
  | nil => simp at h
  | cons existing profiles ih =>
    unfold replace
    split_ifs with hid
    · rw [List.find?_cons_of_pos (by simp)]
      rfl
    · rw [List.find?_cons_of_neg (by simpa using hid)]
      apply ih
      simpa [hid] using h

lemma normalizeProfile_storable (hs : p.Storable) : (normalizeProfile p).Storable := by
  refine ⟨hs.id, ?_, hs.mappingLayoutTitle, hs.audioBackend⟩
  dsimp only [normalizeProfile]
  split_ifs
  · decide +kernel
  · exact hs.name

lemma get_update (hupdate : (s.update p).1 = true) :
    (s.update p).2.get p.id = some (normalizeProfile p) := by
  unfold update at hupdate ⊢
  split_ifs at hupdate ⊢ with hempty hknown
  rw [get, if_neg hempty]
  exact find_replace hknown

lemma get_reload_update (hupdate : (s.update p).1 = true)
    (hstored : ∀ q ∈ s.profiles, Jansson.Storable q.id) :
    ((s.update p).2.reload makeId defaults).get p.id =
      some (profileFromJson (profileToJson (normalizeProfile p))) := by
  have hget := get_update hupdate
  unfold update at hupdate hget ⊢
  split_ifs at hupdate hget ⊢ with hempty hknown
  have hreplaced : ∀ q ∈ replace p s.profiles, Jansson.Storable q.id := by
    intro q hq
    have hmem : q.id ∈ s.profiles.map (·.id) :=
      replace_ids p s.profiles ▸ List.mem_map_of_mem hq
    obtain ⟨r, hr, hid⟩ := List.mem_map.mp hmem
    exact hid ▸ hstored r hr
  rw [get_reload_save hreplaced, hget, Option.map_some]

/-- A profile that `update` has stored is the one that `reload` reads exactly when both fields
are in range. -/
theorem update_reload_iff (hs : p.Storable) (hupdate : (s.update p).1 = true)
    (hstored : ∀ q ∈ s.profiles, Jansson.Storable q.id) :
    ((s.update p).2.reload makeId defaults).get p.id = (s.update p).2.get p.id ↔ p.InRange := by
  have hread := reads_normalized_iff (normalizeProfile_storable hs)
  rw [normalizeProfile_twice] at hread
  rw [get_update hupdate, get_reload_update hupdate hstored, Option.some.injEq]
  exact hread

end StreamConfigProfileStore

open StreamConfigProfileStore

/-- A profile comes back from its JSON, and from the file of the store, exactly when its queue
depth and volume are in range. -/
theorem stored_profile_comes_back {p : StreamConfigProfile} (hs : p.Storable) :
    (profileFromJson (profileToJson p) = normalizeProfile p ↔ p.InRange) ∧
      normalizeProfile (normalizeProfile p) = normalizeProfile p ∧
      ∀ (s : StreamConfigProfileStore) makeId defaults, (s.update p).1 = true →
        (∀ q ∈ s.profiles, Jansson.Storable q.id) →
          (((s.update p).2.reload makeId defaults).get p.id = (s.update p).2.get p.id ↔
            p.InRange) := by
  refine ⟨reads_normalized_iff hs, normalizeProfile_twice p, ?_⟩
  intro s makeId defaults hupdate hstored
  exact update_reload_iff hs hupdate hstored

/-- A profile as the editor makes it. -/
def mine : StreamConfigProfile where
  id := ascii "p-1-00000001"
  name := ascii "Mine"
  framesQueueSize := 5
  mouseSpeedMultiplier := 150

theorem mine_storable : mine.Storable :=
  ⟨by decide +kernel, by decide +kernel, by decide +kernel, by decide +kernel⟩

theorem stored_profile_comes_back_mine :
    (profileFromJson (profileToJson mine) = normalizeProfile mine ↔ mine.InRange) ∧
      normalizeProfile (normalizeProfile mine) = normalizeProfile mine ∧
      ∀ (s : StreamConfigProfileStore) makeId defaults, (s.update mine).1 = true →
        (∀ q ∈ s.profiles, Jansson.Storable q.id) →
          (((s.update mine).2.reload makeId defaults).get mine.id = (s.update mine).2.get mine.id ↔
            mine.InRange) :=
  stored_profile_comes_back mine_storable

/-- A deeper queue than the reader allows. -/
def deepQueue : StreamConfigProfile := { mine with framesQueueSize := 9 }

def deepQueueStore : StreamConfigProfileStore where
  profiles := [mine]
  ids := by decide +kernel

/-- `update` keeps nine frames, `reload` reads five. -/
theorem deep_queue_is_cut : deepQueue.Storable ∧
    profileFromJson (profileToJson deepQueue) ≠ normalizeProfile deepQueue ∧
    ((deepQueueStore.update deepQueue).2.get deepQueue.id).map (·.framesQueueSize) = some 9 ∧
    ∀ makeId defaults, (((deepQueueStore.update deepQueue).2.reload makeId defaults).get
      deepQueue.id).map (·.framesQueueSize) = some 5 := by
  have hs : deepQueue.Storable := ⟨mine_storable.id, mine_storable.name,
    mine_storable.mappingLayoutTitle, mine_storable.audioBackend⟩
  have hupdate : (deepQueueStore.update deepQueue).1 = true := by decide +kernel
  have hstored : ∀ q ∈ deepQueueStore.profiles, Jansson.Storable q.id := by decide +kernel
  refine ⟨hs, ?_, ?_, ?_⟩
  · rw [Ne, reads_normalized_iff hs]
    decide
  · rw [get_update hupdate]
    rfl
  · intro makeId defaults
    rw [get_reload_update hupdate hstored,
      profileFromJson_profileToJson (normalizeProfile_storable hs)]
    rfl

end ArtemisSwitch.StreamProfile

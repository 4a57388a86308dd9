import ArtemisSwitch.StreamProfileStore

/-!
# Calls on the profile store

The public functions of `StreamConfigProfileStore` that change the profiles, the host bindings
or the active profile.  The other fields of a profile are what the settings hold at that time.
-/

namespace ArtemisSwitch.StreamProfile
open Jansson

/-- A text that the file can hold. -/
abbrev Text := { s : Bytes // Storable s }

/-- What `makeId` returns beside the ids in use. -/
abbrev FreshId (used : List Bytes) := { id : Bytes // id ≠ [] ∧ Storable id ∧ id ∉ used }

abbrev MakeId := ∀ used, FreshId used

/-- What the parser makes of a file: every text in it is UTF-8 without NUL. -/
inductive Parsed : Value → Prop
  | null : Parsed .null
  | boolean (value : Bool) : Parsed (.boolean value)
  | integer (value : Int64) : Parsed (.integer value)
  | real (value : ℚ) : Parsed (.real value)
  | string {value : Bytes} (h : Storable value) : Parsed (.string value)
  | array {items : List Value} (h : ∀ v ∈ items, Parsed v) : Parsed (.array items)
  | object {members : List (Bytes × Value)} (hkeys : ∀ m ∈ members, Storable m.1)
      (hvalues : ∀ m ∈ members, Parsed m.2) : Parsed (.object members)

abbrev Document := { root : Value // Parsed root }

lemma Parsed.get {v w : Value} {key : Bytes} (h : Parsed v) (hget : v.get key = some w) :
    Parsed w := by
  cases h with
  | object _ hvalues =>
    obtain ⟨before, after, rfl, -⟩ := List.lookup_eq_some_iff.mp hget
    exact hvalues (key, w) (by simp)
  | _ => simp [Value.get] at hget

/-! ## The built-in profiles -/

structure DefaultStreamProfileSpec where
  name : Bytes
  height : Int32
  fps : Int32
  bitrateKbps : Int32
  lowLatencyPacing : Bool := false
  framesQueueSize : Int32 := 3

def kDefaultStreamProfiles : List DefaultStreamProfileSpec :=
  [{ name := ascii "360p 30 0.5M", height := 360, fps := 30, bitrateKbps := 500 },
    { name := ascii "360p 30 1M", height := 360, fps := 30, bitrateKbps := 1000 },
    { name := ascii "480p 30 5M", height := 480, fps := 30, bitrateKbps := 5000 },
    { name := ascii "480p 60 10M", height := 480, fps := 60, bitrateKbps := 10000 },
    { name := ascii "540p 30 5M", height := 540, fps := 30, bitrateKbps := 5000 },
    { name := ascii "540p 60 10M", height := 540, fps := 60, bitrateKbps := 10000 },
    { name := ascii "720p 30 10M", height := 720, fps := 30, bitrateKbps := 10000 },
    { name := ascii "720p 60 10M", height := 720, fps := 60, bitrateKbps := 10000 },
    { name := ascii "720p 60 20M", height := 720, fps := 60, bitrateKbps := 20000 },
    { name := ascii "720p 60 Low Latency", height := 720, fps := 60, bitrateKbps := 10000,
      lowLatencyPacing := true, framesQueueSize := 2 },
    { name := ascii "1080p 30 20M", height := 1080, fps := 30, bitrateKbps := 20000 },
    { name := ascii "1080p 60 20M", height := 1080, fps := 60, bitrateKbps := 20000 },
    { name := ascii "1080p 60 50M", height := 1080, fps := 60, bitrateKbps := 50000 },
    { name := ascii "1080p 60 100M", height := 1080, fps := 60, bitrateKbps := 100000 },
    { name := ascii "1440p 30 20M", height := 1440, fps := 30, bitrateKbps := 20000 },
    { name := ascii "1440p 30 50M", height := 1440, fps := 30, bitrateKbps := 50000 },
    { name := ascii "1440p 60 50M", height := 1440, fps := 60, bitrateKbps := 50000 },
    { name := ascii "1440p 60 100M", height := 1440, fps := 60, bitrateKbps := 100000 }]

def missingDefaultProfiles (existingNames : List Bytes) : List DefaultStreamProfileSpec :=
  kDefaultStreamProfiles.filter fun spec => spec.name ∉ existingNames

def defaultProfile (id : Bytes) (spec : DefaultStreamProfileSpec) : StreamConfigProfile where
  id := id
  name := spec.name
  resolutionHeight := spec.height
  aspectRatio := .ratio16x9
  fps := spec.fps
  bitrateKbps := spec.bitrateKbps
  lowLatencyPacing := spec.lowLatencyPacing
  framesQueueSize := spec.framesQueueSize
  videoCodec := .h264
  scaleMode := .fill

namespace StreamConfigProfileStore

def usedIds (s : StreamConfigProfileStore) : List Bytes := s.profiles.map (·.id)

/-- `m_profiles.push_back`. -/
def push (s : StreamConfigProfileStore) (profile : StreamConfigProfile) (h : profile.id ≠ []) :
    StreamConfigProfileStore :=
  { s with
    profiles := s.profiles ++ [profile]
    ids := by
      intro q hq
      rcases List.mem_append.mp hq with hold | hnew
      · exact s.ids q hold
      · rwa [List.mem_singleton.mp hnew] }

/-- `activeProfileId()`, which falls back to the first profile. -/
def shownProfileId (s : StreamConfigProfileStore) : Bytes :=
  if s.activeProfileId ≠ [] ∧ (s.get s.activeProfileId).isSome then s.activeProfileId
  else frontId s.profiles

/-! ## addMissingDefaults -/

def pushDefault (makeId : MakeId) (s : StreamConfigProfileStore) (spec : DefaultStreamProfileSpec) :
    StreamConfigProfileStore :=
  s.push (defaultProfile (makeId s.usedIds) spec) (makeId s.usedIds).2.1

/-- The profile that becomes active when none is. -/
def chooseActive (s : StreamConfigProfileStore) : StreamConfigProfileStore :=
  if s.activeProfileId = [] ∧ s.profiles ≠ [] then
    { s with
      activeProfileId :=
        ((s.profiles.find? (·.name = kDefaultActiveProfileName)).map (·.id)).getD
          (frontId s.profiles) }
  else s

def missing (s : StreamConfigProfileStore) : List DefaultStreamProfileSpec :=
  missingDefaultProfiles (s.profiles.map (·.name))

/-- Nothing is saved when no profile was added. -/
def addMissingDefaults (makeId : MakeId) (s : StreamConfigProfileStore) :
    StreamConfigProfileStore :=
  let added := (s.missing.foldl (pushDefault makeId) s).chooseActive
  if s.missing = [] then added else added.save

/-! ## create, rename, remove, duplicate -/

def profileName (name : Bytes) : Bytes := if name = [] then ascii "Profile" else name

/-- What `snapshotFromSettings` copies of the settings is given. -/
def snapshotFromSettings (settings : StreamConfigProfile) (id name : Bytes) :
    StreamConfigProfile :=
  normalizeProfile { settings with id := id, name := profileName name }

def newProfile (settings : StreamConfigProfile) (fromCurrentSettings : Bool) (id name : Bytes) :
    StreamConfigProfile :=
  if fromCurrentSettings then
    let profile := snapshotFromSettings settings id name
    { profile with name := if name = [] then profile.name else name }
  else { id := id, name := profileName name, resolutionHeight := 720 }

lemma newProfile_id (settings : StreamConfigProfile) (fromCurrentSettings : Bool)
    (id name : Bytes) :
    (normalizeProfile (newProfile settings fromCurrentSettings id name)).id = id := by
  cases fromCurrentSettings <;> rfl

def create (makeId : MakeId) (settings : StreamConfigProfile) (name : Bytes)
    (fromCurrentSettings : Bool) (s : StreamConfigProfileStore) : StreamConfigProfileStore :=
  let id := makeId s.usedIds
  let profile := normalizeProfile (newProfile settings fromCurrentSettings id name)
  let pushed := s.push profile (by
    rw [newProfile_id]
    exact id.2.1)
  save { pushed with
    activeProfileId := if s.activeProfileId = [] then profile.id else s.activeProfileId }

/-- The first profile with the id gets the name. -/
def renameFirst (id name : Bytes) : List StreamConfigProfile → List StreamConfigProfile
  | [] => []
  | profile :: profiles =>
    if profile.id = id then { profile with name := name } :: profiles
    else profile :: renameFirst id name profiles

lemma renameFirst_ids (id name : Bytes) (profiles : List StreamConfigProfile) :
    (renameFirst id name profiles).map (·.id) = profiles.map (·.id) := by
  induction profiles with
  | nil => rfl
  | cons profile profiles ih =>
    unfold renameFirst
    split_ifs <;> simp [ih]

def rename (id name : Bytes) (s : StreamConfigProfileStore) : StreamConfigProfileStore :=
  if name = [] then s
  else if s.profiles.any (·.id = id) then
    save { s with
      profiles := renameFirst id name s.profiles
      ids := ids_of_map (renameFirst_ids id name s.profiles) s.ids }
  else s

def remove (id : Bytes) (s : StreamConfigProfileStore) : StreamConfigProfileStore :=
  if s.profiles.any (·.id = id) then
    let kept := s.profiles.filter (·.id ≠ id)
    save { s with
      profiles := kept
      hostProfile := ⟨s.hostProfile.entries.filter (·.2 ≠ id),
        s.hostProfile.nodupKeys.sublist List.filter_sublist⟩
      activeProfileId := if s.activeProfileId = id then frontId kept else s.activeProfileId
      ids := fun q hq => s.ids q (List.mem_of_mem_filter hq) }
  else s

def duplicate (makeId : MakeId) (settings : StreamConfigProfile) (id newName : Bytes)
    (s : StreamConfigProfileStore) : StreamConfigProfileStore :=
  match s.get id with
  | none => s.create makeId settings (if newName = [] then ascii "Profile" else newName) true
  | some existing =>
    let fresh := makeId s.usedIds
    let copy : StreamConfigProfile :=
      { existing with
        id := fresh
        name := if newName = [] then existing.name ++ ascii " copy" else newName }
    save (s.push copy fresh.2.1)

/-! ## Host bindings and the active profile -/

def setSelectedForHost (hostKey profileId : Bytes) (s : StreamConfigProfileStore) :
    StreamConfigProfileStore :=
  if hostKey = [] then s
  else if profileId = [] ∨ (s.get profileId).isNone then
    save { s with hostProfile := s.hostProfile.erase hostKey }
  else save { s with hostProfile := s.hostProfile.insert hostKey profileId }

def setActiveProfileId (profileId : Bytes) (s : StreamConfigProfileStore) :
    StreamConfigProfileStore :=
  if profileId = [] ∨ (s.get profileId).isNone then s
  else save { s with activeProfileId := profileId }

/-! ## importJson -/

def importItem (makeId : MakeId) (renameOnConflict : Bool) (s : StreamConfigProfileStore)
    (item : Value) : StreamConfigProfileStore :=
  let fresh := makeId s.usedIds
  let profile := readProfile ⟨fresh, fresh.2.1⟩ item
  if (s.get profile.id).isSome then
    if renameOnConflict then
      s.push { profile with id := fresh, name := profile.name ++ ascii " (import)" } fresh.2.1
    else s
  else s.push profile (readProfile_id _ item)

/-- A binding is taken over when its profile is listed. -/
def importHost (s : StreamConfigProfileStore) (member : Bytes × Value) :
    StreamConfigProfileStore :=
  match member.2 with
  | .string profileId =>
    if (s.get profileId).isSome then
      { s with hostProfile := s.hostProfile.insert member.1 profileId }
    else s
  | _ => s

def importHosts (hosts : Option Value) (s : StreamConfigProfileStore) :
    StreamConfigProfileStore :=
  match hosts with
  | some (.object members) => members.foldl importHost s
  | _ => s

def importActive (active : Option Value) (s : StreamConfigProfileStore) :
    StreamConfigProfileStore :=
  match active with
  | some (.string activeId) =>
    if (s.get activeId).isSome then { s with activeProfileId := activeId } else s
  | _ => s

/-- The profiles of a file that is imported; without them it is refused. -/
def importItems (file : Option Document) : Option (List Value) :=
  match file with
  | some ⟨.object members, _⟩ =>
    match (Value.object members).get (ascii "profiles") with
    | some (.array items) => some items
    | _ => none
  | _ => none

def importJson (makeId : MakeId) (file : Option Document) (renameOnConflict : Bool)
    (s : StreamConfigProfileStore) : StreamConfigProfileStore :=
  match file, importItems file with
  | some root, some items =>
    let s := items.foldl (importItem makeId renameOnConflict) s
    let s := s.importHosts (root.1.get (ascii "host_profile"))
    (s.importActive (root.1.get (ascii "active_profile_id"))).save
  | _, _ => s

/-- The profiles that `seedDefaultsIfEmpty` makes. -/
def seeded (makeId : MakeId) : { l : List StreamConfigProfile // ∀ q ∈ l, q.id ≠ [] } :=
  ⟨(addMissingDefaults makeId {}).profiles, (addMissingDefaults makeId {}).ids⟩

/-- `reload` with the profiles that it seeds. -/
def load (ids : ℕ → Id) (makeId : MakeId) (s : StreamConfigProfileStore) :
    StreamConfigProfileStore :=
  s.reload ids (seeded makeId)

end StreamConfigProfileStore
end ArtemisSwitch.StreamProfile

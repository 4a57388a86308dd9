import ArtemisSwitch.StreamProfileIntegrity

/-!
# Imported profiles

`importJson` adds the profiles of a file to the store.  A profile whose id is taken is stored as a
copy with a new id, while the bindings of the file still carry the old one.
-/

namespace ArtemisSwitch.StreamProfile
open Jansson

namespace StreamConfigProfileStore

/-- The id of a profile in the file. -/
def fileId (item : Value) : Bytes := (profileFromJson item).id

/-- The id that the file binds a host to. -/
def boundId (root : Value) (hostKey : Bytes) : Option Bytes :=
  ((root.get (ascii "host_profile")).bind (Value.get hostKey)).bind Value.text

def activeId (root : Value) : Option Bytes :=
  (root.get (ascii "active_profile_id")).bind Value.text

/-- A file with profiles that have ids of their own.  The parser keeps one member for a key. -/
structure ProfilesFile (root : Value) (items : List Value) : Prop where
  listed : root.get (ascii "profiles") = some (.array items)
  ids : ∀ item ∈ items, fileId item ≠ []
  unique : (items.map fileId).Nodup
  hosts : ∀ members, root.get (ascii "host_profile") = some (.object members) →
    (members.map Prod.fst).Nodup

/-- An id that the file has somewhere. -/
def Mentioned (root : Value) (items : List Value) (id : Bytes) : Prop :=
  id ∈ items.map fileId ∨ (∃ hostKey, boundId root hostKey = some id) ∨ activeId root = some id

/-- A copy has the settings of its profile. -/
def IsCopy (item : Value) (copy : StreamConfigProfile) : Prop :=
  { copy with id := fileId item, name := (profileFromJson item).name } = profileFromJson item

/-- The profiles that were added. -/
def copies (s after : StreamConfigProfileStore) : List StreamConfigProfile :=
  after.profiles.drop s.profiles.length

/-- What the file calls by an id of one of its profiles is the copy of that profile, and what it
calls by another id is as it was before. -/
structure Follows (items : List Value) (s after : StreamConfigProfileStore) (id : Bytes)
    (before now : Option Bytes) : Prop where
  copy : ∀ (n : ℕ) item, items[n]? = some item → fileId item = id →
    now.bind after.get = (copies s after)[n]?
  other : id ∉ items.map fileId → now = before

/-- Each profile is added as a copy, and the bindings follow the copies. -/
structure BindsCopies (root : Value) (items : List Value) (s after : StreamConfigProfileStore) :
    Prop where
  kept : s.profiles <+: after.profiles
  copied : List.Forall₂ IsCopy items (copies s after)
  hosts : ∀ hostKey id, boundId root hostKey = some id →
    Follows items s after id (s.hostProfile.lookup hostKey) (after.hostProfile.lookup hostKey)
  active : ∀ id, activeId root = some id →
    Follows items s after id (some s.activeProfileId) (some after.activeProfileId)

/-- The profiles that were there are kept, and a binding that is taken names the id of the file. -/
structure KeepsProfiles (root : Value) (items : List Value) (s after : StreamConfigProfileStore) :
    Prop where
  kept : s.profiles <+: after.profiles
  listed : ∀ item ∈ items, fileId item ∈ after.usedIds
  hosts : ∀ hostKey id, boundId root hostKey = some id → id ∈ after.usedIds →
    ((after.hostProfile.lookup hostKey).bind after.get).map (·.id) = some id
  active : ∀ id, activeId root = some id → id ∈ after.usedIds → after.activeProfileId = id

/-- No profile of the file that is bound has the id of another one in the store. -/
structure Clear (root : Value) (items : List Value) (s : StreamConfigProfileStore) : Prop where
  hosts : ∀ hostKey id, boundId root hostKey = some id → id ∈ s.usedIds →
    id ∉ items.map fileId ∧ s.hostProfile.lookup hostKey = some id
  active : ∀ id, activeId root = some id → id ∈ s.usedIds →
    id ∉ items.map fileId ∧ s.activeProfileId = id

variable {s t after : StreamConfigProfileStore} {makeId : MakeId} {root : Value}
  {items : List Value} {item : Value} {id hostKey : Bytes} {renameOnConflict : Bool}

/-! ## The profiles -/

lemma readProfile_of_id {item : Value} (h : fileId item ≠ []) (fresh : Id) :
    readProfile fresh item = profileFromJson item := by
  rw [fileId] at h
  simp only [readProfile, if_neg h]

/-- What an item is stored as. -/
structure Stored (used : List Bytes) (known : Bytes → Prop) (item : Value)
    (copy : StreamConfigProfile) : Prop where
  settings : IsCopy item copy
  named : fileId item ∉ used → copy.id = fileId item
  renamed : fileId item ∈ used → ¬known copy.id

/-- An id of the file is that of a copy where the profile itself has it. -/
lemma fileId_of_copy {known : Bytes → Prop} {used : List Bytes} {stored : List StreamConfigProfile}
    (h : List.Forall₂ (Stored used known) items stored) (hknown : known id)
    (hid : id ∈ stored.map (·.id)) : id ∈ items.map fileId ∧ id ∉ used := by
  induction h with
  | nil => cases hid
  | @cons item copy items stored hfirst _ ih =>
    rcases List.mem_cons.mp hid with hsame | hrest
    · subst hsame
      have hfree : fileId item ∉ used := fun hused => hfirst.renamed hused hknown
      dsimp only
      rw [hfirst.named hfree]
      exact ⟨List.mem_cons_self, hfree⟩
    · exact ⟨List.mem_cons_of_mem _ (ih hrest).1, (ih hrest).2⟩

/-- The step: an item whose id is in use is renamed, and any other keeps its id. -/
lemma importItem_stored {known : Bytes → Prop} (hfresh : ∀ used, ¬known (makeId used).1)
    {item : Value} (hid : fileId item ≠ []) (s : StreamConfigProfileStore) :
    ∃ copy, (s.importItem makeId true item).profiles = s.profiles ++ [copy] ∧
      Stored s.usedIds known item copy := by
  have hread := readProfile_of_id hid ⟨makeId s.usedIds, (makeId s.usedIds).2.1⟩
  unfold importItem
  dsimp only
  split_ifs with hused hrename
  · rw [hread] at hused
    refine ⟨_, rfl, ⟨?_, ?_, fun _ => hfresh s.usedIds⟩⟩
    · rw [hread]
      rfl
    · exact fun hfree => absurd (isSome_get.mp hused) hfree
  · exact absurd rfl hrename
  · rw [hread] at hused
    refine ⟨_, rfl, ⟨?_, ?_, ?_⟩⟩
    · rw [hread]
      rfl
    · intro _
      rw [hread]
      rfl
    · exact fun hmem => absurd (isSome_get.mpr hmem) hused

/-- The run: the profiles that were there, and a copy for each item. -/
lemma importItems_stored {known : Bytes → Prop} (hfresh : ∀ used, ¬known (makeId used).1)
    (hids : ∀ item ∈ items, fileId item ≠ []) (hunique : (items.map fileId).Nodup)
    (hknown : ∀ item ∈ items, known (fileId item)) (s : StreamConfigProfileStore) :
    ∃ stored, (items.foldl (importItem makeId true) s).profiles = s.profiles ++ stored ∧
      List.Forall₂ (Stored s.usedIds known) items stored := by
  induction items using List.reverseRecOn with
  | nil => exact ⟨[], (List.append_nil _).symm, .nil⟩
  | append_singleton items item ih =>
    rw [List.map_append, List.nodup_append] at hunique
    obtain ⟨hunique, -, hnew⟩ := hunique
    obtain ⟨stored, hprofiles, hstored⟩ := ih (fun i hi => hids i (List.mem_append_left _ hi))
      hunique fun i hi => hknown i (List.mem_append_left _ hi)
    have hitem : item ∈ items ++ [item] := List.mem_append_right _ List.mem_cons_self
    obtain ⟨copy, hpushed, hcopy⟩ := importItem_stored hfresh (hids item hitem)
      (items.foldl (importItem makeId true) s)
    -- no copy so far has the id of this item
    have hused : fileId item ∈ (items.foldl (importItem makeId true) s).usedIds ↔
        fileId item ∈ s.usedIds := by
      rw [usedIds, hprofiles, List.map_append, List.mem_append]
      refine or_iff_left fun hmem => ?_
      have hold := (fileId_of_copy hstored (hknown item hitem) hmem).1
      exact hnew _ hold _ (List.mem_cons_self) rfl
    refine ⟨stored ++ [copy], ?_, ?_⟩
    · rw [List.foldl_concat, hpushed, hprofiles, List.append_assoc]
    · refine List.rel_append hstored (.cons ⟨hcopy.settings, ?_, ?_⟩ .nil)
      · exact fun hfree => hcopy.named (mt hused.mp hfree)
      · exact fun hmem => hcopy.renamed (hused.mpr hmem)

/-- A bound id that was free is found as the copy of its profile. -/
lemma find_copy {known : Bytes → Prop} {used : List Bytes} {stored : List StreamConfigProfile}
    (h : List.Forall₂ (Stored used known) items stored) (hunique : (items.map fileId).Nodup)
    (hknown : known id) (hfree : id ∉ used) {n : ℕ} {item : Value} (hitem : items[n]? = some item)
    (hid : fileId item = id) : stored.find? (·.id = id) = stored[n]? := by
  induction h generalizing n with
  | nil => cases hitem
  | @cons first copy items stored hfirst hrest ih =>
    rw [List.map_cons, List.nodup_cons] at hunique
    cases n with
    | zero =>
      obtain rfl : first = item := Option.some.inj hitem
      have hcopy : copy.id = id := (hfirst.named (hid ▸ hfree)).trans hid
      rw [List.find?_cons_of_pos (by simpa using hcopy)]
      rfl
    | succ n =>
      have hmem : id ∈ items.map fileId := hid ▸ List.mem_map_of_mem (List.mem_of_getElem? hitem)
      have hother : copy.id ≠ id := by
        rintro rfl
        have hused : fileId first ∉ used := fun hused => hfirst.renamed hused hknown
        rw [hfirst.named hused] at hmem
        exact hunique.1 hmem
      rw [List.find?_cons_of_neg (by simpa using hother)]
      exact ih hunique.2 hitem

/-! ## The bindings -/

/-- What a binding of the file makes of the one before. -/
def rebound (s : StreamConfigProfileStore) (bound before : Option Bytes) : Option Bytes :=
  match bound with
  | some id => if id ∈ s.usedIds then some id else before
  | none => before

lemma importHost_profiles (s : StreamConfigProfileStore) (member : Bytes × Value) :
    (s.importHost member).profiles = s.profiles ∧
      (s.importHost member).activeProfileId = s.activeProfileId := by
  unfold importHost
  split
  · split_ifs <;> exact ⟨rfl, rfl⟩
  · exact ⟨rfl, rfl⟩

lemma foldl_importHost_profiles (members : List (Bytes × Value)) (s : StreamConfigProfileStore) :
    (members.foldl importHost s).profiles = s.profiles ∧
      (members.foldl importHost s).activeProfileId = s.activeProfileId := by
  induction members generalizing s with
  | nil => exact ⟨rfl, rfl⟩
  | cons member members ih =>
    obtain ⟨hprofiles, hactive⟩ := importHost_profiles s member
    rw [List.foldl_cons, (ih _).1, (ih _).2]
    exact ⟨hprofiles, hactive⟩

lemma importHosts_profiles (s : StreamConfigProfileStore) (hosts : Option Value) :
    (s.importHosts hosts).profiles = s.profiles ∧
      (s.importHosts hosts).activeProfileId = s.activeProfileId := by
  unfold importHosts
  split
  · exact foldl_importHost_profiles _ s
  · exact ⟨rfl, rfl⟩

lemma lookup_importHost (s : StreamConfigProfileStore) (member : Bytes × Value) :
    (s.importHost member).hostProfile.lookup hostKey =
      if hostKey = member.1 then rebound s member.2.text (s.hostProfile.lookup hostKey)
      else s.hostProfile.lookup hostKey := by
  obtain ⟨key, value⟩ := member
  cases value with
  | string id =>
    simp only [importHost, rebound, Value.text, isSome_get]
    by_cases hkey : hostKey = key
    · subst hkey
      rw [if_pos rfl]
      split_ifs
      · exact AList.lookup_insert _
      · rfl
    · rw [if_neg hkey]
      split_ifs
      · exact AList.lookup_insert_ne hkey
      · rfl
  | _ => exact (ite_self _).symm

/-- A host gets what its only member says. -/
lemma lookup_foldl_importHost {members : List (Bytes × Value)}
    (hunique : (members.map Prod.fst).Nodup) (s : StreamConfigProfileStore) :
    (members.foldl importHost s).hostProfile.lookup hostKey =
      rebound s ((members.lookup hostKey).bind Value.text) (s.hostProfile.lookup hostKey) := by
  induction members generalizing s with
  | nil => rfl
  | cons member members ih =>
    rw [List.map_cons, List.nodup_cons] at hunique
    have hused : (s.importHost member).usedIds = s.usedIds :=
      congrArg (List.map _) (importHost_profiles s member).1
    rw [List.foldl_cons, ih hunique.2, lookup_importHost]
    unfold rebound
    rw [hused]
    by_cases hkey : hostKey = member.1
    · subst hkey
      have habsent : members.lookup member.1 = none := by
        rw [List.lookup_eq_none_iff]
        intro m hm
        have hne : member.1 ≠ m.1 := fun heq => hunique.1 (heq ▸ List.mem_map_of_mem hm)
        simpa using hne
      rw [habsent, if_pos rfl, List.lookup_cons_self]
      rfl
    · have hlookup : List.lookup hostKey (member :: members) = members.lookup hostKey := by
        rw [List.lookup_cons, beq_false_of_ne hkey]
      rw [if_neg hkey, hlookup]

lemma lookup_importHosts (hfile : ProfilesFile root items) (s : StreamConfigProfileStore) :
    (s.importHosts (root.get (ascii "host_profile"))).hostProfile.lookup hostKey =
      rebound s (boundId root hostKey) (s.hostProfile.lookup hostKey) := by
  unfold boundId
  cases hhosts : root.get (ascii "host_profile") with
  | none => rfl
  | some hosts =>
    cases hosts with
    | object members => exact lookup_foldl_importHost (hfile.hosts members hhosts) s
    | _ => rfl

lemma importActive_eq (s : StreamConfigProfileStore) :
    (s.importActive (root.get (ascii "active_profile_id"))).profiles = s.profiles ∧
      (s.importActive (root.get (ascii "active_profile_id"))).hostProfile = s.hostProfile ∧
      some (s.importActive (root.get (ascii "active_profile_id"))).activeProfileId =
        rebound s (activeId root) (some s.activeProfileId) := by
  unfold activeId
  cases hactive : root.get (ascii "active_profile_id") with
  | none => exact ⟨rfl, rfl, rfl⟩
  | some active =>
    cases active with
    | string id =>
      simp only [importActive, rebound, Option.bind_some, Value.text, isSome_get]
      split_ifs <;> exact ⟨rfl, rfl, rfl⟩
    | _ => exact ⟨rfl, rfl, rfl⟩

lemma importItem_hosts (s : StreamConfigProfileStore) (item : Value) :
    (s.importItem makeId renameOnConflict item).hostProfile = s.hostProfile ∧
      (s.importItem makeId renameOnConflict item).activeProfileId = s.activeProfileId := by
  unfold importItem
  dsimp only
  split_ifs <;> exact ⟨rfl, rfl⟩

lemma importItems_hosts (items : List Value) (s : StreamConfigProfileStore) :
    (items.foldl (importItem makeId renameOnConflict) s).hostProfile = s.hostProfile ∧
      (items.foldl (importItem makeId renameOnConflict) s).activeProfileId =
        s.activeProfileId := by
  induction items generalizing s with
  | nil => exact ⟨rfl, rfl⟩
  | cons item items ih =>
    obtain ⟨hhosts, hactive⟩ :=
      @importItem_hosts makeId renameOnConflict s item
    rw [List.foldl_cons, (ih _).1, (ih _).2]
    exact ⟨hhosts, hactive⟩

/-- What an import leaves: the profiles of the loop, and the bindings that it knows. -/
structure Imports (root : Value) (s loaded after : StreamConfigProfileStore) : Prop where
  profiles : after.profiles = loaded.profiles
  hosts : ∀ hostKey, after.hostProfile.lookup hostKey =
    rebound loaded (boundId root hostKey) (s.hostProfile.lookup hostKey)
  active : some after.activeProfileId =
    rebound loaded (activeId root) (some s.activeProfileId)

lemma importItems_eq {root : Document} (hfile : ProfilesFile root.1 items) :
    importItems (some root) = some items := by
  obtain ⟨root, hparsed⟩ := root
  have hlisted := hfile.listed
  cases root with
  | object members =>
    simp only [importItems, hlisted]
  | _ => cases hlisted

lemma rebound_congr (h : s.profiles = t.profiles) (bound before : Option Bytes) :
    rebound s bound before = rebound t bound before := by
  unfold rebound usedIds
  rw [h]

lemma importJson_imports {root : Document} (hfile : ProfilesFile root.1 items)
    (s : StreamConfigProfileStore) :
    Imports root.1 s (items.foldl (importItem makeId renameOnConflict) s)
      (s.importJson makeId (some root) renameOnConflict) := by
  simp only [importJson, importItems_eq hfile]
  set loaded := items.foldl (importItem makeId renameOnConflict) s with hloaded
  obtain ⟨hkept, hactiveKept⟩ :=
    @importItems_hosts makeId renameOnConflict items s
  obtain ⟨hprofiles, hactive⟩ :=
    importHosts_profiles loaded (root.1.get (ascii "host_profile"))
  obtain ⟨hprofiles', hhosts, hactive'⟩ := @importActive_eq root.1
    (loaded.importHosts (root.1.get (ascii "host_profile")))
  refine ⟨hprofiles'.trans hprofiles, fun hostKey => ?_, ?_⟩
  · calc _ = (loaded.importHosts (root.1.get (ascii "host_profile"))).hostProfile.lookup hostKey :=
          congrArg (AList.lookup hostKey) hhosts
      _ = rebound loaded (boundId root.1 hostKey) (loaded.hostProfile.lookup hostKey) :=
          lookup_importHosts hfile loaded
      _ = rebound loaded (boundId root.1 hostKey) (s.hostProfile.lookup hostKey) := by
          rw [hloaded, hkept]
  · calc _ = rebound (loaded.importHosts (root.1.get (ascii "host_profile"))) (activeId root.1)
            (some (loaded.importHosts (root.1.get (ascii "host_profile"))).activeProfileId) :=
          hactive'
      _ = rebound loaded (activeId root.1) (some s.activeProfileId) := by
          rw [rebound_congr hprofiles, hactive, hloaded, hactiveKept]

/-! ## The bindings follow the copies -/

lemma id_of_get {q : StreamConfigProfile} (h : s.get id = some q) : q.id = id := by
  unfold get at h
  split_ifs at h
  simpa using List.find?_some h

lemma stored_at {known : Bytes → Prop} {used : List Bytes} {stored : List StreamConfigProfile}
    (h : List.Forall₂ (Stored used known) items stored) {n : ℕ} {item : Value}
    (hitem : items[n]? = some item) :
    ∃ copy, stored[n]? = some copy ∧ Stored used known item copy := by
  induction h generalizing n with
  | nil => cases hitem
  | @cons first copy _ _ hfirst _ ih =>
    cases n with
    | zero =>
      obtain rfl : first = item := Option.some.inj hitem
      exact ⟨copy, rfl, hfirst⟩
    | succ n => exact ih hitem

/-- The store finds the copy of a profile whose id was free. -/
lemma get_copy {known : Bytes → Prop} {stored : List StreamConfigProfile}
    (hprofiles : after.profiles = s.profiles ++ stored)
    (hstored : List.Forall₂ (Stored s.usedIds known) items stored)
    (hunique : (items.map fileId).Nodup) (hknown : known id) (hfree : id ∉ s.usedIds) {n : ℕ}
    {item : Value} (hitem : items[n]? = some item) (hid : fileId item = id) (hne : id ≠ []) :
    after.get id = stored[n]? := by
  have hlocal : s.profiles.find? (·.id = id) = none := by
    rw [List.find?_eq_none]
    intro q hq
    have hother : q.id ≠ id := fun heq => hfree (mem_usedIds.mpr ⟨q, hq, heq⟩)
    simpa using hother
  rw [get, if_neg hne, hprofiles, List.find?_append, hlocal, Option.none_or]
  exact find_copy hstored hunique hknown hfree hitem hid

section Binding
variable {known : Bytes → Prop} {stored : List StreamConfigProfile} {before : Option Bytes}

lemma mem_usedIds_append (hprofiles : after.profiles = s.profiles ++ stored) :
    id ∈ after.usedIds ↔ id ∈ s.usedIds ∨ id ∈ stored.map (·.id) := by
  rw [usedIds, hprofiles, List.map_append, List.mem_append]
  rfl

lemma copies_append (hprofiles : after.profiles = s.profiles ++ stored) :
    copies s after = stored := by
  rw [copies, hprofiles, List.drop_left]

/-- An id that was free is that of the copy, or of nothing. -/
lemma follows_of_free (hids : ∀ item ∈ items, fileId item ≠ [])
    (hunique : (items.map fileId).Nodup) (hprofiles : after.profiles = s.profiles ++ stored)
    (hstored : List.Forall₂ (Stored s.usedIds known) items stored) (hknown : known id)
    (hfree : id ∉ s.usedIds) :
    Follows items s after id before (rebound after (some id) before) := by
  unfold rebound
  dsimp only
  refine ⟨fun n item hitem hid => ?_, fun hforeign => ?_⟩
  · have hne : id ≠ [] := hid ▸ hids item (List.mem_of_getElem? hitem)
    have hget := get_copy hprofiles hstored hunique hknown hfree hitem hid hne
    obtain ⟨copy, hat, -⟩ := stored_at hstored hitem
    have hlisted : id ∈ after.usedIds := by
      rw [← isSome_get, hget, hat]
      rfl
    rw [if_pos hlisted, copies_append hprofiles]
    exact hget
  · rw [if_neg]
    rw [mem_usedIds_append hprofiles, not_or]
    exact ⟨hfree, fun hmem => hforeign (fileId_of_copy hstored hknown hmem).1⟩

/-- An id of the store is never that of a copy, because its profile was renamed. -/
lemma follows_of_used_iff (hprofiles : after.profiles = s.profiles ++ stored)
    (hstored : List.Forall₂ (Stored s.usedIds known) items stored) (hknown : known id)
    (hused : id ∈ s.usedIds) :
    Follows items s after id before (rebound after (some id) before) ↔
      id ∉ items.map fileId ∧ before = some id := by
  unfold rebound
  dsimp only
  rw [if_pos ((mem_usedIds_append hprofiles).mpr (.inl hused))]
  constructor
  · rintro ⟨hcopy, hother⟩
    have hforeign : id ∉ items.map fileId := by
      intro hmem
      obtain ⟨item, hitem, hid⟩ := List.mem_map.mp hmem
      obtain ⟨n, hn⟩ := List.mem_iff_getElem?.mp hitem
      obtain ⟨copy, hat, hcopied⟩ := stored_at hstored hn
      have hfound : after.get id = some copy := by
        rw [← hat, ← copies_append hprofiles]
        exact hcopy n item hn hid
      rw [← hid] at hused
      exact hcopied.renamed hused (id_of_get hfound ▸ hknown)
    exact ⟨hforeign, (hother hforeign).symm⟩
  · rintro ⟨hforeign, hbefore⟩
    refine ⟨fun n item hitem hid => ?_, fun _ => hbefore.symm⟩
    exact absurd (hid ▸ List.mem_map_of_mem (List.mem_of_getElem? hitem)) hforeign

/-- A binding follows its copy unless the id is one of the store: that of a profile of the file,
or one that was not bound like this before. -/
lemma follows_iff (hids : ∀ item ∈ items, fileId item ≠ []) (hunique : (items.map fileId).Nodup)
    (hprofiles : after.profiles = s.profiles ++ stored)
    (hstored : List.Forall₂ (Stored s.usedIds known) items stored) (hknown : known id) :
    Follows items s after id before (rebound after (some id) before) ↔
      (id ∈ s.usedIds → id ∉ items.map fileId ∧ before = some id) := by
  by_cases hused : id ∈ s.usedIds
  · rw [follows_of_used_iff hprofiles hstored hknown hused]
    exact ⟨fun h _ => h, fun h => h hused⟩
  · exact iff_of_true (follows_of_free hids hunique hprofiles hstored hknown hused)
      fun h => absurd h hused

end Binding

lemma bindsCopies_iff {root : Document} (hfile : ProfilesFile root.1 items)
    (hfresh : ∀ used id, Mentioned root.1 items id → (makeId used).1 ≠ id) :
    BindsCopies root.1 items s (s.importJson makeId (some root) true) ↔
      Clear root.1 items s := by
  have hunknown : ∀ used, ¬Mentioned root.1 items (makeId used).1 :=
    fun used hknown => hfresh used _ hknown rfl
  obtain ⟨stored, hloaded, hstored⟩ := importItems_stored hunknown hfile.ids hfile.unique
    (fun item hitem => .inl (List.mem_map_of_mem hitem)) s
  have himports := @importJson_imports makeId _ true _ hfile s
  set after := s.importJson makeId (some root) true
  have hprofiles : after.profiles = s.profiles ++ stored := himports.profiles.trans hloaded
  have hcopies : copies s after = stored := copies_append hprofiles
  have hhost {hostKey id : Bytes} (hbound : boundId root.1 hostKey = some id) :=
    @follows_iff _ _ _ _ _ _ (s.hostProfile.lookup hostKey) hfile.ids hfile.unique hprofiles hstored
      (.inr (.inl ⟨hostKey, hbound⟩))
  have hactive {id : Bytes} (hbound : activeId root.1 = some id) :=
    @follows_iff _ _ _ _ _ _ (some s.activeProfileId) hfile.ids hfile.unique hprofiles hstored
      (.inr (.inr hbound))
  have hlookup {hostKey id : Bytes} (hbound : boundId root.1 hostKey = some id) :
      after.hostProfile.lookup hostKey =
        rebound after (some id) (s.hostProfile.lookup hostKey) := by
    rw [himports.hosts, hbound, rebound_congr himports.profiles]
  have hchosen {id : Bytes} (hbound : activeId root.1 = some id) :
      some after.activeProfileId = rebound after (some id) (some s.activeProfileId) := by
    rw [himports.active, hbound, rebound_congr himports.profiles]
  constructor
  · intro h
    refine ⟨fun hostKey id hbound => (hhost hbound).mp ?_, fun id hbound hold => ?_⟩
    · rw [← hlookup hbound]
      exact h.hosts hostKey id hbound
    · have hfollows := h.active id hbound
      rw [hchosen hbound] at hfollows
      obtain ⟨hforeign, hsame⟩ := (hactive hbound).mp hfollows hold
      exact ⟨hforeign, Option.some.inj hsame⟩
  · intro h
    refine ⟨⟨stored, hprofiles.symm⟩, ?_, fun hostKey id hbound => ?_, fun id hbound => ?_⟩
    · rw [hcopies]
      exact hstored.imp fun _ _ hcopy => hcopy.settings
    · rw [hlookup hbound]
      exact (hhost hbound).mpr (h.hosts hostKey id hbound)
    · rw [hchosen hbound]
      refine (hactive hbound).mpr fun hold => ?_
      obtain ⟨hforeign, hsame⟩ := h.active id hbound hold
      exact ⟨hforeign, congrArg some hsame⟩

/-! ## The profiles of the store come first -/

lemma importItem_kept (hid : fileId item ≠ []) (s : StreamConfigProfileStore) :
    s.profiles <+: (s.importItem makeId false item).profiles ∧
      fileId item ∈ (s.importItem makeId false item).usedIds := by
  have hread := readProfile_of_id hid ⟨makeId s.usedIds, (makeId s.usedIds).2.1⟩
  unfold importItem
  dsimp only
  split_ifs with hused hrename
  · exact hrename.elim
  · rw [hread] at hused
    exact ⟨List.prefix_rfl, isSome_get.mp hused⟩
  · refine ⟨List.prefix_append _ _, ?_⟩
    rw [usedIds_push, hread]
    exact List.mem_append_right _ List.mem_cons_self

lemma mem_usedIds_of_kept (h : s.profiles <+: t.profiles) (hid : id ∈ s.usedIds) :
    id ∈ t.usedIds := by
  obtain ⟨q, hq, rfl⟩ := mem_usedIds.mp hid
  exact mem_usedIds.mpr ⟨q, h.subset hq, rfl⟩

lemma importItems_kept (hids : ∀ item ∈ items, fileId item ≠ []) (s : StreamConfigProfileStore) :
    s.profiles <+: (items.foldl (importItem makeId false) s).profiles ∧
      ∀ item ∈ items, fileId item ∈ (items.foldl (importItem makeId false) s).usedIds := by
  induction items generalizing s with
  | nil => exact ⟨List.prefix_rfl, fun _ hitem => absurd hitem List.not_mem_nil⟩
  | cons item items ih =>
    obtain ⟨hfirst, hlisted⟩ :=
      @importItem_kept makeId _ (hids item List.mem_cons_self) s
    obtain ⟨hrest, hitems⟩ := ih (fun i hi => hids i (List.mem_cons_of_mem _ hi))
      (s.importItem makeId false item)
    rw [List.foldl_cons]
    refine ⟨hfirst.trans hrest, fun i hi => ?_⟩
    rcases List.mem_cons.mp hi with rfl | hlater
    · exact mem_usedIds_of_kept hrest hlisted
    · exact hitems i hlater

lemma keepsProfiles {root : Document} (hfile : ProfilesFile root.1 items)
    (s : StreamConfigProfileStore) :
    KeepsProfiles root.1 items s (s.importJson makeId (some root) false) := by
  obtain ⟨hkept, hlisted⟩ := @importItems_kept makeId _ hfile.ids s
  have himports := @importJson_imports makeId _ false _ hfile s
  set after := s.importJson makeId (some root) false
  refine ⟨himports.profiles ▸ hkept, fun item hitem => ?_, fun hostKey id hbound hid => ?_,
    fun id hactive hid => ?_⟩
  · rw [usedIds, himports.profiles]
    exact hlisted item hitem
  · rw [himports.hosts, hbound, rebound_congr himports.profiles.symm]
    unfold rebound
    dsimp only
    rw [if_pos hid]
    obtain ⟨q, hq⟩ := Option.isSome_iff_exists.mp (isSome_get.mpr hid)
    rw [Option.bind_some, hq, Option.map_some, id_of_get hq]
  · have hafter := himports.active
    rw [hactive, rebound_congr himports.profiles.symm] at hafter
    unfold rebound at hafter
    dsimp only at hafter
    rw [if_pos hid] at hafter
    exact Option.some.inj hafter

/-- **An import binds the copies exactly where the file binds no profile whose id is taken.** -/
theorem import_binds_copies (makeId : MakeId) (root : Document) (items : List Value)
    (renameOnConflict : Bool) (s : StreamConfigProfileStore) (hfile : ProfilesFile root.1 items)
    (hfresh : ∀ used id, Mentioned root.1 items id → (makeId used).1 ≠ id) :
    (if renameOnConflict then
        BindsCopies root.1 items s (s.importJson makeId (some root) renameOnConflict)
      else KeepsProfiles root.1 items s (s.importJson makeId (some root) renameOnConflict)) ↔
      (renameOnConflict = true → Clear root.1 items s) := by
  cases renameOnConflict with
  | true =>
    rw [if_pos rfl, bindsCopies_iff hfile hfresh]
    exact ⟨fun h _ => h, fun h => h rfl⟩
  | false =>
    rw [if_neg Bool.false_ne_true]
    exact iff_of_true (keepsProfiles hfile s) fun h => absurd h Bool.false_ne_true

/-- A profile of a file. -/
def theirs : Value :=
  .object [(ascii "id", .string (ascii "b")), (ascii "name", .string (ascii "Theirs"))]

def sharedMembers : List (Bytes × Value) :=
  [(ascii "profiles", .array [theirs]),
    (ascii "host_profile", .object [(ascii "pc", .string (ascii "b"))]),
    (ascii "active_profile_id", .string (ascii "b"))]

lemma parsed_theirs : Parsed theirs := by
  refine .object (by decide +kernel) ?_
  simp only [List.forall_mem_cons, List.not_mem_nil, false_imp_iff, implies_true, and_true]
  exact ⟨.string (by decide +kernel), .string (by decide +kernel)⟩

lemma parsed_shared : Parsed (.object sharedMembers) := by
  refine .object (by decide +kernel) ?_
  simp only [sharedMembers, List.forall_mem_cons, List.not_mem_nil, false_imp_iff, implies_true,
    and_true]
  refine ⟨.array ?_, .object (by decide +kernel) ?_, .string (by decide +kernel)⟩
  · simpa only [List.forall_mem_singleton] using parsed_theirs
  · simpa only [List.forall_mem_singleton] using Parsed.string (by decide +kernel)

/-- A file in which a host is bound to the one profile. -/
def sharedFile : Document := ⟨.object sharedMembers, parsed_shared⟩

lemma profilesFile_shared : ProfilesFile sharedFile.1 [theirs] where
  listed := rfl
  ids := by decide +kernel
  unique := by decide +kernel
  hosts := by
    rintro members hhosts
    cases hhosts
    decide +kernel

lemma mentioned_shared (h : Mentioned sharedFile.1 [theirs] id) : id = ascii "b" := by
  have hids : [theirs].map fileId = [ascii "b"] := by decide +kernel
  have hmembers : sharedFile.1.get (ascii "host_profile") =
    some (.object [(ascii "pc", .string (ascii "b"))]) := rfl
  rcases h with hitem | ⟨hostKey, hbound⟩ | hactive
  · rw [hids] at hitem
    exact List.mem_singleton.mp hitem
  · rw [boundId, hmembers] at hbound
    obtain ⟨value, hlookup, htext⟩ := Option.bind_eq_some_iff.mp hbound
    obtain ⟨before, behind, hsplit, -⟩ := List.lookup_eq_some_iff.mp hlookup
    have hmem : (hostKey, value) ∈ [(ascii "pc", Value.string (ascii "b"))] := by
      rw [hsplit]
      exact List.mem_append_right _ List.mem_cons_self
    rw [(Prod.mk.inj (List.mem_singleton.mp hmem)).2] at htext
    exact (Option.some.inj htext).symm
  · exact (Option.some.inj hactive).symm

lemma longIds_fresh_shared (used : List Bytes) (id : Bytes)
    (h : Mentioned sharedFile.1 [theirs] id) : (longIds used).1 ≠ id := by
  rw [mentioned_shared h]
  intro hsame
  have hhead : some 97 = (ascii "b").head? := congrArg List.head? hsame
  exact absurd hhead (by decide)

theorem import_binds_copies_shared :
    BindsCopies sharedFile.1 [theirs] deepQueueStore
      (deepQueueStore.importJson longIds (some sharedFile) true) := by
  have h := (import_binds_copies longIds sharedFile [theirs] true deepQueueStore
    profilesFile_shared longIds_fresh_shared).mpr fun _ => by
      have hfree : ascii "b" ∉ deepQueueStore.usedIds := by decide +kernel
      refine ⟨fun hostKey id hbound hid => ?_, fun id hactive hid => ?_⟩
      · rw [mentioned_shared (.inr (.inl ⟨hostKey, hbound⟩))] at hid
        exact absurd hid hfree
      · rw [mentioned_shared (.inr (.inr hactive))] at hid
        exact absurd hid hfree
  rwa [if_pos rfl] at h

/-- A store in which another profile has the id. -/
def ourStore : StreamConfigProfileStore where
  profiles := [{ id := ascii "b", name := ascii "Ours" }]
  ids := by decide +kernel

/-- The host is bound to the profile that was there. -/
theorem import_binds_ours : ProfilesFile sharedFile.1 [theirs] ∧
    (∀ used id, Mentioned sharedFile.1 [theirs] id → (longIds used).1 ≠ id) ∧
    ¬BindsCopies sharedFile.1 [theirs] ourStore
      (ourStore.importJson longIds (some sharedFile) true) := by
  refine ⟨profilesFile_shared, longIds_fresh_shared, fun h => ?_⟩
  have hcopy := (h.hosts (ascii "pc") (ascii "b") rfl).copy 0 theirs rfl rfl
  have hname := congrArg (Option.map (·.name)) hcopy
  revert hname
  decide +kernel

end StreamConfigProfileStore
end ArtemisSwitch.StreamProfile

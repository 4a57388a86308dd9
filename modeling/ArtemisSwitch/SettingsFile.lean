import ArtemisSwitch.DecimalText
import ArtemisSwitch.Jansson
import ArtemisSwitch.SettingsHosts

/-!
# settings.json

`Settings::save` and `Settings::load` for the hosts and the mapping layouts.  The file holds
the value that was dumped; all other settings are one value that is passed through.
-/

namespace ArtemisSwitch.HostStore
open Jansson DecimalText

/-! ## Mapping layouts -/

/-- `mapping[key] = value` on the entries of a `std::map`. -/
def assign (key value : Int32) : List (Int32 × Int32) → List (Int32 × Int32)
  | [] => [(key, value)]
  | (k, v) :: entries =>
    if key < k then (key, value) :: (k, v) :: entries
    else if key = k then (key, value) :: entries
    else (k, v) :: assign key value entries

lemma mem_assign {key value : Int32} {e : Int32 × Int32} {entries : List (Int32 × Int32)}
    (h : e ∈ assign key value entries) : e = (key, value) ∨ e ∈ entries := by
  induction entries with
  | nil => exact .inl (List.mem_singleton.mp h)
  | cons first entries ih =>
    obtain ⟨k, v⟩ := first
    unfold assign at h
    split_ifs at h
    · exact List.mem_cons.mp h
    · exact (List.mem_cons.mp h).imp id (List.mem_cons_of_mem _)
    · cases List.mem_cons.mp h with
      | inl heq => exact .inr (heq ▸ List.mem_cons_self)
      | inr hrest => exact (ih hrest).imp id (List.mem_cons_of_mem _)

lemma assign_sorted {key value : Int32} {entries : List (Int32 × Int32)}
    (h : entries.Pairwise fun a b => a.1 < b.1) :
    (assign key value entries).Pairwise fun a b => a.1 < b.1 := by
  induction entries with
  | nil => simp [assign]
  | cons first entries ih =>
    obtain ⟨k, v⟩ := first
    obtain ⟨hfirst, hrest⟩ := List.pairwise_cons.mp h
    unfold assign
    split_ifs with hlt heq
    · refine List.pairwise_cons.mpr ⟨fun e he => ?_, h⟩
      cases List.mem_cons.mp he with
      | inl heq => exact heq ▸ hlt
      | inr he => exact Int32.lt_trans hlt (hfirst e he)
    · exact List.pairwise_cons.mpr ⟨heq ▸ hfirst, hrest⟩
    · refine List.pairwise_cons.mpr ⟨fun e he => ?_, ih hrest⟩
      cases mem_assign he with
      | inl hnew =>
        have hle : k ≤ key := Int32.not_lt.mp hlt
        exact hnew ▸ Int32.lt_of_le_of_ne hle (Ne.symm heq)
      | inr hold => exact hfirst e hold

/-- A larger key goes to the end. -/
lemma assign_last {key value : Int32} {entries : List (Int32 × Int32)}
    (h : ∀ e ∈ entries, e.1 < key) : assign key value entries = entries ++ [(key, value)] := by
  induction entries with
  | nil => rfl
  | cons first entries ih =>
    obtain ⟨k, v⟩ := first
    have hk : k < key := h (k, v) (by simp)
    have hrest := ih fun e he => h e (List.mem_cons_of_mem _ he)
    have hnot : ¬key < k := Int32.not_lt.mpr (Int32.le_of_lt hk)
    have hne : key ≠ k := fun heq => Int32.lt_irrefl (heq ▸ hk)
    simp [assign, hnot, hne, hrest]

/-- `std::map<int, int>`, its entries in the order of their keys. -/
@[ext]
structure Mapping where
  entries : List (Int32 × Int32) := []
  sorted : entries.Pairwise fun a b => a.1 < b.1 := by simp
  deriving DecidableEq

namespace Mapping

def set (m : Mapping) (e : Int32 × Int32) : Mapping :=
  ⟨assign e.1 e.2 m.entries, assign_sorted m.sorted⟩

def ofList (entries : List (Int32 × Int32)) : Mapping := entries.foldl set {}

lemma foldl_set (m : Mapping) (entries : List (Int32 × Int32))
    (h : (m.entries ++ entries).Pairwise fun a b => a.1 < b.1) :
    (entries.foldl set m).entries = m.entries ++ entries := by
  induction entries generalizing m with
  | nil => simp
  | cons e entries ih =>
    have hbefore : ∀ f ∈ m.entries, f.1 < e.1 := fun f hf =>
      (List.pairwise_append.mp h).2.2 f hf e (by simp)
    have hset : (m.set e).entries = m.entries ++ [e] := assign_last hbefore
    rw [List.foldl_cons, ih, hset]
    · simp
    · rw [hset]
      simpa using h

/-- A map is built again from its entries. -/
theorem ofList_entries (m : Mapping) : ofList m.entries = m := by
  have h := foldl_set {} m.entries (by simpa using m.sorted)
  ext1
  simpa [ofList] using h

end Mapping

structure KeyMappingLayout where
  title : Bytes := []
  editable : Bool := true
  mapping : Mapping := {}
  deriving DecidableEq

/-- The buttons that the built-in layouts name. -/
structure ControllerButtons where
  a : Int32
  b : Int32
  x : Int32
  y : Int32

/-- `loadBaseLayouts`; a title stands for its translation. -/
def baseLayouts (button : ControllerButtons) : List KeyMappingLayout :=
  [{ title := ascii "settings/keys_mapping_default", editable := false },
    { title := ascii "settings/keys_mapping_swap"
      editable := false
      mapping := .ofList [(button.a, button.b), (button.b, button.a), (button.x, button.y),
        (button.y, button.x)] }]

def layoutToJson (layout : KeyMappingLayout) : Value :=
  makeObject
    [(ascii "title", jsonString layout.title),
      (ascii "mapping", some (makeObject (layout.mapping.entries.map fun e =>
        (toText e.1, jsonString (toText e.2)))))]

/-- The members of an object, for `json_object_foreach`. -/
def members : Value → List (Bytes × Value)
  | .object members => members
  | _ => []

def mappingFromJson (v : Value) : Mapping :=
  .ofList ((members v).filterMap fun m => m.2.text.map fun value => (atoi m.1, atoi value))

def layoutFromJson (v : Value) : KeyMappingLayout where
  title := (v.read Value.text "title").getD []
  editable := true
  mapping := (v.get (ascii "mapping")).elim {} mappingFromJson

/-! ## Hosts -/

def endpointToJson (endpoint : HostEndpoint) : Value :=
  makeObject
    [(ascii "label", jsonString endpoint.label),
      (ascii "address", jsonString endpoint.address),
      (ascii "priority", jsonInteger endpoint.priority)]

def appToJson (app : App) : Value :=
  makeObject [(ascii "name", jsonString app.name), (ascii "id", jsonInteger app.appId)]

def hostToJson (host : Host) : Value :=
  makeObject
    [(ascii "address", jsonString host.address),
      (ascii "remote_address", jsonString host.remoteAddress),
      (ascii "hostname", jsonString host.hostname),
      (ascii "mac", jsonString host.mac),
      (ascii "endpoints", some (.array (host.endpoints.map endpointToJson))),
      (ascii "favorites", some (.array (host.favorites.map appToJson)))]

/-- An endpoint without an address is left out. -/
def endpointFromJson (v : Value) : Option HostEndpoint :=
  let endpoint : HostEndpoint :=
    { label := (v.read Value.text "label").getD []
      address := (v.read Value.text "address").getD []
      priority := (v.read Value.int "priority").getD 0 }
  if v.isObject = false ∨ endpoint.address = [] then none else some endpoint

/-- Without an `id` the source leaves the field unset. -/
def appFromJson (v : Value) : Option App :=
  if v.isObject = false then none
  else some ⟨(v.read Value.text "name").getD [], (v.read Value.int "id").getD 0⟩

/-- The newer spelling decides, also when it holds no string. -/
def remoteAddressFromJson (v : Value) : Bytes :=
  match v.get (ascii "remote_address") with
  | some remoteAddress => remoteAddress.text.getD []
  | none => (v.read Value.text "remoteAddress").getD []

def itemsAt (key : String) (v : Value) : List Value :=
  ((v.get (ascii key)).map Value.items).getD []

def hostFromJson (v : Value) : Host :=
  let host : Host :=
    { address := (v.read Value.text "address").getD []
      remoteAddress := remoteAddressFromJson v
      hostname := (v.read Value.text "hostname").getD []
      mac := (v.read Value.text "mac").getD []
      endpoints := (itemsAt "endpoints" v).filterMap endpointFromJson }
  { host.ensureEndpoints with favorites := (itemsAt "favorites" v).filterMap appFromJson }

/-- The records of a file. -/
def storedHosts (root : Value) : List Host :=
  ((itemsAt "hosts" root).filter Value.isObject).map hostFromJson

/-- Each record is merged into those before it.  The flag says that one was. -/
def loadRecords (records : List Host) : List Host × Bool :=
  records.foldl (fun loaded host =>
    ((loadHost loaded.1 host).1, loaded.2 || (loadHost loaded.1 host).2)) ([], false)

def loadLayouts (root : Value) : List KeyMappingLayout :=
  ((itemsAt "mapping_layouts" root).filter Value.isObject).map layoutFromJson

/-- The part of `Settings` that is kept in lists, and the file. -/
structure Settings where
  hosts : List Host := []
  layouts : List KeyMappingLayout := []
  file : Option Value := none

namespace Settings

def toJson (preferences : Value) (s : Settings) : Value :=
  makeObject
    [(ascii "hosts", some (.array (s.hosts.map hostToJson))),
      (ascii "settings", some preferences),
      (ascii "mapping_layouts",
        some (.array ((s.layouts.filter (·.editable)).map layoutToJson)))]

def save (preferences : Value) (s : Settings) : Settings :=
  { s with file := some (s.toJson preferences) }

/-- A file whose records had to be merged is written again. -/
def load (button : ControllerButtons) (preferences : Value) (s : Settings) : Settings :=
  match s.file with
  | some root =>
    if root.isObject then
      let (hosts, removedDuplicateHosts) := loadRecords (storedHosts root)
      let s := { s with hosts := hosts, layouts := baseLayouts button ++ loadLayouts root }
      if removedDuplicateHosts then s.save preferences else s
    else { s with hosts := [], layouts := baseLayouts button }
  | none => { s with hosts := [], layouts := baseLayouts button }

end Settings

/-! ## What is written is read back -/

lemma mem_decimal_ascii {n : Int32} {c : UInt8} (h : c ∈ toText n) : c ≤ 0x7F ∧ c ≠ 0 := by
  cases mem_toText h with
  | inl hminus => rw [hminus]; decide
  | inr hdigit =>
    simp only [HostAddress.isdigit, UInt8.le_iff_toNat_le, Bool.and_eq_true,
      decide_eq_true_eq] at hdigit
    have hlow : 48 ≤ c.toNat := hdigit.1
    have hhigh : c.toNat ≤ 57 := hdigit.2
    refine ⟨UInt8.le_iff_toNat_le.mpr (hhigh.trans (by decide)), ?_⟩
    rintro rfl
    simp at hlow

lemma storable_toText (n : Int32) : Storable (toText n) :=
  ⟨isUtf8_of_ascii fun _ hc => (mem_decimal_ascii hc).1, fun h => (mem_decimal_ascii h).2 rfl⟩

def layoutKeys : List Bytes := [ascii "title", ascii "mapping"]

def endpointKeys : List Bytes := [ascii "label", ascii "address", ascii "priority"]

def appKeys : List Bytes := [ascii "name", ascii "id"]

def hostKeys : List Bytes :=
  [ascii "address", ascii "remote_address", ascii "hostname", ascii "mac", ascii "endpoints",
    ascii "favorites"]

def rootKeys : List Bytes := [ascii "hosts", ascii "settings", ascii "mapping_layouts"]

lemma layoutKeys_ok : keysOk layoutKeys = true := by decide +kernel

lemma endpointKeys_ok : keysOk endpointKeys = true := by decide +kernel

lemma appKeys_ok : keysOk appKeys = true := by decide +kernel

lemma hostKeys_ok : keysOk hostKeys = true := by decide +kernel

lemma rootKeys_ok : keysOk rootKeys = true := by decide +kernel

/-- All texts of a host can be stored. -/
structure Host.Storable (h : Host) : Prop where
  address : Jansson.Storable h.address
  remoteAddress : Jansson.Storable h.remoteAddress
  hostname : Jansson.Storable h.hostname
  mac : Jansson.Storable h.mac
  endpoints : ∀ e ∈ h.endpoints, Jansson.Storable e.label ∧ Jansson.Storable e.address
  favorites : ∀ app ∈ h.favorites, Jansson.Storable app.name

instance (h : Host) : Decidable h.Storable :=
  decidable_of_iff (Jansson.Storable h.address ∧ Jansson.Storable h.remoteAddress ∧
      Jansson.Storable h.hostname ∧ Jansson.Storable h.mac ∧
      (∀ e ∈ h.endpoints, Jansson.Storable e.label ∧ Jansson.Storable e.address) ∧
      ∀ app ∈ h.favorites, Jansson.Storable app.name)
    ⟨fun ⟨h1, h2, h3, h4, h5, h6⟩ => ⟨h1, h2, h3, h4, h5, h6⟩,
      fun ⟨h1, h2, h3, h4, h5, h6⟩ => ⟨h1, h2, h3, h4, h5, h6⟩⟩

lemma endpointFromJson_endpointToJson {e : HostEndpoint} (hlabel : Storable e.label)
    (haddress : Storable e.address) (hne : e.address ≠ []) :
    endpointFromJson (endpointToJson e) = some e := by
  have h1 : (endpointToJson e).read Value.text "label" = some e.label :=
    (read_makeObject 0 endpointKeys_ok rfl rfl).trans (jsonString_bind hlabel)
  have h2 : (endpointToJson e).read Value.text "address" = some e.address :=
    (read_makeObject 1 endpointKeys_ok rfl rfl).trans (jsonString_bind haddress)
  have h3 : (endpointToJson e).read Value.int "priority" = some e.priority :=
    (read_makeObject 2 endpointKeys_ok rfl rfl).trans (jsonInteger_bind _)
  have hobject : (endpointToJson e).isObject = true := rfl
  simp [endpointFromJson, h1, h2, h3, hobject, hne]

lemma appFromJson_appToJson {app : App} (hname : Storable app.name) :
    appFromJson (appToJson app) = some app := by
  have h1 : (appToJson app).read Value.text "name" = some app.name :=
    (read_makeObject 0 appKeys_ok rfl rfl).trans (jsonString_bind hname)
  have h2 : (appToJson app).read Value.int "id" = some app.appId :=
    (read_makeObject 1 appKeys_ok rfl rfl).trans (jsonInteger_bind _)
  have hobject : (appToJson app).isObject = true := rfl
  simp [appFromJson, h1, h2, hobject]

/-- A list that is written element by element is read element by element. -/
lemma filterMap_map_some {α : Type} {write : α → Value} {read : Value → Option α} {l : List α}
    (h : ∀ a ∈ l, read (write a) = some a) : (l.map write).filterMap read = l := by
  induction l with
  | nil => rfl
  | cons a l ih =>
    rw [List.map_cons, List.filterMap_cons, h a (by simp),
      ih fun b hb => h b (List.mem_cons_of_mem _ hb)]

lemma itemsAt_eq {key : String} {v : Value} {items : List Value}
    (h : v.get (ascii key) = some (.array items)) : itemsAt key v = items := by
  simp [itemsAt, h, Value.items]

theorem hostFromJson_hostToJson {h : Host} (hsynced : h.Synced) (hstorable : h.Storable)
    (haddresses : ∀ e ∈ h.endpoints, e.address ≠ []) : hostFromJson (hostToJson h) = h := by
  have h1 : (hostToJson h).read Value.text "address" = some h.address :=
    (read_makeObject 0 hostKeys_ok rfl rfl).trans (jsonString_bind hstorable.address)
  have h2 : remoteAddressFromJson (hostToJson h) = h.remoteAddress := by
    have hget : (hostToJson h).get (ascii "remote_address") = some (.string h.remoteAddress) :=
      (get_makeObject_at 1 hostKeys_ok rfl rfl).trans
        (jsonString_of_storable hstorable.remoteAddress)
    simp [remoteAddressFromJson, hget, Value.text]
  have h3 : (hostToJson h).read Value.text "hostname" = some h.hostname :=
    (read_makeObject 2 hostKeys_ok rfl rfl).trans (jsonString_bind hstorable.hostname)
  have h4 : (hostToJson h).read Value.text "mac" = some h.mac :=
    (read_makeObject 3 hostKeys_ok rfl rfl).trans (jsonString_bind hstorable.mac)
  have h5 : itemsAt "endpoints" (hostToJson h) = h.endpoints.map endpointToJson :=
    itemsAt_eq (get_makeObject_at 4 hostKeys_ok rfl rfl)
  have h6 : itemsAt "favorites" (hostToJson h) = h.favorites.map appToJson :=
    itemsAt_eq (get_makeObject_at 5 hostKeys_ok rfl rfl)
  have heps : (h.endpoints.map endpointToJson).filterMap endpointFromJson = h.endpoints :=
    filterMap_map_some fun e he => endpointFromJson_endpointToJson (hstorable.endpoints e he).1
      (hstorable.endpoints e he).2 (haddresses e he)
  have hfavorites : (h.favorites.map appToJson).filterMap appFromJson = h.favorites :=
    filterMap_map_some fun app happ => appFromJson_appToJson (hstorable.favorites app happ)
  have hsame : Host.ensureEndpoints { h with favorites := [] } = { h with favorites := [] } :=
    (synced_favorites h []).mpr hsynced
  simp only [hostFromJson, h1, h2, h3, h4, h5, h6, heps, hfavorites, Option.getD_some]
  exact congrArg (fun g : Host => { g with favorites := h.favorites }) hsame

/-- The entries of a map have different keys, as texts too. -/
lemma mapping_keys_nodup (m : Mapping) : (m.entries.map fun e => toText e.1).Nodup := by
  have hkeys : (m.entries.map Prod.fst).Nodup := by
    rw [List.Nodup, List.pairwise_map]
    refine m.sorted.imp fun {a b} h => ?_
    rintro heq
    exact Int32.lt_irrefl (heq ▸ h)
  rw [← Function.comp_def toText Prod.fst, ← List.map_map]
  exact hkeys.map fun _ _ h => toText_injective h

lemma mappingFromJson_written (m : Mapping) :
    mappingFromJson (makeObject (m.entries.map fun e => (toText e.1, jsonString (toText e.2)))) =
      m := by
  have hwritten : makeObject (m.entries.map fun e => (toText e.1, jsonString (toText e.2))) =
      .object (m.entries.map fun e => (toText e.1, .string (toText e.2))) := by
    rw [makeObject_eq]
    · simp [List.filterMap_map, jsonString_of_storable (storable_toText _)]
    · rw [List.map_map]
      exact mapping_keys_nodup m
    · intro f hf
      obtain ⟨e, -, rfl⟩ := List.mem_map.mp hf
      exact (storable_toText e.1).1
  rw [mappingFromJson, hwritten]
  simp [members, List.filterMap_map, Value.text, atoi_toText,
    Mapping.ofList_entries]

theorem layoutFromJson_layoutToJson {layout : KeyMappingLayout} (heditable : layout.editable = true)
    (htitle : Storable layout.title) : layoutFromJson (layoutToJson layout) = layout := by
  have h1 : (layoutToJson layout).read Value.text "title" = some layout.title :=
    (read_makeObject 0 layoutKeys_ok rfl rfl).trans (jsonString_bind htitle)
  have h2 : (layoutToJson layout).get (ascii "mapping") =
      some (makeObject (layout.mapping.entries.map fun e =>
        (toText e.1, jsonString (toText e.2)))) :=
    get_makeObject_at 1 layoutKeys_ok rfl rfl
  cases layout
  simp_all [layoutFromJson, mappingFromJson_written]

/-- Records that match none of those before them are appended one by one. -/
lemma loadRecords_distinct {hosts : List Host} (hd : Distinct hosts) :
    loadRecords hosts = (hosts, false) := by
  have hfrom : ∀ hosts before : List Host, Distinct (before ++ hosts) →
      hosts.foldl (fun loaded host =>
        ((loadHost loaded.1 host).1, loaded.2 || (loadHost loaded.1 host).2)) (before, false) =
          (before ++ hosts, false) := by
    intro hosts
    induction hosts with
    | nil => simp
    | cons h hosts ih =>
      intro before hd
      have hnew : ∀ b ∈ before, hostsMatchForUpsert b h = false := fun b hb =>
        (List.pairwise_append.mp hd).2.2 b hb h (by simp)
      rw [List.foldl_cons, loadHost_append hnew]
      simpa using ih (before ++ [h]) (by simpa using hd)
  exact hfrom hosts [] hd

lemma filter_isObject_map {α : Type} {write : α → Value} {l : List α}
    (h : ∀ a, (write a).isObject = true) : (l.map write).filter Value.isObject = l.map write := by
  rw [List.filter_eq_self]
  intro v hv
  obtain ⟨a, -, rfl⟩ := List.mem_map.mp hv
  exact h a

variable {preferences current : Value} {s t : Settings} {button : ControllerButtons}

/-- What the lists have to meet to survive a save. -/
structure Settings.Writable (s : Settings) : Prop where
  distinct : Distinct s.hosts
  synced : ∀ h ∈ s.hosts, h.Synced
  storable : ∀ h ∈ s.hosts, h.Storable
  addresses : ∀ h ∈ s.hosts, ∀ e ∈ h.endpoints, e.address ≠ []
  titles : ∀ layout ∈ s.layouts, layout.editable = true → Storable layout.title

lemma storedHosts_toJson (h : s.Writable) : storedHosts (s.toJson preferences) = s.hosts := by
  have hitems : itemsAt "hosts" (s.toJson preferences) = s.hosts.map hostToJson :=
    itemsAt_eq (get_makeObject_at 0 rootKeys_ok rfl rfl)
  have hread : ∀ host ∈ s.hosts, hostFromJson (hostToJson host) = host := fun host hhost =>
    hostFromJson_hostToJson (h.synced host hhost) (h.storable host hhost) (h.addresses host hhost)
  rw [storedHosts, hitems, filter_isObject_map fun _ => rfl, List.map_map]
  exact (List.map_congr_left hread).trans (List.map_id _)

lemma loadLayouts_toJson (h : s.Writable) :
    loadLayouts (s.toJson preferences) = s.layouts.filter (·.editable) := by
  have hitems : itemsAt "mapping_layouts" (s.toJson preferences) =
      (s.layouts.filter (·.editable)).map layoutToJson :=
    itemsAt_eq (get_makeObject_at 2 rootKeys_ok rfl rfl)
  have hread : ∀ layout ∈ s.layouts.filter (·.editable),
      layoutFromJson (layoutToJson layout) = layout := by
    intro layout hmem
    obtain ⟨hlayout, heditable⟩ := List.mem_filter.mp hmem
    exact layoutFromJson_layoutToJson heditable (h.titles layout hlayout heditable)
  rw [loadLayouts, hitems, filter_isObject_map fun _ => rfl, List.map_map]
  exact (List.map_congr_left hread).trans (List.map_id _)

/-- A saved file is loaded without a merge, so it is not written again. -/
theorem load_saved (h : s.Writable) (hfile : t.file = (s.save preferences).file) :
    t.load button current =
      { hosts := s.hosts
        layouts := baseLayouts button ++ s.layouts.filter (·.editable)
        file := t.file } := by
  have hobject : (s.toJson preferences).isObject = true := rfl
  have hsaved : t.file = some (s.toJson preferences) := hfile
  unfold Settings.load
  rw [hsaved]
  simp [hobject, storedHosts_toJson h, loadLayouts_toJson h, loadRecords_distinct h.distinct]

/-! ## Calls on the host list -/

inductive HostCall
  | addHost (host : Host)
  | addFavorite (host : Host) (app : App)

def HostCall.apply (hosts : List Host) : HostCall → List Host
  | .addHost host => HostStore.addHost hosts host
  | .addFavorite host app => HostStore.addFavorite hosts host app

lemma calls_synced (calls : List HostCall) :
    ∀ h ∈ calls.foldl HostCall.apply [], h.Synced := by
  have hfrom : ∀ hosts : List Host, (∀ h ∈ hosts, h.Synced) →
      ∀ h ∈ calls.foldl HostCall.apply hosts, h.Synced := by
    induction calls with
    | nil => exact fun _ hs => hs
    | cons call calls ih =>
      intro hosts hs
      apply ih
      cases call with
      | addHost host => exact addHost_synced hs host
      | addFavorite host app => exact favorites_synced hs
  exact hfrom [] (by simp)

/-- Whatever the settings that load the file held before, they get the hosts that the calls have
built and the layouts of the settings that saved it, and a second load changes nothing. -/
theorem settings_round_trip (calls : List HostCall)
    (hhosts : s.hosts = calls.foldl HostCall.apply [])
    (hd : Distinct s.hosts) (hstorable : ∀ h ∈ s.hosts, h.Storable)
    (haddresses : ∀ h ∈ s.hosts, ∀ e ∈ h.endpoints, e.address ≠ [])
    (htitles : ∀ layout ∈ s.layouts, layout.editable = true → Storable layout.title)
    (hfile : t.file = (s.save preferences).file) :
    (t.load button current).hosts = s.hosts ∧
      (t.load button current).layouts.filter (·.editable) = s.layouts.filter (·.editable) ∧
      (t.load button current).load button current = t.load button current := by
  have hsynced : ∀ h ∈ s.hosts, h.Synced := hhosts ▸ calls_synced calls
  have hwritable : s.Writable := ⟨hd, hsynced, hstorable, haddresses, htitles⟩
  have hloaded := @load_saved preferences current s t button hwritable hfile
  have hkept : (t.load button current).file = (s.save preferences).file := by
    rw [hloaded]
    exact hfile
  refine ⟨by rw [hloaded], ?_, ?_⟩
  · rw [hloaded]
    simp [baseLayouts]
  · rw [load_saved hwritable hkept, hloaded]

def desk : Host where
  address := ascii "192.168.1.20"
  remoteAddress := ascii "desk.example.org:47989"
  hostname := ascii "DESK"
  mac := ascii "AA:BB:CC:00:11:22"

def attic : Host where
  address := ascii "100.64.0.2"
  mac := ascii "00:00:00:00:00:00"

def desktopApp : App := ⟨ascii "Desktop", 881448767⟩

def twoHosts : List HostCall :=
  [.addHost desk, .addHost attic, .addFavorite desk desktopApp]

/-- Two hosts, a favourite and a layout that swaps two buttons. -/
def twoHostSettings : Settings where
  hosts := twoHosts.foldl HostCall.apply []
  layouts := [{ title := ascii "Swapped", mapping := .ofList [(1, 0), (0, 1)] }]

/-- Settings with another host, that find the file of the two. -/
def freshSettings : Settings where
  hosts := [attic]
  file := (twoHostSettings.save (.object [])).file

theorem settings_round_trip_two_hosts :
    (freshSettings.load ⟨0, 1, 2, 3⟩ (.object [])).hosts = twoHostSettings.hosts ∧
      (freshSettings.load ⟨0, 1, 2, 3⟩ (.object [])).layouts.filter (·.editable) =
        twoHostSettings.layouts.filter (·.editable) ∧
      (freshSettings.load ⟨0, 1, 2, 3⟩ (.object [])).load ⟨0, 1, 2, 3⟩ (.object []) =
        freshSettings.load ⟨0, 1, 2, 3⟩ (.object []) :=
  settings_round_trip twoHosts rfl (by decide +kernel) (by decide +kernel) (by decide +kernel)
    (by decide +kernel) rfl

end ArtemisSwitch.HostStore

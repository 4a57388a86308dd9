import ArtemisSwitch.ApolloHostOptions
import ArtemisSwitch.InputSettingsStore
import ArtemisSwitch.Library.AssocMap

/-!
# The stores with an entry per host

`ApolloHostOptionsStore` and `WakeOnLanOverridesStore` keep their entries in one kind of file,
an object of objects.
-/

namespace ArtemisSwitch.HostStores
open Jansson Apollo
open InputSettings (FileContent integerValue)

/-- What is different in the two stores.  The valid items are read as they were written. -/
structure HostStore (α : Type) where
  SchemaVersion : Int64
  itemFields : α → List (Bytes × Option Value)
  readItem : Value → α
  Valid : α → Prop
  readItem_written : ∀ item, readItem (makeObject (itemFields item)) = item ↔ Valid item

abbrev Hosts (α : Type) := AList fun _ : Bytes => α

def objectMembers : Value → Option (List (Bytes × Value))
  | .object members => some members
  | _ => none

namespace HostStore

variable {α : Type} (store : HostStore α)

/-! ## reload and save -/

def readMember (hosts : Hosts α) (member : Bytes × Value) : Hosts α :=
  if member.2.isObject then hosts.insert member.1 (store.readItem member.2) else hosts

/-- A file that is missing or damaged gives no hosts. -/
def reload : Option FileContent → Hosts α
  | some (some root) =>
    if root.read integerValue "schema_version" = some store.SchemaVersion then
      ((root.read objectMembers "hosts").getD []).foldl store.readMember ∅
    else ∅
  | _ => ∅

/-- What a store that reloads the file finds under the keys. -/
def find (file : Option FileContent) (key : Bytes) : Option α := (store.reload file).lookup key

def hostFields (hosts : Hosts α) : List (Bytes × Option Value) :=
  hosts.entries.map fun e => (cString e.1, some (makeObject (store.itemFields e.2)))

/-- What `save` writes. -/
def toJson (hosts : Hosts α) : Value :=
  makeObject [(ascii "schema_version", some (.integer store.SchemaVersion)),
    (ascii "hosts", some (makeObject (store.hostFields hosts)))]

/-- A file can hold the hosts: the keys are texts, and the items are valid. -/
def Holds (hosts : Hosts α) : Prop := ∀ e ∈ hosts.entries, Storable e.1 ∧ store.Valid e.2

/-! ## What is written is read back -/

variable {store}

lemma cString_of_storable {s : Bytes} (h : Storable s) : cString s = s := by
  have hjson := jsonString_of_storable h
  unfold jsonString at hjson
  split_ifs at hjson
  simpa using hjson

lemma reload_toJson {hosts : Hosts α} {members : List (Bytes × Value)}
    (h : makeObject (store.hostFields hosts) = .object members) :
    store.reload (some (some (store.toJson hosts))) = members.foldl store.readMember ∅ := by
  have hok : keysOk [ascii "schema_version", ascii "hosts"] = true := by decide +kernel
  have hversion : (store.toJson hosts).read integerValue "schema_version" =
      (some (.integer store.SchemaVersion)).bind integerValue := read_makeObject 0 hok rfl rfl
  have hhosts : (store.toJson hosts).read objectMembers "hosts" =
      (some (makeObject (store.hostFields hosts))).bind objectMembers :=
    read_makeObject 1 hok rfl rfl
  have hsame : (some (Value.integer store.SchemaVersion)).bind integerValue =
      some store.SchemaVersion := rfl
  rw [reload, hversion, if_pos hsame, hhosts, h]
  rfl

/-- Only texts come back as keys. -/
lemma storable_of_mem_reload {hosts : Hosts α} {key : Bytes}
    (h : key ∈ store.reload (some (some (store.toJson hosts)))) : Storable key := by
  have hmembers : makeObject (store.hostFields hosts) = .object _ := rfl
  have hstep : ∀ (hosts : Hosts α) (member : Bytes × Value),
      key ∈ store.readMember hosts member → key ∈ hosts ∨ key = member.1 := by
    intro hosts member hmem
    unfold readMember at hmem
    split_ifs at hmem with hobject
    · exact (AList.mem_insert hosts).mp hmem |>.symm
    · exact .inl hmem
  rw [reload_toJson hmembers] at h
  rcases AList.mem_foldl hstep h with hempty | ⟨member, hmember, rfl⟩
  · exact absurd hempty (AList.notMem_empty key)
  · obtain ⟨hutf8, f, hf, hkey⟩ := key_of_mem_makeObject hmembers hmember
    obtain ⟨e, -, rfl⟩ := List.mem_map.mp hf
    refine ⟨hutf8, ?_⟩
    rw [hkey]
    exact zero_notMem_cString e.1

lemma lookup_readMembers {entries : List (Σ _ : Bytes, α)} (hnodup : entries.NodupKeys)
    (key : Bytes) :
    ((entries.map fun e => (e.1, makeObject (store.itemFields e.2))).foldl store.readMember
      ∅).lookup key =
        (entries.dlookup key).map fun item =>
          store.readItem (makeObject (store.itemFields item)) := by
  have hinsert : ∀ (hosts : Hosts α), ∀ e ∈ entries,
      store.readMember hosts (e.1, makeObject (store.itemFields e.2)) =
        hosts.insert e.1 (store.readItem (makeObject (store.itemFields e.2))) :=
    fun _ _ _ => rfl
  let read : Hosts α := AList.mapValues ⟨entries, hnodup⟩
    fun item => store.readItem (makeObject (store.itemFields item))
  have hread : entries.foldl (fun (hosts : Hosts α) e =>
      hosts.insert e.1 (store.readItem (makeObject (store.itemFields e.2)))) ∅ =
        read.entries.foldl (fun hosts e => hosts.insert e.1 e.2) ∅ := by
    simp only [read, AList.mapValues, List.foldl_map]
  rw [List.foldl_map, List.foldl_ext _ _ _ hinsert, hread,
    AList.lookup_foldl_insert read.nodupKeys key]
  exact AList.lookup_mapValues _ _

lemma members_hostFields {hosts : Hosts α} (h : ∀ e ∈ hosts.entries, Storable e.1) :
    makeObject (store.hostFields hosts) =
      .object (hosts.entries.map fun e => (e.1, makeObject (store.itemFields e.2))) := by
  have hfields : store.hostFields hosts =
      hosts.entries.map fun e => (e.1, some (makeObject (store.itemFields e.2))) := by
    apply List.map_congr_left
    intro e he
    rw [cString_of_storable (h e he)]
  rw [hfields, makeObject_eq]
  · rw [List.filterMap_map, ← List.filterMap_eq_map]
    rfl
  · rw [List.map_map]
    exact hosts.nodupKeys
  · intro f hf
    obtain ⟨e, he, rfl⟩ := List.mem_map.mp hf
    exact (h e he).1

/-- Under keys that are texts every item is read back from what was written of it. -/
lemma find_toJson {hosts : Hosts α} (h : ∀ e ∈ hosts.entries, Storable e.1) (key : Bytes) :
    store.find (some (some (store.toJson hosts))) key =
      (hosts.lookup key).map fun item => store.readItem (makeObject (store.itemFields item)) := by
  rw [find, reload_toJson (members_hostFields h)]
  exact lookup_readMembers hosts.nodupKeys key

/-- Hosts survive the file exactly when it can hold them. -/
theorem find_toJson_iff (hosts : Hosts α) :
    store.find (some (some (store.toJson hosts))) = (hosts.lookup ·) ↔ store.Holds hosts := by
  constructor
  · intro hfind
    have hfound : ∀ e ∈ hosts.entries,
        store.find (some (some (store.toJson hosts))) e.1 = some e.2 := by
      intro e he
      exact (congrFun hfind e.1).trans (AList.mem_lookup_iff.mpr he)
    have hkeys : ∀ e ∈ hosts.entries, Storable e.1 := by
      intro e he
      have hisSome := Option.isSome_of_eq_some (hfound e he)
      exact storable_of_mem_reload (AList.lookup_isSome.mp hisSome)
    intro e he
    have hitem := hfound e he
    have hlookup : hosts.lookup e.1 = some e.2 := AList.mem_lookup_iff.mpr he
    rw [find_toJson hkeys, hlookup, Option.map_some, Option.some.injEq] at hitem
    exact ⟨hkeys e he, (store.readItem_written e.2).mp hitem⟩
  · intro h
    funext key
    rw [find_toJson fun e he => (h e he).1]
    cases hlookup : hosts.lookup key with
    | none => rfl
    | some item =>
      have hmem : ⟨key, item⟩ ∈ hosts.entries := AList.mem_lookup_iff.mp hlookup
      rw [Option.map_some, (store.readItem_written item).mpr (h _ hmem).2]

end HostStore

/-! ## ApolloHostOptionsStore -/

def apolloFields (options : ApolloHostOptions) : List (Bytes × Option Value) :=
  [(ascii "target", jsonString (virtualDisplayTargetName options.target)),
    (ascii "width", jsonInteger options.customWidth),
    (ascii "height", jsonInteger options.customHeight),
    (ascii "refresh_rate", jsonInteger options.refreshRate),
    (ascii "scale_factor", jsonInteger options.scaleFactor)]

def readApollo (item : Value) : ApolloHostOptions :=
  let options : ApolloHostOptions := {}
  validateApolloHostOptions
    { target :=
        ((item.read Value.text "target").bind virtualDisplayTargetFromName).getD options.target
      customWidth := (item.read Value.int "width").getD options.customWidth
      customHeight := (item.read Value.int "height").getD options.customHeight
      refreshRate := (item.read Value.int "refresh_rate").getD options.refreshRate
      scaleFactor := (item.read Value.int "scale_factor").getD options.scaleFactor }

def apolloKeys : List Bytes := (apolloFields {}).map Prod.fst

lemma apolloKeys_ok : keysOk apolloKeys = true := by decide +kernel

lemma readApollo_written (options : ApolloHostOptions) :
    readApollo (makeObject (apolloFields options)) = validateApolloHostOptions options := by
  have hstorable : Storable (virtualDisplayTargetName options.target) := by
    cases options.target <;> decide +kernel
  have htarget : (makeObject (apolloFields options)).read Value.text "target" =
      (jsonString (virtualDisplayTargetName options.target)).bind Value.text :=
    read_makeObject 0 apolloKeys_ok rfl rfl
  have hwidth : (makeObject (apolloFields options)).read Value.int "width" =
      (jsonInteger options.customWidth).bind Value.int := read_makeObject 1 apolloKeys_ok rfl rfl
  have hheight : (makeObject (apolloFields options)).read Value.int "height" =
      (jsonInteger options.customHeight).bind Value.int := read_makeObject 2 apolloKeys_ok rfl rfl
  have hrate : (makeObject (apolloFields options)).read Value.int "refresh_rate" =
      (jsonInteger options.refreshRate).bind Value.int := read_makeObject 3 apolloKeys_ok rfl rfl
  have hscale : (makeObject (apolloFields options)).read Value.int "scale_factor" =
      (jsonInteger options.scaleFactor).bind Value.int := read_makeObject 4 apolloKeys_ok rfl rfl
  simp only [readApollo, htarget, hwidth, hheight, hrate, hscale, jsonString_bind hstorable,
    jsonInteger_bind, Option.bind_some, virtualDisplayTargetFromName_name, Option.getD_some]

lemma readApollo_written_iff (options : ApolloHostOptions) :
    readApollo (makeObject (apolloFields (validateApolloHostOptions options))) = options ↔
      validateApolloHostOptions options = options := by
  rw [readApollo_written, validateApolloHostOptions_idem]

/-- `save` checks the options once more. -/
def apolloStore : HostStore ApolloHostOptions where
  SchemaVersion := 2
  itemFields := fun options => apolloFields (validateApolloHostOptions options)
  readItem := readApollo
  Valid := fun options => validateApolloHostOptions options = options
  readItem_written := readApollo_written_iff

/-! ## WakeOnLanOverridesStore -/

structure WakeOnLanOverride where
  mac : Bytes := []
  address : Bytes := []
  port : UInt16 := 0
  secureOnPassword : Bytes := []
  resendAttempts : Int32 := 0
  deriving DecidableEq

def wakeOnLanFields (override : WakeOnLanOverride) : List (Bytes × Option Value) :=
  [(ascii "mac", jsonString override.mac), (ascii "address", jsonString override.address),
    (ascii "port", some (.integer override.port.toUInt64.toInt64)),
    (ascii "resend_attempts", jsonInteger override.resendAttempts),
    (ascii "secure_on_password", jsonString override.secureOnPassword)]

/-- `static_cast<unsigned short>` of an integer. -/
def portValue : Value → Option UInt16
  | .integer value => some value.toUInt64.toUInt16
  | _ => none

def readWakeOnLan (item : Value) : WakeOnLanOverride :=
  let override : WakeOnLanOverride := {}
  { mac := (item.read Value.text "mac").getD override.mac
    address := (item.read Value.text "address").getD override.address
    port := (item.read portValue "port").getD override.port
    secureOnPassword := (item.read Value.text "secure_on_password").getD override.secureOnPassword
    resendAttempts := (item.read Value.int "resend_attempts").getD override.resendAttempts }

def wakeOnLanKeys : List Bytes := (wakeOnLanFields {}).map Prod.fst

lemma wakeOnLanKeys_ok : keysOk wakeOnLanKeys = true := by decide +kernel

/-- The texts of an override can be written. -/
def WakeOnLanOverride.Storable (override : WakeOnLanOverride) : Prop :=
  Jansson.Storable override.mac ∧ Jansson.Storable override.address ∧
    Jansson.Storable override.secureOnPassword

/-- A text that cannot be written is missing, and is read as the empty one. -/
lemma readWakeOnLan_written (override : WakeOnLanOverride) :
    readWakeOnLan (makeObject (wakeOnLanFields override)) =
      { override with
        mac := ((jsonString override.mac).bind Value.text).getD []
        address := ((jsonString override.address).bind Value.text).getD []
        secureOnPassword := ((jsonString override.secureOnPassword).bind Value.text).getD [] } := by
  have hmac : (makeObject (wakeOnLanFields override)).read Value.text "mac" =
      (jsonString override.mac).bind Value.text := read_makeObject 0 wakeOnLanKeys_ok rfl rfl
  have haddress : (makeObject (wakeOnLanFields override)).read Value.text "address" =
      (jsonString override.address).bind Value.text := read_makeObject 1 wakeOnLanKeys_ok rfl rfl
  have hport : (makeObject (wakeOnLanFields override)).read portValue "port" =
      (some (.integer override.port.toUInt64.toInt64)).bind portValue :=
    read_makeObject 2 wakeOnLanKeys_ok rfl rfl
  have hattempts : (makeObject (wakeOnLanFields override)).read Value.int "resend_attempts" =
      (jsonInteger override.resendAttempts).bind Value.int :=
    read_makeObject 3 wakeOnLanKeys_ok rfl rfl
  have hpassword : (makeObject (wakeOnLanFields override)).read Value.text "secure_on_password" =
      (jsonString override.secureOnPassword).bind Value.text :=
    read_makeObject 4 wakeOnLanKeys_ok rfl rfl
  have hcast : override.port.toUInt64.toInt64.toUInt64.toUInt16 = override.port := by simp
  simp only [readWakeOnLan, hmac, haddress, hport, hattempts, hpassword, jsonInteger_bind,
    Option.bind_some, portValue, Option.getD_some, hcast]

lemma readWakeOnLan_written_iff (override : WakeOnLanOverride) :
    readWakeOnLan (makeObject (wakeOnLanFields override)) = override ↔ override.Storable := by
  rw [readWakeOnLan_written, WakeOnLanOverride.Storable, ← jsonString_getD_iff,
    ← jsonString_getD_iff, ← jsonString_getD_iff]
  cases override
  simp

def wakeOnLanStore : HostStore WakeOnLanOverride where
  SchemaVersion := 1
  itemFields := wakeOnLanFields
  readItem := readWakeOnLan
  Valid := WakeOnLanOverride.Storable
  readItem_written := readWakeOnLan_written_iff

end ArtemisSwitch.HostStores

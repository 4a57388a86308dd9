import ArtemisSwitch.HostKeyboardShortcuts
import ArtemisSwitch.StreamProfile
import Mathlib.Tactic.Linarith

/-!
# InputSettingsStore

The pointer settings and the shortcuts with `artemis_input.json`, which holds both.  Floats are
exact rationals.
-/

namespace ArtemisSwitch.InputSettings
open Jansson HostKeyboardShortcuts
open StreamProfile (PointerMode pointerModeName pointerModeFromName
  pointerModeFromLegacyTouchscreen jsonToFloat)

/-! ## PointerSettings -/

structure NormalizedRegion where
  left : ℚ := 0
  top : ℚ := 0
  right : ℚ := 1
  bottom : ℚ := 1
  deriving DecidableEq

structure PointerSettings where
  mode : PointerMode := .trackpadNatural
  localCursor : Bool := false
  naturalScrolling : Bool := true
  tapToClick : Bool := true
  twoFingerRightClick : Bool := true
  sensitivityX : ℚ := 1
  sensitivityY : ℚ := 1
  scrollSensitivity : ℚ := 1
  dragThreshold : ℚ := 8
  region : NormalizedRegion := {}
  deriving DecidableEq

/-- `std::clamp`. -/
def clamp (x low high : ℚ) : ℚ := if x < low then low else if high < x then high else x

def validateRegion (region : NormalizedRegion) : NormalizedRegion :=
  let left := clamp region.left 0 0.95
  let top := clamp region.top 0 0.95
  { left := left
    top := top
    right := clamp region.right (left + 0.05) 1
    bottom := clamp region.bottom (top + 0.05) 1 }

def validatePointerSettings (settings : PointerSettings) : PointerSettings :=
  { settings with
    sensitivityX := clamp settings.sensitivityX 0.1 5
    sensitivityY := clamp settings.sensitivityY 0.1 5
    scrollSensitivity := clamp settings.scrollSensitivity 0.1 5
    dragThreshold := clamp settings.dragThreshold 0 64
    region := validateRegion settings.region }

lemma clamp_mem {x low high : ℚ} (h : low ≤ high) :
    low ≤ clamp x low high ∧ clamp x low high ≤ high := by
  unfold clamp
  split_ifs with hlow hhigh
  · exact ⟨le_rfl, h⟩
  · exact ⟨h, le_rfl⟩
  · exact ⟨not_lt.mp hlow, not_lt.mp hhigh⟩

lemma clamp_eq {x low high : ℚ} (hlow : low ≤ x) (hhigh : x ≤ high) : clamp x low high = x := by
  rw [clamp, if_neg (not_lt.mpr hlow), if_neg (not_lt.mpr hhigh)]

lemma clamp_clamp {x low high : ℚ} (h : low ≤ high) :
    clamp (clamp x low high) low high = clamp x low high :=
  clamp_eq (clamp_mem h).1 (clamp_mem h).2

lemma validateRegion_idem (region : NormalizedRegion) :
    validateRegion (validateRegion region) = validateRegion region := by
  have hstart : ∀ x : ℚ, clamp (clamp x 0 0.95) 0 0.95 = clamp x 0 0.95 := by
    intro x
    exact clamp_clamp (by norm_num)
  -- the lower bound of an end depends on its start, and stays below 1
  have hend : ∀ x y : ℚ, clamp (clamp y (clamp x 0 0.95 + 0.05) 1) (clamp x 0 0.95 + 0.05) 1 =
      clamp y (clamp x 0 0.95 + 0.05) 1 := by
    intro x y
    have hle : clamp x 0 0.95 ≤ 0.95 := (clamp_mem (by norm_num)).2
    exact clamp_clamp (by linarith)
  simp only [validateRegion, hstart, hend]

/-- Checked settings pass the check unchanged. -/
theorem validatePointerSettings_idem (settings : PointerSettings) :
    validatePointerSettings (validatePointerSettings settings) =
      validatePointerSettings settings := by
  have hsensitivity : ∀ x : ℚ, clamp (clamp x 0.1 5) 0.1 5 = clamp x 0.1 5 := by
    intro x
    exact clamp_clamp (by norm_num)
  have hdrag : ∀ x : ℚ, clamp (clamp x 0 64) 0 64 = clamp x 0 64 := by
    intro x
    exact clamp_clamp (by norm_num)
  simp only [validatePointerSettings, hsensitivity, hdrag, validateRegion_idem]

lemma validatePointerSettings_default (mode : PointerMode) :
    validatePointerSettings { mode := mode } = { mode := mode } := by
  cases mode <;> decide +kernel

/-! ## reload -/

structure Settings where
  pointer : PointerSettings := {}
  shortcuts : List KeyboardShortcut := []
  deriving DecidableEq

def SchemaVersion : Int64 := 1

def integerValue : Value → Option Int64
  | .integer value => some value
  | _ => none

def arrayItems : Value → Option (List Value)
  | .array items => some items
  | _ => none

def number (object : Value) (name : String) (fallback : ℚ) : ℚ :=
  jsonToFloat (object.get (ascii name)) fallback

/-- A member of another type counts as missing. -/
def boolean (object : Value) (name : String) (fallback : Bool) : Bool :=
  match object.get (ascii name) with
  | some (.boolean value) => value
  | _ => fallback

def readRegion (region : Value) (kept : NormalizedRegion) : NormalizedRegion where
  left := number region "left" kept.left
  top := number region "top" kept.top
  right := number region "right" kept.right
  bottom := number region "bottom" kept.bottom

/-- The object under a key, if it is one. -/
def objectAt (key : String) (v : Value) : Option Value := (v.get (ascii key)).filter Value.isObject

def readPointer (pointer : Value) (kept : PointerSettings) : PointerSettings :=
  validatePointerSettings
    { mode := ((pointer.read Value.text "mode").bind pointerModeFromName).getD kept.mode
      localCursor := boolean pointer "local_cursor" kept.localCursor
      naturalScrolling := boolean pointer "natural_scrolling" kept.naturalScrolling
      tapToClick := boolean pointer "tap_to_click" kept.tapToClick
      twoFingerRightClick := boolean pointer "two_finger_right_click" kept.twoFingerRightClick
      sensitivityX := number pointer "sensitivity_x" kept.sensitivityX
      sensitivityY := number pointer "sensitivity_y" kept.sensitivityY
      scrollSensitivity := number pointer "scroll_sensitivity" kept.scrollSensitivity
      dragThreshold := number pointer "drag_threshold" kept.dragThreshold
      region :=
        match objectAt "region" pointer with
        | some region => readRegion region kept.region
        | none => kept.region }

/-- One key that is not known takes all keys with it. -/
def readKeys (keys : List Value) : List Int16 :=
  (keys.mapM fun key : Value => key.text.bind virtualKeyFromSymbol).getD []

def readShortcut (order : TableOrder) (item : Value) : Option KeyboardShortcut :=
  match item.read Value.text "id", item.read Value.text "name", item.read arrayItems "keys" with
  | some id, some name, some keys =>
    -- `windowsOnly` is in no file
    let shortcut : KeyboardShortcut :=
      { id := id, name := name, enabled := boolean item "enabled" true, keys := readKeys keys }
    if validateShortcut order shortcut = none then some shortcut else none
  | _, _, _ => none

def readSettings (order : TableOrder) (root : Value) : Settings :=
  if root.isObject = false ∨ root.read integerValue "schema_version" ≠ some SchemaVersion then {}
  else
    { pointer :=
        match objectAt "pointer" root with
        | some pointer => readPointer pointer {}
        | none => {}
      shortcuts := ((root.read arrayItems "shortcuts").getD []).filterMap (readShortcut order) }

/-- What `json_load_file` makes of a file; a damaged one has no value. -/
abbrev FileContent := Option Value

/-- What `reload` makes of the file, which may be missing. -/
def loadSettings (order : TableOrder) (touchscreenMouseMode : Bool) :
    Option FileContent → Settings
  | none => { pointer := { mode := pointerModeFromLegacyTouchscreen touchscreenMouseMode } }
  | some none => {}
  | some (some root) => readSettings order root

/-! ## save -/

def regionFields (region : NormalizedRegion) : List (Bytes × Option Value) :=
  [(ascii "left", jsonReal region.left), (ascii "top", jsonReal region.top),
    (ascii "right", jsonReal region.right), (ascii "bottom", jsonReal region.bottom)]

def pointerFields (pointer : PointerSettings) : List (Bytes × Option Value) :=
  [(ascii "mode", jsonString (pointerModeName pointer.mode)),
    (ascii "local_cursor", jsonBoolean pointer.localCursor),
    (ascii "natural_scrolling", jsonBoolean pointer.naturalScrolling),
    (ascii "tap_to_click", jsonBoolean pointer.tapToClick),
    (ascii "two_finger_right_click", jsonBoolean pointer.twoFingerRightClick),
    (ascii "sensitivity_x", jsonReal pointer.sensitivityX),
    (ascii "sensitivity_y", jsonReal pointer.sensitivityY),
    (ascii "scroll_sensitivity", jsonReal pointer.scrollSensitivity),
    (ascii "drag_threshold", jsonReal pointer.dragThreshold),
    (ascii "region", some (makeObject (regionFields pointer.region)))]

def keyValues (order : TableOrder) (keys : List Int16) : List Value :=
  keys.filterMap fun key => (symbolFromVirtualKey order key).bind jsonString

def shortcutFields (order : TableOrder) (shortcut : KeyboardShortcut) :
    List (Bytes × Option Value) :=
  [(ascii "id", jsonString shortcut.id), (ascii "name", jsonString shortcut.name),
    (ascii "enabled", jsonBoolean shortcut.enabled),
    (ascii "keys", some (.array (keyValues order shortcut.keys)))]

def shortcutValues (order : TableOrder) (shortcuts : List KeyboardShortcut) : List Value :=
  (shortcuts.filter fun shortcut => validateShortcut order shortcut = none).map fun shortcut =>
    makeObject (shortcutFields order shortcut)

def rootFields (order : TableOrder) (settings : Settings) : List (Bytes × Option Value) :=
  [(ascii "schema_version", some (.integer SchemaVersion)),
    (ascii "pointer", some (makeObject (pointerFields settings.pointer))),
    (ascii "shortcuts", some (.array (shortcutValues order settings.shortcuts)))]

/-- What `save` writes. -/
def settingsToJson (order : TableOrder) (settings : Settings) : Value :=
  makeObject (rootFields order settings)

/-! ## What is written is read back -/

def regionKeys : List Bytes := (regionFields {}).map Prod.fst

def pointerKeys : List Bytes := (pointerFields {}).map Prod.fst

def shortcutKeys : List Bytes := [ascii "id", ascii "name", ascii "enabled", ascii "keys"]

def rootKeys : List Bytes := [ascii "schema_version", ascii "pointer", ascii "shortcuts"]

lemma regionKeys_ok : keysOk regionKeys = true := by decide +kernel

lemma pointerKeys_ok : keysOk pointerKeys = true := by decide +kernel

lemma shortcutKeys_ok : keysOk shortcutKeys = true := by decide +kernel

lemma rootKeys_ok : keysOk rootKeys = true := by decide +kernel

section
variable (fields : List (Bytes × Option Value)) {keys : List Bytes} {name : String}

lemma number_written (n : ℕ) {x : ℚ} (hok : keysOk keys = true) (hkeys : fields.map Prod.fst = keys)
    (hget : fields[n]? = some (ascii name, jsonReal x)) (fallback : ℚ) :
    number (makeObject fields) name fallback = x := by
  rw [number, get_makeObject_at n hok hkeys hget]
  rfl

lemma boolean_written (n : ℕ) {b : Bool} (hok : keysOk keys = true)
    (hkeys : fields.map Prod.fst = keys) (hget : fields[n]? = some (ascii name, jsonBoolean b))
    (fallback : Bool) : boolean (makeObject fields) name fallback = b := by
  rw [boolean, get_makeObject_at n hok hkeys hget]
  rfl

lemma objectAt_written (n : ℕ) {members : List (Bytes × Option Value)} (hok : keysOk keys = true)
    (hkeys : fields.map Prod.fst = keys)
    (hget : fields[n]? = some (ascii name, some (makeObject members))) :
    objectAt name (makeObject fields) = some (makeObject members) := by
  rw [objectAt, get_makeObject_at n hok hkeys hget]
  rfl

end

lemma readRegion_written (region kept : NormalizedRegion) :
    readRegion (makeObject (regionFields region)) kept = region := by
  simp only [readRegion, number_written (regionFields region) 0 regionKeys_ok rfl rfl,
    number_written (regionFields region) 1 regionKeys_ok rfl rfl,
    number_written (regionFields region) 2 regionKeys_ok rfl rfl,
    number_written (regionFields region) 3 regionKeys_ok rfl rfl]

lemma readPointer_written (pointer kept : PointerSettings) :
    readPointer (makeObject (pointerFields pointer)) kept = validatePointerSettings pointer := by
  have hname : ∀ mode, Storable (pointerModeName mode) ∧
      pointerModeFromName (pointerModeName mode) = some mode := by
    intro mode
    cases mode <;> decide +kernel
  have hmode : ((makeObject (pointerFields pointer)).read Value.text "mode").bind
      pointerModeFromName = some pointer.mode := by
    have hread : (makeObject (pointerFields pointer)).read Value.text "mode" =
        (jsonString (pointerModeName pointer.mode)).bind Value.text :=
      read_makeObject 0 pointerKeys_ok rfl rfl
    rw [hread, jsonString_bind (hname pointer.mode).1]
    exact (hname pointer.mode).2
  have hregion : objectAt "region" (makeObject (pointerFields pointer)) =
      some (makeObject (regionFields pointer.region)) :=
    objectAt_written _ 9 pointerKeys_ok rfl rfl
  simp only [readPointer, hmode, Option.getD_some, hregion, readRegion_written,
    boolean_written (pointerFields pointer) 1 pointerKeys_ok rfl rfl,
    boolean_written (pointerFields pointer) 2 pointerKeys_ok rfl rfl,
    boolean_written (pointerFields pointer) 3 pointerKeys_ok rfl rfl,
    boolean_written (pointerFields pointer) 4 pointerKeys_ok rfl rfl,
    number_written (pointerFields pointer) 5 pointerKeys_ok rfl rfl,
    number_written (pointerFields pointer) 6 pointerKeys_ok rfl rfl,
    number_written (pointerFields pointer) 7 pointerKeys_ok rfl rfl,
    number_written (pointerFields pointer) 8 pointerKeys_ok rfl rfl]

variable {order : TableOrder}

lemma readKeys_written {keys : List Int16}
    (h : ∀ key ∈ keys, (symbolFromVirtualKey order key).isSome) :
    readKeys (keyValues order keys) = keys := by
  have hread : (keyValues order keys).mapM
      (fun key : Value => key.text.bind virtualKeyFromSymbol) = some keys := by
    induction keys with
    | nil => rfl
    | cons key keys ih =>
      obtain ⟨symbol, hsymbol⟩ := Option.isSome_iff_exists.mp (h key (by simp))
      have hvalue : (symbolFromVirtualKey order key).bind jsonString = some (.string symbol) := by
        rw [hsymbol, Option.bind_some, jsonString_of_storable (symbol_storable hsymbol)]
      have hkey : (Value.string symbol).text.bind virtualKeyFromSymbol = some key :=
        virtualKeyFromSymbol_symbol hsymbol
      have hcons : keyValues order (key :: keys) = .string symbol :: keyValues order keys :=
        List.filterMap_cons_some hvalue
      rw [hcons, List.mapM_cons, hkey, ih fun k hk => h k (List.mem_cons_of_mem _ hk)]
      rfl
  rw [readKeys, hread, Option.getD_some]

/-- The texts of a shortcut can be written. -/
def Writable (shortcut : KeyboardShortcut) : Prop :=
  Storable shortcut.id ∧ Storable shortcut.name

/-- What the file keeps of a shortcut. -/
def written (shortcut : KeyboardShortcut) : KeyboardShortcut :=
  { shortcut with windowsOnly := false }

lemma readShortcut_written {shortcut : KeyboardShortcut} (hw : Writable shortcut)
    (hvalid : validateShortcut order shortcut = none) :
    readShortcut order (makeObject (shortcutFields order shortcut)) = some (written shortcut) := by
  have hid : (makeObject (shortcutFields order shortcut)).read Value.text "id" =
      (jsonString shortcut.id).bind Value.text := read_makeObject 0 shortcutKeys_ok rfl rfl
  have hname : (makeObject (shortcutFields order shortcut)).read Value.text "name" =
      (jsonString shortcut.name).bind Value.text := read_makeObject 1 shortcutKeys_ok rfl rfl
  have hkeys : (makeObject (shortcutFields order shortcut)).read arrayItems "keys" =
      (some (.array (keyValues order shortcut.keys))).bind arrayItems :=
    read_makeObject 3 shortcutKeys_ok rfl rfl
  have hsymbols : ∀ key ∈ shortcut.keys, (symbolFromVirtualKey order key).isSome := by
    intro key hkey
    exact ((validateShortcut_iff.mp hvalid).2.2.2.2 key hkey).2
  simp only [readShortcut, hid, hname, jsonString_bind hw.1, jsonString_bind hw.2, hkeys,
    Option.bind_some, arrayItems, readKeys_written hsymbols,
    boolean_written (shortcutFields order shortcut) 2 shortcutKeys_ok rfl rfl]
  exact if_pos hvalid

/-- A shortcut of the file is valid, and was never one for Windows only. -/
lemma readShortcut_eq_some {item : Value} {shortcut : KeyboardShortcut}
    (h : readShortcut order item = some shortcut) :
    item.read Value.text "id" = some shortcut.id ∧
      item.read Value.text "name" = some shortcut.name ∧
        validateShortcut order shortcut = none ∧ written shortcut = shortcut := by
  unfold readShortcut at h
  split at h
  · rename_i id name keys hid hname hkeys
    dsimp only at h
    split_ifs at h with hvalid
    rw [Option.some.injEq] at h
    subst h
    exact ⟨hid, hname, hvalid, rfl⟩
  · cases h

/-- A shortcut comes back as it was where the file can hold all of it. -/
lemma readShortcut_written_iff {shortcut : KeyboardShortcut} :
    readShortcut order (makeObject (shortcutFields order shortcut)) = some shortcut ↔
      Writable shortcut ∧ validateShortcut order shortcut = none ∧
        shortcut.windowsOnly = false := by
  constructor
  · intro h
    have hid : (makeObject (shortcutFields order shortcut)).read Value.text "id" =
        (jsonString shortcut.id).bind Value.text := read_makeObject 0 shortcutKeys_ok rfl rfl
    have hname : (makeObject (shortcutFields order shortcut)).read Value.text "name" =
        (jsonString shortcut.name).bind Value.text := read_makeObject 1 shortcutKeys_ok rfl rfl
    obtain ⟨hreadId, hreadName, hvalid, hwritten⟩ := readShortcut_eq_some h
    -- the texts that were read are those of the shortcut, so both were written
    refine ⟨⟨jsonString_bind_iff.mp (hid.symm.trans hreadId),
      jsonString_bind_iff.mp (hname.symm.trans hreadName)⟩, hvalid, ?_⟩
    rw [← hwritten]
    rfl
  · rintro ⟨hwritable, hvalid, heverywhere⟩
    have hwritten : written shortcut = shortcut := by
      rw [written, ← heverywhere]
    rw [readShortcut_written hwritable hvalid, hwritten]

lemma readSettings_toJson (settings : Settings) :
    readSettings order (settingsToJson order settings) =
      { pointer := validatePointerSettings settings.pointer
        shortcuts :=
          (shortcutValues order settings.shortcuts).filterMap (readShortcut order) } := by
  have hversion : (settingsToJson order settings).read integerValue "schema_version" =
      (some (.integer SchemaVersion)).bind integerValue := read_makeObject 0 rootKeys_ok rfl rfl
  have hpointer : objectAt "pointer" (settingsToJson order settings) =
      some (makeObject (pointerFields settings.pointer)) :=
    objectAt_written _ 1 rootKeys_ok rfl rfl
  have hitems : (settingsToJson order settings).read arrayItems "shortcuts" =
      (some (.array (shortcutValues order settings.shortcuts))).bind arrayItems :=
    read_makeObject 2 rootKeys_ok rfl rfl
  have hguard : ¬((settingsToJson order settings).isObject = false ∨
      (settingsToJson order settings).read integerValue "schema_version" ≠ some SchemaVersion) := by
    rintro (hkind | hne)
    · exact absurd hkind (by simp [settingsToJson, makeObject, Value.isObject])
    · exact hne hversion
  rw [readSettings, if_neg hguard]
  simp only [hpointer, hitems, readPointer_written, Option.bind_some, arrayItems,
    Option.getD_some]

lemma shortcutValues_of_valid {shortcuts : List KeyboardShortcut}
    (h : ∀ s ∈ shortcuts, validateShortcut order s = none) :
    shortcutValues order shortcuts =
      shortcuts.map fun shortcut => makeObject (shortcutFields order shortcut) := by
  have hall : shortcuts.filter (fun s => validateShortcut order s = none) = shortcuts := by
    rw [List.filter_eq_self]
    exact fun s hs => decide_eq_true (h s hs)
  rw [shortcutValues, hall]

/-- Valid shortcuts and any pointer settings survive the file, the latter checked. -/
theorem readSettings_written {settings : Settings}
    (h : ∀ s ∈ settings.shortcuts, Writable s ∧ validateShortcut order s = none) :
    readSettings order (settingsToJson order settings) =
      { pointer := validatePointerSettings settings.pointer
        shortcuts := settings.shortcuts.map written } := by
  have hread : (shortcutValues order settings.shortcuts).filterMap (readShortcut order) =
      settings.shortcuts.map written := by
    rw [shortcutValues_of_valid fun s hs => (h s hs).2, List.filterMap_map,
      ← List.filterMap_eq_map]
    exact List.filterMap_congr fun s hs => readShortcut_written (h s hs).1 (h s hs).2
  rw [readSettings_toJson, hread]

/-- What a file can hold: checked pointer settings, and valid shortcuts that can be written and
are for every host. -/
structure Settings.Storable (order : TableOrder) (settings : Settings) : Prop where
  pointer : validatePointerSettings settings.pointer = settings.pointer
  shortcuts : ∀ s ∈ settings.shortcuts,
    Writable s ∧ validateShortcut order s = none ∧ s.windowsOnly = false

/-- Settings survive the file exactly when it can hold them. -/
theorem readSettings_toJson_iff (settings : Settings) :
    readSettings order (settingsToJson order settings) = settings ↔ settings.Storable order := by
  have hback : ∀ {shortcuts : List KeyboardShortcut},
      (∀ s ∈ shortcuts, validateShortcut order s = none) →
        ((shortcutValues order shortcuts).filterMap (readShortcut order) = shortcuts ↔
          ∀ s ∈ shortcuts,
            readShortcut order (makeObject (shortcutFields order s)) = some s) := by
    intro shortcuts hvalid
    rw [shortcutValues_of_valid hvalid, List.filterMap_map]
    simpa using List.filterMap_eq_map_iff_forall_eq_some (g := id) (l := shortcuts)
  rw [readSettings_toJson]
  constructor
  · intro h
    have hpointer := congrArg Settings.pointer h
    have hshortcuts := congrArg Settings.shortcuts h
    have hvalid : ∀ s ∈ settings.shortcuts, validateShortcut order s = none := by
      intro s hs
      rw [← hshortcuts] at hs
      obtain ⟨item, -, hread⟩ := List.mem_filterMap.mp hs
      exact (readShortcut_eq_some hread).2.2.1
    exact ⟨hpointer, fun s hs => readShortcut_written_iff.mp ((hback hvalid).mp hshortcuts s hs)⟩
  · rintro ⟨hpointer, hshortcuts⟩
    have hread := (hback fun s hs => (hshortcuts s hs).2.1).mpr fun s hs =>
      readShortcut_written_iff.mpr (hshortcuts s hs)
    rw [hpointer, hread]

end ArtemisSwitch.InputSettings

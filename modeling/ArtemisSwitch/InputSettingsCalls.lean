import ArtemisSwitch.InputSettingsStore
import ArtemisSwitch.Library.Runs
import ArtemisSwitch.StreamProfileCalls

/-!
# Calls on the input settings store

Two settings share the file and the flag that says they are loaded.  A setter that is the first
call sets the flag without a load, and the other setting is lost.
-/

namespace ArtemisSwitch.InputSettings
open Jansson HostKeyboardShortcuts Runs
open StreamProfile (Document Parsed)

/-- What a run of the program fixes. -/
structure Surroundings where
  order : TableOrder
  /-- The setting of an earlier version. -/
  touchscreenMouseMode : Bool

structure InputSettingsStore where
  settings : Settings := {}
  loaded : Bool := false
  /-- `artemis_input.json`. -/
  file : Option FileContent := none

namespace InputSettingsStore

variable (env : Surroundings)

/-- What a reload finds. -/
def stored (s : InputSettingsStore) : Settings :=
  loadSettings env.order env.touchscreenMouseMode s.file

def reload (s : InputSettingsStore) : InputSettingsStore :=
  { s with settings := s.stored env, loaded := true }

def ensureLoaded (s : InputSettingsStore) : InputSettingsStore :=
  if s.loaded then s else s.reload env

/-- What `pointer()` and `shortcuts()` return. -/
def shown (s : InputSettingsStore) : Settings := (s.ensureLoaded env).settings

def save (s : InputSettingsStore) : InputSettingsStore :=
  { s with file := some (some (settingsToJson env.order s.settings)) }

def setPointer (pointer : PointerSettings) (persist : Bool) (s : InputSettingsStore) :
    InputSettingsStore :=
  -- without a load first: the shortcuts are those of the memory, which may be none
  let set : InputSettingsStore :=
    { s with
      settings := { s.settings with pointer := validatePointerSettings pointer }
      loaded := true }
  if persist then set.save env else set

/-- The error is that of the first shortcut which is not valid. -/
def setShortcuts (shortcuts : List KeyboardShortcut) (s : InputSettingsStore) :
    Option String × InputSettingsStore :=
  match shortcuts.findSome? (validateShortcut env.order) with
  | some error => (some error, s)
  | none =>
    let set : InputSettingsStore :=
      { s with settings := { s.settings with shortcuts := shortcuts }, loaded := true }
    (none, set.save env)

inductive Call
  | pointer
  | shortcuts
  | setPointer (pointer : PointerSettings) (persist : Bool)
  | setShortcuts (shortcuts : { l : List KeyboardShortcut // ∀ x ∈ l, Writable x })
  | reload

def next (s : InputSettingsStore) : Call → InputSettingsStore
  | .pointer => s.ensureLoaded env
  | .shortcuts => s.ensureLoaded env
  | .setPointer pointer persist => s.setPointer env pointer persist
  | .setShortcuts shortcuts => (s.setShortcuts env shortcuts.1).2
  | .reload => s.reload env

/-- The store before the first call. -/
def fresh (file : Option (Option Document)) : InputSettingsStore :=
  { file := file.map fun content => content.map (·.1) }

def run (file : Option (Option Document)) (calls : List Call) : InputSettingsStore :=
  calls.foldl (next env) (fresh file)

/-- Every shortcut of the list can be set. -/
def AllValid (shortcuts : List KeyboardShortcut) : Prop :=
  ∀ x ∈ shortcuts, validateShortcut env.order x = none

instance (shortcuts : List KeyboardShortcut) : Decidable (AllValid env shortcuts) :=
  inferInstanceAs (Decidable (∀ x ∈ shortcuts, _))

/-! ## What a call has to keep -/

/-- A setter leaves the other setting alone, in memory and in the file, and a refused list of
shortcuts changes nothing. -/
def Keeps (s : InputSettingsStore) : Call → Prop
  | .setPointer pointer persist =>
    ((s.setPointer env pointer persist).shown env).shortcuts = (s.shown env).shortcuts ∧
      ((s.setPointer env pointer persist).stored env).shortcuts = (s.stored env).shortcuts
  | .setShortcuts shortcuts =>
    if AllValid env shortcuts.1 then
      ((s.setShortcuts env shortcuts.1).2.shown env).pointer = (s.shown env).pointer
    else (s.setShortcuts env shortcuts.1).2 = s
  | _ => True

/-- The pointer settings were set last by a call that saved them. -/
def LastPointer (calls : List Call) (pointer : PointerSettings) : Prop :=
  ∃ before after, calls = before ++ .setPointer pointer true :: after ∧
    ∀ call ∈ after, ∀ other persist, call ≠ .setPointer other persist

/-- The shortcuts were the last that were set. -/
def LastShortcuts (calls : List Call) (shortcuts : List KeyboardShortcut) : Prop :=
  ∃ before list after, calls = before ++ .setShortcuts list :: after ∧ list.1 = shortcuts ∧
    AllValid env shortcuts ∧
      ∀ call ∈ after, ∀ other, call = .setShortcuts other → ¬AllValid env other.1

/-- Every setter leaves the other setting alone, and a reload gives what was set last. -/
def KeepsApart (file : Option (Option Document)) (calls : List Call) : Prop :=
  (∀ before call after, calls = before ++ call :: after → Keeps env (run env file before) call) ∧
    ∀ pointer shortcuts, LastPointer calls pointer → LastShortcuts env calls shortcuts →
      (run env file calls).stored env =
        { pointer := validatePointerSettings pointer, shortcuts := shortcuts.map written }

/-- The store is loaded, or there is nothing to lose. -/
def NothingToLose (s : InputSettingsStore) : Call → Prop
  | .setPointer _ _ => s.loaded = true ∨ (s.stored env).shortcuts = []
  | .setShortcuts shortcuts =>
    s.loaded = true ∨ ¬AllValid env shortcuts.1 ∨ (s.stored env).pointer = {}
  | _ => True

instance (s : InputSettingsStore) : (call : Call) → Decidable (NothingToLose env s call)
  | .setPointer _ _ => inferInstanceAs (Decidable (_ ∨ _))
  | .setShortcuts _ => inferInstanceAs (Decidable (_ ∨ ¬_ ∨ _))
  | .pointer => inferInstanceAs (Decidable True)
  | .shortcuts => inferInstanceAs (Decidable True)
  | .reload => inferInstanceAs (Decidable True)

end InputSettingsStore

/-! ## Settings that can be written -/

/-- Checked pointer settings and valid shortcuts. -/
structure Settings.Sound (order : TableOrder) (settings : Settings) : Prop where
  pointer : validatePointerSettings settings.pointer = settings.pointer
  texts : ∀ x ∈ settings.shortcuts, Writable x
  valid : ∀ x ∈ settings.shortcuts, validateShortcut order x = none

variable {order : TableOrder} {settings : Settings}

lemma sound_mode (mode : StreamProfile.PointerMode) :
    Settings.Sound order { pointer := { mode := mode } } :=
  ⟨validatePointerSettings_default mode, by simp, by simp⟩

lemma Settings.Sound.written (h : Settings.Sound order settings) :
    Settings.Sound order { settings with shortcuts := settings.shortcuts.map written } where
  pointer := h.pointer
  texts := by
    intro x hx
    obtain ⟨y, hy, rfl⟩ := List.mem_map.mp hx
    exact h.texts y hy
  valid := by
    intro x hx
    obtain ⟨y, hy, rfl⟩ := List.mem_map.mp hx
    exact h.valid y hy

lemma storable_read {v : Value} (h : Parsed v) {key : String} {text : Bytes}
    (hread : v.read Value.text key = some text) : Storable text := by
  obtain ⟨w, hget, htext⟩ := Option.bind_eq_some_iff.mp hread
  cases h.get hget with
  | string hs =>
    rw [← Option.some.inj htext]
    exact hs
  | _ => simp [Value.text] at htext

lemma parsed_items {v : Value} (h : Parsed v) {key : String} {items : List Value}
    (hread : v.read arrayItems key = some items) : ∀ w ∈ items, Parsed w := by
  obtain ⟨w, hget, hitems⟩ := Option.bind_eq_some_iff.mp hread
  cases h.get hget with
  | array hall =>
    rw [← Option.some.inj hitems]
    exact hall
  | _ => simp [arrayItems] at hitems

lemma mem_readSettings {root : Value} {shortcut : KeyboardShortcut}
    (h : shortcut ∈ (readSettings order root).shortcuts) :
    ∃ items item, root.read arrayItems "shortcuts" = some items ∧ item ∈ items ∧
      readShortcut order item = some shortcut := by
  unfold readSettings at h
  split_ifs at h with hguard
  · cases h
  · obtain ⟨item, hitem, hread⟩ := List.mem_filterMap.mp h
    cases hitems : root.read arrayItems "shortcuts" with
    | none =>
      rw [hitems] at hitem
      cases hitem
    | some items =>
      rw [hitems] at hitem
      exact ⟨items, item, rfl, hitem, hread⟩

lemma readPointer_checked (pointer : Value) (kept : PointerSettings) :
    validatePointerSettings (readPointer pointer kept) = readPointer pointer kept :=
  validatePointerSettings_idem _

lemma sound_readSettings {root : Value} (h : Parsed root) :
    Settings.Sound order (readSettings order root) where
  pointer := by
    unfold readSettings
    split_ifs
    · exact validatePointerSettings_default _
    · dsimp only
      split
      · exact readPointer_checked _ _
      · exact validatePointerSettings_default _
  texts := by
    intro x hx
    obtain ⟨items, item, hitems, hitem, hread⟩ := mem_readSettings hx
    have hparsed : Parsed item := parsed_items h hitems item hitem
    obtain ⟨hid, hname, -, -⟩ := readShortcut_eq_some hread
    exact ⟨storable_read hparsed hid, storable_read hparsed hname⟩
  valid := by
    intro x hx
    obtain ⟨-, item, -, -, hread⟩ := mem_readSettings hx
    exact (readShortcut_eq_some hread).2.2.1

lemma sound_loadSettings (touchscreenMouseMode : Bool) (file : Option (Option Document)) :
    Settings.Sound order (loadSettings order touchscreenMouseMode
      (file.map fun content => content.map (·.1))) := by
  cases file with
  | none => exact sound_mode _
  | some content =>
    cases content with
    | none => exact sound_mode _
    | some root => exact sound_readSettings root.2

lemma map_written_readSettings (root : Value) :
    (readSettings order root).shortcuts.map written = (readSettings order root).shortcuts := by
  refine (List.map_congr_left fun x hx => ?_).trans (List.map_id _)
  obtain ⟨-, item, -, -, hread⟩ := mem_readSettings hx
  exact (readShortcut_eq_some hread).2.2.2

/-- What comes from the file goes back into it unchanged. -/
lemma map_written_loadSettings (touchscreenMouseMode : Bool) (file : Option FileContent) :
    (loadSettings order touchscreenMouseMode file).shortcuts.map written =
      (loadSettings order touchscreenMouseMode file).shortcuts := by
  match file with
  | none => rfl
  | some none => rfl
  | some (some root) => exact map_written_readSettings root

/-! ## What the calls keep -/

namespace InputSettingsStore

variable {env : Surroundings} {s : InputSettingsStore} {call : Call}

/-- What holds of the store in every run. -/
structure Sound (env : Surroundings) (s : InputSettingsStore) : Prop where
  untouched : s.loaded = false → s.settings = {}
  settings : Settings.Sound env.order s.settings
  stored : Settings.Sound env.order (s.stored env)

/-- Once it is loaded, the store has the shortcuts of the file. -/
def Agrees (env : Surroundings) (s : InputSettingsStore) : Prop :=
  s.loaded = true → (s.stored env).shortcuts = s.settings.shortcuts.map written

lemma stored_save (h : Settings.Sound env.order s.settings) : (s.save env).stored env =
    { pointer := s.settings.pointer, shortcuts := s.settings.shortcuts.map written } := by
  have hread := readSettings_written fun x hx => ⟨h.texts x hx, h.valid x hx⟩
  rw [h.pointer] at hread
  exact hread

lemma Sound.save (h : s.Sound env) (hloaded : s.loaded = true) : (s.save env).Sound env where
  untouched := fun hnot => absurd (hloaded.symm.trans hnot) (by decide)
  settings := h.settings
  stored := by
    rw [stored_save h.settings]
    exact h.settings.written

lemma Sound.reload (h : s.Sound env) : (s.reload env).Sound env :=
  ⟨fun hnot => absurd hnot (by simp [InputSettingsStore.reload]), h.stored, h.stored⟩

lemma Sound.ensureLoaded (h : s.Sound env) : (s.ensureLoaded env).Sound env := by
  unfold InputSettingsStore.ensureLoaded
  split_ifs
  · exact h
  · exact h.reload

lemma Sound.setPointer (h : s.Sound env) (pointer : PointerSettings) (persist : Bool) :
    (s.setPointer env pointer persist).Sound env := by
  have hset : Sound env
      { s with
        settings := { s.settings with pointer := validatePointerSettings pointer }
        loaded := true } :=
    ⟨fun hnot => absurd hnot (by simp),
      ⟨validatePointerSettings_idem pointer, h.settings.texts, h.settings.valid⟩, h.stored⟩
  cases persist with
  | false => exact hset
  | true => exact hset.save rfl

variable {shortcuts : List KeyboardShortcut}

lemma setShortcuts_of_valid (h : AllValid env shortcuts) : s.setShortcuts env shortcuts =
    (none, InputSettingsStore.save env
      { s with settings := { s.settings with shortcuts := shortcuts }, loaded := true }) := by
  rw [setShortcuts, List.findSome?_eq_none_iff.mpr h]

/-- A list with a shortcut that is not valid is refused, and nothing changes. -/
lemma setShortcuts_of_invalid (h : ¬AllValid env shortcuts) :
    (s.setShortcuts env shortcuts).2 = s := by
  unfold setShortcuts
  cases hfind : shortcuts.findSome? (validateShortcut env.order) with
  | some error => rfl
  | none => exact absurd (List.findSome?_eq_none_iff.mp hfind) h

lemma Sound.setShortcuts (h : s.Sound env) (hw : ∀ x ∈ shortcuts, Writable x) :
    (s.setShortcuts env shortcuts).2.Sound env := by
  by_cases hvalid : AllValid env shortcuts
  · have hset : Sound env
        { s with settings := { s.settings with shortcuts := shortcuts }, loaded := true } :=
      ⟨fun hnot => absurd hnot (by simp), ⟨h.settings.pointer, hw, hvalid⟩, h.stored⟩
    rw [setShortcuts_of_valid hvalid]
    exact hset.save rfl
  · rw [setShortcuts_of_invalid hvalid]
    exact h

lemma Sound.next (h : s.Sound env) (call : Call) : (s.next env call).Sound env := by
  cases call with
  | pointer => exact h.ensureLoaded
  | shortcuts => exact h.ensureLoaded
  | setPointer pointer persist => exact h.setPointer pointer persist
  | setShortcuts shortcuts => exact h.setShortcuts shortcuts.2
  | reload => exact h.reload

lemma sound_fresh (file : Option (Option Document)) : (fresh file).Sound env :=
  ⟨fun _ => rfl, sound_mode _, sound_loadSettings _ file⟩

lemma sound_run (file : Option (Option Document)) (calls : List Call) :
    (run env file calls).Sound env :=
  List.foldlRecOn (motive := Sound env) calls (next env) (sound_fresh file)
    fun _ h call _ => h.next call

/-! ## When one setting loses the other -/

lemma shown_of_loaded (h : s.loaded = true) : s.shown env = s.settings := by
  rw [shown, ensureLoaded, if_pos h]

lemma shown_of_not_loaded (h : s.loaded = false) : s.shown env = s.stored env := by
  rw [shown, ensureLoaded, if_neg (by simp [h])]
  rfl

lemma setPointer_loaded (pointer : PointerSettings) (persist : Bool) :
    (s.setPointer env pointer persist).loaded = true ∧
      (s.setPointer env pointer persist).settings =
        { s.settings with pointer := validatePointerSettings pointer } := by
  cases persist <;> exact ⟨rfl, rfl⟩

/-- The shortcuts in the file after the pointer settings are set. -/
lemma stored_setPointer (h : s.Sound env) (pointer : PointerSettings) (persist : Bool) :
    (s.setPointer env pointer persist).stored env =
      if persist then
        { pointer := validatePointerSettings pointer
          shortcuts := s.settings.shortcuts.map written }
      else s.stored env := by
  cases persist with
  | false => rfl
  | true =>
    exact stored_save ⟨validatePointerSettings_idem pointer, h.settings.texts, h.settings.valid⟩

lemma stored_setShortcuts (h : s.Sound env) (hw : ∀ x ∈ shortcuts, Writable x)
    (hvalid : AllValid env shortcuts) : (s.setShortcuts env shortcuts).2.stored env =
      { pointer := s.settings.pointer, shortcuts := shortcuts.map written } := by
  rw [setShortcuts_of_valid hvalid]
  exact stored_save ⟨h.settings.pointer, hw, hvalid⟩

lemma keeps_setPointer_iff (h : s.Sound env) (hagrees : s.Agrees env) (pointer : PointerSettings)
    (persist : Bool) : Keeps env s (.setPointer pointer persist) ↔
      NothingToLose env s (.setPointer pointer persist) := by
  obtain ⟨hset, hsettings⟩ := @setPointer_loaded env s pointer persist
  rw [Keeps, NothingToLose, shown_of_loaded hset, hsettings, stored_setPointer h]
  cases hloaded : s.loaded with
  | true =>
    rw [shown_of_loaded hloaded]
    refine iff_of_true ⟨rfl, ?_⟩ (.inl rfl)
    cases persist with
    | false => rfl
    | true => exact (hagrees hloaded).symm
  | false =>
    -- the memory is still the default, and the setter puts it over the file
    rw [shown_of_not_loaded hloaded, h.untouched hloaded]
    constructor
    · rintro ⟨hshown, -⟩
      exact .inr hshown.symm
    · intro hnothing
      have hnone : (s.stored env).shortcuts = [] := hnothing.resolve_left (by decide)
      refine ⟨hnone.symm, ?_⟩
      cases persist with
      | false => rfl
      | true => exact hnone.symm

lemma keeps_setShortcuts_iff (h : s.Sound env)
    (list : { l : List KeyboardShortcut // ∀ x ∈ l, Writable x }) :
    Keeps env s (.setShortcuts list) ↔ NothingToLose env s (.setShortcuts list) := by
  rw [Keeps, NothingToLose]
  by_cases hvalid : AllValid env list.1
  · rw [if_pos hvalid, setShortcuts_of_valid hvalid, shown_of_loaded rfl]
    cases hloaded : s.loaded with
    | true =>
      rw [shown_of_loaded hloaded]
      exact iff_of_true rfl (.inl rfl)
    | false =>
      rw [shown_of_not_loaded hloaded, h.untouched hloaded]
      simp only [Bool.false_eq_true, false_or, hvalid, not_true_eq_false]
      exact eq_comm
  · rw [if_neg hvalid]
    exact iff_of_true (setShortcuts_of_invalid hvalid) (.inr (.inl hvalid))

/-- A setter keeps the other setting exactly where it has nothing to lose. -/
lemma keeps_iff (h : s.Sound env) (hagrees : s.Agrees env) (call : Call) :
    Keeps env s call ↔ NothingToLose env s call := by
  cases call with
  | setPointer pointer persist => exact keeps_setPointer_iff h hagrees pointer persist
  | setShortcuts list => exact keeps_setShortcuts_iff h list
  | _ => exact Iff.rfl

lemma agrees_reload : (s.reload env).Agrees env := fun _ => (map_written_loadSettings _ s.file).symm

lemma agrees_ensureLoaded (hagrees : s.Agrees env) : (s.ensureLoaded env).Agrees env := by
  unfold ensureLoaded
  split_ifs
  · exact hagrees
  · exact agrees_reload

lemma agrees_setPointer (h : s.Sound env) (hagrees : s.Agrees env) {pointer : PointerSettings}
    {persist : Bool} (hnothing : NothingToLose env s (.setPointer pointer persist)) :
    (s.setPointer env pointer persist).Agrees env := by
  intro _
  rw [stored_setPointer h, (setPointer_loaded pointer persist).2]
  cases persist with
  | true => rfl
  | false =>
    -- the file is as before, and so are the shortcuts of the memory
    cases hloaded : s.loaded with
    | true => exact hagrees hloaded
    | false =>
      have hnone : (s.stored env).shortcuts = [] :=
        hnothing.resolve_left (by simp [hloaded])
      rw [h.untouched hloaded]
      exact hnone

lemma agrees_setShortcuts (h : s.Sound env) (hagrees : s.Agrees env)
    (hw : ∀ x ∈ shortcuts, Writable x) : (s.setShortcuts env shortcuts).2.Agrees env := by
  by_cases hvalid : AllValid env shortcuts
  · intro _
    rw [stored_setShortcuts h hw hvalid, setShortcuts_of_valid hvalid]
    rfl
  · rw [setShortcuts_of_invalid hvalid]
    exact hagrees

lemma agrees_next (h : s.Sound env) (hagrees : s.Agrees env) (call : Call)
    (hnothing : NothingToLose env s call) : (s.next env call).Agrees env := by
  cases call with
  | pointer => exact agrees_ensureLoaded hagrees
  | shortcuts => exact agrees_ensureLoaded hagrees
  | setPointer pointer persist => exact agrees_setPointer h hagrees hnothing
  | setShortcuts list => exact agrees_setShortcuts h hagrees list.2
  | reload => exact agrees_reload

/-! ## What was set last -/

/-- The pointer settings are in memory and in the file. -/
def HasPointer (env : Surroundings) (pointer : PointerSettings) (s : InputSettingsStore) : Prop :=
  s.loaded = true ∧ s.settings.pointer = pointer ∧ (s.stored env).pointer = pointer

/-- The shortcuts are in memory and in the file. -/
def HasShortcuts (env : Surroundings) (shortcuts : List KeyboardShortcut)
    (s : InputSettingsStore) : Prop :=
  s.loaded = true ∧ s.settings.shortcuts.map written = shortcuts.map written ∧
    (s.stored env).shortcuts = shortcuts.map written

variable {p : PointerSettings} {l : List KeyboardShortcut}

lemma ensureLoaded_of_loaded (h : s.loaded = true) : s.ensureLoaded env = s := if_pos h

lemma HasPointer.next (hs : s.Sound env) (h : HasPointer env p s)
    (hcall : ∀ other persist, call ≠ .setPointer other persist) :
    HasPointer env p (s.next env call) := by
  obtain ⟨hloaded, hmemory, hfile⟩ := h
  cases call with
  | pointer =>
    rw [InputSettingsStore.next, ensureLoaded_of_loaded hloaded]
    exact ⟨hloaded, hmemory, hfile⟩
  | shortcuts =>
    rw [InputSettingsStore.next, ensureLoaded_of_loaded hloaded]
    exact ⟨hloaded, hmemory, hfile⟩
  | setPointer other persist => exact absurd rfl (hcall other persist)
  | setShortcuts list =>
    rw [InputSettingsStore.next]
    by_cases hvalid : AllValid env list.1
    · refine ⟨?_, ?_, ?_⟩
      · rw [setShortcuts_of_valid hvalid]
        rfl
      · rw [setShortcuts_of_valid hvalid]
        exact hmemory
      · rw [stored_setShortcuts hs list.2 hvalid]
        exact hmemory
    · rw [setShortcuts_of_invalid hvalid]
      exact ⟨hloaded, hmemory, hfile⟩
  | reload => exact ⟨rfl, hfile, hfile⟩

lemma HasShortcuts.next (hs : s.Sound env) (h : HasShortcuts env l s)
    (hcall : ∀ other, call = .setShortcuts other → ¬AllValid env other.1) :
    HasShortcuts env l (s.next env call) := by
  obtain ⟨hloaded, hmemory, hfile⟩ := h
  cases call with
  | pointer =>
    rw [InputSettingsStore.next, ensureLoaded_of_loaded hloaded]
    exact ⟨hloaded, hmemory, hfile⟩
  | shortcuts =>
    rw [InputSettingsStore.next, ensureLoaded_of_loaded hloaded]
    exact ⟨hloaded, hmemory, hfile⟩
  | setPointer pointer persist =>
    obtain ⟨hset, hsettings⟩ := @setPointer_loaded env s pointer persist
    refine ⟨hset, ?_, ?_⟩
    · rw [InputSettingsStore.next, hsettings]
      exact hmemory
    · rw [InputSettingsStore.next, stored_setPointer hs]
      cases persist with
      | false => exact hfile
      | true => exact hmemory
  | setShortcuts list =>
    rw [InputSettingsStore.next, setShortcuts_of_invalid (hcall list rfl)]
    exact ⟨hloaded, hmemory, hfile⟩
  | reload =>
    refine ⟨rfl, ?_, hfile⟩
    have hread : (s.stored env).shortcuts.map written = (s.stored env).shortcuts :=
      map_written_loadSettings _ s.file
    exact hread.trans hfile

/-- What calls keep, a run of such calls keeps. -/
lemma foldl_next {P : InputSettingsStore → Prop} {calls : List Call}
    (hnext : ∀ s call, call ∈ calls → s.Sound env → P s → P (s.next env call)) (hs : s.Sound env)
    (h : P s) : P (calls.foldl (next env) s) := by
  have hboth := List.foldlRecOn (motive := fun s => s.Sound env ∧ P s) calls (next env) ⟨hs, h⟩
    fun t ht call hcall => ⟨ht.1.next call, hnext t call hcall ht.1 ht.2⟩
  exact hboth.2

lemma hasPointer_run (file : Option (Option Document)) {calls : List Call}
    (h : LastPointer calls p) :
    HasPointer env (validatePointerSettings p) (run env file calls) := by
  obtain ⟨before, after, rfl, hafter⟩ := h
  have hbefore := @sound_run env file before
  rw [run, List.foldl_append, List.foldl_cons]
  refine foldl_next (fun s call hcall hs h => h.next hs (hafter call hcall))
    (hbefore.next (.setPointer p true)) ?_
  exact ⟨rfl, rfl, congrArg Settings.pointer (stored_setPointer hbefore p true)⟩

lemma hasShortcuts_run (file : Option (Option Document)) {calls : List Call}
    (h : LastShortcuts env calls l) : HasShortcuts env l (run env file calls) := by
  obtain ⟨before, list, after, rfl, rfl, hvalid, hafter⟩ := h
  have hbefore := @sound_run env file before
  rw [run, List.foldl_append, List.foldl_cons]
  refine foldl_next (fun s call hcall hs h => h.next hs (hafter call hcall))
    (hbefore.next (.setShortcuts list)) ?_
  refine ⟨?_, ?_, ?_⟩
  · rw [InputSettingsStore.next, setShortcuts_of_valid hvalid]
    rfl
  · rw [InputSettingsStore.next, setShortcuts_of_valid hvalid]
    rfl
  · exact congrArg Settings.shortcuts (stored_setShortcuts hbefore list.2 hvalid)

lemma stored_last (file : Option (Option Document)) {calls : List Call}
    (hpointer : LastPointer calls p) (hshortcuts : LastShortcuts env calls l) :
    (run env file calls).stored env =
      { pointer := validatePointerSettings p, shortcuts := l.map written } := by
  rw [← (hasPointer_run file hpointer).2.2, ← (hasShortcuts_run file hshortcuts).2.2]

/-! ## The store over whole runs -/

/-- The two settings are kept apart exactly when no setter comes on a store that is not loaded and
whose file has something of the other setting. -/
theorem keepsApart_iff (env : Surroundings) (file : Option (Option Document))
    (calls : List Call) : KeepsApart env file calls ↔
      allowed (next env) (NothingToLose env) (fresh file) calls = true := by
  have hsteps := forall_step_iff_allowed (I := fun s => s.Sound env ∧ s.Agrees env)
    (fun s call h => keeps_iff h.1 h.2 call)
    (fun s call h hnothing => ⟨h.1.next call, agrees_next h.1 h.2 call hnothing⟩)
    (s := fresh file) ⟨sound_fresh file, fun hloaded => absurd hloaded (by simp [fresh])⟩ calls
  rw [← hsteps]
  constructor
  · exact And.left
  · -- what was set last is found in every run
    intro hkeeps
    exact ⟨hkeeps, fun _ _ => stored_last file⟩

/-- A file with a disabled pointer and one shortcut. -/
def escapeItem : Value :=
  .object [(ascii "id", .string (ascii "escape")), (ascii "name", .string (ascii "Escape")),
    (ascii "keys", .array [.string (ascii "ESC")])]

def escapeRoot : Value :=
  .object [(ascii "schema_version", .integer 1),
    (ascii "pointer", .object [(ascii "mode", .string (ascii "disabled"))]),
    (ascii "shortcuts", .array [escapeItem])]

lemma parsed_object {members : List (Bytes × Value)} (hkeys : ∀ m ∈ members, Storable m.1)
    (hvalues : members.Forall fun m => Parsed m.2) : Parsed (.object members) :=
  .object hkeys (List.forall_iff_forall_mem.mp hvalues)

lemma parsed_text {text : String} (h : Storable (ascii text)) : Parsed (.string (ascii text)) :=
  .string h

def escapeFile : Document where
  val := escapeRoot
  property := by
    have hkeys : Parsed (.array [.string (ascii "ESC")]) :=
      .array (by simpa using parsed_text (by decide +kernel))
    have hitem : Parsed escapeItem := parsed_object (by decide +kernel)
      ⟨parsed_text (by decide +kernel), parsed_text (by decide +kernel), hkeys⟩
    have hpointer : Parsed (.object [(ascii "mode", .string (ascii "disabled"))]) :=
      parsed_object (by decide +kernel) (parsed_text (by decide +kernel))
    exact parsed_object (by decide +kernel) ⟨.integer 1, hpointer, .array (by simpa using hitem)⟩

def plainSurroundings : Surroundings where
  order := ⟨keySymbols, List.Perm.refl _⟩
  touchscreenMouseMode := false

/-- As the first call, the one setter loses the shortcuts and the other the pointer settings. -/
theorem first_setter_loses :
    ¬KeepsApart plainSurroundings (some (some escapeFile)) [.setPointer {} true] ∧
      ¬KeepsApart plainSurroundings (some (some escapeFile)) [.setShortcuts ⟨[], by simp⟩] := by
  constructor
  · intro h
    have hkeeps := h.1 [] (.setPointer {} true) [] rfl
    exact absurd hkeeps.2 (by decide +kernel)
  · intro h
    have hkeeps := h.1 [] (.setShortcuts ⟨[], by simp⟩) [] rfl
    rw [Keeps, if_pos (by simp [AllValid])] at hkeeps
    exact absurd hkeeps (by decide +kernel)

end InputSettingsStore
end ArtemisSwitch.InputSettings

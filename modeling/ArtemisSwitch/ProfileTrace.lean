import ArtemisSwitch.GlobalSettings

/-!
# What a stream under a profile leaves behind

The global settings come back exactly where settings.json says what the profile changes, and where
no file appears that was not there before.
-/

namespace ArtemisSwitch.GlobalSettings
open Jansson StreamProfile HostStore

variable {button : ControllerButtons} {dump : Preferences → Value} {profile : StreamConfigProfile}
  {saves : List (GlobalFile × Value)} {w : World}

lemma mem_globalSettingsFiles (path : GlobalFile) : path ∈ globalSettingsFiles := by
  cases path <;> decide

/-! ## The copies -/

lemma backupFile_eq (w : World) (path : GlobalFile) :
    w.backupFile path = { w with backups := Function.update w.backups path (w.files path) } := by
  unfold World.backupFile
  dsimp only
  cases w.files path with
  | none => rfl
  | some content => simp only [Function.update_idem]

lemma restoreFile_eq (w : World) (path : GlobalFile) :
    w.restoreFile path =
      { w with
        files := Function.update w.files path ((w.backups path).or (w.files path))
        backups := Function.update w.backups path none } := by
  unfold World.restoreFile
  cases hcopy : w.backups path with
  | none =>
    have hbackups : Function.update w.backups path none = w.backups := by
      rw [← hcopy, Function.update_eq_self]
    rw [hbackups]
    simp
  | some content => rfl

lemma backup_foldl (paths : List GlobalFile) (w : World) :
    paths.foldl World.backupFile w =
      { w with backups := fun path => if path ∈ paths then w.files path else w.backups path } := by
  induction paths generalizing w with
  | nil => simp
  | cons first paths ih =>
    rw [List.foldl_cons, ih, backupFile_eq]
    congr 1
    funext path
    by_cases hmem : path ∈ paths
    · simp [hmem]
    · by_cases heq : path = first
      · simp [heq]
      · simp [hmem, heq]

/-- A copy beside every file. -/
theorem backup_eq (w : World) : w.backupGlobalSettingsFiles = { w with backups := w.files } := by
  rw [World.backupGlobalSettingsFiles, backup_foldl]
  simp [mem_globalSettingsFiles]

lemma restore_foldl (paths : List GlobalFile) (w : World) :
    (paths.foldl World.restoreFile w).files =
        (fun path => if path ∈ paths then (w.backups path).or (w.files path) else w.files path) ∧
      (paths.foldl World.restoreFile w).preferences = w.preferences := by
  induction paths generalizing w with
  | nil => simp
  | cons first paths ih =>
    rw [List.foldl_cons]
    obtain ⟨hfiles, hpreferences⟩ := ih (w.restoreFile first)
    rw [hfiles, hpreferences, restoreFile_eq]
    refine ⟨?_, rfl⟩
    funext path
    by_cases heq : path = first
    · simp [heq]
    · simp [heq]

/-- Where there is a copy, it comes back. -/
theorem restore_files (w : World) (path : GlobalFile) :
    w.restoreGlobalSettingsFiles.files path = (w.backups path).or (w.files path) := by
  rw [World.restoreGlobalSettingsFiles, (restore_foldl globalSettingsFiles w).1]
  simp [mem_globalSettingsFiles]

lemma restore_preferences (w : World) :
    w.restoreGlobalSettingsFiles.preferences = w.preferences :=
  (restore_foldl globalSettingsFiles w).2

/-! ## What is saved during the stream -/

/-- The files after the saves. -/
def written (files : GlobalFile → Option Value) (saves : List (GlobalFile × Value)) :
    GlobalFile → Option Value :=
  saves.foldl (fun files saved => Function.update files saved.1 (some saved.2)) files

lemma foldl_save (saves : List (GlobalFile × Value)) (w : World) :
    saves.foldl World.save w = { w with files := written w.files saves } := by
  induction saves generalizing w with
  | nil => rfl
  | cons saved saves ih => exact ih (w.save saved)

lemma written_eq_none (files : GlobalFile → Option Value) (saves : List (GlobalFile × Value))
    (path : GlobalFile) :
    written files saves path = none ↔ files path = none ∧ ∀ saved ∈ saves, saved.1 ≠ path := by
  induction saves generalizing files with
  | nil => simp [written]
  | cons saved saves ih =>
    refine (ih (Function.update files saved.1 (some saved.2))).trans ?_
    by_cases heq : saved.1 = path
    · simp [heq]
    · simp [heq, Function.update_of_ne (Ne.symm heq)]

/-! ## The whole stream -/

/-- The memory is what a load gives. -/
def World.Loaded (w : World) : Prop :=
  w.preferences = loadPreferences (w.files .settings) defaults

/-- The files and the written fields are what they were. -/
structure NoTrace (w w' : World) : Prop where
  files : w'.files = w.files
  preferences : w'.preferences = w.preferences

/-- What has to hold of the files, the profile and the saves. -/
structure Restorable (w : World) (profile : StreamConfigProfile)
    (saves : List (GlobalFile × Value)) : Prop where
  /-- No file is saved that was not there. -/
  created : ∀ path, w.files path = none → ∀ saved ∈ saves, saved.1 ≠ path
  /-- No host is in settings.json twice. -/
  distinct : Distinct (fileRecords (w.files .settings))
  /-- A field that settings.json does not set has its default in the profile. -/
  stored : ∀ f, storedIn (w.files .settings) f = none →
    ∀ value, applied (normalizeProfile profile) w.layouts f = some value → value = defaults f

instance (f : Field) : DecidableEq f.Carrier := by
  cases f <;> infer_instance

/-- The files when they are copied back. -/
def restored (w : World) (saves : List (GlobalFile × Value)) : GlobalFile → Option Value :=
  fun path => (w.files path).or (written w.files saves path)

lemma restored_eq_iff (w : World) (saves : List (GlobalFile × Value)) (path : GlobalFile) :
    restored w saves path = w.files path ↔
      (w.files path = none → ∀ saved ∈ saves, saved.1 ≠ path) := by
  unfold restored
  cases hfile : w.files path with
  | some content => simp
  | none => simp [written_eq_none, hfile]

/-- The world in which the settings are loaded again. -/
def World.played (profile : StreamConfigProfile) (saves : List (GlobalFile × Value)) (w : World) :
    World :=
  (saves.foldl World.save
    (w.backupGlobalSettingsFiles.applyToSettings profile)).restoreGlobalSettingsFiles

lemma played_files (profile : StreamConfigProfile) (saves : List (GlobalFile × Value)) (w : World) :
    (w.played profile saves).files = restored w saves := by
  funext path
  rw [World.played, restore_files, foldl_save, backup_eq]
  rfl

lemma played_preferences (profile : StreamConfigProfile) (saves : List (GlobalFile × Value))
    (w : World) :
    (w.played profile saves).preferences =
      applyProfileToSettings (normalizeProfile profile) w.layouts w.preferences := by
  rw [World.played, restore_preferences, foldl_save, backup_eq]
  rfl

/-- A load writes settings.json only. -/
lemma load_other (w : World) {path : GlobalFile} (h : path ≠ .settings) :
    (w.load button dump).files path = w.files path := by
  show Function.update w.files .settings _ path = w.files path
  rw [Function.update_of_ne h]

lemma load_settings (w : World) :
    (w.load button dump).files .settings =
      (Settings.load button (dump (loadPreferences (w.files .settings) w.preferences))
        ⟨w.hosts, w.layouts, w.files .settings⟩).file := by
  exact Function.update_self GlobalFile.settings _ w.files

lemma load_files_iff (w : World) :
    (w.load button dump).files = w.files ↔ Distinct (fileRecords (w.files .settings)) := by
  rw [← load_file_iff button (dump (loadPreferences (w.files .settings) w.preferences))
    ⟨w.hosts, w.layouts, w.files .settings⟩, ← load_settings]
  refine ⟨fun h => congrFun h _, fun h => ?_⟩
  funext path
  by_cases heq : path = .settings
  · rw [heq]
    exact h
  · exact load_other w heq

/-- When the files come back, the copies alone have brought them back. -/
lemma played_of_noTrace (h : (w.stream button dump profile saves).files = w.files) :
    restored w saves = w.files := by
  funext path
  have hpath := congrFun h path
  have hplayed := congrFun (played_files profile saves w) path
  by_cases heq : path = .settings
  · cases hfile : w.files path with
    | some content => simp [restored, hfile]
    | none =>
      have hload : ((w.played profile saves).load button dump).files path = none :=
        hpath.trans hfile
      rw [← hplayed]
      rw [heq, load_settings, load_file_eq_none] at hload
      rw [heq]
      exact hload
  · rw [← hplayed, ← hpath]
    exact (load_other (w.played profile saves) heq).symm

/-- What is read back is the old value, unless the profile has left its own. -/
lemma loadPreferences_applied_iff (file : Option Value) (profile : StreamConfigProfile)
    (layouts : List KeyMappingLayout) :
    loadPreferences file
          (applyProfileToSettings profile layouts (loadPreferences file defaults)) =
        loadPreferences file defaults ↔
      ∀ f, storedIn file f = none →
        ∀ value, applied profile layouts f = some value → value = defaults f := by
  rw [funext_iff]
  refine forall_congr' fun f => ?_
  simp only [loadPreferences, applyProfileToSettings]
  cases storedIn file f with
  | some value => simp
  | none =>
    cases applied profile layouts f with
    | some value => simp
    | none => simp

/-- A stream under a profile leaves nothing behind exactly when no file is saved that was not
there, no host is in settings.json twice, and settings.json sets every field for which the
profile has another value than the default. -/
theorem stream_noTrace_iff (hloaded : w.Loaded) :
    NoTrace w (w.stream button dump profile saves) ↔ Restorable w profile saves := by
  have hstream : w.stream button dump profile saves = (w.played profile saves).load button dump :=
    rfl
  have hpreferences : (w.stream button dump profile saves).preferences =
      loadPreferences (restored w saves .settings)
        (applyProfileToSettings (normalizeProfile profile) w.layouts w.preferences) := by
    rw [← played_files profile, ← played_preferences profile saves]
    rfl
  constructor
  · intro h
    have hrestored := played_of_noTrace h.files
    have hplayed : (w.played profile saves).files = w.files :=
      (played_files profile saves w).trans hrestored
    refine ⟨fun path => (restored_eq_iff w saves path).mp (congrFun hrestored path), ?_, ?_⟩
    · have hdistinct := (load_files_iff (w.played profile saves)).mp
        (hstream ▸ h.files.trans hplayed.symm)
      rwa [hplayed] at hdistinct
    · apply (loadPreferences_applied_iff _ _ w.layouts).mp
      rw [← hloaded, ← congrFun hrestored .settings, ← hpreferences]
      exact h.preferences
  · intro h
    have hrestored : restored w saves = w.files :=
      funext fun path => (restored_eq_iff w saves path).mpr (h.created path)
    have hplayed : (w.played profile saves).files = w.files :=
      (played_files profile saves w).trans hrestored
    constructor
    · rw [hstream, (load_files_iff (w.played profile saves)).mpr (hplayed ▸ h.distinct), hplayed]
    · rw [hpreferences, hrestored, hloaded]
      exact (loadPreferences_applied_iff _ _ w.layouts).mpr h.stored

/-- A settings.json with a few of the keys, and no file of a store but one. -/
def someSettings : World where
  hosts := []
  layouts := baseLayouts ⟨0, 1, 2, 3⟩
  preferences := loadPreferences (some (.object
    [(ascii "settings", .object [(ascii "fps", .integer 30)])])) defaults
  files
    | .settings => some (.object [(ascii "settings", .object [(ascii "fps", .integer 30)])])
    | .artemisMotion => some (.object [])
    | _ => none
  backups := fun _ => none

/-- Only the frame rate is not the default. -/
def fastProfile : StreamConfigProfile := { fps := 120, videoCodec := .h265 }

theorem someSettings_noTrace :
    NoTrace someSettings (someSettings.stream ⟨0, 1, 2, 3⟩ (fun _ => .object []) fastProfile
      [(.settings, .object []), (.artemisMotion, .object [])]) := by
  have hcreated : ∀ path ∈ globalSettingsFiles, someSettings.files path = none →
      ∀ saved ∈ [(GlobalFile.settings, Value.object []), (.artemisMotion, .object [])],
        saved.1 ≠ path := by
    decide +kernel
  have hstored : ∀ f, ((storedIn (someSettings.files .settings) f).isSome ||
      (applied (normalizeProfile fastProfile) someSettings.layouts f).all
        (· = defaults f)) = true := by
    intro f
    cases f <;> decide +kernel
  refine (stream_noTrace_iff (w := someSettings) rfl).mpr
    ⟨fun path => hcreated path (mem_globalSettingsFiles path), by decide +kernel, ?_⟩
  intro f hnone value hvalue
  simpa [hnone, hvalue] using hstored f

/-- A key that settings.json does not have, and a file that is saved for the first time. -/
theorem someSettings_trace :
    someSettings.Loaded ∧
      ¬NoTrace someSettings (someSettings.stream ⟨0, 1, 2, 3⟩ (fun _ => .object [])
        { fastProfile with lowLatencyPacing := true } []) ∧
      ¬NoTrace someSettings (someSettings.stream ⟨0, 1, 2, 3⟩ (fun _ => .object []) fastProfile
        [(.artemisZoomPan, .object [])]) := by
  refine ⟨rfl, fun h => ?_, fun h => ?_⟩
  · have hleft : true = false := congrFun h.preferences .lowLatencyPacing
    cases hleft
  · have hfile : some (Value.object []) = none := congrFun h.files .artemisZoomPan
    cases hfile

end ArtemisSwitch.GlobalSettings

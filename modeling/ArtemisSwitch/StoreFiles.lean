import ArtemisSwitch.HostStores
import ArtemisSwitch.InputSettingsCalls
import ArtemisSwitch.Library.CrashFiles

/-!
# Saves of the JSON stores

The new content is written to a temporary file and renamed.  Where a rename cannot replace a
file, the old file is moved away first, and no reader looks for it there.
-/

namespace ArtemisSwitch.StoreFiles
open CrashFiles Jansson HostStores
open Apollo (ApolloHostOptions VirtualDisplayTarget validateApolloHostOptions
  validateApolloHostOptions_idem)
open HostKeyboardShortcuts (KeyboardShortcut TableOrder keySymbols)
open InputSettings (FileContent Settings Surroundings loadSettings readSettings settingsToJson
  readSettings_toJson_iff)
open InputSettings.InputSettingsStore (plainSurroundings)

inductive StoreFile | destination | temporary | backup
  deriving DecidableEq

abbrev SaveFiles := Files StoreFile FileContent

abbrev SaveProgram := Program StoreFile FileContent Bool

/-- How the steps of a save go, up to the point where the process stops. -/
abbrev Script := List (Outcome FileContent)

/-! ## dumpAtomically and atomicDump -/

def restore : SaveProgram := .attempt (.rename .backup .destination) (.halt false) (.halt false)

/-- The restore of the input settings looks for the backup first. -/
def restoreIfPresent : SaveProgram := .test .backup restore (.halt false)

def install (onFailure : SaveProgram) : SaveProgram :=
  .attempt (.rename .temporary .destination)
    (.attempt (.remove .backup) (.halt true) (.halt true)) onFailure

def moveAway (onFailure : SaveProgram) : SaveProgram :=
  -- from here until the install the content is under no name that a reader knows
  .test .destination
    (.attempt (.rename .destination .backup) (install onFailure) (.halt false))
    (install onFailure)

def dump (onFailure : SaveProgram) (root : Value) : SaveProgram :=
  .attempt (.write .temporary (some root))
    (.attempt (.rename .temporary .destination) (.halt true)
      (.attempt (.remove .backup) (moveAway onFailure) (moveAway onFailure)))
    (.halt false)

/-- The save of the host stores. -/
def dumpAtomically (root : Value) : SaveProgram := dump restore root

/-- The save of the input settings. -/
def atomicDump (root : Value) : SaveProgram := dump restoreIfPresent root

/-! ## What a save must leave -/

/-- A content that is to be saved, and what a reload makes of a file. -/
structure Saving (γ : Type) where
  load : Option FileContent → γ
  new : γ
  root : Value
  /-- The file can hold the new content. -/
  Holds : Prop
  load_root : load (some (some root)) = new ↔ Holds

variable {γ : Type}

/-- After a crash the old content or the new one is found, and after a result the one it says. -/
def Found (load : Option FileContent → γ) (old new : γ) : SaveFiles × Option Bool → Prop
  | (files, none) => load (files .destination) = old ∨ load (files .destination) = new
  | (files, some true) => load (files .destination) = new
  | (files, some false) => load (files .destination) = old

namespace Saving

variable (saving : Saving γ)

/-- The old content is what a reload gave before the save. -/
def Survives (save : Value → SaveProgram) (files : SaveFiles) (script : Script) : Prop :=
  Found saving.load (saving.load (files .destination)) saving.new
    ((save saving.root).run files script)

/-! A save ends badly in four ways, unless the contents happen to be the same. -/

/-- The new file is in its place before the backup is removed, and must hold the new content. -/
def InstalledKeeps (old : Option FileContent) : Script → Prop
  | [] => saving.load (some (some saving.root)) = saving.load old ∨ saving.Holds
  | _ => saving.Holds

/-- With the old file in the backup the process must not stop, and of the last two renames one must
happen. -/
def MovedKeeps (old : FileContent) : Script → Prop
  | [] => saving.load none = saving.load (some old) ∨ saving.load none = saving.new
  | [.failed _] => saving.load none = saving.load (some old) ∨ saving.load none = saving.new
  | .failed _ :: .failed _ :: _ => saving.load none = saving.load (some old)
  | .failed _ :: .done :: _ => True
  | .done :: script => saving.InstalledKeeps (some old) script

/-- Where there was no file, the backup of an earlier save must not become the file. -/
def FreshKeeps (backup : Option FileContent) : Script → Prop
  | .failed _ :: .done :: _ => ∀ content, backup = some content →
      saving.load (some content) = saving.load none
  | .done :: script => saving.InstalledKeeps none script
  | _ => True

end Saving

/-- The backup of an earlier save goes away with its removal. -/
def backupLeft (files : SaveFiles) : Outcome FileContent → Option FileContent
  | .done => none
  | .failed _ => files .backup

namespace Saving

variable (saving : Saving γ)

def FallbackKeeps (files : SaveFiles) (removal : Outcome FileContent) (script : Script) : Prop :=
  match files .destination with
  | some old => ∀ rest, script = .done :: rest → saving.MovedKeeps old rest
  | none => saving.FreshKeeps (backupLeft files removal) script

/-- The fallback begins when the new file is written and cannot replace the old one. -/
def Keeps (files : SaveFiles) : Script → Prop
  | .done :: .done :: _ => saving.Holds
  | .done :: .failed _ :: removal :: script => saving.FallbackKeeps files removal script
  | _ => True

end Saving

/-! ## The steps of the fallback -/

/-- What both restores do. -/
structure Restores (program : SaveProgram) : Prop where
  stopped : ∀ files backup, files .backup = some backup → program.run files [] = (files, none)
  moved : ∀ files backup script, files .backup = some backup →
    program.run files (.done :: script) =
      (Function.update (Function.update files .backup none) .destination (some backup), some false)
  failed : ∀ files backup left script, files .backup = some backup →
    program.run files (.failed left :: script) = (files, some false)
  absent : ∀ files script, files .backup = none → program.run files script = (files, none) ∨
    program.run files script = (files, some false)

lemma restores_restore : Restores restore where
  stopped := fun _ _ _ => rfl
  moved := by
    intro files backup script h
    simp [restore, Program.run, Operation.done, h]
  failed := fun _ _ _ _ _ => rfl
  absent := by
    intro files script h
    cases script with
    | nil => exact .inl rfl
    | cons outcome script =>
      right
      cases outcome with
      | done => simp [restore, Program.run, Operation.done, h]
      | failed left => rfl

lemma restores_restoreIfPresent : Restores restoreIfPresent where
  stopped := by
    intro files backup h
    simp [restoreIfPresent, Program.run, h, restores_restore.stopped files backup h]
  moved := by
    intro files backup script h
    simp [restoreIfPresent, Program.run, h, restores_restore.moved files backup script h]
  failed := by
    intro files backup left script h
    simp [restoreIfPresent, Program.run, h, restores_restore.failed files backup left script h]
  absent := by
    intro files script h
    right
    simp [restoreIfPresent, Program.run, h]

variable {load : Option FileContent → γ} {new : γ} {saving : Saving γ} {onFailure : SaveProgram}
  {files : SaveFiles}

/-- Files that stay as they were hold the old content, unless the result says otherwise. -/
lemma found_unchanged {old : Option FileContent} {result : Option Bool}
    (hdest : files .destination = old) (hresult : result ≠ some true) :
    Found load (load old) new (files, result) := by
  cases result with
  | none => exact .inl (congrArg load hdest)
  | some ok =>
    cases ok with
    | false => exact congrArg load hdest
    | true => exact absurd rfl hresult

/-- The new file is in its place, with or without the backup. -/
lemma installed_iff {old : Option FileContent}
    (hdest : files .destination = some (some saving.root)) (script : Script) :
    Found saving.load (saving.load old) saving.new
        ((Program.attempt (.remove .backup) (.halt true) (.halt true)).run files script) ↔
      saving.InstalledKeeps old script := by
  match script with
  | [] => simp only [Program.run, Found, hdest, Saving.InstalledKeeps, saving.load_root]
  | .done :: script =>
    simp [Program.run, Operation.done, Found, hdest, Saving.InstalledKeeps, saving.load_root]
  | .failed left :: script =>
    simp [Program.run, Operation.failed, Found, hdest, Saving.InstalledKeeps, saving.load_root]

lemma install_done_iff {old : Option FileContent}
    (htmp : files .temporary = some (some saving.root)) (script : Script) :
    Found saving.load (saving.load old) saving.new
        ((install onFailure).run files (.done :: script)) ↔
      saving.InstalledKeeps old script := by
  have hrun : (install onFailure).run files (.done :: script) =
      (Program.attempt (.remove .backup) (.halt true) (.halt true)).run
        (Function.update (Function.update files .temporary none) .destination
          (some (some saving.root))) script := by
    simp [install, Program.run, Operation.done, htmp]
  rw [hrun]
  exact installed_iff (by simp) script

lemma run_install_nil : (install onFailure).run files [] = (files, none) := rfl

lemma run_install_failed (left : Option FileContent) (script : Script) :
    (install onFailure).run files (.failed left :: script) = onFailure.run files script := rfl

lemma install_moved_iff (hrestores : Restores onFailure) (hdest : files .destination = none)
    (htmp : files .temporary = some (some saving.root)) {old : FileContent}
    (hbak : files .backup = some old) (script : Script) :
    Found saving.load (saving.load (some old)) saving.new ((install onFailure).run files script) ↔
      saving.MovedKeeps old script := by
  -- the first step installs the new file, and the second one brings the old file back
  match script with
  | [] => rw [run_install_nil, Found, hdest, Saving.MovedKeeps]
  | .done :: script => exact install_done_iff htmp script
  | [.failed left] =>
    rw [run_install_failed, hrestores.stopped files old hbak, Found, hdest, Saving.MovedKeeps]
  | .failed left :: .done :: script =>
    rw [run_install_failed, hrestores.moved files old script hbak, Found, Function.update_self]
    exact iff_of_true rfl trivial
  | .failed left :: .failed left' :: script =>
    rw [run_install_failed, hrestores.failed files old left' script hbak, Found, hdest,
      Saving.MovedKeeps]

lemma install_fresh_iff (hrestores : Restores onFailure) (hdest : files .destination = none)
    (htmp : files .temporary = some (some saving.root)) (script : Script) :
    Found saving.load (saving.load none) saving.new ((install onFailure).run files script) ↔
      saving.FreshKeeps (files .backup) script := by
  have habsent : ∀ script, files .backup = none →
      Found saving.load (saving.load none) saving.new (onFailure.run files script) := by
    intro script hbak
    rcases hrestores.absent files script hbak with hrun | hrun
    · rw [hrun]
      exact found_unchanged hdest (by simp)
    · rw [hrun]
      exact found_unchanged hdest (by simp)
  match script with
  | [] =>
    rw [run_install_nil]
    exact iff_of_true (found_unchanged hdest (by simp)) trivial
  | .done :: script => exact install_done_iff htmp script
  | [.failed left] =>
    refine iff_of_true ?_ trivial
    rw [run_install_failed]
    cases hbak : files .backup with
    | none => exact habsent [] hbak
    | some backup =>
      rw [hrestores.stopped files backup hbak]
      exact found_unchanged hdest (by simp)
  | .failed left :: .failed left' :: script =>
    refine iff_of_true ?_ trivial
    rw [run_install_failed]
    cases hbak : files .backup with
    | none => exact habsent _ hbak
    | some backup =>
      rw [hrestores.failed files backup left' script hbak]
      exact found_unchanged hdest (by simp)
  | .failed left :: .done :: script =>
    rw [run_install_failed, Saving.FreshKeeps]
    cases hbak : files .backup with
    | none => exact iff_of_true (habsent _ hbak) (by simp)
    | some backup =>
      rw [hrestores.moved files backup script hbak, Found, Function.update_self]
      constructor
      · rintro h other heq
        rw [← Option.some.inj heq]
        exact h
      · exact fun h => h backup rfl

lemma moveAway_present_iff (hrestores : Restores onFailure) {old : FileContent}
    (hdest : files .destination = some old) (htmp : files .temporary = some (some saving.root))
    (script : Script) :
    Found saving.load (saving.load (some old)) saving.new
        ((moveAway onFailure).run files script) ↔
      ∀ rest, script = .done :: rest → saving.MovedKeeps old rest := by
  cases script with
  | nil =>
    have hrun : (moveAway onFailure).run files [] = (files, none) := by
      simp [moveAway, Program.run, hdest]
    rw [hrun]
    exact iff_of_true (found_unchanged hdest (by simp)) (by simp)
  | cons outcome script =>
    cases outcome with
    | failed left =>
      have hrun : (moveAway onFailure).run files (.failed left :: script) =
          (files, some false) := by
        simp [moveAway, Program.run, hdest, Operation.failed]
      rw [hrun]
      exact iff_of_true (found_unchanged hdest (by simp)) (by simp)
    | done =>
      have hrun : (moveAway onFailure).run files (.done :: script) = (install onFailure).run
          (Function.update (Function.update files .destination none) .backup (some old))
          script := by
        simp [moveAway, Program.run, hdest, Operation.done]
      rw [hrun, install_moved_iff hrestores (by simp) (by simpa using htmp) (by simp)]
      constructor
      · intro h rest heq
        rw [← (List.cons.inj heq).2]
        exact h
      · exact fun h => h script rfl

lemma run_moveAway_absent (hdest : files .destination = none) (script : Script) :
    (moveAway onFailure).run files script = (install onFailure).run files script := by
  simp [moveAway, Program.run, hdest]

/-! ## A save of any content -/

/-- The files when the fallback starts: the new file is written, and the backup may be gone. -/
def prepared (files : SaveFiles) (root : Value) : Outcome FileContent → SaveFiles
  | .done => Function.update (Function.update files .temporary (some (some root))) .backup none
  | .failed _ => Function.update files .temporary (some (some root))

lemma run_dump_fallback {root : Value} (left : Option FileContent) (removal : Outcome FileContent)
    (script : Script) :
    (dump onFailure root).run files (.done :: .failed left :: removal :: script) =
      (moveAway onFailure).run (prepared files root removal) script := by
  cases removal <;> rfl

section
variable {root : Value} (removal : Outcome FileContent)

lemma prepared_destination : prepared files root removal .destination = files .destination := by
  cases removal <;> simp [prepared]

lemma prepared_temporary : prepared files root removal .temporary = some (some root) := by
  cases removal <;> simp [prepared]

lemma prepared_backup : prepared files root removal .backup = backupLeft files removal := by
  cases removal <;> simp [prepared, backupLeft]

end

/-- The file that was there is moved away and comes back, or the new one takes its place.  Without a
file only an earlier backup can come back. -/
lemma fallback_iff (hrestores : Restores onFailure) (removal : Outcome FileContent)
    (script : Script) :
    Found saving.load (saving.load (files .destination)) saving.new
        ((moveAway onFailure).run (prepared files saving.root removal) script) ↔
      saving.FallbackKeeps files removal script := by
  have hprepared : prepared files saving.root removal .destination = files .destination :=
    prepared_destination removal
  rw [Saving.FallbackKeeps]
  cases hdest : files .destination with
  | some old =>
    exact moveAway_present_iff hrestores (hprepared.trans hdest) (prepared_temporary removal)
      script
  | none =>
    have hmissing := hprepared.trans hdest
    rw [run_moveAway_absent hmissing,
      install_fresh_iff hrestores hmissing (prepared_temporary removal), prepared_backup]

/-- A save keeps the old content or installs the new one exactly when it ends well. -/
lemma survives_dump_iff (hrestores : Restores onFailure) (script : Script) :
    saving.Survives (dump onFailure) files script ↔ saving.Keeps files script := by
  match script with
  | [] => exact iff_of_true (.inl rfl) trivial
  | .failed left :: script =>
    refine iff_of_true ?_ trivial
    simp [Saving.Survives, dump, Program.run, Operation.failed, Found]
  | [.done] =>
    refine iff_of_true ?_ trivial
    simp [Saving.Survives, dump, Program.run, Operation.done, Found]
  | .done :: .done :: script =>
    simp [Saving.Survives, Saving.Keeps, dump, Program.run, Operation.done, Found,
      saving.load_root]
  | [.done, .failed left] =>
    refine iff_of_true ?_ trivial
    simp [Saving.Survives, dump, Program.run, Operation.done, Operation.failed, Found]
  | .done :: .failed left :: removal :: script =>
    rw [Saving.Survives, run_dump_fallback, Saving.Keeps]
    exact fallback_iff hrestores removal script

/-! ## The three stores -/

/-- A save of a host store. -/
def hostSaving {α : Type} (store : HostStore α) (new : Hosts α) : Saving (Bytes → Option α) where
  load := store.find
  new := fun key => new.lookup key
  root := store.toJson new
  Holds := store.Holds new
  load_root := store.find_toJson_iff new

/-- A save of the input settings. -/
def settingsSaving (env : Surroundings) (new : Settings) : Saving Settings where
  load := loadSettings env.order env.touchscreenMouseMode
  new := new
  root := settingsToJson env.order new
  Holds := new.Storable env.order
  load_root := readSettings_toJson_iff new

/-- Whatever the files hold, whatever is saved and however the steps go, a reload finds the old
content or the new one, and the one that the result says, exactly when the save ends well. -/
theorem stores_survive_iff (env : Surroundings) (files : SaveFiles) (script : Script) :
    (∀ new : Hosts ApolloHostOptions,
      (hostSaving apolloStore new).Survives dumpAtomically files script ↔
        (hostSaving apolloStore new).Keeps files script) ∧
    (∀ new : Hosts WakeOnLanOverride,
      (hostSaving wakeOnLanStore new).Survives dumpAtomically files script ↔
        (hostSaving wakeOnLanStore new).Keeps files script) ∧
    ∀ new : Settings,
      (settingsSaving env new).Survives atomicDump files script ↔
        (settingsSaving env new).Keeps files script :=
  ⟨fun _ => survives_dump_iff restores_restore script,
    fun _ => survives_dump_iff restores_restore script,
    fun _ => survives_dump_iff restores_restoreIfPresent script⟩

/-- One host with a virtual display. -/
def oneHost (target : VirtualDisplayTarget) : Hosts ApolloHostOptions :=
  AList.singleton (ascii "host") (validateApolloHostOptions { target := target })

lemma holds_oneHost (target : VirtualDisplayTarget) : apolloStore.Holds (oneHost target) := by
  have hkey : Storable (ascii "host") := by decide +kernel
  intro e he
  rw [List.mem_singleton.mp he]
  exact ⟨hkey, validateApolloHostOptions_idem _⟩

def savedHost : SaveFiles :=
  Function.update (fun _ => none) .destination
    (some (some (apolloStore.toJson (oneHost .handheld))))

/-- Settings with the preset of the Game Bar, which is for Windows only. -/
def gameBar : Settings where
  shortcuts :=
    [{ id := ascii "game_bar"
       name := ascii "Game Bar"
       keys := [0x5B, 0x47]
       windowsOnly := true }]

/-- The process stops when the old file is moved away, and a reload finds no host.  A shortcut for
Windows comes back as one for every host. -/
theorem host_lost :
    ¬(hostSaving apolloStore (oneHost .docked)).Survives dumpAtomically savedHost
        [.done, .failed none, .done, .done] ∧
      ¬(settingsSaving plainSurroundings gameBar).Survives atomicDump (fun _ => none)
        [.done, .done] := by
  constructor
  · intro h
    have hfound := (apolloStore.find_toJson_iff (oneHost .handheld)).mpr (holds_oneHost .handheld)
    rcases h with hold | hnew
    · have hhost : none = apolloStore.find (savedHost .destination) (ascii "host") :=
        congrFun hold (ascii "host")
      rw [savedHost, Function.update_self, hfound] at hhost
      cases hhost
    · have hhost := congrFun hnew (ascii "host")
      cases hhost
  · intro h
    have hsame : readSettings plainSurroundings.order
        (settingsToJson plainSurroundings.order gameBar) = gameBar := h
    obtain ⟨-, -, hevery⟩ :=
      ((readSettings_toJson_iff gameBar).mp hsame).shortcuts _ List.mem_cons_self
    cases hevery

end ArtemisSwitch.StoreFiles

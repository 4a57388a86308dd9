import ArtemisSwitch.StateStore

/-!
# Saving the identity across a crash

Wherever a save is cut off, the old identity or the new one can be loaded,
provided that the old one was not loaded from the backup in spite of a state file.
-/

namespace ArtemisSwitch.StateStore
open CrashFiles

variable {lib : Primitives} {passphrase output : Bytes} {files : StateFiles}
variable {identity old new : Identity} {protection : StateProtection}
variable {parameters : StateKdfParameters} {salt : Salt} {nonce : Nonce}

/-! ## An envelope can be loaded -/

/-- What `save` is given when it protects with a passphrase. -/
def Valid (protection : StateProtection) (passphrase : Bytes) (parameters : StateKdfParameters) :
    Prop :=
  protection = .Passphrase → validateKdf parameters = true ∧ passphrase ≠ []

lemma length_envelopeHeader :
    (envelopeHeader protection parameters salt nonce).length = headerSize := by
  simp [envelopeHeader, kMagic, append16, append32, salt.property, nonce.property, headerSize]

/-- The header in front of anything that completes it is parsed back. -/
lemma parseHeader_envelopeHeader {rest : Bytes} (hrest : rest.length = kIdentitySize + 16) :
    parseHeader (envelopeHeader protection parameters salt nonce ++ rest) =
      .ok ⟨protection, parameters, salt.val, nonce.val⟩ := by
  have hsalt := salt.property
  have hnonce := nonce.property
  have hlength : (envelopeHeader protection parameters salt nonce ++ rest).length =
      headerSize + kIdentitySize + 16 := by
    rw [List.length_append, length_envelopeHeader, hrest, Nat.add_assoc]
  -- everything up to the salt has a fixed layout
  obtain ⟨fixed, hfixed, hbytes⟩ : ∃ fixed : Bytes, fixed.length = 24 ∧
      envelopeHeader protection parameters salt nonce ++ rest =
        fixed ++ (salt.val ++ (nonce.val ++ (append32 (UInt32.ofNat kIdentitySize) ++ rest))) ∧
      fixed = kMagic ++ (append16 kVersion ++ ([protectionByte protection, 0] ++
        (append32 parameters.memoryKiB ++ (append32 parameters.passes ++
          (append32 parameters.lanes ++ []))))) :=
    ⟨_, by simp [kMagic, append16, append32], by simp [envelopeHeader], rfl⟩
  obtain ⟨hbytes, hlayout⟩ := hbytes
  set tail := salt.val ++ (nonce.val ++ (append32 (UInt32.ofNat kIdentitySize) ++ rest)) with htail
  have hmagic : (fixed ++ tail).take 8 = kMagic := by simp [hlayout, kMagic]
  have hversion : read16 ((fixed ++ tail).drop 8) = kVersion := by
    simp [hlayout, kMagic, append16, read16, kVersion]
  have hprotection : ((fixed ++ tail).drop 10).head? = some (protectionByte protection) := by
    simp [hlayout, kMagic, append16]
  have hmemory : read32 ((fixed ++ tail).drop 12) = parameters.memoryKiB := by
    rw [← read32_append32 parameters.memoryKiB
      (append32 parameters.passes ++ (append32 parameters.lanes ++ tail))]
    simp [hlayout, kMagic, append16]
  have hpasses : read32 ((fixed ++ tail).drop 16) = parameters.passes := by
    rw [← read32_append32 parameters.passes (append32 parameters.lanes ++ tail)]
    simp [hlayout, kMagic, append16, append32]
  have hlanes : read32 ((fixed ++ tail).drop 20) = parameters.lanes := by
    rw [← read32_append32 parameters.lanes tail]
    simp [hlayout, kMagic, append16, append32]
  have h24 : (fixed ++ tail).drop 24 = tail := List.drop_left' hfixed
  have h40 : (fixed ++ tail).drop 40 =
      nonce.val ++ (append32 (UInt32.ofNat kIdentitySize) ++ rest) := by
    rw [← List.drop_drop (i := 16) (j := 24), h24, htail, List.drop_left' hsalt]
  have h64 : (fixed ++ tail).drop 64 = append32 (UInt32.ofNat kIdentitySize) ++ rest := by
    rw [← List.drop_drop (i := 24) (j := 40), h40, List.drop_left' hnonce]
  have hsize : (read32 ((fixed ++ tail).drop 64)).toNat = kIdentitySize := by
    rw [h64, read32_append32]
    rfl
  have hreadSalt : ((fixed ++ tail).drop 24).take 16 = salt.val := by
    rw [h24, htail, List.take_left' hsalt]
  have hreadNonce : ((fixed ++ tail).drop 40).take 24 = nonce.val := by
    rw [h40, List.take_left' hnonce]
  rw [hbytes] at hlength ⊢
  have hok : ¬ ((fixed ++ tail).length < headerSize + 16 ∨ (fixed ++ tail).take 8 ≠ kMagic ∨
      read16 ((fixed ++ tail).drop 8) ≠ kVersion) := by
    rw [hlength, hmagic, hversion]
    simp [kIdentitySize, headerSize]
  unfold parseHeader
  rw [if_neg hok, hprotection]
  simp only [hsize, hlength, hmemory, hpasses, hlanes, hreadSalt, hreadNonce]
  cases protection <;> rfl

/-- A file that is made of a header, a payload and a tag is read as such. -/
lemma loadFile_parts {body tag : Bytes} (hbody : body.length = kIdentitySize)
    (htag : tag.length = 16) :
    loadFile lib passphrase
        (some (envelopeHeader protection parameters salt nonce ++ body ++ tag)) =
      openPayload lib passphrase ⟨protection, parameters, salt.val, nonce.val⟩
        (envelopeHeader protection parameters salt nonce) body tag := by
  have hheader := @length_envelopeHeader protection parameters salt nonce
  have hlength : (envelopeHeader protection parameters salt nonce ++ body ++ tag).length =
      headerSize + kIdentitySize + 16 := by
    rw [List.length_append, List.length_append, hheader, hbody, htag]
  have hparse := @parseHeader_envelopeHeader protection parameters salt nonce (body ++ tag)
    (by rw [List.length_append, hbody, htag])
  rw [← List.append_assoc] at hparse
  have hbodyRead : ((envelopeHeader protection parameters salt nonce ++ body ++ tag).drop
      headerSize).take kIdentitySize = body := by
    rw [List.append_assoc, List.drop_left' hheader, List.take_left' hbody]
  have htagRead : (envelopeHeader protection parameters salt nonce ++ body ++ tag).drop
      (headerSize + kIdentitySize) = tag := by
    rw [← List.drop_drop, List.append_assoc, List.drop_left' hheader, List.drop_left' hbody]
  have hheaderRead : (envelopeHeader protection parameters salt nonce ++ body ++ tag).take
      headerSize = envelopeHeader protection parameters salt nonce := by
    rw [List.append_assoc, List.take_left' hheader]
  rw [loadFile, if_neg (by rw [hlength]; simp [headerSize, kIdentitySize]), hparse]
  simp only [hbodyRead, htagRead, hheaderRead]

/-- What `save` writes can be loaded with the passphrase it was written with. -/
lemma loadFile_envelope (hlib : lib.Inverts)
    (h : envelope lib identity protection passphrase parameters salt nonce = .ok output) :
    loadFile lib passphrase (some output) = .ok identity := by
  have hpayload := length_serialize identity
  cases protection with
  | Plain =>
    rw [← Except.ok.inj h, loadFile_parts hpayload (lib.blake2b (serialize identity)).property]
    simp [openPayload, deserialize_serialize]
  | Passphrase =>
    simp only [envelope] at h
    split_ifs at h
    rcases hkey : deriveKey lib passphrase salt.val parameters with error | key
    · rw [hkey] at h
      cases h
    · rw [hkey] at h
      rw [← Except.ok.inj h, loadFile_parts ((lib.lock _ _ _ _).1.property.trans hpayload)
        (lib.lock _ _ _ _).2.property]
      simp [openPayload, hkey, hlib key nonce.val _ (serialize identity), deserialize_serialize]

lemma envelope_of_valid (h : Valid protection passphrase parameters) :
    ∃ output, envelope lib identity protection passphrase parameters salt nonce = .ok output := by
  cases protection with
  | Plain => exact ⟨_, rfl⟩
  | Passphrase =>
    obtain ⟨hkdf, hpass⟩ := h rfl
    simp [envelope, deriveKey, hkdf, hpass]

/-! ## Loading -/

lemma load_of_state (h : loadFile lib passphrase (files .state) = .ok identity) :
    load lib passphrase files = .ok identity := by
  rw [load, h]

lemma loadFile_none :
    loadFile lib passphrase none = .error "Tailscale state does not exist" := rfl

lemma load_of_bak (hstate : files .state = none)
    (h : loadFile lib passphrase (files .bak) = .ok identity) :
    load lib passphrase files = .ok identity := by
  have hbak : (files .bak).isSome := by
    rcases hb : files .bak with _ | content
    · rw [hb] at h
      cases h
    · rfl
  rw [load, hstate, loadFile_none]
  simp only
  rw [if_pos hbak, h]

lemma bak_of_load (hstate : files .state = none) (h : load lib passphrase files = .ok identity) :
    loadFile lib passphrase (files .bak) = .ok identity := by
  rw [load, hstate, loadFile_none] at h
  simp only at h
  split_ifs at h
  rcases hb : loadFile lib passphrase (files .bak) with error | found
  · rw [hb] at h
    cases h
  · rw [hb] at h
    exact h

/-- Loading again finds the same identity. -/
theorem load_loadedFiles {renamed : Bool} (h : load lib passphrase files = .ok identity) :
    load lib passphrase (loadedFiles lib passphrase files renamed) = .ok identity := by
  unfold loadedFiles
  split_ifs with hmove
  · have hstate : files .state = none := by
      simp only [Bool.and_eq_true, Option.isNone_iff_eq_none] at hmove
      exact hmove.1.1
    have hbak := bak_of_load hstate h
    rcases hb : files .bak with _ | content
    · rw [hb] at hbak
      cases hbak
    · rw [hb] at hbak
      apply load_of_state
      simp [Operation.done, hb, hbak]
  · exact h

/-! ## Saving -/

/-- The old identity or the new one can be loaded, and the new one after a success. -/
def Recoverable (lib : Primitives) (passphrase : Bytes) (old new : Identity) (files : StateFiles)
    (result : Option (Except String Unit)) : Prop :=
  (load lib passphrase files = .ok old ∨ load lib passphrase files = .ok new) ∧
    (result = some (.ok ()) → load lib passphrase files = .ok new)

lemma recoverable_old {result : Option (Except String Unit)} (hresult : result ≠ some (.ok ()))
    (h : load lib passphrase files = .ok old) : Recoverable lib passphrase old new files result :=
  ⟨Or.inl h, fun hr => absurd hr hresult⟩

lemma recoverable_new {result : Option (Except String Unit)}
    (h : load lib passphrase files = .ok new) : Recoverable lib passphrase old new files result :=
  ⟨Or.inr h, fun _ => h⟩

/-- With the old identity in the backup and the new one in the temporary file. -/
lemma safe_install (hstate : files .state = none)
    (hbak : loadFile lib passphrase (files .bak) = .ok old) (htmp : files .tmp = some output)
    (hnew : loadFile lib passphrase (some output) = .ok new) :
    Safe (Recoverable lib passphrase old new) install files := by
  have hold := load_of_bak hstate hbak
  apply safe_attempt_of_keeps (fun _ => rfl) (recoverable_old (by simp) hold)
  · intro next hnext
    simp only [Operation.done, htmp, Option.map_some, Option.some.injEq] at hnext
    subst hnext
    -- the state file is there, with or without the backup
    have hloaded {files' : StateFiles} (h : files' .state = some output) :
        load lib passphrase files' = .ok new := load_of_state (by rw [h, hnew])
    apply safe_attempt_of_keeps (fun _ => rfl) (recoverable_new (hloaded (by simp)))
    · intro next hnext
      obtain rfl := Option.some.inj hnext
      exact safe_halt (recoverable_new (hloaded (by simp)))
    · exact safe_halt (recoverable_new (hloaded (by simp)))
  · apply safe_test
    · intro _
      apply safe_attempt_of_keeps (fun _ => rfl) (recoverable_old (by simp) hold)
      · intro next hnext
        apply safe_halt
        apply recoverable_old (by simp)
        rcases hb : files .bak with _ | content
        · simp [Operation.done, hb] at hnext
        · simp only [Operation.done, hb, Option.map_some, Option.some.injEq] at hnext
          subst hnext
          apply load_of_state
          simpa [hb] using hbak
      · exact safe_halt (recoverable_old (by simp) hold)
    · intro _
      exact safe_halt (recoverable_old (by simp) hold)

/-- With the old identity in the state file. -/
lemma safe_backUp (hstate : loadFile lib passphrase (files .state) = .ok old)
    (htmp : files .tmp = some output)
    (hnew : loadFile lib passphrase (some output) = .ok new) :
    Safe (Recoverable lib passphrase old new) backUp files := by
  have hold := load_of_state hstate
  apply safe_attempt_of_keeps (fun _ => rfl) (recoverable_old (by simp) hold)
  · intro next hnext
    rcases hs : files .state with _ | content
    · simp [Operation.done, hs] at hnext
    · simp only [Operation.done, hs, Option.map_some, Option.some.injEq] at hnext
      subst hnext
      exact safe_install (by simp) (by simpa [hs] using hstate) (by simpa using htmp) hnew
  · exact safe_halt (recoverable_old (by simp) hold)

/-- What the state file and the backup hold matters; the temporary file does not. -/
lemma load_congr (files files' : StateFiles) (hstate : files' .state = files .state)
    (hbak : files' .bak = files .bak) :
    load lib passphrase files' = load lib passphrase files := by
  rw [load, load, hstate, hbak]

lemma safe_replaceState (hold : load lib passphrase files = .ok old)
    (hstate : files .state = none ∨ loadFile lib passphrase (files .state) = .ok old)
    (hnew : loadFile lib passphrase (some output) = .ok new) :
    Safe (Recoverable lib passphrase old new) (replaceState output) files := by
  apply safe_attempt_of_keeps (fun _ => rfl) (recoverable_old (by simp) hold)
  · intro next hnext
    obtain rfl := Option.some.inj hnext
    have htmp (left : Option Bytes) :
        load lib passphrase (Function.update files .tmp left) = .ok old := by
      rw [load_congr files _ (by simp) (by simp), hold]
    apply safe_attempt (recoverable_old (by simp) hold)
    · intro next hnext
      obtain rfl := Option.some.inj hnext
      apply safe_test
      · intro hsome
        rcases hstate with hnone | hstate
        · simp [hnone] at hsome
        -- the state file loads, so the old backup can go
        · apply safe_attempt_of_keeps (fun _ => rfl) (recoverable_old (by simp) (htmp _))
          · intro next hnext
            obtain rfl := Option.some.inj hnext
            exact safe_backUp (by simpa using hstate) (by simp) hnew
          · exact safe_backUp (by simpa using hstate) (by simp) hnew
      · intro hnone
        have hnone' : files .state = none := by simpa using hnone
        exact safe_install (by simpa using hnone) (by simpa using bak_of_load hnone' hold)
          (by simp) hnew
    · intro left
      exact safe_halt (recoverable_old (by simp) (htmp left))
    · nofun
  · exact safe_halt (recoverable_old (by simp) hold)

/-- A crash after the old backup is gone leaves a state file that cannot be loaded alone. -/
lemma not_safe_replaceState {content : Bytes} (hstate : files .state = some content)
    (hbad : (loadFile lib passphrase (some content)).isOk = false) :
    ¬ Safe (Recoverable lib passphrase old new) (replaceState output) files := by
  intro hsafe
  -- the save is cut off once the old backup is removed
  have hcut := hsafe [.done, .done, .done]
  have hrun : (replaceState output).run files [.done, .done, .done] =
      (Function.update (Function.update files .tmp (some output)) .bak none, none) := by
    simp [replaceState, backUp, Program.run, Operation.done, hstate]
  rw [hrun] at hcut
  rcases hfile : loadFile lib passphrase (some content) with error | found
  · have hload : load lib passphrase
        (Function.update (Function.update files .tmp (some output)) .bak none) = .error error := by
      rw [load]
      simp [hstate, hfile]
    rcases hcut.1 with h | h <;> rw [hload] at h <;> cases h
  · rw [hfile] at hbad
    cases hbad

/-- A save is crash safe exactly when the state file, if there is one, can be loaded. -/
theorem save_recoverable_iff (lib : Primitives) (hlib : lib.Inverts) (files : StateFiles)
    (passphrase : Bytes) (old new : Identity) (protection : StateProtection)
    (parameters : StateKdfParameters) (salt : Salt) (nonce : Nonce)
    (hold : load lib passphrase files = .ok old)
    (hvalid : Valid protection passphrase parameters) :
    Safe (Recoverable lib passphrase old new)
        (save lib new protection passphrase parameters salt nonce) files ↔
      (files .state = none ∨ (loadFile lib passphrase (files .state)).isOk = true) := by
  obtain ⟨output, houtput⟩ := @envelope_of_valid lib passphrase new protection parameters salt
    nonce hvalid
  have hnew := loadFile_envelope hlib houtput
  rw [save, houtput]
  constructor
  · intro hsafe
    rcases hs : files .state with _ | content
    · exact Or.inl rfl
    · right
      by_contra hbad
      exact not_safe_replaceState hs (by simpa using hbad) hsafe
  · intro hstate
    apply safe_replaceState hold _ hnew
    rcases hstate with hnone | hok
    · exact Or.inl hnone
    · right
      rcases hfile : loadFile lib passphrase (files .state) with error | found
      · rw [hfile] at hok
        cases hok
      · rw [← hold, load_of_state hfile]

/-! ## Two saves -/

/-- A stand-in for the libraries: nothing is hidden, and every tag is of zeros. -/
def toyLibrary : Primitives where
  argon2 _ _ _ := ⟨List.replicate 32 1, Netmap.length_ones32⟩
  lock _ _ _ payload :=
    (⟨payload, rfl⟩, ⟨List.replicate 16 0, List.length_replicate⟩)
  unlock _ _ _ ciphertext tag :=
    if tag = List.replicate 16 0 then some ciphertext else none
  blake2b _ := ⟨List.replicate 16 0, List.length_replicate⟩

lemma toyLibrary_inverts : toyLibrary.Inverts := by
  intro key nonce header payload
  simp [toyLibrary]

def toyIdentity (n : UInt8) : Identity where
  machinePrivate := ⟨List.replicate 32 n, List.length_replicate⟩
  nodePrivate := ⟨List.replicate 32 n, List.length_replicate⟩
  discoPrivate := ⟨List.replicate 32 n, List.length_replicate⟩

def toySalt : Salt := ⟨List.replicate 16 7, List.length_replicate⟩

def toyNonce : Nonce := ⟨List.replicate 24 9, List.length_replicate⟩

/-- The file of an identity that is saved without a passphrase. -/
def toyFile (n : UInt8) : Option Bytes :=
  (envelope toyLibrary (toyIdentity n) .Plain [] {} toySalt toyNonce).toOption

/-- The state file alone. -/
def stateOnly : StateFiles := Function.update (fun _ => none) .state (toyFile 1)

theorem save_recoverable_stateOnly :
    Safe (Recoverable toyLibrary [] (toyIdentity 1) (toyIdentity 2))
        (save toyLibrary (toyIdentity 2) .Plain [] {} toySalt toyNonce) stateOnly ↔
      (stateOnly .state = none ∨ (loadFile toyLibrary [] (stateOnly .state)).isOk = true) :=
  save_recoverable_iff toyLibrary toyLibrary_inverts stateOnly [] (toyIdentity 1) (toyIdentity 2)
    .Plain {} toySalt toyNonce (by decide +kernel) nofun

/-- A damaged state file next to a good backup. -/
def damagedState : StateFiles :=
  Function.update (Function.update (fun _ => none) .state (some [0])) .bak (toyFile 1)

/-- The identity was loaded from the backup, and a save that is cut off after removing the
backup leaves none. -/
theorem identity_lost :
    load toyLibrary [] damagedState = .ok (toyIdentity 1) ∧
      load toyLibrary [] ((save toyLibrary (toyIdentity 2) .Plain [] {} toySalt toyNonce).run
        damagedState [.done, .done, .done]).1 = .error "invalid Tailscale state header" := by
  constructor <;> decide +kernel

end ArtemisSwitch.StateStore

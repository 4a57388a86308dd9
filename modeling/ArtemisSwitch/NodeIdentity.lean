import ArtemisSwitch.StateCrash

/-!
# One identity for all starts

Before it goes to control, the worker of `TailscaleCore` loads the identity of the node, or
generates and saves one.  A start may be cut off while it saves.
-/

namespace ArtemisSwitch.StateStore
open CrashFiles

/-- Two of the keys are the same. -/
def isWeakIdentity (identity : Identity) : Bool :=
  identity.machinePrivate = identity.nodePrivate || identity.nodePrivate = identity.discoPrivate ||
    identity.machinePrivate = identity.discoPrivate

/-- The generator that `TailscaleProvider` installs, on the keys that were drawn. -/
def generateIdentity (drawn : Identity) : Except String Identity :=
  if isWeakIdentity drawn then .error "random source returned repeated key material"
  else .ok drawn

/-- What one start finds outside. -/
structure Launch where
  /-- The renaming of a recovered backup goes through. -/
  renamed : Bool
  drawn : Identity
  salt : Salt
  nonce : Nonce
  script : List (Outcome Bytes)

/-- How the first part of `workerMain` ends: in the second case with the state `Error`. -/
inductive Identified
  | ready (identity : Identity)
  | failed (status error : String)
  | cutOff
  deriving DecidableEq

section Worker

variable (lib : Primitives) (passphrase : Bytes)

def createIdentity (l : Launch) (files : StateFiles) : Identified × StateFiles :=
  match generateIdentity l.drawn with
  | .error error => (.failed "Identity generation failed" error, files)
  | .ok generated =>
    let protection := if passphrase = [] then StateProtection.Plain else .Passphrase
    match (save lib generated protection passphrase {} l.salt l.nonce).run files l.script with
    | (files, none) => (.cutOff, files)
    | (files, some (.error error)) => (.failed "Identity save failed" error, files)
    | (files, some (.ok ())) => (.ready generated, files)

/-- `workerMain` up to the identity. -/
def identify (l : Launch) (files : StateFiles) : Identified × StateFiles :=
  let loaded := loadedFiles lib passphrase files l.renamed
  match load lib passphrase files with
  | .ok identity =>
    if isWeakIdentity identity then createIdentity lib passphrase l loaded
    else (.ready identity, loaded)
  | .error error =>
    if error ≠ "Tailscale state does not exist" then
      (.failed "Identity unavailable" error, loaded)
    else createIdentity lib passphrase l loaded

/-- How each of the starts ends. -/
def starts : StateFiles → List Launch → List Identified
  | _, [] => []
  | files, l :: launches =>
    (identify lib passphrase l files).1 :: starts (identify lib passphrase l files).2 launches

end Worker

section Kept

variable {lib : Primitives} {passphrase output : Bytes} {files : StateFiles} {l : Launch}
variable {identity new : Identity} {protection : StateProtection}
variable {parameters : StateKdfParameters} {salt : Salt} {nonce : Nonce}

/-! ## What a save that succeeds leaves -/

/-- After a success the state file is the new one. -/
def Saved (output : Bytes) (files : StateFiles) (result : Option (Except String Unit)) : Prop :=
  result = some (.ok ()) → files .state = some output

lemma saved_cutOff : Saved output files none := by
  intro hdone
  cases hdone

lemma saved_failed {error : String} : Saved output files (some (.error error)) := by
  intro hdone
  cases hdone

lemma saved_install (htmp : files .tmp = some output) : Safe (Saved output) install files := by
  apply safe_attempt_of_keeps (fun _ => rfl) saved_cutOff
  · intro next hnext
    simp only [Operation.done, htmp, Option.map_some, Option.some.injEq] at hnext
    have hstate : next .state = some output := by
      rw [← hnext]
      exact Function.update_self ..
    apply safe_attempt_of_keeps (fun _ => rfl) saved_cutOff
    · intro last hlast
      obtain rfl := Option.some.inj hlast
      exact safe_halt fun _ => hstate
    · exact safe_halt fun _ => hstate
  · apply safe_test
    · intro _
      apply safe_attempt_of_keeps (fun _ => rfl) saved_cutOff
      · exact fun _ _ => safe_halt saved_failed
      · exact safe_halt saved_failed
    · exact fun _ => safe_halt saved_failed

lemma saved_backUp (htmp : files .tmp = some output) : Safe (Saved output) backUp files := by
  apply safe_attempt_of_keeps (fun _ => rfl) saved_cutOff
  · intro next hnext
    obtain ⟨content, -, rfl⟩ := Option.map_eq_some_iff.mp hnext
    exact saved_install htmp
  · exact safe_halt saved_failed

lemma saved_replaceState : Safe (Saved output) (replaceState output) files := by
  apply safe_attempt_of_keeps (fun _ => rfl) saved_cutOff
  · intro next hnext
    obtain rfl := Option.some.inj hnext
    apply safe_attempt saved_cutOff
    · intro next hnext
      obtain rfl := Option.some.inj hnext
      have htmp : Function.update files .tmp (some output) .tmp = some output :=
        Function.update_self ..
      apply safe_test
      · intro _
        apply safe_attempt_of_keeps (fun _ => rfl) saved_cutOff
        · intro next hnext
          obtain rfl := Option.some.inj hnext
          exact saved_backUp htmp
        · exact saved_backUp htmp
      · exact fun _ => saved_install htmp
    · exact fun _ => safe_halt saved_failed
    · intro hnone
      cases hnone
  · exact safe_halt saved_failed

/-- What has been saved is loaded. -/
lemma load_of_saved (hlib : lib.Inverts) (script : List (Outcome Bytes))
    (h : ((save lib new protection passphrase parameters salt nonce).run files script).2 =
      some (.ok ())) :
    load lib passphrase
      ((save lib new protection passphrase parameters salt nonce).run files script).1 =
        .ok new := by
  rcases henvelope : envelope lib new protection passphrase parameters salt nonce with
    error | output
  · rw [save, henvelope] at h
    cases h
  · have hsave : save lib new protection passphrase parameters salt nonce =
        replaceState output := by
      rw [save, henvelope]
    rw [hsave] at h ⊢
    have hstate := saved_replaceState script h
    exact load_of_state (by rw [hstate, loadFile_envelope hlib henvelope])

/-! ## Starts -/

lemma generateIdentity_strong {drawn : Identity} (h : generateIdentity drawn = .ok identity) :
    isWeakIdentity identity = false := by
  unfold generateIdentity at h
  split_ifs at h with hweak
  obtain rfl := Except.ok.inj h
  simpa using hweak

/-- An identity to go on with, which the next start finds. -/
def Settled (lib : Primitives) (passphrase : Bytes) (identity : Identity) (files : StateFiles) :
    Prop :=
  isWeakIdentity identity = false ∧ load lib passphrase files = .ok identity

lemma createIdentity_ready (hlib : lib.Inverts)
    (h : (createIdentity lib passphrase l files).1 = .ready identity) :
    Settled lib passphrase identity (createIdentity lib passphrase l files).2 := by
  unfold createIdentity at h ⊢
  cases hgenerated : generateIdentity l.drawn with
  | error error =>
    rw [hgenerated] at h
    cases h
  | ok generated =>
    have hsaved := @load_of_saved lib passphrase files generated
      (if passphrase = [] then .Plain else .Passphrase) {} l.salt l.nonce hlib l.script
    rw [hgenerated] at h
    dsimp only at h ⊢
    generalize (save lib generated _ passphrase {} l.salt l.nonce).run files l.script = r
      at h hsaved ⊢
    obtain ⟨left, _ | _ | _⟩ := r
    · cases h
    · cases h
    · obtain rfl : generated = identity := Identified.ready.inj h
      exact ⟨generateIdentity_strong hgenerated, hsaved rfl⟩

lemma identify_ready (hlib : lib.Inverts)
    (h : (identify lib passphrase l files).1 = .ready identity) :
    Settled lib passphrase identity (identify lib passphrase l files).2 := by
  unfold identify at h ⊢
  dsimp only at h ⊢
  rcases hload : load lib passphrase files with error | loaded
  · rw [hload] at h
    dsimp only at h ⊢
    split_ifs at h ⊢
    exact createIdentity_ready hlib h
  · rw [hload] at h
    dsimp only at h ⊢
    split_ifs at h ⊢ with hweak
    · exact createIdentity_ready hlib h
    · obtain rfl : loaded = identity := Identified.ready.inj h
      exact ⟨by simpa using hweak, load_loadedFiles hload⟩

/-- A settled identity is used again, and stays settled. -/
lemma identify_settled (h : Settled lib passphrase identity files) :
    (identify lib passphrase l files).1 = .ready identity ∧
      Settled lib passphrase identity (identify lib passphrase l files).2 := by
  obtain ⟨hstrong, hload⟩ := h
  unfold identify
  rw [hload]
  dsimp only
  rw [if_neg (by simp [hstrong])]
  exact ⟨rfl, hstrong, load_loadedFiles hload⟩

/-- A state that is there and cannot be read is not replaced. -/
lemma identify_unreadable {error : String} (hload : load lib passphrase files = .error error)
    (hthere : error ≠ "Tailscale state does not exist") :
    identify lib passphrase l files = (.failed "Identity unavailable" error, files) := by
  unfold identify
  rw [hload]
  dsimp only
  rw [if_pos hthere, loadedFiles, if_neg (by simp [hload, Except.isOk, Except.toBool])]

lemma starts_settled (h : Settled lib passphrase identity files) (launches : List Launch) :
    starts lib passphrase files launches = List.replicate launches.length (.ready identity) := by
  induction launches generalizing files with
  | nil => rfl
  | cons l launches ih =>
    obtain ⟨hready, hstays⟩ := @identify_settled _ _ _ l _ h
    rw [starts, hready, ih hstays]
    rfl

/-- Such a state is never replaced. -/
theorem starts_unreadable {error : String} (hload : load lib passphrase files = .error error)
    (hthere : error ≠ "Tailscale state does not exist") (launches : List Launch) :
    starts lib passphrase files launches =
      List.replicate launches.length (.failed "Identity unavailable" error) := by
  induction launches with
  | nil => rfl
  | cons l launches ih =>
    rw [starts, identify_unreadable hload hthere, ih]
    rfl

/-- **The identity that a start goes on with is that of all later starts**, whatever happens to the
files in them, and its keys are not repeated. -/
theorem identity_is_kept (hlib : lib.Inverts) (passphrase : Bytes) (files : StateFiles)
    (launches : List Launch) (n m : ℕ) (identity : Identity) (hnm : n ≤ m)
    (hm : m < launches.length)
    (hready : (starts lib passphrase files launches)[n]? = some (.ready identity)) :
    (starts lib passphrase files launches)[m]? = some (.ready identity) ∧
      isWeakIdentity identity = false := by
  induction launches generalizing files n m with
  | nil => exact absurd hm (Nat.not_lt_zero m)
  | cons l launches ih =>
    cases n with
    | zero =>
      have hfirst := Option.some.inj hready
      have hsettled := identify_ready hlib hfirst
      refine ⟨?_, hsettled.1⟩
      cases m with
      | zero => exact hready
      | succ m =>
        rw [starts, List.getElem?_cons_succ, starts_settled hsettled, List.getElem?_replicate,
          if_pos (Nat.lt_of_succ_lt_succ hm)]
    | succ n =>
      obtain ⟨m, rfl⟩ := Nat.exists_eq_add_of_le' (Nat.one_le_of_lt hnm)
      exact ih _ n m (Nat.le_of_succ_le_succ hnm) (Nat.lt_of_succ_lt_succ hm) hready

end Kept

/-! ## Two starts -/

/-- A key of equal bytes. -/
def evenKey (n : UInt8) : Netmap.Key32 := .copyFrom (List.replicate 32 n)

/-- The first start is cut off, the second saves its identity, and the third draws another. -/
def threeLaunches : List Launch :=
  [⟨true, ⟨evenKey 1, evenKey 2, evenKey 3⟩, toySalt, toyNonce, [.done]⟩,
    ⟨true, ⟨evenKey 4, evenKey 5, evenKey 6⟩, toySalt, toyNonce, [.done, .done, .done, .done]⟩,
    ⟨true, ⟨evenKey 7, evenKey 8, evenKey 9⟩, toySalt, toyNonce, []⟩]

theorem identity_is_kept_third :
    (starts toyLibrary [] (fun _ => none) threeLaunches)[2]? =
        some (.ready ⟨evenKey 4, evenKey 5, evenKey 6⟩) ∧
      isWeakIdentity ⟨evenKey 4, evenKey 5, evenKey 6⟩ = false :=
  identity_is_kept toyLibrary_inverts [] (fun _ => none) threeLaunches 1 2 _ (by decide)
    (by decide) (by decide +kernel)

end ArtemisSwitch.StateStore

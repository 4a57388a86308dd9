import ArtemisSwitch.Library.CrashFiles
import ArtemisSwitch.PeerDirectory

/-!
# The stored identity

`save` replaces the state file by way of a temporary file and a backup, `load`
falls back on the backup.  The hash, the key derivation and the AEAD are parameters.
-/

namespace ArtemisSwitch.StateStore
open CrashFiles
open Netmap (Key32)

structure Identity where
  machinePrivate : Key32
  nodePrivate : Key32
  discoPrivate : Key32
  deriving DecidableEq

inductive StateProtection
  | Plain
  | Passphrase
  deriving DecidableEq, Repr

structure StateKdfParameters where
  memoryKiB : UInt32 := 16384
  passes : UInt32 := 3
  lanes : UInt32 := 1
  deriving DecidableEq, Repr

abbrev Salt := {salt : Bytes // salt.length = 16}

abbrev Nonce := {nonce : Bytes // nonce.length = 24}

abbrev Tag := {tag : Bytes // tag.length = 16}

structure Primitives where
  argon2 : Bytes → Bytes → StateKdfParameters → Key32
  lock : Key32 → Bytes → Bytes → (payload : Bytes) →
    {ciphertext : Bytes // ciphertext.length = payload.length} × Tag
  unlock : Key32 → Bytes → Bytes → Bytes → Bytes → Option Bytes
  blake2b : Bytes → Tag

/-- The AEAD unlocks what it locked. -/
def Primitives.Inverts (lib : Primitives) : Prop :=
  ∀ key nonce header payload, lib.unlock key nonce header
    (lib.lock key nonce header payload).1.val (lib.lock key nonce header payload).2.val =
      some payload

def kMagic : Bytes := [65, 82, 84, 84, 83, 48, 49, 0]

def kVersion : ℕ := 1

def kIdentitySize : ℕ := 96

def kMinMemoryKiB : UInt32 := 8192

def kMaxMemoryKiB : UInt32 := 32768

def headerSize : ℕ := 68

/-! ## Bytes -/

def append16 (value : ℕ) : Bytes := [UInt8.ofNat value, UInt8.ofNat (value / 256)]

def append32 (value : UInt32) : Bytes :=
  [UInt8.ofNat value.toNat, UInt8.ofNat (value.toNat / 256), UInt8.ofNat (value.toNat / 65536),
    UInt8.ofNat (value.toNat / 16777216)]

def read16 : Bytes → ℕ
  | b0 :: b1 :: _ => b0.toNat + b1.toNat * 256
  | _ => 0

def read32 : Bytes → UInt32
  | b0 :: b1 :: b2 :: b3 :: _ =>
    UInt32.ofNat (b0.toNat + b1.toNat * 256 + b2.toNat * 65536 + b3.toNat * 16777216)
  | _ => 0

lemma read32_append32 (value : UInt32) (rest : Bytes) :
    read32 (append32 value ++ rest) = value := by
  have hlt := value.toNat_lt
  simp only [append32, List.cons_append, read32, UInt8.toNat_ofNat']
  apply UInt32.toNat_inj.mp
  rw [UInt32.toNat_ofNat']
  omega

def serialize (identity : Identity) : Bytes :=
  identity.machinePrivate.val ++ identity.nodePrivate.val ++ identity.discoPrivate.val

def deserialize (bytes : Bytes) : Identity where
  machinePrivate := .copyFrom bytes
  nodePrivate := .copyFrom (bytes.drop 32)
  discoPrivate := .copyFrom (bytes.drop 64)

lemma length_serialize (identity : Identity) : (serialize identity).length = kIdentitySize := by
  simp [serialize, identity.machinePrivate.property, identity.nodePrivate.property,
    identity.discoPrivate.property, kIdentitySize]

lemma deserialize_serialize (identity : Identity) :
    deserialize (serialize identity) = identity := by
  have hm := identity.machinePrivate.property
  have hn := identity.nodePrivate.property
  have hnode : (serialize identity).drop 32 =
      identity.nodePrivate.val ++ (identity.discoPrivate.val ++ []) := by
    rw [serialize, List.append_assoc, List.drop_left' hm, List.append_nil]
  have hdisco : (serialize identity).drop 64 = identity.discoPrivate.val ++ [] := by
    rw [← List.drop_drop (i := 32) (j := 32), hnode, List.drop_left' hn]
  rw [deserialize, hnode, hdisco, Key32.copyFrom_append, Key32.copyFrom_append, serialize,
    List.append_assoc, Key32.copyFrom_append]

/-! ## The envelope -/

def validateKdf (parameters : StateKdfParameters) : Bool :=
  kMinMemoryKiB ≤ parameters.memoryKiB && parameters.memoryKiB ≤ kMaxMemoryKiB &&
    parameters.passes ≠ 0 && parameters.passes ≤ 10 && parameters.lanes = 1

def deriveKey (lib : Primitives) (passphrase salt : Bytes) (parameters : StateKdfParameters) :
    Except String Key32 :=
  if passphrase = [] then .error "passphrase is required"
  else if validateKdf parameters = false then .error "unsupported state KDF parameters"
  else .ok (lib.argon2 passphrase salt parameters)

def protectionByte : StateProtection → UInt8
  | .Plain => 0
  | .Passphrase => 1

def envelopeHeader (protection : StateProtection) (parameters : StateKdfParameters) (salt : Salt)
    (nonce : Nonce) : Bytes :=
  kMagic ++ append16 kVersion ++ [protectionByte protection, 0] ++
    append32 parameters.memoryKiB ++ append32 parameters.passes ++ append32 parameters.lanes ++
    salt.val ++ nonce.val ++ append32 (UInt32.ofNat kIdentitySize)

/-- What `save` writes, with the salt and the nonce that it drew. -/
def envelope (lib : Primitives) (identity : Identity) (protection : StateProtection)
    (passphrase : Bytes) (parameters : StateKdfParameters) (salt : Salt) (nonce : Nonce) :
    Except String Bytes :=
  let payload := serialize identity
  let header := envelopeHeader protection parameters salt nonce
  match protection with
  | .Passphrase =>
    if validateKdf parameters = false then .error "unsupported state KDF parameters"
    else
      match deriveKey lib passphrase salt.val parameters with
      | .error error => .error error
      | .ok key =>
        let locked := lib.lock key nonce.val header payload
        .ok (header ++ locked.1.val ++ locked.2.val)
  | .Plain => .ok (header ++ payload ++ (lib.blake2b payload).val)

structure ParsedHeader where
  protection : StateProtection
  kdf : StateKdfParameters
  salt : Bytes
  nonce : Bytes
  deriving DecidableEq, Repr

def parseHeader (bytes : Bytes) : Except String ParsedHeader :=
  if bytes.length < headerSize + 16 ∨ bytes.take 8 ≠ kMagic ∨ read16 (bytes.drop 8) ≠ kVersion then
    .error "invalid Tailscale state header"
  else
    let header (protection : StateProtection) : Except String ParsedHeader :=
      let payloadSize := (read32 (bytes.drop 64)).toNat
      if payloadSize ≠ kIdentitySize ∨ bytes.length ≠ headerSize + payloadSize + 16 then
        .error "invalid Tailscale state size"
      else
        .ok
          { protection := protection
            kdf := ⟨read32 (bytes.drop 12), read32 (bytes.drop 16), read32 (bytes.drop 20)⟩
            salt := (bytes.drop 24).take 16
            nonce := (bytes.drop 40).take 24 }
    match (bytes.drop 10).head? with
    | some 0 => header .Plain
    | some 1 => header .Passphrase
    | _ => .error "unknown Tailscale state protection"

/-- The part of `loadFile` behind the header: `additional` is what the header was read from. -/
def openPayload (lib : Primitives) (passphrase : Bytes) (header : ParsedHeader)
    (additional ciphertext tag : Bytes) : Except String Identity :=
  match header.protection with
  | .Passphrase =>
    match deriveKey lib passphrase header.salt header.kdf with
    | .error _ => .error "Tailscale state authentication failed"
    | .ok key =>
      match lib.unlock key header.nonce additional ciphertext tag with
      | none => .error "Tailscale state authentication failed"
      | some payload => .ok (deserialize payload)
  | .Plain =>
    if (lib.blake2b ciphertext).val = tag then .ok (deserialize ciphertext)
    else .error "Tailscale state authentication failed"

/-- The identity in a file, if there is one. -/
def loadFile (lib : Primitives) (passphrase : Bytes) : Option Bytes → Except String Identity
  | none => .error "Tailscale state does not exist"
  | some bytes =>
    if bytes.length = 0 ∨ 4096 < bytes.length then .error "invalid Tailscale state size"
    else
      match parseHeader bytes with
      | .error error => .error error
      | .ok header =>
        openPayload lib passphrase header (bytes.take headerSize)
          ((bytes.drop headerSize).take kIdentitySize) (bytes.drop (headerSize + kIdentitySize))

/-! ## Files -/

/-- The state file and its two companions. -/
inductive Name
  | state
  | tmp
  | bak
  deriving DecidableEq, Repr

abbrev StateFiles := Files Name Bytes

abbrev SaveProgram := Program Name Bytes (Except String Unit)

/-- The temporary file becomes the state file, or else the backup comes back. -/
def install : SaveProgram :=
  .attempt (.rename .tmp .state)
    (.attempt (.remove .bak) (.halt (.ok ())) (.halt (.ok ())))
    (.test .bak
      (.attempt (.rename .bak .state) (.halt (.error "cannot replace Tailscale state"))
        (.halt (.error "cannot replace Tailscale state")))
      (.halt (.error "cannot replace Tailscale state")))

def backUp : SaveProgram :=
  .attempt (.rename .state .bak) install (.halt (.error "cannot back up Tailscale state"))

/-- The file operations of `save`; that the old backup cannot be removed is ignored. -/
def replaceState (output : Bytes) : SaveProgram :=
  .attempt .createDirectories
    (.attempt (.write .tmp output)
      (.test .state (.attempt (.remove .bak) backUp backUp) install)
      (.halt (.error "cannot write Tailscale state")))
    (.halt (.error "cannot create Tailscale state directory"))

def save (lib : Primitives) (identity : Identity) (protection : StateProtection)
    (passphrase : Bytes) (parameters : StateKdfParameters) (salt : Salt) (nonce : Nonce) :
    SaveProgram :=
  match envelope lib identity protection passphrase parameters salt nonce with
  | .error error => .halt (.error error)
  | .ok output => replaceState output

def load (lib : Primitives) (passphrase : Bytes) (files : StateFiles) : Except String Identity :=
  match loadFile lib passphrase (files .state) with
  | .ok identity => .ok identity
  | .error primaryError =>
    if (files .bak).isSome then
      match loadFile lib passphrase (files .bak) with
      | .ok identity => .ok identity
      | .error backupError =>
        .error (primaryError ++ "; backup recovery failed: " ++ backupError)
    else .error primaryError

/-- The files after `load`: a backup that was recovered becomes the state file when there is
none, if the renaming succeeds. -/
def loadedFiles (lib : Primitives) (passphrase : Bytes) (files : StateFiles) (renamed : Bool) :
    StateFiles :=
  if (files .state).isNone && (load lib passphrase files).isOk && renamed then
    ((Operation.rename .bak .state).done files).getD files
  else files

end ArtemisSwitch.StateStore

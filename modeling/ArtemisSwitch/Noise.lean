import ArtemisSwitch.PeerDirectory

/-!
# The TS2021 Noise client

The client half of the Noise IK handshake and the records that follow it.  The
hash, X25519 and the AEAD are parameters.
-/

namespace ArtemisSwitch.Noise
open HostAddress
open Netmap (Key32)

/-- What the client takes from its cryptographic libraries.  `aeadWrite` returns the
ciphertext and the tag of 16 bytes, `aeadRead` is given both. -/
structure Primitives where
  blake2s : Bytes → Key32
  x25519 : Key32 → Key32 → Key32
  x25519PublicKey : Key32 → Key32
  aeadWrite : Key32 → Bytes → Bytes → (plaintext : Bytes) →
    {ciphertext : Bytes // ciphertext.length = plaintext.length + 16}
  aeadRead : Key32 → Bytes → Bytes → Bytes → Option Bytes

def kProtocolVersion : UInt16 := 1

def kResponseSize : ℕ := 51

def kMaxRecordSize : ℕ := 4096

def kMaxPlaintextSize : ℕ := 4077

def kMaxBufferedCiphertext : ℕ := 65536

def kProtocolName : Bytes := ascii "Noise_IK_25519_ChaChaPoly_BLAKE2s"

def kProloguePrefix : Bytes := ascii "Tailscale Control Protocol v"

def zeroKey : Key32 := ⟨List.replicate 32 0, Netmap.length_zeros32⟩

def bigEndian16 (value : ℕ) : Bytes := [UInt8.ofNat (value / 256), UInt8.ofNat value]

namespace Primitives
variable (lib : Primitives)

def hashParts (first second : Bytes) : Key32 := lib.blake2s (first ++ second)

def hmac (key data : Bytes) : Key32 :=
  let start := if 64 < key.length then (lib.hashParts key []).val else key
  let padded := start ++ List.replicate (64 - start.length) 0
  let inner := lib.hashParts (padded.map (· ^^^ 0x36)) data
  lib.hashParts (padded.map (· ^^^ 0x5c)) inner.val

def hkdf2 (salt : Key32) (input : Bytes) : Key32 × Key32 :=
  let prk := lib.hmac salt.val input
  let first := lib.hmac prk.val [1]
  (first, lib.hmac prk.val (first.val ++ [2]))

end Primitives

/-- Four zero bytes and the counter, big-endian. -/
def nonceBytes (nonce : UInt64) : Bytes :=
  List.replicate 4 0 ++ (List.range 8).reverse.map fun i => UInt8.ofNat (nonce.toNat / 256 ^ i)

namespace Primitives
variable (lib : Primitives)

def encrypt (key : Key32) (nonce : UInt64) (additionalData plaintext : Bytes) : Bytes :=
  (lib.aeadWrite key (nonceBytes nonce) additionalData plaintext).val

def decrypt (key : Key32) (nonce : UInt64) (additionalData ciphertextAndTag : Bytes) :
    Option Bytes :=
  lib.aeadRead key (nonceBytes nonce) additionalData ciphertextAndTag

lemma length_encrypt (key : Key32) (nonce : UInt64) (additionalData plaintext : Bytes) :
    (lib.encrypt key nonce additionalData plaintext).length = plaintext.length + 16 :=
  (lib.aeadWrite key (nonceBytes nonce) additionalData plaintext).property

end Primitives

structure NoiseClient where
  machinePrivate : Key32
  controlPublic : Key32
  ephemeralPrivate : Key32
  chainingKey : Key32 := zeroKey
  hash : Key32 := zeroKey
  txKey : Key32 := zeroKey
  rxKey : Key32 := zeroKey
  protocolVersion : UInt16 := kProtocolVersion
  txNonce : UInt64 := 0
  rxNonce : UInt64 := 0
  begun : Bool := false
  ready : Bool := false
  receiveBuffer : Bytes := []
  deriving DecidableEq

/-- A sealed record as it goes on the wire, and the nonce it was sealed under. -/
structure Record where
  nonce : UInt64
  bytes : Bytes
  deriving DecidableEq

/-- What the loop of `consume` makes of a buffer: the plaintexts with the nonces they were
opened under, the nonce of a record that did not open, and what is left. -/
structure Drained where
  accepted : List (UInt64 × Bytes) := []
  rejected : Option UInt64 := none
  error : Option String := none
  rest : Bytes
  deriving DecidableEq

/-- How a call of `consume` ends. -/
structure Consumed where
  accepted : List (UInt64 × Bytes)
  rejected : Option UInt64
  error : Option String
  client : NoiseClient
  deriving DecidableEq

/-- A stand-in for the libraries: all keys are equal and a tag of zeros is authentic. -/
def toyLibrary : Primitives where
  blake2s _ := ⟨List.replicate 32 1, Netmap.length_ones32⟩
  x25519 _ _ := ⟨List.replicate 32 1, Netmap.length_ones32⟩
  x25519PublicKey _ := ⟨List.replicate 32 1, Netmap.length_ones32⟩
  aeadWrite _ _ _ plaintext := ⟨plaintext ++ List.replicate 16 0, by simp⟩
  aeadRead _ _ _ ciphertextAndTag :=
    if ciphertextAndTag.drop (ciphertextAndTag.length - 16) = List.replicate 16 0 then
      some (ciphertextAndTag.take (ciphertextAndTag.length - 16))
    else none

namespace NoiseClient
variable (lib : Primitives) (client : NoiseClient)

/-- Before `begin` has succeeded a failure leaves no mark. -/
def fail : NoiseClient := if client.begun then { client with ready := false } else client

def mixHash (data : Bytes) : NoiseClient :=
  { client with hash := lib.hashParts client.hash.val data }

def mixDh (privateKey publicKey : Key32) : Except String Key32 × NoiseClient :=
  let shared := lib.x25519 privateKey publicKey
  if shared.val.all (· = 0) then (.error "invalid TS2021 X25519 peer key", client.fail)
  else
    let derived := lib.hkdf2 client.chainingKey shared.val
    (.ok derived.2, { client with chainingKey := derived.1 })

/-! ## The handshake -/

/-- The state in which `begin` starts to mix keys. -/
def startHandshake : NoiseClient :=
  let hash := lib.hashParts [] kProtocolName
  let client := { client with hash := hash, chainingKey := hash }
  let client := client.mixHash lib (kProloguePrefix ++ decimal client.protocolVersion.toNat)
  let client := client.mixHash lib client.controlPublic.val
  client.mixHash lib (lib.x25519PublicKey client.ephemeralPrivate).val

/-- `initiation` says whether the caller gave a place for the message. -/
def begin (initiation : Bool) : Except String Bytes × NoiseClient :=
  if initiation = false ∨ client.begun = true ∨ client.protocolVersion = 0 then
    (.error "invalid TS2021 handshake state", client.fail)
  else
    let client := client.startHandshake lib
    match client.mixDh lib client.ephemeralPrivate client.controlPublic with
    | (.error error, client) => (.error error, client)
    | (.ok cipherKey, client) =>
      let machinePublic := lib.x25519PublicKey client.machinePrivate
      let encryptedMachine := lib.encrypt cipherKey 0 client.hash.val machinePublic.val
      let client := client.mixHash lib encryptedMachine
      match client.mixDh lib client.machinePrivate client.controlPublic with
      | (.error error, client) => (.error error, client)
      | (.ok cipherKey, client) =>
        let tag := lib.encrypt cipherKey 0 client.hash.val []
        let client := client.mixHash lib tag
        (.ok (bigEndian16 client.protocolVersion.toNat ++ [1] ++ bigEndian16 96 ++
            (lib.x25519PublicKey client.ephemeralPrivate).val ++ encryptedMachine ++ tag),
          { client with begun := true })

def split : NoiseClient :=
  let keys := lib.hkdf2 client.chainingKey []
  { client with txKey := keys.1, rxKey := keys.2, txNonce := 0, rxNonce := 0 }

/-- The size and the three header bytes of a handshake response. -/
def wellFormed (response : Bytes) : Bool :=
  response.length = kResponseSize && response.take 3 = [2, 0, 48]

/-- The key of the server in a response of the right size. -/
def controlEphemeral (response : Bytes) : Key32 := .copyFrom (response.drop 3)

def responseTag (response : Bytes) : Bytes := (response.drop 35).take 16

/-- `complete` up to the key that the response is authenticated with. -/
def mixResponse (publicKey : Key32) : Except String Key32 × NoiseClient :=
  let client := client.mixHash lib publicKey.val
  match client.mixDh lib client.ephemeralPrivate publicKey with
  | (.error error, client) => (.error error, client)
  | (.ok _, client) => client.mixDh lib client.machinePrivate publicKey

def complete (response : Bytes) : Except String Unit × NoiseClient :=
  if client.begun = false ∨ client.ready = true ∨ wellFormed response = false then
    (.error "invalid TS2021 handshake response", client.fail)
  else
    match client.mixResponse lib (controlEphemeral response) with
    | (.error error, client) => (.error error, client)
    | (.ok cipherKey, client) =>
      match lib.decrypt cipherKey 0 client.hash.val (responseTag response) with
      | none => (.error "TS2021 response authentication failed", client.fail)
      | some _ =>
        (.ok (), { (client.mixHash lib (responseTag response)).split lib with ready := true })

/-! ## Records -/

/-- The loop of `frame`. -/
def frameRecords (key : Key32) (nonce : UInt64) (plaintext : Bytes) : List Record :=
  if h : plaintext = [] then []
  else
    let ciphertext := lib.encrypt key nonce [] (plaintext.take kMaxPlaintextSize)
    ⟨nonce, [4] ++ bigEndian16 ciphertext.length ++ ciphertext⟩ ::
      frameRecords key (nonce + 1) (plaintext.drop kMaxPlaintextSize)
termination_by plaintext.length
decreasing_by
  have := List.length_pos_of_ne_nil h
  simp only [kMaxPlaintextSize, List.length_drop]
  omega

/-- `framed` says whether the caller gave a place for the records. -/
def frame (plaintext : Bytes) (framed : Bool) : Except String (List Record) × NoiseClient :=
  if client.ready = false ∨ framed = false then
    (.error "TS2021 session is not ready", client.fail)
  else
    let records := frameRecords lib client.txKey client.txNonce plaintext
    (.ok records, { client with txNonce := client.txNonce + UInt64.ofNat records.length })

/-- The loop of `consume`. -/
def drain (key : Key32) (nonce : UInt64) (buffer : Bytes) : Drained :=
  match buffer with
  | type :: high :: low :: body =>
    let ciphertextLength := high.toNat * 256 + low.toNat
    if type ≠ 4 then { error := some "unexpected TS2021 record type", rest := buffer }
    else if ciphertextLength < 16 ∨ kMaxRecordSize - 3 < ciphertextLength then
      { error := some "invalid TS2021 record length", rest := buffer }
    else if body.length < ciphertextLength then { rest := buffer }
    else
      match lib.decrypt key nonce [] (body.take ciphertextLength) with
      | none =>
        { rejected := some nonce, error := some "TS2021 record authentication failed",
          rest := buffer }
      | some decoded =>
        let drained := drain key (nonce + 1) (body.drop ciphertextLength)
        { drained with accepted := (nonce, decoded) :: drained.accepted }
  | short => { rest := short }
termination_by buffer.length
decreasing_by
  simp only [List.length_drop, List.length_cons]
  omega

/-- `plaintext` says whether the caller gave a place for the plaintexts.  A failure keeps
everything in the buffer. -/
def consume (bytes : Bytes) (plaintext : Bool) : Consumed :=
  if client.ready = false ∨ plaintext = false ∨
      kMaxBufferedCiphertext < client.receiveBuffer.length + bytes.length then
    ⟨[], none, some "invalid or oversized TS2021 receive buffer", client.fail⟩
  else
    let buffer := client.receiveBuffer ++ bytes
    let drained := drain lib client.rxKey client.rxNonce buffer
    let tried := drained.accepted.length + drained.rejected.toList.length
    let client := { client with rxNonce := client.rxNonce + UInt64.ofNat tried }
    ⟨drained.accepted, drained.rejected, drained.error,
      if drained.error.isSome then { client with receiveBuffer := buffer }.fail
      else { client with receiveBuffer := drained.rest }⟩

end NoiseClient
end ArtemisSwitch.Noise

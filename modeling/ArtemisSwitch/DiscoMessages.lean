import ArtemisSwitch.Box
import ArtemisSwitch.DirectPath
import ArtemisSwitch.Library.CheckedReads

/-!
# Disco messages

The three messages that peers exchange to find a path, in a box behind a clear header.  Packets are
read by checked reads.
-/

namespace ArtemisSwitch.Disco
open Transport CheckedReads ByteLayout Box
open Netmap (Key32)
open Noise (zeroKey)

/-! ## Words and addresses -/

def putU16 (value : UInt16) : Bytes := [(value >>> 8).toUInt8, (value &&& 0xff).toUInt8]

def putU32 (value : UInt32) : Bytes :=
  [(value >>> 24).toUInt8, (value >>> 16).toUInt8, (value >>> 8).toUInt8,
    (value &&& 0xff).toUInt8]

def getU16 (packet : Bytes) (off : ℕ) : Except OutOfRange UInt16 := do
  let p ← readAt packet off 2
  return (p.getD 0 0).toUInt16 <<< 8 ||| (p.getD 1 0).toUInt16

def getU32 (packet : Bytes) (off : ℕ) : Except OutOfRange UInt32 := do
  let p ← readAt packet off 4
  return (p.getD 0 0).toUInt32 <<< 24 ||| (p.getD 1 0).toUInt32 <<< 16 |||
    (p.getD 2 0).toUInt32 <<< 8 ||| (p.getD 3 0).toUInt32

def kAddrPortLen : ℕ := 18

/-- The IPv4 address as an IPv6 address. -/
def putAddrPort (ep : IPv4Endpoint) : Bytes :=
  List.replicate 10 0 ++ [0xff, 0xff] ++ putU32 ep.address ++ putU16 ep.port

def getAddrPort (packet : Bytes) (off : ℕ) : Except OutOfRange (Option IPv4Endpoint) := do
  let p ← readAt packet off kAddrPortLen
  if (p.take 10).any (· ≠ 0) then return none
  else if p.getD 10 0 ≠ 0xff ∨ p.getD 11 0 ≠ 0xff then return none
  else
    let address ← getU32 packet (off + 12)
    let port ← getU16 packet (off + 16)
    let ep : IPv4Endpoint := { address, port }
    return if ep.valid then some ep else none

/-! ## Messages -/

def kMagic : Bytes := [0x54, 0x53, 0xf0, 0x9f, 0x92, 0xac]

def kNonceLen : ℕ := 24

/-- The magic, the public key of the sender and the nonce. -/
def kHeaderLen : ℕ := kMagic.length + 32 + kNonceLen

inductive MessageType
  | ping
  | pong
  | callMeMaybe
  deriving DecidableEq, Repr

def MessageType.code : MessageType → UInt8
  | ping => 0x01
  | pong => 0x02
  | callMeMaybe => 0x03

structure Message where
  type : MessageType := .ping
  txid : TxId := Vector.replicate 12 0
  nodeKey : Key32 := zeroKey
  hasNodeKey : Bool := false
  source : IPv4Endpoint := {}
  endpoints : List IPv4Endpoint := []
  deriving DecidableEq

def encodePlaintext (message : Message) : Bytes :=
  [message.type.code, 0] ++
    match message.type with
    | .ping => message.txid.toList ++ message.nodeKey.val
    | .pong => message.txid.toList ++ putAddrPort message.source
    | .callMeMaybe => message.endpoints.flatMap putAddrPort

def TxId.copyFrom (bytes : Bytes) : TxId := Vector.ofFn fun i => bytes.getD i 0

/-- The loop over the body of a CallMeMaybe. -/
def endpointsFrom (body : Bytes) (off : ℕ) (endpoints : List IPv4Endpoint) :
    Except OutOfRange (List IPv4Endpoint) :=
  if off < body.length then
    if kMaxCandidates ≤ endpoints.length then .ok endpoints
    else do
      let ep ← getAddrPort body off
      endpointsFrom body (off + kAddrPortLen) (endpoints ++ ep.toList)
  else .ok endpoints
termination_by body.length - off
decreasing_by
  unfold kAddrPortLen
  omega

/-- The node key is missing in the pings of old peers, and the endpoint where it is of IPv6. -/
def decodePlaintext (plaintext : Bytes) : Except OutOfRange (Option Message) :=
  if plaintext.length < 2 then .ok none
  else do
    let code ← readAt plaintext 0 1
    let body := plaintext.drop 2
    if code = [MessageType.ping.code] then
      if body.length < 12 then return none
      else
        let txid ← readAt body 0 12
        let message : Message := { type := .ping, txid := TxId.copyFrom txid }
        if 12 + 32 ≤ body.length then
          let nodeKey ← readAt body 12 32
          return some { message with nodeKey := Key32.copyFrom nodeKey, hasNodeKey := true }
        else return some message
    else if code = [MessageType.pong.code] then
      if body.length < 12 + kAddrPortLen then return none
      else
        let txid ← readAt body 0 12
        let message : Message := { type := .pong, txid := TxId.copyFrom txid }
        let ep ← getAddrPort body 12
        return some { message with source := ep.getD message.source }
    else if code = [MessageType.callMeMaybe.code] then
      if body.length % kAddrPortLen ≠ 0 then return none
      else
        let endpoints ← endpointsFrom body 0 []
        return some { type := .callMeMaybe, endpoints }
    else return none

/-! ## Packets -/

def looksLikeDisco (packet : Bytes) : Bool :=
  decide (kHeaderLen ≤ packet.length) && packet.take kMagic.length = kMagic

def senderKey (packet : Bytes) : Except OutOfRange (Option Key32) :=
  if looksLikeDisco packet then do
    let key ← readAt packet kMagic.length 32
    return some (Key32.copyFrom key)
  else .ok none

/-- `disco::seal`. -/
def discoSeal (lib : Primitives) (message : Message) (myPrivate myPublic theirPublic : Key32)
    (nonce : BoxNonce) : Bytes :=
  match boxSeal lib (encodePlaintext message) myPrivate theirPublic nonce [] with
  | (.error _, _) => []
  | (.ok _, boxed) => kMagic ++ myPublic.val ++ nonce.val ++ boxed

structure Opened where
  sender : Key32
  message : Message
  deriving DecidableEq

/-- `disco::open`. -/
def discoOpen (lib : Primitives) (packet : Bytes) (myPrivate : Key32) :
    Except OutOfRange (Option Opened) := do
  match ← senderKey packet with
  | none => return none
  | some sender =>
    let nonce ← readAt packet (kMagic.length + 32) kNonceLen
    match boxOpen lib (packet.drop kHeaderLen) myPrivate sender (BoxNonce.copyFrom nonce) [] with
    | (.error _, _) => return none
    | (.ok _, plaintext) =>
      match ← decodePlaintext plaintext with
      | none => return none
      | some message => return some { sender, message }

/-! ## Reads -/

section Reads
variable {packet before behind : Bytes} {off : ℕ}

lemma getU16_of_le (h : off + 2 ≤ packet.length) : ∃ v, getU16 packet off = .ok v := by
  rw [getU16, readAt_of_le h]
  exact ⟨_, rfl⟩

lemma getU32_of_le (h : off + 4 ≤ packet.length) : ∃ v, getU32 packet off = .ok v := by
  rw [getU32, readAt_of_le h]
  exact ⟨_, rfl⟩

lemma low16 (value : UInt16) : (value &&& 0xff).toUInt8 = value.toUInt8 := by
  rw [UInt16.toUInt8_and]
  exact UInt8.and_neg_one

lemma low32 (value : UInt32) : (value &&& 0xff).toUInt8 = value.toUInt8 := by
  rw [UInt32.toUInt8_and]
  exact UInt8.and_neg_one

lemma length_putU16 (value : UInt16) : (putU16 value).length = 2 := rfl

lemma length_putU32 (value : UInt32) : (putU32 value).length = 4 := rfl

lemma getU16_cons (hoff : before.length = off) (p₀ p₁ : UInt8) :
    getU16 (before ++ (p₀ :: p₁ :: behind)) off = .ok (p₀.toUInt16 <<< 8 ||| p₁.toUInt16) := by
  have hread := @readAt_middle _ before [p₀, p₁] behind off 2 hoff rfl
  rw [getU16, show p₀ :: p₁ :: behind = [p₀, p₁] ++ behind from rfl, hread]
  rfl

lemma getU32_cons (hoff : before.length = off) (p₀ p₁ p₂ p₃ : UInt8) :
    getU32 (before ++ (p₀ :: p₁ :: p₂ :: p₃ :: behind)) off =
      .ok (p₀.toUInt32 <<< 24 ||| p₁.toUInt32 <<< 16 ||| p₂.toUInt32 <<< 8 ||| p₃.toUInt32) := by
  have hread := @readAt_middle _ before [p₀, p₁, p₂, p₃] behind off 4 hoff rfl
  rw [getU32, show p₀ :: p₁ :: p₂ :: p₃ :: behind = [p₀, p₁, p₂, p₃] ++ behind from rfl, hread]
  rfl

lemma getU16_putU16 (hoff : before.length = off) (value : UInt16) :
    getU16 (before ++ (putU16 value ++ behind)) off = .ok value := by
  rw [putU16, List.cons_append, List.cons_append, List.nil_append, getU16_cons hoff, low16, join16]

lemma getU32_putU32 (hoff : before.length = off) (value : UInt32) :
    getU32 (before ++ (putU32 value ++ behind)) off = .ok value := by
  rw [putU32, List.cons_append, List.cons_append, List.cons_append, List.cons_append,
    List.nil_append, getU32_cons hoff, low32, join32]

lemma length_putAddrPort (ep : IPv4Endpoint) : (putAddrPort ep).length = kAddrPortLen := rfl

lemma getAddrPort_of_le (h : off + kAddrPortLen ≤ packet.length) :
    ∃ ep, getAddrPort packet off = .ok ep := by
  obtain ⟨address, haddress⟩ : ∃ v, getU32 packet (off + 12) = .ok v :=
    getU32_of_le (by unfold kAddrPortLen at h; omega)
  obtain ⟨port, hport⟩ : ∃ v, getU16 packet (off + 16) = .ok v :=
    getU16_of_le (by unfold kAddrPortLen at h; omega)
  rw [getAddrPort, readAt_of_le h, ok_bind, haddress, hport]
  split_ifs <;> exact ⟨_, rfl⟩

/-- An address is read back, unless it is of no use. -/
lemma getAddrPort_putAddrPort (hoff : before.length = off) (ep : IPv4Endpoint) :
    getAddrPort (before ++ (putAddrPort ep ++ behind)) off =
      .ok (if ep.valid then some ep else none) := by
  have haddress : getU32 (before ++ (putAddrPort ep ++ behind)) (off + 12) = .ok ep.address := by
    have hfront : (before ++ (List.replicate 10 0 ++ [0xff, 0xff])).length = off + 12 := by
      rw [List.length_append, hoff]
      rfl
    have hread := @getU32_putU32 _ (putU16 ep.port ++ behind) _ hfront ep.address
    simpa only [putAddrPort, List.append_assoc] using hread
  have hport : getU16 (before ++ (putAddrPort ep ++ behind)) (off + 16) = .ok ep.port := by
    have hfront : (before ++ (List.replicate 10 0 ++ [0xff, 0xff] ++ putU32 ep.address)).length =
        off + 16 := by
      rw [List.length_append, hoff]
      rfl
    have hread := @getU16_putU16 _ behind _ hfront ep.port
    simpa only [putAddrPort, List.append_assoc] using hread
  rw [getAddrPort, readAt_middle hoff (length_putAddrPort ep), ok_bind, haddress, hport]
  rfl

end Reads

/-! ## The body of a CallMeMaybe -/

section Endpoints
variable {body before : Bytes} {off : ℕ} {endpoints eps : List IPv4Endpoint}

/-- Whole addresses only are read. -/
lemma endpointsFrom_of_dvd (hoff : kAddrPortLen ∣ off) (hbody : kAddrPortLen ∣ body.length) :
    ∃ result, endpointsFrom body off endpoints = .ok result := by
  fun_induction endpointsFrom body off endpoints with
  | case1 => exact ⟨_, rfl⟩
  | case2 off endpoints hlt hfew ih =>
    have hfits : off + kAddrPortLen ≤ body.length := by
      obtain ⟨m, rfl⟩ := hoff
      obtain ⟨n, hn⟩ := hbody
      rw [hn] at hlt ⊢
      have hless : m < n := Nat.lt_of_mul_lt_mul_left hlt
      exact Nat.mul_le_mul_left kAddrPortLen hless
    obtain ⟨ep, hep⟩ := getAddrPort_of_le hfits
    rw [hep, ok_bind]
    exact ih ep ((Nat.dvd_add_right hoff).mpr dvd_rfl)
  | case3 => exact ⟨_, rfl⟩

/-- Useful addresses, and not too many of them, are read back in order. -/
lemma endpointsFrom_put (hoff : before.length = off) (hvalid : ∀ ep ∈ eps, ep.valid)
    (hcount : endpoints.length + eps.length ≤ kMaxCandidates) :
    endpointsFrom (before ++ eps.flatMap putAddrPort) off endpoints = .ok (endpoints ++ eps) := by
  induction eps generalizing before off endpoints with
  | nil =>
    rw [endpointsFrom, List.flatMap_nil, List.append_nil, if_neg (by omega), List.append_nil]
  | cons ep eps ih =>
    have hrest : endpointsFrom (before ++ putAddrPort ep ++ eps.flatMap putAddrPort)
        (off + kAddrPortLen) (endpoints ++ [ep]) = .ok (endpoints ++ [ep] ++ eps) := by
      apply ih
      · rw [List.length_append, hoff, length_putAddrPort]
      · intro other hmem
        exact hvalid other (List.mem_cons_of_mem ep hmem)
      · rw [List.length_append, List.length_singleton, Nat.add_assoc, Nat.add_comm 1]
        exact hcount
    have hlt : off < (before ++ (putAddrPort ep ++ eps.flatMap putAddrPort)).length := by
      rw [List.length_append, List.length_append, length_putAddrPort, hoff]
      unfold kAddrPortLen
      omega
    have hfew : ¬kMaxCandidates ≤ endpoints.length := by
      rw [List.length_cons] at hcount
      omega
    rw [endpointsFrom, List.flatMap_cons, if_pos hlt, if_neg hfew, getAddrPort_putAddrPort hoff,
      ok_bind, if_pos (hvalid ep List.mem_cons_self), ← List.append_assoc]
    rw [List.append_assoc endpoints] at hrest
    exact hrest

end Endpoints

/-! ## Messages are read back -/

lemma TxId.copyFrom_toList (txid : TxId) : TxId.copyFrom txid.toList = txid := by
  apply Vector.ext
  intro i hi
  have hlength : i < txid.toList.length := by simpa using hi
  simp [TxId.copyFrom, List.getD_eq_getElem?_getD]

section Decode
variable {body : Bytes} {v : UInt8}

lemma readAt_head (code : UInt8) (rest : Bytes) : readAt (code :: rest) 0 1 = .ok [code] := by
  rw [readAt_of_le (by simp)]
  rfl

lemma decodePlaintext_ping : decodePlaintext (MessageType.ping.code :: v :: body) =
    if body.length < 12 then .ok none
    else if 44 ≤ body.length then
      .ok (some
        { type := .ping, txid := TxId.copyFrom (slice body 0 12)
          nodeKey := Key32.copyFrom (slice body 12 32), hasNodeKey := true })
    else .ok (some { type := .ping, txid := TxId.copyFrom (slice body 0 12) }) := by
  unfold decodePlaintext
  dsimp only
  rw [if_neg (by simp), readAt_head, ok_bind, if_pos rfl]
  simp only [List.drop_succ_cons, List.drop_zero]
  split_ifs with hshort hlong
  · rfl
  · rw [readAt_of_le (by omega), ok_bind, readAt_of_le (by omega)]
    rfl
  · rw [readAt_of_le (by omega)]
    rfl

lemma decodePlaintext_pong : decodePlaintext (MessageType.pong.code :: v :: body) =
    if body.length < 12 + kAddrPortLen then .ok none
    else (getAddrPort body 12).map fun ep =>
      some { type := .pong, txid := TxId.copyFrom (slice body 0 12), source := ep.getD {} } := by
  unfold decodePlaintext
  dsimp only
  rw [if_neg (by simp), readAt_head, ok_bind, if_neg (by decide), if_pos rfl]
  simp only [List.drop_succ_cons, List.drop_zero]
  split_ifs with hshort
  · rfl
  · rw [readAt_of_le (by omega)]
    rfl

lemma decodePlaintext_callMeMaybe :
    decodePlaintext (MessageType.callMeMaybe.code :: v :: body) =
      if body.length % kAddrPortLen ≠ 0 then .ok none
      else (endpointsFrom body 0 []).map fun endpoints =>
        some { type := .callMeMaybe, endpoints } := by
  unfold decodePlaintext
  dsimp only
  rw [if_neg (by simp), readAt_head, ok_bind, if_neg (by decide), if_neg (by decide),
    if_pos rfl]
  simp only [List.drop_succ_cons, List.drop_zero]
  split_ifs <;> rfl

lemma decodePlaintext_other {code : UInt8} (h : ∀ type : MessageType, code ≠ type.code) :
    decodePlaintext (code :: v :: body) = .ok none := by
  have hcode : ∀ type : MessageType, [code] ≠ [type.code] := by
    intro type hsingle
    exact h type (List.cons.inj hsingle).1
  unfold decodePlaintext
  dsimp only
  rw [if_neg (by simp), readAt_head, ok_bind, if_neg (hcode .ping),
    if_neg (hcode .pong), if_neg (hcode .callMeMaybe)]
  rfl

end Decode

/-- No message has these bytes: the type and what belongs to it. -/
def Malformed (plaintext : Bytes) : Prop :=
  plaintext.length < 2 ∨
    plaintext.head? = some MessageType.ping.code ∧ plaintext.length < 2 + 12 ∨
    plaintext.head? = some MessageType.pong.code ∧ plaintext.length < 2 + 12 + kAddrPortLen ∨
    plaintext.head? = some MessageType.callMeMaybe.code ∧
      (plaintext.length - 2) % kAddrPortLen ≠ 0

/-- The code and the version, with the body behind them. -/
lemma exists_cons_cons {plaintext : Bytes} (h : ¬plaintext.length < 2) :
    ∃ code v body, plaintext = code :: v :: body := by
  obtain _ | ⟨code, _ | ⟨v, body⟩⟩ := plaintext
  · exact absurd Nat.zero_lt_two h
  · exact absurd Nat.one_lt_two h
  · exact ⟨code, v, body, rfl⟩

lemma decodePlaintext_inside (plaintext : Bytes) :
    ∃ result, decodePlaintext plaintext = .ok result := by
  by_cases hshort : plaintext.length < 2
  · exact ⟨none, if_pos hshort⟩
  · obtain ⟨code, v, body, rfl⟩ := exists_cons_cons hshort
    by_cases hcode : ∃ type : MessageType, code = type.code
    · obtain ⟨_ | _ | _, rfl⟩ := hcode
      · rw [decodePlaintext_ping]
        split_ifs <;> exact ⟨_, rfl⟩
      · rw [decodePlaintext_pong]
        split_ifs with hsize
        · exact ⟨_, rfl⟩
        · obtain ⟨ep, hep⟩ := getAddrPort_of_le (Nat.not_lt.mp hsize)
          rw [hep]
          exact ⟨_, rfl⟩
      · rw [decodePlaintext_callMeMaybe]
        split_ifs with hsize
        · exact ⟨_, rfl⟩
        · obtain ⟨endpoints, hendpoints⟩ := @endpointsFrom_of_dvd body 0 [] (dvd_zero _)
            (Nat.dvd_of_mod_eq_zero (not_not.mp hsize))
          rw [hendpoints]
          exact ⟨_, rfl⟩
    · exact ⟨none, decodePlaintext_other fun type htype => hcode ⟨type, htype⟩⟩

lemma decodePlaintext_of_malformed {plaintext : Bytes} (h : Malformed plaintext) :
    decodePlaintext plaintext = .ok none := by
  by_cases hshort : plaintext.length < 2
  · exact if_pos hshort
  · obtain ⟨code, v, body, rfl⟩ := exists_cons_cons hshort
    simp only [Malformed, List.length_cons, List.head?_cons, Option.some.injEq] at h
    rcases h with htwo | ⟨rfl, hlength⟩ | ⟨rfl, hlength⟩ | ⟨rfl, hlength⟩
    · omega
    · rw [decodePlaintext_ping, if_pos (by omega)]
    · rw [decodePlaintext_pong, if_pos (by omega)]
    · exact decodePlaintext_callMeMaybe.trans (if_pos hlength)

/-- The message as it arrives: its other fields are not on the wire. -/
def Message.received (message : Message) : Message :=
  match message.type with
  | .ping => { type := .ping, txid := message.txid, nodeKey := message.nodeKey, hasNodeKey := true }
  | .pong =>
    { type := .pong, txid := message.txid
      source := if message.source.valid then message.source else {} }
  | .callMeMaybe => { type := .callMeMaybe, endpoints := message.endpoints }

lemma decodePlaintext_encodePlaintext {message : Message}
    (hvalid : ∀ ep ∈ message.endpoints, ep.valid)
    (hcount : message.endpoints.length ≤ kMaxCandidates) :
    decodePlaintext (encodePlaintext message) = .ok (some message.received) := by
  have htxid : message.txid.toList.length = 12 := by simp
  unfold encodePlaintext Message.received
  cases message.type with
  | ping =>
    have hkey := message.nodeKey.property
    have hlength : (message.txid.toList ++ message.nodeKey.val).length = 44 := by
      rw [List.length_append, htxid, hkey]
    dsimp only [List.cons_append, List.nil_append]
    rw [decodePlaintext_ping, hlength, if_neg (by decide), if_pos le_rfl, slice_front htxid,
      slice_suffix htxid hkey, TxId.copyFrom_toList, ← List.append_nil message.nodeKey.val,
      Key32.copyFrom_append]
  | pong =>
    have hlength : (message.txid.toList ++ putAddrPort message.source).length = 30 := by
      rw [List.length_append, htxid, length_putAddrPort]
      rfl
    have hsource := @getAddrPort_putAddrPort _ [] _ htxid message.source
    rw [List.append_nil] at hsource
    dsimp only [List.cons_append, List.nil_append]
    rw [decodePlaintext_pong, hlength, if_neg (by decide), hsource, slice_front htxid,
      TxId.copyFrom_toList]
    split_ifs <;> rfl
  | callMeMaybe =>
    have hlength : (message.endpoints.flatMap putAddrPort).length =
        kAddrPortLen * message.endpoints.length :=
      length_flatMap_of_length fun ep _ => length_putAddrPort ep
    have hread : endpointsFrom (message.endpoints.flatMap putAddrPort) 0 [] =
        .ok message.endpoints :=
      @endpointsFrom_put [] 0 [] _ rfl hvalid (by simpa using hcount)
    dsimp only [List.cons_append, List.nil_append]
    rw [decodePlaintext_callMeMaybe, hlength, if_neg (by simp), hread]
    rfl

/-! ## Packets are opened -/

section Packets
variable {lib : Primitives} {a b A B : Key32} {nonce : BoxNonce} {message : Message}

lemma BoxNonce.copyFrom_val (nonce : BoxNonce) : BoxNonce.copyFrom nonce.val = nonce := by
  apply Subtype.ext
  simp [BoxNonce.copyFrom, nonce.property]

/-- The header of a packet. -/
lemma senderKey_header (behind : Bytes) :
    senderKey (kMagic ++ A.val ++ nonce.val ++ behind) = .ok (some A) := by
  have hkey := A.property
  have hnonce := nonce.property
  have hlooks : looksLikeDisco (kMagic ++ A.val ++ nonce.val ++ behind) = true := by
    have hlength : kHeaderLen ≤ (kMagic ++ A.val ++ nonce.val ++ behind).length := by
      rw [List.length_append, List.length_append, List.length_append, hkey, hnonce]
      exact Nat.le_add_right _ _
    unfold looksLikeDisco
    rw [decide_eq_true hlength, Bool.true_and, List.append_assoc, List.append_assoc, List.take_left]
    exact decide_eq_true rfl
  have hread := @readAt_middle _ kMagic A.val (nonce.val ++ behind) _ _ rfl hkey
  rw [senderKey, if_pos hlooks, List.append_assoc, List.append_assoc, hread, ok_bind,
    ← List.append_nil A.val, Key32.copyFrom_append]
  rfl

lemma discoOpen_discoSeal_eq (hagree : lib.x25519 a B = lib.x25519 b A)
    (hne : lib.x25519 a B ≠ zeroKey) (hvalid : ∀ ep ∈ message.endpoints, ep.valid)
    (hcount : message.endpoints.length ≤ kMaxCandidates) :
    discoOpen lib (discoSeal lib message a A B nonce) b = .ok (some ⟨A, message.received⟩) := by
  have hseal := boxKey_of_ne hne
  have hopen := (boxKey_congr hagree).symm.trans hseal
  have hnonce : ∀ boxed : Bytes,
      readAt (kMagic ++ A.val ++ nonce.val ++ boxed) (kMagic.length + 32) kNonceLen =
        .ok nonce.val := by
    intro boxed
    rw [List.append_assoc]
    exact readAt_middle (by rw [List.length_append, A.property]) nonce.property
  have hboxed : ∀ boxed : Bytes,
      (kMagic ++ A.val ++ nonce.val ++ boxed).drop kHeaderLen = boxed := by
    intro boxed
    apply List.drop_left'
    rw [List.length_append, List.length_append, A.property, nonce.property]
    rfl
  rw [discoSeal, boxSeal_eq hseal]
  dsimp only
  rw [discoOpen, senderKey_header, ok_bind]
  dsimp only
  rw [hnonce, ok_bind, hboxed, BoxNonce.copyFrom_val, boxOpen_sealed hopen]
  dsimp only
  rw [decodePlaintext_encodePlaintext hvalid hcount]
  rfl

end Packets

/-- What a receiver gets of a message. -/
structure Message.Arrives (message received : Message) : Prop where
  type_eq : received.type = message.type
  txid_eq : message.type ≠ .callMeMaybe → received.txid = message.txid
  nodeKey_eq : message.type = .ping →
    received.nodeKey = message.nodeKey ∧ received.hasNodeKey = true
  source_eq : message.type = .pong →
    received.source = if message.source.valid then message.source else {}
  endpoints_eq : message.type = .callMeMaybe → received.endpoints = message.endpoints

lemma Message.arrives_received (message : Message) : message.Arrives message.received := by
  unfold Message.received
  cases htype : message.type with
  | ping => constructor <;> simp [htype]
  | pong => constructor <;> simp [htype]
  | callMeMaybe => constructor <;> simp [htype]

/-- **What is sealed is opened, and what is too short is refused.** -/
theorem discoOpen_discoSeal (lib : Primitives) (a b A B : Key32) (nonce : BoxNonce)
    (hagree : lib.x25519 a B = lib.x25519 b A) (hne : lib.x25519 a B ≠ zeroKey) :
    (∀ message : Message, (∀ ep ∈ message.endpoints, ep.valid) →
      message.endpoints.length ≤ kMaxCandidates →
        ∃ received, discoOpen lib (discoSeal lib message a A B nonce) b =
          .ok (some ⟨A, received⟩) ∧ message.Arrives received) ∧
      ∀ plaintext, (∃ result, decodePlaintext plaintext = .ok result) ∧
        (Malformed plaintext → decodePlaintext plaintext = .ok none) := by
  refine ⟨fun message hvalid hcount => ?_, fun plaintext => ?_⟩
  · exact ⟨_, discoOpen_discoSeal_eq hagree hne hvalid hcount, message.arrives_received⟩
  · exact ⟨decodePlaintext_inside plaintext, decodePlaintext_of_malformed⟩

/-- A node that asks to be called. -/
def callMessage : Message where
  type := .callMeMaybe
  txid := Vector.replicate 12 1
  endpoints := [{ address := 0xcb007107, port := 41641 }]

theorem discoOpen_discoSeal_call :
    ∃ received, discoOpen testPrimitives
      (discoSeal testPrimitives callMessage aliceSk alicePk bobPk testNonce) bobSk =
        .ok (some ⟨alicePk, received⟩) ∧ callMessage.Arrives received :=
  (discoOpen_discoSeal testPrimitives aliceSk bobSk alicePk bobPk testNonce vectors_agree.1
    vectors_agree.2).1 callMessage (by decide) (by decide)

/-- A CallMeMaybe has no place for the transaction. -/
theorem call_txid_lost :
    ¬∃ received, discoOpen testPrimitives
      (discoSeal testPrimitives callMessage aliceSk alicePk bobPk testNonce) bobSk =
        .ok (some ⟨alicePk, received⟩) ∧ received.txid = callMessage.txid := by
  rintro ⟨received, hopened, htxid⟩
  rw [discoOpen_discoSeal_eq vectors_agree.1 vectors_agree.2 (by decide) (by decide)] at hopened
  obtain rfl : callMessage.received = received :=
    congrArg Opened.message (Option.some.inj (Except.ok.inj hopened))
  exact absurd htxid (by decide)

end ArtemisSwitch.Disco

import Mathlib.Data.List.AList
import Mathlib.Data.List.Dedup
import ArtemisSwitch.HostAddress

/-!
# The peer directory

The peers of the netmap by stable ID, and the two ways a netmap frame changes
them: `replace` for a full list and `apply` for a delta.
-/

namespace ArtemisSwitch.Netmap
open HostAddress

abbrev Key32 := {key : Bytes // key.length = 32}

lemma length_zeros32 : (List.replicate 32 (0 : UInt8)).length = 32 := List.length_replicate

lemma length_ones32 : (List.replicate 32 (1 : UInt8)).length = 32 := List.length_replicate

/-- The first 32 bytes, copied over zeros. -/
def Key32.copyFrom (bytes : Bytes) : Key32 :=
  ⟨bytes.take 32 ++ List.replicate (32 - (bytes.take 32).length) 0, by
    have hle := List.length_take_le 32 bytes
    rw [List.length_append, List.length_replicate]
    omega⟩

lemma Key32.copyFrom_append (key : Key32) (rest : Bytes) :
    Key32.copyFrom (key.val ++ rest) = key := by
  apply Subtype.ext
  simp [Key32.copyFrom, key.property]

structure Endpoint where
  address : Bytes
  port : ℕ
  deriving DecidableEq, Repr

structure Peer where
  stableId : Bytes
  nodeKey : Key32
  discoKey : Key32
  hostname : Bytes
  addresses : List Bytes
  allowedIPs : List Bytes
  endpoints : List Endpoint
  homeDerp : Int32
  online : Bool
  os : Bytes
  tcpServicePorts : List ℕ
  servicesKnown : Bool
  deriving DecidableEq, Repr

structure PeerOnlineChange where
  stableId : Bytes
  online : Bool
  deriving DecidableEq, Repr

structure PeerDelta where
  changed : List Peer := []
  removedStableIds : List Bytes := []
  onlineChanges : List PeerOnlineChange := []
  deriving DecidableEq, Repr

def kMaxPeers : ℕ := 1024

def kMaxEndpointsPerPeer : ℕ := 32

def kMaxAllowedIPsPerPeer : ℕ := 64

/-! ## IPv4 texts -/

/-- `std::from_chars` for a type with this greatest value: the value and what follows its
digits. -/
def fromChars (greatest : ℕ) (text : Bytes) : Option (ℕ × Bytes) :=
  let digits := text.takeWhile isdigit
  let value := digits.foldl (fun n c => n * 10 + (c.toNat - 48)) 0
  if digits = [] ∨ greatest < value then none else some (value, text.dropWhile isdigit)

/-- `std::from_chars` for `unsigned int`. -/
def fromCharsUnsigned : Bytes → Option (ℕ × Bytes) := fromChars 4294967295

/-- `std::from_chars` for `int`, which takes a minus sign. -/
def fromCharsInt : Bytes → Option (ℤ × Bytes)
  | 45 :: text => (fromChars 2147483648 text).map fun r => (-(r.1 : ℤ), r.2)
  | text => (fromChars 2147483647 text).map fun r => ((r.1 : ℤ), r.2)

def parseOctet (value : Bytes) : Option ℕ :=
  if value = [] ∨ 3 < value.length then none
  else match fromCharsUnsigned value with
    | some (octet, []) => if octet ≤ 255 then some octet else none
    | _ => none

def dot : UInt8 := 46

def slash : UInt8 := 47

def parseIPv4Value (ip : Bytes) : Option ℕ :=
  match (ip.splitOn dot).mapM parseOctet with
  | some [a, b, c, d] => some (((a * 256 + b) * 256 + c) * 256 + d)
  | _ => none

def isLiteralIPv4 (address : Bytes) : Bool := (parseIPv4Value address).isSome

/-- The network and the number of its bits. -/
def parseIPv4Cidr (cidr : Bytes) : Option (ℕ × ℤ) :=
  let network := parseIPv4Value (cidr.takeWhile (· ≠ slash))
  match cidr.dropWhile (· ≠ slash) with
  | [] => network.map (·, 32)
  | _ :: bitsText =>
    if bitsText = [] ∨ 2 < bitsText.length then none
    else match fromCharsInt bitsText with
      | some (bits, []) => if bits < 0 ∨ 32 < bits then none else network.map (·, bits)
      | _ => none

def isRoutableIPv4Subnet (cidr : Bytes) (ownAddresses : List Bytes) : Bool :=
  match parseIPv4Cidr cidr with
  | none => false
  | some (network, bits) =>
    bits ≠ 0 && !(bits = 32 && ownAddresses.any fun own => parseIPv4Value own = some network)

/-! ## PeerDirectory -/

/-- `peers_`. -/
abbrev PeerDirectory := AList fun _ : Bytes => Peer

/-- The error of a peer that is not valid. -/
def validatePeer (peer : Peer) : Option Bytes :=
  if peer.stableId = [] then some (ascii "peer has no stable ID")
  else if kMaxEndpointsPerPeer < peer.endpoints.length then
    some (ascii "peer endpoint limit exceeded")
  else if kMaxAllowedIPsPerPeer < peer.allowedIPs.length then
    some (ascii "peer allowed IP limit exceeded")
  else if peer.addresses.any fun address => 128 < address.length then
    some (ascii "peer address is oversized")
  else none

namespace PeerDirectory

/-- The loop of `replace`. -/
def emplacePeers : PeerDirectory → List Peer → Except Bytes PeerDirectory
  | replacement, [] => .ok replacement
  | replacement, peer :: peers =>
    match validatePeer peer with
    | some error => .error error
    | none =>
      if peer.stableId ∈ replacement then .error (ascii "duplicate stable peer ID")
      else emplacePeers (replacement.insert peer.stableId peer) peers

def replace (peers : List Peer) : Except Bytes PeerDirectory :=
  if kMaxPeers < peers.length then .error (ascii "peer limit exceeded") else emplacePeers ∅ peers

/-- The first loop of `apply`, with the IDs seen so far. -/
def checkChanged : List Bytes → List Peer → Option Bytes
  | _, [] => none
  | changedIds, peer :: peers =>
    match validatePeer peer with
    | some error => some error
    | none =>
      if peer.stableId ∈ changedIds then some (ascii "duplicate stable peer ID in delta")
      else checkChanged (peer.stableId :: changedIds) peers

/-- The IDs that the directory would have. -/
def projectedIds (peers : PeerDirectory) (delta : PeerDelta) : List Bytes :=
  (peers.keys.filter (· ∉ delta.removedStableIds) ++ delta.changed.map Peer.stableId).dedup

def setOnline (peers : PeerDirectory) (change : PeerOnlineChange) : PeerDirectory :=
  match peers.lookup change.stableId with
  | none => peers
  | some peer => peers.insert change.stableId { peer with online := change.online }

def apply (peers : PeerDirectory) (delta : PeerDelta) : Except Bytes PeerDirectory :=
  match checkChanged [] delta.changed with
  | some error => .error error
  | none =>
    if kMaxPeers < (peers.projectedIds delta).length then .error (ascii "peer limit exceeded")
    else
      let removed := delta.removedStableIds.foldl (fun peers id => peers.erase id) peers
      let updated := delta.changed.foldl (fun peers peer => peers.insert peer.stableId peer) removed
      .ok (delta.onlineChanges.foldl setOnline updated)

/-! ## What a change leaves listed -/

variable {peers result : PeerDirectory} {delta : PeerDelta} {id : Bytes}

lemma mem_foldl_erase {ids : List Bytes} :
    id ∈ ids.foldl (fun peers id => peers.erase id) peers ↔ id ∈ peers ∧ id ∉ ids := by
  induction ids generalizing peers with
  | nil => simp
  | cons i ids ih =>
    rw [List.foldl_cons, ih, AList.mem_erase, List.mem_cons]
    tauto

lemma mem_foldl_insert {changed : List Peer} :
    id ∈ changed.foldl (fun peers peer => peers.insert peer.stableId peer) peers ↔
      id ∈ peers ∨ id ∈ changed.map Peer.stableId := by
  induction changed generalizing peers with
  | nil => simp
  | cons peer changed ih =>
    rw [List.foldl_cons, ih, AList.mem_insert, List.map_cons, List.mem_cons]
    tauto

lemma mem_setOnline {change : PeerOnlineChange} : id ∈ peers.setOnline change ↔ id ∈ peers := by
  unfold setOnline
  split
  · rfl
  · rename_i peer h
    have hm : change.stableId ∈ peers := by
      rw [← AList.lookup_isSome, h]
      rfl
    rw [AList.mem_insert]
    constructor
    · rintro (rfl | h)
      exacts [hm, h]
    · exact Or.inr

lemma mem_foldl_setOnline {changes : List PeerOnlineChange} :
    id ∈ changes.foldl setOnline peers ↔ id ∈ peers := by
  induction changes generalizing peers with
  | nil => rfl
  | cons change changes ih => rw [List.foldl_cons, ih, mem_setOnline]

/-- A delta that is taken: its removals first, then its updates. -/
theorem mem_apply (h : peers.apply delta = .ok result) :
    id ∈ result ↔
      id ∈ peers ∧ id ∉ delta.removedStableIds ∨ id ∈ delta.changed.map Peer.stableId := by
  unfold apply at h
  split at h
  · cases h
  · split_ifs at h
    cases h
    rw [mem_foldl_setOnline, mem_foldl_insert, mem_foldl_erase]

lemma lookup_setOnline_ne {change : PeerOnlineChange} (h : id ≠ change.stableId) :
    (peers.setOnline change).lookup id = peers.lookup id := by
  unfold setOnline
  split
  · rfl
  · exact AList.lookup_insert_ne h

lemma lookup_foldl_setOnline {changes : List PeerOnlineChange}
    (h : ∀ change ∈ changes, change.stableId ≠ id) :
    (changes.foldl setOnline peers).lookup id = peers.lookup id := by
  induction changes generalizing peers with
  | nil => rfl
  | cons change changes ih =>
    rw [List.forall_mem_cons] at h
    rw [List.foldl_cons, ih h.2, lookup_setOnline_ne (Ne.symm h.1)]

/-- The last change of a listed peer is what its flag then says. -/
theorem online_apply {change : PeerOnlineChange} {before after : List PeerOnlineChange}
    (h : peers.apply delta = .ok result) (hc : delta.onlineChanges = before ++ change :: after)
    (hlast : ∀ c ∈ after, c.stableId ≠ change.stableId) (hm : change.stableId ∈ result) :
    ∃ peer, result.lookup change.stableId = some peer ∧ peer.online = change.online := by
  unfold apply at h
  split at h
  · cases h
  · split_ifs at h
    cases h
    rw [hc, List.foldl_append, List.foldl_cons] at hm ⊢
    rw [mem_foldl_setOnline, mem_setOnline] at hm
    obtain ⟨peer, hpeer⟩ := Option.isSome_iff_exists.mp (AList.lookup_isSome.mpr hm)
    refine ⟨{ peer with online := change.online }, ?_, rfl⟩
    rw [lookup_foldl_setOnline hlast, setOnline, hpeer]
    exact AList.lookup_insert _

lemma mem_emplacePeers {list : List Peer} (h : peers.emplacePeers list = .ok result) :
    id ∈ result ↔ id ∈ peers ∨ id ∈ list.map Peer.stableId := by
  induction list generalizing peers with
  | nil =>
    cases h
    simp
  | cons peer list ih =>
    simp only [emplacePeers] at h
    split at h
    · cases h
    · split_ifs at h
      rw [ih h, AList.mem_insert, List.map_cons, List.mem_cons]
      tauto

/-- A list that is taken is what the directory then has. -/
theorem mem_replace {list : List Peer} (h : replace list = .ok result) :
    id ∈ result ↔ id ∈ list.map Peer.stableId := by
  unfold replace at h
  split_ifs at h
  rw [mem_emplacePeers h]
  simp

/-! ## When a change is taken -/

lemma emplacePeers_ok {list : List Peer} (hv : ∀ p ∈ list, validatePeer p = none)
    (hd : (list.map Peer.stableId).Nodup) (hn : ∀ p ∈ list, p.stableId ∉ peers) :
    ∃ result, peers.emplacePeers list = .ok result := by
  induction list generalizing peers with
  | nil => exact ⟨peers, rfl⟩
  | cons peer list ih =>
    rw [List.map_cons, List.nodup_cons] at hd
    simp only [emplacePeers, hv peer (List.mem_cons_self ..),
      if_neg (hn peer (List.mem_cons_self ..))]
    refine ih (fun p hp => hv p (List.mem_cons_of_mem _ hp)) hd.2 fun p hp hmem => ?_
    rcases (AList.mem_insert _).mp hmem with heq | hmem
    · exact hd.1 (heq ▸ List.mem_map_of_mem hp)
    · exact hn p (List.mem_cons_of_mem _ hp) hmem

lemma checkChanged_none {changedIds : List Bytes} {changed : List Peer}
    (hv : ∀ p ∈ changed, validatePeer p = none) (hd : (changed.map Peer.stableId).Nodup)
    (hn : ∀ p ∈ changed, p.stableId ∉ changedIds) : checkChanged changedIds changed = none := by
  induction changed generalizing changedIds with
  | nil => rfl
  | cons peer changed ih =>
    rw [List.map_cons, List.nodup_cons] at hd
    simp only [checkChanged, hv peer (List.mem_cons_self ..),
      if_neg (hn peer (List.mem_cons_self ..))]
    refine ih (fun p hp => hv p (List.mem_cons_of_mem _ hp)) hd.2 fun p hp hmem => ?_
    rcases List.mem_cons.mp hmem with heq | hmem
    · exact hd.1 (heq ▸ List.mem_map_of_mem hp)
    · exact hn p (List.mem_cons_of_mem _ hp) hmem

theorem replace_ok {list : List Peer} (hl : list.length ≤ kMaxPeers)
    (hv : ∀ p ∈ list, validatePeer p = none) (hd : (list.map Peer.stableId).Nodup) :
    ∃ result, replace list = .ok result := by
  rw [replace, if_neg (Nat.not_lt.mpr hl)]
  exact emplacePeers_ok hv hd fun p _ => AList.notMem_empty _

theorem apply_ok (hv : ∀ p ∈ delta.changed, validatePeer p = none)
    (hd : (delta.changed.map Peer.stableId).Nodup)
    (hl : (peers.projectedIds delta).length ≤ kMaxPeers) :
    ∃ result, peers.apply delta = .ok result := by
  rw [apply, checkChanged_none hv hd fun p _ => List.not_mem_nil]
  simp only [if_neg (Nat.not_lt.mpr hl)]
  exact ⟨_, rfl⟩

end PeerDirectory
end ArtemisSwitch.Netmap

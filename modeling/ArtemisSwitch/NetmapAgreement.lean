import ArtemisSwitch.Library.Mirror
import ArtemisSwitch.Library.Runs
import ArtemisSwitch.CodecTotality

/-!
# The codec's IDs and the peer directory

`TailscaleCore` hands a decoded frame to the peer directory, while the codec has
already committed its own table of node IDs.  A frame that is `Orderly` changes
both in the same way.
-/

namespace ArtemisSwitch.Netmap
open Json Mirror Runs

/-! ## The poll loop of the core -/

/-- The codec of the session, the directory and the part of the snapshot that frames set. -/
structure Core where
  stableIdsByNodeId : StableIds
  peers : PeerDirectory
  localAddress : Bytes
  derpMap : List DerpRegion
  running : Bool

namespace Core

/-- `connect` starts with a new codec. -/
def connected (peers : PeerDirectory) : Core := ⟨∅, peers, [], [], true⟩

def replacePeers (core : Core) (peers : List Peer) (localAddress : Bytes) : Except Bytes Core :=
  if isLiteralIPv4 localAddress = false then
    .error (ascii "control map has no usable IPv4 address")
  else match PeerDirectory.replace peers with
    | .error error => .error error
    | .ok replaced => .ok { core with peers := replaced, localAddress := localAddress }

/-- `peers_.apply`, whose result the loop does not look at. -/
def applyPeerDelta (core : Core) (delta : PeerDelta) : Core :=
  if delta.changed = [] ∧ delta.removedStableIds = [] ∧ delta.onlineChanges = [] then core
  else match core.peers.apply delta with
    | .error _ => core
    | .ok applied => { core with peers := applied }

def updateDerpMap (core : Core) (derpMap : Option (List DerpRegion)) : Core :=
  { core with derpMap := derpMap.getD core.derpMap }

/-- One round of the loop after a `poll` that returned `update`. -/
def handle (core : Core) (update : MapUpdate) : Core :=
  match update.fullPeers with
  | some fullPeers =>
    match core.replacePeers fullPeers update.localAddress with
    | .error _ => { core with running := false }
    | .ok replaced => replaced.updateDerpMap update.derpMap
  | none =>
    let applied := (core.applyPeerDelta update.delta).updateDerpMap update.derpMap
    if update.localAddress = [] then applied
    else { applied with localAddress := update.localAddress }

/-- One frame through the codec and the loop, enabled as long as frames decode. -/
def step (parse : Bytes → Option Json) (core : Core) (json : Bytes) : Option Core :=
  if core.running = false then none
  else match decode parse core.stableIdsByNodeId json with
    | (.returned update, next) => some ({ core with stableIdsByNodeId := next }.handle update)
    | _ => none

end Core

/-! ## What a frame lists -/

def nodeId (node : Json) : UInt64 := node.read getUint64 0 "ID"

def stableId (node : Json) : Bytes := node.text "StableID"

/-- The addresses of a peer, taken from its `AllowedIPs` where it has none of its own. -/
def peerAddresses (node : Json) : List Bytes :=
  let addresses := (strings ((node.arrayAt "Addresses").getD [])).map stripPrefix
  if addresses = [] then (strings ((node.arrayAt "AllowedIPs").getD [])).map stripPrefix
  else addresses

def listed (root : Json) : List Json := (root.arrayAt "Peers").getD []

def changed (root : Json) : List Json := (root.arrayAt "PeersChanged").getD []

/-- The unsigned numbers among some items. -/
def unsignedItems (values : List Json) : List UInt64 :=
  values.filterMap fun
    | .unsigned value => some value
    | _ => none

def removed (root : Json) : List UInt64 := unsignedItems ((root.arrayAt "PeersRemoved").getD [])

/-- The ID table after a list of peers. -/
def insertPeers (idMap : StableIds) (nodes : List Json) : StableIds :=
  nodes.foldl (fun idMap node => idMap.insert (nodeId node) (stableId node)) idMap

variable {node root : Json} {nodes : List Json} {idMap next : StableIds} {peer : Peer}

/-! ## What the codec makes of a list of peers -/

lemma length_subnetRoutes {addresses cidrs allowedIPs : List Bytes}
    (h : allowedIPs.length ≤ kMaxAllowedIPsPerPeer) :
    (subnetRoutes addresses allowedIPs cidrs).length ≤ kMaxAllowedIPsPerPeer := by
  induction cidrs generalizing allowedIPs with
  | nil => exact h
  | cons cidr cidrs ih =>
    simp only [subnetRoutes]
    split_ifs with hfull hroute
    · exact h
    · apply ih
      rw [List.length_append, List.length_singleton]
      omega
    · exact ih h

lemma parseAddresses_ok {addresses : List Bytes × List Bytes}
    (h : parseAddresses node = .ok addresses) :
    addresses.1 = peerAddresses node ∧ addresses.2.length ≤ kMaxAllowedIPsPerPeer := by
  simp only [parseAddresses] at h
  unfold peerAddresses
  split_ifs at h with hlimit hown
  all_goals cases h
  · simp [hown]
  · simp [hown, length_subnetRoutes]

lemma parseEndpoints_ok {endpoints : List Endpoint} (h : parseEndpoints node = .ok endpoints) :
    endpoints.length ≤ kMaxEndpointsPerPeer := by
  simp only [parseEndpoints] at h
  split_ifs at h with hlimit
  · cases h
  · cases h
    have h1 := List.length_filterMap_le parseEndpoint
      (strings ((node.arrayAt "Endpoints").getD []))
    have h2 := List.length_filterMap_le getString ((node.arrayAt "Endpoints").getD [])
    unfold strings at h1 ⊢
    omega

/-- A peer that was parsed has the identity of its node, and is valid up to its addresses. -/
lemma parsePeer_ok (h : parsePeer node idMap = .ok (peer, next)) (hid : nodeId node ≠ 0) :
    peer.stableId = stableId node ∧ next = idMap.insert (nodeId node) (stableId node) ∧
      ((∀ address ∈ peerAddresses node, address.length ≤ 128) → validatePeer peer = none) := by
  unfold parsePeer at h
  split at h
  · cases h
  obtain ⟨identity, hidentity, h⟩ := bind_eq_ok.mp h
  obtain ⟨hostname, -, h⟩ := bind_eq_ok.mp h
  obtain ⟨nodeKey, -, h⟩ := bind_eq_ok.mp h
  obtain ⟨discoKey, -, h⟩ := bind_eq_ok.mp h
  obtain ⟨addresses, haddresses, h⟩ := bind_eq_ok.mp h
  obtain ⟨endpoints, hendpoints, h⟩ := bind_eq_ok.mp h
  obtain ⟨homeDerp, -, h⟩ := bind_eq_ok.mp h
  obtain ⟨online, -, h⟩ := bind_eq_ok.mp h
  obtain ⟨-, -, hne, rfl⟩ := parseIdentity_eq_ok.mp hidentity
  obtain ⟨rfl, rfl⟩ := Prod.mk.inj (Except.ok.inj h)
  obtain ⟨haddr, hallowed⟩ := parseAddresses_ok haddresses
  refine ⟨rfl, if_neg hid, fun hshort => ?_⟩
  rw [validatePeer, if_neg hne, if_neg (Nat.not_lt.mpr (parseEndpoints_ok hendpoints)),
    if_neg (Nat.not_lt.mpr hallowed), if_neg]
  simpa [haddr] using hshort

lemma parsePeers_ok {full : List Peer} (h : parsePeers nodes idMap = .ok (full, next))
    (hid : ∀ node ∈ nodes, nodeId node ≠ 0) :
    full.map Peer.stableId = nodes.map stableId ∧ next = insertPeers idMap nodes ∧
      ((∀ node ∈ nodes, ∀ address ∈ peerAddresses node, address.length ≤ 128) →
        ∀ peer ∈ full, validatePeer peer = none) := by
  induction nodes generalizing idMap full with
  | nil =>
    obtain ⟨rfl, rfl⟩ := Prod.mk.inj (Except.ok.inj h)
    simp [insertPeers]
  | cons node nodes ih =>
    obtain ⟨⟨peer, afterPeer⟩, hpeer, h⟩ := bind_eq_ok.mp h
    obtain ⟨⟨rest, afterRest⟩, hrest, h⟩ := bind_eq_ok.mp h
    obtain ⟨rfl, rfl⟩ := Prod.mk.inj (Except.ok.inj h)
    obtain ⟨hstable, hnext, hvalid⟩ := parsePeer_ok hpeer (hid node (List.mem_cons_self ..))
    obtain ⟨hstables, hnexts, hvalids⟩ := ih hrest fun n hn => hid n (List.mem_cons_of_mem _ hn)
    simp only at hstables hnexts hvalids
    refine ⟨by rw [List.map_cons, hstable, hstables, List.map_cons], ?_, fun hshort => ?_⟩
    · rw [hnexts, hnext]
      rfl
    · rw [List.forall_mem_cons] at hshort ⊢
      exact ⟨hvalid hshort.1, hvalids hshort.2⟩

/-! ## The two tables -/

variable {id : Bytes} {n : UInt64}

/-- Peers that are already in the table with the same IDs change nothing. -/
lemma lookup_insertPeers_same
    (h : ∀ node ∈ nodes, idMap.lookup (nodeId node) = some (stableId node)) :
    (insertPeers idMap nodes).lookup n = idMap.lookup n := by
  induction nodes generalizing idMap with
  | nil => rfl
  | cons node nodes ih =>
    rw [List.forall_mem_cons] at h
    have hsame : ∀ m, (idMap.insert (nodeId node) (stableId node)).lookup m = idMap.lookup m := by
      intro m
      by_cases hm : m = nodeId node
      · subst hm
        rw [AList.lookup_insert, h.1]
      · rw [AList.lookup_insert_ne hm]
    rw [insertPeers, List.foldl_cons]
    exact (ih fun m hm => (hsame _).trans (h.2 m hm)).trans (hsame n)

lemma lookup_insertPeers_of_notMem (h : n ∉ nodes.map nodeId) :
    (insertPeers idMap nodes).lookup n = idMap.lookup n := by
  induction nodes generalizing idMap with
  | nil => rfl
  | cons node nodes ih =>
    rw [List.map_cons, List.mem_cons, not_or] at h
    rw [insertPeers, List.foldl_cons]
    exact (ih h.2).trans (AList.lookup_insert_ne h.1)

lemma lookup_insertPeers_of_mem (idMap : StableIds) (hid : (nodes.map nodeId).Nodup)
    (hm : node ∈ nodes) :
    (insertPeers idMap nodes).lookup (nodeId node) = some (stableId node) := by
  induction nodes generalizing idMap with
  | nil => simp at hm
  | cons first nodes ih =>
    rw [List.map_cons, List.nodup_cons] at hid
    rcases List.mem_cons.mp hm with rfl | hm
    · exact (lookup_insertPeers_of_notMem hid.1).trans (AList.lookup_insert _)
    · exact ih _ hid.2 hm

/-- The table that a list of peers alone makes. -/
lemma lookup_insertPeers (hid : (nodes.map nodeId).Nodup) :
    (insertPeers ∅ nodes).lookup n = some id ↔
      ∃ node ∈ nodes, nodeId node = n ∧ stableId node = id := by
  constructor
  · intro hl
    by_cases hn : n ∈ nodes.map nodeId
    · obtain ⟨node, hnode, rfl⟩ := List.mem_map.mp hn
      rw [lookup_insertPeers_of_mem ∅ hid hnode] at hl
      exact ⟨node, hnode, rfl, Option.some.inj hl⟩
    · rw [lookup_insertPeers_of_notMem hn, AList.lookup_empty] at hl
      cases hl
  · rintro ⟨node, hnode, rfl, rfl⟩
    exact lookup_insertPeers_of_mem ∅ hid hnode

/-- The new entries hide the old ones. -/
lemma lookup_insertPeers_or (idMap : StableIds) (hid : (nodes.map nodeId).Nodup) (n : UInt64) :
    (insertPeers idMap nodes).lookup n =
      ((insertPeers ∅ nodes).lookup n).or (idMap.lookup n) := by
  by_cases hn : n ∈ nodes.map nodeId
  · obtain ⟨node, hnode, rfl⟩ := List.mem_map.mp hn
    rw [lookup_insertPeers_of_mem idMap hid hnode, lookup_insertPeers_of_mem ∅ hid hnode,
      Option.some_or]
  · rw [lookup_insertPeers_of_notMem hn, lookup_insertPeers_of_notMem hn, AList.lookup_empty,
      Option.none_or]

lemma insertPeers_unique (hid : (nodes.map nodeId).Nodup) (hstable : (nodes.map stableId).Nodup)
    (a a' : UInt64) (b : Bytes) (ha : (insertPeers ∅ nodes).lookup a = some b)
    (ha' : (insertPeers ∅ nodes).lookup a' = some b) : a = a' := by
  obtain ⟨node, hnode, rfl, rfl⟩ := (lookup_insertPeers hid).mp ha
  obtain ⟨node', hnode', rfl, hsame⟩ := (lookup_insertPeers hid).mp ha'
  rw [List.inj_on_of_nodup_map hstable hnode' hnode hsame]

lemma mirrors_listed (hid : (nodes.map nodeId).Nodup) (hstable : (nodes.map stableId).Nodup) :
    Mirrors (fun n => (insertPeers ∅ nodes).lookup n) {id | id ∈ nodes.map stableId} := by
  refine ⟨fun id => ?_, insertPeers_unique hid hstable⟩
  simp [lookup_insertPeers hid]

lemma lookup_erase_eq_some {m : UInt64} :
    (idMap.erase n).lookup m = some id ↔ m ≠ n ∧ idMap.lookup m = some id := by
  by_cases h : m = n
  · subst h
    simp
  · simp [AList.lookup_erase_ne h, h]

lemma unsignedItems_unsigned {values : List Json} :
    unsignedItems (.unsigned n :: values) = n :: unsignedItems values := rfl

lemma unsignedItems_other {value : Json} {values : List Json}
    (h : ∀ n, value = .unsigned n → False) :
    unsignedItems (value :: values) = unsignedItems values := by
  cases value
  case unsigned n => exact absurd rfl (h n)
  all_goals rfl

lemma lookup_removePeers {values : List Json} :
    (removePeers values idMap).2.lookup n = some id ↔
      n ∉ unsignedItems values ∧ idMap.lookup n = some id := by
  fun_induction removePeers values idMap with
  | case1 => simp [unsignedItems]
  | case2 nodeId values idMap hnone ih =>
    rw [ih, unsignedItems_unsigned, List.mem_cons]
    grind
  | case3 nodeId values idMap stableId hsome rest ih =>
    rw [ih, unsignedItems_unsigned, List.mem_cons, lookup_erase_eq_some]
    tauto
  | case4 value values idMap hvalue ih => rw [ih, unsignedItems_other hvalue]

lemma mem_removePeers {values : List Json} :
    id ∈ (removePeers values idMap).1 ↔
      ∃ n ∈ unsignedItems values, idMap.lookup n = some id := by
  fun_induction removePeers values idMap with
  | case1 => simp [unsignedItems]
  | case2 nodeId values idMap hnone ih => simp [ih, unsignedItems_unsigned, hnone]
  | case3 nodeId values idMap stableId hsome rest ih =>
    rw [List.mem_cons, ih, unsignedItems_unsigned]
    simp only [List.exists_mem_cons_iff, lookup_erase_eq_some, hsome, Option.some.injEq]
    constructor
    · rintro (rfl | ⟨n, hn, -, hl⟩)
      exacts [Or.inl rfl, Or.inr ⟨n, hn, hl⟩]
    · rintro (rfl | ⟨n, hn, hl⟩)
      · exact Or.inl rfl
      · by_cases hne : n = nodeId
        · subst hne
          exact Or.inl (Option.some.inj (hl.symm.trans hsome))
        · exact Or.inr ⟨n, hn, hne, hl⟩
  | case4 value values idMap hvalue ih => rw [ih, unsignedItems_other hvalue]

/-! ## Orderly frames -/

/-- The peers of a list have IDs, and no two have the same. -/
structure Identified (nodes : List Json) : Prop where
  nonzero : ∀ node ∈ nodes, nodeId node ≠ 0
  distinct : (nodes.map nodeId).Nodup

/-- The directory takes a list of these peers. -/
structure Admissible (nodes : List Json) : Prop where
  distinct : (nodes.map stableId).Nodup
  short : ∀ node ∈ nodes, ∀ address ∈ peerAddresses node, address.length ≤ 128

/-- A full list, beside which the delta says nothing new. -/
structure OrderlyFull (root : Json) : Prop where
  address : isLiteralIPv4 (localAddressFromNode root) = true
  admissible : Admissible (listed root)
  repeats : ∀ node ∈ changed root, ∃ peer ∈ listed root,
    nodeId peer = nodeId node ∧ stableId peer = stableId node
  keeps : ∀ n ∈ removed root, n ∉ (listed root).map nodeId

/-- A delta that does not both change and remove a number.  A stable ID whose number is given to
another peer gets a new one in the same frame, and one that gets a number loses its old one. -/
structure OrderlyDelta (core : Core) (root : Json) : Prop where
  admissible : Admissible (changed root)
  fits : (core.peers.keys.filter
      (fun id => ∀ n ∈ removed root, core.stableIdsByNodeId.lookup n ≠ some id) ++
        (changed root).map stableId).dedup.length ≤ kMaxPeers
  apart : ∀ node ∈ changed root, nodeId node ∉ removed root
  kept : ∀ node ∈ changed root, ∀ id,
    core.stableIdsByNodeId.lookup (nodeId node) = some id → id ∈ (changed root).map stableId
  free : ∀ node ∈ changed root, ∀ n,
    core.stableIdsByNodeId.lookup n = some (stableId node) →
      n ∈ (changed root).map nodeId ∨ n ∈ removed root

/-- The frame has a full list. -/
def isFull (root : Json) : Bool := (root.arrayAt "Peers").isSome

/-- A frame that the codec and the directory both take in the same way. -/
structure OrderlyRoot (core : Core) (root : Json) : Prop where
  listed : Identified (listed root)
  changed : Identified (changed root)
  full : isFull root = true → OrderlyFull root
  delta : isFull root = false → OrderlyDelta core root

/-- Only a keep-alive may say anything else. -/
def Orderly (parse : Bytes → Option Json) (core : Core) (json : Bytes) : Prop :=
  ∀ members, parse json = some (.object members) →
    Json.flag (.object members) "KeepAlive" = false → OrderlyRoot core (.object members)

/-- The directory lists exactly the stable IDs that the codec has numbers for. -/
def Core.Agrees (core : Core) : Prop :=
  Mirrors (fun n => core.stableIdsByNodeId.lookup n) {id | id ∈ core.peers}

/-! ## What an update carries -/

/-- The IDs that the peers of the frame are added to. -/
def baseIds (idMap : StableIds) (root : Json) : StableIds :=
  if isFull root then insertPeers ∅ (listed root) else idMap

/-- The update of a frame that is no keep-alive. -/
structure Carries (idMap next : StableIds) (root : Json) (update : MapUpdate) : Prop where
  localAddress : update.localAddress = localAddressFromNode root
  full : isFull root = true → ∃ peers, update.fullPeers = some peers ∧
    peers.length ≤ kMaxPeers ∧ peers.map Peer.stableId = (listed root).map stableId ∧
      (Admissible (listed root) → ∀ peer ∈ peers, validatePeer peer = none)
  delta : isFull root = false → update.fullPeers = none
  changedIds : update.delta.changed.map Peer.stableId = (changed root).map stableId
  valid : Admissible (changed root) → ∀ peer ∈ update.delta.changed, validatePeer peer = none
  removedStableIds : ∀ id, id ∈ update.delta.removedStableIds ↔
    ∃ n ∈ removed root, (insertPeers (baseIds idMap root) (changed root)).lookup n = some id
  lookup : ∀ n id, next.lookup n = some id ↔ n ∉ removed root ∧
    (insertPeers (baseIds idMap root) (changed root)).lookup n = some id
  onlineChanges : update.delta.onlineChanges =
    ((root.arrayAt "PeersChangedPatch").getD []).filterMap (onlineChange next)

lemma decodePeers_ok {peers : Option (List Peer)} (h : decodePeers root idMap = .ok (peers, next))
    (hid : Identified (listed root)) : next = baseIds idMap root ∧
      (isFull root = false → peers = none) ∧ (isFull root = true → ∃ full, peers = some full ∧
        full.length ≤ kMaxPeers ∧ full.map Peer.stableId = (listed root).map stableId ∧
          (Admissible (listed root) → ∀ peer ∈ full, validatePeer peer = none)) := by
  unfold decodePeers at h
  unfold baseIds isFull
  unfold listed at hid ⊢
  split at h
  · rename_i hnone
    obtain ⟨rfl, rfl⟩ := Prod.mk.inj (Except.ok.inj h)
    simp [hnone]
  · rename_i nodes hsome
    rw [hsome, Option.getD_some] at hid
    split_ifs at h with hlimit
    · cases h
    · rcases hp : parsePeers nodes ∅ with _ | ⟨full, after⟩
      · rw [hp] at h
        cases h
      · rw [hp] at h
        obtain ⟨rfl, rfl⟩ := Prod.mk.inj (Except.ok.inj h)
        obtain ⟨hstable, hnext, hvalid⟩ := parsePeers_ok hp hid.nonzero
        have hlength : full.length = nodes.length := by simpa using congrArg List.length hstable
        refine ⟨by simp [hsome, hnext], by simp [hsome], fun _ => ⟨full, rfl, by omega, ?_⟩⟩
        rw [hsome, Option.getD_some]
        exact ⟨hstable, fun ha => hvalid ha.short⟩

lemma decodeRoot_ok {update : MapUpdate} (h : decodeRoot idMap root = .ok (update, next))
    (halive : root.flag "KeepAlive" = false) (hl : Identified (listed root))
    (hc : Identified (changed root)) : Carries idMap next root update := by
  obtain ⟨-, h⟩ := value_bind_eq_ok.mp h
  change (if root.flag "KeepAlive" = true then _ else _) = _ at h
  rw [halive, if_neg Bool.false_ne_true] at h
  -- the sections of the frame, in the order in which they are decoded
  obtain ⟨derpMap, -, h⟩ := bind_eq_ok.mp h
  obtain ⟨⟨peers, base⟩, hpeers, h⟩ := bind_eq_ok.mp h
  obtain ⟨⟨changedPeers, added⟩, hchanged, h⟩ := bind_eq_ok.mp h
  obtain ⟨⟨gone, left⟩, hremoved, h⟩ := bind_eq_ok.mp h
  obtain ⟨onlineChanges, hpatches, h⟩ := bind_eq_ok.mp h
  obtain ⟨rfl, rfl⟩ := Prod.mk.inj (Except.ok.inj h)
  obtain ⟨rfl, hdelta, hfull⟩ := decodePeers_ok hpeers hl
  simp only [decodeChanged] at hchanged
  split_ifs at hchanged
  · cases hchanged
  obtain ⟨hstable, rfl, hvalid⟩ := parsePeers_ok hchanged hc.nonzero
  simp only [decodeRemoved] at hremoved
  split_ifs at hremoved
  · cases hremoved
  obtain hgone := Except.ok.inj hremoved
  simp only [decodePatches] at hpatches
  split_ifs at hpatches
  · cases hpatches
  cases hpatches
  refine ⟨rfl, hfull, hdelta, hstable, fun ha => hvalid ha.short, fun id => ?_, fun n id => ?_, rfl⟩
  · rw [show gone = (removePeers _ _).1 from congrArg Prod.fst hgone.symm]
    exact mem_removePeers
  · rw [show left = (removePeers _ _).2 from congrArg Prod.snd hgone.symm]
    exact lookup_removePeers

/-! ## One orderly frame -/

variable {update : MapUpdate} {core core' : Core} {dir : PeerDirectory}

lemma Carries.mirrors_full (h : Carries idMap next root update) (hfull : isFull root = true)
    (hl : Identified (listed root)) (ho : OrderlyFull root)
    (hdir : ∀ id, id ∈ dir ↔ id ∈ (listed root).map stableId) :
    Mirrors (fun n => next.lookup n) {id | id ∈ dir} := by
  have hbase : baseIds idMap root = insertPeers ∅ (listed root) := if_pos hfull
  have hadded : ∀ n, (insertPeers (baseIds idMap root) (changed root)).lookup n =
      (insertPeers ∅ (listed root)).lookup n := by
    intro n
    rw [hbase]
    refine lookup_insertPeers_same fun node hn => ?_
    obtain ⟨peer, hpeer, hid, hstable⟩ := ho.repeats node hn
    rw [← hid, ← hstable]
    exact lookup_insertPeers_of_mem ∅ hl.distinct hpeer
  have hnext : (fun n => next.lookup n) = fun n => (insertPeers ∅ (listed root)).lookup n := by
    funext n
    refine Option.ext fun id => ?_
    rw [h.lookup, hadded, and_iff_right_iff_imp]
    intro hlook hgone
    rw [lookup_insertPeers_of_notMem (ho.keeps n hgone)] at hlook
    cases hlook
  -- a full list starts from nothing, so the old numbers do not matter
  simp only [hnext, hdir]
  exact mirrors_listed hl.distinct ho.admissible.distinct

/-- No removed number is changed, so it stands for the stable ID that it had. -/
lemma Carries.notMem_removedStableIds (h : Carries core.stableIdsByNodeId next root update)
    (hfull : isFull root = false) (ho : OrderlyDelta core root) (id : Bytes) :
    id ∉ update.delta.removedStableIds ↔
      ∀ n ∈ removed root, core.stableIdsByNodeId.lookup n ≠ some id := by
  simp only [h.removedStableIds, baseIds, hfull, Bool.false_eq_true, if_false, not_exists, not_and]
  refine forall₂_congr fun n hn => ?_
  rw [lookup_insertPeers_of_notMem]
  intro hm
  obtain ⟨node, hnode, rfl⟩ := List.mem_map.mp hm
  exact ho.apart node hnode hn

lemma Carries.mirrors_delta (h : Carries core.stableIdsByNodeId next root update)
    (hfull : isFull root = false) (hc : Identified (changed root)) (ho : OrderlyDelta core root)
    (hcore : core.Agrees)
    (hdir : ∀ id, id ∈ dir ↔ id ∈ core.peers ∧ id ∉ update.delta.removedStableIds ∨
      id ∈ update.delta.changed.map Peer.stableId) :
    Mirrors (fun n => next.lookup n) {id | id ∈ dir} := by
  have hbase : baseIds core.stableIdsByNodeId root = core.stableIdsByNodeId := by
    simp [baseIds, hfull]
  have hlookup := h.lookup
  simp only [hbase, lookup_insertPeers_or core.stableIdsByNodeId hc.distinct] at hlookup
  have hnext := hcore.revise {n | n ∈ removed root}
    (insertPeers_unique hc.distinct ho.admissible.distinct) ?_ ?_ ?_ hlookup
  · convert hnext using 1
    ext id
    simp only [Set.mem_ofPred_eq, hdir, h.notMem_removedStableIds hfull ho, h.changedIds,
      lookup_insertPeers hc.distinct, List.mem_map]
    simp
  · intro n id hl
    obtain ⟨node, hnode, rfl, -⟩ := (lookup_insertPeers hc.distinct).mp hl
    exact ho.apart node hnode
  · intro n id id' hl hold
    obtain ⟨node, hnode, rfl, -⟩ := (lookup_insertPeers hc.distinct).mp hl
    obtain ⟨node', hnode', hsame⟩ := List.mem_map.mp (ho.kept node hnode id' hold)
    exact ⟨nodeId node', (lookup_insertPeers hc.distinct).mpr ⟨node', hnode', rfl, hsame⟩⟩
  · intro n id m hl hold
    obtain ⟨node, hnode, -, rfl⟩ := (lookup_insertPeers hc.distinct).mp hl
    refine (ho.free node hnode m hold).symm.imp_right fun hm => ?_
    obtain ⟨node', hnode', rfl⟩ := List.mem_map.mp hm
    exact ⟨_, lookup_insertPeers_of_mem ∅ hc.distinct hnode'⟩

/-- The directory takes what an orderly delta carries. -/
lemma Carries.apply_ok (h : Carries core.stableIdsByNodeId next root update)
    (hfull : isFull root = false) (ho : OrderlyDelta core root) :
    ∃ applied, core.peers.apply update.delta = .ok applied := by
  refine PeerDirectory.apply_ok (h.valid ho.admissible) ?_ ?_
  · rw [h.changedIds]
    exact ho.admissible.distinct
  · have hsame := h.notMem_removedStableIds hfull ho
    have hprojected := ho.fits
    rw [PeerDirectory.projectedIds, h.changedIds]
    convert hprojected using 5
    funext id
    exact decide_eq_decide.mpr (hsame id)

/-- What a delta leaves listed, whether or not the core hands it on. -/
lemma mem_applyPeerDelta {applied : PeerDirectory} {delta : PeerDelta} {id : Bytes}
    (h : core.peers.apply delta = .ok applied) :
    id ∈ (core.applyPeerDelta delta).peers ↔ id ∈ core.peers ∧ id ∉ delta.removedStableIds ∨
      id ∈ delta.changed.map Peer.stableId := by
  unfold Core.applyPeerDelta
  split_ifs with hempty
  · simp [hempty]
  · rw [h]
    exact PeerDirectory.mem_apply h

lemma handle_full (h : Carries core.stableIdsByNodeId next root update)
    (hfull : isFull root = true) (ho : OrderlyFull root) :
    ∃ dir, (∀ id, id ∈ dir ↔ id ∈ (listed root).map stableId) ∧
      ({ core with stableIdsByNodeId := next }.handle update).peers = dir ∧
      ({ core with stableIdsByNodeId := next }.handle update).stableIdsByNodeId = next := by
  obtain ⟨peers, hpeers, hlength, hstable, hvalid⟩ := h.full hfull
  obtain ⟨dir, hdir⟩ := PeerDirectory.replace_ok hlength (hvalid ho.admissible)
    (hstable ▸ ho.admissible.distinct)
  have hreplace : Core.replacePeers { core with stableIdsByNodeId := next } peers
      update.localAddress = .ok { core with
        stableIdsByNodeId := next, peers := dir, localAddress := update.localAddress } := by
    rw [Core.replacePeers, if_neg (by simp [h.localAddress, ho.address]), hdir]
  refine ⟨dir, fun id => hstable ▸ PeerDirectory.mem_replace hdir, ?_, ?_⟩ <;>
  · rw [Core.handle, hpeers]
    simp only [hreplace, Core.updateDerpMap]

lemma handle_delta (h : Carries core.stableIdsByNodeId next root update)
    (hfull : isFull root = false) :
    ({ core with stableIdsByNodeId := next }.handle update).peers =
        (core.applyPeerDelta update.delta).peers ∧
      ({ core with stableIdsByNodeId := next }.handle update).stableIdsByNodeId = next := by
  have hpeers : ∀ delta, (Core.applyPeerDelta { core with stableIdsByNodeId := next } delta).peers =
      (core.applyPeerDelta delta).peers ∧
      (Core.applyPeerDelta { core with stableIdsByNodeId := next } delta).stableIdsByNodeId =
        next := by
    intro delta
    unfold Core.applyPeerDelta
    split_ifs
    · exact ⟨rfl, rfl⟩
    · rcases core.peers.apply delta with error | applied <;> exact ⟨rfl, rfl⟩
  rw [Core.handle, h.delta hfull]
  simp only [Core.updateDerpMap]
  split_ifs <;> exact hpeers update.delta

/-! ## Every frame of a session -/

variable {parse : Bytes → Option Json} {json : Bytes}

lemma step_cases (hs : core.step parse json = some core') :
    ∃ members update next, parse json = some (.object members) ∧
      decodeRoot core.stableIdsByNodeId (.object members) = .ok (update, next) ∧
        core' = { core with stableIdsByNodeId := next }.handle update := by
  unfold Core.step at hs
  split_ifs at hs
  split at hs
  · rename_i update next hd
    unfold decode decodeText at hd
    split at hd
    · cases hd
    split at hd
    · rename_i members hparse
      rcases hroot : decodeRoot core.stableIdsByNodeId (.object members) with
        (_ | error) | ⟨update', next'⟩
      all_goals
        rw [hroot] at hd
        cases hd
      exact ⟨members, update, next, hparse, hroot, (Option.some.inj hs).symm⟩
    · cases hd
  · cases hs

lemma keepAlive_step {members : List (Bytes × Json)}
    (halive : Json.flag (.object members) "KeepAlive" = true)
    (h : decodeRoot core.stableIdsByNodeId (.object members) = .ok (update, next)) :
    { core with stableIdsByNodeId := next }.handle update = core := by
  obtain ⟨-, h⟩ := value_bind_eq_ok.mp h
  change (if Json.flag (.object members) "KeepAlive" = true then _ else _) = _ at h
  rw [if_pos halive] at h
  obtain ⟨rfl, rfl⟩ := Prod.mk.inj (Except.ok.inj h)
  rfl

/-- A full list sets both tables, whatever they were. -/
lemma agrees_full {members : List (Bytes × Json)}
    (h : Carries core.stableIdsByNodeId next (.object members) update)
    (hfull : isFull (.object members) = true) (ho : OrderlyRoot core (.object members)) :
    ({ core with stableIdsByNodeId := next }.handle update).Agrees := by
  obtain ⟨dir, hdir, hpeers, hids⟩ := handle_full h hfull (ho.full hfull)
  rw [Core.Agrees, hpeers, hids]
  exact h.mirrors_full hfull ho.listed (ho.full hfull) hdir

lemma agrees_step (hcore : core.Agrees) (ho : Orderly parse core json)
    (hs : core.step parse json = some core') : core'.Agrees := by
  obtain ⟨members, update, next, hparse, hroot, rfl⟩ := step_cases hs
  rcases halive : Json.flag (.object members) "KeepAlive" with _ | _
  · have horder := ho members hparse halive
    have hcarries := decodeRoot_ok hroot halive horder.listed horder.changed
    rcases hfull : isFull (.object members) with _ | _
    · obtain ⟨applied, happly⟩ := hcarries.apply_ok hfull (horder.delta hfull)
      obtain ⟨hpeers, hids⟩ := handle_delta hcarries hfull
      rw [Core.Agrees, hpeers, hids]
      exact hcarries.mirrors_delta hfull horder.changed (horder.delta hfull) hcore
        fun id => mem_applyPeerDelta happly
    · exact agrees_full hcarries hfull horder
  · rwa [keepAlive_step halive hroot]

/-! ## Removals and patches take effect -/

def patches (root : Json) : List Json := (root.arrayAt "PeersChangedPatch").getD []

/-- What a delta says about node IDs, the directory then shows. -/
structure TakesEffect (core core' : Core) (root : Json) : Prop where
  removed : ∀ n ∈ removed root, core'.stableIdsByNodeId.lookup n = none ∧
    ∀ id, core.stableIdsByNodeId.lookup n = some id → id ∉ (changed root).map stableId →
      id ∉ core'.peers
  patched : ∀ before patch after n online id, patches root = before ++ patch :: after →
    patch.find "NodeID" = some (.unsigned n) → patch.find "Online" = some (.boolean online) →
    core'.stableIdsByNodeId.lookup n = some id →
    (∀ later ∈ after, ∀ change, onlineChange core'.stableIdsByNodeId later = some change →
      change.stableId ≠ id) →
    ∃ peer, core'.peers.lookup id = some peer ∧ peer.online = online

lemma applyPeerDelta_peers {applied : PeerDirectory} {delta : PeerDelta}
    (h : core.peers.apply delta = .ok applied) (hne : delta.onlineChanges ≠ []) :
    (core.applyPeerDelta delta).peers = applied := by
  rw [Core.applyPeerDelta, if_neg (by simp [hne]), h]

lemma takesEffect (hcore : core.Agrees)
    (h : Carries core.stableIdsByNodeId next root update) (hfull : isFull root = false)
    (ho : OrderlyRoot core root) :
    TakesEffect core ({ core with stableIdsByNodeId := next }.handle update) root := by
  have hdelta := ho.delta hfull
  obtain ⟨applied, happly⟩ := h.apply_ok hfull hdelta
  obtain ⟨hpeers, hids⟩ := handle_delta h hfull
  have hmirrors := h.mirrors_delta hfull ho.changed hdelta hcore fun id => mem_applyPeerDelta happly
  constructor
  · intro n hn
    rw [hids, hpeers]
    refine ⟨Option.eq_none_iff_forall_ne_some.mpr fun id hl => ((h.lookup n id).mp hl).1 hn, ?_⟩
    intro id hl hchanged
    rw [mem_applyPeerDelta happly, h.notMem_removedStableIds hfull hdelta, h.changedIds]
    rintro (⟨-, hstays⟩ | hmem)
    · exact hstays n hn hl
    · exact hchanged hmem
  · intro before patch after n online id hpatches hnode honline hl hlast
    rw [hids] at hl hlast
    have hchange : onlineChange next patch = some ⟨id, online⟩ := by
      simp [onlineChange, hnode, honline, hl]
    have hchanges : update.delta.onlineChanges = before.filterMap (onlineChange next) ++
        ⟨id, online⟩ :: after.filterMap (onlineChange next) := by
      rw [h.onlineChanges]
      change (patches root).filterMap _ = _
      rw [hpatches, List.filterMap_append, List.filterMap_cons_some hchange]
    have hlisted : id ∈ (core.applyPeerDelta update.delta).peers :=
      (hmirrors.range id).mpr ⟨n, hl⟩
    rw [hpeers]
    rw [applyPeerDelta_peers happly (by simp [hchanges])] at hlisted ⊢
    -- the last patch for the ID decides
    refine PeerDirectory.online_apply happly hchanges (fun c hc => ?_) hlisted
    obtain ⟨later, hlater, hc⟩ := List.mem_filterMap.mp hc
    exact hlast later hlater c hc

/-- From a full list on, and as long as the frames are orderly, the directory lists the peers that
the codec knows, and what a delta says about a node ID takes effect. -/
theorem agrees_of_orderly (parse : Bytes → Option Json) (peers : PeerDirectory) (first : Bytes)
    (start core : Core) (members : List (Bytes × Json))
    (hparse : parse first = some (.object members))
    (halive : Json.flag (.object members) "KeepAlive" = false)
    (hfull : isFull (.object members) = true)
    (horder : OrderlyRoot (Core.connected peers) (.object members))
    (hstart : (Core.connected peers).step parse first = some start)
    (hrun : Run (Core.step parse) (Orderly parse) start core) :
    core.Agrees ∧ ∀ json core' members, Orderly parse core json →
      core.step parse json = some core' → parse json = some (.object members) →
      Json.flag (.object members) "KeepAlive" = false → isFull (.object members) = false →
        TakesEffect core core' (.object members) := by
  have h0 : start.Agrees := by
    obtain ⟨members', update, next, hparse', hroot, rfl⟩ := step_cases hstart
    obtain rfl : members = members' := by simpa [hparse] using hparse'
    exact agrees_full (decodeRoot_ok hroot halive horder.listed horder.changed) hfull horder
  have hcore : core.Agrees := hrun.invariant h0 fun _ _ _ h hok hs => agrees_step h hok hs
  refine ⟨hcore, fun json core' members ho hs hparse halive hfull => ?_⟩
  obtain ⟨members', update, next, hparse', hroot, rfl⟩ := step_cases hs
  obtain rfl : members = members' := by simpa [hparse] using hparse'
  have horder := ho members hparse halive
  exact takesEffect hcore (decodeRoot_ok hroot halive horder.listed horder.changed) hfull horder

/-! ## A peer that gets another stable ID -/

def sampleKey : Bytes := ascii "nodekey:" ++ List.replicate 64 48

/-- Node 1 under this stable ID. -/
def sampleNode (stableId : String) : Json :=
  .object [(ascii "ID", .unsigned 1), (ascii "Key", .string sampleKey),
    (ascii "StableID", .string (ascii stableId))]

def sampleNodeText (stableId : String) : Bytes :=
  ascii "\x7b\"ID\":1,\"Key\":\"" ++ sampleKey ++ ascii "\",\"StableID\":\"" ++
    ascii stableId ++ ascii "\"\x7d"

def fullText : Bytes :=
  ascii "\x7b\"Node\":\x7b\"Addresses\":[\"100.64.0.2/32\"]\x7d,\"Peers\":[" ++
    sampleNodeText "a" ++ ascii "]\x7d"

def fullMembers : List (Bytes × Json) :=
  [(ascii "Node", .object [(ascii "Addresses", .array [.string (ascii "100.64.0.2/32")])]),
    (ascii "Peers", .array [sampleNode "a"])]

def changedText : Bytes :=
  ascii "\x7b\"PeersChanged\":[" ++ sampleNodeText "b" ++ ascii "]\x7d"

/-- What the parser makes of the two texts. -/
def parseFrames (json : Bytes) : Option Json :=
  if json = fullText then some (.object fullMembers)
  else if json = changedText then
    some (.object [(ascii "PeersChanged", .array [sampleNode "b"])])
  else none

def sampleStart : Core :=
  ((Core.connected ∅).step parseFrames fullText).get (by decide +kernel)

theorem agrees_after_full_list :
    sampleStart.peers.keys = [ascii "a"] ∧ sampleStart.Agrees := by
  have hpeers : listed (.object fullMembers) = [sampleNode "a"] := rfl
  have hchanged : changed (.object fullMembers) = [] := rfl
  have hremoved : removed (.object fullMembers) = [] := rfl
  have hid : nodeId (sampleNode "a") = 1 := rfl
  have haddresses : peerAddresses (sampleNode "a") = [] := rfl
  have horder : OrderlyRoot (Core.connected ∅) (.object fullMembers) := by
    refine ⟨⟨?_, ?_⟩, ⟨?_, ?_⟩, fun _ => ⟨rfl, ⟨?_, ?_⟩, ?_, ?_⟩, nofun⟩
    all_goals simp [hpeers, hchanged, hremoved, hid, haddresses]
  have hparse : parseFrames fullText = some (.object fullMembers) := if_pos rfl
  exact ⟨by decide +kernel, (agrees_of_orderly parseFrames ∅ fullText sampleStart sampleStart
    fullMembers hparse rfl rfl horder (Option.some_get _).symm .refl).1⟩

/-- The directory keeps the old stable ID, which no node ID stands for any more. -/
theorem renamed_peer_stays_listed : ∃ core, sampleStart.step parseFrames changedText = some core ∧
    ascii "a" ∈ core.peers ∧ ∀ n, core.stableIdsByNodeId.lookup n ≠ some (ascii "a") := by
  refine ⟨(sampleStart.step parseFrames changedText).get (by decide +kernel),
    (Option.some_get _).symm, by decide +kernel, fun n hl => ?_⟩
  have hentries : ((sampleStart.step parseFrames changedText).get
      (by decide +kernel)).stableIdsByNodeId.entries = [⟨1, ascii "b"⟩] := by decide +kernel
  have hm := AList.mem_lookup_iff.mp hl
  rw [hentries] at hm
  simp [ascii] at hm

end ArtemisSwitch.Netmap

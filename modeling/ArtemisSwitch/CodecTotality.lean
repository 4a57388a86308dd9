import ArtemisSwitch.ControlCodec

/-!
# Which frames the codec answers

`decode` reads most fields with checked finds and some with `value`, which throws
on a field of another type.  `RootReads` follows the readers through a frame and
asks that every such field they come to converts, and that a relay map that is
there names its regions.
-/

namespace ArtemisSwitch.Netmap
open HostAddress Json

/-! ## Peers -/

def HasNodeKey (node : Json) : Prop :=
  (decodeTypedKey (node.text "Key") (ascii "nodekey:")).isSome

def HasDiscoKey (node : Json) : Prop :=
  node.text "DiscoKey" ≠ [] → (decodeTypedKey (node.text "DiscoKey") (ascii "discokey:")).isSome

structure WithinLimits (node : Json) : Prop where
  own : ((node.arrayAt "Addresses").getD []).length ≤ 32
  allowed : strings ((node.arrayAt "Addresses").getD []) = [] →
    ((node.arrayAt "AllowedIPs").getD []).length ≤ 32
  endpoints : ((node.arrayAt "Endpoints").getD []).length ≤ kMaxEndpointsPerPeer

/-- The fields of a peer, as far as they are read. -/
def PeerReads (node : Json) : Prop :=
  node.isObject = true → node.Reads getString "StableID" ∧ node.Reads getUint64 "ID" ∧
    (node.text "StableID" ≠ [] → node.Reads getString "Name" ∧ node.Reads getString "Key" ∧
      (HasNodeKey node → node.Reads getString "DiscoKey" ∧
        (HasDiscoKey node → WithinLimits node → node.Reads getInt "HomeDERP" ∧
          (node.read getInt 0 "HomeDERP" = 0 → node.Reads getString "DERP") ∧
            node.Reads getBoolean "Online")))

/-- A peer that nothing is wrong with but perhaps the type of a field. -/
structure PeerTaken (node : Json) : Prop where
  isObject : node.isObject = true
  stableId : node.text "StableID" ≠ []
  nodeKey : HasNodeKey node
  discoKey : HasDiscoKey node
  limits : WithinLimits node

variable {node root : Json} {nodes : List Json} {idMap : StableIds}

/-! ### The readers of a peer -/

lemma answered_parseIdentity : Answered (parseIdentity node) ↔
    node.Reads getString "StableID" ∧ node.Reads getUint64 "ID" := by
  simp only [parseIdentity, answered_value_bind]
  refine and_congr_right fun _ => and_iff_left ?_
  split_ifs
  exacts [answered_reject (by decide), answered_ok]

lemma parseIdentity_eq_ok {identity : Bytes × UInt64} : parseIdentity node = .ok identity ↔
    node.Reads getString "StableID" ∧ node.Reads getUint64 "ID" ∧ node.text "StableID" ≠ [] ∧
      identity = (node.text "StableID", node.read getUint64 0 "ID") := by
  simp only [parseIdentity, value_bind_eq_ok]
  refine and_congr_right fun _ => and_congr_right fun _ => ?_
  change (if node.text "StableID" = [] then _
    else Except.ok (node.text "StableID", node.read getUint64 0 "ID")) = _ ↔ _
  split_ifs with h
  · exact iff_of_false nofun fun hid => hid.1 h
  · rw [Except.ok.injEq, and_iff_right h, eq_comm]

lemma returns_parseIdentity : Returns (parseIdentity node) ↔
    node.Reads getString "StableID" ∧ node.Reads getUint64 "ID" ∧ node.text "StableID" ≠ [] := by
  simp [Returns, parseIdentity_eq_ok]

lemma answered_parseNodeKey : Answered (parseNodeKey node) ↔ node.Reads getString "Key" := by
  simp only [parseNodeKey, answered_value_bind]
  refine and_iff_left ?_
  split
  exacts [answered_ok, answered_reject (by decide)]

lemma returns_parseNodeKey :
    Returns (parseNodeKey node) ↔ node.Reads getString "Key" ∧ HasNodeKey node := by
  simp only [parseNodeKey, returns_value_bind, HasNodeKey, Json.text]
  refine and_congr_right fun _ => ?_
  split <;> simp_all

lemma answered_parseDiscoKey :
    Answered (parseDiscoKey node) ↔ node.Reads getString "DiscoKey" := by
  simp only [parseDiscoKey, answered_value_bind]
  refine and_iff_left ?_
  split_ifs
  · exact answered_ok
  · split
    exacts [answered_ok, answered_reject (by decide)]

lemma returns_parseDiscoKey :
    Returns (parseDiscoKey node) ↔ node.Reads getString "DiscoKey" ∧ HasDiscoKey node := by
  simp only [parseDiscoKey, returns_value_bind, HasDiscoKey, Json.text]
  refine and_congr_right fun _ => ?_
  split_ifs with h
  · simp [h]
  · split <;> simp_all

lemma answered_parseAddresses : Answered (parseAddresses node) := by
  simp only [parseAddresses]
  split_ifs
  exacts [answered_reject (by decide), answered_ok, answered_ok]

lemma answered_parseEndpoints : Answered (parseEndpoints node) := by
  simp only [parseEndpoints]
  split_ifs
  exacts [answered_reject (by decide), answered_ok]

lemma withinLimits_iff : WithinLimits node ↔
    Returns (parseAddresses node) ∧ Returns (parseEndpoints node) := by
  have haddr : Returns (parseAddresses node) ↔
      ((node.arrayAt "Addresses").getD []).length ≤ 32 ∧
        (strings ((node.arrayAt "Addresses").getD []) = [] →
          ((node.arrayAt "AllowedIPs").getD []).length ≤ 32) := by
    simp only [parseAddresses, List.map_eq_nil_iff]
    split_ifs <;> simp <;> grind
  have hend : Returns (parseEndpoints node) ↔
      ((node.arrayAt "Endpoints").getD []).length ≤ kMaxEndpointsPerPeer := by
    simp only [parseEndpoints]
    split_ifs <;> simp <;> omega
  rw [haddr, hend]
  exact ⟨fun h => ⟨⟨h.own, h.allowed⟩, h.endpoints⟩, fun h => ⟨h.1.1, h.1.2, h.2⟩⟩

lemma answered_parseHomeDerp : Answered (parseHomeDerp node) ↔ node.Reads getInt "HomeDERP" ∧
    (node.read getInt 0 "HomeDERP" = 0 → node.Reads getString "DERP") := by
  simp only [parseHomeDerp, answered_value_bind]
  refine and_congr_right fun _ => ?_
  split_ifs with h
  · simp [h]
  · simp [answered_value_bind, not_not.mp h]

lemma returns_parseHomeDerp : Returns (parseHomeDerp node) ↔ node.Reads getInt "HomeDERP" ∧
    (node.read getInt 0 "HomeDERP" = 0 → node.Reads getString "DERP") := by
  simp only [parseHomeDerp, returns_value_bind]
  refine and_congr_right fun _ => ?_
  split_ifs with h
  · simp [h]
  · simp [returns_value_bind, not_not.mp h]

/-! ### A whole peer -/

lemma answered_parsePeer : Answered (parsePeer node idMap) ↔ PeerReads node := by
  unfold parsePeer PeerReads
  split_ifs with h
  · simp [h, answered_reject]
  · simp only [answered_bind, answered_ok, answered_value, returns_value, forall_ok,
      answered_parseIdentity, returns_parseIdentity, answered_parseNodeKey, returns_parseNodeKey,
      answered_parseDiscoKey, returns_parseDiscoKey, answered_parseAddresses,
      answered_parseEndpoints, answered_parseHomeDerp, returns_parseHomeDerp, withinLimits_iff]
    have hobject : node.isObject = true := by simpa using h
    grind

lemma returns_parsePeer : Returns (parsePeer node idMap) ↔ PeerReads node ∧ PeerTaken node := by
  have htaken : PeerTaken node ↔ node.isObject = true ∧ node.text "StableID" ≠ [] ∧
      HasNodeKey node ∧ HasDiscoKey node ∧ WithinLimits node :=
    ⟨fun ⟨h1, h2, h3, h4, h5⟩ => ⟨h1, h2, h3, h4, h5⟩, fun ⟨h1, h2, h3, h4, h5⟩ =>
      ⟨h1, h2, h3, h4, h5⟩⟩
  rw [htaken]
  unfold parsePeer PeerReads
  split_ifs with h
  · simp [h]
  · have hobject : node.isObject = true := by simpa using h
    simp only [returns_bind, returns_ok, exists_ok, returns_value, returns_parseIdentity,
      returns_parseNodeKey, returns_parseDiscoKey, returns_parseHomeDerp, withinLimits_iff]
    grind

/-! ## Relay maps -/

def derpHost (node : Json) : Bytes :=
  if node.text "HostName" ≠ [] then node.text "HostName" else node.text "IPv4"

/-- The port is one. -/
def HasDerpPort (node : Json) : Prop :=
  ¬ (node.read getInt 443 "DERPPort" ≤ 0 ∨ 65535 < node.read getInt 443 "DERPPort")

instance : Decidable (HasDerpPort node) := inferInstanceAs (Decidable (¬ _))

/-- The fields of a relay, as far as they are read. -/
def DerpNodeReads (node : Json) : Prop :=
  node.isObject = true → (node.Reads getString "HostName" ∧
    (node.text "HostName" = [] → node.Reads getString "IPv4")) ∧
      (isPlausibleHostname (derpHost node) = true → node.Reads getInt "DERPPort" ∧
        (HasDerpPort node → node.Reads getInt "STUNPort" ∧ node.Reads getBoolean "STUNOnly"))

/-- A relay that is listed. -/
def derpNodeListed (node : Json) : Bool :=
  node.isObject && isPlausibleHostname (derpHost node) && decide (HasDerpPort node) &&
    !node.flag "STUNOnly"

/-- The relays of a region, up to the one that fills the list. -/
def DerpNodesRead : ℕ → List Json → Prop
  | _, [] => True
  | listed, node :: nodes => listed < kMaxDerpNodesPerRegion →
    DerpNodeReads node ∧ DerpNodesRead (if derpNodeListed node then listed + 1 else listed) nodes

def DerpRegionReads (key : Bytes) (region : Json) : Prop :=
  region.isObject = true → region.Reads getInt "RegionID" ∧
    (0 < regionIdOf (region.read getInt 0 "RegionID") key → region.Reads getString "RegionCode" ∧
      DerpNodesRead 0 ((region.arrayAt "Nodes").getD []))

/-- A relay map that is an object has regions, and all that are read have the right fields. -/
def DerpMapReads (root : Json) : Prop :=
  ∀ members, root.find "DERPMap" = some (.object members) →
    match Json.find "Regions" (.object members) with
    | none | some .null => False
    | some (.object regions) =>
      regions.length ≤ kMaxDerpRegions → ∀ region ∈ regions, DerpRegionReads region.1 region.2
    | some _ => True

/-- A frame without a relay map, or with one that is taken. -/
def DerpMapTaken (root : Json) : Prop :=
  ∀ derpMap, root.find "DERPMap" = some derpMap → derpMap = .null ∨
    ∃ regions, derpMap.find "Regions" = some (.object regions) ∧ regions.length ≤ kMaxDerpRegions

/-! ### The readers of a relay map -/

lemma parseDerpHost_eq_ok {host : Bytes} : parseDerpHost node = .ok host ↔
    (node.Reads getString "HostName" ∧
      (node.text "HostName" = [] → node.Reads getString "IPv4")) ∧ host = derpHost node := by
  simp only [parseDerpHost, value_bind_eq_ok, derpHost, Json.text, and_assoc]
  refine and_congr_right fun _ => ?_
  split_ifs with h
  · simp [h, eq_comm]
  · simp [value_eq_ok, not_not.mp h]

lemma onlyThrows_parseDerpHost : OnlyThrows (parseDerpHost node) := by
  refine onlyThrows_value.bind fun host => ?_
  split_ifs
  exacts [onlyThrows_ok, onlyThrows_value]

lemma onlyThrows_parseDerpNode : OnlyThrows (parseDerpNode node) := by
  unfold parseDerpNode
  split_ifs
  · exact onlyThrows_ok
  · refine onlyThrows_parseDerpHost.bind fun host => ?_
    split_ifs
    · exact onlyThrows_ok
    · refine onlyThrows_value.bind fun port => ?_
      split_ifs
      · exact onlyThrows_ok
      · exact onlyThrows_value.bind fun stunPort => onlyThrows_value.bind fun _ => onlyThrows_ok

lemma onlyThrows_parseDerpNodes {listed : List DerpNode} :
    OnlyThrows (parseDerpNodes listed nodes) := by
  induction nodes generalizing listed with
  | nil => exact onlyThrows_ok
  | cons node nodes ih =>
    simp only [parseDerpNodes]
    split_ifs
    · exact onlyThrows_ok
    · exact onlyThrows_parseDerpNode.bind fun parsed => ih

lemma onlyThrows_parseDerpRegion {key : Bytes} {region : Json} :
    OnlyThrows (parseDerpRegion key region) := by
  unfold parseDerpRegion
  split_ifs
  · exact onlyThrows_ok
  · refine onlyThrows_value.bind fun declared => ?_
    split_ifs
    · exact onlyThrows_ok
    · exact onlyThrows_value.bind fun code => onlyThrows_parseDerpNodes.bind fun _ => onlyThrows_ok

lemma onlyThrows_parseDerpRegions {regions : List (Bytes × Json)} :
    OnlyThrows (parseDerpRegions regions) := by
  induction regions with
  | nil => exact onlyThrows_ok
  | cons region regions ih =>
    exact onlyThrows_parseDerpRegion.bind fun _ => ih.bind fun _ => onlyThrows_ok

lemma returns_parseDerpNode : Returns (parseDerpNode node) ↔ DerpNodeReads node := by
  unfold parseDerpNode DerpNodeReads
  split_ifs with h
  · simp [h]
  · have hobject : node.isObject = true := by simpa using h
    rw [returns_bind, exists_ok_iff fun _ => parseDerpHost_eq_ok, imp_iff_right hobject]
    refine and_congr_right fun _ => ?_
    split_ifs with hhost
    · simp [hhost]
    · simp only [Bool.not_eq_false] at hhost
      simp only [hhost, true_imp_iff, returns_value_bind]
      refine and_congr_right fun _ => ?_
      by_cases hport : HasDerpPort node
      · rw [if_neg hport]
        simp [returns_value_bind, hport]
      · rw [if_pos (not_not.mp hport)]
        simp [hport]

lemma parseDerpNode_listed {parsed : Option DerpNode} (h : parseDerpNode node = .ok parsed) :
    parsed.isSome = derpNodeListed node := by
  unfold parseDerpNode at h
  unfold derpNodeListed
  split_ifs at h with hobject
  · cases h
    simp [hobject]
  · obtain ⟨host, hhost, h⟩ := bind_eq_ok.mp h
    obtain ⟨-, rfl⟩ := parseDerpHost_eq_ok.mp hhost
    split_ifs at h with hdns
    · cases h
      simp [hdns]
    · obtain ⟨-, h⟩ := value_bind_eq_ok.mp h
      split_ifs at h with hport
      · cases h
        simp [HasDerpPort, hport]
      · simp only [value_bind_eq_ok, Except.ok.injEq] at h
        obtain ⟨-, -, rfl⟩ := h
        have hobj : node.isObject = true := by simpa using hobject
        have hhost' : isPlausibleHostname (derpHost node) = true := by simpa using hdns
        have hnumber : HasDerpPort node := hport
        simp only [hobj, hhost', hnumber, Json.flag]
        cases node.read getBoolean false "STUNOnly" <;> rfl

lemma returns_parseDerpNodes {listed : List DerpNode} :
    Returns (parseDerpNodes listed nodes) ↔ DerpNodesRead listed.length nodes := by
  induction nodes generalizing listed with
  | nil => simp [parseDerpNodes, DerpNodesRead]
  | cons node nodes ih =>
    simp only [parseDerpNodes, DerpNodesRead]
    by_cases hfull : kMaxDerpNodesPerRegion ≤ listed.length
    · simp [hfull, Nat.not_lt.mpr hfull]
    · rw [if_neg hfull, imp_iff_right (Nat.not_le.mp hfull), returns_bind, ← returns_parseDerpNode,
        ← exists_ok]
      refine exists_congr fun parsed => and_congr_right fun hp => ?_
      have hlength : (listed ++ parsed.toList).length =
          if derpNodeListed node then listed.length + 1 else listed.length := by
        rw [← parseDerpNode_listed hp]
        cases parsed <;> simp
      rw [ih, hlength]

lemma returns_parseDerpRegion {key : Bytes} {region : Json} :
    Returns (parseDerpRegion key region) ↔ DerpRegionReads key region := by
  unfold parseDerpRegion DerpRegionReads
  split_ifs with h
  · simp [h]
  · have hobject : region.isObject = true := by simpa using h
    simp only [returns_value_bind, hobject, true_imp_iff]
    refine and_congr_right fun _ => ?_
    split_ifs with hid
    · simp [Int32.not_lt.mpr hid]
    · rw [imp_iff_right (Int32.not_le.mp hid), returns_value_bind, returns_bind]
      simp only [returns_ok, exists_ok, returns_parseDerpNodes, List.length_nil]
      rw [and_true]

lemma returns_parseDerpRegions {regions : List (Bytes × Json)} :
    Returns (parseDerpRegions regions) ↔
      ∀ region ∈ regions, DerpRegionReads region.1 region.2 := by
  induction regions with
  | nil => simp [parseDerpRegions]
  | cons region regions ih =>
    simp only [parseDerpRegions, returns_bind, returns_ok, exists_ok, returns_parseDerpRegion, ih,
      List.forall_mem_cons]
    rw [and_true]

lemma answered_decodeDerpMap : Answered (decodeDerpMap root) ↔ DerpMapReads root := by
  unfold decodeDerpMap DerpMapReads
  rcases hf : root.find "DERPMap" with _ | (_ | _ | _ | _ | _ | _ | _ | members)
  case none => simp
  case some.null => simp
  case some.object =>
    simp only [answered_map, parseDerpMap, hf, Option.some.injEq, object.injEq, forall_eq']
    rcases Json.find "Regions" (.object members) with _ | (_ | _ | _ | _ | _ | _ | _ | regions)
    case none => simp [Fault.Told]
    case some.null => simp [Fault.Told]
    case some.object =>
      simp only
      split_ifs with hlimit
      · simp [answered_reject, Nat.not_le.mpr hlimit]
      · rw [onlyThrows_parseDerpRegions.answered_iff, returns_parseDerpRegions,
          imp_iff_right (Nat.not_lt.mp hlimit)]
    all_goals simp [answered_reject]
  all_goals simp [answered_map, parseDerpMap, hf, answered_reject]

lemma returns_decodeDerpMap :
    Returns (decodeDerpMap root) ↔ DerpMapReads root ∧ DerpMapTaken root := by
  unfold decodeDerpMap DerpMapReads DerpMapTaken
  rcases hf : root.find "DERPMap" with _ | (_ | _ | _ | _ | _ | _ | _ | members)
  case none => simp
  case some.null => simp
  case some.object =>
    simp only [returns_map, parseDerpMap, hf, Option.some.injEq, object.injEq, forall_eq',
      reduceCtorEq, false_or]
    rcases Json.find "Regions" (.object members) with _ | (_ | _ | _ | _ | _ | _ | _ | regions)
    case some.object =>
      simp only
      split_ifs with hlimit
      · simp [Nat.not_le.mpr hlimit]
      · simp [returns_parseDerpRegions, Nat.not_lt.mp hlimit]
    all_goals simp
  all_goals
    simp only [returns_map, parseDerpMap, hf]
    simp [Json.find]

/-! ## A whole frame -/

/-- The peers of a list, up to the first one that is refused. -/
def PeersRead : List Json → Prop
  | [] => True
  | node :: nodes => PeerReads node ∧ (PeerTaken node → PeersRead nodes)

/-- The fields of a frame, as far as they are read. -/
def RootReads (root : Json) : Prop :=
  let peers := (root.arrayAt "Peers").getD []
  let changed := (root.arrayAt "PeersChanged").getD []
  root.Reads getBoolean "KeepAlive" ∧ (root.flag "KeepAlive" = false →
    DerpMapReads root ∧ (DerpMapTaken root → peers.length ≤ kMaxPeers →
      PeersRead peers ∧ ((∀ node ∈ peers, PeerTaken node) → changed.length ≤ kMaxPeers →
        PeersRead changed)))

lemma answered_parsePeers : Answered (parsePeers nodes idMap) ↔ PeersRead nodes := by
  induction nodes generalizing idMap with
  | nil => simp [parsePeers, PeersRead]
  | cons node nodes ih =>
    simp only [parsePeers, PeersRead, answered_bind, answered_parsePeer, ih, answered_ok,
      implies_true, and_true, forall_ok, returns_parsePeer]
    exact and_congr_right fun h => by simp [h]

lemma returns_parsePeers :
    Returns (parsePeers nodes idMap) ↔ PeersRead nodes ∧ ∀ node ∈ nodes, PeerTaken node := by
  induction nodes generalizing idMap with
  | nil => simp [parsePeers, PeersRead]
  | cons node nodes ih =>
    simp only [parsePeers, PeersRead, returns_bind, returns_ok, exists_ok, ih, returns_parsePeer,
      List.forall_mem_cons]
    tauto

lemma answered_decodePeers : Answered (decodePeers root idMap) ↔
    (((root.arrayAt "Peers").getD []).length ≤ kMaxPeers →
      PeersRead ((root.arrayAt "Peers").getD [])) := by
  unfold decodePeers
  split
  · simp [PeersRead, *]
  · rename_i peers h
    rw [h, Option.getD_some]
    split_ifs with hlimit
    · simp [answered_reject, Nat.not_le.mpr hlimit]
    · rw [answered_map, answered_parsePeers, imp_iff_right (Nat.not_lt.mp hlimit)]

lemma returns_decodePeers : Returns (decodePeers root idMap) ↔
    ((root.arrayAt "Peers").getD []).length ≤ kMaxPeers ∧
      PeersRead ((root.arrayAt "Peers").getD []) ∧
        ∀ node ∈ (root.arrayAt "Peers").getD [], PeerTaken node := by
  unfold decodePeers
  split
  · simp [PeersRead, *]
  · rename_i peers h
    rw [h, Option.getD_some]
    split_ifs with hlimit
    · simp [Nat.not_le.mpr hlimit]
    · rw [returns_map, returns_parsePeers, and_iff_right (Nat.not_lt.mp hlimit)]

lemma answered_decodeChanged : Answered (decodeChanged root idMap) ↔
    (((root.arrayAt "PeersChanged").getD []).length ≤ kMaxPeers →
      PeersRead ((root.arrayAt "PeersChanged").getD [])) := by
  simp only [decodeChanged]
  split_ifs with hlimit
  · simp [answered_reject, Nat.not_le.mpr hlimit]
  · rw [answered_parsePeers, imp_iff_right (Nat.not_lt.mp hlimit)]

lemma answered_decodeRemoved : Answered (decodeRemoved root idMap) := by
  simp only [decodeRemoved]
  split_ifs
  exacts [answered_reject (by decide), answered_ok]

lemma answered_decodePatches : Answered (decodePatches root idMap) := by
  simp only [decodePatches]
  split_ifs
  exacts [answered_reject (by decide), answered_ok]

lemma answered_decodeRoot : Answered (decodeRoot idMap root) ↔ RootReads root := by
  unfold decodeRoot RootReads
  rw [answered_value_bind]
  refine and_congr_right fun _ => ?_
  change Answered (if root.flag "KeepAlive" = true then _ else _) ↔ _
  split_ifs with halive
  · simp [halive]
  · have hflag : root.flag "KeepAlive" = false := by simpa using halive
    simp only [answered_bind, answered_ok, answered_decodeDerpMap, answered_decodePeers,
      answered_decodeChanged, answered_decodeRemoved, answered_decodePatches, implies_true,
      and_true, forall_ok, returns_decodeDerpMap, returns_decodePeers]
    grind

lemma answered_decodeText {parse : Bytes → Option Json} {json : Bytes} :
    Answered (decodeText parse idMap json) ↔ (json.length ≤ MapFrameDecoder.kMaxFrameSize →
      ∀ members, parse json = some (.object members) → RootReads (.object members)) := by
  unfold decodeText
  split_ifs with hlimit
  · simp [answered_reject, Nat.not_le.mpr hlimit]
  · rw [imp_iff_right (Nat.not_lt.mp hlimit)]
    split
    · rename_i members h
      simp [answered_decodeRoot, h]
    · rename_i h
      exact iff_of_true (answered_reject (by decide)) fun members hm => absurd hm (h members)

lemma answered_iff_commit {x : Except Fault (MapUpdate × StableIds)} : Answered x ↔
    (∃ update next, commit idMap x = (.returned update, next)) ∨
      ∃ error, error ≠ [] ∧ commit idMap x = (.failed (some error), idMap) := by
  rcases x with (_ | (_ | error)) | ⟨update, next⟩ <;> simp [Fault.Told, commit]

/-- `decode` returns an update, or says why not and keeps its IDs, exactly on the frames whose
fields convert as far as they are read and whose relay map, if any, has regions. -/
theorem decode_answers_iff (parse : Bytes → Option Json) (stableIdsByNodeId : StableIds)
    (json : Bytes) :
    ((∃ update next, decode parse stableIdsByNodeId json = (.returned update, next)) ∨
      ∃ error, error ≠ [] ∧
        decode parse stableIdsByNodeId json = (.failed (some error), stableIdsByNodeId)) ↔
      (json.length ≤ MapFrameDecoder.kMaxFrameSize →
        ∀ members, parse json = some (.object members) → RootReads (.object members)) := by
  rw [← answered_decodeText, answered_iff_commit]
  rfl

/-- What the parser makes of two short texts. -/
def parseSample (json : Bytes) : Option Json :=
  if json = ascii "\x7b\"KeepAlive\":null\x7d" then
    some (.object [(ascii "KeepAlive", .null)])
  else if json = ascii "\x7b\"DERPMap\":\x7b\x7d\x7d" then
    some (.object [(ascii "DERPMap", .object [])])
  else none

/-- A null where a flag is expected throws, and a relay map without regions is refused with no
error. -/
theorem decode_throws_on_null_and_refuses_silently :
    decode parseSample ∅ (ascii "\x7b\"KeepAlive\":null\x7d") = (.threw, ∅) ∧
      decode parseSample ∅ (ascii "\x7b\"DERPMap\":\x7b\x7d\x7d") = (.failed none, ∅) :=
  ⟨rfl, rfl⟩

end ArtemisSwitch.Netmap

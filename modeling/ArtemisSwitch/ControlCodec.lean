import ArtemisSwitch.Json
import ArtemisSwitch.Library.Framing
import ArtemisSwitch.PeerDirectory

/-!
# Netmap frames

`MapCodec::decode`: one JSON text of the map stream becomes an update, and the
codec keeps which stable ID each numeric node ID stands for.  `MapFrameDecoder`
cuts the map stream into the texts.
-/

namespace ArtemisSwitch.Netmap
open HostAddress Json

structure DerpNode where
  host : Bytes
  port : ℕ
  stunPort : ℕ
  deriving DecidableEq, Repr

structure DerpRegion where
  regionId : Int32
  regionCode : Bytes
  nodes : List DerpNode
  deriving DecidableEq, Repr

structure MapUpdate where
  keepAlive : Bool := false
  localAddress : Bytes := []
  fullPeers : Option (List Peer) := none
  delta : PeerDelta := {}
  derpMap : Option (List DerpRegion) := none
  deriving DecidableEq, Repr

/-- `stableIdsByNodeId_`. -/
abbrev StableIds := AList fun _ : UInt64 => Bytes

/-! ## Keys -/

def nibble (value : UInt8) : Option UInt8 :=
  if 48 ≤ value ∧ value ≤ 57 then some (value - 48)
  else if 97 ≤ value ∧ value ≤ 102 then some (value - 97 + 10)
  else none

def decodePairs : Bytes → Option Bytes
  | high :: low :: rest => do
    let h ← nibble high
    let l ← nibble low
    let bytes ← decodePairs rest
    return (h <<< 4 ||| l) :: bytes
  | [] => some []
  | [_] => none

lemma length_of_decodePairs {hex bytes : Bytes} (h : decodePairs hex = some bytes) :
    hex.length = 2 * bytes.length := by
  induction hex using decodePairs.induct generalizing bytes with
  | case1 high low rest ih =>
    simp only [decodePairs, Option.bind_eq_bind, Option.bind_eq_some_iff, Option.pure_def] at h
    obtain ⟨_, -, _, -, more, hmore, heq⟩ := h
    obtain rfl := Option.some.inj heq
    rw [List.length_cons, List.length_cons, ih hmore, List.length_cons]
    omega
  | case2 =>
    obtain rfl := Option.some.inj h
    rfl
  | case3 => cases h

/-- `tag` is the prefix with the type of the key. -/
def decodeTypedKey (encoded tag : Bytes) : Option Key32 :=
  if tag.isPrefixOf encoded then
    if hlen : (encoded.drop tag.length).length = 64 then
      match hkey : decodePairs (encoded.drop tag.length) with
      | some key => some ⟨key, by have := length_of_decodePairs hkey; omega⟩
      | none => none
    else none
  else none

def zeroKey : Key32 := ⟨List.replicate 32 0, length_zeros32⟩

/-! ## One peer -/

def stripPrefix (address : Bytes) : Bytes := address.takeWhile (· ≠ slash)

/-- The strings among the items of an array. -/
def strings (items : List Json) : List Bytes := items.filterMap getString

def tolower (c : UInt8) : UInt8 := if 65 ≤ c ∧ c ≤ 90 then c + 32 else c

def kMaxServices : ℕ := 256

/-- The port of a TCP service. -/
def tcpPort (service : Json) : Option ℕ :=
  match service.find "Proto", service.find "Port" with
  | some (.string proto), some (.unsigned value) =>
    if proto ≠ ascii "tcp" ∨ value = 0 ∨ 65535 < value then none else some value.toNat
  | _, _ => none

/-- The loop over the services. -/
def servicePorts : List ℕ → List Json → List ℕ
  | ports, [] => ports
  | ports, service :: services =>
    if kMaxServices ≤ ports.length then ports
    else match tcpPort service with
      | none => servicePorts ports services
      | some port => servicePorts (if port ∈ ports then ports else ports ++ [port]) services

structure Hostinfo where
  os : Bytes := []
  servicesKnown : Bool := false
  tcpServicePorts : List ℕ := []

def parseHostinfo (node : Json) : Hostinfo :=
  match node.find "Hostinfo" with
  | none => {}
  | some hostinfo =>
    { os := match hostinfo.find "OS" with
        | some (.string os) => (os.take 32).map tolower
        | _ => []
      servicesKnown := (hostinfo.arrayAt "Services").isSome
      tcpServicePorts := servicePorts [] ((hostinfo.arrayAt "Services").getD []) }

/-- Subnet routes up to the limit; the loop over `AllowedIPs` beside own addresses. -/
def subnetRoutes (addresses : List Bytes) : List Bytes → List Bytes → List Bytes
  | allowedIPs, [] => allowedIPs
  | allowedIPs, cidr :: rest =>
    if kMaxAllowedIPsPerPeer ≤ allowedIPs.length then allowedIPs
    else subnetRoutes addresses
      (if isRoutableIPv4Subnet cidr addresses then allowedIPs ++ [cidr] else allowedIPs) rest

def parseEndpoint (endpointText : Bytes) : Option Endpoint :=
  match endpointText.rdropWhile (· ≠ colon) with
  | [] => none
  | hostColon =>
    match fromCharsUnsigned (endpointText.rtakeWhile (· ≠ colon)) with
    | some (port, []) =>
      if port = 0 ∨ 65535 < port ∨ isLiteralIPv4 hostColon.dropLast = false then none
      else some ⟨hostColon.dropLast, port⟩
    | _ => none

/-- The stable ID and the node ID. -/
def parseIdentity (node : Json) : Except Fault (Bytes × UInt64) := do
  let stableId ← node.value getString [] "StableID"
  let nodeId ← node.value getUint64 0 "ID"
  if stableId = [] then reject "netmap peer has no stable identity" else .ok (stableId, nodeId)

def parseNodeKey (node : Json) : Except Fault Key32 := do
  let keyText ← node.value getString [] "Key"
  match decodeTypedKey keyText (ascii "nodekey:") with
  | some key => .ok key
  | none => reject "netmap peer has an invalid node key"

def parseDiscoKey (node : Json) : Except Fault Key32 := do
  let discoText ← node.value getString [] "DiscoKey"
  if discoText = [] then .ok zeroKey
  else match decodeTypedKey discoText (ascii "discokey:") with
    | some key => .ok key
    | none => reject "netmap peer has an invalid disco key"

/-- The addresses and the subnet routes; a peer without addresses of its own takes its
`AllowedIPs` for them. -/
def parseAddresses (node : Json) : Except Fault (List Bytes × List Bytes) :=
  let own := (node.arrayAt "Addresses").getD []
  let allowed := (node.arrayAt "AllowedIPs").getD []
  let addresses := (strings own).map stripPrefix
  if 32 < own.length ∨ addresses = [] ∧ 32 < allowed.length then
    reject "netmap peer address limit exceeded"
  else if addresses = [] then .ok ((strings allowed).map stripPrefix, [])
  else .ok (addresses, subnetRoutes addresses [] (strings allowed))

def parseEndpoints (node : Json) : Except Fault (List Endpoint) :=
  let endpoints := (node.arrayAt "Endpoints").getD []
  if kMaxEndpointsPerPeer < endpoints.length then reject "netmap peer endpoint limit exceeded"
  else .ok ((strings endpoints).filterMap parseEndpoint)

/-- The region in the legacy form `127.3.3.40:region`. -/
def legacyRegion (legacy : Bytes) : Int32 :=
  if colon ∉ legacy then 0
  else match fromCharsInt (legacy.rtakeWhile (· ≠ colon)) with
    | some (region, _) => Int32.ofInt region
    | none => 0

def parseHomeDerp (node : Json) : Except Fault Int32 := do
  let homeDerp ← node.value getInt 0 "HomeDERP"
  if homeDerp ≠ 0 then .ok homeDerp
  else do
    let legacy ← node.value getString [] "DERP"
    .ok (legacyRegion legacy)

def parsePeer (node : Json) (idMap : StableIds) : Except Fault (Peer × StableIds) :=
  if node.isObject = false then reject "netmap peer is not an object"
  else do
    let identity ← parseIdentity node
    let hostname ← node.value getString [] "Name"
    let nodeKey ← parseNodeKey node
    let discoKey ← parseDiscoKey node
    let addresses ← parseAddresses node
    let endpoints ← parseEndpoints node
    let homeDerp ← parseHomeDerp node
    let online ← node.value getBoolean false "Online"
    let hostinfo := parseHostinfo node
    .ok ({ stableId := identity.1
           nodeKey := nodeKey
           discoKey := discoKey
           hostname := hostname
           addresses := addresses.1
           allowedIPs := addresses.2
           endpoints := endpoints
           homeDerp := homeDerp
           online := online
           os := hostinfo.os
           tcpServicePorts := hostinfo.tcpServicePorts
           servicesKnown := hostinfo.servicesKnown },
      if identity.2 = 0 then idMap else idMap.insert identity.2 identity.1)

/-! ## The relay map -/

def kMaxDerpRegions : ℕ := 64

def kMaxDerpNodesPerRegion : ℕ := 16

/-- `char` is unsigned on the console. -/
def isPlausibleHostname (host : Bytes) : Bool :=
  host ≠ [] && host.length ≤ 253 &&
    host.all fun c => 32 < c && c ≠ 127 && c ≠ slash && c ≠ colon && c ≠ 64

/-- Port 0 means the default one, and what is no port turns STUN off. -/
def stunPortOf (stunPort : Int32) : ℕ :=
  if stunPort < 0 ∨ 65535 < stunPort then 0
  else if stunPort = 0 then 3478
  else stunPort.toInt.toNat

def parseDerpHost (node : Json) : Except Fault Bytes := do
  let host ← node.value getString [] "HostName"
  if host ≠ [] then .ok host else node.value getString [] "IPv4"

/-- `none` is a node that is skipped. -/
def parseDerpNode (node : Json) : Except Fault (Option DerpNode) :=
  if node.isObject = false then .ok none
  else do
    let host ← parseDerpHost node
    if isPlausibleHostname host = false then .ok none
    else do
      let port ← node.value getInt 443 "DERPPort"
      if port ≤ 0 ∨ 65535 < port then .ok none
      else do
        let stunPort ← node.value getInt 0 "STUNPort"
        let stunOnly ← node.value getBoolean false "STUNOnly"
        .ok (if stunOnly then none else some ⟨host, port.toInt.toNat, stunPortOf stunPort⟩)

/-- The loop over the nodes of a region. -/
def parseDerpNodes : List DerpNode → List Json → Except Fault (List DerpNode)
  | nodes, [] => .ok nodes
  | nodes, node :: rest =>
    if kMaxDerpNodesPerRegion ≤ nodes.length then .ok nodes
    else do
      let parsed ← parseDerpNode node
      parseDerpNodes (nodes ++ parsed.toList) rest

/-- A region without an ID takes its key for it. -/
def regionIdOf (regionId : Int32) (key : Bytes) : Int32 :=
  if regionId ≠ 0 then regionId
  else match fromCharsUnsigned key with
    | some (parsed, []) => if 0 < parsed ∧ parsed ≤ 2147483647 then Int32.ofNat parsed else 0
    | _ => 0

/-- `none` is a region that is skipped. -/
def parseDerpRegion (key : Bytes) (region : Json) : Except Fault (Option DerpRegion) :=
  if region.isObject = false then .ok none
  else do
    let declared ← region.value getInt 0 "RegionID"
    if regionIdOf declared key ≤ 0 then .ok none
    else do
      let regionCode ← region.value getString [] "RegionCode"
      let nodes ← parseDerpNodes [] ((region.arrayAt "Nodes").getD [])
      .ok (if nodes = [] then none else some ⟨regionIdOf declared key, regionCode, nodes⟩)

/-- The loop over the regions. -/
def parseDerpRegions : List (Bytes × Json) → Except Fault (List DerpRegion)
  | [] => .ok []
  | (key, region) :: rest => do
    let parsed ← parseDerpRegion key region
    let more ← parseDerpRegions rest
    .ok (parsed.toList ++ more)

/-- A section without regions is refused like a malformed one, but with no error. -/
def parseDerpMap (root : Json) : Except Fault (List DerpRegion) :=
  match root.find "DERPMap" with
  | none | some .null => .error (.rejected none)
  | some (.object members) =>
    match Json.find "Regions" (.object members) with
    | none | some .null => .error (.rejected none)
    | some (.object regions) =>
      if kMaxDerpRegions < regions.length then reject "netmap DERP region limit exceeded"
      else parseDerpRegions regions
    | some _ => reject "netmap DERPMap.Regions is not an object"
  | some _ => reject "netmap DERPMap is not an object"

/-! ## decode -/

def localAddressFromNode (root : Json) : Bytes :=
  match root.find "Node" with
  | none => []
  | some node =>
    let addresses := (strings ((node.arrayAt "Addresses").getD [])).map stripPrefix
    (addresses.find? isLiteralIPv4).getD []

/-- The loop over `Peers` and over `PeersChanged`. -/
def parsePeers : List Json → StableIds → Except Fault (List Peer × StableIds)
  | [], idMap => .ok ([], idMap)
  | node :: nodes, idMap => do
    let first ← parsePeer node idMap
    let rest ← parsePeers nodes first.2
    .ok (first.1 :: rest.1, rest.2)

/-- The loop over `PeersRemoved`. -/
def removePeers : List Json → StableIds → List Bytes × StableIds
  | [], idMap => ([], idMap)
  | .unsigned nodeId :: values, idMap =>
    match idMap.lookup nodeId with
    | none => removePeers values idMap
    | some stableId =>
      let rest := removePeers values (idMap.erase nodeId)
      (stableId :: rest.1, rest.2)
  | _ :: values, idMap => removePeers values idMap

/-- One item of `PeersChangedPatch`. -/
def onlineChange (idMap : StableIds) (patch : Json) : Option PeerOnlineChange :=
  match patch.find "NodeID", patch.find "Online" with
  | some (.unsigned nodeId), some (.boolean online) =>
    (idMap.lookup nodeId).map fun stableId => ⟨stableId, online⟩
  | _, _ => none

def decodeDerpMap (root : Json) : Except Fault (Option (List DerpRegion)) :=
  match root.find "DERPMap" with
  | none | some .null => .ok none
  | some _ => (parseDerpMap root).map some

def decodePeers (root : Json) (idMap : StableIds) :
    Except Fault (Option (List Peer) × StableIds) :=
  match root.arrayAt "Peers" with
  | none => .ok (none, idMap)
  | some peers =>
    if kMaxPeers < peers.length then reject "netmap peer limit exceeded"
    else (parsePeers peers ∅).map fun full => (some full.1, full.2)

def decodeChanged (root : Json) (idMap : StableIds) : Except Fault (List Peer × StableIds) :=
  let changed := (root.arrayAt "PeersChanged").getD []
  if kMaxPeers < changed.length then reject "netmap peer delta limit exceeded"
  else parsePeers changed idMap

def decodeRemoved (root : Json) (idMap : StableIds) : Except Fault (List Bytes × StableIds) :=
  let removed := (root.arrayAt "PeersRemoved").getD []
  if kMaxPeers < removed.length then reject "netmap peer removal limit exceeded"
  else .ok (removePeers removed idMap)

def decodePatches (root : Json) (idMap : StableIds) : Except Fault (List PeerOnlineChange) :=
  let patches := (root.arrayAt "PeersChangedPatch").getD []
  if kMaxPeers < patches.length then reject "netmap peer patch limit exceeded"
  else .ok (patches.filterMap (onlineChange idMap))

/-- The update that a parsed frame carries, and the IDs to be committed with it. -/
def decodeRoot (stableIdsByNodeId : StableIds) (root : Json) :
    Except Fault (MapUpdate × StableIds) := do
  let keepAlive ← root.value getBoolean false "KeepAlive"
  if keepAlive then .ok ({ keepAlive := true }, stableIdsByNodeId)
  else do
    let derpMap ← decodeDerpMap root
    let full ← decodePeers root stableIdsByNodeId
    let changed ← decodeChanged root full.2
    let removed ← decodeRemoved root changed.2
    let onlineChanges ← decodePatches root removed.2
    .ok ({ localAddress := localAddressFromNode root
           fullPeers := full.1
           delta := ⟨changed.1, removed.1, onlineChanges⟩
           derpMap := derpMap }, removed.2)

/-- `8 * 1024 * 1024`. -/
def MapFrameDecoder.kMaxFrameSize : ℕ := 8388608

/-- How a call of `decode` ends. -/
inductive Decoded
  | returned (update : MapUpdate)
  | failed (error : Option Bytes)
  | threw

/-- `parse` is `Json::parse` without exceptions, `none` where it discards. -/
def decodeText (parse : Bytes → Option Json) (stableIdsByNodeId : StableIds) (json : Bytes) :
    Except Fault (MapUpdate × StableIds) :=
  if MapFrameDecoder.kMaxFrameSize < json.length then reject "netmap JSON is oversized"
  else match parse json with
    | some (.object members) => decodeRoot stableIdsByNodeId (.object members)
    | _ => reject "invalid netmap JSON"

/-- The IDs are committed only when everything else has gone well. -/
def commit (stableIdsByNodeId : StableIds) :
    Except Fault (MapUpdate × StableIds) → Decoded × StableIds
  | .ok (update, nextIdMap) => (.returned update, nextIdMap)
  | .error (.rejected error) => (.failed error, stableIdsByNodeId)
  | .error .typeError => (.threw, stableIdsByNodeId)

def decode (parse : Bytes → Option Json) (stableIdsByNodeId : StableIds) (json : Bytes) :
    Decoded × StableIds :=
  commit stableIdsByNodeId (decodeText parse stableIdsByNodeId json)

/-! ## MapFrameDecoder -/

namespace MapFrameDecoder
open Framing

def writeLittleEndian32 (value : ℕ) : Bytes :=
  [UInt8.ofNat value, UInt8.ofNat (value / 256), UInt8.ofNat (value / 65536),
    UInt8.ofNat (value / 16777216)]

def readLittleEndian32 : Bytes → ℕ
  | a :: b :: c :: d :: _ =>
    a.toNat + b.toNat * 256 + c.toNat * 65536 + d.toNat * 16777216
  | _ => 0

/-- `none` is the refusal, after which the buffer is empty. -/
def append (buffer bytes : Bytes) : Option Bytes :=
  if kMaxFrameSize + 4 < bytes.length ∨ kMaxFrameSize + 4 - bytes.length < buffer.length then none
  else some (buffer ++ bytes)

/-- What `take` returns, the error it sets and the buffer it leaves. -/
structure Taken where
  json : Option Bytes
  error : Option String
  buffer : Bytes
  deriving DecidableEq, Repr

def take (buffer : Bytes) : Taken :=
  if buffer.length < 4 then ⟨none, none, buffer⟩
  else
    let size := readLittleEndian32 buffer
    if kMaxFrameSize < size then ⟨none, some "netmap frame is oversized", []⟩
    else if buffer.length < size + 4 then ⟨none, none, buffer⟩
    else ⟨some ((buffer.drop 4).take size), none, buffer.drop (4 + size)⟩

def format : Format UInt8 where
  header := 4
  limit := kMaxFrameSize
  declared := readLittleEndian32
  header_pos := by decide
  declared_append b c h := by
    match b, h with
    | _ :: _ :: _ :: _ :: _, _ => rfl

/-- `take` is one scan of the buffer. -/
theorem take_eq_scan (b : Bytes) :
    take b = match format.scan b with
      | .short => ⟨none, none, b⟩
      | .oversized => ⟨none, some "netmap frame is oversized", []⟩
      | .frame u r => ⟨some (u.drop 4), none, r⟩ := by
  rw [take]
  split_ifs with hheader
  · rw [scan_of_length_lt (F := format) hheader]
  · have hs : format.scan b = if kMaxFrameSize < readLittleEndian32 b then .oversized
        else if b.length < 4 + readLittleEndian32 b then .short
        else .frame (b.take (4 + readLittleEndian32 b)) (b.drop (4 + readLittleEndian32 b)) :=
      scan_of_header (Nat.not_lt.mp hheader) rfl
    rw [hs, Nat.add_comm 4]
    simp only
    split_ifs with hlimit hlength
    · rfl
    · rfl
    · have hdrop : (b.take (readLittleEndian32 b + 4)).drop 4 =
          (b.drop 4).take (readLittleEndian32 b) := by
        rw [List.drop_take, Nat.add_sub_cancel]
      simp only [hdrop, Nat.add_comm 4]

/-- A text as it goes on the map stream. -/
def encoded (json : Bytes) : Bytes := writeLittleEndian32 json.length ++ json

lemma length_encoded (json : Bytes) : (encoded json).length = 4 + json.length := by
  simp [encoded, writeLittleEndian32]
  omega

lemma drop_encoded (json : Bytes) : (encoded json).drop 4 = json := by
  simp [encoded, writeLittleEndian32]

lemma encoded_isFrame {json : Bytes} (h : json.length ≤ kMaxFrameSize) :
    format.IsFrame (encoded json) := by
  have hdeclared : format.declared (encoded json) = json.length := by
    unfold kMaxFrameSize at h
    simp only [format, encoded, writeLittleEndian32, List.cons_append, readLittleEndian32,
      UInt8.toNat_ofNat']
    omega
  constructor
  · rw [hdeclared, length_encoded]
    rfl
  · rw [hdeclared]
    exact h

end MapFrameDecoder

end ArtemisSwitch.Netmap

import ArtemisSwitch.ControlCodec
import ArtemisSwitch.Library.Fallible

/-!
# The packet path behind a route

`IWgxBackend` is what `TailscaleWgxRoute` asks of a backend.  `RealWgxBackend` keeps a
WireGuard context, one loopback relay and one DERP session; what its libraries answer
during a call is a parameter.
-/

namespace ArtemisSwitch.Wgx
open Netmap Fallible

def kTailscaleTcpPorts : List UInt16 := [47989, 47984, 48010]

def kTailscaleUdpPorts : List UInt16 := [47998, 48000, 47999, 48002, 48010]

/-- What a backend is told of a direct path; the two callbacks are left out. -/
structure DirectPathConfig where
  peerStableId : Bytes
  peerNodeKey : Key32
  peerDiscoKey : Key32
  peerEndpoints : List Bytes
  localNodePrivate : Key32
  localDiscoPrivate : Key32
  derpMap : List DerpRegion
  derpRegion : Int32
  deriving DecidableEq, Repr

/-- The virtual functions of a backend whose state is a `β`. -/
structure IWgxBackend (β : Type) where
  startTunnel (privateKey : Key32) (localIp : Bytes) : EStateM Bytes β Unit
  addOrUpdatePeer (peerId : UInt32) (publicKey : Key32) (peerIp : Bytes) : EStateM Bytes β Unit
  startTcpProxy (peerIp hostIp : Bytes) (ports : List UInt16) : EStateM Bytes β Unit
  startUdpRelay (peerIp : Bytes) (ports : List UInt16) : EStateM Bytes β Unit
  ensureDerpRoute (peerNodeKey : Key32) (homeDerpRegion : Int32) (derpMap : List DerpRegion)
    (localPrivateKey : Key32) : EStateM Bytes β Unit
  stop : β → β
  isRunning : β → Bool
  startDirectPath (config : DirectPathConfig) : β → β

def allZero (key : Key32) : Bool := key.val.all (· = 0)

/-- `inet_pton` for `AF_INET`. -/
def inetPton (text : Bytes) : Option ℕ := parseIPv4Value text

/-- What the libraries answer in one call.  `none` from `dial` is a DERP session, anything
else the error of that attempt; `readerEnds` says that the session ends before the call does. -/
structure Libraries where
  create : Bool := true
  addOrUpdatePeer : Bool := true
  start : Bool := true
  connectPeer : ℤ := 0
  relayCreate : Bool := true
  relayStart : Bool := true
  relayAddTcp : UInt16 → Bool := fun _ => true
  relayAddUdp : UInt16 → Bool := fun _ => true
  relayIsRunning : Bool := true
  dial : ℕ → DerpNode → Option Bytes := fun _ _ => none
  readerEnds : Bool := false
  directSocket : Bool := true

/-! ## The relay -/

/-- A relay keeps its ports until it is destroyed. -/
structure WgxRelay where
  hostIp : Bytes
  viaPeerIp : Bytes
  tcpPorts : List UInt16 := []
  udpPorts : List UInt16 := []
  deriving DecidableEq, Repr

namespace WgxRelay

def addTcp (lib : Libraries) : List UInt16 → EStateM Bytes WgxRelay Unit
  | [] => pure ()
  | port :: ports => fun relay =>
    if port ∈ relay.tcpPorts then addTcp lib ports relay
    else if lib.relayAddTcp port then
      addTcp lib ports { relay with tcpPorts := port :: relay.tcpPorts }
    else .error (ascii "Failed to start TCP relay port " ++ ascii (toString port.toNat)) relay

def addUdp (lib : Libraries) : List UInt16 → EStateM Bytes WgxRelay Unit
  | [] => pure ()
  | port :: ports => fun relay =>
    if port ∈ relay.udpPorts then addUdp lib ports relay
    else if lib.relayAddUdp port then
      addUdp lib ports { relay with udpPorts := port :: relay.udpPorts }
    else .error (ascii "Failed to start UDP relay port " ++ ascii (toString port.toNat)) relay

end WgxRelay

/-! ## RealWgxBackend -/

/-- `context` and `derp` say whether the pointers hold something. -/
structure RealWgxBackend where
  context : Bool := false
  relay : Option WgxRelay := none
  activePeerId : UInt32 := 0
  tunnelCreated : Bool := false
  localIp : Bytes := []
  activePeerIp : Bytes := []
  running : Bool := false
  udpPrepared : Bool := false
  derp : Bool := false
  derpAlive : Bool := false
  peerNodeKey : Key32 := Key32.copyFrom []
  havePeer : Bool := false
  directConfig : Option DirectPathConfig := none
  deriving DecidableEq, Repr

namespace RealWgxBackend

def isRunning (b : RealWgxBackend) : Bool := b.tunnelCreated && b.context

def stopDirectPath (b : RealWgxBackend) : RealWgxBackend := { b with directConfig := none }

def stopDerp (b : RealWgxBackend) : RealWgxBackend :=
  { b with derp := false, derpAlive := false, havePeer := false }

def stop (b : RealWgxBackend) : RealWgxBackend :=
  { b.stopDirectPath.stopDerp with
    running := false, relay := none, context := false, tunnelCreated := false, localIp := []
    activePeerIp := [], activePeerId := 0, udpPrepared := false }

/-- The end of `derpReader`, when its session ends. -/
def derpReaderEnds (b : RealWgxBackend) : RealWgxBackend := { b with derpAlive := false }

def startTunnel (lib : Libraries) (_ : Key32) (localIp : Bytes) :
    EStateM Bytes RealWgxBackend Unit := fun b =>
  let b := b.stop
  if inetPton localIp = none then .error (ascii "Invalid local IPv4 for wgx: " ++ localIp) b
  else if lib.create = false then .error (ascii "wgx_create failed") b
  else .ok () { b with context := true, localIp := localIp, tunnelCreated := true }

/-- The peer is published before the handshake, which may take all its retries. -/
def addOrUpdatePeer (lib : Libraries) (peerId : UInt32) (_ : Key32) (peerIp : Bytes) :
    EStateM Bytes RealWgxBackend Unit := fun b =>
  if b.context = false ∨ b.tunnelCreated = false then .error (ascii "wgx tunnel is not created") b
  else if inetPton peerIp = none then .error (ascii "Invalid peer IPv4: " ++ peerIp) b
  else if lib.addOrUpdatePeer = false then .error (ascii "wgx_add_or_update_peer failed") b
  else
    let b := { b with activePeerId := peerId, activePeerIp := peerIp }
    if b.running = false ∧ lib.start = false then .error (ascii "wgx_start failed") b
    else
      let b := { b with running := true }
      if lib.connectPeer ≠ 0 then
        .error (ascii "WireGuard handshake with peer timed out over DERP (rc=" ++
          ascii (toString lib.connectPeer) ++ ascii ")") b
      else .ok () b

def kMaxFallbackRegions : ℕ := 6

/-- The home region first, then the others of the map in its order. -/
def candidateRegions (homeDerpRegion : Int32) (derpMap : List DerpRegion) : List DerpRegion :=
  let region := derpMap.find? (·.regionId = homeDerpRegion)
  let home := region.toList.filter (·.nodes ≠ [])
  let others := derpMap.filter fun candidate =>
    region.map DerpRegion.regionId ≠ some candidate.regionId ∧ candidate.nodes ≠ []
  home ++ others.take (kMaxFallbackRegions - home.length)

/-- Dials the nodes in turn and returns the last error if none of them answers. -/
def dialNodes (lib : Libraries) : ℕ → Bytes → List DerpNode → Option Bytes
  | _, lastError, [] => some lastError
  | attempt, _, node :: nodes =>
    match lib.dial attempt node with
    | none => none
    | some lastError => dialNodes lib (attempt + 1) lastError nodes

def ensureDerpRoute (lib : Libraries) (peerNodeKey : Key32) (homeDerpRegion : Int32)
    (derpMap : List DerpRegion) (localPrivateKey : Key32) :
    EStateM Bytes RealWgxBackend Unit := fun b =>
  let regions := candidateRegions homeDerpRegion derpMap
  if allZero peerNodeKey then .error (ascii "DERP route requires a valid peer node key") b
  else if allZero localPrivateKey then
    .error (ascii "DERP route requires the local node identity (key is all zero)") b
  else if homeDerpRegion ≤ 0 then
    .error (ascii "peer has no home DERP region; the control-plane netmap is incomplete") b
  else if regions = [] then
    .error (ascii "DERP region " ++ ascii (toString homeDerpRegion.toInt) ++
      ascii (" is missing from the control-plane map and no fallback region has nodes; " ++
        "cannot relay")) b
  else if b.derpAlive ∧ b.derp ∧ b.havePeer ∧ b.peerNodeKey = peerNodeKey then
    .ok () (if lib.readerEnds then b.derpReaderEnds else b)
  else
    let b := b.stopDerp
    match dialNodes lib 0 (ascii "no DERP node attempted") (regions.flatMap DerpRegion.nodes) with
    | some lastError =>
      .error (ascii "DERP regions unreachable (" ++ ascii (toString regions.length) ++
        ascii " tried): " ++ lastError) b
    | none =>
      let b := { b with
        derp := true, peerNodeKey := peerNodeKey, havePeer := true, derpAlive := true }
      .ok () (if lib.readerEnds then b.derpReaderEnds else b)

def startTcpProxy (lib : Libraries) (peerIp hostIp : Bytes) (ports : List UInt16) :
    EStateM Bytes RealWgxBackend Unit := fun b =>
  if b.context = false ∨ b.running = false then .error (ascii "wgx tunnel is not running") b
  else
    let b := { b with relay := none }
    if lib.relayCreate = false then .error (ascii "wgx_relay_create failed") b
    else if lib.relayStart = false then .error (ascii "LwipRelay start failed for " ++ hostIp) b
    else
      match WgxRelay.addTcp lib ports { hostIp := hostIp, viaPeerIp := peerIp } with
      | .error error _ => .error error b
      | .ok _ relay => .ok () { b with relay := some relay, activePeerIp := peerIp }

def startUdpRelay (lib : Libraries) (_ : Bytes) (ports : List UInt16) :
    EStateM Bytes RealWgxBackend Unit := fun b =>
  match b.relay with
  | none => .error (ascii "Cannot start UDP relays: TCP proxy is not running") b
  | some relay =>
    if lib.relayIsRunning = false then
      .error (ascii "Cannot start UDP relays: TCP proxy is not running") b
    else if b.udpPrepared then .ok () b
    else
      match WgxRelay.addUdp lib ports relay with
      | .error error relay => .error error { b with relay := some relay }
      | .ok _ relay => .ok () { b with relay := some relay, udpPrepared := true }

/-- Without a socket, or with direct connections switched off, everything stays on DERP. -/
def startDirectPath (lib : Libraries) (config : DirectPathConfig) (b : RealWgxBackend) :
    RealWgxBackend :=
  if lib.directSocket then { b with directConfig := some config } else b.stopDirectPath

def api (lib : Libraries) : IWgxBackend RealWgxBackend where
  startTunnel := startTunnel lib
  addOrUpdatePeer := addOrUpdatePeer lib
  startTcpProxy := startTcpProxy lib
  startUdpRelay := startUdpRelay lib
  ensureDerpRoute := ensureDerpRoute lib
  stop := stop
  isRunning := isRunning
  startDirectPath := startDirectPath lib

/-! ## What a call leaves alone -/

/-- The part that prepares streaming. -/
def media (b : RealWgxBackend) : Option WgxRelay × Bool × Bool :=
  (b.relay, b.udpPrepared, b.isRunning)

/-- The part that talks to DERP. -/
def session (b : RealWgxBackend) : Bool × Bool × Bool × Key32 :=
  (b.derp, b.derpAlive, b.havePeer, b.peerNodeKey)

variable {lib : Libraries} {b t : RealWgxBackend} {key privateKey : Key32} {e ip hostIp : Bytes}
variable {region : Int32} {derpMap : List DerpRegion} {ports : List UInt16} {peerId : UInt32}

/-- A tunnel starts from nothing. -/
lemma media_startTunnel (b : RealWgxBackend) : (final (startTunnel lib key ip b)).relay = none ∧
    (final (startTunnel lib key ip b)).udpPrepared = false := by
  unfold startTunnel
  simp only
  split_ifs <;> exact ⟨rfl, rfl⟩

variable {m : Option WgxRelay × Bool × Bool} {d : Bool × Bool × Bool × Key32}

lemma keeps_media_ensureDerpRoute :
    Keeps (fun t => t.media = m) (ensureDerpRoute lib key region derpMap privateKey) := by
  rintro b rfl
  unfold ensureDerpRoute
  simp only
  split_ifs <;> try rfl
  all_goals
    split <;> rfl

lemma keeps_media_addOrUpdatePeer :
    Keeps (fun t => t.media = m) (addOrUpdatePeer lib peerId key ip) := by
  rintro b rfl
  unfold addOrUpdatePeer
  simp only
  split_ifs <;> rfl

lemma keeps_session_addOrUpdatePeer :
    Keeps (fun t => t.session = d) (addOrUpdatePeer lib peerId key ip) := by
  rintro b rfl
  unfold addOrUpdatePeer
  simp only
  split_ifs <;> rfl

lemma keeps_session_startTcpProxy :
    Keeps (fun t => t.session = d) (startTcpProxy lib ip hostIp ports) := by
  rintro b rfl
  unfold startTcpProxy
  simp only
  split_ifs <;> try rfl
  split <;> rfl

lemma keeps_session_startUdpRelay :
    Keeps (fun t => t.session = d) (startUdpRelay lib ip ports) := by
  rintro b rfl
  unfold startUdpRelay
  split
  · rfl
  · split_ifs <;> try rfl
    split <;> rfl

/-! ## What a call does -/

/-- A route that can be relayed has a session for its peer, unless the session has ended. -/
lemma ensureDerpRoute_ok (h : ensureDerpRoute lib key region derpMap privateKey b = .ok () t) :
    t.session = (true, !lib.readerEnds, true, key) := by
  unfold ensureDerpRoute at h
  simp only at h
  split_ifs at h with _ _ _ _ hlive
  · obtain ⟨halive, hderp, hpeer, hkey⟩ := hlive
    cases h
    simp [session, derpReaderEnds, *]
  · cases h
    simp [session, *]
  · split at h
    · cases h
    · cases h
      simp [session, derpReaderEnds, *]
  · split at h
    · cases h
    · cases h
      simp [session, *]

lemma addTcp_ok {relay next : WgxRelay} (h : WgxRelay.addTcp lib ports relay = .ok () next) :
    next.hostIp = relay.hostIp ∧ next.udpPorts = relay.udpPorts ∧
      relay.tcpPorts ⊆ next.tcpPorts ∧ ∀ port ∈ ports, port ∈ next.tcpPorts := by
  induction ports generalizing relay with
  | nil =>
    cases h
    exact ⟨rfl, rfl, List.Subset.refl _, nofun⟩
  | cons port ports ih =>
    simp only [WgxRelay.addTcp] at h
    split_ifs at h with hin
    · obtain ⟨hhost, hudp, hkept, hadded⟩ := ih h
      exact ⟨hhost, hudp, hkept, List.forall_mem_cons.mpr ⟨hkept hin, hadded⟩⟩
    · obtain ⟨hhost, hudp, hkept, hadded⟩ := ih h
      have hport := hkept (List.mem_cons_self ..)
      exact ⟨hhost, hudp, fun p hp => hkept (List.mem_cons_of_mem _ hp),
        List.forall_mem_cons.mpr ⟨hport, hadded⟩⟩

/-- A proxy that starts is a new relay with its TCP ports and without UDP ports. -/
lemma startTcpProxy_ok (h : startTcpProxy lib ip hostIp ports b = .ok () t) :
    t.udpPrepared = b.udpPrepared ∧ t.isRunning = b.isRunning ∧
      ∃ relay, t.relay = some relay ∧ relay.hostIp = hostIp ∧ relay.udpPorts = [] ∧
        ∀ port ∈ ports, port ∈ relay.tcpPorts := by
  unfold startTcpProxy at h
  simp only at h
  split_ifs at h
  split at h
  · cases h
  · rename_i relay hadd
    cases h
    obtain ⟨hhost, hudp, -, htcp⟩ := addTcp_ok hadd
    exact ⟨rfl, rfl, relay, rfl, hhost, hudp, htcp⟩

/-- A proxy that does not start leaves the relay as it was, or none. -/
lemma startTcpProxy_error (h : startTcpProxy lib ip hostIp ports b = .error e t) :
    t.udpPrepared = b.udpPrepared ∧ t.isRunning = b.isRunning ∧
      (t.relay = none ∨ t.relay = b.relay) := by
  unfold startTcpProxy at h
  simp only at h
  split_ifs at h
  · cases h
    exact ⟨rfl, rfl, Or.inr rfl⟩
  · cases h
    exact ⟨rfl, rfl, Or.inl rfl⟩
  · cases h
    exact ⟨rfl, rfl, Or.inl rfl⟩
  · split at h
    · cases h
      exact ⟨rfl, rfl, Or.inl rfl⟩
    · cases h

lemma addUdp_final (relay : WgxRelay) :
    (final (WgxRelay.addUdp lib ports relay)).hostIp = relay.hostIp ∧
      (final (WgxRelay.addUdp lib ports relay)).tcpPorts = relay.tcpPorts ∧
      relay.udpPorts ⊆ (final (WgxRelay.addUdp lib ports relay)).udpPorts := by
  induction ports generalizing relay with
  | nil => exact ⟨rfl, rfl, List.Subset.refl _⟩
  | cons port ports ih =>
    simp only [WgxRelay.addUdp]
    split_ifs
    · exact ih relay
    · obtain ⟨hhost, htcp, hsub⟩ := ih { relay with udpPorts := port :: relay.udpPorts }
      exact ⟨hhost, htcp, fun p hp => hsub (List.mem_cons_of_mem _ hp)⟩
    · exact ⟨rfl, rfl, List.Subset.refl _⟩

/-- Adding stops at the first port that the relay neither has nor can get. -/
lemma addUdp_succeeds (relay : WgxRelay) : succeeds (WgxRelay.addUdp lib ports relay) = true ↔
    ∀ port ∈ ports, port ∈ relay.udpPorts ∨ lib.relayAddUdp port = true := by
  induction ports generalizing relay with
  | nil => exact ⟨fun _ => nofun, fun _ => rfl⟩
  | cons port ports ih =>
    simp only [WgxRelay.addUdp, List.forall_mem_cons]
    split_ifs with hin hadd
    · rw [ih]
      exact ⟨fun h => ⟨Or.inl hin, h⟩, And.right⟩
    · rw [ih]
      constructor
      · intro h
        refine ⟨Or.inr hadd, fun p hp => ?_⟩
        rcases h p hp with hp | hp
        · rcases List.mem_cons.mp hp with rfl | hp
          · exact Or.inr hadd
          · exact Or.inl hp
        · exact Or.inr hp
      · rintro ⟨-, h⟩ p hp
        exact (h p hp).imp_left (List.mem_cons_of_mem _)
    · constructor
      · intro h
        cases h
      · rintro ⟨h | h, -⟩
        · exact absurd h hin
        · exact absurd h hadd

lemma addUdp_ok {relay next : WgxRelay} (h : WgxRelay.addUdp lib ports relay = .ok () next) :
    ∀ port ∈ ports, port ∈ next.udpPorts := by
  induction ports generalizing relay with
  | nil => exact nofun
  | cons port ports ih =>
    simp only [WgxRelay.addUdp] at h
    have hrest (relay : WgxRelay) (hin : port ∈ relay.udpPorts)
        (h : WgxRelay.addUdp lib ports relay = .ok () next) :
        ∀ p ∈ port :: ports, p ∈ next.udpPorts := by
      have hsub := (@addUdp_final lib ports relay).2.2
      rw [h] at hsub
      exact List.forall_mem_cons.mpr ⟨hsub hin, ih h⟩
    split_ifs at h with hin
    · exact hrest relay hin h
    · exact hrest _ (List.mem_cons_self ..) h

/-- UDP ports are added to the relay that is there, unless they count as added already. -/
lemma startUdpRelay_ok (h : startUdpRelay lib ip ports b = .ok () t) :
    t.isRunning = b.isRunning ∧ t.udpPrepared = true ∧ ∃ relay next, b.relay = some relay ∧
      t.relay = some next ∧ next.hostIp = relay.hostIp ∧ next.tcpPorts = relay.tcpPorts ∧
      (b.udpPrepared = true ∧ next = relay ∨ ∀ port ∈ ports, port ∈ next.udpPorts) := by
  unfold startUdpRelay at h
  split at h
  · cases h
  · rename_i relay hrelay
    split_ifs at h with _ hprepared
    · cases h
      exact ⟨rfl, hprepared, relay, relay, hrelay, hrelay, rfl, rfl, Or.inl ⟨hprepared, rfl⟩⟩
    · split at h
      · cases h
      · rename_i next hadd
        cases h
        obtain ⟨hhost, htcp, -⟩ := @addUdp_final lib ports relay
        rw [hadd] at hhost htcp
        exact ⟨rfl, rfl, relay, next, hrelay, rfl, hhost, htcp, Or.inr (addUdp_ok hadd)⟩

/-- A relay that refuses a port keeps those that it has. -/
lemma startUdpRelay_error (h : startUdpRelay lib ip ports b = .error e t) :
    t.isRunning = b.isRunning ∧ t.udpPrepared = b.udpPrepared ∧
      (t.relay = b.relay ∨ b.udpPrepared = false ∧ ∃ relay next, b.relay = some relay ∧
        t.relay = some next ∧ next.hostIp = relay.hostIp ∧ next.tcpPorts = relay.tcpPorts) := by
  unfold startUdpRelay at h
  split at h
  · cases h
    exact ⟨rfl, rfl, Or.inl rfl⟩
  · rename_i relay hrelay
    split_ifs at h with _ hprepared
    · cases h
      exact ⟨rfl, rfl, Or.inl rfl⟩
    · split at h
      · rename_i next hadd
        cases h
        obtain ⟨hhost, htcp, -⟩ := @addUdp_final lib ports relay
        rw [hadd] at hhost htcp
        exact ⟨rfl, rfl, Or.inr ⟨by simpa using hprepared, relay, next, hrelay, rfl, hhost, htcp⟩⟩
      · cases h

/-- No relay runs, or it refuses a UDP port that it does not have. -/
def RefusesUdp (lib : Libraries) (ports : List UInt16) (b : RealWgxBackend) : Prop :=
  ∀ relay ∈ b.relay, lib.relayIsRunning = false ∨
    b.udpPrepared = false ∧ ∃ port ∈ ports, port ∉ relay.udpPorts ∧ lib.relayAddUdp port = false

lemma startUdpRelay_succeeds :
    succeeds (startUdpRelay lib ip ports b) = false ↔ RefusesUdp lib ports b := by
  unfold startUdpRelay RefusesUdp
  cases hrelay : b.relay with
  | none => exact ⟨fun _ => nofun, fun _ => rfl⟩
  | some relay =>
    simp only [Option.mem_some_iff, forall_eq']
    split_ifs with hdown hprepared
    · exact ⟨fun _ => Or.inl hdown, fun _ => rfl⟩
    · constructor
      · intro h
        cases h
      · rintro (h | ⟨h, -⟩)
        · exact absurd h hdown
        · exact absurd hprepared (by simp [h])
    · have hadd := @addUdp_succeeds lib ports relay
      cases hr : WgxRelay.addUdp lib ports relay with
      | ok _ next =>
        have hall := hadd.mp (by rw [hr]; rfl)
        constructor
        · intro h
          cases h
        · rintro (h | ⟨-, port, hport, hnew, hfails⟩)
          · exact absurd h hdown
          · rcases hall port hport with h | h
            · exact absurd h hnew
            · exact absurd h (by simp [hfails])
      | error error next =>
        have hsome : ¬∀ port ∈ ports, port ∈ relay.udpPorts ∨ lib.relayAddUdp port = true := by
          rw [← hadd, hr]
          exact Bool.false_ne_true
        simp only [not_forall, not_or, Bool.not_eq_true] at hsome
        obtain ⟨port, hport, hnew, hfails⟩ := hsome
        exact ⟨fun _ => Or.inr ⟨by simpa using hprepared, port, hport, hnew, hfails⟩, fun _ => rfl⟩

end RealWgxBackend
end ArtemisSwitch.Wgx

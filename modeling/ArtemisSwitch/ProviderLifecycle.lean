import ArtemisSwitch.ControlCodec
import ArtemisSwitch.CoreRoutes
import ArtemisSwitch.Library.Brackets
import ArtemisSwitch.NetBirdProvider
import ArtemisSwitch.WireGuardRenderings
import ArtemisSwitch.WireGuardTunnel

/-!
# The remote access providers

The three providers behind `IRemoteAccessProvider`: what each opens when it starts and
closes when it stops, and what the calls for a route do in between.
-/

namespace ArtemisSwitch.RemoteAccess.Providers
open Brackets

inductive RemoteAccessProviderId
  | off
  | wireGuard
  | netBird
  | tailscale
  deriving DecidableEq, Repr

def remoteAccessProviderRuntimeId : RemoteAccessProviderId → Bytes
  | .wireGuard => ascii "wireguard"
  | .netBird => ascii "netbird"
  | .tailscale => ascii "tailscale"
  | .off => []

/-- What a call answers, what it leaves, and what it opens and closes on the way. -/
structure Outcome (ρ σ α : Type) where
  answer : α
  state : σ
  trace : List (Event ρ) := []

/-- The calls of the manager.  `ω` is what the settings and the libraries answer during a
call; `proceeds` is what a provider's own threads do between two calls. -/
structure IRemoteAccessProvider (ρ ω σ : Type) where
  available : Bool
  start : ω → σ → Outcome ρ σ Bool
  stop : ω → σ → Outcome ρ σ Unit
  status : σ → Bytes
  activateRoute : ω → RemoteRouteTarget → σ → Outcome ρ σ Bool
  prepareRouteForStreaming : ω → RemoteRouteTarget → σ → Outcome ρ σ Bool
  deactivateRoute : ω → RemoteRouteTarget → σ → Outcome ρ σ Unit
  proceeds : ω → σ → σ

section Contract

variable {ρ ω σ α : Type} [DecidableEq ρ]

/-- The trace leads from what was held to what is held. -/
structure Keeps (Sound : σ → Prop) (resources : σ → List ρ) (s : σ) (out : Outcome ρ σ α) :
    Prop where
  sound : Sound out.state
  traced : heldFrom (resources s) out.trace = some (resources out.state)

/-- What holds of a provider that opens its network in `start` and closes it in `stop`. -/
structure Contract (p : IRemoteAccessProvider ρ ω σ) where
  Sound : σ → Prop
  Up : σ → Prop
  resources : σ → List ρ
  down : ∀ {s}, Sound s → ¬Up s → resources s = []
  start : ∀ o {s}, Sound s → ¬Up s → Keeps Sound resources s (p.start o s) ∧
    (Up (p.start o s).state ↔ (p.start o s).answer = true)
  stop : ∀ o {s}, Sound s → Keeps Sound resources s (p.stop o s) ∧ ¬Up (p.stop o s).state
  activateRoute : ∀ o target {s}, Sound s →
    Keeps Sound resources s (p.activateRoute o target s) ∧
      (Up (p.activateRoute o target s).state ↔ Up s)
  prepareRouteForStreaming : ∀ o target {s}, Sound s →
    Keeps Sound resources s (p.prepareRouteForStreaming o target s) ∧
      (Up (p.prepareRouteForStreaming o target s).state ↔ Up s)
  deactivateRoute : ∀ o target {s}, Sound s →
    Keeps Sound resources s (p.deactivateRoute o target s) ∧
      (Up (p.deactivateRoute o target s).state ↔ Up s)
  proceeds : ∀ o {s}, Sound s → Sound (p.proceeds o s) ∧
    resources (p.proceeds o s) = resources s ∧ (Up (p.proceeds o s) ↔ Up s)

/-- A call that opens and closes nothing. -/
lemma Keeps.quiet {Sound : σ → Prop} {resources : σ → List ρ} {s s' : σ} {answer : α}
    (hsound : Sound s') (h : resources s' = resources s) :
    Keeps Sound resources s { answer := answer, state := s' } := by
  refine ⟨hsound, ?_⟩
  rw [h]
  rfl

end Contract

/-- What is open while a provider runs: of WireGuard the tunnel, its connection and a relay;
of NetBird the library and the thread that polls it; of Tailscale the worker. -/
inductive Resource
  | tunnel
  | connection
  | relay
  | netbird
  | pump
  | worker
  deriving DecidableEq, Repr

abbrev Trace := List (Event Resource)

/-! ## What the settings and the libraries answer -/

/-- What `wg_init` gets.  The library cuts the host to the size of its buffer. -/
structure WgConfig where
  privateKey : Bytes
  peerPublicKey : Bytes
  presharedKey : Option Bytes
  tunnelIp : ℕ
  endpointHost : Bytes
  endpointPort : UInt16
  keepaliveInterval : UInt16

/-- The text of the configuration file and the answers of wg-nx. -/
structure WireGuardAnswers where
  text : Bytes := []
  isRealBackend : Bool := true
  keyFromBase64 : Bytes → Option Bytes := some
  init : WgConfig → Bool := fun _ => true
  tunnel : WireGuard.Answers := {}

/-- The settings of NetBird and the answers of its library; `pumped` is what the pump has
read before the first scan for peers. -/
structure NetBirdAnswers where
  server : Bytes := []
  setupKey : Bytes := []
  initResult : ℤ := 0
  initError : Bytes := []
  ip : Option Bytes := none
  isReady : Bool := true
  pumped : Bool := true
  sync : NetBird.PeerSync := { peerCount := 0, peer := fun _ => none, identity := fun _ => none }
  proxyResult : ℤ := 0
  udpResult : ℤ := 0

/-- What the worker and the backend of the core do between two calls. -/
inductive CoreEvent (ω : Type)
  | identified (identity : StateStore.Identity)
  | replacePeers (peers : List Netmap.Peer) (localAddress : Bytes)
  | applyPeerDelta (delta : Netmap.PeerDelta)
  | updateDerpMap (regions : List Netmap.DerpRegion)
  | background (answers : ω)

/-- The settings of Tailscale, what `loadAuthKeyFile` and `fetchControlPublicKey` answer, and
the libraries under the route. -/
structure TailscaleAnswers (ω : Type) where
  authKeyFile : Except Bytes Bytes := .error []
  controlHost : Bytes := []
  controlPublicKey : Bytes := []
  fetched : Except Bytes Netmap.Key32 := .error []
  libraries : ω
  happens : CoreEvent ω

structure Outside (ω : Type) where
  selected : RemoteAccessProviderId
  wireguard : WireGuardAnswers := {}
  netbird : NetBirdAnswers := {}
  tailscale : TailscaleAnswers ω

/-! ## WireGuard -/

section WireGuard
open WireGuard (WgNxTunnel Config Problem parseConf validate addressHostPart)
open HostAddress HostStore DecimalText VpnConfig SplitLoops

/-- The number at the start of a text, after blanks. -/
def strtol (text : Bytes) : ℤ :=
  let (negative, digits) := splitSign (text.dropWhile isspace)
  signed negative (digitsValue (digits.takeWhile isdigit))

/-- `host:port`; a literal of IPv6 in brackets is refused. -/
def splitEndpoint (endpoint : Bytes) : Option (Bytes × UInt16) :=
  if endpoint = [] ∨ endpoint.head? = some 91 then none
  else
    match rfind endpoint colon with
    | none => none
    | some place =>
      if place = 0 ∨ endpoint.length ≤ place + 1 then none
      else
        let parsed := strtol (endpoint.drop (place + 1))
        if parsed ≤ 0 ∨ 65535 < parsed then none
        else some (endpoint.take place, UInt16.ofNat parsed.toNat)

/-- `wg_nx_tunnel_create` up to `wg_init`. -/
def wgConfig (answers : WireGuardAnswers) (config : Config) : Option WgConfig :=
  if validate config ≠ .none then none
  else
    match config.peers with
    | [] => none
    | peer :: _ => do
      let privateKey ← answers.keyFromBase64 config.privateKey
      let peerPublicKey ← answers.keyFromBase64 peer.publicKey
      let presharedKey ←
        if peer.presharedKey = [] then some none
        else (answers.keyFromBase64 peer.presharedKey).map some
      let tunnelIp ← Wgx.inetPton (addressHostPart config.address)
      let (endpointHost, endpointPort) ← splitEndpoint peer.endpoint
      some
        { privateKey := privateKey
          peerPublicKey := peerPublicKey
          presharedKey := presharedKey
          tunnelIp := tunnelIp
          endpointHost := endpointHost
          endpointPort := endpointPort
          keepaliveInterval := UInt16.ofNat
            (if 0 < peer.persistentKeepalive then peer.persistentKeepalive else 25).toNat }

/-- The secrets are in wg-nx by then. -/
def scrubbed (config : Config) : Config :=
  { config with
    privateKey := []
    peers := config.peers.map fun peer => { peer with presharedKey := [] } }

/-- The text is handed over as a C string. -/
def createTunnel (answers : WireGuardAnswers) (confText : Bytes) : Option WgNxTunnel :=
  let config := parseConf (confText.takeWhile (· ≠ 0))
  match wgConfig answers config with
  | none => none
  | some wg => if answers.init wg then some { config := scrubbed config } else none

/-! What the calls on a tunnel open and close. -/

def clearTrace (t : WgNxTunnel) : Trace := if t.relay.isSome then [.released .relay] else []

/-- A connection that cannot be started is stopped again. -/
def startTrace (answers : WireGuard.Answers) (t : WgNxTunnel) : Trace :=
  if t.running ∨ answers.connect = false then []
  else .acquired .connection :: if answers.start then [] else [.released .connection]

/-- A relay that does not get its ports goes at once. -/
def activateTrace (answers : WireGuard.Answers) (address : Bytes) (t : WgNxTunnel) : Trace :=
  if t.canRoute address = false then []
  else if t.relay.isSome ∧ t.activeTarget = address ∧ answers.isRunning then []
  else
    clearTrace t ++ .acquired .relay ::
      if (t.activateRoute answers address).1 = 0 then [] else [.released .relay]

def deactivateTrace (address : Bytes) (t : WgNxTunnel) : Trace :=
  if t.activeTarget ≠ address then [] else clearTrace t

def stopTrace (t : WgNxTunnel) : Trace :=
  if t.running = false then [] else clearTrace t ++ [.released .connection]

/-- What the stop has left of the relay goes with the object. -/
def destroyTrace (t : WgNxTunnel) : Trace :=
  stopTrace t ++ .released .tunnel :: clearTrace t.stop

inductive Status
  | disabled
  | unavailable
  | stopped
  | starting
  | running
  | error
  deriving DecidableEq, Repr

structure WireGuardManager where
  status : Status := .disabled
  tunnelAddress : Bytes := []
  lastError : Bytes := []
  tunnel : Option WgNxTunnel := none
  deriving DecidableEq, Repr

def problemI18nKey : Problem → Bytes
  | .none => ascii "artemis/settings/wireguard_problem_none"
  | .missingPrivateKey => ascii "artemis/settings/wireguard_problem_missing_private_key"
  | .malformedPrivateKey => ascii "artemis/settings/wireguard_problem_malformed_private_key"
  | .missingAddress => ascii "artemis/settings/wireguard_problem_missing_address"
  | .malformedAddress => ascii "artemis/settings/wireguard_problem_malformed_address"
  | .noPeers => ascii "artemis/settings/wireguard_problem_no_peers"
  | .multiplePeersUnsupported => ascii "artemis/settings/wireguard_problem_multiple_peers"
  | .missingPeerPublicKey => ascii "artemis/settings/wireguard_problem_missing_peer_key"
  | .malformedPeerPublicKey => ascii "artemis/settings/wireguard_problem_malformed_peer_key"
  | .malformedPeerPresharedKey => ascii "artemis/settings/wireguard_problem_malformed_psk"
  | .malformedEndpoint => ascii "artemis/settings/wireguard_problem_malformed_endpoint"
  | .invalidListenPort => ascii "artemis/settings/wireguard_problem_listen_port"
  | .invalidKeepalive => ascii "artemis/settings/wireguard_problem_keepalive"
  | .invalidMtu => ascii "artemis/settings/wireguard_problem_mtu"

namespace WireGuardManager

def disableLocked (m : WireGuardManager) : Outcome Resource WireGuardManager Unit where
  answer := ()
  state := { m with tunnel := none, tunnelAddress := [], lastError := [] }
  trace := m.tunnel.elim [] destroyTrace

def disable (m : WireGuardManager) : Outcome Resource WireGuardManager Unit :=
  let out := m.disableLocked
  { out with state := { out.state with status := .stopped } }

def fail (m : WireGuardManager) (error : Bytes) : WireGuardManager :=
  { m with status := .error, lastError := error }

/-- The second half of `enable_from_settings`, for a manager without a tunnel. -/
def openTunnel (answers : WireGuardAnswers) (m : WireGuardManager) :
    Outcome Resource WireGuardManager Bool :=
  match createTunnel answers answers.text with
  | none =>
    { answer := false
      state := m.fail (ascii "artemis/settings/wireguard_error_rejected") }
  | some t =>
    let opened := .acquired .tunnel :: startTrace answers.tunnel t
    let (result, t) := t.start answers.tunnel
    if result ≠ 0 then
      { answer := false
        state := m.fail (ascii "artemis/settings/wireguard_error_start_failed")
        trace := opened ++ destroyTrace t }
    else
      let address := if t.resolvedAddress = [] then t.config.address else t.resolvedAddress
      { answer := true
        state :=
          { status := .running, tunnelAddress := addressHostPart address, lastError := []
            tunnel := some t }
        trace := opened }

def enableFromSettings (answers : WireGuardAnswers) (m : WireGuardManager) :
    Outcome Resource WireGuardManager Bool :=
  let closed := m.disableLocked
  let problem := validate (parseConf answers.text)
  if answers.text = [] then
    { answer := false
      state := closed.state.fail (ascii "artemis/settings/wireguard_error_unreadable")
      trace := closed.trace }
  else if problem ≠ .none then
    { answer := false, state := closed.state.fail (problemI18nKey problem), trace := closed.trace }
  else if answers.isRealBackend = false then
    { answer := false
      state := { closed.state with status := .unavailable, lastError := [] }
      trace := closed.trace }
  else
    let out := closed.state.openTunnel answers
    { out with trace := closed.trace ++ out.trace }

def proxyFailed (m : WireGuardManager) : WireGuardManager :=
  { m with lastError := ascii "artemis/settings/wireguard_proxy_failed" }

def activateRoute (answers : WireGuard.Answers) (address : Bytes) (m : WireGuardManager) :
    Outcome Resource WireGuardManager Bool :=
  match m.tunnel with
  | none => { answer := false, state := m.proxyFailed }
  | some t =>
    if m.status ≠ .running then { answer := false, state := m.proxyFailed }
    else
      let (result, next) := t.activateRoute answers address
      let m := { m with tunnel := some next }
      { answer := result = 0
        state := if result = 0 then { m with lastError := [] } else m.proxyFailed
        trace := activateTrace answers address t }

def prepareRouteForStreaming (answers : WireGuard.Answers) (address : Bytes)
    (m : WireGuardManager) : Outcome Resource WireGuardManager Bool :=
  match m.tunnel with
  | none => { answer := false, state := m.proxyFailed }
  | some t =>
    if m.status ≠ .running then { answer := false, state := m.proxyFailed }
    else
      let (result, next) := t.prepareStream answers address
      let m := { m with tunnel := some next }
      { answer := result = 0
        state := if result = 0 then { m with lastError := [] } else m.proxyFailed }

def deactivateRoute (address : Bytes) (m : WireGuardManager) :
    Outcome Resource WireGuardManager Unit :=
  match m.tunnel with
  | none => { answer := (), state := m }
  | some t =>
    { answer := ()
      state := { m with tunnel := some (t.deactivateRoute address) }
      trace := deactivateTrace address t }

/-- The key of the text; a running tunnel adds its address. -/
def statusText (m : WireGuardManager) : Bytes :=
  match m.status with
  | .disabled => ascii "artemis/settings/wireguard_status_disabled"
  | .unavailable => ascii "artemis/settings/wireguard_status_unavailable"
  | .stopped => ascii "artemis/settings/wireguard_status_stopped"
  | .starting => ascii "artemis/settings/wireguard_status_starting"
  | .running =>
    if m.tunnelAddress = [] then ascii "artemis/settings/wireguard_status_running"
    else ascii "artemis/settings/wireguard_status_running" ++ [32, 194, 183, 32] ++ m.tunnelAddress
  | .error =>
    if m.lastError = [] then ascii "artemis/settings/wireguard_status_error" else m.lastError

end WireGuardManager

/-- `WireGuardProvider` over its manager. -/
def wireGuardProvider (ω : Type) : IRemoteAccessProvider Resource (Outside ω) WireGuardManager where
  available := true
  start o m :=
    if o.selected ≠ .wireGuard then { answer := false, state := m }
    else m.enableFromSettings o.wireguard
  stop _ m := m.disable
  status := WireGuardManager.statusText
  activateRoute o target m := m.activateRoute o.wireguard.tunnel target.peerAddress
  prepareRouteForStreaming o target m :=
    m.prepareRouteForStreaming o.wireguard.tunnel target.peerAddress
  deactivateRoute _ target m := m.deactivateRoute target.peerAddress
  proceeds _ m := m

/-! What is open follows what the manager remembers. -/

def relayOf (t : WgNxTunnel) : List Resource := if t.relay.isSome then [.relay] else []

/-- What a tunnel that runs holds, the latest first. -/
def tunnelResources (t : WgNxTunnel) : List Resource := relayOf t ++ [.connection, .tunnel]

namespace WireGuardManager

/-- There is a tunnel exactly while the status says so, and it is connected. -/
structure Sound (m : WireGuardManager) : Prop where
  status : m.status = .running ↔ m.tunnel.isSome = true
  running : ∀ t ∈ m.tunnel, t.running = true
  address : m.tunnel = none → m.tunnelAddress = []

def resources (m : WireGuardManager) : List Resource := m.tunnel.elim [] tunnelResources

end WireGuardManager

variable {t : WgNxTunnel} {answers : WireGuard.Answers} {address : Bytes} {rest : List Resource}

lemma heldFrom_clearTrace : heldFrom (relayOf t ++ rest) (clearTrace t) = some rest := by
  unfold relayOf clearTrace
  split_ifs
  · exact heldFrom_released
  · rfl

lemma heldFrom_destroyTrace (hrunning : t.running = true) :
    heldFrom (tunnelResources t) (destroyTrace t) = some [] := by
  have hstopped : clearTrace t.stop = [] := by
    rw [WgNxTunnel.stop, if_neg (by simp [hrunning])]
    rfl
  rw [destroyTrace, stopTrace, if_neg (by simp [hrunning]), hstopped, List.append_assoc,
    heldFrom_append, tunnelResources, heldFrom_clearTrace]
  rfl

/-- The start of a tunnel leaves it connected, or nothing but the tunnel open. -/
lemma heldFrom_startTrace (answers : WireGuard.Answers) (hdown : t.running = false)
    (hrelay : t.relay = none) :
    ((t.start answers).1 = 0 → (t.start answers).2.running = true ∧
      heldFrom [.tunnel] (startTrace answers t) = some (tunnelResources (t.start answers).2)) ∧
    ((t.start answers).1 ≠ 0 → (t.start answers).2 = t ∧
      heldFrom [.tunnel] (startTrace answers t) = some [.tunnel]) := by
  unfold WgNxTunnel.start startTrace
  rw [hdown]
  cases answers.connect <;> cases answers.start <;>
    simp [tunnelResources, relayOf, hrelay, heldFrom, step]

/-- An activation that gets to the relay ends with a new one, or with none. -/
lemma activateRoute_new (hroute : t.canRoute address = true)
    (hnew : ¬(t.relay.isSome = true ∧ t.activeTarget = address ∧ answers.isRunning = true)) :
    ((t.activateRoute answers address).1 = 0 ∧ ∃ relay, (t.activateRoute answers address).2 =
        { t.clearRelay with relay := some relay, activeTarget := address }) ∨
      ((t.activateRoute answers address).1 ≠ 0 ∧
        (t.activateRoute answers address).2 = t.clearRelay) := by
  unfold WgNxTunnel.activateRoute
  rw [if_neg (by simp [hroute]), if_neg hnew]
  dsimp only
  by_cases hstart : answers.relayStart = false
  · rw [if_pos hstart]
    exact .inr ⟨by simp, rfl⟩
  · rw [if_neg hstart, WireGuard.startPorts_eq]
    cases WireGuard.kTcpPorts.all answers.startTcpRelay with
    | false => exact .inr ⟨by simp, rfl⟩
    | true => exact .inl ⟨rfl, _, rfl⟩

lemma heldFrom_activateTrace :
    heldFrom (tunnelResources t) (activateTrace answers address t) =
      some (tunnelResources (t.activateRoute answers address).2) := by
  unfold activateTrace
  by_cases hroute : t.canRoute address = false
  · rw [if_pos hroute, WgNxTunnel.activateRoute, if_pos hroute]
    rfl
  rw [if_neg hroute]
  by_cases hactive : t.relay.isSome = true ∧ t.activeTarget = address ∧ answers.isRunning = true
  · rw [if_pos hactive, WgNxTunnel.activateRoute, if_neg hroute, if_pos hactive]
    rfl
  -- the old relay is closed before the new one is opened
  rw [if_neg hactive, heldFrom_append, tunnelResources, heldFrom_clearTrace]
  rcases activateRoute_new (by simpa using hroute) hactive with ⟨hok, relay, heq⟩ | ⟨hfailed, heq⟩
  · rw [if_pos hok, heq]
    rfl
  · rw [if_neg hfailed, heq]
    rfl

lemma running_activateRoute (answers : WireGuard.Answers) (address : Bytes) (t : WgNxTunnel) :
    (t.activateRoute answers address).2.running = t.running := by
  rcases WgNxTunnel.activateRoute_cases answers address t with heq | heq |
    ⟨-, relay, -, -, -, heq⟩
  · rw [heq]
  · rw [heq]
    rfl
  · rw [heq]
    rfl

lemma prepareStream_keeps (answers : WireGuard.Answers) (address : Bytes) (t : WgNxTunnel) :
    (t.prepareStream answers address).2.running = t.running ∧
      tunnelResources (t.prepareStream answers address).2 = tunnelResources t := by
  by_cases hprepares : t.Prepares answers address
  · obtain ⟨relay, hrelay, heq⟩ := WgNxTunnel.prepareStream_of_prepares hprepares
    rw [heq]
    split_ifs <;> exact ⟨rfl, by simp [tunnelResources, relayOf, hrelay]⟩
  · rw [WgNxTunnel.prepareStream_of_not hprepares]
    exact ⟨rfl, rfl⟩

lemma heldFrom_deactivateTrace :
    heldFrom (tunnelResources t) (deactivateTrace address t) =
      some (tunnelResources (t.deactivateRoute address)) := by
  unfold deactivateTrace WgNxTunnel.deactivateRoute
  split_ifs
  · rfl
  · rw [tunnelResources, heldFrom_clearTrace]
    rfl

lemma running_deactivateRoute : (t.deactivateRoute address).running = t.running := by
  unfold WgNxTunnel.deactivateRoute
  split_ifs <;> rfl

namespace WireGuardManager

variable {m : WireGuardManager} {wg : WireGuardAnswers}

lemma resources_of_none (h : m.tunnel = none) : m.resources = [] := by
  rw [resources, h]
  rfl

lemma keeps_disableLocked (h : m.Sound) :
    heldFrom m.resources m.disableLocked.trace = some [] := by
  unfold disableLocked resources
  cases htunnel : m.tunnel with
  | none => rfl
  | some t => exact heldFrom_destroyTrace (h.running t htunnel)

/-- A manager without a tunnel that does not count as running. -/
lemma sound_down (htunnel : m.tunnel = none) (haddress : m.tunnelAddress = [])
    (hstatus : m.status ≠ .running) : m.Sound := by
  refine ⟨?_, ?_, fun _ => haddress⟩
  · rw [htunnel]
    exact iff_of_false hstatus Bool.false_ne_true
  · rw [htunnel]
    exact nofun

lemma createTunnel_down {text : Bytes} (h : createTunnel wg text = some t) :
    t.running = false ∧ t.relay = none := by
  unfold createTunnel at h
  dsimp only at h
  split at h
  · cases h
  · split_ifs at h
    cases h
    exact ⟨rfl, rfl⟩

lemma openTunnel_spec (wg : WireGuardAnswers) (htunnel : m.tunnel = none)
    (haddress : m.tunnelAddress = []) :
    Keeps Sound resources m (m.openTunnel wg) ∧
      ((m.openTunnel wg).state.tunnel.isSome = true ↔ (m.openTunnel wg).answer = true) := by
  unfold openTunnel
  cases hcreate : createTunnel wg wg.text with
  | none =>
    have hquiet := resources_of_none htunnel
    refine ⟨Keeps.quiet (sound_down htunnel haddress (by simp [fail])) ?_, ?_⟩
    · rw [hquiet]
      exact resources_of_none htunnel
    · exact iff_of_false (by simp [fail, htunnel]) Bool.false_ne_true
  | some t =>
    obtain ⟨hdown, hrelay⟩ := createTunnel_down hcreate
    obtain ⟨hok, hfailed⟩ := heldFrom_startTrace wg.tunnel hdown hrelay
    dsimp only
    by_cases hresult : (t.start wg.tunnel).1 = 0
    · obtain ⟨hrunning, htrace⟩ := hok hresult
      rw [if_neg (not_not.mpr hresult)]
      refine ⟨⟨⟨iff_of_true rfl rfl, ?_, nofun⟩, ?_⟩, iff_of_true rfl rfl⟩
      · rintro _ ⟨⟩
        exact hrunning
      · rw [resources_of_none htunnel, heldFrom_acquired]
        exact htrace
    · obtain ⟨hsame, htrace⟩ := hfailed hresult
      rw [if_pos hresult, hsame]
      refine ⟨⟨sound_down htunnel haddress (by simp [fail]), ?_⟩, ?_⟩
      · -- the tunnel has no connection, only itself is closed
        have hempty : (m.fail (ascii "artemis/settings/wireguard_error_start_failed")).resources =
            [] := resources_of_none htunnel
        rw [resources_of_none htunnel, hempty, List.cons_append, heldFrom_acquired,
          heldFrom_append, htrace]
        simp [destroyTrace, stopTrace, clearTrace, WgNxTunnel.stop, hdown, hrelay]
      · exact iff_of_false (by simp [fail, htunnel]) Bool.false_ne_true

lemma enableFromSettings_spec (h : m.Sound) :
    Keeps Sound resources m (m.enableFromSettings wg) ∧
      ((m.enableFromSettings wg).state.tunnel.isSome = true ↔
        (m.enableFromSettings wg).answer = true) := by
  have hclosed := keeps_disableLocked h
  unfold enableFromSettings
  dsimp only
  have hrefused : ∀ s : WireGuardManager, s.tunnel = none → s.tunnelAddress = [] →
      s.status ≠ .running →
      Keeps Sound resources m
          { answer := false, state := s, trace := m.disableLocked.trace } ∧
        (s.tunnel.isSome = true ↔ False) := by
    intro s htunnel haddress hstatus
    refine ⟨⟨sound_down htunnel haddress hstatus, ?_⟩, ?_⟩
    · rw [resources_of_none htunnel]
      exact hclosed
    · rw [htunnel]
      exact iff_of_false Bool.false_ne_true id
  split_ifs
  · exact hrefused (m.disableLocked.state.fail _) rfl rfl (by simp [fail])
  · exact hrefused (m.disableLocked.state.fail _) rfl rfl (by simp [fail])
  · exact hrefused { m.disableLocked.state with status := .unavailable, lastError := [] } rfl rfl
      (by simp)
  · obtain ⟨hkeeps, hup⟩ := openTunnel_spec (m := m.disableLocked.state) wg rfl rfl
    refine ⟨⟨hkeeps.sound, ?_⟩, hup⟩
    rw [heldFrom_append, hclosed]
    exact hkeeps.traced

/-- A call on the tunnel of a manager keeps it connected. -/
lemma Sound.of_tunnel (h : m.Sound) (htunnel : m.tunnel = some t) {next : WgNxTunnel}
    (hrunning : next.running = t.running) (error : Bytes) :
    Sound { m with tunnel := some next, lastError := error } := by
  refine ⟨iff_of_true (h.status.mpr (by rw [htunnel]; rfl)) rfl, ?_, nofun⟩
  rintro _ ⟨⟩
  rw [hrunning]
  exact h.running t htunnel

lemma activateRoute_spec (h : m.Sound) :
    Keeps Sound resources m (m.activateRoute answers address) ∧
      ((m.activateRoute answers address).state.tunnel.isSome = true ↔
        m.tunnel.isSome = true) := by
  unfold activateRoute
  cases htunnel : m.tunnel with
  | none =>
    have hquiet : m.proxyFailed.resources = m.resources := rfl
    refine ⟨Keeps.quiet ⟨h.status, h.running, h.address⟩ hquiet, ?_⟩
    rw [proxyFailed, htunnel]
  | some t =>
    have hrunning : m.status = .running := h.status.mpr (by rw [htunnel]; rfl)
    have hnext (error : Bytes) := h.of_tunnel htunnel
      (running_activateRoute answers address t) error
    dsimp only
    rw [if_neg (not_not.mpr hrunning)]
    refine ⟨⟨?_, ?_⟩, ?_⟩
    · dsimp only
      split_ifs
      · exact hnext _
      · exact hnext _
    · rw [resources, htunnel]
      refine heldFrom_activateTrace.trans ?_
      dsimp only
      split_ifs <;> rfl
    · dsimp only
      split_ifs <;> exact iff_of_true rfl rfl

lemma prepareRouteForStreaming_spec (h : m.Sound) :
    Keeps Sound resources m (m.prepareRouteForStreaming answers address) ∧
      ((m.prepareRouteForStreaming answers address).state.tunnel.isSome = true ↔
        m.tunnel.isSome = true) := by
  unfold prepareRouteForStreaming
  cases htunnel : m.tunnel with
  | none =>
    have hquiet : m.proxyFailed.resources = m.resources := rfl
    refine ⟨Keeps.quiet ⟨h.status, h.running, h.address⟩ hquiet, ?_⟩
    rw [proxyFailed, htunnel]
  | some t =>
    have hrunning : m.status = .running := h.status.mpr (by rw [htunnel]; rfl)
    obtain ⟨hkept, hsame⟩ := prepareStream_keeps answers address t
    have hnext (error : Bytes) := h.of_tunnel htunnel hkept error
    dsimp only
    rw [if_neg (not_not.mpr hrunning)]
    refine ⟨Keeps.quiet ?_ ?_, ?_⟩
    · split_ifs
      · exact hnext _
      · exact hnext _
    · rw [resources, resources, htunnel]
      refine Eq.trans ?_ hsame
      split_ifs <;> rfl
    · dsimp only
      split_ifs <;> exact iff_of_true rfl rfl

lemma deactivateRoute_spec (h : m.Sound) :
    Keeps Sound resources m (m.deactivateRoute address) ∧
      ((m.deactivateRoute address).state.tunnel.isSome = true ↔ m.tunnel.isSome = true) := by
  unfold deactivateRoute
  cases htunnel : m.tunnel with
  | none =>
    refine ⟨Keeps.quiet h rfl, ?_⟩
    rw [htunnel]
  | some t =>
    refine ⟨⟨h.of_tunnel htunnel running_deactivateRoute m.lastError, ?_⟩, iff_of_true rfl rfl⟩
    rw [resources, htunnel]
    exact heldFrom_deactivateTrace

end WireGuardManager

def wireGuardContract (ω : Type) : Contract (wireGuardProvider ω) where
  Sound := WireGuardManager.Sound
  Up m := m.tunnel.isSome = true
  resources := WireGuardManager.resources
  down _ hdown := WireGuardManager.resources_of_none (by simpa using hdown)
  start o m h hdown := by
    by_cases hselected : o.selected = .wireGuard
    · have hstart : (wireGuardProvider ω).start o m = m.enableFromSettings o.wireguard :=
        if_neg (not_not.mpr hselected)
      rw [hstart]
      exact WireGuardManager.enableFromSettings_spec h
    · have hstart : (wireGuardProvider ω).start o m = { answer := false, state := m } :=
        if_pos hselected
      rw [hstart]
      exact ⟨Keeps.quiet h rfl, iff_of_false hdown Bool.false_ne_true⟩
  stop _ m h := by
    have hstatus : m.disable.state.status ≠ .running := by simp [WireGuardManager.disable]
    refine ⟨⟨WireGuardManager.sound_down rfl rfl hstatus, ?_⟩, ?_⟩
    · exact WireGuardManager.keeps_disableLocked h
    · exact Bool.false_ne_true
  activateRoute _ _ _ h := WireGuardManager.activateRoute_spec h
  prepareRouteForStreaming _ _ _ h := WireGuardManager.prepareRouteForStreaming_spec h
  deactivateRoute _ _ _ h := WireGuardManager.deactivateRoute_spec h
  proceeds _ _ h := ⟨h, rfl, Iff.rfl⟩

end WireGuard

/-! ## NetBird -/

section NetBird
open NetBird (NetBirdProvider PeerSync kMaxScannedPeers)

structure RemoteAccessPeer where
  providerId : Bytes
  peerId : Bytes
  name : Bytes
  address : Bytes
  online : Bool
  metadata : Bytes
  deriving DecidableEq, Repr

/-- The provider with the thread that polls the library, and the peers of the last scan. -/
structure NetBirdTransport where
  provider : NetBirdProvider := {}
  pumpRunning : Bool := false
  cachedPeers : List RemoteAccessPeer := []
  deriving DecidableEq, Repr

namespace NetBirdTransport

/-- The peer at an index; one without a valid identity is skipped. -/
def scanned (sync : PeerSync) (i : ℕ) : Option RemoteAccessPeer :=
  match sync.peer i with
  | none => none
  | some (ip, name) =>
    (sync.identity i).map fun identity =>
      { providerId := ascii "netbird"
        peerId := identity
        name := if name = [] then ip else name
        address := ip
        online := true
        metadata := ascii "Authenticated NetBird peer" }

def refreshPeers (sync : PeerSync) (n : NetBirdTransport) : NetBirdTransport :=
  { n with
    cachedPeers :=
      if n.provider.state.started ∧ n.provider.state.ready then
        (List.range (min sync.peerCount kMaxScannedPeers).toNat).filterMap (scanned sync)
      else [] }

def startPump (n : NetBirdTransport) : NetBirdTransport × Trace :=
  ({ n with pumpRunning := true }, if n.pumpRunning then [] else [.acquired .pump])

def setLastError (error : Bytes) (n : NetBirdTransport) : NetBirdTransport :=
  { n with provider := n.provider.setLastError error }

/-- What follows a login that succeeds.  The pump has run when the peers are scanned. -/
def connected (answers : NetBirdAnswers) (n : NetBirdTransport) :
    Outcome Resource NetBirdTransport Bool :=
  let provider := { n.provider with
    state := { n.provider.state with
      started := true, ready := answers.isReady, localAddress := answers.ip.getD []
      lastError := [] } }
  let (n, opened) := { n with provider := provider }.startPump
  { answer := true
    state := { n with provider := n.provider.pump answers.pumped }.refreshPeers answers.sync
    trace := .acquired .netbird :: opened }

def start (selected : RemoteAccessProviderId) (answers : NetBirdAnswers) (n : NetBirdTransport) :
    Outcome Resource NetBirdTransport Bool :=
  let n := n.setLastError []
  if selected ≠ .netBird then { answer := false, state := n }
  else if answers.server = [] then
    { answer := false
      state := n.setLastError (ascii "artemis/settings/netbird_missing_server") }
  else if answers.setupKey = [] then
    { answer := false
      state := n.setLastError (ascii "artemis/settings/netbird_missing_setup_key") }
  else if answers.initResult ≠ 0 then
    { answer := false
      state := n.setLastError (if answers.initError = [] then
        ascii "artemis/settings/netbird_login_failed" else answers.initError) }
  else n.connected answers

/-- The proxies go before the pump, and the pump before the library. -/
def stop (n : NetBirdTransport) : Outcome Resource NetBirdTransport Unit :=
  if n.provider.state.started = false then { answer := (), state := n }
  else
    { answer := ()
      state := { provider := n.provider.stop }
      trace := (if n.pumpRunning then [.released .pump] else []) ++ [.released .netbird] }

def status (n : NetBirdTransport) : Bytes :=
  if n.provider.state.lastError ≠ [] then n.provider.state.lastError
  else if n.provider.state.started = false then ascii "artemis/settings/remote_access_off"
  else if n.provider.state.ready then ascii "artemis/settings/remote_access_connected"
  else ascii "artemis/settings/remote_access_connecting"

end NetBirdTransport

def netBirdProvider (ω : Type) :
    IRemoteAccessProvider Resource (Outside ω) NetBirdTransport where
  available := true
  start o n := n.start o.selected o.netbird
  stop _ n := n.stop
  status := NetBirdTransport.status
  activateRoute o target n :=
    let out := n.provider.activateRoute o.netbird.sync o.netbird.proxyResult target
    { answer := out.1, state := { n with provider := out.2 } }
  prepareRouteForStreaming o target n :=
    let out := n.provider.prepareRouteForStreaming o.netbird.udpResult target
    { answer := out.1, state := { n with provider := out.2 } }
  deactivateRoute _ target n :=
    { answer := (), state := { n with provider := n.provider.deactivateRoute target } }
  proceeds o n := { n with provider := n.provider.pump o.netbird.pumped }

namespace NetBirdTransport

/-- Nothing is left of a session that is over: no proxy, no relays, no address, no peers. -/
structure Sound (n : NetBirdTransport) : Prop where
  pump : n.pumpRunning = n.provider.state.started
  proxies : n.provider.state.started = false →
    n.provider.library = {} ∧ n.provider.state.activePeer = []
  session : n.provider.state.started = false →
    n.provider.state.localAddress = [] ∧ n.cachedPeers = []

def resources (n : NetBirdTransport) : List Resource :=
  if n.provider.state.started then [.pump, .netbird] else []

variable {n : NetBirdTransport} {answers : NetBirdAnswers} {selected : RemoteAccessProviderId}
variable {sync : PeerSync} {result : ℤ} {target : RemoteRouteTarget}

lemma sound_of_started (hpump : n.pumpRunning = true) (hstarted : n.provider.state.started = true) :
    n.Sound := by
  have habsurd : ¬n.provider.state.started = false := by simp [hstarted]
  exact ⟨hpump.trans hstarted.symm, fun h => absurd h habsurd, fun h => absurd h habsurd⟩

/-- A provider whose session goes on, or which has none and still has none. -/
lemma Sound.of_provider (h : n.Sound) {next : NetBirdProvider}
    (hstarted : next.state.started = n.provider.state.started)
    (hdown : n.provider.state.started = false → next = n.provider ∨
      ∃ error, next = n.provider.setLastError error) :
    Sound { n with provider := next } := by
  refine ⟨?_, ?_, ?_⟩
  · exact h.pump.trans hstarted.symm
  · intro hnext
    have hbefore := hstarted.symm.trans hnext
    rcases hdown hbefore with rfl | ⟨error, rfl⟩
    · exact h.proxies hbefore
    · exact h.proxies hbefore
  · intro hnext
    have hbefore := hstarted.symm.trans hnext
    rcases hdown hbefore with rfl | ⟨error, rfl⟩
    · exact h.session hbefore
    · exact h.session hbefore

lemma resources_of_started {m : NetBirdTransport}
    (hstarted : m.provider.state.started = n.provider.state.started) :
    m.resources = n.resources := by
  rw [resources, hstarted]
  rfl

lemma started_startProxy (p : NetBirdProvider) (peerId : Bytes) :
    (p.startProxy result peerId).2.state.started = p.state.started := by
  unfold NetBirdProvider.startProxy
  dsimp only
  split_ifs <;> rfl

lemma started_activateRoute (sync : PeerSync) (result : ℤ) (target : RemoteRouteTarget)
    (p : NetBirdProvider) :
    (p.activateRoute sync result target).2.state.started = p.state.started := by
  rcases NetBirdProvider.activateRoute_cases sync result target p with ⟨hstays, -⟩ | ⟨-, heq⟩
  · unfold NetBirdProvider.activateRoute
    cases hscan : NetBird.findPeer sync target with
    | refused | unknown => split_ifs <;> rfl
    | known =>
      split_ifs
      · rfl
      · rfl
      · rfl
      · rfl
      · exact started_startProxy _ _
  · rw [heq]
    exact started_startProxy _ _

lemma started_prepareRouteForStreaming (result : ℤ) (target : RemoteRouteTarget)
    (p : NetBirdProvider) :
    (p.prepareRouteForStreaming result target).2.state.started = p.state.started := by
  have hrestart : p.restartRelays.state.started = p.state.started := by
    unfold NetBirdProvider.restartRelays
    split_ifs <;> rfl
  unfold NetBirdProvider.prepareRouteForStreaming
  split_ifs
  · rfl
  · rw [← hrestart]
    unfold NetBirdProvider.startRelays
    dsimp only
    split_ifs <;> rfl

lemma started_deactivateRoute (target : RemoteRouteTarget) (p : NetBirdProvider) :
    (p.deactivateRoute target).state.started = p.state.started := by
  unfold NetBirdProvider.deactivateRoute
  split_ifs <;> rfl

lemma started_pump (p : NetBirdProvider) (ready : Bool) :
    (p.pump ready).state.started = p.state.started := by
  unfold NetBirdProvider.pump
  split_ifs <;> rfl

lemma connected_spec (answers : NetBirdAnswers) (h : n.Sound)
    (hdown : n.provider.state.started = false) :
    Keeps Sound resources n (n.connected answers) ∧
      (n.connected answers).state.provider.state.started = true := by
  have hpump : n.pumpRunning = false := h.pump.trans hdown
  have hstarted : (n.connected answers).state.provider.state.started = true :=
    started_pump _ answers.pumped
  refine ⟨⟨sound_of_started rfl hstarted, ?_⟩, hstarted⟩
  rw [resources, resources, hdown, hstarted]
  simp [connected, startPump, hpump]

lemma start_spec (h : n.Sound) (hdown : n.provider.state.started = false) :
    Keeps Sound resources n (n.start selected answers) ∧
      ((n.start selected answers).state.provider.state.started = true ↔
        (n.start selected answers).answer = true) := by
  have hclean : (n.setLastError []).Sound := h.of_provider rfl fun _ => .inr ⟨_, rfl⟩
  have hrefused (error : Bytes) : Keeps Sound resources n
      { answer := false, state := (n.setLastError []).setLastError error } ∧
        ((n.setLastError []).provider.state.started = true ↔ False) :=
    ⟨Keeps.quiet (hclean.of_provider rfl fun _ => .inr ⟨_, rfl⟩) rfl,
      iff_of_false (by rw [setLastError, NetBirdProvider.setLastError]; simp [hdown]) id⟩
  unfold start
  dsimp only
  split_ifs with hselected hserver hkey hlogin
  · exact ⟨Keeps.quiet hclean rfl, (hrefused []).2⟩
  · exact hrefused _
  · exact hrefused _
  · exact hrefused _
  · exact hrefused _
  · have hspec := connected_spec answers hclean hdown
    exact ⟨⟨hspec.1.sound, hspec.1.traced⟩, iff_of_true hspec.2 rfl⟩

lemma stop_spec (h : n.Sound) :
    Keeps Sound resources n n.stop ∧ n.stop.state.provider.state.started = false := by
  unfold stop
  cases hstarted : n.provider.state.started with
  | false =>
    rw [if_pos rfl]
    exact ⟨Keeps.quiet h rfl, hstarted⟩
  | true =>
    have hstopped : n.provider.stop = {} := by
      rw [NetBirdProvider.stop, if_neg (by simp [hstarted])]
      rfl
    rw [if_neg (by simp), hstopped]
    refine ⟨⟨⟨rfl, fun _ => ⟨rfl, rfl⟩, fun _ => ⟨rfl, rfl⟩⟩, ?_⟩, rfl⟩
    have hpump : n.pumpRunning = true := h.pump.trans hstarted
    rw [resources, if_pos hstarted, hpump]
    rfl

end NetBirdTransport

def netBirdContract (ω : Type) : Contract (netBirdProvider ω) where
  Sound := NetBirdTransport.Sound
  Up n := n.provider.state.started = true
  resources := NetBirdTransport.resources
  down _ hdown := if_neg hdown
  start _ _ h hdown := NetBirdTransport.start_spec h (by simpa using hdown)
  stop _ _ h := by
    obtain ⟨hkeeps, hdown⟩ := NetBirdTransport.stop_spec h
    exact ⟨hkeeps, ne_true_of_eq_false hdown⟩
  activateRoute o target n h := by
    have hstarted := NetBirdTransport.started_activateRoute o.netbird.sync
      o.netbird.proxyResult target n.provider
    refine ⟨Keeps.quiet (h.of_provider hstarted fun hdown => .inl ?_) ?_, ?_⟩
    · exact congrArg Prod.snd (if_pos hdown)
    · exact NetBirdTransport.resources_of_started hstarted
    · exact iff_of_eq (congrArg (· = true) hstarted)
  prepareRouteForStreaming o target n h := by
    have hstarted := NetBirdTransport.started_prepareRouteForStreaming o.netbird.udpResult
      target n.provider
    refine ⟨Keeps.quiet (h.of_provider hstarted fun hdown => .inr ⟨?_, ?_⟩) ?_, ?_⟩
    · exact ascii "artemis/settings/netbird_proxy_failed"
    · exact congrArg Prod.snd (if_pos (.inl hdown))
    · exact NetBirdTransport.resources_of_started hstarted
    · exact iff_of_eq (congrArg (· = true) hstarted)
  deactivateRoute o target n h := by
    have hstarted := NetBirdTransport.started_deactivateRoute target n.provider
    refine ⟨Keeps.quiet (h.of_provider hstarted fun hdown => .inl ?_) ?_, ?_⟩
    · exact if_pos (.inl hdown)
    · exact NetBirdTransport.resources_of_started hstarted
    · exact iff_of_eq (congrArg (· = true) hstarted)
  proceeds o n h := by
    have hstarted := NetBirdTransport.started_pump n.provider o.netbird.pumped
    refine ⟨h.of_provider hstarted fun hdown => .inl ?_, ?_, ?_⟩
    · rw [NetBirdProvider.pump, if_neg (by simp [hdown])]
    · exact NetBirdTransport.resources_of_started hstarted
    · exact iff_of_eq (congrArg (· = true) hstarted)

end NetBird

/-! ## Tailscale -/

section Tailscale
open Netmap (Key32 decodeTypedKey)
open Wgx (IWgxBackend TailscaleCore)

/-- From the manifest. -/
def kAcceptedCapabilityVersion : ℤ := 68

/-- What the worker of a core and its control session are given. -/
structure Launch where
  authKey : Bytes
  passphrase : Bytes
  controlHost : Bytes
  controlKey : Key32
  deriving DecidableEq

/-- The provider; `worker` says whether `worker_` of the core is joinable. -/
structure TailscaleTransport (β : Type) where
  status : Bytes := ascii "Stopped"
  lastError : Bytes := []
  authKey : Bytes := []
  passphrase : Bytes := []
  core : Option (TailscaleCore β) := none
  launch : Option Launch := none
  worker : Bool := false

/-- The backend's calls, what its threads do, the hash of peer ids and the backend that a new
route is made with. -/
structure Engine (β ω : Type) where
  api : ω → IWgxBackend β
  background : ω → β → β
  hash : Bytes → UInt64
  fresh : Option β

/-- A key of zeros is none. -/
def decodeControlKey (encoded : Bytes) : Option Key32 :=
  (decodeTypedKey encoded (ascii "mkey:")).filter fun key => !Wgx.allZero key

def CoreEvent.event {ω : Type} : CoreEvent ω → TailscaleCore.Event ω
  | .identified identity => .identified identity
  | .replacePeers peers localAddress => .replacePeers peers localAddress
  | .applyPeerDelta delta => .applyPeerDelta delta
  | .updateDerpMap regions => .updateDerpMap regions
  | .background answers => .background answers

namespace TailscaleTransport

variable {β ω : Type}

def wipe (t : TailscaleTransport β) : TailscaleTransport β :=
  { t with authKey := [], passphrase := [] }

/-- The status and the error when there is no key of the control server. -/
def controlKey (answers : TailscaleAnswers ω) : Except (Bytes × Bytes) Key32 :=
  if answers.controlHost = [] then
    .error (ascii "Needs configuration", ascii "Tailscale control host is not configured")
  else if answers.controlPublicKey = [] then
    match answers.fetched with
    | .error error => .error (ascii "Control key unavailable", error)
    | .ok key => .ok key
  else
    match decodeControlKey answers.controlPublicKey with
    | none => .error (ascii "Needs configuration",
        ascii "Tailscale control public key must be mkey: plus 64 lowercase hex digits")
    | some key => .ok key

/-- The key that was handed over, or that of the file. -/
def loginKey (answers : TailscaleAnswers ω) (t : TailscaleTransport β) : Except Bytes Bytes :=
  if t.authKey = [] then answers.authKeyFile else .ok t.authKey

/-- `TailscaleCore::start` of a core that was just made. -/
def newCore (engine : Engine β ω) : TailscaleCore β :=
  { overlay := { backend := engine.fresh }
    snapshot := { state := .starting, status := ascii "Starting" } }

/-- `start` of the selected provider.  The secrets are wiped once there is a login key. -/
def launchCore (engine : Engine β ω) (answers : TailscaleAnswers ω) (t : TailscaleTransport β) :
    Outcome Resource (TailscaleTransport β) Bool :=
  match t.loginKey answers with
  | .error error =>
    { answer := false
      state := { t with status := ascii "Needs authentication", lastError := error } }
  | .ok authKey =>
    match controlKey answers with
    | .error (status, error) =>
      { answer := false, state := { t.wipe with status := status, lastError := error } }
    | .ok controlKey =>
      { answer := true
        state := { t.wipe with
          status := ascii "Starting"
          lastError := []
          core := some (newCore engine)
          launch := some ⟨authKey, t.passphrase, answers.controlHost, controlKey⟩
          worker := true }
        -- a core that was there is stopped when the new one takes its place
        trace := (if t.worker then [.released .worker] else []) ++ [.acquired .worker] }

def start (engine : Engine β ω) (selected : RemoteAccessProviderId) (answers : TailscaleAnswers ω)
    (t : TailscaleTransport β) : Outcome Resource (TailscaleTransport β) Bool :=
  if kAcceptedCapabilityVersion ≤ 0 then
    { answer := false
      state := { t.wipe with
        status := ascii "Unavailable (live gate not passed)"
        lastError := ascii "Tailscale capability and DERP streaming acceptance are pending" } }
  else if selected ≠ .tailscale then
    { answer := false
      state := { t with
        status := ascii "Stopped", lastError := ascii "Tailscale is not the selected provider" } }
  else t.launchCore engine answers

/-- The core stops its worker and its route. -/
def stop (t : TailscaleTransport β) : Outcome Resource (TailscaleTransport β) Unit where
  answer := ()
  state := {}
  trace := if t.core.isSome ∧ t.worker then [.released .worker] else []

def statusText (t : TailscaleTransport β) : Bytes :=
  match t.core with
  | none =>
    if kAcceptedCapabilityVersion ≤ 0 then ascii "Unavailable (live gate not passed)" else t.status
  | some core =>
    match core.snapshot.state with
    | .stopped => ascii "Stopped"
    | .starting => ascii "Starting"
    | .needsAuthentication => ascii "Needs authentication"
    | .connectingControl => ascii "Connecting to control"
    | .connectedControl => ascii "Control connected"
    | .ready => ascii "Ready"
    | .error => if core.snapshot.lastError = [] then ascii "Error" else core.snapshot.lastError

/-- A call of the core, if there is one. -/
def onCore (call : TailscaleCore β → Bool × TailscaleCore β) (t : TailscaleTransport β) :
    Outcome Resource (TailscaleTransport β) Bool :=
  match t.core with
  | none => { answer := false, state := t }
  | some core => { answer := (call core).1, state := { t with core := some (call core).2 } }

/-- The worker runs exactly while there is a core. -/
def Sound (t : TailscaleTransport β) : Prop := t.worker = t.core.isSome

def resources (t : TailscaleTransport β) : List Resource := if t.worker then [.worker] else []

variable {t : TailscaleTransport β} {engine : Engine β ω}

lemma resources_down (h : t.Sound) (hdown : ¬t.core.isSome = true) : t.resources = [] := by
  rw [resources, h]
  exact if_neg hdown

lemma launchCore_spec (answers : TailscaleAnswers ω) (h : t.Sound)
    (hdown : ¬t.core.isSome = true) :
    Keeps Sound resources t (t.launchCore engine answers) ∧
      ((t.launchCore engine answers).state.core.isSome = true ↔
        (t.launchCore engine answers).answer = true) := by
  have hworker : t.worker = false := h.trans (by simpa using hdown)
  unfold launchCore
  cases t.loginKey answers with
  | error error => exact ⟨Keeps.quiet h rfl, iff_of_false hdown Bool.false_ne_true⟩
  | ok authKey =>
    cases controlKey answers with
    | error failure => exact ⟨Keeps.quiet h rfl, iff_of_false hdown Bool.false_ne_true⟩
    | ok controlKey =>
      refine ⟨⟨rfl, ?_⟩, iff_of_true rfl rfl⟩
      rw [resources_down h hdown, hworker]
      rfl

lemma start_spec (selected : RemoteAccessProviderId) (answers : TailscaleAnswers ω) (h : t.Sound)
    (hdown : ¬t.core.isSome = true) :
    Keeps Sound resources t (t.start engine selected answers) ∧
      ((t.start engine selected answers).state.core.isSome = true ↔
        (t.start engine selected answers).answer = true) := by
  unfold start
  split_ifs
  · exact ⟨Keeps.quiet h rfl, iff_of_false hdown id⟩
  · exact ⟨Keeps.quiet h rfl, iff_of_false hdown id⟩
  · exact launchCore_spec answers h hdown

lemma stop_spec (h : t.Sound) : Keeps Sound resources t t.stop := by
  refine ⟨rfl, ?_⟩
  unfold stop resources
  rw [h]
  cases t.core with
  | none => rfl
  | some core => rfl

lemma onCore_spec (h : t.Sound) (call : TailscaleCore β → Bool × TailscaleCore β) :
    Keeps Sound resources t (t.onCore call) ∧
      ((t.onCore call).state.core.isSome = true ↔ t.core.isSome = true) := by
  unfold onCore
  cases hcore : t.core with
  | none =>
    refine ⟨Keeps.quiet h rfl, ?_⟩
    rw [hcore]
  | some core =>
    refine ⟨Keeps.quiet ?_ rfl, iff_of_true rfl rfl⟩
    exact h.trans (by rw [hcore]; rfl)

end TailscaleTransport

variable {β ω : Type}

def tailscaleProvider (engine : Engine β ω) :
    IRemoteAccessProvider Resource (Outside ω) (TailscaleTransport β) where
  available := 0 < kAcceptedCapabilityVersion
  start o t := t.start engine o.selected o.tailscale
  stop _ t := t.stop
  status := TailscaleTransport.statusText
  activateRoute o target t :=
    t.onCore fun core => core.activateRoute (engine.api o.tailscale.libraries) engine.hash target
  prepareRouteForStreaming o target t :=
    t.onCore fun core => core.prepareRouteForStreaming (engine.api o.tailscale.libraries) target
  deactivateRoute o target t :=
    let out := t.onCore fun core =>
      (true, core.deactivateRoute (engine.api o.tailscale.libraries) target)
    { answer := (), state := out.state, trace := out.trace }
  proceeds o t :=
    { t with core := t.core.map fun core =>
        core.step engine.api engine.background engine.hash o.tailscale.happens.event }

def tailscaleContract (engine : Engine β ω) : Contract (tailscaleProvider engine) where
  Sound := TailscaleTransport.Sound
  Up t := t.core.isSome = true
  resources := TailscaleTransport.resources
  down h hdown := TailscaleTransport.resources_down h hdown
  start o _ h hdown := TailscaleTransport.start_spec o.selected o.tailscale h hdown
  stop _ _ h := ⟨TailscaleTransport.stop_spec h, Bool.false_ne_true⟩
  activateRoute _ _ _ h := TailscaleTransport.onCore_spec h _
  prepareRouteForStreaming _ _ _ h := TailscaleTransport.onCore_spec h _
  deactivateRoute _ _ _ h := by
    obtain ⟨hkeeps, hup⟩ := TailscaleTransport.onCore_spec h _
    exact ⟨⟨hkeeps.sound, hkeeps.traced⟩, hup⟩
  proceeds o t h := by
    have hsome : (t.core.map fun core => core.step engine.api engine.background engine.hash
        o.tailscale.happens.event).isSome = t.core.isSome := Option.isSome_map
    refine ⟨Eq.trans h hsome.symm, rfl, ?_⟩
    exact iff_of_eq (congrArg (· = true) hsome)

end Tailscale

end ArtemisSwitch.RemoteAccess.Providers

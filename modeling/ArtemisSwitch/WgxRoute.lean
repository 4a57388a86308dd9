import ArtemisSwitch.RemoteAccessManager
import ArtemisSwitch.WgxBackend

/-!
# TailscaleWgxRoute

A route brings its backend up step by step for one target and remembers that target.
Every call runs under `mutex_`.
-/

namespace ArtemisSwitch.Wgx
open Netmap RemoteAccess Fallible

/-- The providers that are set, with what they answer during a call, and `std::hash`. -/
structure Providers where
  peerResolver : Option (Bytes → Option Peer)
  localInfoProvider : Option (Option (Bytes × Key32))
  derpMapProvider : Option (List DerpRegion)
  discoKeyProvider : Option (Option Key32)
  hash : Bytes → UInt64

/-- The GameStream host of a target. -/
def hostIp (target : RemoteRouteTarget) : Bytes :=
  if target.targetAddress = [] then target.peerAddress else target.targetAddress

/-- What `start` looks up before it touches the backend. -/
structure RoutePlan where
  localIp : Bytes
  localPrivateKey : Key32
  peer : Peer
  derpMap : List DerpRegion
  peerNumId : UInt32

def peerNumId (hash : Bytes → UInt64) (peerId : Bytes) : UInt32 :=
  let id := (hash peerId &&& 0x7FFFFFFF).toUInt32
  if id = 0 then 1 else id

def plan (providers : Providers) (target : RemoteRouteTarget) : Except Bytes RoutePlan :=
  if target.peerAddress = [] ∨ isLiteralIPv4 target.peerAddress = false then
    .error (ascii "Tailscale route target has no valid IPv4 address: " ++ target.peerAddress)
  else if isLiteralIPv4 (hostIp target) = false then
    .error (ascii "Tailscale route host is not a valid IPv4 address: " ++ hostIp target)
  else
    match providers.localInfoProvider with
    | none => .error (ascii "Tailscale local identity provider is not configured")
    | some none => .error (ascii "Tailscale local identity is not available")
    | some (some (localIp, localPrivateKey)) =>
      match providers.peerResolver with
      | none => .error (ascii "Tailscale peer resolver is not configured")
      | some peerResolver =>
        match peerResolver target.peerId with
        | none => .error (ascii "Tailscale peer not found in netmap: " ++ target.peerId)
        | some peer =>
          if allZero peer.nodeKey then
            .error (ascii "Tailscale peer has no valid node key: " ++ target.peerId)
          else
            .ok ⟨localIp, localPrivateKey, peer, providers.derpMapProvider.getD [],
              peerNumId providers.hash target.peerId⟩

section Backend

variable {β : Type}

/-- A tunnel that runs is kept. -/
def ensureTunnel (api : IWgxBackend β) (plan : RoutePlan) : EStateM Bytes β Unit := fun backend =>
  if api.isRunning backend then .ok () backend
  else api.startTunnel plan.localPrivateKey plan.localIp backend

/-- The four steps of a route: the relay comes before the handshake, which blocks. -/
def bringUp (api : IWgxBackend β) (target : RemoteRouteTarget) (plan : RoutePlan) :
    EStateM Bytes β Unit := do
  ensureTunnel api plan
  api.ensureDerpRoute plan.peer.nodeKey plan.peer.homeDerp plan.derpMap plan.localPrivateKey
  api.addOrUpdatePeer plan.peerNumId plan.peer.nodeKey target.peerAddress
  api.startTcpProxy target.peerAddress (hostIp target) kTailscaleTcpPorts

/-- Looks for a direct path next to DERP when both sides have a disco key. -/
def probeDirectPath (api : IWgxBackend β) (providers : Providers) (target : RemoteRouteTarget)
    (plan : RoutePlan) (backend : β) : β :=
  match providers.discoKeyProvider.getD none with
  | none => backend
  | some discoPrivate =>
    if allZero plan.peer.discoKey then backend
    else
      api.startDirectPath
        { peerStableId := target.peerId
          peerNodeKey := plan.peer.nodeKey
          peerDiscoKey := plan.peer.discoKey
          peerEndpoints := plan.peer.endpoints.map fun endpoint =>
            endpoint.address ++ ascii ":" ++ ascii (toString endpoint.port)
          localNodePrivate := plan.localPrivateKey
          localDiscoPrivate := discoPrivate
          derpMap := plan.derpMap
          derpRegion := plan.peer.homeDerp } backend

/-! ## How the steps end -/

section Steps

variable {api : IWgxBackend β} {target : RemoteRouteTarget} {chosen : RoutePlan} {b t : β}
variable {e : Bytes} {P : β → Prop}

/-- All four steps succeed in turn. -/
lemma bringUp_ok (h : bringUp api target chosen b = .ok () t) :
    ∃ up relayed shaken, ensureTunnel api chosen b = .ok () up ∧
      api.ensureDerpRoute chosen.peer.nodeKey chosen.peer.homeDerp chosen.derpMap
        chosen.localPrivateKey up = .ok () relayed ∧
      api.addOrUpdatePeer chosen.peerNumId chosen.peer.nodeKey target.peerAddress relayed =
        .ok () shaken ∧
      api.startTcpProxy target.peerAddress (hostIp target) kTailscaleTcpPorts shaken =
        .ok () t := by
  unfold bringUp at h
  obtain ⟨_, up, hup, h⟩ := Fallible.bind_eq_ok.mp h
  obtain ⟨_, relayed, hrelayed, h⟩ := Fallible.bind_eq_ok.mp h
  obtain ⟨_, shaken, hshaken, h⟩ := Fallible.bind_eq_ok.mp h
  exact ⟨up, relayed, shaken, hup, hrelayed, hshaken, h⟩

/-- What the first three steps keep is there when the fourth one fails. -/
lemma bringUp_error (htunnel : Keeps P (api.startTunnel chosen.localPrivateKey chosen.localIp))
    (hderp : Keeps P (api.ensureDerpRoute chosen.peer.nodeKey chosen.peer.homeDerp chosen.derpMap
      chosen.localPrivateKey))
    (hpeer : Keeps P
      (api.addOrUpdatePeer chosen.peerNumId chosen.peer.nodeKey target.peerAddress))
    (hb : P b) (h : bringUp api target chosen b = .error e t) :
    P t ∨ ∃ shaken, P shaken ∧
      api.startTcpProxy target.peerAddress (hostIp target) kTailscaleTcpPorts shaken =
        .error e t := by
  have hfirst : Keeps P (ensureTunnel api chosen) := by
    intro b hb
    unfold ensureTunnel
    split_ifs
    · exact hb
    · exact htunnel b hb
  unfold bringUp at h
  rcases bind_eq_error.mp h with h | ⟨_, up, hup, h⟩
  · exact Or.inl (hfirst.of_error hb h)
  have hb := hfirst.of_ok hb hup
  rcases bind_eq_error.mp h with h | ⟨_, relayed, hrelayed, h⟩
  · exact Or.inl (hderp.of_error hb h)
  have hb := hderp.of_ok hb hrelayed
  rcases bind_eq_error.mp h with h | ⟨_, shaken, hshaken, h⟩
  · exact Or.inl (hpeer.of_error hb h)
  · exact Or.inr ⟨shaken, hpeer.of_ok hb hshaken, h⟩

end Steps

structure TailscaleWgxRoute (β : Type) where
  backend : Option β
  activeTarget : Option RemoteRouteTarget := none
  streamingPrepared : Bool := false
  deriving DecidableEq, Repr

namespace TailscaleWgxRoute

def start (api : IWgxBackend β) (providers : Providers) (target : RemoteRouteTarget) :
    EStateM Bytes (TailscaleWgxRoute β) Unit := fun route =>
  match route.backend with
  | none =>
    .error (ascii ("Tailscale encrypted packet path is not release-ready; refusing to " ++
      "advertise a routable connection")) route
  | some backend =>
    match plan providers target with
    | .error error => .error error route
    | .ok plan =>
      match bringUp api target plan backend with
      | .error error backend => .error error { route with backend := some backend }
      | .ok _ backend => .ok ()
        { backend := some (probeDirectPath api providers target plan backend)
          activeTarget := some target, streamingPrepared := false }

def prepareForStreaming (api : IWgxBackend β) (target : RemoteRouteTarget) :
    EStateM Bytes (TailscaleWgxRoute β) Unit := fun route =>
  if route.activeTarget.map RemoteRouteTarget.peerId ≠ some target.peerId then
    .error (ascii "Cannot prepare streaming: route is not active for peer " ++ target.peerId) route
  else
    match route.backend with
    | none => .error (ascii "Cannot prepare streaming: tunnel backend is not running") route
    | some backend =>
      if api.isRunning backend = false then
        .error (ascii "Cannot prepare streaming: tunnel backend is not running") route
      else
        match api.startUdpRelay target.peerAddress kTailscaleUdpPorts backend with
        | .error error backend => .error error { route with backend := some backend }
        | .ok _ backend => .ok () { route with backend := some backend, streamingPrepared := true }

def stop (api : IWgxBackend β) (route : TailscaleWgxRoute β) : TailscaleWgxRoute β :=
  { backend := route.backend.map api.stop }

def isActive (api : IWgxBackend β) (route : TailscaleWgxRoute β) : Bool :=
  route.activeTarget.isSome && route.backend.any api.isRunning

/-! ## What the calls do to the target -/

variable {api : IWgxBackend β} {providers : Providers} {target : RemoteRouteTarget}
variable {route next : TailscaleWgxRoute β} {e : Bytes}

/-- A start that succeeds has brought the backend up for a plan. -/
lemma start_ok (h : start api providers target route = .ok () next) :
    ∃ backend chosen up, route.backend = some backend ∧ plan providers target = .ok chosen ∧
      bringUp api target chosen backend = .ok () up ∧
      next = { backend := some (probeDirectPath api providers target chosen up)
               activeTarget := some target, streamingPrepared := false } := by
  unfold start at h
  split at h
  · cases h
  · rename_i backend hbackend
    split at h
    · cases h
    · rename_i chosen hplan
      split at h
      · cases h
      · rename_i up hup
        cases h
        exact ⟨backend, chosen, up, hbackend, hplan, hup, rfl⟩

/-- Every way in which a start fails. -/
lemma start_error_cases (h : start api providers target route = .error e next) :
    route.backend = none ∧ next = route ∨
      (∃ backend, route.backend = some backend ∧ plan providers target = .error e ∧
        next = route) ∨
      ∃ backend chosen down, route.backend = some backend ∧ plan providers target = .ok chosen ∧
        bringUp api target chosen backend = .error e down ∧
        next = { route with backend := some down } := by
  unfold start at h
  split at h
  · rename_i hnone
    cases h
    exact Or.inl ⟨hnone, rfl⟩
  · rename_i backend hbackend
    split at h
    · rename_i hplan
      cases h
      exact Or.inr (Or.inl ⟨backend, hbackend, hplan, rfl⟩)
    · rename_i chosen hplan
      split at h
      · rename_i down hdown
        cases h
        exact Or.inr (Or.inr ⟨backend, chosen, down, hbackend, hplan, hdown, rfl⟩)
      · cases h

/-- A start that fails leaves the target, and at most the backend part of the way up. -/
lemma start_error (h : start api providers target route = .error e next) :
    next = route ∨ ∃ backend chosen down, route.backend = some backend ∧
      bringUp api target chosen backend = .error e down ∧
      next = { route with backend := some down } := by
  rcases start_error_cases h with ⟨-, hsame⟩ | ⟨_, -, -, hsame⟩ |
    ⟨backend, chosen, down, hbackend, -, hdown, hnext⟩
  · exact Or.inl hsame
  · exact Or.inl hsame
  · exact Or.inr ⟨backend, chosen, down, hbackend, hdown, hnext⟩

lemma activeTarget_start_error (h : start api providers target route = .error e next) :
    next.activeTarget = route.activeTarget := by
  rcases start_error h with rfl | ⟨_, _, _, _, _, rfl⟩
  · rfl
  · rfl

/-- Streaming is prepared for any target of the active peer. -/
lemma prepareForStreaming_ok (h : prepareForStreaming api target route = .ok () next) :
    route.activeTarget.map RemoteRouteTarget.peerId = some target.peerId ∧
      ∃ backend prepared, route.backend = some backend ∧ api.isRunning backend = true ∧
        api.startUdpRelay target.peerAddress kTailscaleUdpPorts backend = .ok () prepared ∧
        next = { route with backend := some prepared, streamingPrepared := true } := by
  unfold prepareForStreaming at h
  split_ifs at h with hpeer
  · split at h
    · cases h
    · rename_i backend hbackend
      split_ifs at h with hrunning
      split at h
      · cases h
      · rename_i prepared hprepared
        cases h
        exact ⟨not_not.mp hpeer, backend, prepared, hbackend, by simpa using hrunning,
          hprepared, rfl⟩

/-- However the call ends, it does at most to the backend what the UDP relay does to it. -/
lemma prepareForStreaming_final :
    final (prepareForStreaming api target route) = route ∨
      ∃ backend, route.backend = some backend ∧ api.isRunning backend = true ∧
        (final (prepareForStreaming api target route)).backend =
          some (final (api.startUdpRelay target.peerAddress kTailscaleUdpPorts backend)) := by
  unfold prepareForStreaming
  split_ifs with hpeer
  · exact Or.inl rfl
  · split
    · exact Or.inl rfl
    · rename_i backend hbackend
      split_ifs with hrunning
      · exact Or.inl rfl
      · refine Or.inr ⟨backend, hbackend, by simpa using hrunning, ?_⟩
        split <;> (rename_i hrelay; rw [hrelay]; rfl)

lemma activeTarget_prepareForStreaming :
    (final (prepareForStreaming api target route)).activeTarget = route.activeTarget := by
  unfold prepareForStreaming
  split_ifs
  · rfl
  · split
    · rfl
    · split_ifs
      · rfl
      · split <;> rfl

end TailscaleWgxRoute
end Backend
end ArtemisSwitch.Wgx

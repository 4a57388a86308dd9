import ArtemisSwitch.CoreRoutes

/-!
# Activations that fail

What a failed activation leaves of the backend, for the two backends of the program.
-/

namespace ArtemisSwitch.Wgx
open Netmap RemoteAccess Fallible Runs

/-! ## SimulatedWgxBackend -/

structure SimulatedWgxBackend where
  running : Bool := false
  tcpActive : Bool := false
  udpActive : Bool := false
  derpReady : Bool := false
  privateKey : Key32 := Key32.copyFrom []
  localIp : Bytes := []
  activePeerIp : Bytes := []
  activeHostIp : Bytes := []
  directConfig : Option DirectPathConfig := none
  tcpPorts : List UInt16 := []
  udpPorts : List UInt16 := []
  deriving DecidableEq, Repr

namespace SimulatedWgxBackend

def startTunnel (privateKey : Key32) (localIp : Bytes) :
    EStateM Bytes SimulatedWgxBackend Unit := fun b =>
  if allZero privateKey then .error (ascii "Simulated backend: private key is uninitialized") b
  else if localIp = [] ∨ isLiteralIPv4 localIp = false then
    .error (ascii "Simulated backend: invalid local IP address: " ++ localIp) b
  else .ok () { b with privateKey := privateKey, localIp := localIp, running := true }

def addOrUpdatePeer (peerId : UInt32) (publicKey : Key32) (peerIp : Bytes) :
    EStateM Bytes SimulatedWgxBackend Unit := fun b =>
  if b.running = false then .error (ascii "Simulated backend: tunnel not running") b
  else if peerId = 0 then .error (ascii "Simulated backend: peer ID must be non-zero") b
  else if allZero publicKey then
    .error (ascii "Simulated backend: public key is uninitialized") b
  else if peerIp = [] ∨ isLiteralIPv4 peerIp = false then
    .error (ascii "Simulated backend: invalid peer IP address: " ++ peerIp) b
  else .ok () { b with activePeerIp := peerIp }

def startTcpProxy (peerIp hostIp : Bytes) (ports : List UInt16) :
    EStateM Bytes SimulatedWgxBackend Unit := fun b =>
  if b.running = false then .error (ascii "Simulated backend: tunnel not running") b
  else if ports = [] then .error (ascii "Simulated backend: no TCP ports specified") b
  else .ok () { b with
    activePeerIp := peerIp, activeHostIp := hostIp, tcpPorts := ports, tcpActive := true }

def startUdpRelay (peerIp : Bytes) (ports : List UInt16) :
    EStateM Bytes SimulatedWgxBackend Unit := fun b =>
  if b.running = false ∨ b.tcpActive = false then
    .error (ascii "Simulated backend: cannot start UDP without active TCP route") b
  else if ports = [] then .error (ascii "Simulated backend: no UDP ports specified") b
  else .ok () { b with activePeerIp := peerIp, udpPorts := ports, udpActive := true }

def stopUdpRelay (b : SimulatedWgxBackend) : SimulatedWgxBackend :=
  { b with udpActive := false, udpPorts := [] }

def ensureDerpRoute (peerNodeKey : Key32) (homeDerpRegion : Int32) (_ : List DerpRegion)
    (_ : Key32) : EStateM Bytes SimulatedWgxBackend Unit := fun b =>
  if b.running = false then .error (ascii "Simulated backend: tunnel not running") b
  else if allZero peerNodeKey then
    .error (ascii "Simulated backend: peer node key is uninitialized") b
  else if homeDerpRegion ≤ 0 then
    .error (ascii "Simulated backend: peer has no home DERP region") b
  else .ok () { b with derpReady := true }

def stop (b : SimulatedWgxBackend) : SimulatedWgxBackend :=
  { b.stopUdpRelay with
    tcpActive := false, tcpPorts := [], running := false, derpReady := false
    activePeerIp := [], activeHostIp := [], directConfig := none }

def api : IWgxBackend SimulatedWgxBackend where
  startTunnel := startTunnel
  addOrUpdatePeer := addOrUpdatePeer
  startTcpProxy := startTcpProxy
  startUdpRelay := startUdpRelay
  ensureDerpRoute := ensureDerpRoute
  stop := stop
  isRunning := running
  startDirectPath config b := { b with directConfig := some config }

/-- As it was built, but for what it remembers of the last tunnel. -/
def Idle (b : SimulatedWgxBackend) : Prop :=
  b = { privateKey := b.privateKey, localIp := b.localIp }

end SimulatedWgxBackend

/-- As it was built, but for the key of the last peer. -/
def RealWgxBackend.Idle (b : RealWgxBackend) : Prop := b = { peerNodeKey := b.peerNodeKey }

/-! ## How a backend goes up and down -/

/-- A tunnel that starts runs until the backend is stopped. -/
structure Lawful {β : Type} (api : IWgxBackend β) (Idle : β → Prop) : Prop where
  stop b : Idle (api.stop b)
  idle {b} : Idle b → api.isRunning b = false
  refused {privateKey localIp b e t} : Idle b →
    api.startTunnel privateKey localIp b = .error e t → Idle t
  started {privateKey localIp b t} :
    api.startTunnel privateKey localIp b = .ok () t → api.isRunning t = true
  ensureDerpRoute (key region derpMap privateKey) :
    Keeps (fun b => api.isRunning b = true) (api.ensureDerpRoute key region derpMap privateKey)
  addOrUpdatePeer (peerId key ip) :
    Keeps (fun b => api.isRunning b = true) (api.addOrUpdatePeer peerId key ip)
  startTcpProxy (ip host ports) :
    Keeps (fun b => api.isRunning b = true) (api.startTcpProxy ip host ports)

theorem SimulatedWgxBackend.lawful : Lawful SimulatedWgxBackend.api SimulatedWgxBackend.Idle where
  stop b := rfl
  idle h := by
    rw [h]
    rfl
  refused hidle h := by
    dsimp only [api, startTunnel] at h
    split_ifs at h <;> cases h <;> exact hidle
  started h := by
    dsimp only [api, startTunnel] at h
    split_ifs at h
    cases h
    rfl
  ensureDerpRoute key region derpMap privateKey b hb := by
    dsimp only [api, SimulatedWgxBackend.ensureDerpRoute]
    split_ifs <;> exact hb
  addOrUpdatePeer peerId key ip b hb := by
    dsimp only [api, SimulatedWgxBackend.addOrUpdatePeer]
    split_ifs <;> exact hb
  startTcpProxy ip host ports b hb := by
    dsimp only [api, SimulatedWgxBackend.startTcpProxy]
    split_ifs <;> exact hb

theorem RealWgxBackend.lawful (lib : Libraries) :
    Lawful (RealWgxBackend.api lib) RealWgxBackend.Idle where
  stop b := rfl
  idle h := by
    rw [h]
    rfl
  refused hidle h := by
    dsimp only [api, startTunnel] at h
    split_ifs at h <;> cases h <;> rfl
  started h := by
    dsimp only [api, startTunnel] at h
    split_ifs at h
    cases h
    rfl
  ensureDerpRoute key region derpMap privateKey b hb := by
    have hmedia := @keeps_media_ensureDerpRoute lib key privateKey region derpMap _ b rfl
    exact (congrArg (·.2.2) hmedia).trans hb
  addOrUpdatePeer peerId key ip b hb := by
    have hmedia := @keeps_media_addOrUpdatePeer lib key ip peerId _ b rfl
    exact (congrArg (·.2.2) hmedia).trans hb
  startTcpProxy ip host ports b hb := by
    cases h : RealWgxBackend.startTcpProxy lib ip host ports b with
    | ok _ t =>
      dsimp only [api]
      rw [h]
      exact (startTcpProxy_ok h).2.1.trans hb
    | error e t =>
      dsimp only [api]
      rw [h]
      exact (startTcpProxy_error h).2.1.trans hb

/-! ## What a failure leaves -/

section Failure

variable {β : Type} {api : IWgxBackend β} {Idle : β → Prop} {b t : β} {chosen : RoutePlan}
  {providers : Providers} {target : RemoteRouteTarget} {e : Bytes}

/-- The calls after the tunnel leave it up. -/
lemma keeps_isRunning (hlaw : Lawful api Idle) :
    Keeps (fun b => api.isRunning b = true) (do
      api.ensureDerpRoute chosen.peer.nodeKey chosen.peer.homeDerp chosen.derpMap
        chosen.localPrivateKey
      api.addOrUpdatePeer chosen.peerNumId chosen.peer.nodeKey target.peerAddress
      api.startTcpProxy target.peerAddress (hostIp target) kTailscaleTcpPorts) := by
  apply (hlaw.ensureDerpRoute _ _ _ _).bind
  intro _
  apply (hlaw.addOrUpdatePeer _ _ _).bind
  intro _
  exact hlaw.startTcpProxy _ _ _

/-- A stopped backend that fails to come up is idle when the tunnel is what failed, and
running otherwise. -/
lemma bringUp_stopped (hlaw : Lawful api Idle) (hidle : Idle b)
    (h : bringUp api target chosen b = .error e t) :
    if succeeds (api.startTunnel chosen.localPrivateKey chosen.localIp b) then
      api.isRunning t = true
    else Idle t := by
  have htunnel : ensureTunnel api chosen b =
      api.startTunnel chosen.localPrivateKey chosen.localIp b := by
    rw [ensureTunnel, hlaw.idle hidle]
    rfl
  unfold bringUp at h
  rcases bind_eq_error.mp h with hfailed | ⟨_, up, hup, hfailed⟩
  · rw [htunnel] at hfailed
    rw [hfailed]
    exact hlaw.refused hidle hfailed
  · rw [htunnel] at hup
    rw [hup]
    exact (keeps_isRunning hlaw).of_error (hlaw.started hup) hfailed

end Failure

namespace TailscaleCore

variable {β : Type}

/-- The attempt ends before it has a tunnel: the target is refused, or the tunnel is. -/
def TunnelRefused (api : IWgxBackend β) (hash : Bytes → UInt64) (core : TailscaleCore β)
    (target : RemoteRouteTarget) : Prop :=
  ∀ b ∈ core.overlay.backend, ∀ chosen, plan (core.providers hash) target = .ok chosen →
    succeeds (api.startTunnel chosen.localPrivateKey chosen.localIp (api.stop b)) = false

/-- Nothing runs, and nothing of an attempt is left. -/
def Down (api : IWgxBackend β) (Idle : β → Prop) (core : TailscaleCore β) : Prop :=
  ∀ b ∈ core.overlay.backend, api.isRunning b = false ∧ Idle b

section Failure

variable {api : IWgxBackend β} {Idle : β → Prop} {hash : Bytes → UInt64}
  {core next : TailscaleCore β} {target : RemoteRouteTarget}

lemma activateRoute_error (h : core.activateRoute api hash target = (false, next)) :
    ∃ e, TailscaleWgxRoute.start api (core.providers hash) target (core.overlay.stop api) =
      .error e next.overlay := by
  unfold activateRoute at h
  split_ifs at h
  · cases h
  split at h
  · rename_i e overlay hstart
    cases h
    exact ⟨e, hstart⟩
  · cases h

/-- A failed activation leaves nothing behind exactly when it has not got as far as a tunnel. -/
lemma activateRoute_down_iff (hlaw : Lawful api Idle)
    (h : core.activateRoute api hash target = (false, next)) :
    next.Down api Idle ↔ core.TunnelRefused api hash target := by
  obtain ⟨e, hstart⟩ := activateRoute_error h
  have hstopped (b : β) (hb : core.overlay.backend = some b) :
      (core.overlay.stop api).backend = some (api.stop b) := congrArg (Option.map api.stop) hb
  rcases TailscaleWgxRoute.start_error_cases hstart with ⟨hnone, hnext⟩ | ⟨b, hb, hplan, hnext⟩ |
    ⟨down, chosen, t, hb, hplan, hfailed, hnext⟩
  · -- there is no backend
    have hcore : core.overlay.backend = none := Option.map_eq_none_iff.mp hnone
    unfold Down TunnelRefused
    rw [hnext, hnone, hcore]
    exact ⟨nofun, nofun⟩
  · -- the target is refused, and the backend is as the stop has left it
    refine ⟨fun _ b _ chosen hchosen => ?_, fun _ b hmem => ?_⟩
    · rw [hplan] at hchosen
      cases hchosen
    · rw [hnext, Option.mem_def, TailscaleWgxRoute.stop, Option.map_eq_some_iff] at hmem
      obtain ⟨b, -, rfl⟩ := hmem
      exact ⟨hlaw.idle (hlaw.stop b), hlaw.stop b⟩
  · -- the backend fails on its way up, with the tunnel or behind it
    obtain ⟨b, hcore, rfl⟩ := Option.map_eq_some_iff.mp hb
    have hend := bringUp_stopped hlaw (hlaw.stop b) hfailed
    unfold Down TunnelRefused
    rw [hnext, hcore]
    by_cases hup : succeeds
        (api.startTunnel chosen.localPrivateKey chosen.localIp (api.stop b)) = true
    · rw [if_pos hup] at hend
      refine ⟨fun hdown => ?_, fun hrefused => ?_⟩
      · have := (hdown t rfl).1
        rw [hend] at this
        cases this
      · have := hrefused b rfl chosen hplan
        rw [hup] at this
        cases this
    · rw [if_neg hup] at hend
      refine ⟨fun _ b' hb' chosen' hchosen' => ?_, fun _ b' hb' => ?_⟩
      · obtain rfl := Option.some.inj hb'
        rw [hplan] at hchosen'
        obtain rfl := Except.ok.inj hchosen'
        exact Bool.eq_false_iff.mpr hup
      · obtain rfl := Option.some.inj hb'
        exact ⟨hlaw.idle hend, hend⟩

end Failure

/-- For both backends, whatever their libraries answer. -/
theorem failed_activation_down_iff (hash : Bytes → UInt64) (target : RemoteRouteTarget) :
    (∀ (lib : Libraries) (core next : TailscaleCore RealWgxBackend),
      core.activateRoute (RealWgxBackend.api lib) hash target = (false, next) →
      (next.Down (RealWgxBackend.api lib) RealWgxBackend.Idle ↔
        core.TunnelRefused (RealWgxBackend.api lib) hash target)) ∧
    ∀ core next : TailscaleCore SimulatedWgxBackend,
      core.activateRoute SimulatedWgxBackend.api hash target = (false, next) →
      (next.Down SimulatedWgxBackend.api SimulatedWgxBackend.Idle ↔
        core.TunnelRefused SimulatedWgxBackend.api hash target) :=
  ⟨fun lib _ _ h => activateRoute_down_iff (RealWgxBackend.lawful lib) h,
    fun _ _ h => activateRoute_down_iff SimulatedWgxBackend.lawful h⟩

open Streaming

/-- Logged in on the console, before the first activation. -/
def beforeActivation : TailscaleCore RealWgxBackend :=
  (exec realStep { overlay := { backend := some {} } } loggedIn).get (by decide +kernel)

/-- No DERP node answers. -/
def unreachable : Libraries := { dial := fun _ _ => some (ascii "timeout") }

theorem failed_activation_down_iff_unreachable :
    (beforeActivation.activateRoute (RealWgxBackend.api unreachable) lengthHash study).1 = false ∧
    ((beforeActivation.activateRoute (RealWgxBackend.api unreachable) lengthHash study).2.Down
        (RealWgxBackend.api unreachable) RealWgxBackend.Idle ↔
      beforeActivation.TunnelRefused (RealWgxBackend.api unreachable) lengthHash study) :=
  have hfailed :
      (beforeActivation.activateRoute (RealWgxBackend.api unreachable) lengthHash study).1 =
        false := by
    decide +kernel
  ⟨hfailed, (failed_activation_down_iff lengthHash study).1 unreachable beforeActivation _
    (Prod.ext hfailed rfl)⟩

/-- The first activation has no relay, and leaves its tunnel. -/
theorem unreachable_leaves_tunnel :
    (beforeActivation.activateRoute (RealWgxBackend.api unreachable) lengthHash study).1 = false ∧
    (beforeActivation.overlay.backend.map RealWgxBackend.isRunning) = some false ∧
    ((beforeActivation.activateRoute (RealWgxBackend.api unreachable) lengthHash
      study).2.overlay.backend.map RealWgxBackend.isRunning) = some true := by
  refine ⟨?_, ?_, ?_⟩ <;> decide +kernel

end TailscaleCore
end ArtemisSwitch.Wgx

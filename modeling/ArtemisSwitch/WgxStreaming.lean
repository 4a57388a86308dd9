import ArtemisSwitch.Library.Runs
import ArtemisSwitch.WgxRoute

/-!
# Prepared streams and the relay

`udpPrepared_` stands for the UDP ports of a relay, but a route that is started again
gets a new relay and keeps the flag.
-/

namespace ArtemisSwitch.Wgx
open RemoteAccess Fallible Runs RealWgxBackend TailscaleWgxRoute

inductive Call
  | start (lib : Libraries) (providers : Providers) (target : RemoteRouteTarget)
  | prepareForStreaming (lib : Libraries) (target : RemoteRouteTarget)
  | stop (lib : Libraries)

/-- A route over `RealWgxBackend`, and the target of its last successful start. -/
structure Streaming where
  route : TailscaleWgxRoute RealWgxBackend := { backend := some {} }
  lastStarted : Option RemoteRouteTarget := none

namespace Streaming

def step (s : Streaming) : Call → Option Streaming
  | .start lib providers target =>
    match start (api lib) providers target s.route with
    | .ok _ route => some ⟨route, some target⟩
    | .error _ route => some { s with route := route }
  | .prepareForStreaming lib target =>
    some { s with route := final (prepareForStreaming (api lib) target s.route) }
  | .stop lib => some { s with route := TailscaleWgxRoute.stop (api lib) s.route }

/-- When streaming is prepared, the relay has every UDP port and leads to the host of the
last successful start. -/
def Relayed (s : Streaming) : Prop :=
  ∀ lib target next, prepareForStreaming (api lib) target s.route = .ok () next →
    ∃ b relay started, next.backend = some b ∧ b.relay = some relay ∧
      (∀ port ∈ kTailscaleUdpPorts, port ∈ relay.udpPorts) ∧
      s.lastStarted = some started ∧ relay.hostIp = hostIp started

def udpPrepared (s : Streaming) : Bool := s.route.backend.any RealWgxBackend.udpPrepared

/-- No start goes through while the UDP ports count as prepared. -/
def KeepsRelay (s : Streaming) : Call → Prop
  | .start lib providers target =>
    s.udpPrepared = true → succeeds (start (api lib) providers target s.route) = false
  | _ => True

instance (s : Streaming) (call : Call) : Decidable (s.KeepsRelay call) :=
  match call with
  | .start _ _ _ => inferInstanceAs (Decidable (_ → _))
  | .prepareForStreaming _ _ => inferInstanceAs (Decidable True)
  | .stop _ => inferInstanceAs (Decidable True)

/-! ## The relay of a reachable state -/

/-- The relay leads to the host of `started` and has its TCP ports, it has the UDP ports when
they count as prepared, and they do so only with a tunnel. -/
structure RelayInv (started : Option RemoteRouteTarget) (b : RealWgxBackend) : Prop where
  host : ∀ relay, b.relay = some relay → started.map hostIp = some relay.hostIp
  tcp : ∀ relay, b.relay = some relay → ∀ port ∈ kTailscaleTcpPorts, port ∈ relay.tcpPorts
  ports : ∀ relay, b.relay = some relay → b.udpPrepared = true →
    ∀ port ∈ kTailscaleUdpPorts, port ∈ relay.udpPorts
  tunnel : b.udpPrepared = true → b.isRunning = true

def Inv (s : Streaming) : Prop := ∃ b, s.route.backend = some b ∧ RelayInv s.lastStarted b

variable {started : Option RemoteRouteTarget} {b t : RealWgxBackend} {lib : Libraries}
variable {target : RemoteRouteTarget} {chosen : RoutePlan} {e : Bytes} {call : Call}
variable {s next : Streaming} {providers : Providers}

lemma RelayInv.of_media (h : RelayInv started b) (hm : t.media = b.media) :
    RelayInv started t := by
  simp only [media, Prod.mk.injEq] at hm
  obtain ⟨hrelay, hprepared, hrunning⟩ := hm
  constructor
  · rw [hrelay]
    exact h.host
  · rw [hrelay]
    exact h.tcp
  · rw [hrelay, hprepared]
    exact h.ports
  · rw [hprepared, hrunning]
    exact h.tunnel

/-- Without a relay nothing is prepared for good. -/
lemma RelayInv.of_none (hrelay : t.relay = none)
    (htunnel : t.udpPrepared = true → t.isRunning = true) : RelayInv started t := by
  constructor
  · simp [hrelay]
  · simp [hrelay]
  · simp [hrelay]
  · exact htunnel

lemma relayInv_initial : RelayInv none {} := RelayInv.of_none rfl nofun

/-- `stop` destroys the relay and forgets that streaming was prepared. -/
lemma relayInv_stop : RelayInv started b.stop := RelayInv.of_none rfl nofun

lemma keeps_startTunnel {key : Netmap.Key32} {ip : Bytes} :
    Keeps (RelayInv started) ((api lib).startTunnel key ip) := by
  intro b _
  obtain ⟨hrelay, hprepared⟩ := @media_startTunnel lib key ip b
  refine RelayInv.of_none hrelay ?_
  intro hon
  exact absurd (hprepared.symm.trans hon) Bool.false_ne_true

lemma keeps_ensureDerpRoute {key privateKey : Netmap.Key32} {region : Int32}
    {derpMap : List Netmap.DerpRegion} :
    Keeps (RelayInv started) ((api lib).ensureDerpRoute key region derpMap privateKey) := by
  intro b h
  exact h.of_media (keeps_media_ensureDerpRoute b rfl)

lemma keeps_addOrUpdatePeer {peerId : UInt32} {key : Netmap.Key32} {ip : Bytes} :
    Keeps (RelayInv started) ((api lib).addOrUpdatePeer peerId key ip) := by
  intro b h
  exact h.of_media (@keeps_media_addOrUpdatePeer lib key ip peerId _ b rfl)

/-- A failed start keeps the relay of the last one or destroys it. -/
lemma relayInv_bringUp_error (h : RelayInv started b)
    (hb : bringUp (api lib) target chosen b = .error e t) : RelayInv started t := by
  rcases bringUp_error keeps_startTunnel keeps_ensureDerpRoute keeps_addOrUpdatePeer h hb with
    h | ⟨shaken, hshaken, hproxy⟩
  · exact h
  · obtain ⟨hprepared, hrunning, hrelay | hrelay⟩ := startTcpProxy_error hproxy
    · refine RelayInv.of_none hrelay ?_
      rw [hprepared, hrunning]
      exact hshaken.tunnel
    · exact hshaken.of_media (by simp [media, hprepared, hrunning, hrelay])

/-- A start that succeeds has a new relay, and what counted as prepared still does. -/
lemma bringUp_relay (h : RelayInv started b)
    (hb : bringUp (api lib) target chosen b = .ok () t) :
    t.udpPrepared = b.udpPrepared ∧ (t.udpPrepared = true → t.isRunning = true) ∧
      ∃ relay, t.relay = some relay ∧ relay.hostIp = hostIp target ∧ relay.udpPorts = [] ∧
        ∀ port ∈ kTailscaleTcpPorts, port ∈ relay.tcpPorts := by
  obtain ⟨up, relayed, shaken, hup, hrelayed, hshaken, hproxy⟩ := bringUp_ok hb
  have hsame : shaken.media = up.media := by
    have hderp : relayed.media = up.media := keeps_media_ensureDerpRoute.of_ok rfl hrelayed
    exact (@keeps_media_addOrUpdatePeer lib chosen.peer.nodeKey target.peerAddress
      chosen.peerNumId _).of_ok hderp hshaken
  obtain ⟨hprepared, hrunning, relay, hrelay, hhost, hports⟩ := startTcpProxy_ok hproxy
  simp only [media, Prod.mk.injEq] at hsame
  -- a tunnel that is brought up anew was down, and so nothing counted as prepared
  have hflag : up.udpPrepared = b.udpPrepared ∧ (up.udpPrepared = true → up.isRunning = true) := by
    unfold ensureTunnel at hup
    split_ifs at hup with hrun
    · cases hup
      exact ⟨rfl, h.tunnel⟩
    · have hoff : b.udpPrepared = false := by
        by_contra hon
        exact hrun (h.tunnel (by simpa using hon))
      have hclear := (@media_startTunnel lib chosen.localPrivateKey chosen.localIp b).2
      rw [show startTunnel lib _ _ b = .ok () up from hup, final_ok] at hclear
      simp [hoff, hclear]
  refine ⟨?_, ?_, relay, hrelay, hhost, hports⟩
  · rw [hprepared, hsame.2.1, hflag.1]
  · rw [hprepared, hrunning, hsame.2.1, hsame.2.2]
    exact hflag.2

lemma media_probeDirectPath :
    (probeDirectPath (api lib) providers target chosen b).media = b.media := by
  unfold probeDirectPath
  split
  · rfl
  · split_ifs
    · rfl
    · show (startDirectPath lib _ b).media = b.media
      unfold startDirectPath
      split_ifs <;> rfl

/-- A start that succeeds while no port counts as prepared has the relay of its target. -/
lemma relayInv_bringUp (h : RelayInv started b) (hoff : b.udpPrepared = false)
    (hb : bringUp (api lib) target chosen b = .ok () t) :
    RelayInv (some target) (probeDirectPath (api lib) providers target chosen t) := by
  obtain ⟨hprepared, htunnel, relay, hrelay, hhost, -, htcp⟩ := bringUp_relay h hb
  refine RelayInv.of_media ?_ media_probeDirectPath
  constructor
  · intro r hr
    obtain rfl := Option.some.inj (hrelay.symm.trans hr)
    simp [hhost]
  · intro r hr
    obtain rfl := Option.some.inj (hrelay.symm.trans hr)
    exact htcp
  · intro _ _ hon
    rw [hprepared, hoff] at hon
    cases hon
  · exact htunnel

lemma relayInv_startUdpRelay {ip : Bytes} (h : RelayInv started b) (hrunning : b.isRunning = true) :
    RelayInv started (final ((api lib).startUdpRelay ip kTailscaleUdpPorts b)) := by
  cases hr : (api lib).startUdpRelay ip kTailscaleUdpPorts b with
  | ok _ t =>
    obtain ⟨hsame, hprepared, relay, next, hrelay, hnext, hhost, htcp, hports⟩ :=
      @startUdpRelay_ok lib b t ip _ hr
    constructor
    · intro r hr
      obtain rfl := Option.some.inj (hnext.symm.trans hr)
      rw [hhost]
      exact h.host relay hrelay
    · intro r hr
      obtain rfl := Option.some.inj (hnext.symm.trans hr)
      rw [htcp]
      exact h.tcp relay hrelay
    · intro r hr _
      obtain rfl := Option.some.inj (hnext.symm.trans hr)
      rcases hports with ⟨hon, rfl⟩ | hports
      · exact h.ports next hrelay hon
      · exact hports
    · intro _
      exact hsame.trans hrunning
  | error e t =>
    -- the relay is as it was, or has some of the ports and does not count as prepared
    obtain ⟨hsame, hprepared, hrelay | ⟨hoff, relay, next, hrelay, hnext, hhost, htcp⟩⟩ :=
      @startUdpRelay_error lib b t e ip _ hr
    · exact h.of_media (by simp [media, hprepared, hsame, hrelay])
    · constructor
      · intro r hr
        obtain rfl := Option.some.inj (hnext.symm.trans hr)
        rw [hhost]
        exact h.host relay hrelay
      · intro r hr
        obtain rfl := Option.some.inj (hnext.symm.trans hr)
        rw [htcp]
        exact h.tcp relay hrelay
      · intro _ _ hon
        rw [final_error, hprepared, hoff] at hon
        cases hon
      · intro _
        exact hsame.trans hrunning

/-! ## Runs -/

/-- A start from a state whose relay is sound. -/
lemma inv_start (h : Inv s) (hs : s.step (.start lib providers target) = some next)
    (hok : KeepsRelay s (.start lib providers target)) : Inv next := by
  obtain ⟨b, hb, hinv⟩ := h
  simp only [step] at hs
  split at hs
  · rename_i route hstart
    obtain rfl := Option.some.inj hs
    obtain ⟨b', chosen, up, hb', -, hup, rfl⟩ := start_ok hstart
    obtain rfl := Option.some.inj (hb.symm.trans hb')
    -- a start that succeeds meets the condition only if nothing was prepared
    have hoff : b.udpPrepared = false := by
      by_contra hon
      have hfails := hok (by simpa [udpPrepared, hb] using hon)
      rw [hstart] at hfails
      cases hfails
    exact ⟨_, rfl, relayInv_bringUp hinv hoff hup⟩
  · rename_i error route hstart
    obtain rfl := Option.some.inj hs
    rcases start_error hstart with rfl | ⟨b', chosen, down, hb', hdown, rfl⟩
    · exact ⟨b, hb, hinv⟩
    · obtain rfl := Option.some.inj (hb.symm.trans hb')
      exact ⟨down, rfl, relayInv_bringUp_error hinv hdown⟩

lemma inv_prepareForStreaming (h : Inv s)
    (hs : s.step (.prepareForStreaming lib target) = some next) : Inv next := by
  obtain ⟨b, hb, hinv⟩ := h
  obtain rfl := Option.some.inj hs
  rcases @prepareForStreaming_final _ (api lib) target s.route with hsame | ⟨b', hb', hrunning, ht⟩
  · exact ⟨b, by rw [hsame, hb], hinv⟩
  · obtain rfl := Option.some.inj (hb.symm.trans hb')
    exact ⟨_, ht, relayInv_startUdpRelay hinv hrunning⟩

lemma inv_step (h : Inv s) (hok : KeepsRelay s call) (hs : s.step call = some next) :
    Inv next := by
  cases call with
  | start lib providers target => exact inv_start h hs hok
  | prepareForStreaming lib target => exact inv_prepareForStreaming h hs
  | stop lib =>
    obtain ⟨b, hb, -⟩ := h
    obtain rfl := Option.some.inj hs
    refine ⟨b.stop, by simp [TailscaleWgxRoute.stop, hb, api], ?_⟩
    exact relayInv_stop

/-- The relay of a sound state is the one that streaming was prepared on. -/
lemma Inv.relayed (h : Inv s) : Relayed s := by
  intro lib target next hp
  obtain ⟨b, hb, hinv⟩ := h
  obtain ⟨-, b', prepared, hb', hrunning, hprepared, rfl⟩ := prepareForStreaming_ok hp
  obtain rfl := Option.some.inj (hb.symm.trans hb')
  have hafter := @relayInv_startUdpRelay _ _ lib target.peerAddress hinv hrunning
  rw [hprepared] at hafter
  obtain ⟨-, hon, -, relay, -, hrelay, -⟩ :=
    @startUdpRelay_ok lib _ _ target.peerAddress _ hprepared
  have hhost := hafter.host relay hrelay
  obtain ⟨started, hstarted, hhost⟩ := Option.map_eq_some_iff.mp hhost
  exact ⟨prepared, relay, started, rfl, hrelay, hafter.ports relay hrelay hon, hstarted, hhost.symm⟩

/-- A relay that counts as prepared takes no port. -/
lemma startUdpRelay_prepared {ip : Bytes} {relay : WgxRelay} (hrelay : b.relay = some relay)
    (hprepared : b.udpPrepared = true) :
    (api {}).startUdpRelay ip kTailscaleUdpPorts b = .ok () b := by
  show startUdpRelay {} ip kTailscaleUdpPorts b = .ok () b
  unfold startUdpRelay
  simp [hrelay, hprepared]

/-- A start that goes through while the ports count as prepared leaves a relay without any,
on which the next call prepares nothing. -/
lemma not_relayed (h : Inv s) (hs : s.step (.start lib providers target) = some next)
    (hok : ¬KeepsRelay s (.start lib providers target)) : ¬Relayed next := by
  obtain ⟨b, hb, hinv⟩ := h
  obtain ⟨hon, hsucceeds⟩ := Classical.not_imp.mp hok
  obtain ⟨_, route, hstart⟩ := succeeds_iff.mp (Bool.of_not_eq_false hsucceeds)
  simp only [step] at hs
  rw [hstart] at hs
  obtain rfl := Option.some.inj hs
  obtain ⟨b', chosen, up, hb', -, hup, hroute⟩ := start_ok hstart
  obtain rfl := Option.some.inj (hb.symm.trans hb')
  obtain ⟨hprepared, htunnel, relay, hrelay, -, hports, -⟩ := bringUp_relay hinv hup
  have hmedia := @media_probeDirectPath up lib target chosen providers
  simp only [media, Prod.mk.injEq] at hmedia
  obtain ⟨hsameRelay, hsamePrepared, hsameRunning⟩ := hmedia
  have hupOn : up.udpPrepared = true := by
    rw [hprepared]
    simpa [udpPrepared, hb] using hon
  -- libraries that refuse nothing: the call succeeds and opens no port
  have hcall : prepareForStreaming (api {}) target route =
      .ok () { route with streamingPrepared := true } := by
    rw [hroute]
    have hrelay' := hsameRelay.trans hrelay
    have hprepared' := hsamePrepared.trans hupOn
    have hrunning : (api {}).isRunning (probeDirectPath (api lib) providers target chosen up) =
        true := hsameRunning.trans (htunnel hupOn)
    simp [prepareForStreaming, hrunning, startUdpRelay_prepared hrelay' hprepared']
  intro hrelayed
  obtain ⟨t, relay', _, ht, hrelay', hall, -⟩ := hrelayed {} target _ hcall
  rw [hroute] at ht
  obtain rfl := Option.some.inj ht
  obtain rfl := Option.some.inj ((hsameRelay.trans hrelay).symm.trans hrelay')
  have hport := hall 47998 (by decide)
  simp [hports] at hport

/-- One call from a state whose relay is sound. -/
lemma relayed_iff (h : Inv s) (hs : s.step call = some next) :
    Relayed next ↔ KeepsRelay s call := by
  constructor
  · intro hrelayed
    by_contra hok
    cases call with
    | start lib providers target => exact not_relayed h hs hok hrelayed
    | prepareForStreaming lib target => exact hok trivial
    | stop lib => exact hok trivial
  · intro hok
    exact (inv_step h hok hs).relayed

lemma inv_initial : Inv {} := ⟨{}, rfl, relayInv_initial⟩

/-- In a run whose starts all meet the condition, streaming that is prepared is relayed, and
the first start that does not meet it ends that. -/
theorem relayed_of_keepsRelay (s : Streaming) (hrun : Run step KeepsRelay {} s) :
    Relayed s ∧ ∀ call next, s.step call = some next → (Relayed next ↔ KeepsRelay s call) := by
  have h : Inv s := hrun.invariant inv_initial fun _ _ _ h hok hs => inv_step h hok hs
  exact ⟨h.relayed, fun _ _ hs => relayed_iff h hs⟩

/-! ## Two hosts behind one subnet router -/

def router : Netmap.Peer where
  stableId := ascii "n1"
  nodeKey := Netmap.Key32.copyFrom (ascii "router")
  discoKey := Netmap.Key32.copyFrom []
  hostname := ascii "router"
  addresses := [ascii "100.64.0.7"]
  allowedIPs := [ascii "192.168.1.0/24"]
  endpoints := []
  homeDerp := 3
  online := true
  os := ascii "linux"
  tcpServicePorts := []
  servicesKnown := false

/-- The length of a text as its `std::hash`. -/
def lengthHash (text : Bytes) : UInt64 := UInt64.ofNat text.length

def tailnet : Providers where
  peerResolver := some fun peerId => if peerId = router.stableId then some router else none
  localInfoProvider := some (some (ascii "100.64.0.2", Netmap.Key32.copyFrom (ascii "local")))
  derpMapProvider := some [⟨3, ascii "test", [⟨ascii "derp3.example", 443, 3478⟩]⟩]
  discoKeyProvider := none
  hash := lengthHash

def study : RemoteRouteTarget :=
  ⟨ascii "n1", ascii "100.64.0.7", ascii "192.168.1.50", [], .proxy⟩

def lounge : RemoteRouteTarget :=
  ⟨ascii "n1", ascii "100.64.0.7", ascii "192.168.1.51", [], .proxy⟩

/-- Streaming from one host, then from the other one, with a stop between. -/
def switched : Streaming :=
  (exec (guarded step KeepsRelay) {}
    [.start {} tailnet study, .prepareForStreaming {} study, .stop {},
      .start {} tailnet lounge, .prepareForStreaming {} lounge]).get (by decide +kernel)

theorem relayed_switched : Relayed switched :=
  (relayed_of_keepsRelay switched (.of_exec_guarded (Option.some_get _).symm)).1

/-- Without the stop the second stream is prepared on a relay without UDP ports. -/
theorem prepared_without_ports :
    ∃ s, Run step (fun _ _ => True) {} s ∧
      succeeds (prepareForStreaming (api {}) lounge s.route) = true ∧
      (s.route.backend.bind RealWgxBackend.relay).map WgxRelay.udpPorts = some [] :=
  ⟨(exec step {} [.start {} tailnet study, .prepareForStreaming {} study,
      .start {} tailnet lounge]).get (by decide +kernel),
    .of_exec (Option.some_get _).symm (by simp), by decide +kernel, by decide +kernel⟩

end Streaming
end ArtemisSwitch.Wgx

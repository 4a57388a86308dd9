import ArtemisSwitch.StateStore
import ArtemisSwitch.WgxStreaming

/-!
# The routes of TailscaleCore

`TailscaleCore` puts its own record of the active route over the overlay's.  Route calls
run under `routeMutex_`; between them the netmap changes, and so does the backend, whose
threads go on.
-/

namespace ArtemisSwitch.Wgx
open Netmap RemoteAccess Fallible Runs
open StateStore (Identity)

inductive SnapshotState
  | stopped
  | starting
  | needsAuthentication
  | connectingControl
  | connectedControl
  | ready
  | error
  deriving DecidableEq, Repr

/-- The snapshot without its copy of the peers. -/
structure Snapshot where
  state : SnapshotState := .stopped
  localAddress : Bytes := []
  derpMap : List DerpRegion := []
  status : Bytes := []
  lastError : Bytes := []
  deriving DecidableEq, Repr

/-- The part that route calls read and write. -/
structure TailscaleCore (β : Type) where
  overlay : TailscaleWgxRoute β
  peers : PeerDirectory := ∅
  identity : Option Identity := none
  snapshot : Snapshot := {}
  activeRoute : Option RemoteRouteTarget := none

namespace TailscaleCore

variable {β ω : Type}

def setState (core : TailscaleCore β) (state : SnapshotState) (status error : Bytes) :
    TailscaleCore β :=
  { core with
    snapshot := { core.snapshot with state := state, status := status, lastError := error } }

/-- The providers that the constructor installs. -/
def providers (hash : Bytes → UInt64) (core : TailscaleCore β) : Providers where
  peerResolver := some fun peerId => core.peers.lookup peerId
  localInfoProvider := some <|
    if core.snapshot.localAddress = [] then none
    else core.identity.map fun identity => (core.snapshot.localAddress, identity.nodePrivate)
  derpMapProvider := some core.snapshot.derpMap
  discoKeyProvider := some (core.identity.map Identity.discoPrivate)
  hash := hash

/-- The active route dials the same host through the same peer. -/
def isActive (core : TailscaleCore β) (target : RemoteRouteTarget) : Bool :=
  core.activeRoute.any fun active =>
    active.peerId = target.peerId && active.targetAddress = target.targetAddress

/-- The home region that this call advertises has no part in the route. -/
def activateRoute (api : IWgxBackend β) (hash : Bytes → UInt64) (core : TailscaleCore β)
    (target : RemoteRouteTarget) : Bool × TailscaleCore β :=
  if core.isActive target then (true, core)
  else
    match TailscaleWgxRoute.start api (core.providers hash) target (core.overlay.stop api) with
    | .error error overlay =>
      (false, { core.setState .error (ascii "Route failed") error with
        overlay := overlay, activeRoute := none })
    | .ok _ overlay => (true, { core with overlay := overlay, activeRoute := some target })

def prepareRouteForStreaming (api : IWgxBackend β) (core : TailscaleCore β)
    (target : RemoteRouteTarget) : Bool × TailscaleCore β :=
  if core.activeRoute.map RemoteRouteTarget.peerId ≠ some target.peerId then (false, core)
  else
    match TailscaleWgxRoute.prepareForStreaming api target core.overlay with
    | .error error overlay =>
      (false, { core.setState .error (ascii "Stream route failed") error with overlay := overlay })
    | .ok _ overlay => (true, { core with overlay := overlay })

def deactivateRoute (api : IWgxBackend β) (core : TailscaleCore β) (target : RemoteRouteTarget) :
    TailscaleCore β :=
  if core.isActive target then
    { core with overlay := core.overlay.stop api, activeRoute := none }
  else core

/-- The route part of `stop`. -/
def stop (api : IWgxBackend β) (core : TailscaleCore β) : TailscaleCore β :=
  { core.setState .stopped (ascii "Stopped") [] with
    overlay := core.overlay.stop api, activeRoute := none }

def replacePeers (core : TailscaleCore β) (peers : List Peer) (localAddress : Bytes) :
    TailscaleCore β :=
  if isLiteralIPv4 localAddress = false then core
  else
    match PeerDirectory.replace peers with
    | .error _ => core
    | .ok replaced =>
      { core with
        peers := replaced
        snapshot := { core.snapshot with
          localAddress := localAddress, state := .ready, status := ascii "Ready"
          lastError := [] } }

def applyPeerDelta (core : TailscaleCore β) (delta : PeerDelta) : TailscaleCore β :=
  match core.peers.apply delta with
  | .error _ => core
  | .ok applied => { core with peers := applied }

/-- `answers` stands for what happens outside during a call; `background` is a step of the
backend's own threads. -/
inductive Event (ω : Type)
  | activateRoute (answers : ω) (target : RemoteRouteTarget)
  | prepareRouteForStreaming (answers : ω) (target : RemoteRouteTarget)
  | deactivateRoute (answers : ω) (target : RemoteRouteTarget)
  | stop (answers : ω)
  | identified (identity : Identity)
  | replacePeers (peers : List Peer) (localAddress : Bytes)
  | applyPeerDelta (delta : PeerDelta)
  | updateDerpMap (regions : List DerpRegion)
  | background (answers : ω)

def step (api : ω → IWgxBackend β) (background : ω → β → β) (hash : Bytes → UInt64)
    (core : TailscaleCore β) : Event ω → TailscaleCore β
  | .activateRoute answers target => (core.activateRoute (api answers) hash target).2
  | .prepareRouteForStreaming answers target =>
    (core.prepareRouteForStreaming (api answers) target).2
  | .deactivateRoute answers target => core.deactivateRoute (api answers) target
  | .stop answers => core.stop (api answers)
  | .identified identity => { core with identity := some identity }
  | .replacePeers peers localAddress => core.replacePeers peers localAddress
  | .applyPeerDelta delta => core.applyPeerDelta delta
  | .updateDerpMap regions =>
    { core with snapshot := { core.snapshot with derpMap := regions } }
  | .background answers =>
    { core with overlay := { core.overlay with
        backend := core.overlay.backend.map (background answers) } }

/-! ## What the calls leave -/

variable {api : IWgxBackend β} {hash : Bytes → UInt64} {core next : TailscaleCore β}
variable {target active : RemoteRouteTarget}

lemma isActive_iff : core.isActive target = true ↔ ∃ active, core.activeRoute = some active ∧
    active.peerId = target.peerId ∧ active.targetAddress = target.targetAddress := by
  unfold isActive
  cases core.activeRoute <;> simp

/-- An activation that goes through starts the overlay for the target. -/
lemma activateRoute_ok (hnew : core.isActive target = false)
    (h : core.activateRoute api hash target = (true, next)) :
    ∃ overlay, TailscaleWgxRoute.start api (core.providers hash) target (core.overlay.stop api) =
        .ok () overlay ∧
      next = { core with overlay := overlay, activeRoute := some target } := by
  unfold activateRoute at h
  rw [if_neg (by simp [hnew])] at h
  split at h
  · cases h
  · rename_i overlay hstart
    cases h
    exact ⟨overlay, hstart, rfl⟩

/-- Streaming is prepared by the overlay, for any target of the active peer. -/
lemma prepareRouteForStreaming_ok (h : (core.prepareRouteForStreaming api target).1 = true) :
    core.activeRoute.map RemoteRouteTarget.peerId = some target.peerId ∧
      succeeds (TailscaleWgxRoute.prepareForStreaming api target core.overlay) = true := by
  unfold prepareRouteForStreaming at h
  split_ifs at h with hpeer
  split at h
  · cases h
  · rename_i overlay hprepared
    rw [hprepared]
    exact ⟨not_not.mp hpeer, rfl⟩

/-- What the call leaves of the overlay is what the overlay's call leaves, if it comes to that. -/
lemma prepareRouteForStreaming_cases :
    (core.prepareRouteForStreaming api target).2.activeRoute = core.activeRoute ∧
      ((core.prepareRouteForStreaming api target).2.overlay = core.overlay ∨
        (core.prepareRouteForStreaming api target).2.overlay =
          final (TailscaleWgxRoute.prepareForStreaming api target core.overlay)) := by
  unfold prepareRouteForStreaming
  split_ifs
  · exact ⟨rfl, Or.inl rfl⟩
  · split <;> (rename_i h; rw [h]; exact ⟨rfl, Or.inr rfl⟩)

/-! ## One target on both levels -/

variable {apis : ω → IWgxBackend β} {background : ω → β → β} {event : Event ω}

lemma activeTarget_activateRoute (h : core.activeRoute = core.overlay.activeTarget) :
    (core.activateRoute api hash target).2.activeRoute =
      (core.activateRoute api hash target).2.overlay.activeTarget := by
  unfold activateRoute
  split_ifs
  · exact h
  · split
    · rename_i error overlay hstart
      rw [TailscaleWgxRoute.activeTarget_start_error hstart]
      rfl
    · rename_i overlay hstart
      obtain ⟨_, _, _, _, _, _, rfl⟩ := TailscaleWgxRoute.start_ok hstart
      rfl

lemma activeTarget_prepareRouteForStreaming (h : core.activeRoute = core.overlay.activeTarget) :
    (core.prepareRouteForStreaming api target).2.activeRoute =
      (core.prepareRouteForStreaming api target).2.overlay.activeTarget := by
  obtain ⟨hroute, hsame | hfinal⟩ := @prepareRouteForStreaming_cases β api core target
  · rw [hroute, hsame, h]
  · rw [hroute, hfinal, TailscaleWgxRoute.activeTarget_prepareForStreaming, h]

/-- No call sets one of the two targets without the other. -/
lemma activeTarget_step (h : core.activeRoute = core.overlay.activeTarget) :
    (core.step apis background hash event).activeRoute =
      (core.step apis background hash event).overlay.activeTarget := by
  cases event with
  | activateRoute answers target => exact activeTarget_activateRoute h
  | prepareRouteForStreaming answers target => exact activeTarget_prepareRouteForStreaming h
  | deactivateRoute answers target =>
    simp only [step, deactivateRoute]
    split_ifs
    · rfl
    · exact h
  | stop answers => rfl
  | replacePeers peers localAddress =>
    simp only [step, replacePeers]
    split_ifs
    · exact h
    · split <;> exact h
  | applyPeerDelta delta =>
    simp only [step, applyPeerDelta]
    split <;> exact h
  | identified _ | updateDerpMap _ | background _ => exact h

/-- Core and overlay have the same target in every reachable state. -/
lemma activeTarget_run (backend : Option β) (core : TailscaleCore β)
    (hrun : Run (fun core event => some (step apis background hash core event)) (fun _ _ => True)
      { overlay := { backend := backend } } core) :
    core.activeRoute = core.overlay.activeTarget := by
  apply hrun.invariant
  · rfl
  · intro core event next h _ hs
    obtain rfl := Option.some.inj hs
    exact activeTarget_step h

end TailscaleCore

/-! ## Where the relays lead -/

namespace TailscaleCore
open RealWgxBackend Streaming

/-- The end of a DERP session is what the backend's threads do to a route. -/
def sessionEnds (_ : Libraries) (b : RealWgxBackend) : RealWgxBackend := b.derpReaderEnds

/-- The relay is the one of the active route: it leads to the host of that route and has its
TCP ports, and it has the UDP ports when they count as prepared. -/
def RelaySound (core : TailscaleCore RealWgxBackend) : Prop :=
  ∃ b, core.overlay.backend = some b ∧ RelayInv core.activeRoute b

variable {hash : Bytes → UInt64} {core next : TailscaleCore RealWgxBackend} {lib : Libraries}
variable {target : RemoteRouteTarget} {event : Event Libraries}

/-- Streaming that is prepared is prepared for the peer and the host of the active route. -/
def PreparesActive (lib : Libraries) (core : TailscaleCore RealWgxBackend)
    (target : RemoteRouteTarget) : Prop :=
  (core.prepareRouteForStreaming (api lib) target).1 = true →
    ∃ active, core.activeRoute = some active ∧ active.peerId = target.peerId ∧
      active.targetAddress = target.targetAddress

/-- A target of the active peer names the active host, or there is no tunnel to prepare or no
relay that takes the UDP ports. -/
def SameHost (lib : Libraries) (core : TailscaleCore RealWgxBackend)
    (target : RemoteRouteTarget) : Prop :=
  ∀ active ∈ core.activeRoute, active.peerId = target.peerId →
    active.targetAddress = target.targetAddress ∨
      ∀ b ∈ core.overlay.backend, b.isRunning = false ∨ b.RefusesUdp lib kTailscaleUdpPorts

/-- The overlay prepares streaming for the active peer on a running tunnel whose relay takes
the ports. -/
lemma prepareForStreaming_succeeds {route : TailscaleWgxRoute RealWgxBackend} :
    succeeds (TailscaleWgxRoute.prepareForStreaming (api lib) target route) = true ↔
      route.activeTarget.map RemoteRouteTarget.peerId = some target.peerId ∧
        ∃ b, route.backend = some b ∧ b.isRunning = true ∧
          ¬b.RefusesUdp lib kTailscaleUdpPorts := by
  constructor
  · intro h
    obtain ⟨_, next, hok⟩ := succeeds_iff.mp h
    obtain ⟨hpeer, b, prepared, hb, hrunning, hprepared, -⟩ :=
      TailscaleWgxRoute.prepareForStreaming_ok hok
    refine ⟨hpeer, b, hb, hrunning, ?_⟩
    rw [← @startUdpRelay_succeeds lib b target.peerAddress]
    rw [show startUdpRelay lib _ _ b = .ok () prepared from hprepared]
    intro hfails
    cases hfails
  · rintro ⟨hpeer, b, hb, hrunning, htakes⟩
    rw [← @startUdpRelay_succeeds lib b target.peerAddress, Bool.not_eq_false] at htakes
    obtain ⟨_, prepared, hprepared⟩ := succeeds_iff.mp htakes
    have hup : (api lib).isRunning b = true := hrunning
    have hrelay : (api lib).startUdpRelay target.peerAddress kTailscaleUdpPorts b =
        .ok () prepared := hprepared
    unfold TailscaleWgxRoute.prepareForStreaming
    simp only [hpeer, hb, hup, hrelay, ne_eq, not_true_eq_false, if_false, reduceCtorEq]
    rfl

/-- With one target on both levels a call is right exactly when it meets the condition. -/
lemma preparesActive_iff (hsame : core.activeRoute = core.overlay.activeTarget) :
    core.PreparesActive lib target ↔ core.SameHost lib target := by
  unfold PreparesActive SameHost
  constructor
  · intro h active hactive hpeer
    by_cases hok : succeeds (TailscaleWgxRoute.prepareForStreaming (api lib) target core.overlay) =
        true
    · left
      have hprepared : (core.prepareRouteForStreaming (api lib) target).1 = true := by
        obtain ⟨_, overlay, hoverlay⟩ := succeeds_iff.mp hok
        simp [prepareRouteForStreaming, Option.mem_def.mp hactive, hpeer, hoverlay]
      obtain ⟨active', hactive', -, hhost⟩ := h hprepared
      obtain rfl := Option.some.inj ((Option.mem_def.mp hactive).symm.trans hactive')
      exact hhost
    · right
      intro b hb
      by_contra hready
      rw [not_or, Bool.not_eq_false] at hready
      apply hok
      rw [prepareForStreaming_succeeds, ← hsame, Option.mem_def.mp hactive]
      exact ⟨congrArg some hpeer, b, hb, hready⟩
  · intro h hprepared
    obtain ⟨hpeer, hok⟩ := prepareRouteForStreaming_ok hprepared
    obtain ⟨active, hactive, hpeer⟩ := Option.map_eq_some_iff.mp hpeer
    obtain ⟨-, b, hb, hrunning, htakes⟩ := prepareForStreaming_succeeds.mp hok
    rcases h active hactive hpeer with hhost | hrefused
    · exact ⟨active, hactive, hpeer, hhost⟩
    · rcases hrefused b hb with hdown | hrefuses
      · rw [hrunning] at hdown
        cases hdown
      · exact absurd hrefuses htakes

/-- Core and overlay have the same target in every reachable state, whatever the backend.  Over
`RealWgxBackend` a call prepares streaming for that target alone exactly when it does not name
another host of its peer. -/
theorem activeRoute_agrees (hash : Bytes → UInt64) :
    (∀ {β ω : Type} (apis : ω → IWgxBackend β) (background : ω → β → β) (backend : Option β)
        (core : TailscaleCore β),
      Run (fun core event => some (step apis background hash core event)) (fun _ _ => True)
        { overlay := { backend := backend } } core →
      core.activeRoute = core.overlay.activeTarget) ∧
    ∀ (background : Libraries → RealWgxBackend → RealWgxBackend)
        (backend : Option RealWgxBackend) (core : TailscaleCore RealWgxBackend),
      Run (fun core event => some (step api background hash core event)) (fun _ _ => True)
        { overlay := { backend := backend } } core →
      ∀ lib target, core.PreparesActive lib target ↔ core.SameHost lib target := by
  constructor
  · intro β ω apis background backend core hrun
    exact activeTarget_run backend core hrun
  · intro background backend core hrun lib target
    exact preparesActive_iff (activeTarget_run backend core hrun)

lemma relaySound_activateRoute (h : RelaySound core) :
    RelaySound (core.activateRoute (api lib) hash target).2 := by
  obtain ⟨b, hb, -⟩ := id h
  unfold activateRoute
  split_ifs
  · exact h
  -- the relay of the last route is gone before the new one starts
  have hstopped : (core.overlay.stop (api lib)).backend = some b.stop := by
    simp [TailscaleWgxRoute.stop, hb, api]
  have hnone (started) : RelayInv started b.stop := relayInv_stop
  split
  · rename_i error overlay hstart
    rcases TailscaleWgxRoute.start_error hstart with rfl | ⟨b', chosen, down, hb', hdown, rfl⟩
    · exact ⟨b.stop, hstopped, hnone none⟩
    · obtain rfl := Option.some.inj (hstopped.symm.trans hb')
      exact ⟨down, rfl, relayInv_bringUp_error (hnone none) hdown⟩
  · rename_i overlay hstart
    obtain ⟨b', chosen, up, hb', -, hup, rfl⟩ := TailscaleWgxRoute.start_ok hstart
    obtain rfl := Option.some.inj (hstopped.symm.trans hb')
    exact ⟨_, rfl, relayInv_bringUp (hnone none) rfl hup⟩

lemma relaySound_prepareRouteForStreaming (h : RelaySound core) :
    RelaySound (core.prepareRouteForStreaming (api lib) target).2 := by
  obtain ⟨b, hb, hinv⟩ := h
  obtain ⟨hroute, hsame | hfinal⟩ := @prepareRouteForStreaming_cases _ (api lib) core target
  · exact ⟨b, by rw [hsame, hb], hroute ▸ hinv⟩
  · rw [RelaySound, hroute, hfinal]
    rcases @TailscaleWgxRoute.prepareForStreaming_final _ (api lib) target core.overlay with
      hsame | ⟨b', hb', hrunning, ht⟩
    · exact ⟨b, by rw [hsame, hb], hinv⟩
    · obtain rfl := Option.some.inj (hb.symm.trans hb')
      exact ⟨_, ht, relayInv_startUdpRelay hinv hrunning⟩

lemma relaySound_step (h : RelaySound core) :
    RelaySound (core.step api sessionEnds hash event) := by
  have hstop (lib) : ∃ b, (core.overlay.stop (api lib)).backend = some b ∧ RelayInv none b := by
    obtain ⟨b, hb, -⟩ := h
    exact ⟨b.stop, by simp [TailscaleWgxRoute.stop, hb, api], relayInv_stop⟩
  cases event with
  | activateRoute lib target => exact relaySound_activateRoute h
  | prepareRouteForStreaming lib target => exact relaySound_prepareRouteForStreaming h
  | deactivateRoute lib target =>
    simp only [step, deactivateRoute]
    split_ifs
    · exact hstop lib
    · exact h
  | stop lib => exact hstop lib
  | replacePeers peers localAddress =>
    simp only [step, replacePeers]
    split_ifs
    · exact h
    · split <;> exact h
  | applyPeerDelta delta =>
    simp only [step, applyPeerDelta]
    split <;> exact h
  | background lib =>
    obtain ⟨b, hb, hinv⟩ := h
    refine ⟨b.derpReaderEnds, by simp [step, hb, sessionEnds], hinv.of_media rfl⟩
  | identified _ | updateDerpMap _ => exact h

/-- `TailscaleCore` stops a route before it starts the next one, so the relay never belongs
to another route than the active one. -/
theorem relay_of_activeRoute (core : TailscaleCore RealWgxBackend)
    (hrun : Run (fun core event => some (step api sessionEnds hash core event)) (fun _ _ => True)
      { overlay := { backend := some {} } } core) : RelaySound core := by
  apply hrun.invariant
  · exact ⟨{}, rfl, relayInv_initial⟩
  · intro core event next h _ hs
    obtain rfl := Option.some.inj hs
    exact relaySound_step h

/-- The steps of a core over `RealWgxBackend`. -/
def realStep (core : TailscaleCore RealWgxBackend) (event : Event Libraries) :
    Option (TailscaleCore RealWgxBackend) :=
  some (core.step api sessionEnds lengthHash event)

def ourKeys : Identity :=
  ⟨Key32.copyFrom (ascii "machine"), Key32.copyFrom (ascii "node"), Key32.copyFrom (ascii "disco")⟩

/-- Logged in, with the router and one DERP region in the netmap. -/
def loggedIn : List (Event Libraries) :=
  [.identified ourKeys, .replacePeers [router] (ascii "100.64.0.2"),
    .updateDerpMap [⟨3, ascii "test", [⟨ascii "derp3.example", 443, 3478⟩]⟩]]

/-- Streaming from one host and then from the other one. -/
def streamed : TailscaleCore RealWgxBackend :=
  (exec realStep { overlay := { backend := some {} } }
    (loggedIn ++ [.activateRoute {} study, .prepareRouteForStreaming {} study,
      .deactivateRoute {} study, .activateRoute {} lounge])).get (by decide +kernel)

theorem activeRoute_agrees_streamed : streamed.activeRoute = streamed.overlay.activeTarget ∧
    ∀ lib target, streamed.PreparesActive lib target ↔ streamed.SameHost lib target :=
  have hrun : Run realStep (fun _ _ => True) { overlay := { backend := some {} } } streamed :=
    .of_exec (Option.some_get _).symm (by simp)
  ⟨(activeRoute_agrees lengthHash).1 api sessionEnds (some {}) streamed hrun,
    (activeRoute_agrees lengthHash).2 sessionEnds (some {}) streamed hrun⟩

theorem relay_of_activeRoute_streamed : RelaySound streamed :=
  relay_of_activeRoute streamed (.of_exec (Option.some_get _).symm (by simp))

/-- With one host active, streaming is prepared for the other, and the relay leads to the
first. -/
theorem prepares_other_host :
    ∃ core, Run realStep (fun _ _ => True) { overlay := { backend := some {} } } core ∧
      core.activeRoute = some study ∧
      (core.prepareRouteForStreaming (api {}) lounge).1 = true ∧
      ((core.prepareRouteForStreaming (api {}) lounge).2.overlay.backend.bind
        RealWgxBackend.relay).map WgxRelay.hostIp = some (ascii "192.168.1.50") ∧
      hostIp lounge = ascii "192.168.1.51" :=
  ⟨(exec realStep { overlay := { backend := some {} } }
      (loggedIn ++ [.activateRoute {} study])).get (by decide +kernel),
    .of_exec (Option.some_get _).symm (by simp), by decide +kernel, by decide +kernel,
    by decide +kernel, by decide +kernel⟩

end TailscaleCore
end ArtemisSwitch.Wgx

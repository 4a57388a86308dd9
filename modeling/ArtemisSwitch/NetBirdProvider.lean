import ArtemisSwitch.Library.Runs
import ArtemisSwitch.RemoteAccessManager

/-!
# NetBirdProvider

The provider remembers the peer it last routed to and whether it has started the
media relays.  The proxy and the relays themselves are the library's.
-/

namespace ArtemisSwitch.NetBird
open RemoteAccess Runs

def kGameStreamPort : UInt16 := 47989

def kMaxScannedPeers : ℤ := 256

/-- What runs in the library: a TCP proxy with its target, and the UDP relays. -/
structure Library where
  tcpProxy : Option (Bytes × UInt16) := none
  udpRelays : Bool := false
  deriving DecidableEq, Repr

namespace Library

def proxyStop (l : Library) : Library := { l with tcpProxy := none }

def proxyStopUdp (l : Library) : Library := { l with udpRelays := false }

/-- `netbird_proxy_start`, which answers `result`. -/
def proxyStart (l : Library) (peer : Bytes) (port : UInt16) (result : ℤ) : Library :=
  if result = 0 then { l with tcpProxy := some (peer, port) } else l

/-- `netbird_proxy_start_udp`, which answers `result`. -/
def proxyStartUdp (l : Library) (result : ℤ) : Library :=
  if result = 0 then { l with udpRelays := true } else l

end Library

/-- What the authenticated peer sync reports: the number of peers, and for an index the
mesh address with its name, and the identity. -/
structure PeerSync where
  peerCount : ℤ
  peer : ℕ → Option (Bytes × Bytes)
  identity : ℕ → Option Bytes

/-- How the scan for the target's mesh address ends. -/
inductive PeerScan
  | known
  | unknown
  | refused
  deriving DecidableEq, Repr

/-- The first peer that holds the address decides. -/
def scanPeers (sync : PeerSync) (target : RemoteRouteTarget) : List ℕ → PeerScan
  | [] => .unknown
  | i :: rest =>
    match sync.peer i with
    | none => scanPeers sync target rest
    | some (ip, _) =>
      if target.peerAddress ≠ ip then scanPeers sync target rest
      else
        match sync.identity i with
        | none => .refused
        | some identity =>
          if target.peerId ≠ [] ∧ target.peerId ≠ identity then .refused else .known

def findPeer (sync : PeerSync) (target : RemoteRouteTarget) : PeerScan :=
  scanPeers sync target (List.range (min (max sync.peerCount 0) kMaxScannedPeers).toNat)

structure StateSnapshot where
  lastError : Bytes := []
  activePeer : Bytes := []
  localAddress : Bytes := []
  started : Bool := false
  ready : Bool := false
  udpRelaysStarted : Bool := false
  deriving DecidableEq, Repr

structure NetBirdProvider where
  state : StateSnapshot := {}
  library : Library := {}
  deriving DecidableEq, Repr

namespace NetBirdProvider

def setLastError (error : Bytes) (s : NetBirdProvider) : NetBirdProvider :=
  { s with state := { s.state with lastError := error } }

/-- Both proxies are stopped before the new one is tried. -/
def stopProxies (s : NetBirdProvider) : NetBirdProvider where
  state := { s.state with udpRelaysStarted := false }
  library := s.library.proxyStopUdp.proxyStop

def startProxy (proxyResult : ℤ) (peerId : Bytes) (s : NetBirdProvider) :
    Bool × NetBirdProvider :=
  let library := s.library.proxyStart peerId kGameStreamPort proxyResult
  if proxyResult ≠ 0 then
    (false, setLastError (ascii "artemis/settings/netbird_proxy_failed")
      { s with library := library })
  else
    (true, { state := { s.state with activePeer := peerId, lastError := [] }
             library := library })

def activateRoute (sync : PeerSync) (proxyResult : ℤ) (target : RemoteRouteTarget)
    (s : NetBirdProvider) : Bool × NetBirdProvider :=
  if s.state.started = false then (false, s)
  else if s.state.ready = false then
    (false, s.setLastError (ascii "artemis/settings/netbird_proxy_failed"))
  else if target.peerAddress = [] then (false, s)
  else
    match findPeer sync target with
    | .refused => (false, s.setLastError (ascii "artemis/settings/netbird_route_refused"))
    | .unknown => (false, s)
    | .known =>
      if s.state.activePeer = target.peerAddress then (true, s)
      else s.stopProxies.startProxy proxyResult target.peerAddress

/-- Relays that run are stopped, a new launch gets new ones. -/
def restartRelays (s : NetBirdProvider) : NetBirdProvider :=
  if s.state.udpRelaysStarted then
    { state := { s.state with udpRelaysStarted := false }
      library := s.library.proxyStopUdp }
  else s

def startRelays (udpResult : ℤ) (s : NetBirdProvider) : Bool × NetBirdProvider :=
  let library := s.library.proxyStartUdp udpResult
  if udpResult ≠ 0 then
    (false, setLastError (ascii "artemis/settings/netbird_proxy_failed")
      { s with library := library })
  else
    (true, { state := { s.state with udpRelaysStarted := true, lastError := [] }
             library := library })

def prepareRouteForStreaming (udpResult : ℤ) (target : RemoteRouteTarget)
    (s : NetBirdProvider) : Bool × NetBirdProvider :=
  if s.state.started = false ∨ s.state.ready = false ∨ target.peerAddress = [] ∨
      s.state.activePeer ≠ target.peerAddress then
    (false, s.setLastError (ascii "artemis/settings/netbird_proxy_failed"))
  else s.restartRelays.startRelays udpResult

def deactivateRoute (target : RemoteRouteTarget) (s : NetBirdProvider) : NetBirdProvider :=
  if s.state.started = false ∨ s.state.activePeer = [] ∨
      s.state.activePeer ≠ target.peerAddress then s
  else
    { state := { s.state with activePeer := [], udpRelaysStarted := false }
      library := s.library.proxyStopUdp.proxyStop }

/-- One turn of the background pump. -/
def pump (ready : Bool) (s : NetBirdProvider) : NetBirdProvider :=
  if s.state.started then { s with state := { s.state with ready := ready } } else s

def stop (s : NetBirdProvider) : NetBirdProvider :=
  if s.state.started = false then s
  else { state := {}, library := s.library.proxyStopUdp.proxyStop }

/-! ## Agreement of what is remembered with what runs -/

/-- A remembered peer has its proxy and remembered relays run. -/
structure Agrees (s : NetBirdProvider) : Prop where
  tcp : s.state.activePeer ≠ [] → s.library.tcpProxy = some (s.state.activePeer, kGameStreamPort)
  udp : s.state.udpRelaysStarted = true → s.library.udpRelays = true

/-- Nothing is remembered. -/
def Idle (s : NetBirdProvider) : Prop :=
  s.state.activePeer = [] ∧ s.state.udpRelaysStarted = false

instance (s : NetBirdProvider) : Decidable s.Idle := inferInstanceAs (Decidable (_ ∧ _))

/-- The activation of a peer that gets as far as the proxies. -/
def Switches (sync : PeerSync) (target : RemoteRouteTarget) (s : NetBirdProvider) : Prop :=
  s.state.started = true ∧ s.state.ready = true ∧ target.peerAddress ≠ [] ∧
    findPeer sync target = .known ∧ s.state.activePeer ≠ target.peerAddress

instance (sync : PeerSync) (target : RemoteRouteTarget) (s : NetBirdProvider) :
    Decidable (s.Switches sync target) :=
  inferInstanceAs (Decidable (_ ∧ _ ∧ _ ∧ _ ∧ _))

variable {s : NetBirdProvider} {sync : PeerSync} {target : RemoteRouteTarget} {result : ℤ}

lemma Idle.agrees (h : s.Idle) : s.Agrees := by
  constructor
  · intro hpeer
    exact absurd h.1 hpeer
  · intro hudp
    simp [h.2] at hudp

/-- A change of the error text or of `ready` does not matter. -/
lemma Agrees.congr {t : NetBirdProvider} (h : s.Agrees)
    (hpeer : t.state.activePeer = s.state.activePeer)
    (hudp : t.state.udpRelaysStarted = s.state.udpRelaysStarted)
    (hlibrary : t.library = s.library) : t.Agrees := by
  constructor
  · rw [hpeer, hlibrary]
    exact h.tcp
  · rw [hudp, hlibrary]
    exact h.udp

lemma Agrees.setLastError (h : s.Agrees) (e : Bytes) : (s.setLastError e).Agrees :=
  h.congr rfl rfl rfl

/-- All an activation can do. -/
lemma activateRoute_cases (sync : PeerSync) (result : ℤ) (target : RemoteRouteTarget)
    (s : NetBirdProvider) :
    (¬s.Switches sync target ∧ (s.activateRoute sync result target).2.library = s.library ∧
      (s.activateRoute sync result target).2.state.activePeer = s.state.activePeer ∧
      (s.activateRoute sync result target).2.state.udpRelaysStarted = s.state.udpRelaysStarted ∧
      ((s.activateRoute sync result target).1 = true →
        s.state.activePeer = target.peerAddress ∧ target.peerAddress ≠ [])) ∨
    (s.Switches sync target ∧
      s.activateRoute sync result target = s.stopProxies.startProxy result target.peerAddress) := by
  by_cases hs : s.Switches sync target
  · right
    have hs' := hs
    obtain ⟨hstarted, hready, hpeer, hknown, hactive⟩ := hs'
    simp [activateRoute, hs, hstarted, hready, hpeer, hknown, hactive]
  · left
    refine ⟨hs, ?_⟩
    unfold activateRoute
    cases hscan : findPeer sync target with
    | refused => split_ifs <;> simp [NetBirdProvider.setLastError]
    | unknown => split_ifs <;> simp [NetBirdProvider.setLastError]
    | known =>
      split_ifs with hstarted hready hpeer hactive
      · simp
      · simp [NetBirdProvider.setLastError]
      · simp
      · simp [hactive, hpeer]
      · exact absurd ⟨by simpa using hstarted, by simpa using hready, hpeer, hscan, hactive⟩ hs

lemma startProxy_ok (h : result = 0) (peerId : Bytes) :
    s.startProxy result peerId =
      (true, { state := { s.state with activePeer := peerId, lastError := [] }
               library := { s.library with tcpProxy := some (peerId, kGameStreamPort) } }) := by
  simp [startProxy, Library.proxyStart, h]

lemma startProxy_failed (h : result ≠ 0) (peerId : Bytes) :
    s.startProxy result peerId =
      (false, s.setLastError (ascii "artemis/settings/netbird_proxy_failed")) := by
  simp [startProxy, Library.proxyStart, h]

/-- The old peer stays remembered exactly when its proxy has been stopped for one that does
not start. -/
theorem activateRoute_agrees (h : s.Agrees) :
    (s.activateRoute sync result target).2.Agrees ↔
      ¬(s.Switches sync target ∧ result ≠ 0 ∧ s.state.activePeer ≠ []) := by
  cases activateRoute_cases sync result target s with
  | inl hkeeps =>
    obtain ⟨hno, hlibrary, hpeer, hudp, -⟩ := hkeeps
    simp only [hno, false_and, not_false_iff, iff_true]
    exact h.congr hpeer hudp hlibrary
  | inr hswitch =>
    obtain ⟨hs, heq⟩ := hswitch
    by_cases hr : result = 0
    · rw [heq, startProxy_ok hr]
      simp only [hr, ne_eq, not_true_eq_false, false_and, and_false, not_false_iff, iff_true]
      exact ⟨fun _ => rfl, by simp [stopProxies]⟩
    · rw [heq, startProxy_failed hr]
      simp only [hs, hr, ne_eq, not_false_iff, true_and, not_not]
      constructor
      · -- the library has no proxy any more
        intro hagrees
        by_contra hpeer
        have htcp := hagrees.tcp hpeer
        simp [NetBirdProvider.setLastError, stopProxies, Library.proxyStop] at htcp
      · intro hpeer
        have hidle : s.stopProxies.Idle := ⟨hpeer, rfl⟩
        exact hidle.agrees.setLastError _

/-- An activation that succeeds leaves a proxy for its target. -/
theorem activateRoute_up (h : s.Agrees) (htrue : (s.activateRoute sync result target).1 = true) :
    (s.activateRoute sync result target).2.library.tcpProxy =
      some (target.peerAddress, kGameStreamPort) := by
  cases activateRoute_cases sync result target s with
  | inl hkeeps =>
    obtain ⟨-, hlibrary, -, -, hactive⟩ := hkeeps
    obtain ⟨hpeer, hne⟩ := hactive htrue
    rw [hlibrary, ← hpeer]
    exact h.tcp (hpeer ▸ hne)
  | inr hswitch =>
    by_cases hr : result = 0
    · rw [hswitch.2, startProxy_ok hr]
    · rw [hswitch.2, startProxy_failed hr] at htrue
      simp at htrue

lemma restartRelays_agrees (h : s.Agrees) : s.restartRelays.Agrees := by
  unfold restartRelays
  split_ifs with hudp
  · exact ⟨h.tcp, by simp⟩
  · exact h

lemma startRelays_agrees (h : s.Agrees) : (s.startRelays result).2.Agrees := by
  unfold startRelays
  by_cases hr : result = 0
  · simp only [hr, ne_eq, not_true_eq_false, if_false, Library.proxyStartUdp, if_true]
    exact ⟨h.tcp, fun _ => rfl⟩
  · simp only [hr, ne_eq, not_false_iff, if_true, Library.proxyStartUdp, if_false]
    exact h.setLastError _

theorem prepareRouteForStreaming_agrees (h : s.Agrees) :
    (s.prepareRouteForStreaming result target).2.Agrees := by
  unfold prepareRouteForStreaming
  split_ifs
  · exact h.setLastError _
  · exact startRelays_agrees (restartRelays_agrees h)

theorem deactivateRoute_agrees (h : s.Agrees) : (s.deactivateRoute target).Agrees := by
  unfold deactivateRoute
  split_ifs
  · exact h
  · exact Idle.agrees ⟨rfl, rfl⟩

lemma pump_agrees (h : s.Agrees) (ready : Bool) : (s.pump ready).Agrees := by
  unfold pump
  split_ifs
  · exact h.congr rfl rfl rfl
  · exact h

lemma stop_agrees (h : s.Agrees) : s.stop.Agrees := by
  unfold stop
  split_ifs
  · exact h
  · exact Idle.agrees ⟨rfl, rfl⟩

end NetBirdProvider

/-! ## Sequences of calls -/

/-- The calls with what the library answers during each.  The pump runs between them. -/
inductive Call
  | activateRoute (sync : PeerSync) (proxyResult : ℤ) (target : RemoteRouteTarget)
  | prepareRouteForStreaming (udpResult : ℤ) (target : RemoteRouteTarget)
  | deactivateRoute (target : RemoteRouteTarget)
  | stop
  | pump (ready : Bool)

namespace Call

def next (s : NetBirdProvider) : Call → NetBirdProvider
  | activateRoute sync proxyResult target => (s.activateRoute sync proxyResult target).2
  | prepareRouteForStreaming udpResult target => (s.prepareRouteForStreaming udpResult target).2
  | deactivateRoute target => s.deactivateRoute target
  | stop => s.stop
  | pump ready => s.pump ready

def step (s : NetBirdProvider) (call : Call) : Option NetBirdProvider := some (call.next s)

/-- The call takes the proxy from the peer that is remembered and gets none for its own. -/
def Strands (s : NetBirdProvider) : Call → Prop
  | activateRoute sync proxyResult target =>
    s.Switches sync target ∧ proxyResult ≠ 0 ∧ s.state.activePeer ≠ []
  | _ => False

instance (s : NetBirdProvider) (call : Call) : Decidable (call.Strands s) := by
  cases call <;> (dsimp only [Strands]; infer_instance)

end Call

variable {s₀ s : NetBirdProvider}

/-- One call keeps the agreement exactly when it strands no peer. -/
theorem Call.next_agrees (h : s.Agrees) (call : Call) :
    (call.next s).Agrees ↔ ¬call.Strands s := by
  cases call with
  | activateRoute sync proxyResult target => exact s.activateRoute_agrees h
  | prepareRouteForStreaming udpResult target =>
    simpa [Call.next, Strands] using NetBirdProvider.prepareRouteForStreaming_agrees h
  | deactivateRoute target =>
    simpa [Call.next, Strands] using NetBirdProvider.deactivateRoute_agrees h
  | stop => simpa [Call.next, Strands] using NetBirdProvider.stop_agrees h
  | pump ready => simpa [Call.next, Strands] using NetBirdProvider.pump_agrees h ready

theorem run_agrees (h₀ : s₀.Agrees) (h : Run Call.step (fun s call => ¬call.Strands s) s₀ s) :
    s.Agrees := by
  refine Run.invariant h₀ (fun t call u ht hok hstep => ?_) h
  obtain rfl : call.next t = u := by simpa [Call.step] using hstep
  exact (call.next_agrees ht).mpr hok

/-- As long as no call strands a peer, what is remembered runs, and an activation that
succeeds leaves a proxy for its target.  The first call that strands one breaks this. -/
theorem activePeer_has_its_proxy (h₀ : s₀.Idle)
    (h : Run Call.step (fun s call => ¬call.Strands s) s₀ s) :
    s.Agrees ∧
      (∀ sync result target, (s.activateRoute sync result target).1 = true →
        (s.activateRoute sync result target).2.library.tcpProxy =
          some (target.peerAddress, kGameStreamPort)) ∧
      ∀ call : Call, call.Strands s → ¬(call.next s).Agrees := by
  have hagrees : s.Agrees := run_agrees h₀.agrees h
  refine ⟨hagrees, ?_, ?_⟩
  · intro sync result target htrue
    exact NetBirdProvider.activateRoute_up hagrees htrue
  · intro call hstrands hnext
    exact (call.next_agrees hagrees).mp hnext hstrands

def meshAddresses : ℕ → Option (Bytes × Bytes)
  | 0 => some (ascii "100.64.0.1", ascii "desk")
  | 1 => some (ascii "100.64.0.2", ascii "attic")
  | _ => none

/-- Two peers in sync. -/
def twoPeers : PeerSync where
  peerCount := 2
  peer := meshAddresses
  identity := fun _ => some (ascii "peer")

def desk : RemoteRouteTarget :=
  ⟨ascii "peer", ascii "100.64.0.1", ascii "100.64.0.1", ascii "127.0.0.1", .proxy⟩

def attic : RemoteRouteTarget :=
  ⟨ascii "peer", ascii "100.64.0.2", ascii "100.64.0.2", ascii "127.0.0.1", .proxy⟩

/-- After `start`. -/
def connected : NetBirdProvider where
  state := { started := true, ready := true, localAddress := ascii "100.64.0.9" }

/-- A stream on one peer, then the switch to another, with the first route released before. -/
def orderlySwitch : List Call :=
  [.activateRoute twoPeers 0 desk, .prepareRouteForStreaming 0 desk, .deactivateRoute desk,
    .activateRoute twoPeers (-1) attic, .activateRoute twoPeers 0 attic]

def afterOrderlySwitch : NetBirdProvider where
  state := { connected.state with activePeer := ascii "100.64.0.2" }
  library := { tcpProxy := some (ascii "100.64.0.2", kGameStreamPort) }

theorem activePeer_has_its_proxy_orderly : afterOrderlySwitch.Agrees ∧
    (∀ sync result target, (afterOrderlySwitch.activateRoute sync result target).1 = true →
      (afterOrderlySwitch.activateRoute sync result target).2.library.tcpProxy =
        some (target.peerAddress, kGameStreamPort)) ∧
    ∀ call : Call, call.Strands afterOrderlySwitch → ¬(call.next afterOrderlySwitch).Agrees :=
  activePeer_has_its_proxy (show connected.Idle from ⟨rfl, rfl⟩)
    (Run.of_exec_guarded (show exec (guarded Call.step fun s call => ¬call.Strands s) connected
      orderlySwitch = some afterOrderlySwitch by decide +kernel))

/-- The proxy of the second peer does not start.  The first peer is then activated without a
proxy. -/
theorem failed_switch_strands_first_peer :
    ∃ s, Run Call.step (fun _ _ => True) connected s ∧ connected.Idle ∧
      s.state.activePeer = ascii "100.64.0.1" ∧ s.library.tcpProxy = none ∧
      (s.activateRoute twoPeers 0 desk).1 = true ∧
      (s.activateRoute twoPeers 0 desk).2.library.tcpProxy = none := by
  refine ⟨(Call.activateRoute twoPeers (-1) attic).next
    ((Call.activateRoute twoPeers 0 desk).next connected), ?_, ⟨rfl, rfl⟩, ?_, ?_, ?_, ?_⟩
  · exact (Run.refl.snoc trivial rfl).snoc trivial rfl
  all_goals decide +kernel

end ArtemisSwitch.NetBird

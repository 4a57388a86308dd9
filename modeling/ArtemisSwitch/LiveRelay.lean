import ArtemisSwitch.CoreRoutes

/-!
# Active routes and live sessions

`derpReader` marks a session dead when it ends, for the next activation to reconnect.  An
activation of the route that is active already does not look at the session.
-/

namespace ArtemisSwitch.Wgx
open Netmap RemoteAccess Fallible Runs RealWgxBackend

namespace TailscaleCore

/-- The node key that the directory lists for a peer. -/
def listedKey (core : TailscaleCore RealWgxBackend) (peerId : Bytes) : Option Key32 :=
  (core.peers.lookup peerId).map Peer.nodeKey

/-- A live DERP session is addressed to the node key that is listed for the peer. -/
def LiveFor (core : TailscaleCore RealWgxBackend) (peerId : Bytes) : Prop :=
  ∃ b key, core.overlay.backend = some b ∧ core.listedKey peerId = some key ∧
    b.session = (true, true, true, key)

end TailscaleCore

/-- A core, the node key that was listed when its active route was started, and whether the
session has ended since. -/
structure Watched where
  core : TailscaleCore RealWgxBackend := { overlay := { backend := some {} } }
  startedKey : Option Key32 := none
  ended : Bool := false

namespace Watched
open TailscaleCore
open Streaming (study lengthHash)

def step (hash : Bytes → UInt64) (s : Watched) (event : Event Libraries) : Option Watched :=
  let core := s.core.step api sessionEnds hash event
  match event with
  | .activateRoute lib target =>
    if s.core.isActive target then some { s with core := core }
    else some ⟨core, s.core.listedKey target.peerId, lib.readerEnds⟩
  | .background _ => some { s with core := core, ended := true }
  | _ => some { s with core := core }

/-- For the route that is active already: its session has not ended since it was started, and
its peer has the same key.  For any other: the session outlasts the call. -/
def SessionLasts (s : Watched) (lib : Libraries) (target : RemoteRouteTarget) : Prop :=
  if s.core.isActive target then
    s.ended = false ∧ s.core.listedKey target.peerId = s.startedKey
  else lib.readerEnds = false

/-- The session of an active route is the one it was started with. -/
def Inv (s : Watched) : Prop :=
  ∃ b, s.core.overlay.backend = some b ∧ (s.core.activeRoute.isSome = true →
    ∃ key, s.startedKey = some key ∧ b.session = (true, !s.ended, true, key))

variable {s next : Watched} {hash : Bytes → UInt64} {event : Event Libraries} {lib : Libraries}
variable {b t : RealWgxBackend} {target : RemoteRouteTarget} {chosen : RoutePlan}
variable {providers : Providers} {core : TailscaleCore RealWgxBackend}

/-- A route that is up has a session for the key of its plan. -/
lemma session_bringUp (h : bringUp (api lib) target chosen b = .ok () t) :
    t.session = (true, !lib.readerEnds, true, chosen.peer.nodeKey) := by
  obtain ⟨up, relayed, shaken, -, hrelayed, hshaken, hproxy⟩ := bringUp_ok h
  have hderp : relayed.session = (true, !lib.readerEnds, true, chosen.peer.nodeKey) :=
    ensureDerpRoute_ok hrelayed
  have hpeer := (@keeps_session_addOrUpdatePeer lib chosen.peer.nodeKey target.peerAddress
    chosen.peerNumId _).of_ok hderp hshaken
  exact keeps_session_startTcpProxy.of_ok hpeer hproxy

lemma session_probeDirectPath :
    (probeDirectPath (api lib) providers target chosen b).session = b.session := by
  unfold probeDirectPath
  split
  · rfl
  · split_ifs
    · rfl
    · show (startDirectPath lib _ b).session = b.session
      unfold startDirectPath
      split_ifs <;> rfl

/-- The plan takes the key from the directory. -/
lemma plan_ok (h : plan (core.providers hash) target = .ok chosen) :
    core.listedKey target.peerId = some chosen.peer.nodeKey := by
  unfold plan at h
  simp only [providers] at h
  split_ifs at h
  split at h
  · cases h
  · cases h
  · split at h
    · cases h
    · rename_i peer hpeer
      split_ifs at h
      cases h
      rw [listedKey, hpeer]
      rfl

/-- A fresh activation that goes through has the session of its plan. -/
lemma session_activateRoute {core' : TailscaleCore RealWgxBackend}
    (hnew : core.isActive target = false)
    (h : core.activateRoute (api lib) hash target = (true, core')) :
    ∃ t key, core'.overlay.backend = some t ∧ core.listedKey target.peerId = some key ∧
      core'.peers = core.peers ∧ t.session = (true, !lib.readerEnds, true, key) := by
  obtain ⟨overlay, hstart, rfl⟩ := activateRoute_ok hnew h
  obtain ⟨b', chosen, up, hb', hplan, hup, rfl⟩ := TailscaleWgxRoute.start_ok hstart
  exact ⟨_, _, rfl, plan_ok hplan, rfl, session_probeDirectPath.trans (session_bringUp hup)⟩

lemma backend_activateRoute (hb : core.overlay.backend = some b)
    (hnew : core.isActive target = false) :
    ∃ t, (core.activateRoute (api lib) hash target).2.overlay.backend = some t := by
  have hstopped : (core.overlay.stop (api lib)).backend = some b.stop := by
    simp [TailscaleWgxRoute.stop, hb, api]
  unfold activateRoute
  rw [if_neg (by simp [hnew])]
  split
  · rename_i error overlay hstart
    rcases TailscaleWgxRoute.start_error hstart with rfl | ⟨_, _, down, _, _, rfl⟩
    · exact ⟨b.stop, hstopped⟩
    · exact ⟨down, rfl⟩
  · rename_i overlay hstart
    obtain ⟨_, _, up, _, _, _, rfl⟩ := TailscaleWgxRoute.start_ok hstart
    exact ⟨_, rfl⟩

/-- An activation that fails leaves no active route. -/
lemma activateRoute_failed (hnew : core.isActive target = false)
    (h : (core.activateRoute (api lib) hash target).1 = false) :
    (core.activateRoute (api lib) hash target).2.activeRoute = none := by
  unfold activateRoute at h ⊢
  rw [if_neg (by simp [hnew])] at h ⊢
  split
  · rfl
  · rename_i overlay hstart
    rw [hstart] at h
    cases h

lemma inv_activateRoute (h : Inv s) (hs : s.step hash (.activateRoute lib target) = some next) :
    Inv next := by
  obtain ⟨b, hb, hinv⟩ := id h
  simp only [step] at hs
  split_ifs at hs with hactive
  · obtain rfl := Option.some.inj hs
    have hsame : s.core.step api sessionEnds hash (.activateRoute lib target) = s.core := by
      show (s.core.activateRoute (api lib) hash target).2 = s.core
      rw [activateRoute, if_pos hactive]
    simpa only [hsame] using h
  · obtain rfl := Option.some.inj hs
    have hnew : s.core.isActive target = false := by simpa using hactive
    by_cases hok : (s.core.activateRoute (api lib) hash target).1 = true
    · obtain ⟨t, key, ht, hkey, -, hsession⟩ :=
        session_activateRoute hnew (Prod.ext hok rfl : _ = (true, _))
      exact ⟨t, ht, fun _ => ⟨key, hkey, hsession⟩⟩
    · obtain ⟨t, ht⟩ := @backend_activateRoute hash lib b target s.core hb hnew
      refine ⟨t, ht, ?_⟩
      intro hsome
      have hnone := activateRoute_failed hnew (Bool.eq_false_iff.mpr hok)
      change (s.core.activateRoute (api lib) hash target).2.activeRoute.isSome = true at hsome
      rw [hnone] at hsome
      cases hsome

lemma inv_prepareRouteForStreaming (h : Inv s)
    (hs : s.step hash (.prepareRouteForStreaming lib target) = some next) : Inv next := by
  obtain ⟨b, hb, hinv⟩ := h
  obtain rfl := Option.some.inj hs
  show ∃ t, (s.core.prepareRouteForStreaming (api lib) target).2.overlay.backend = some t ∧ _
  obtain ⟨hroute, hsame | hfinal⟩ := @prepareRouteForStreaming_cases _ (api lib) s.core target
  · refine ⟨b, by rw [hsame, hb], ?_⟩
    intro hsome
    exact hinv (hroute ▸ hsome)
  · rw [hfinal]
    rcases @TailscaleWgxRoute.prepareForStreaming_final _ (api lib) target s.core.overlay with
      hsame | ⟨b', hb', -, ht⟩
    · refine ⟨b, by rw [hsame, hb], ?_⟩
      intro hsome
      exact hinv (hroute ▸ hsome)
    · obtain rfl := Option.some.inj (hb.symm.trans hb')
      refine ⟨_, ht, ?_⟩
      intro hsome
      have hkept := @keeps_session_startUdpRelay lib target.peerAddress kTailscaleUdpPorts _ b rfl
      exact hkept ▸ hinv (hroute ▸ hsome)

/-- A stop of the overlay, with the core's record cleared. -/
lemma inv_stopped (h : Inv s) (hback : next.core.overlay = s.core.overlay.stop (api lib))
    (hnone : next.core.activeRoute = none) : Inv next := by
  obtain ⟨b, hb, -⟩ := h
  refine ⟨b.stop, by simp [hback, TailscaleWgxRoute.stop, hb, api], ?_⟩
  rw [hnone]
  intro hsome
  cases hsome

/-- What leaves the overlay, the route and the watch alone. -/
lemma inv_congr (h : Inv s) (hback : next.core.overlay = s.core.overlay)
    (hroute : next.core.activeRoute = s.core.activeRoute) (hkey : next.startedKey = s.startedKey)
    (hended : next.ended = s.ended) : Inv next := by
  obtain ⟨b, hb, hinv⟩ := h
  refine ⟨b, by rw [hback, hb], ?_⟩
  rw [hroute, hkey, hended]
  exact hinv

lemma inv_step (h : Inv s) (hs : s.step hash event = some next) : Inv next := by
  cases event with
  | activateRoute lib target => exact inv_activateRoute h hs
  | prepareRouteForStreaming lib target => exact inv_prepareRouteForStreaming h hs
  | deactivateRoute lib target =>
    obtain rfl := Option.some.inj hs
    by_cases hactive : s.core.isActive target = true
    · apply inv_stopped h
      · show (s.core.deactivateRoute (api lib) target).overlay = s.core.overlay.stop (api lib)
        rw [deactivateRoute, if_pos hactive]
      · show (s.core.deactivateRoute (api lib) target).activeRoute = none
        rw [deactivateRoute, if_pos hactive]
    · have hsame : s.core.deactivateRoute (api lib) target = s.core := if_neg hactive
      apply inv_congr h
      · exact congrArg TailscaleCore.overlay hsame
      · exact congrArg TailscaleCore.activeRoute hsame
      · rfl
      · rfl
  | stop lib =>
    obtain rfl := Option.some.inj hs
    exact @inv_stopped _ _ lib h rfl rfl
  | background lib =>
    obtain ⟨b, hb, hinv⟩ := h
    obtain rfl := Option.some.inj hs
    refine ⟨b.derpReaderEnds, by simp [TailscaleCore.step, hb, sessionEnds], ?_⟩
    intro hsome
    obtain ⟨key, hkey, hsession⟩ := hinv hsome
    -- the end of the session takes nothing from the backend's record of it
    simp only [session, Prod.mk.injEq] at hsession
    obtain ⟨hderp, -, hpeer, hnode⟩ := hsession
    exact ⟨key, hkey, by simp [session, derpReaderEnds, hderp, hpeer, hnode]⟩
  | replacePeers peers localAddress =>
    obtain rfl := Option.some.inj hs
    apply inv_congr h
    case hkey | hended => rfl
    all_goals
      simp only [TailscaleCore.step, replacePeers]
      split_ifs <;> try rfl
      split <;> rfl
  | applyPeerDelta delta =>
    obtain rfl := Option.some.inj hs
    apply inv_congr h
    case hkey | hended => rfl
    all_goals
      simp only [TailscaleCore.step, applyPeerDelta]
      split <;> rfl
  | identified _ | updateDerpMap _ =>
    obtain rfl := Option.some.inj hs
    exact inv_congr h rfl rfl rfl rfl

/-- In every reachable state an activation that goes through has a live session for the key
that is listed for its peer exactly if the session lasts. -/
theorem live_iff_sessionLasts (hash : Bytes → UInt64) (s : Watched)
    (hrun : Run (step hash) (fun _ _ => True) {} s) (lib : Libraries) (target : RemoteRouteTarget)
    (core : TailscaleCore RealWgxBackend)
    (h : s.core.activateRoute (api lib) hash target = (true, core)) :
    core.LiveFor target.peerId ↔ s.SessionLasts lib target := by
  have hinv : Inv s := by
    refine hrun.invariant ⟨{}, rfl, fun hnone => by cases hnone⟩ ?_
    intro _ _ _ h _ hs
    exact inv_step h hs
  obtain ⟨b, hb, hinv⟩ := hinv
  unfold LiveFor SessionLasts
  split_ifs with hactive
  · rw [activateRoute, if_pos hactive] at h
    obtain rfl : s.core = core := (Prod.mk.inj h).2
    -- the route is active already, and the call does not look at its session
    obtain ⟨active, hroute, -⟩ := isActive_iff.mp hactive
    obtain ⟨key, hkey, hsession⟩ := hinv (by simp [hroute])
    rw [hkey]
    constructor
    · rintro ⟨b', key', hb', hlisted, hlive⟩
      obtain rfl := Option.some.inj (hb.symm.trans hb')
      rw [hsession] at hlive
      simp only [Prod.mk.injEq, Bool.not_eq_true', true_and] at hlive
      exact ⟨hlive.1, hlive.2 ▸ hlisted⟩
    · rintro ⟨hended, hlisted⟩
      exact ⟨b, key, hb, hlisted, by rw [hsession, hended]; rfl⟩
  -- a fresh activation asks for the key of the peer that is listed now
  · have hnew : s.core.isActive target = false := by simpa using hactive
    obtain ⟨t, key, ht, hkey, hpeers, hsession⟩ := session_activateRoute hnew h
    have hlisted : core.listedKey target.peerId = some key := by
      rw [listedKey, hpeers]
      exact hkey
    rw [ht, hlisted]
    constructor
    · rintro ⟨b', key', hb', -, hlive⟩
      obtain rfl := Option.some.inj hb'
      rw [hsession] at hlive
      simpa using congrArg (fun d => d.2.1) hlive
    · intro hlasts
      exact ⟨t, key, rfl, rfl, by rw [hsession, hlasts]; rfl⟩

/-- Logged in, with a route to one host. -/
def routed : Watched :=
  (exec (step lengthHash) {} (loggedIn ++ [.activateRoute {} study])).get (by decide +kernel)

/-- The second activation of a route whose session goes on. -/
theorem live_iff_routed : (routed.core.activateRoute (api {}) lengthHash study).2.LiveFor
    (ascii "n1") ↔ routed.SessionLasts {} study :=
  live_iff_sessionLasts lengthHash routed (.of_exec (Option.some_get _).symm (by simp)) {} study _
    (Prod.ext (by decide +kernel) rfl)

/-- The session ends, and the same route is activated again: the answer is true, and the
session is dead. -/
theorem activated_without_session :
    ∃ s, Run (step lengthHash) (fun _ _ => True) {} s ∧
      (s.core.activateRoute (api {}) lengthHash study).1 = true ∧
      (s.core.activateRoute (api {}) lengthHash study).2.overlay.backend.map
        RealWgxBackend.derpAlive = some false :=
  ⟨(exec (step lengthHash) {} (loggedIn ++ [.activateRoute {} study, .background {}])).get
      (by decide +kernel),
    .of_exec (Option.some_get _).symm (by simp), by decide +kernel, by decide +kernel⟩

end Watched
end ArtemisSwitch.Wgx

import ArtemisSwitch.WireGuardConfig
import ArtemisSwitch.Library.Runs

/-!
# The relay of a WireGuard tunnel

The calls on one `WgNxTunnel`.  What the tunnel and its relay answer during a call is a
parameter; a relay remembers the ports that it has started.
-/

namespace ArtemisSwitch.WireGuard
open Runs

def kTcpPorts : List UInt16 := [47989, 47984, 48010]

def kUdpPorts : List UInt16 := [47998, 48000, 47999, 48002, 48010]

/-- What the libraries answer during a call. -/
structure Answers where
  connect : Bool := true
  start : Bool := true
  negotiated : Option Bytes := none
  isRunning : Bool := true
  relayStart : Bool := true
  startTcpRelay : UInt16 → Bool := fun _ => true
  startUdpRelay : UInt16 → Bool := fun _ => true

/-- The ports that were started, in their order. -/
structure LwipRelay where
  tunnelAddress : Bytes
  target : Bytes
  tcpPorts : List UInt16 := []
  udpPorts : List UInt16 := []
  deriving DecidableEq, Repr

structure WgNxTunnel where
  config : Config
  running : Bool := false
  resolvedAddress : Bytes := []
  relay : Option LwipRelay := none
  activeTarget : Bytes := []
  udpPrepared : Bool := false
  deriving DecidableEq, Repr

/-- Starts the ports one by one, up to the first that fails. -/
def startPorts (accepts : UInt16 → Bool) : List UInt16 → List UInt16 → Bool × List UInt16
  | [], started => (true, started)
  | port :: ports, started =>
    if accepts port then startPorts accepts ports (started ++ [port]) else (false, started)

/-- `10.70.0.2/32` without the prefix. -/
def addressHostPart (address : Bytes) : Bytes := address.takeWhile (· ≠ slash)

namespace WgNxTunnel

def clearRelay (t : WgNxTunnel) : WgNxTunnel :=
  { t with relay := none, activeTarget := [], udpPrepared := false }

def start (answers : Answers) (t : WgNxTunnel) : ℤ × WgNxTunnel :=
  if t.running then (0, t)
  else if answers.connect = false ∨ answers.start = false then (-1, t)
  else (0, { t with
    running := true, resolvedAddress := answers.negotiated.getD t.resolvedAddress })

def canRoute (t : WgNxTunnel) (address : Bytes) : Bool :=
  match t.config.peers with
  | [peer] => t.running && ipv4MatchesAllowedIps address peer.allowedIps
  | _ => false

def activateRoute (answers : Answers) (address : Bytes) (t : WgNxTunnel) : ℤ × WgNxTunnel :=
  if t.canRoute address = false then (-1, t)
  else if t.relay.isSome ∧ t.activeTarget = address ∧ answers.isRunning then (0, t)
  else
    -- the old relay goes before the new one is tried
    let t := t.clearRelay
    let tunnelAddress :=
      if t.resolvedAddress = [] then addressHostPart t.config.address else t.resolvedAddress
    if answers.relayStart = false then (-2, t)
    else
      match startPorts answers.startTcpRelay kTcpPorts [] with
      | (false, _) => (-3, t)
      | (true, tcpPorts) =>
        (0, { t with
          relay := some { tunnelAddress := tunnelAddress, target := address, tcpPorts := tcpPorts }
          activeTarget := address })

def prepareStream (answers : Answers) (address : Bytes) (t : WgNxTunnel) : ℤ × WgNxTunnel :=
  match t.relay with
  | none => (-1, t)
  | some relay =>
    if answers.isRunning = false ∨ t.activeTarget ≠ address then (-1, t)
    else if t.udpPrepared then (0, t)
    else
      let (started, udpPorts) := startPorts answers.startUdpRelay kUdpPorts relay.udpPorts
      -- the ports that were started before one fails stay up
      let t := { t with relay := some { relay with udpPorts := udpPorts } }
      if started = false then (-2, t) else (0, { t with udpPrepared := true })

def deactivateRoute (address : Bytes) (t : WgNxTunnel) : WgNxTunnel :=
  if t.activeTarget ≠ address then t else t.clearRelay

def stop (t : WgNxTunnel) : WgNxTunnel :=
  if t.running = false then t else { t.clearRelay with running := false }

end WgNxTunnel

inductive Call
  | start (answers : Answers)
  | activateRoute (answers : Answers) (address : Bytes)
  | prepareStream (answers : Answers) (address : Bytes)
  | deactivateRoute (address : Bytes)
  | stop

namespace WgNxTunnel

def apply (t : WgNxTunnel) : Call → WgNxTunnel
  | .start answers => (t.start answers).2
  | .activateRoute answers address => (t.activateRoute answers address).2
  | .prepareStream answers address => (t.prepareStream answers address).2
  | .deactivateRoute address => t.deactivateRoute address
  | .stop => t.stop

/-! ## The relay and its ports -/

/-- There is a relay exactly while there is a target, and it serves that target. -/
structure Sound (t : WgNxTunnel) : Prop where
  target : t.activeTarget ≠ [] ↔ t.relay.isSome = true
  serves : ∀ relay ∈ t.relay, relay.target = t.activeTarget ∧
    (∀ port ∈ kTcpPorts, port ∈ relay.tcpPorts) ∧ relay.tcpPorts.Nodup
  prepared : t.udpPrepared = true →
    ∃ relay ∈ t.relay, ∀ port ∈ kUdpPorts, port ∈ relay.udpPorts

/-- The UDP ports of the relay that is there. -/
def udpPorts (t : WgNxTunnel) : List UInt16 := t.relay.elim [] LwipRelay.udpPorts

/-- No port is started twice, and a call that fails adds none. -/
def Clean (t : WgNxTunnel) (c : Call) : Prop :=
  (t.apply c).udpPorts.Nodup ∧ ∀ answers address, c = .prepareStream answers address →
    (t.prepareStream answers address).1 ≠ 0 → (t.apply c).udpPorts ⊆ t.udpPorts

/-- The call gets as far as the ports. -/
def Prepares (t : WgNxTunnel) (answers : Answers) (address : Bytes) : Prop :=
  t.relay.isSome = true ∧ answers.isRunning = true ∧ t.activeTarget = address ∧
    t.udpPrepared = false

instance (t : WgNxTunnel) (answers : Answers) (address : Bytes) :
    Decidable (t.Prepares answers address) :=
  inferInstanceAs (Decidable (_ ∧ _ ∧ _ ∧ _))

/-- The first port starts, and another one does not. -/
def PartWay (answers : Answers) : Prop :=
  answers.startUdpRelay 47998 = true ∧ kUdpPorts.all answers.startUdpRelay = false

instance (answers : Answers) : Decidable (PartWay answers) := inferInstanceAs (Decidable (_ ∧ _))

def Allowed (t : WgNxTunnel) : Call → Prop
  | .prepareStream answers address => t.Prepares answers address → ¬ PartWay answers
  | _ => True

instance (t : WgNxTunnel) (c : Call) : Decidable (t.Allowed c) := by
  cases c <;> unfold Allowed <;> infer_instance

end WgNxTunnel

/-! ## What a call does -/

lemma startPorts_eq (accepts : UInt16 → Bool) (ports started : List UInt16) :
    startPorts accepts ports started =
      (ports.all accepts, started ++ ports.takeWhile accepts) := by
  induction ports generalizing started with
  | nil => simp [startPorts]
  | cons port ports ih =>
    rw [startPorts]
    split_ifs with hport
    · rw [ih, List.all_cons, hport, List.takeWhile_cons_of_pos hport, List.append_assoc]
      rfl
    · rw [List.all_cons, List.takeWhile_cons_of_neg hport, Bool.eq_false_iff.mpr hport]
      simp

/-- Ports that all start are all there. -/
lemma startPorts_all {accepts : UInt16 → Bool} {ports started : List UInt16}
    (h : ports.all accepts = true) :
    startPorts accepts ports started = (true, started ++ ports) := by
  rw [startPorts_eq, h, List.takeWhile_eq_self_iff.mpr (List.all_eq_true.mp h)]

/-- The empty address is on no route. -/
lemma ipv4MatchesAllowedIps_nil (allowedIps : Bytes) :
    ipv4MatchesAllowedIps [] allowedIps = false := by
  have hnone : parseIpv4 (trim []) = none := by decide
  rw [ipv4MatchesAllowedIps, hnone]

namespace WgNxTunnel

variable {t : WgNxTunnel} {answers : Answers} {address : Bytes} {c : Call}

lemma ne_nil_of_canRoute (h : t.canRoute address = true) : address ≠ [] := by
  rintro rfl
  unfold canRoute at h
  split at h
  · rw [ipv4MatchesAllowedIps_nil, Bool.and_false] at h
    cases h
  · cases h

lemma sound_clearRelay (t : WgNxTunnel) : t.clearRelay.Sound where
  target := iff_of_false (fun h => h rfl) Bool.false_ne_true
  serves := nofun
  prepared := nofun

/-- Every way in which an activation ends. -/
lemma activateRoute_cases (answers : Answers) (address : Bytes) (t : WgNxTunnel) :
    (t.activateRoute answers address).2 = t ∨
      (t.activateRoute answers address).2 = t.clearRelay ∨
      t.canRoute address = true ∧ ∃ relay : LwipRelay, relay.target = address ∧
        relay.tcpPorts = kTcpPorts ∧ relay.udpPorts = [] ∧ (t.activateRoute answers address).2 =
          { t.clearRelay with relay := some relay, activeTarget := address } := by
  unfold activateRoute
  split_ifs with hroute hactive hstart
  · exact .inl rfl
  · exact .inl rfl
  · exact .inr (.inl rfl)
  · by_cases hports : kTcpPorts.all answers.startTcpRelay = true
    · rw [startPorts_all hports]
      exact .inr (.inr ⟨by simpa using hroute, _, rfl, rfl, rfl, rfl⟩)
    · rw [startPorts_eq, Bool.eq_false_iff.mpr hports]
      exact .inr (.inl rfl)

/-- What a call that gets to the ports does. -/
lemma prepareStream_of_prepares (h : t.Prepares answers address) :
    ∃ relay, t.relay = some relay ∧ t.prepareStream answers address =
      if kUdpPorts.all answers.startUdpRelay then
        (0, { t with
          relay := some { relay with udpPorts := relay.udpPorts ++ kUdpPorts }
          udpPrepared := true })
      else
        (-2, { t with relay := some { relay with
          udpPorts := relay.udpPorts ++ kUdpPorts.takeWhile answers.startUdpRelay } }) := by
  obtain ⟨hrelay, hrunning, htarget, hprepared⟩ := h
  obtain ⟨relay, hrelay⟩ := Option.isSome_iff_exists.mp hrelay
  refine ⟨relay, hrelay, ?_⟩
  rw [prepareStream, hrelay]
  dsimp only
  rw [if_neg (by simp [hrunning, htarget]), if_neg (by simp [hprepared])]
  by_cases hall : kUdpPorts.all answers.startUdpRelay = true
  · rw [startPorts_all hall, if_pos hall]
    rfl
  · rw [startPorts_eq, if_neg hall, Bool.eq_false_iff.mpr hall]
    rfl

lemma prepareStream_of_not (h : ¬ t.Prepares answers address) :
    (t.prepareStream answers address).2 = t := by
  unfold prepareStream
  split
  · rfl
  · rename_i relay hrelay
    split_ifs with hrefused hprepared
    · rfl
    · rfl
    · rw [not_or, not_not, Bool.not_eq_false] at hrefused
      exact absurd ⟨Option.isSome_iff_exists.mpr ⟨relay, hrelay⟩, hrefused.1, hrefused.2,
        by simpa using hprepared⟩ h

lemma sound_prepareStream (h : t.Sound) : (t.prepareStream answers address).2.Sound := by
  by_cases hprepares : t.Prepares answers address
  · obtain ⟨relay, hrelay, heq⟩ := prepareStream_of_prepares hprepares
    have hserves := h.serves relay hrelay
    have htarget := h.target
    rw [hrelay] at htarget
    rw [heq]
    split_ifs
    · refine ⟨htarget, ?_, fun _ => ⟨_, rfl, fun port hport => ?_⟩⟩
      · rintro _ ⟨⟩
        exact hserves
      · exact List.mem_append_right _ hport
    · refine ⟨htarget, ?_, fun hprepared => ?_⟩
      · rintro _ ⟨⟩
        exact hserves
      · have := hprepares.2.2.2
        rw [hprepared] at this
        cases this
  · rwa [prepareStream_of_not hprepares]

lemma sound_activateRoute (h : t.Sound) : (t.activateRoute answers address).2.Sound := by
  rcases activateRoute_cases answers address t with heq | heq |
    ⟨hroute, relay, htarget, htcp, hudp, heq⟩
  · rwa [heq]
  · rw [heq]
    exact t.sound_clearRelay
  · rw [heq]
    refine ⟨iff_of_true (ne_nil_of_canRoute hroute) rfl, ?_, nofun⟩
    rintro _ ⟨⟩
    rw [htcp]
    exact ⟨htarget, fun port hport => hport, by decide⟩

/-- What the two lemmas below look at. -/
def relayState (t : WgNxTunnel) : Option LwipRelay × Bytes × Bool :=
  (t.relay, t.activeTarget, t.udpPrepared)

/-- The other calls keep the relay or clear it. -/
lemma relayState_apply (hactivate : ∀ answers address, c ≠ .activateRoute answers address)
    (hprepare : ∀ answers address, c ≠ .prepareStream answers address) :
    (t.apply c).relayState = t.relayState ∨ (t.apply c).relayState = t.clearRelay.relayState := by
  cases c with
  | start answers =>
    left
    show (t.start answers).2.relayState = _
    unfold start
    split_ifs <;> rfl
  | activateRoute answers address => exact absurd rfl (hactivate answers address)
  | prepareStream answers address => exact absurd rfl (hprepare answers address)
  | deactivateRoute address =>
    show (t.deactivateRoute address).relayState = _ ∨ (t.deactivateRoute address).relayState = _
    unfold deactivateRoute
    split_ifs
    · exact .inl rfl
    · exact .inr rfl
  | stop =>
    show t.stop.relayState = _ ∨ t.stop.relayState = _
    unfold stop
    split_ifs
    · exact .inl rfl
    · exact .inr rfl

lemma Sound.of_relayState {u : WgNxTunnel} (h : t.Sound) (heq : u.relayState = t.relayState) :
    u.Sound := by
  obtain ⟨hrelay, htarget, hprepared⟩ : u.relay = t.relay ∧ u.activeTarget = t.activeTarget ∧
      u.udpPrepared = t.udpPrepared := by
    simpa [relayState] using heq
  refine ⟨?_, ?_, ?_⟩
  · rw [hrelay, htarget]
    exact h.target
  · rw [hrelay, htarget]
    exact h.serves
  · rw [hrelay, hprepared]
    exact h.prepared

/-- No call breaks the relay. -/
theorem sound_apply (h : t.Sound) (c : Call) : (t.apply c).Sound := by
  by_cases hactivate : ∃ answers address, c = .activateRoute answers address
  · obtain ⟨answers, address, rfl⟩ := hactivate
    exact sound_activateRoute h
  by_cases hprepare : ∃ answers address, c = .prepareStream answers address
  · obtain ⟨answers, address, rfl⟩ := hprepare
    exact sound_prepareStream h
  push Not at hactivate hprepare
  rcases relayState_apply (t := t) hactivate hprepare with heq | heq
  · exact h.of_relayState heq
  · exact t.sound_clearRelay.of_relayState heq

/-! ## Ports that are started once -/

/-- UDP ports are up when they count as prepared, and each of them once. -/
structure Settled (t : WgNxTunnel) : Prop where
  fresh : t.udpPrepared = false → t.udpPorts = []
  nodup : t.udpPorts.Nodup

lemma Settled.of_relayState {u : WgNxTunnel} (h : t.Settled)
    (heq : u.relayState = t.relayState) : u.Settled := by
  obtain ⟨hrelay, -, hprepared⟩ : u.relay = t.relay ∧ u.activeTarget = t.activeTarget ∧
      u.udpPrepared = t.udpPrepared := by
    simpa [relayState] using heq
  refine ⟨?_, ?_⟩
  · rw [udpPorts, hrelay, hprepared]
    exact h.fresh
  · rw [udpPorts, hrelay]
    exact h.nodup

lemma settled_of_nil (h : t.udpPorts = []) : t.Settled := by
  refine ⟨fun _ => h, ?_⟩
  rw [h]
  exact List.nodup_nil

/-- The calls that start no UDP port. -/
lemma settled_other (h : t.Settled)
    (hprepare : ∀ answers address, c ≠ .prepareStream answers address) : (t.apply c).Settled := by
  by_cases hactivate : ∃ answers address, c = .activateRoute answers address
  · obtain ⟨answers, address, rfl⟩ := hactivate
    show (t.activateRoute answers address).2.Settled
    rcases activateRoute_cases answers address t with heq | heq |
      ⟨hroute, relay, htarget, htcp, hudp, heq⟩
    · rwa [heq]
    · rw [heq]
      exact settled_of_nil rfl
    · rw [heq]
      exact settled_of_nil hudp
  push Not at hactivate
  rcases relayState_apply (t := t) hactivate hprepare with heq | heq
  · exact h.of_relayState heq
  · exact (settled_of_nil (t := t.clearRelay) rfl).of_relayState heq

/-- A call that gets to the ports starts those in front of the first that fails. -/
lemma prepareStream_udpPorts (h : t.Settled) (hprepares : t.Prepares answers address) :
    (t.prepareStream answers address).2.udpPorts = kUdpPorts.takeWhile answers.startUdpRelay ∧
      (t.prepareStream answers address).2.udpPrepared = kUdpPorts.all answers.startUdpRelay ∧
      ((t.prepareStream answers address).1 = 0 ↔ kUdpPorts.all answers.startUdpRelay = true) := by
  obtain ⟨relay, hrelay, heq⟩ := prepareStream_of_prepares hprepares
  have hnil : relay.udpPorts = [] := by
    have := h.fresh hprepares.2.2.2
    rwa [udpPorts, hrelay] at this
  rw [heq, hnil]
  split_ifs with hall
  · rw [List.takeWhile_eq_self_iff.mpr (List.all_eq_true.mp hall), hall]
    exact ⟨rfl, rfl, iff_of_true rfl rfl⟩
  · rw [Bool.eq_false_iff.mpr hall]
    exact ⟨rfl, hprepares.2.2.2, iff_of_false (fun h => by cases h) Bool.false_ne_true⟩

/-- Some port is started by a call that fails exactly when it stops part of the way. -/
lemma takeWhile_eq_nil_iff (answers : Answers) :
    kUdpPorts.takeWhile answers.startUdpRelay = [] ↔ answers.startUdpRelay 47998 = false := by
  rw [List.takeWhile_eq_nil_iff]
  exact ⟨fun h => Bool.eq_false_iff.mpr (h (by decide)), fun h _ => Bool.eq_false_iff.mp h⟩

lemma nodup_takeWhile (accepts : UInt16 → Bool) : (kUdpPorts.takeWhile accepts).Nodup :=
  List.Nodup.sublist (List.takeWhile_sublist _) (by decide)

/-- A call is clean exactly when it does not stop part of the way. -/
lemma clean_prepareStream (h : t.Settled) :
    t.Clean (.prepareStream answers address) ↔ t.Allowed (.prepareStream answers address) := by
  have hsame : t.apply (.prepareStream answers address) =
      (t.prepareStream answers address).2 := rfl
  unfold Clean Allowed
  rw [hsame]
  by_cases hprepares : t.Prepares answers address
  · obtain ⟨hports, -, hresult⟩ := prepareStream_udpPorts h hprepares
    have hnil : t.udpPorts = [] := h.fresh hprepares.2.2.2
    rw [hports, hnil]
    constructor
    · -- the first port is up after a call that fails
      rintro ⟨-, hfails⟩ - ⟨hfirst, hall⟩
      have hsub := hfails answers address rfl (fun h => by simp [hresult.mp h] at hall)
      have := (takeWhile_eq_nil_iff answers).mp (List.subset_nil.mp hsub)
      rw [hfirst] at this
      cases this
    · -- a call that fails does so at the first port
      intro hallowed
      refine ⟨nodup_takeWhile _, ?_⟩
      rintro _ _ ⟨⟩ hfailed
      have hfirst : answers.startUdpRelay 47998 = false := by
        by_contra hfirst
        exact hallowed hprepares
          ⟨by simpa using hfirst, Bool.eq_false_iff.mpr (mt hresult.mpr hfailed)⟩
      exact List.subset_nil.mpr ((takeWhile_eq_nil_iff answers).mpr hfirst)
  · rw [prepareStream_of_not hprepares]
    exact iff_of_true ⟨h.nodup, fun _ _ _ _ => List.Subset.refl _⟩ fun h => absurd h hprepares

lemma settled_prepareStream (h : t.Settled)
    (hallowed : t.Allowed (.prepareStream answers address)) :
    (t.prepareStream answers address).2.Settled := by
  by_cases hprepares : t.Prepares answers address
  · obtain ⟨hports, hprepared, -⟩ := prepareStream_udpPorts h hprepares
    refine ⟨fun hfresh => ?_, ?_⟩
    · rw [hprepared] at hfresh
      rw [hports, takeWhile_eq_nil_iff]
      by_contra hfirst
      exact hallowed hprepares ⟨by simpa using hfirst, hfresh⟩
    · rw [hports]
      exact nodup_takeWhile _
  · rwa [prepareStream_of_not hprepares]

lemma clean_iff_allowed (h : t.Settled) (c : Call) : t.Clean c ↔ t.Allowed c := by
  by_cases hprepare : ∃ answers address, c = .prepareStream answers address
  · obtain ⟨answers, address, rfl⟩ := hprepare
    exact clean_prepareStream h
  push Not at hprepare
  have hallowed : t.Allowed c := by
    cases c with
    | prepareStream answers address => exact absurd rfl (hprepare answers address)
    | _ => trivial
  exact iff_of_true ⟨(settled_other h hprepare).nodup, fun answers address heq =>
    absurd heq (hprepare answers address)⟩ hallowed

lemma settled_apply (h : t.Settled) (c : Call) (hallowed : t.Allowed c) : (t.apply c).Settled := by
  by_cases hprepare : ∃ answers address, c = .prepareStream answers address
  · obtain ⟨answers, address, rfl⟩ := hprepare
    exact settled_prepareStream h hallowed
  push Not at hprepare
  exact settled_other h hprepare

end WgNxTunnel

/-- The tunnel of a configuration after some calls. -/
def tunnelAfter (config : Config) (calls : List Call) : WgNxTunnel :=
  calls.foldl WgNxTunnel.apply { config := config }

theorem tunnel_sound (config : Config) (calls : List Call) : (tunnelAfter config calls).Sound := by
  refine List.foldlRecOn calls _ ?_ fun t h c _ => WgNxTunnel.sound_apply h c
  exact WgNxTunnel.sound_clearRelay { config := config }

/-- In every run the relay is the one of the target with its TCP ports; each UDP port is started
once, and a call that fails leaves none, exactly when no call stops part of the way. -/
theorem relay_ports_iff (config : Config) (calls : List Call) :
    (∀ n, (tunnelAfter config (calls.take n)).Sound) ∧
      ((∀ before c after, calls = before ++ c :: after → (tunnelAfter config before).Clean c) ↔
        allowed WgNxTunnel.apply WgNxTunnel.Allowed { config := config } calls = true) := by
  have hstart : WgNxTunnel.Settled { config := config } := WgNxTunnel.settled_of_nil rfl
  refine ⟨fun n => tunnel_sound config (calls.take n), ?_⟩
  exact forall_step_iff_allowed (I := WgNxTunnel.Settled)
    (fun t c h => WgNxTunnel.clean_iff_allowed h c)
    (fun t c h hok => WgNxTunnel.settled_apply h c hok) hstart calls

/-- A configuration that routes everything through its peer. -/
def anywhere : Config :=
  { address := ascii "10.70.0.2/32", peers := [{ allowedIps := ascii "0.0.0.0/0" }] }

/-- The second UDP port fails at first, and the stream is prepared again. -/
def secondPortFails : List Call :=
  [.start {}, .activateRoute {} (ascii "192.168.1.50"),
    .prepareStream { startUdpRelay := fun port => port = 47998 } (ascii "192.168.1.50"),
    .prepareStream {} (ascii "192.168.1.50")]

/-- The failed call leaves a port up, and the next one starts that port again. -/
theorem port_started_twice :
    ¬ (tunnelAfter anywhere (secondPortFails.take 2)).Clean
        (.prepareStream { startUdpRelay := fun port => port = 47998 } (ascii "192.168.1.50")) ∧
      (tunnelAfter anywhere secondPortFails).udpPorts =
        [47998, 47998, 48000, 47999, 48002, 48010] := by
  refine ⟨fun hclean => ?_, by decide +kernel⟩
  have hsub := hclean.2 _ _ rfl (by decide +kernel)
  exact absurd hsub (by decide +kernel)

end ArtemisSwitch.WireGuard

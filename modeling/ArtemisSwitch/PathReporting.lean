import ArtemisSwitch.HostAddress
import ArtemisSwitch.Library.AssocMap
import ArtemisSwitch.Library.Runs
import ArtemisSwitch.DirectTrust

/-!
# What is reported about the path to a peer

The housekeeping of the direct path tells `PathManager` when the best endpoint
changes.  `PathManager` gives up a direct path that it has heard nothing of for
a while.
-/

namespace ArtemisSwitch.Disco
open HostAddress Runs

/-- Dotted quad, colon, port. -/
def IPv4Endpoint.toText (endpoint : IPv4Endpoint) : Bytes :=
  let octet (shift : ℕ) := decimal (endpoint.address.toNat / 2 ^ shift % 256)
  octet 24 ++ ascii "." ++ octet 16 ++ ascii "." ++ octet 8 ++ ascii "." ++ octet 0 ++
    ascii ":" ++ decimal endpoint.port.toNat

lemma IPv4Endpoint.toText_ne_nil (endpoint : IPv4Endpoint) : endpoint.toText ≠ [] := by
  simp [toText, ascii]

/-! ## PathManager -/

inductive RemotePathType
  | Unknown
  | DirectIPv4
  | DirectIPv6
  | Derp
  | PeerRelayIPv4
  | PeerRelayIPv6
  deriving DecidableEq, Repr

structure RemotePathInfo where
  type : RemotePathType := .Unknown
  endpoint : Bytes := []
  relayRegion : Bytes := []
  rttMs : ℤ := -1
  deriving DecidableEq, Repr

namespace PathManager

/-- 15 s. -/
def kDirectFreshness : Time := 15000000000

/-- 3 s. -/
def kProbeTimeout : Time := 3000000000

structure State where
  derpRegion : Bytes := []
  directEndpoint : Bytes := []
  directRttMs : ℤ := -1
  probeStarted : Time := 0
  lastDirectPacket : Time := 0
  probing : Bool := false
  direct : Bool := false
  deriving DecidableEq, Repr

end PathManager

open PathManager in
/-- `paths_`. -/
abbrev PathManager := AList fun _ : Bytes => State

namespace PathManager

def directPong (paths : PathManager) (peerId endpoint : Bytes) (rttMs : ℤ) (now : Time) :
    PathManager :=
  let state := (paths.lookup peerId).getD {}
  paths.insert peerId
    { state with
      directEndpoint := endpoint
      directRttMs := rttMs
      lastDirectPacket := now
      probing := false
      direct := true }

def directLost (paths : PathManager) (peerId : Bytes) : PathManager :=
  match paths.lookup peerId with
  | none => paths
  | some state =>
    paths.insert peerId { state with direct := false, probing := false, directRttMs := -1 }

def pollState (now : Time) (state : State) : State :=
  let state := if state.probing ∧ kProbeTimeout < now - state.probeStarted then
      { state with probing := false }
    else state
  if state.direct ∧ kDirectFreshness < now - state.lastDirectPacket then
    { state with direct := false, directRttMs := -1 }
  else state

def poll (paths : PathManager) (now : Time) : PathManager := paths.mapValues (pollState now)

def pathInfo (paths : PathManager) (peerId : Bytes) : RemotePathInfo :=
  match paths.lookup peerId with
  | none => {}
  | some state =>
    if state.direct then
      { type := .DirectIPv4, endpoint := state.directEndpoint, rttMs := state.directRttMs }
    else if state.derpRegion ≠ [] then { type := .Derp, relayRegion := state.derpRegion }
    else {}

/-- The hook that `TailscaleCore` gives to the route. -/
def observe (paths : PathManager) (peerId endpoint : Bytes) (rttMs : ℤ) (now : Time) :
    PathManager :=
  if endpoint = [] then paths.directLost peerId else paths.directPong peerId endpoint rttMs now

variable {paths : PathManager} {peerId endpoint : Bytes} {rttMs : ℤ} {now : Time}

/-- The entry of a peer that is on a direct path. -/
def directState (paths : PathManager) (peerId : Bytes) : Option State :=
  (paths.lookup peerId).filter State.direct

lemma pathInfo_direct {state : State} (h : paths.directState peerId = some state) :
    paths.pathInfo peerId =
      { type := .DirectIPv4, endpoint := state.directEndpoint, rttMs := state.directRttMs } := by
  obtain ⟨hlookup, hdirect⟩ := Option.filter_eq_some_iff.mp h
  rw [pathInfo, hlookup]
  simp [hdirect]

lemma pathInfo_not_direct (h : paths.directState peerId = none) :
    (paths.pathInfo peerId).type ≠ .DirectIPv4 := by
  rw [directState, Option.filter_eq_none_iff] at h
  unfold pathInfo
  split
  · simp
  · rename_i state hlookup
    rw [if_neg (h state hlookup)]
    split_ifs <;> simp

lemma directState_directPong : (paths.directPong peerId endpoint rttMs now).directState peerId =
    some { (paths.lookup peerId).getD {} with
      directEndpoint := endpoint
      directRttMs := rttMs
      lastDirectPacket := now
      probing := false
      direct := true } := by
  simp [directState, directPong]

lemma directState_directLost : (paths.directLost peerId).directState peerId = none := by
  unfold directLost
  split <;> rename_i hlookup
  · simp [directState, hlookup]
  · simp [directState]

/-- A direct path survives a poll when something was heard of it in time. -/
lemma directState_poll : (paths.poll now).directState peerId =
    ((paths.directState peerId).filter fun state =>
      now - state.lastDirectPacket ≤ kDirectFreshness).map (pollState now) := by
  rw [directState, directState, poll, AList.lookup_mapValues]
  rcases paths.lookup peerId with _ | state
  · rfl
  · by_cases hdirect : state.direct = true <;>
      by_cases hfresh : kDirectFreshness < now - state.lastDirectPacket <;>
      by_cases hprobe : state.probing = true ∧ kProbeTimeout < now - state.probeStarted <;>
      simp [pollState, hdirect, hfresh, hprobe, Option.filter, Int.not_le.mpr, Int.not_lt.mp]

end PathManager

/-! ## Housekeeping -/

/-- The direct path to one peer, what was last reported of it and what came of the report.
`lastBest` is the best endpoint that the last housekeeping found. -/
structure Reporting where
  path : DirectPath := {}
  clock : Time
  reportedBest : IPv4Endpoint := {}
  paths : PathManager := ∅
  lastBest : Option IPv4Endpoint := none

namespace Reporting

inductive Event
  | call (op : Op)
  | housekeeping (now : Time) (txids : List TxId) (observed : Time)
  | poll (now : Time)
  deriving DecidableEq, Repr

/-- Every endpoint that is due is pinged, whether or not the packet could be sent. -/
def ping (path : DirectPath) (now : Time) (pings : List (IPv4Endpoint × TxId)) : DirectPath :=
  pings.foldl (fun path p => path.notePingSent p.2 p.1 now) path

/-- The end of the housekeeping: a change of the best endpoint is reported.  `observed` is
the time that the hook reads when it is called. -/
def report (s : Reporting) (peerId : Bytes) (path : DirectPath) (now observed : Time) :
    Reporting :=
  let best := path.best now
  let current := best.getD {}
  let found := { s with path := path, clock := now, lastBest := best }
  if current = s.reportedBest then found
  else
    { found with
      reportedBest := current
      paths := s.paths.observe peerId (best.elim [] IPv4Endpoint.toText)
        (best.elim (-1) fun _ => path.bestRttMs) observed }

def directHousekeeping (s : Reporting) (peerId : Bytes) (now : Time) (txids : List TxId)
    (observed : Time) : Reporting :=
  let due := s.path.due now
  s.report peerId (ping due.2 now (due.1.zip txids)) now observed

/-- Calls and housekeeping come in the order of their times, polls at any time. -/
def step (peerId : Bytes) (s : Reporting) : Event → Option Reporting
  | .call op =>
    if op ≠ .reset ∧ ∀ now ∈ op.time, s.clock ≤ now then
      some { s with path := s.path.step op, clock := op.time.getD s.clock }
    else none
  | .housekeeping now txids observed =>
    if s.clock ≤ now ∧ now ≤ observed ∧ txids.length = (s.path.due now).1.length then
      some (s.directHousekeeping peerId now txids observed)
    else none
  | .poll now => some { s with paths := s.paths.poll now }

/-- The path that is shown is the one that is used. -/
def Agrees (peerId : Bytes) (s : Reporting) : Prop :=
  match s.lastBest with
  | some e => (s.paths.pathInfo peerId).type = .DirectIPv4 ∧
      (s.paths.pathInfo peerId).endpoint = e.toText
  | none => (s.paths.pathInfo peerId).type ≠ .DirectIPv4

/-- A poll comes within 15 s of the report that made the path a direct one. -/
def InTime (peerId : Bytes) (s : Reporting) : Event → Prop
  | .poll now => ∀ state ∈ s.paths.directState peerId,
      now - state.lastDirectPacket ≤ PathManager.kDirectFreshness
  | _ => True

instance (peerId : Bytes) (s : Reporting) (event : Event) : Decidable (s.InTime peerId event) :=
  match event with
  | .poll _ => inferInstanceAs (Decidable (∀ state ∈ s.paths.directState peerId, _))
  | .call _ => inferInstanceAs (Decidable True)
  | .housekeeping _ _ _ => inferInstanceAs (Decidable True)

variable {s t : Reporting} {peerId : Bytes} {event : Event} {now observed : Time}
variable {txids : List TxId}

/-- The direct path that `PathManager` knows is the one that was last reported. -/
structure Inv (peerId : Bytes) (s : Reporting) : Prop where
  reported : s.reportedBest = s.lastBest.getD {}
  valid : ∀ e, s.lastBest = some e → e.valid = true
  known : (s.paths.directState peerId).map PathManager.State.directEndpoint =
    s.lastBest.map IPv4Endpoint.toText

lemma inv_initial (clock : Time) : Inv peerId { clock := clock } := ⟨rfl, nofun, rfl⟩

lemma agrees_iff_known (hv : ∀ state, s.paths.directState peerId = some state →
      (s.lastBest.map IPv4Endpoint.toText) = some state.directEndpoint) :
    Agrees peerId s ↔ (s.paths.directState peerId).isSome = s.lastBest.isSome := by
  unfold Agrees
  rcases hd : s.paths.directState peerId with _ | state
  · have hinfo := PathManager.pathInfo_not_direct hd
    cases s.lastBest <;> simp [hinfo]
  · have hinfo := PathManager.pathInfo_direct hd
    have hstate := hv state hd
    rcases hl : s.lastBest with _ | e
    · simp [hl] at hstate
    · rw [hl] at hstate
      simp [hinfo, (Option.some.inj hstate).symm]

lemma Inv.agrees (h : Inv peerId s) : Agrees peerId s := by
  have hknown := h.known
  rw [agrees_iff_known]
  · have hsome := congrArg Option.isSome hknown
    simpa using hsome
  · intro state hstate
    rw [← hknown, hstate]
    rfl

/-- Two endpoints that can be sent to, or none, are told apart by what is reported. -/
lemma eq_of_getD {best best' : Option IPv4Endpoint} (hv : ∀ e, best = some e → e.valid = true)
    (hv' : ∀ e, best' = some e → e.valid = true) (h : best.getD {} = best'.getD {}) :
    best = best' := by
  have hinvalid : ({} : IPv4Endpoint).valid = false := rfl
  rcases best with _ | e <;> rcases best' with _ | e'
  · rfl
  · have hval := hv' e' rfl
    rw [show e' = {} from h.symm, hinvalid] at hval
    cases hval
  · have hval := hv e rfl
    rw [show e = {} from h, hinvalid] at hval
    cases hval
  · exact congrArg some h

lemma Inv.report {path : DirectPath} (h : Inv peerId s) :
    Inv peerId (s.report peerId path now observed) := by
  have hbest : ∀ e, path.best now = some e → e.valid = true :=
    fun e he => (DirectPath.best_some.mp he).2.1
  simp only [Reporting.report]
  split_ifs with hsame
  · have hlast : path.best now = s.lastBest := eq_of_getD hbest h.valid (hsame.trans h.reported)
    exact ⟨hsame.symm, hbest, by simp only [hlast, h.known]⟩
  · refine ⟨rfl, hbest, ?_⟩
    simp only
    rcases path.best now with _ | e
    · simp [PathManager.observe, PathManager.directState_directLost]
    · simp [PathManager.observe, PathManager.directState_directPong, e.toText_ne_nil]

/-- Only a poll that comes too late parts what is shown from what is used. -/
theorem step_iff (h : Inv peerId s) (hs : s.step peerId event = some t) :
    (Inv peerId t ∧ InTime peerId s event) ∨ (¬ Agrees peerId t ∧ ¬ InTime peerId s event) := by
  cases event with
  | call op =>
    simp only [step] at hs
    split_ifs at hs
    obtain rfl := Option.some.inj hs
    exact Or.inl ⟨⟨h.reported, h.valid, h.known⟩, trivial⟩
  | housekeeping now txids observed =>
    simp only [step] at hs
    split_ifs at hs
    obtain rfl := Option.some.inj hs
    exact Or.inl ⟨h.report, trivial⟩
  | poll now =>
    obtain rfl := Option.some.inj hs
    have hkeep (state) : (PathManager.pollState now state).directEndpoint =
        state.directEndpoint := by
      simp only [PathManager.pollState]
      split_ifs <;> rfl
    have hpoll := @PathManager.directState_poll s.paths peerId now
    have hknown := h.known
    rcases hd : s.paths.directState peerId with _ | state
    · rw [hd] at hpoll hknown
      refine Or.inl ⟨⟨h.reported, h.valid, by rw [hpoll]; exact hknown⟩, ?_⟩
      simp [InTime, hd]
    · rw [hd] at hpoll hknown
      by_cases hfresh : now - state.lastDirectPacket ≤ PathManager.kDirectFreshness
      · refine Or.inl ⟨⟨h.reported, h.valid, ?_⟩, by simpa [InTime, hd] using hfresh⟩
        rw [hpoll, ← hknown]
        simp [Option.filter, hfresh, hkeep]
      -- the poll drops a state that is still in use
      · refine Or.inr ⟨?_, by simpa [InTime, hd] using hfresh⟩
        have hgone : (s.paths.poll now).directState peerId = none := by
          simp [hpoll, Option.filter, hfresh]
        rw [agrees_iff_known (by simp [hgone])]
        have hsome : s.lastBest.isSome = true := by
          simpa using (congrArg Option.isSome hknown).symm
        simp [hgone, hsome]

/-- Runs whose polls come in time show the path that is used, and the first poll that
comes later shows another. -/
theorem pathInfo_agrees_of_inTime (peerId : Bytes) (clock : Time) (s : Reporting)
    (hrun : Run (step peerId) (InTime peerId) { clock := clock } s) :
    Agrees peerId s ∧
      ∀ event t, s.step peerId event = some t → (Agrees peerId t ↔ InTime peerId s event) := by
  have h : Inv peerId s := by
    refine hrun.invariant (inv_initial clock) ?_
    intro t event u ht hok hs
    rcases step_iff ht hs with h | h
    · exact h.1
    · exact absurd hok h.2
  refine ⟨h.agrees, ?_⟩
  intro event t hs
  rcases step_iff h hs with ⟨hinv, hin⟩ | ⟨hnot, hlate⟩
  · exact iff_of_true hinv.agrees hin
  · exact iff_of_false hnot hlate

/-- The peer answers its LAN endpoint's heartbeat every 3 s. -/
def heartbeats (n : ℕ) : List Event :=
  .call (.addCandidate ⟨0xC0A80114, 41641⟩) :: (List.range n).flatMap fun k : ℕ =>
    let now : Time := 3000000000 * Int.ofNat k
    let txid : TxId := Vector.replicate 12 (UInt8.ofNat k)
    [.housekeeping now [txid] now,
      .call (.pong txid ⟨0xC0A80114, 41641⟩ (now + 20000000)),
      .housekeeping (now + 100000000) [] (now + 100000000)]

theorem pathInfo_agrees_at_nine_seconds :
    Agrees (ascii "peer") ((exec (guarded (step (ascii "peer")) (InTime (ascii "peer")))
      { clock := 0 } (heartbeats 3 ++ [.poll 9000000000])).get (by decide +kernel)) :=
  (pathInfo_agrees_of_inTime (ascii "peer") 0 _ (.of_exec_guarded (Option.some_get _).symm)).1

/-- WireGuard has been going straight to the peer for 16 s, but `PathManager` does not
know any more. -/
theorem direct_path_forgotten :
    ∃ s, Run (step (ascii "peer")) (fun _ _ => True) { clock := 0 } s ∧
      s.path.best s.clock = some ⟨0xC0A80114, 41641⟩ ∧
      s.lastBest = some ⟨0xC0A80114, 41641⟩ ∧
      (s.paths.pathInfo (ascii "peer")).type = .Unknown :=
  ⟨(exec (step (ascii "peer")) { clock := 0 } (heartbeats 6 ++ [.poll 16000000000])).get
      (by decide +kernel),
    .of_exec (Option.some_get _).symm (by simp), by decide +kernel, by decide +kernel,
    by decide +kernel⟩

end Reporting
end ArtemisSwitch.Disco

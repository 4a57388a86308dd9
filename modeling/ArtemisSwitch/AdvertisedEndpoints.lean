import ArtemisSwitch.PathReporting

/-!
# The endpoints that are advertised

Endpoints of our own come from the interface, from STUN and from what a peer has seen.  The
housekeeping of the direct path publishes them and tells the peer.
-/

namespace ArtemisSwitch.Disco
open Runs

/-- 127.3.3.40 -/
def kDerpMagicAddress : UInt32 := 0x7f030328

/-- 10 s. -/
def kCallMeMaybeInterval : Time := 10000000000

/-- `getsockname` of a socket that is connected to the internet. -/
def discoverLanAddress (interface : Option UInt32) : Option UInt32 := interface.filter (· ≠ 0)

/-- The part of `RealWgxBackend` that is about endpoints of our own, with the last list that was
given to `publishEndpoints` and the last that a `CallMeMaybe` was built from. -/
structure OwnEndpoints where
  lan : Option IPv4Endpoint
  path : DirectPath := {}
  localEndpoints : List IPv4Endpoint := []
  stunMapped : IPv4Endpoint := {}
  endpointsChanged : Bool := true
  nextCallMeMaybe : Time
  published : Option (List Bytes) := none
  callMeMaybe : Option (List IPv4Endpoint) := none
  deriving DecidableEq, Repr

/-- `txid` are the random transaction IDs of the pings. -/
inductive OwnEvent
  | stun (mapped : IPv4Endpoint)
  | pong (txid : TxId) (sender source : IPv4Endpoint) (now : Time)
  | candidate (endpoint : IPv4Endpoint)
  | housekeeping (now : Time) (txid : IPv4Endpoint → TxId)

namespace OwnEndpoints

def startDirectPath (interface : Option UInt32) (localPort : UInt16)
    (peerEndpoints : List IPv4Endpoint) (now : Time) : OwnEndpoints :=
  let lan := (discoverLanAddress interface).map fun address => ⟨address, localPort⟩
  { lan := lan
    path := peerEndpoints.foldl DirectPath.addCandidate {}
    localEndpoints := lan.toList
    nextCallMeMaybe := now }

/-- A new public mapping replaces the old one. -/
def stun (s : OwnEndpoints) (mapped : IPv4Endpoint) : OwnEndpoints :=
  if mapped = s.stunMapped then s
  else
    { s with
      localEndpoints := s.localEndpoints.filter (· ≠ s.stunMapped) ++ [mapped]
      stunMapped := mapped
      endpointsChanged := true }

/-- How the peer saw us. -/
def observed (s : OwnEndpoints) (source : IPv4Endpoint) : OwnEndpoints :=
  -- through a relay the peer sees the magic address
  if source.valid = false ∨ source = s.stunMapped ∨ source.address = kDerpMagicAddress then s
  else if source ∈ s.localEndpoints ∨ 8 ≤ s.localEndpoints.length then s
  else { s with localEndpoints := s.localEndpoints ++ [source], endpointsChanged := true }

def pong (s : OwnEndpoints) (txid : TxId) (sender source : IPv4Endpoint) (now : Time) :
    OwnEndpoints :=
  observed { s with path := (s.path.notePong txid sender now).2 } source

/-- Pings whoever is due. -/
def ping (s : OwnEndpoints) (now : Time) (txid : IPv4Endpoint → TxId) : OwnEndpoints :=
  let (due, path) := s.path.due now
  { s with
    path := due.foldl (fun path endpoint => path.notePingSent (txid endpoint) endpoint now) path }

def callPeer (s : OwnEndpoints) (now : Time) : OwnEndpoints :=
  -- what has changed is told at once, and the rest again while there is no direct path
  if s.localEndpoints ≠ [] ∧
      (s.endpointsChanged = true ∨ (s.path.best now = none ∧ s.nextCallMeMaybe ≤ now)) then
    { s with
      callMeMaybe := some s.localEndpoints
      nextCallMeMaybe := now + kCallMeMaybeInterval }
  else s

/-- An empty list is not published. -/
def publish (s : OwnEndpoints) : OwnEndpoints :=
  if s.endpointsChanged then
    { s with
      endpointsChanged := false
      published := if s.localEndpoints = [] then s.published
        else some (s.localEndpoints.map IPv4Endpoint.toText) }
  else s

def housekeeping (s : OwnEndpoints) (now : Time) (txid : IPv4Endpoint → TxId) : OwnEndpoints :=
  ((s.ping now txid).callPeer now).publish

def step (s : OwnEndpoints) : OwnEvent → OwnEndpoints
  | .stun mapped => s.stun mapped
  | .pong txid sender source now => s.pong txid sender source now
  | .candidate endpoint => { s with path := s.path.addCandidate endpoint }
  | .housekeeping now txid => s.housekeeping now txid

/-! ## What is advertised -/

/-- Each endpoint once, with the one of the interface and the one of STUN. -/
structure Advertises (s : OwnEndpoints) : Prop where
  nodup : s.localEndpoints.Nodup
  lan : ∀ endpoint ∈ s.lan, endpoint ∈ s.localEndpoints
  stun : s.stunMapped.valid = true → s.stunMapped ∈ s.localEndpoints

/-- The control server and the peer know the endpoints as they are. -/
def Told (s : OwnEndpoints) : Prop :=
  s.localEndpoints ≠ [] → s.published = some (s.localEndpoints.map IPv4Endpoint.toText) ∧
    s.callMeMaybe = some s.localEndpoints

/-- The step leaves a list that is as it should be, and told if it is the housekeeping. -/
def Sound (s : OwnEndpoints) (event : OwnEvent) : Prop :=
  (s.step event).Advertises ∧
    ∀ now txid, event = .housekeeping now txid → (s.housekeeping now txid).Told

/-- STUN does not report an endpoint that is in the list for another reason. -/
def Allowed (s : OwnEndpoints) : OwnEvent → Prop
  | .stun mapped => mapped = s.stunMapped ∨ mapped ∉ s.localEndpoints
  | _ => True

instance (s : OwnEndpoints) (event : OwnEvent) : Decidable (s.Allowed event) := by
  cases event <;> unfold Allowed <;> infer_instance

/-- What holds while no endpoint is listed twice. -/
structure Inv (s : OwnEndpoints) : Prop where
  advertises : s.Advertises
  told : s.endpointsChanged = false → s.Told
  lan : s.stunMapped ∉ s.lan

variable {s : OwnEndpoints} {mapped source : IPv4Endpoint}

lemma stun_advertises_iff (h : s.Inv) :
    (s.stun mapped).Advertises ↔ s.Allowed (.stun mapped) := by
  unfold stun Allowed
  split_ifs with hsame
  · exact iff_of_true h.advertises (.inl hsame)
  have hmem : mapped ∈ s.localEndpoints.filter (· ≠ s.stunMapped) ↔ mapped ∈ s.localEndpoints := by
    simp [hsame]
  constructor
  · -- the new mapping comes last, whether it is in the list or not
    rintro ⟨hnodup, -, -⟩
    rw [List.nodup_append] at hnodup
    exact .inr fun hin => hnodup.2.2 mapped (hmem.mpr hin) mapped List.mem_cons_self rfl
  · intro hallowed
    have hnew := hallowed.resolve_left hsame
    refine ⟨?_, fun endpoint hlan => ?_, fun _ => List.mem_append_right _ List.mem_cons_self⟩
    · rw [List.nodup_append]
      refine ⟨h.advertises.nodup.filter _, List.nodup_singleton _, ?_⟩
      rintro endpoint hin _ hlast rfl
      rw [List.mem_singleton.mp hlast] at hin
      exact hnew (hmem.mp hin)
    · -- the old mapping goes, which is not the endpoint of the interface
      refine List.mem_append_left _ (List.mem_filter.mpr ⟨h.advertises.lan endpoint hlan, ?_⟩)
      have hother : endpoint ≠ s.stunMapped := fun heq => h.lan (heq ▸ hlan)
      simpa using hother

lemma inv_stun (h : s.Inv) (hallowed : s.Allowed (.stun mapped)) : (s.stun mapped).Inv := by
  refine ⟨(stun_advertises_iff h).mpr hallowed, ?_, ?_⟩
  · unfold stun
    split_ifs
    · exact h.told
    · exact nofun
  · unfold stun
    split_ifs with hsame
    · exact h.lan
    · exact fun hlan => hallowed.resolve_left hsame (h.advertises.lan mapped hlan)

lemma inv_observed (h : s.Inv) : (s.observed source).Inv := by
  unfold observed
  split_ifs with hskip hknown
  · exact h
  · exact h
  · rw [not_or] at hknown
    refine ⟨⟨?_, fun endpoint hlan => ?_, fun hvalid => ?_⟩, nofun, h.lan⟩
    · rw [List.nodup_append]
      refine ⟨h.advertises.nodup, List.nodup_singleton _, ?_⟩
      rintro endpoint hin _ hlast rfl
      rw [List.mem_singleton.mp hlast] at hin
      exact hknown.1 hin
    · exact List.mem_append_left _ (h.advertises.lan endpoint hlan)
    · exact List.mem_append_left _ (h.advertises.stun hvalid)

/-- What the housekeeping leaves alone. -/
lemma housekeeping_keeps (now : Time) (txid : IPv4Endpoint → TxId) :
    (s.housekeeping now txid).localEndpoints = s.localEndpoints ∧
      (s.housekeeping now txid).lan = s.lan ∧
      (s.housekeeping now txid).stunMapped = s.stunMapped := by
  unfold housekeeping publish callPeer ping
  split_ifs <;> exact ⟨rfl, rfl, rfl⟩

lemma callPeer_callMeMaybe {now : Time} (hne : s.localEndpoints ≠ [])
    (h : s.endpointsChanged = true ∨ s.callMeMaybe = some s.localEndpoints) :
    (s.callPeer now).callMeMaybe = some s.localEndpoints := by
  unfold callPeer
  split_ifs with hcalls
  · rfl
  · rcases h with hchanged | htold
    · exact absurd ⟨hne, .inl hchanged⟩ hcalls
    · exact htold

lemma callPeer_keeps (now : Time) :
    (s.callPeer now).localEndpoints = s.localEndpoints ∧
      (s.callPeer now).endpointsChanged = s.endpointsChanged ∧
      (s.callPeer now).published = s.published := by
  unfold callPeer
  split_ifs <;> exact ⟨rfl, rfl, rfl⟩

lemma publish_told (hne : s.localEndpoints ≠ [])
    (hpublished : s.endpointsChanged = false →
      s.published = some (s.localEndpoints.map IPv4Endpoint.toText))
    (hcalled : s.callMeMaybe = some s.localEndpoints) : s.publish.Told := by
  unfold publish
  split_ifs with hchanged
  · exact fun _ => ⟨rfl, hcalled⟩
  · exact fun _ => ⟨hpublished (Bool.eq_false_iff.mpr hchanged), hcalled⟩

/-- The housekeeping tells the endpoints if they have changed. -/
lemma housekeeping_told (h : s.endpointsChanged = false → s.Told) (now : Time)
    (txid : IPv4Endpoint → TxId) : (s.housekeeping now txid).Told := by
  intro hne
  have hlocal : s.localEndpoints ≠ [] := by rwa [(housekeeping_keeps now txid).1] at hne
  have hcalled : ((s.ping now txid).callPeer now).callMeMaybe = some s.localEndpoints := by
    refine callPeer_callMeMaybe (s := s.ping now txid) hlocal ?_
    cases hchanged : s.endpointsChanged with
    | true => exact .inl hchanged
    | false => exact .inr (h hchanged hlocal).2
  obtain ⟨hsame, hchanged, hpublished⟩ := callPeer_keeps (s := s.ping now txid) now
  refine publish_told (s := (s.ping now txid).callPeer now) ?_ ?_ ?_ hne
  · rw [hsame]
    exact hlocal
  · rw [hsame, hchanged, hpublished]
    exact fun hold => (h hold hlocal).1
  · rw [hsame]
    exact hcalled

lemma inv_path (h : s.Inv) (path : DirectPath) : Inv { s with path := path } :=
  ⟨⟨h.advertises.nodup, h.advertises.lan, h.advertises.stun⟩, h.told, h.lan⟩

lemma inv_housekeeping (h : s.Inv) (now : Time) (txid : IPv4Endpoint → TxId) :
    (s.housekeeping now txid).Inv := by
  have htold := housekeeping_told h.told now txid
  obtain ⟨hlocal, hlan, hstun⟩ := @housekeeping_keeps s now txid
  refine ⟨⟨?_, ?_, ?_⟩, fun _ => htold, ?_⟩
  · rw [hlocal]
    exact h.advertises.nodup
  · rw [hlocal, hlan]
    exact h.advertises.lan
  · rw [hlocal, hstun]
    exact h.advertises.stun
  · rw [hlan, hstun]
    exact h.lan

/-- One step is sound exactly when it is allowed. -/
lemma sound_iff (event : OwnEvent) (h : s.Inv) : s.Sound event ↔ s.Allowed event := by
  unfold Sound
  cases event with
  | stun mapped =>
    show (s.stun mapped).Advertises ∧ _ ↔ _
    rw [stun_advertises_iff h]
    exact and_iff_left nofun
  | pong txid sender source now =>
    exact iff_of_true ⟨(inv_observed (inv_path h _)).advertises, nofun⟩ trivial
  | candidate endpoint => exact iff_of_true ⟨(inv_path h _).advertises, nofun⟩ trivial
  | housekeeping now txid =>
    refine iff_of_true ⟨(inv_housekeeping h now txid).advertises, ?_⟩ trivial
    rintro _ _ ⟨⟩
    exact housekeeping_told h.told now txid

lemma inv_step (event : OwnEvent) (h : s.Inv) (hallowed : s.Allowed event) :
    (s.step event).Inv := by
  cases event with
  | stun mapped => exact inv_stun h hallowed
  | pong txid sender source now => exact inv_observed (inv_path h _)
  | candidate endpoint => exact inv_path h _
  | housekeeping now txid => exact inv_housekeeping h now txid

lemma inv_startDirectPath (interface : Option UInt32) (localPort : UInt16)
    (peerEndpoints : List IPv4Endpoint) (now : Time) :
    (startDirectPath interface localPort peerEndpoints now).Inv := by
  refine ⟨⟨?_, fun endpoint hlan => Option.mem_toList.mpr hlan, nofun⟩, nofun, ?_⟩
  · unfold startDirectPath
    dsimp only
    cases (discoverLanAddress interface).map fun address => (⟨address, localPort⟩ : IPv4Endpoint)
    · exact List.nodup_nil
    · exact List.nodup_singleton _
  · -- the mapping before the first answer is 0.0.0.0, and no interface has that address
    intro hlan
    obtain ⟨address, hfound, hzero⟩ := Option.map_eq_some_iff.mp hlan
    obtain ⟨-, hne⟩ := Option.filter_eq_some_iff.mp hfound
    rw [(IPv4Endpoint.mk.inj hzero).1] at hne
    cases hne

/-- In every run the list is as it should be and told as it is after each step, exactly when STUN
never reports an endpoint that is in the list for another reason. -/
theorem endpoints_sound_iff (interface : Option UInt32) (localPort : UInt16)
    (peerEndpoints : List IPv4Endpoint) (now : Time) (events : List OwnEvent) :
    (startDirectPath interface localPort peerEndpoints now).Advertises ∧
    ((∀ before event after, events = before ++ event :: after →
        Sound (before.foldl step (startDirectPath interface localPort peerEndpoints now)) event) ↔
      allowed step Allowed (startDirectPath interface localPort peerEndpoints now) events =
        true) := by
  have hstart := inv_startDirectPath interface localPort peerEndpoints now
  refine ⟨hstart.advertises, ?_⟩
  exact forall_step_iff_allowed (I := Inv) (fun s event h => sound_iff event h)
    (fun s event h hallowed => inv_step event h hallowed) hstart events

/-- 192.0.2.7 -/
def publicAddress : UInt32 := 0xC0000207

/-- Without a NAT the endpoint of the interface is listed twice. -/
theorem no_nat_listed_twice :
    ((startDirectPath (some publicAddress) 41641 [] 0).step
      (.stun ⟨publicAddress, 41641⟩)).localEndpoints =
        [⟨publicAddress, 41641⟩, ⟨publicAddress, 41641⟩] := by
  decide +kernel

end OwnEndpoints
end ArtemisSwitch.Disco

import Mathlib.Data.List.Perm.Subperm
import ArtemisSwitch.PeerDirectory

/-!
# Updates of the peer directory

`replace` and `apply` against a map from IDs to peers: a refused update changes nothing, one that
is taken leaves what the map says, and what can be reached stays within the limits.
-/

namespace ArtemisSwitch.Netmap

/-- The directory as a map. -/
abbrev PeerMap := Bytes → Option Peer

namespace PeerMap

/-- The peers of a list under their IDs. -/
def ofList (peers : List Peer) : PeerMap := fun id => peers.find? (·.stableId = id)

def remove (m : PeerMap) (ids : List Bytes) : PeerMap := fun id => if id ∈ ids then none else m id

def assign (m : PeerMap) (peer : Peer) : PeerMap := Function.update m peer.stableId (some peer)

/-- A change for an ID that is not there is nothing. -/
def setOnline (m : PeerMap) (change : PeerOnlineChange) : PeerMap :=
  Function.update m change.stableId
    ((m change.stableId).map fun peer => { peer with online := change.online })

def apply (m : PeerMap) (delta : PeerDelta) : PeerMap :=
  delta.onlineChanges.foldl setOnline (delta.changed.foldl assign (m.remove delta.removedStableIds))

end PeerMap

/-- Within the limits of `validatePeer`. -/
structure Peer.WithinLimits (peer : Peer) : Prop where
  stableId : peer.stableId ≠ []
  endpoints : peer.endpoints.length ≤ kMaxEndpointsPerPeer
  allowedIPs : peer.allowedIPs.length ≤ kMaxAllowedIPsPerPeer
  addresses : ∀ address ∈ peer.addresses, address.length ≤ 128

lemma validatePeer_eq_none {peer : Peer} : validatePeer peer = none ↔ peer.WithinLimits := by
  unfold validatePeer
  constructor
  · intro h
    split_ifs at h with hid hendpoints hallowed haddresses
    simp only [List.any_eq_true, decide_eq_true_eq, not_exists, not_and, Nat.not_lt]
      at haddresses
    exact ⟨hid, Nat.not_lt.mp hendpoints, Nat.not_lt.mp hallowed, haddresses⟩
  · intro h
    have haddresses : peer.addresses.any (fun address => 128 < address.length) = false := by
      simpa using h.addresses
    rw [if_neg h.stableId, if_neg (Nat.not_lt.mpr h.endpoints),
      if_neg (Nat.not_lt.mpr h.allowedIPs), haddresses, if_neg Bool.false_ne_true]

/-- Every peer is within the limits and stored under its own ID. -/
def PeerMap.Sound (m : PeerMap) : Prop :=
  ∀ id peer, m id = some peer → peer.stableId = id ∧ peer.WithinLimits

namespace PeerMap

variable {m : PeerMap}

lemma sound_ofList {peers : List Peer} (h : ∀ peer ∈ peers, peer.WithinLimits) :
    (ofList peers).Sound := by
  intro id peer hfound
  exact ⟨by simpa using List.find?_some hfound, h peer (List.mem_of_find?_eq_some hfound)⟩

lemma Sound.remove (h : m.Sound) (ids : List Bytes) : (m.remove ids).Sound := by
  intro id peer hfound
  unfold PeerMap.remove at hfound
  split_ifs at hfound
  exact h id peer hfound

lemma Sound.assign (h : m.Sound) {peer : Peer} (hpeer : peer.WithinLimits) :
    (m.assign peer).Sound := by
  intro id found hfound
  unfold PeerMap.assign at hfound
  by_cases hid : id = peer.stableId
  · rw [hid, Function.update_self] at hfound
    obtain rfl := Option.some.inj hfound
    exact ⟨hid.symm, hpeer⟩
  · rw [Function.update_of_ne hid] at hfound
    exact h id found hfound

lemma Sound.setOnline (h : m.Sound) (change : PeerOnlineChange) : (m.setOnline change).Sound := by
  intro id found hfound
  unfold PeerMap.setOnline at hfound
  by_cases hid : id = change.stableId
  · rw [hid, Function.update_self] at hfound
    obtain ⟨peer, hpeer, rfl⟩ := Option.map_eq_some_iff.mp hfound
    obtain ⟨hkey, hlimits⟩ := h _ peer hpeer
    exact ⟨hkey.trans hid.symm,
      ⟨hlimits.stableId, hlimits.endpoints, hlimits.allowedIPs, hlimits.addresses⟩⟩
  · rw [Function.update_of_ne hid] at hfound
    exact h id found hfound

lemma Sound.apply (h : m.Sound) {delta : PeerDelta}
    (hchanged : ∀ peer ∈ delta.changed, peer.WithinLimits) : (m.apply delta).Sound := by
  have hassigned : (delta.changed.foldl PeerMap.assign (m.remove delta.removedStableIds)).Sound :=
    delta.changed.foldlRecOn (motive := Sound) _ (h.remove _) fun m hm peer hmem =>
      hm.assign (hchanged peer hmem)
  exact delta.onlineChanges.foldlRecOn (motive := Sound) _ hassigned fun m hm change _ =>
    hm.setOnline change

end PeerMap

namespace PeerDirectory

variable {peers result : PeerDirectory} {delta : PeerDelta}

/-! ## What the directory holds afterwards -/

/-- The peer that is stored under an ID. -/
def toMap (peers : PeerDirectory) : PeerMap := fun id => peers.lookup id

lemma toMap_insert (peers : PeerDirectory) (peer : Peer) :
    toMap (peers.insert peer.stableId peer) = peers.toMap.assign peer := by
  funext id
  unfold toMap PeerMap.assign
  by_cases hid : id = peer.stableId
  · rw [hid, AList.lookup_insert, Function.update_self]
  · rw [AList.lookup_insert_ne hid, Function.update_of_ne hid]

lemma toMap_setOnline (peers : PeerDirectory) (change : PeerOnlineChange) :
    (peers.setOnline change).toMap = peers.toMap.setOnline change := by
  funext id
  unfold PeerMap.setOnline
  by_cases hid : id = change.stableId
  · subst hid
    rw [Function.update_self]
    unfold setOnline toMap
    cases hpeer : peers.lookup change.stableId with
    | none => exact hpeer
    | some peer => exact AList.lookup_insert _
  · rw [Function.update_of_ne hid]
    exact lookup_setOnline_ne hid

lemma toMap_erase (ids : List Bytes) (peers : PeerDirectory) :
    (ids.foldl (fun peers id => peers.erase id) peers).toMap = peers.toMap.remove ids := by
  induction ids generalizing peers with
  | nil => rfl
  | cons i ids ih =>
    rw [List.foldl_cons, ih]
    funext id
    unfold PeerMap.remove toMap
    by_cases hid : id = i
    · subst hid
      simp [AList.lookup_erase]
    · simp [AList.lookup_erase_ne hid, hid]

lemma lookup_emplacePeers {list : List Peer} (h : peers.emplacePeers list = .ok result)
    (id : Bytes) : result.toMap id = (peers.toMap id).or (PeerMap.ofList list id) := by
  -- over the list: what is in the directory already hides a peer that comes later
  induction list generalizing peers with
  | nil =>
    cases h
    exact Option.or_none.symm
  | cons peer list ih =>
    unfold emplacePeers at h
    split at h
    · cases h
    · split_ifs at h with hnew
      rw [ih h, toMap_insert, PeerMap.assign, PeerMap.ofList, PeerMap.ofList]
      by_cases hid : peer.stableId = id
      · subst hid
        have hfree : peers.toMap peer.stableId = none := AList.lookup_eq_none.mpr hnew
        rw [Function.update_self, hfree, List.find?_cons_of_pos (by simp)]
        rfl
      · rw [Function.update_of_ne (Ne.symm hid), List.find?_cons_of_neg (by simpa using hid)]

theorem toMap_replace {list : List Peer} (h : replace list = .ok result) :
    result.toMap = PeerMap.ofList list := by
  unfold replace at h
  split_ifs at h
  funext id
  exact lookup_emplacePeers h id

theorem toMap_apply (h : peers.apply delta = .ok result) :
    result.toMap = peers.toMap.apply delta := by
  unfold apply at h
  split at h
  · cases h
  · split_ifs at h
    cases h
    unfold PeerMap.apply
    -- each of the three loops commutes with the map
    rw [← toMap_erase, List.foldl_hom toMap fun peers peer => (toMap_insert peers peer).symm,
      List.foldl_hom toMap fun peers change => (toMap_setOnline peers change).symm]

/-! ## When an update is taken -/

lemma emplacePeers_limits {list : List Peer} (h : peers.emplacePeers list = .ok result) :
    ∀ peer ∈ list, peer.WithinLimits := by
  induction list generalizing peers with
  | nil => simp
  | cons peer list ih =>
    unfold emplacePeers at h
    split at h
    · cases h
    · rename_i hvalid
      split_ifs at h
      exact List.forall_mem_cons.mpr ⟨validatePeer_eq_none.mp hvalid, ih h⟩

lemma checkChanged_limits {changedIds : List Bytes} {changed : List Peer}
    (h : checkChanged changedIds changed = none) : ∀ peer ∈ changed, peer.WithinLimits := by
  induction changed generalizing changedIds with
  | nil => simp
  | cons peer changed ih =>
    unfold checkChanged at h
    split at h
    · cases h
    · rename_i hvalid
      split_ifs at h
      exact List.forall_mem_cons.mpr ⟨validatePeer_eq_none.mp hvalid, ih h⟩

/-! ## Runs -/

/-- What holds of every directory that can be reached. -/
structure Valid (peers : PeerDirectory) : Prop where
  size : peers.keys.length ≤ kMaxPeers
  sound : peers.toMap.Sound

inductive Update
  | replace (peers : List Peer)
  | apply (delta : PeerDelta)

/-- What an update is to leave. -/
def Update.reference (m : PeerMap) : Update → PeerMap
  | .replace peers => PeerMap.ofList peers
  | .apply delta => m.apply delta

def Update.outcome (peers : PeerDirectory) : Update → Except Bytes PeerDirectory
  | .replace list => PeerDirectory.replace list
  | .apply delta => peers.apply delta

/-- The call step by step.  Where it fails, what it has done to `peers_` by then stays. -/
def Update.call : Update → EStateM Bytes PeerDirectory Unit
  | .replace list =>
    match PeerDirectory.replace list with
    | .error error => throw error
    | .ok replacement => set replacement
  | .apply delta => do
    if let some error := checkChanged [] delta.changed then throw error
    else if kMaxPeers < ((← get).projectedIds delta).length then
      throw (ascii "peer limit exceeded")
    else
      delta.removedStableIds.forM fun id => modify fun peers => peers.erase id
      delta.changed.forM fun peer => modify fun peers => peers.insert peer.stableId peer
      delta.onlineChanges.forM fun change => modify fun peers => peers.setOnline change

/-- Whether the call returns true, and `peers_` afterwards. -/
def update (peers : PeerDirectory) (u : Update) : Bool × PeerDirectory :=
  match u.call.run peers with
  | .ok _ left => (true, left)
  | .error _ left => (false, left)

/-- The directory after some updates, refused or not. -/
def run (updates : List Update) : PeerDirectory :=
  updates.foldl (fun peers u => (peers.update u).2) ∅

lemma run_forM_modify {α : Type} (list : List α) (f : α → PeerDirectory → PeerDirectory)
    (peers : PeerDirectory) :
    (list.forM fun a => modify (f a) : EStateM Bytes PeerDirectory Unit).run peers =
      .ok () (list.foldl (fun peers a => f a peers) peers) := by
  induction list generalizing peers with
  | nil => rfl
  | cons a list ih => exact ih (f a peers)

lemma run_bind_ok {α β : Type} {m : EStateM Bytes PeerDirectory α} {a : α}
    (h : m.run peers = .ok a result) (k : α → EStateM Bytes PeerDirectory β) :
    (m >>= k).run peers = (k a).run result := by
  change EStateM.bind m k peers = k a result
  rw [EStateM.bind, show m peers = .ok a result from h]

/-- Nothing is written before the last check. -/
lemma update_eq (peers : PeerDirectory) (u : Update) :
    peers.update u = match u.outcome peers with
      | .error _ => (false, peers)
      | .ok result => (true, result) := by
  cases u with
  | replace list =>
    simp only [update, Update.call, Update.outcome]
    cases replace list <;> rfl
  | apply delta =>
    simp only [update, Update.call, Update.outcome, apply]
    cases checkChanged [] delta.changed with
    | some error => rfl
    | none =>
      dsimp only
      have hget : (get : EStateM Bytes PeerDirectory _).run peers = .ok peers peers := rfl
      rw [run_bind_ok hget]
      by_cases hlimit : kMaxPeers < (peers.projectedIds delta).length
      · rw [if_pos hlimit, if_pos hlimit]
        rfl
      · rw [if_neg hlimit, if_neg hlimit, run_bind_ok (run_forM_modify ..),
          run_bind_ok (run_forM_modify ..), run_forM_modify]

/-- Keys do not repeat. -/
lemma length_keys_le {ids : List Bytes} (h : ∀ id ∈ peers, id ∈ ids) :
    peers.keys.length ≤ ids.length :=
  (peers.keys_nodup.subperm fun id hid => h id (AList.mem_keys.mpr hid)).length_le

theorem replace_valid {list : List Peer} (h : replace list = .ok result) : result.Valid := by
  have hsize : result.keys.length ≤ (list.map Peer.stableId).length :=
    length_keys_le fun id hid => (mem_replace h).mp hid
  have hmap := toMap_replace h
  unfold replace at h
  split_ifs at h with hlist
  refine ⟨hsize.trans ?_, ?_⟩
  · rw [List.length_map]
    exact Nat.not_lt.mp hlist
  · rw [hmap]
    exact PeerMap.sound_ofList (emplacePeers_limits h)

theorem apply_valid (hv : peers.Valid) (h : peers.apply delta = .ok result) : result.Valid := by
  have hsize : result.keys.length ≤ (peers.projectedIds delta).length := by
    refine length_keys_le fun id hid => ?_
    simpa [projectedIds, AList.mem_keys] using (mem_apply h).mp hid
  have hmap := toMap_apply h
  unfold apply at h
  split at h
  · cases h
  · rename_i hchanged
    split_ifs at h with hlimit
    refine ⟨hsize.trans (Nat.not_lt.mp hlimit), ?_⟩
    rw [hmap]
    exact hv.sound.apply (checkChanged_limits hchanged)

/-- A refused update changes nothing, and one that is taken does what it is to do. -/
theorem update_reference (peers : PeerDirectory) (u : Update) :
    peers.update u = (false, peers) ∨
      (peers.update u).1 = true ∧ (peers.update u).2.toMap = u.reference peers.toMap := by
  rw [update_eq]
  cases h : u.outcome peers with
  | error error => exact .inl rfl
  | ok result =>
    refine .inr ⟨rfl, ?_⟩
    cases u with
    | replace list => exact toMap_replace h
    | apply delta => exact toMap_apply h

theorem update_valid (hv : peers.Valid) (u : Update) : (peers.update u).2.Valid := by
  rw [update_eq]
  cases h : u.outcome peers with
  | error error => exact hv
  | ok result =>
    cases u with
    | replace list => exact replace_valid h
    | apply delta => exact apply_valid hv h

theorem run_valid (updates : List Update) : (run updates).Valid :=
  updates.foldlRecOn (motive := Valid) _
    ⟨Nat.zero_le _, fun _ _ h => by cases h⟩ fun _ hv u _ => update_valid hv u

/-- After any updates the directory is within its limits, and the next update is atomic. -/
theorem updates_follow_reference (updates : List Update) :
    (run updates).Valid ∧ ∀ u : Update,
      (run updates).update u = (false, run updates) ∨
        ((run updates).update u).1 = true ∧
          ((run updates).update u).2.toMap = u.reference (run updates).toMap :=
  ⟨run_valid updates, update_reference (run updates)⟩

end PeerDirectory

end ArtemisSwitch.Netmap

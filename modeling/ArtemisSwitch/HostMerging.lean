import ArtemisSwitch.Library.FirstSeen
import ArtemisSwitch.SettingsHosts

/-!
# Merged hosts

A host that is added to one of the list brings its endpoints and its favourites with it.  What the
entry had comes first.
-/

namespace ArtemisSwitch.HostStore
open FirstSeen

/-- What an entry becomes when a host joins it. -/
structure Merged (e i after : Host) : Prop where
  addresses : after.connectionAddresses = e.connectionAddresses ++
    fresh id ([] :: e.connectionAddresses) (i.endpoints.map (·.address))
  preferred : e.preferredAddress ≠ [] → after.preferredAddress = e.preferredAddress
  favorites : after.favorites = e.favorites ++
    fresh (·.appId) (e.favorites.map (·.appId)) i.favorites
  address : after.address = after.connectionAddresses.headD []
  remoteAddress : after.remoteAddress = after.connectionAddresses.getD 1 []

/-- Every new endpoint is sorted behind these. -/
def Rising (endpoints : List HostEndpoint) : Prop :=
  ∀ e ∈ endpoints, e.priority ≤ Host.nextPriority endpoints

variable {e i t : Host} {x label : Bytes} {eps : List HostEndpoint} {endpoint : HostEndpoint}

/-! ## Priorities -/

lemma priority_le_max (p q : Int32) : p ≤ max p q ∧ q ≤ max p q := by
  have hmax : max p q = if p ≤ q then q else p := rfl
  rw [hmax]
  split_ifs with h
  · exact ⟨h, Int32.le_refl q⟩
  · exact ⟨Int32.le_refl p, (Int32.le_total p q).resolve_left h⟩

lemma le_foldl_max (eps : List HostEndpoint) (next : Int32) :
    next ≤ eps.foldl (fun next endpoint => max next (endpoint.priority + 1)) next := by
  induction eps generalizing next with
  | nil => exact Int32.le_refl next
  | cons endpoint eps ih =>
    exact Int32.le_trans (priority_le_max _ _).1 (ih _)

lemma le_foldl_max_of_mem (hmem : endpoint ∈ eps) (next : Int32) :
    endpoint.priority + 1 ≤
      eps.foldl (fun next endpoint => max next (endpoint.priority + 1)) next := by
  induction eps generalizing next with
  | nil => cases hmem
  | cons first eps ih =>
    rw [List.foldl_cons]
    rcases List.mem_cons.mp hmem with rfl | hrest
    · exact Int32.le_trans (priority_le_max _ _).2 (le_foldl_max eps _)
    · exact ih hrest _

lemma le_add_one {p : Int32} (h : p.toInt < 2 ^ 31 - 1) : p ≤ p + 1 := by
  rw [Int32.le_iff_toInt_le, Int32.toInt_add]
  have hlow := p.le_toInt
  have hone : (1 : Int32).toInt = 1 := rfl
  rw [hone, Int.bmod_eq_of_le (by omega) (by omega)]
  omega

/-- Priorities that can still be counted up. -/
lemma rising_of_lt (h : ∀ e ∈ eps, e.priority.toInt < 2 ^ 31 - 1) : Rising eps := fun e he =>
  Int32.le_trans (le_add_one (h e he)) (le_foldl_max_of_mem he 0)

/-- The endpoint that is appended has the last priority itself. -/
lemma Rising.append (h : Rising eps) (label address : Bytes) :
    Rising (eps ++ [⟨label, address, Host.nextPriority eps⟩]) := by
  have hnext : Host.nextPriority (eps ++ [⟨label, address, Host.nextPriority eps⟩]) =
      max (Host.nextPriority eps) (Host.nextPriority eps + 1) := by
    rw [Host.nextPriority, List.foldl_concat]
    rfl
  intro e he
  rw [hnext]
  rcases List.mem_append.mp he with hold | hnew
  · exact Int32.le_trans (h e hold) (priority_le_max _ _).1
  · rw [List.mem_singleton.mp hnew]
    exact (priority_le_max _ _).1

/-! ## Addresses -/

lemma connectionAddresses_of_ne_nil (h : t.endpoints ≠ []) : t.connectionAddresses =
    (t.endpoints.insertionSort fun a b => a.priority ≤ b.priority).foldl appendNew [] := by
  rw [Host.connectionAddresses, orderedConnectionAddresses, Host.endpointsOrLegacy_of_ne_nil h]

/-- An endpoint that is sorted behind all others adds its address at the end. -/
lemma connectionAddresses_concat (h : t.endpoints ≠ []) (hrising : Rising t.endpoints)
    (label address : Bytes) :
    Host.connectionAddresses { t with endpoints := t.endpoints ++
        [⟨label, address, Host.nextPriority t.endpoints⟩] } =
      appendNew t.connectionAddresses ⟨label, address, Host.nextPriority t.endpoints⟩ := by
  have hlast : ∀ e ∈ t.endpoints,
      e.priority ≤ (⟨label, address, Host.nextPriority t.endpoints⟩ : HostEndpoint).priority :=
    hrising
  rw [connectionAddresses_of_ne_nil (List.append_ne_nil_of_left_ne_nil h _),
    connectionAddresses_of_ne_nil h]
  dsimp only
  rw [insertionSort_concat hlast, List.foldl_concat]

/-- The step: the record keeps its addresses, and takes in one that is new. -/
structure Grows (t t' : Host) (addresses : List Bytes) : Prop where
  endpoints : t'.endpoints ≠ []
  rising : Rising t'.endpoints
  addresses : t'.connectionAddresses =
    t.connectionAddresses ++ fresh id ([] :: t.connectionAddresses) addresses
  favorites : t'.favorites = t.favorites

lemma mem_connectionAddresses_iff (h : t.endpoints ≠ []) {x : Bytes} (hempty : x ≠ []) :
    x ∈ t.connectionAddresses ↔
      (t.endpoints.any fun endpoint => endpoint.address = x) = true := by
  rw [Host.mem_connectionAddresses, Host.endpointsOrLegacy_of_ne_nil h, List.any_eq_true]
  simp only [decide_eq_true_eq, ne_eq, hempty, not_false_eq_true, true_and]

lemma addEndpoint_grows (h : t.endpoints ≠ []) (hrising : Rising t.endpoints)
    (label x : Bytes) : Grows t (t.addEndpoint label x) [x] := by
  unfold Host.addEndpoint
  simp only [Host.endpointsOrLegacy_of_ne_nil h]
  by_cases hempty : x = []
  · -- an empty address is skipped
    rw [if_pos hempty]
    have hseen : id x ∈ [] :: t.connectionAddresses := hempty ▸ List.mem_cons_self
    exact ⟨h, hrising, by rw [fresh_cons_of_mem hseen]; exact (List.append_nil _).symm, rfl⟩
  · rw [if_neg hempty]
    by_cases hknown : (t.endpoints.any fun endpoint => endpoint.address = x) = true
    · -- a known one leaves the endpoints, and only the addresses of old are written again
      rw [if_pos hknown]
      have hseen : id x ∈ [] :: t.connectionAddresses :=
        List.mem_cons_of_mem _ ((mem_connectionAddresses_iff h hempty).mpr hknown)
      refine ⟨h, hrising, ?_, rfl⟩
      rw [fresh_cons_of_mem hseen, Host.connectionAddresses_sync h]
      exact (List.append_nil _).symm
    · -- a new one is appended with the last priority, so that it is sorted behind the others
      rw [if_neg hknown]
      have hnew : x ∉ t.connectionAddresses :=
        fun hmem => hknown ((mem_connectionAddresses_iff h hempty).mp hmem)
      have hseen : id x ∉ [] :: t.connectionAddresses := by
        rw [List.mem_cons, not_or]
        exact ⟨hempty, hnew⟩
      have hne : t.endpoints ++ [(⟨if label = [] then ascii "Custom" else label, x,
          Host.nextPriority t.endpoints⟩ : HostEndpoint)] ≠ [] :=
        List.append_ne_nil_of_left_ne_nil h _
      refine ⟨hne, hrising.append _ x, ?_, rfl⟩
      rw [fresh_cons_of_not_mem hseen, Host.connectionAddresses_sync hne,
        connectionAddresses_concat h hrising, appendNew, if_neg (not_or.mpr ⟨hempty, hnew⟩)]
      rfl

/-- The run over all endpoints of the host. -/
lemma foldl_addEndpoint_grows (eps : List HostEndpoint) (h : t.endpoints ≠ [])
    (hrising : Rising t.endpoints) :
    Grows t (eps.foldl (fun t endpoint => t.addEndpoint endpoint.label endpoint.address) t)
      (eps.map (·.address)) := by
  induction eps generalizing t with
  | nil => exact ⟨h, hrising, (List.append_nil _).symm, rfl⟩
  | cons endpoint eps ih =>
    have hstep := addEndpoint_grows h hrising endpoint.label endpoint.address
    have hrest := ih hstep.endpoints hstep.rising
    refine ⟨hrest.endpoints, hrest.rising, ?_, hrest.favorites.trans hstep.favorites⟩
    rw [List.foldl_cons, hrest.addresses, hstep.addresses, List.map_cons,
      fresh_cons _ endpoint.address (eps.map (·.address)), List.map_id, List.append_assoc,
      List.cons_append]

/-! ## The merged entry -/

lemma foldl_mergeFavorite (apps favorites : List App) :
    apps.foldl mergeFavorite favorites =
      favorites ++ fresh (·.appId) (favorites.map (·.appId)) apps := by
  refine foldl_append_fresh (fun list app => ?_) apps favorites
  rw [mergeFavorite]
  refine if_congr ?_ rfl rfl
  rw [List.any_eq_true, List.mem_map]
  simp only [decide_eq_true_eq]

lemma merged_ensureEndpoints (he : e.endpoints ≠ []) (hrising : Rising e.endpoints)
    (hi : i.endpoints ≠ []) : Merged e i (mergeHost e i).ensureEndpoints := by
  have hgrows := foldl_addEndpoint_grows i.endpoints (t := overwriteFields e i) he hrising
  have hsame : (overwriteFields e i).connectionAddresses = e.connectionAddresses :=
    Host.connectionAddresses_congr he rfl
  have haddresses : (mergeHost e i).ensureEndpoints.connectionAddresses =
      e.connectionAddresses ++ fresh id ([] :: e.connectionAddresses)
        (i.endpoints.map (·.address)) := by
    rw [Host.connectionAddresses_ensureEndpoints, mergeHost, connectionAddresses_favorites,
      if_pos hi, hgrows.addresses, hsame]
  have hsynced := (Host.synced_iff.mp (Host.synced_ensureEndpoints (h := mergeHost e i))).2
  refine ⟨haddresses, fun hpreferred => ?_, ?_, hsynced.1, hsynced.2⟩
  · rw [Host.preferredAddress, haddresses]
    rw [Host.preferredAddress] at hpreferred ⊢
    cases hold : e.connectionAddresses with
    | nil =>
      rw [hold] at hpreferred
      exact absurd rfl hpreferred
    | cons first rest => rfl
  · have hfavorites : (mergeHost e i).ensureEndpoints.favorites = (mergeHost e i).favorites := rfl
    rw [hfavorites, mergeHost, foldl_mergeFavorite]
    dsimp only
    rw [if_pos hi, hgrows.favorites]
    rfl

lemma endpoints_ne_nil (h : i.preferredAddress ≠ []) : i.ensureEndpoints.endpoints ≠ [] := by
  intro hempty
  rw [Host.ensureEndpoints_eq] at hempty
  refine h ?_
  rw [Host.preferredAddress, Host.connectionAddresses_of_empty hempty]
  rfl

lemma preferredAddress_ensureEndpoints :
    i.ensureEndpoints.preferredAddress = i.preferredAddress := by
  rw [Host.preferredAddress, Host.preferredAddress, Host.connectionAddresses_ensureEndpoints]

/-- **An added host is appended, or joins the first entry that it matches without any loss.** -/
theorem addHost_merges (hosts : List Host) (h : Host)
    (hstored : ∀ r ∈ hosts, r.endpoints ≠ [] ∧ ∀ e ∈ r.endpoints,
      e.priority.toInt < 2 ^ 31 - 1 - h.ensureEndpoints.endpoints.length)
    (hpreferred : h.preferredAddress ≠ []) :
    ((∀ r ∈ hosts, hostsMatchForUpsert r h.ensureEndpoints = false) ∧
        addHost hosts h = hosts ++ [h.ensureEndpoints]) ∨
      ∃ before r behind after, hosts = before ++ r :: behind ∧
        (∀ b ∈ before, hostsMatchForUpsert b h.ensureEndpoints = false) ∧
        hostsMatchForUpsert r h.ensureEndpoints = true ∧
        addHost hosts h = before ++ after :: behind ∧ Merged r h.ensureEndpoints after := by
  cases hupsert : upsertHost hosts h.ensureEndpoints with
  | none =>
    refine .inl ⟨updateFirst_eq_none.mp hupsert, ?_⟩
    have hincoming : h.ensureEndpoints.preferredAddress ≠ [] := by
      rwa [preferredAddress_ensureEndpoints]
    simp only [addHost, hupsert, if_pos hincoming]
  | some hosts' =>
    obtain ⟨before, r, behind, rfl, hbefore, hr, rfl⟩ := updateFirst_eq_some hupsert
    obtain ⟨hne, hpriorities⟩ := hstored r (List.mem_append_right _ List.mem_cons_self)
    have hrising : Rising r.endpoints := rising_of_lt fun e he => by
      have hlt := hpriorities e he
      omega
    refine .inr ⟨before, r, behind, _, rfl, hbefore, hr, ?_,
      merged_ensureEndpoints hne hrising (endpoints_ne_nil hpreferred)⟩
    simp only [addHost, hupsert]

def deskMac : Bytes := ascii "00:11:22:33:44:55"

/-- An entry with two endpoints of one priority. -/
def storedHost : Host where
  mac := deskMac
  hostname := ascii "desk"
  favorites := [⟨ascii "Steam", 1⟩]
  endpoints := [⟨ascii "LAN", ascii "10.0.0.4", 0⟩, ⟨ascii "VPN", ascii "100.64.1.2", 0⟩]

/-- The host at another address. -/
def seenHost : Host where
  mac := deskMac
  favorites := [⟨ascii "Steam", 1⟩, ⟨ascii "Desktop", 2⟩]
  endpoints := [⟨ascii "LAN", ascii "10.0.0.5", 0⟩, ⟨ascii "Old", [], 1⟩]

theorem addHost_merges_seen : ∃ before r behind after, [storedHost] = before ++ r :: behind ∧
    addHost [storedHost] seenHost = before ++ after :: behind ∧
    Merged r seenHost.ensureEndpoints after := by
  have hstored : ∀ r ∈ [storedHost], r.endpoints ≠ [] ∧ ∀ e ∈ r.endpoints,
      e.priority.toInt < 2 ^ 31 - 1 - seenHost.ensureEndpoints.endpoints.length := by
    decide +kernel
  have hmatch : hostsMatchForUpsert storedHost seenHost.ensureEndpoints = true := by
    decide +kernel
  rcases addHost_merges [storedHost] seenHost hstored (by decide +kernel) with
    ⟨hnone, -⟩ | ⟨before, r, behind, after, hsplit, -, -, hadd, hmerged⟩
  · rw [hnone storedHost List.mem_cons_self] at hmatch
    cases hmatch
  · exact ⟨before, r, behind, after, hsplit, hadd, hmerged⟩

/-- An entry whose only endpoint has no address. -/
def blankHost : Host where
  mac := deskMac
  endpoints := [⟨ascii "LAN", [], 0⟩]

/-- An entry without an address gets one, and an endpoint without an address is left out. -/
theorem addHost_gives_address :
    (∀ r ∈ [blankHost], r.endpoints ≠ [] ∧ ∀ e ∈ r.endpoints,
      e.priority.toInt < 2 ^ 31 - 1 - seenHost.ensureEndpoints.endpoints.length) ∧
    seenHost.preferredAddress ≠ [] ∧ hostsMatchForUpsert blankHost seenHost = true ∧
    (addHost [blankHost] seenHost).map (·.connectionAddresses) = [[ascii "10.0.0.5"]] ∧
    (addHost [blankHost] seenHost).map (·.preferredAddress) ≠ [blankHost.preferredAddress] ∧
    (addHost [blankHost] seenHost).map (·.connectionAddresses) ≠
      [blankHost.connectionAddresses ++ (seenHost.endpoints.map (·.address)).filter
        (· ∉ blankHost.connectionAddresses)] := by
  decide +kernel

end ArtemisSwitch.HostStore

import Mathlib.Data.List.Sort
import ArtemisSwitch.HostAddress

/-!
# Host records

A stored host with its endpoints.  The two legacy address fields repeat the first two
connection addresses, and hosts without endpoints have them only.
-/

namespace ArtemisSwitch.HostStore
open HostAddress

/-- `std::tolower` in the C locale. -/
def tolower (c : UInt8) : UInt8 := if 65 ≤ c ∧ c ≤ 90 then c + 32 else c

/-- `std::isxdigit` in the C locale. -/
def isxdigit (c : UInt8) : Bool := isdigit c || (65 ≤ c && c ≤ 70) || (97 ≤ c && c ≤ 102)

/-- The characters between the digits of a MAC address. -/
def isMacSeparator (c : UInt8) : Bool := c = 58 || c = 45 || c = 32

def isUsableMac : Bytes → Bool
  | [] => false
  | ch :: mac =>
    if isMacSeparator ch then isUsableMac mac
    else if isxdigit ch = false then false
    else if ch ≠ 48 then true
    else isUsableMac mac

def normalizeMacKey (mac : Bytes) : Bytes := (mac.filter fun c => !isMacSeparator c).map tolower

def normalizeHostDisplayName (name : Bytes) : Bytes :=
  ((name.dropWhile isspace).rdropWhile isspace).map tolower

def hostsShareDisplayName (lhs rhs : Bytes) : Bool :=
  normalizeHostDisplayName lhs ≠ [] && normalizeHostDisplayName lhs = normalizeHostDisplayName rhs

structure HostEndpoint where
  label : Bytes
  address : Bytes
  priority : Int32 := 0
  deriving DecidableEq

structure App where
  name : Bytes
  appId : Int32
  deriving DecidableEq

structure Host where
  address : Bytes := []
  remoteAddress : Bytes := []
  hostname : Bytes := []
  mac : Bytes := []
  favorites : List App := []
  endpoints : List HostEndpoint := []
  deriving DecidableEq

def endpointsOrLegacy (endpoints : List HostEndpoint) (address remoteAddress : Bytes) :
    List HostEndpoint :=
  if endpoints ≠ [] then endpoints
  else
    (if address ≠ [] then [⟨ascii "Local", address, 0⟩] else []) ++
      if remoteAddress ≠ [] ∧ remoteAddress ≠ address then [⟨ascii "Remote", remoteAddress, 1⟩]
      else []

/-- The loop that keeps the first endpoint of each address. -/
def appendNew (addresses : List Bytes) (endpoint : HostEndpoint) : List Bytes :=
  if endpoint.address = [] ∨ endpoint.address ∈ addresses then addresses
  else addresses ++ [endpoint.address]

def orderedConnectionAddresses (endpoints : List HostEndpoint) (address remoteAddress : Bytes) :
    List Bytes :=
  let eps := (endpointsOrLegacy endpoints address remoteAddress).insertionSort
    fun a b => a.priority ≤ b.priority
  eps.foldl appendNew []

namespace Host

def connectionAddresses (h : Host) : List Bytes :=
  orderedConnectionAddresses h.endpoints h.address h.remoteAddress

def preferredAddress (h : Host) : Bytes := h.connectionAddresses.headD []

def hasAddress (h : Host) (value : Bytes) : Bool :=
  value ≠ [] && h.connectionAddresses.contains value

def syncLegacyFieldsFromEndpoints (h : Host) : Host :=
  { h with
    address := h.connectionAddresses.headD []
    remoteAddress := h.connectionAddresses.getD 1 [] }

def ensureEndpoints (h : Host) : Host :=
  syncLegacyFieldsFromEndpoints
    { h with endpoints := endpointsOrLegacy h.endpoints h.address h.remoteAddress }

/-- One past the largest priority. -/
def nextPriority (endpoints : List HostEndpoint) : Int32 :=
  endpoints.foldl (fun next endpoint => max next (endpoint.priority + 1)) 0

def addEndpoint (h : Host) (label endpointAddress : Bytes) : Host :=
  if endpointAddress = [] then h
  else
    let endpoints := endpointsOrLegacy h.endpoints h.address h.remoteAddress
    if endpoints.any fun endpoint => endpoint.address = endpointAddress then
      syncLegacyFieldsFromEndpoints { h with endpoints := endpoints }
    else
      syncLegacyFieldsFromEndpoints
        { h with endpoints := endpoints ++
            [⟨if label = [] then ascii "Custom" else label, endpointAddress,
              nextPriority endpoints⟩] }

end Host

def sharesAddress (lhs rhs : Host) : Bool := lhs.connectionAddresses.any rhs.hasAddress

def hostsMatch (lhs rhs : Host) : Bool :=
  if isUsableMac lhs.mac && isUsableMac rhs.mac &&
      normalizeMacKey lhs.mac = normalizeMacKey rhs.mac then true
  else if lhs.hostname ≠ [] && lhs.hostname = rhs.hostname && sharesAddress lhs rhs then true
  else if !isUsableMac lhs.mac || !isUsableMac rhs.mac then sharesAddress lhs rhs
  else false

def hostsMatchForUpsert (lhs rhs : Host) : Bool :=
  hostsMatch lhs rhs || hostsShareDisplayName lhs.hostname rhs.hostname

/-! ## Connection addresses -/

variable {a x label : Bytes} {eps : List HostEndpoint} {h lhs rhs : Host}

lemma mem_foldl_appendNew (acc : List Bytes) :
    a ∈ eps.foldl appendNew acc ↔ a ∈ acc ∨ a ≠ [] ∧ ∃ e ∈ eps, e.address = a := by
  induction eps generalizing acc with
  | nil => simp
  | cons e eps ih =>
    rw [List.foldl_cons, ih]
    unfold appendNew
    split_ifs with hskip
    · constructor
      · rintro (hacc | ⟨hne, f, hf, rfl⟩)
        · exact .inl hacc
        · exact .inr ⟨hne, f, List.mem_cons_of_mem _ hf, rfl⟩
      · rintro (hacc | ⟨hne, f, hf, rfl⟩)
        · exact .inl hacc
        · cases List.mem_cons.mp hf with
          | inl heq => exact .inl (hskip.resolve_left (heq ▸ hne) |> fun hmem => heq ▸ hmem)
          | inr hf => exact .inr ⟨hne, f, hf, rfl⟩
    · obtain ⟨hne, -⟩ := not_or.mp hskip
      simp only [List.mem_append, List.mem_singleton, List.exists_mem_cons_iff]
      constructor
      · rintro ((hacc | rfl) | ⟨hne', hrest⟩)
        · exact .inl hacc
        · exact .inr ⟨hne, .inl rfl⟩
        · exact .inr ⟨hne', .inr hrest⟩
      · rintro (hacc | ⟨hne', rfl | hrest⟩)
        · exact .inl (.inl hacc)
        · exact .inl (.inr rfl)
        · exact .inr ⟨hne', hrest⟩

lemma mem_orderedConnectionAddresses {address remoteAddress : Bytes} :
    a ∈ orderedConnectionAddresses eps address remoteAddress ↔
      a ≠ [] ∧ ∃ e ∈ endpointsOrLegacy eps address remoteAddress, e.address = a := by
  simp [orderedConnectionAddresses, mem_foldl_appendNew]

namespace Host

lemma mem_connectionAddresses : a ∈ h.connectionAddresses ↔
    a ≠ [] ∧ ∃ e ∈ endpointsOrLegacy h.endpoints h.address h.remoteAddress, e.address = a :=
  mem_orderedConnectionAddresses

lemma hasAddress_iff : h.hasAddress a = true ↔ a ∈ h.connectionAddresses := by
  simp only [hasAddress, Bool.and_eq_true, decide_eq_true_eq, List.contains_iff_mem,
    and_iff_right_iff_imp]
  intro hmem
  exact (mem_connectionAddresses.mp hmem).1

/-- With endpoints the legacy fields do not matter. -/
lemma connectionAddresses_congr {g : Host} (hne : h.endpoints ≠ [])
    (heq : g.endpoints = h.endpoints) : g.connectionAddresses = h.connectionAddresses := by
  simp [connectionAddresses, orderedConnectionAddresses, endpointsOrLegacy, heq, hne]

@[simp] lemma sync_endpoints : h.syncLegacyFieldsFromEndpoints.endpoints = h.endpoints := rfl

@[simp] lemma sync_mac : h.syncLegacyFieldsFromEndpoints.mac = h.mac := rfl

@[simp] lemma sync_hostname : h.syncLegacyFieldsFromEndpoints.hostname = h.hostname := rfl

@[simp] lemma ensureEndpoints_mac : h.ensureEndpoints.mac = h.mac := rfl

@[simp] lemma ensureEndpoints_hostname : h.ensureEndpoints.hostname = h.hostname := rfl

lemma endpointsOrLegacy_eq_nil {address remoteAddress : Bytes} :
    endpointsOrLegacy eps address remoteAddress = [] ↔
      eps = [] ∧ address = [] ∧ remoteAddress = [] := by
  unfold endpointsOrLegacy
  by_cases heps : eps = []
  · by_cases ha : address = [] <;> by_cases hr : remoteAddress = [] <;> simp [heps, ha, hr]
  · simp [heps]

lemma endpointsOrLegacy_of_ne_nil {address remoteAddress : Bytes} (hne : eps ≠ []) :
    endpointsOrLegacy eps address remoteAddress = eps := by
  simp [endpointsOrLegacy, hne]

/-- A host without endpoints has what its legacy fields hold. -/
lemma legacy_address {address remoteAddress : Bytes} {e : HostEndpoint}
    (he : e ∈ endpointsOrLegacy [] address remoteAddress) :
    e.address = address ∨ e.address = remoteAddress := by
  simp only [endpointsOrLegacy, ne_eq, not_true_eq_false, if_false, List.mem_append] at he
  cases he with
  | inl hlocal =>
    split_ifs at hlocal
    · simp at hlocal
    · exact .inl (by simp_all)
  | inr hremote =>
    split_ifs at hremote
    · exact .inr (by simp_all)
    · simp at hremote

lemma connectionAddresses_sync (hne : h.endpoints ≠ []) :
    h.syncLegacyFieldsFromEndpoints.connectionAddresses = h.connectionAddresses :=
  connectionAddresses_congr hne rfl

/-- A host that has no address at all. -/
lemma connectionAddresses_of_empty
    (hempty : endpointsOrLegacy h.endpoints h.address h.remoteAddress = []) :
    h.connectionAddresses = [] := by
  simp [connectionAddresses, orderedConnectionAddresses, hempty]

/-- To make the endpoints explicit changes no address. -/
lemma connectionAddresses_explicit :
    connectionAddresses
      { h with endpoints := endpointsOrLegacy h.endpoints h.address h.remoteAddress } =
        h.connectionAddresses := by
  by_cases hempty : endpointsOrLegacy h.endpoints h.address h.remoteAddress = []
  · have heps : h.endpoints = [] := (endpointsOrLegacy_eq_nil.mp hempty).1
    simp only [hempty, ← heps]
  · simp only [connectionAddresses, orderedConnectionAddresses,
      endpointsOrLegacy_of_ne_nil hempty]

lemma ensureEndpoints_eq : h.ensureEndpoints =
    { h with
      endpoints := endpointsOrLegacy h.endpoints h.address h.remoteAddress
      address := h.connectionAddresses.headD []
      remoteAddress := h.connectionAddresses.getD 1 [] } := by
  simp only [ensureEndpoints, syncLegacyFieldsFromEndpoints, connectionAddresses_explicit]

lemma connectionAddresses_ensureEndpoints :
    h.ensureEndpoints.connectionAddresses = h.connectionAddresses := by
  by_cases hempty : endpointsOrLegacy h.endpoints h.address h.remoteAddress = []
  · rw [connectionAddresses_of_empty hempty, connectionAddresses_of_empty]
    rw [ensureEndpoints_eq, hempty, connectionAddresses_of_empty hempty]
    rfl
  · refine Eq.trans ?_ connectionAddresses_explicit
    exact connectionAddresses_congr hempty rfl

/-- The endpoints are explicit and the legacy fields repeat them. -/
def Synced (h : Host) : Prop := h.ensureEndpoints = h

instance (h : Host) : Decidable h.Synced := inferInstanceAs (Decidable (_ = _))

lemma synced_iff : h.Synced ↔
    endpointsOrLegacy h.endpoints h.address h.remoteAddress = h.endpoints ∧
      h.address = h.connectionAddresses.headD [] ∧
        h.remoteAddress = h.connectionAddresses.getD 1 [] := by
  unfold Synced
  rw [ensureEndpoints_eq]
  cases h
  simp only [Host.mk.injEq, true_and]
  constructor
  · rintro ⟨haddress, hremote, heps⟩
    exact ⟨heps, haddress.symm, hremote.symm⟩
  · rintro ⟨heps, haddress, hremote⟩
    exact ⟨haddress.symm, hremote.symm, heps⟩

lemma synced_ensureEndpoints : h.ensureEndpoints.Synced := by
  rw [synced_iff, connectionAddresses_ensureEndpoints]
  refine ⟨?_, by rw [ensureEndpoints_eq], by rw [ensureEndpoints_eq]⟩
  by_cases hempty : endpointsOrLegacy h.endpoints h.address h.remoteAddress = []
  · rw [ensureEndpoints_eq, hempty, connectionAddresses_of_empty hempty]
    rfl
  · exact endpointsOrLegacy_of_ne_nil hempty

/-- Without endpoints there is nothing in the legacy fields either. -/
lemma Synced.legacy_nil (hs : h.Synced) (heps : h.endpoints = []) :
    h.address = [] ∧ h.remoteAddress = [] := by
  have hkeep := (synced_iff.mp hs).1
  rw [heps] at hkeep
  exact (endpointsOrLegacy_eq_nil.mp hkeep).2

lemma Synced.mem_connectionAddresses (hs : h.Synced) :
    a ∈ h.connectionAddresses ↔ a ≠ [] ∧ ∃ e ∈ h.endpoints, e.address = a := by
  rw [Host.mem_connectionAddresses, (synced_iff.mp hs).1]

/-- What a legacy field holds is a connection address. -/
lemma Synced.legacy_mem (hs : h.Synced) (hne : a ≠ [])
    (hfield : h.address = a ∨ h.remoteAddress = a) : a ∈ h.connectionAddresses := by
  obtain ⟨-, haddress, hremote⟩ := synced_iff.mp hs
  cases hfield with
  | inl hfirst =>
    rw [haddress] at hfirst
    cases hconn : h.connectionAddresses with
    | nil => exact absurd (by simpa [hconn] using hfirst.symm) hne
    | cons b rest =>
      rw [hconn] at hfirst
      exact hfirst ▸ List.mem_cons_self
  | inr hsecond =>
    rw [hremote, List.getD_eq_getElem?_getD] at hsecond
    cases hget : h.connectionAddresses[1]? with
    | none => exact absurd (by simpa [hget] using hsecond.symm) hne
    | some b =>
      simp only [hget, Option.getD_some] at hsecond
      exact hsecond ▸ List.mem_of_getElem? hget

/-! ## One more endpoint -/

@[simp] lemma addEndpoint_mac : (h.addEndpoint label x).mac = h.mac := by
  unfold addEndpoint
  dsimp only
  split_ifs <;> rfl

@[simp] lemma addEndpoint_hostname : (h.addEndpoint label x).hostname = h.hostname := by
  unfold addEndpoint
  dsimp only
  split_ifs <;> rfl

lemma mem_connectionAddresses_addEndpoint :
    a ∈ (h.addEndpoint label x).connectionAddresses ↔
      a ∈ h.connectionAddresses ∨ a = x ∧ x ≠ [] := by
  unfold addEndpoint
  dsimp only
  by_cases hx : x = []
  · simp [hx]
  rw [if_neg hx]
  by_cases hany : (endpointsOrLegacy h.endpoints h.address h.remoteAddress).any
      fun endpoint => endpoint.address = x
  · rw [if_pos hany]
    obtain ⟨e, he, heq⟩ := List.any_eq_true.mp hany
    have hne : endpointsOrLegacy h.endpoints h.address h.remoteAddress ≠ [] :=
      List.ne_nil_of_mem he
    rw [connectionAddresses_sync hne, connectionAddresses_explicit]
    refine ⟨.inl, fun hmem => hmem.elim id ?_⟩
    rintro ⟨rfl, -⟩
    exact Host.mem_connectionAddresses.mpr ⟨hx, e, he, by simpa using heq⟩
  · rw [if_neg hany, connectionAddresses_sync (by simp), Host.mem_connectionAddresses,
      Host.mem_connectionAddresses, endpointsOrLegacy_of_ne_nil (by simp)]
    simp only [List.mem_append, List.mem_singleton]
    constructor
    · rintro ⟨hne, e, hold | rfl, heq⟩
      · exact .inl ⟨hne, e, hold, heq⟩
      · exact .inr ⟨heq.symm, hx⟩
    · rintro (⟨hne, e, he, heq⟩ | ⟨rfl, hne⟩)
      · exact ⟨hne, e, .inl he, heq⟩
      · exact ⟨hne, _, .inr rfl, rfl⟩

end Host

/-! ## Matching -/

lemma sharesAddress_iff :
    sharesAddress lhs rhs = true ↔
      ∃ a, a ∈ lhs.connectionAddresses ∧ a ∈ rhs.connectionAddresses := by
  simp [sharesAddress, List.any_eq_true, Host.hasAddress_iff]

lemma hostsMatchForUpsert_iff : hostsMatchForUpsert lhs rhs = true ↔
    (isUsableMac lhs.mac = true ∧ isUsableMac rhs.mac = true ∧
        normalizeMacKey lhs.mac = normalizeMacKey rhs.mac) ∨
      (lhs.hostname ≠ [] ∧ lhs.hostname = rhs.hostname ∧ sharesAddress lhs rhs = true) ∨
      ((isUsableMac lhs.mac = false ∨ isUsableMac rhs.mac = false) ∧
        sharesAddress lhs rhs = true) ∨
      hostsShareDisplayName lhs.hostname rhs.hostname = true := by
  unfold hostsMatchForUpsert hostsMatch
  by_cases hl : isUsableMac lhs.mac = true <;> by_cases hr : isUsableMac rhs.mac = true <;>
    by_cases hshare : sharesAddress lhs rhs = true <;> (simp [hl, hr, hshare]; try tauto)

/-- Only the MAC, the name and the set of addresses count. -/
lemma hostsMatchForUpsert_congr {g : Host} (hmac : g.mac = h.mac)
    (hname : g.hostname = h.hostname)
    (haddresses : ∀ a, a ∈ g.connectionAddresses ↔ a ∈ h.connectionAddresses) :
    hostsMatchForUpsert g rhs = hostsMatchForUpsert h rhs := by
  have hshare : sharesAddress g rhs = true ↔ sharesAddress h rhs = true := by
    simp only [sharesAddress_iff, haddresses]
  rw [Bool.eq_iff_iff, hostsMatchForUpsert_iff, hostsMatchForUpsert_iff, hmac, hname, hshare]

lemma sharesAddress_comm : sharesAddress lhs rhs = sharesAddress rhs lhs := by
  rw [Bool.eq_iff_iff, sharesAddress_iff, sharesAddress_iff]
  simp only [and_comm]

lemma hostsShareDisplayName_comm (l r : Bytes) :
    hostsShareDisplayName l r = hostsShareDisplayName r l := by
  unfold hostsShareDisplayName
  by_cases heq : normalizeHostDisplayName l = normalizeHostDisplayName r
  · simp [heq]
  · simp [heq, Ne.symm heq]

lemma hostsMatchForUpsert_comm : hostsMatchForUpsert lhs rhs = hostsMatchForUpsert rhs lhs := by
  rw [Bool.eq_iff_iff, hostsMatchForUpsert_iff, hostsMatchForUpsert_iff,
    sharesAddress_comm, hostsShareDisplayName_comm]
  constructor
  all_goals
    rintro (⟨hl, hr, hkey⟩ | ⟨hne, heq, hshare⟩ | ⟨hmac, hshare⟩ | hname)
    · exact .inl ⟨hr, hl, hkey.symm⟩
    · exact .inr (.inl ⟨heq ▸ hne, heq.symm, hshare⟩)
    · exact .inr (.inr (.inl ⟨hmac.symm, hshare⟩))
    · exact .inr (.inr (.inr hname))

end ArtemisSwitch.HostStore

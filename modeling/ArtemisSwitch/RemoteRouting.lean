import ArtemisSwitch.HostAddress
import ArtemisSwitch.RemoteRouteLease

/-!
# Connecting through a tunnel route

`acquireRouteFor`, `connectAddressFor` and the loop of `connect_to_addresses_sync`
over the addresses of a host.  What the manager, the provider and the network
answer while one address is tried is given with the address.
-/

namespace ArtemisSwitch.RemoteRouting
open HostAddress RemoteAccess

/-- `127.0.0.1`. -/
def kProxyAddress : Bytes := ascii "127.0.0.1"

/-- The answers while one address is tried; `SERVER_DATA` is left abstract. -/
structure Answers (σ : Type) where
  activeProviderId : Bytes
  registered : Bool
  resolveRoute : Bytes → Option RemoteRouteTarget
  activated : Bool
  lastError : Bytes
  certificates : Bool
  gsError : Bytes
  status : Except Bytes σ
  punktfunk : Bool

variable {σ : Type}

/-! ## RemoteRouting -/

/-- The target that `acquireRouteFor` takes a lease for. -/
def resolveTarget (answers : Answers σ) (address : Bytes) : Option RemoteRouteTarget :=
  if address = [] ∨ answers.activeProviderId = [] ∨ answers.registered = false then none
  else
    let host := (parseHostAddress address).host
    if host = [] then none
    else (answers.resolveRoute host).map fun target =>
      { target with
        targetAddress := if target.targetAddress = [] then host else target.targetAddress
        connectAddress :=
          if target.connectAddress = [] then kProxyAddress else target.connectAddress }

/-- A lease that did not become active is dropped for an empty one. -/
def acquireRouteFor (answers : Answers σ) (address : Bytes) : RemoteRouteLease :=
  match resolveTarget answers address with
  | none => {}
  | some target =>
    let lease := RemoteRouteLease.construct answers.activeProviderId target answers.activated
    if lease.active then lease else {}

def connectAddressFor (lease : RemoteRouteLease) (address : Bytes) : Bytes :=
  if lease.active = false then address
  else match (parseHostAddress address).port with
    | some port => kProxyAddress ++ colon :: decimal port
    | none => kProxyAddress

/-- The provider's own reason, or a generic one. -/
def refusalReason (answers : Answers σ) (peerId : Bytes) : Bytes :=
  if answers.registered ∧ answers.lastError ≠ [] then answers.lastError
  else ascii "tunnel route refused for peer " ++ peerId

def routeRefusalReason (answers : Answers σ) (lease : RemoteRouteLease) : Bytes :=
  if lease.refused = false ∨ lease.providerId = [] then []
  else refusalReason answers lease.peerId

/-! ## The two functions that open connections -/

structure Dial where
  host : Bytes
  port : ℕ
  deriving DecidableEq, Repr

def gsInit (answers : Answers σ) (address : Bytes) : List Dial × Except Bytes σ :=
  let parsed := parseHostAddress address
  if parsed.host = [] then ([], .error (ascii "Address is Empty"))
  else if answers.certificates = false then ([], .error answers.gsError)
  else ([⟨parsed.host, parsed.port.getD 47989⟩], answers.status)

def probePunktfunkIdentity (answers : Answers σ) (address : Bytes) : List Dial × Bool :=
  let host := urlHost address
  if host = [] then ([], false) else ([⟨host, 47992⟩], answers.punktfunk)

def punktfunkGameStreamRequiredError : Bytes :=
  ascii "Punktfunk detected, but its Moonlight/GameStream compatibility " ++
    ascii "plane is disabled. Enable GameStream on the host, then reconnect."

/-! ## connect_to_addresses_sync -/

inductive Event
  | acquire (key : RouteKey)
  | dial (dial : Dial)
  | release (key : RouteKey)
  deriving DecidableEq, Repr

/-- The routes held after some events. -/
def outstanding : List RouteKey → List Event → List RouteKey
  | held, [] => held
  | held, .acquire key :: events => outstanding (key :: held) events
  | held, .dial _ :: events => outstanding held events
  | held, .release key :: events => outstanding (held.erase key) events

/-- The route that a lease holds. -/
def held (lease : RemoteRouteLease) : List RouteKey := if lease.releases then [lease.key] else []

/-- One address that was tried: what happened, and the error text afterwards. -/
structure Visit (σ : Type) where
  address : Bytes
  answers : Answers σ
  events : List Event
  error : Bytes

/-- The reference parameters. -/
structure Out (σ : Type) where
  connectedAddress : Bytes
  connectedServer : Option σ
  error : Bytes
  lease : RemoteRouteLease

/-- The loop over the addresses that are left. -/
def tryAddresses : List (Bytes × Answers σ) → Out σ → Bool × Out σ × List (Visit σ)
  | [], out => (false, out, [])
  | (address, answers) :: rest, out =>
    if address = [] then tryAddresses rest out
    else
      let lease := acquireRouteFor answers address
      let acquired := (held lease).map Event.acquire
      let released := (held lease).map Event.release
      if lease.refused then
        let reason := routeRefusalReason answers lease
        let error := if reason = [] then ascii "Tunnel route refused" else reason
        let (ok, final, visits) := tryAddresses rest { out with error := error }
        (ok, final, ⟨address, answers, acquired ++ released, error⟩ :: visits)
      else
        match gsInit answers (connectAddressFor lease address) with
        | (dials, .ok server) =>
          (true, ⟨address, some server, out.error, lease⟩,
            [⟨address, answers, acquired ++ dials.map .dial ++ (held out.lease).map .release,
              out.error⟩])
        | (dials, .error connectError) =>
          let (probes, punktfunk) := probePunktfunkIdentity answers address
          let error := if punktfunk then punktfunkGameStreamRequiredError else connectError
          let (ok, final, visits) := tryAddresses rest { out with error := error }
          (ok, final,
            ⟨address, answers, acquired ++ (dials ++ probes).map .dial ++ released, error⟩ :: visits)

def connectToAddressesSync (attempts : List (Bytes × Answers σ)) (out : Out σ) :
    Bool × Out σ × List (Visit σ) :=
  if attempts.all fun attempt => decide (attempt.1 = []) then
    (false, { out with error := ascii "Address is Empty" }, [])
  else
    tryAddresses attempts
      { out with error := ascii "Address is Empty", connectedAddress := [], connectedServer := none }

/-! ## What is asked of the loop -/

/-- The dial of the address succeeds, whatever it is dialed through. -/
def Succeeds (attempt : Bytes × Answers σ) : Prop :=
  (parseHostAddress attempt.1).host ≠ [] ∧ attempt.2.certificates = true ∧
    ∃ server, attempt.2.status = .ok server

/-- Every connection goes to the proxy while the route is held. -/
def DialsThrough (key : RouteKey) : List RouteKey → List Event → Prop
  | _, [] => True
  | held, .acquire k :: events => DialsThrough key (k :: held) events
  | held, .dial d :: events =>
    (d.host = kProxyAddress ∧ key ∈ held) ∧ DialsThrough key held events
  | held, .release k :: events => DialsThrough key (held.erase k) events

/-- An address behind the tunnel is dialed through it only; a refused route is skipped with the
provider's reason. -/
def Visit.Confined (v : Visit σ) : Prop :=
  ∀ target, resolveTarget v.answers v.address = some target →
    DialsThrough (routeKey v.answers.activeProviderId target) [] v.events ∧
      (v.answers.activated = false → v.error = refusalReason v.answers target.peerId)

/-- The first address that answers is the one connected to, with its lease, and no other lease
is left. -/
def Settled (attempts : List (Bytes × Answers σ)) (out : Out σ)
    (result : Bool × Out σ × List (Visit σ)) : Prop :=
  (result.1 = true → ∃ before address answers after,
    attempts = before ++ (address, answers) :: after ∧ (∀ a ∈ before, ¬ Succeeds a) ∧
      Succeeds (address, answers) ∧ result.2.1.connectedAddress = address ∧
      result.2.1.lease = acquireRouteFor answers address) ∧
  (result.1 = false → (∀ a ∈ attempts, ¬ Succeeds a) ∧ result.2.1.lease = out.lease) ∧
  outstanding (held out.lease) (result.2.2.flatMap Visit.events) = held result.2.1.lease

/-- A route is granted, and unless its host answers the host is the loopback itself. -/
def RouteHolds (attempt : Bytes × Answers σ) : Prop :=
  ∀ target, resolveTarget attempt.2 attempt.1 = some target →
    attempt.2.activated = true ∧ (Succeeds attempt ∨ urlHost attempt.1 = kProxyAddress)

/-- The routes of all addresses up to the first one that answers hold. -/
def RoutesHold (attempts : List (Bytes × Answers σ)) : Prop :=
  ∀ before attempt after, attempts = before ++ attempt :: after →
    (∀ a ∈ before, ¬ Succeeds a) → RouteHolds attempt

variable {attempt : Bytes × Answers σ} {rest : List (Bytes × Answers σ)} {address : Bytes}
variable {answers : Answers σ} {out : Out σ} {target : RemoteRouteTarget}

lemma routesHold_nil : RoutesHold ([] : List (Bytes × Answers σ)) := by
  intro before attempt after h
  simp at h

lemma routesHold_cons : RoutesHold (attempt :: rest) ↔
    RouteHolds attempt ∧ (¬ Succeeds attempt → RoutesHold rest) := by
  constructor
  · intro h
    refine ⟨h [] attempt rest rfl (by simp), fun hs before a after heq hb => ?_⟩
    refine h (attempt :: before) a after (by simp [heq]) ?_
    simpa [hs] using hb
  · rintro ⟨h0, h⟩ before a after heq hb
    rcases before with _ | ⟨b, before⟩
    · obtain ⟨rfl, -⟩ : attempt = a ∧ rest = after := by simpa using heq
      exact h0
    · obtain ⟨rfl, hrest⟩ : attempt = b ∧ rest = before ++ a :: after := by simpa using heq
      exact h (hb attempt (by simp)) before a after hrest fun c hc => hb c (by simp [hc])

/-! ## Leases and dial addresses -/

lemma resolveTarget_host (h : resolveTarget answers address = some target) :
    (parseHostAddress address).host ≠ [] ∧ answers.activeProviderId ≠ [] := by
  simp only [resolveTarget] at h
  split_ifs at h with h1 h2
  push Not at h1
  exact ⟨h2, h1.2.1⟩

lemma acquireRouteFor_granted (h : resolveTarget answers address = some target)
    (ha : answers.activated = true) :
    acquireRouteFor answers address =
      .construct answers.activeProviderId target true := by
  simp [acquireRouteFor, h, ha, RemoteRouteLease.construct]

/-- Without a target, and without a grant alike, the lease is the empty one. -/
lemma acquireRouteFor_empty
    (h : resolveTarget answers address = none ∨ answers.activated = false) :
    acquireRouteFor answers address = {} := by
  unfold acquireRouteFor
  split
  · rfl
  · rename_i target ht
    have hp := (resolveTarget_host ht).2
    have ha : answers.activated = false := by simpa [ht] using h
    simp [RemoteRouteLease.construct, ha, hp]

lemma held_granted (h : resolveTarget answers address = some target)
    (ha : answers.activated = true) :
    held (acquireRouteFor answers address) = [routeKey answers.activeProviderId target] := by
  rw [acquireRouteFor_granted h ha, held, RemoteRouteLease.releases_construct]
  simp [(resolveTarget_host h).2]

lemma acquireRouteFor_refused : (acquireRouteFor answers address).refused = false := by
  by_cases h : resolveTarget answers address = none ∨ answers.activated = false
  · rw [acquireRouteFor_empty h]
  · push Not at h
    obtain ⟨target, ht⟩ := Option.ne_none_iff_exists'.mp h.1
    rw [acquireRouteFor_granted ht (by simpa using h.2)]
    simp [RemoteRouteLease.construct]

lemma kProxyAddress_plain (c : UInt8) (h : c ∈ kProxyAddress) :
    isspace c = false ∧ c ≠ colon ∧ c ≠ 91 := by
  have hall : kProxyAddress.all fun c => !isspace c && c != colon && c != 91 := by decide
  simpa [and_assoc] using List.all_eq_true.mp hall c h

lemma parse_connectAddressFor {lease : RemoteRouteLease} (h : lease.active = true) :
    (parseHostAddress (connectAddressFor lease address)).host = kProxyAddress := by
  unfold connectAddressFor
  rw [if_neg (by simp [h])]
  split
  · exact parseHostAddress_host_port _ (by decide) kProxyAddress_plain
  · decide

/-- Whether the dial succeeds does not depend on the way it takes. -/
lemma gsInit_ok {server : σ} :
    (gsInit answers (connectAddressFor (acquireRouteFor answers address) address)).2 =
      .ok server ↔ Succeeds (address, answers) ∧ answers.status = .ok server := by
  have hhost : (parseHostAddress
      (connectAddressFor (acquireRouteFor answers address) address)).host = [] ↔
      (parseHostAddress address).host = [] := by
    by_cases h : resolveTarget answers address = none ∨ answers.activated = false
    · rw [acquireRouteFor_empty h]
      rfl
    · push Not at h
      obtain ⟨target, ht⟩ := Option.ne_none_iff_exists'.mp h.1
      rw [parse_connectAddressFor]
      · exact iff_of_false (by decide) (resolveTarget_host ht).1
      · rw [acquireRouteFor_granted ht (by simpa using h.2)]
        simp [RemoteRouteLease.construct]
  simp only [gsInit, Succeeds, hhost]
  split_ifs with h1 h2
  · simp [h1]
  · simp [h2]
  · simp only [Bool.not_eq_false] at h2
    grind

/-! ## One address -/

/-- The connections opened for an address. -/
def dialed (answers : Answers σ) (address : Bytes) : List Dial :=
  let g := gsInit answers (connectAddressFor (acquireRouteFor answers address) address)
  g.1 ++ match g.2 with
    | .ok _ => []
    | .error _ => (probePunktfunkIdentity answers address).1

lemma tryAddresses_empty : tryAddresses (([], answers) :: rest) out = tryAddresses rest out := by
  simp [tryAddresses]

lemma tryAddresses_success (rest : List (Bytes × Answers σ)) (out : Out σ)
    (hs : Succeeds (address, answers)) : ∃ server, answers.status = .ok server ∧
    tryAddresses ((address, answers) :: rest) out =
      (true, ⟨address, some server, out.error, acquireRouteFor answers address⟩,
        [⟨address, answers, (held (acquireRouteFor answers address)).map .acquire ++
          ((dialed answers address).map .dial ++ (held out.lease).map .release), out.error⟩]) := by
  obtain ⟨hhost, hcert, server, hserver⟩ := hs
  have hne : address ≠ [] := by
    rintro rfl
    exact hhost rfl
  have hg := gsInit_ok.mpr ⟨⟨hhost, hcert, server, hserver⟩, hserver⟩
  refine ⟨server, hserver, ?_⟩
  rw [tryAddresses, if_neg hne]
  simp only [acquireRouteFor_refused, dialed]
  rcases hi : gsInit answers (connectAddressFor (acquireRouteFor answers address) address)
    with ⟨dials, status⟩
  obtain rfl : status = .ok server := by simpa [hi] using hg
  simp

lemma tryAddresses_failure (rest : List (Bytes × Answers σ)) (out : Out σ)
    (hne : address ≠ []) (hs : ¬ Succeeds (address, answers)) : ∃ error,
    tryAddresses ((address, answers) :: rest) out =
      ((tryAddresses rest { out with error := error }).1,
        (tryAddresses rest { out with error := error }).2.1,
        ⟨address, answers, (held (acquireRouteFor answers address)).map .acquire ++
          ((dialed answers address).map .dial ++
            (held (acquireRouteFor answers address)).map .release), error⟩ ::
          (tryAddresses rest { out with error := error }).2.2) := by
  rw [tryAddresses, if_neg hne]
  simp only [acquireRouteFor_refused, dialed]
  rcases hi : gsInit answers (connectAddressFor (acquireRouteFor answers address) address)
    with ⟨dials, status⟩
  rcases status with connectError | server
  · refine ⟨if (probePunktfunkIdentity answers address).2 then punktfunkGameStreamRequiredError
      else connectError, ?_⟩
    simp
  · exact absurd (gsInit_ok.mp (by rw [hi])).1 hs

lemma dialed_ne_nil (h : (parseHostAddress address).host ≠ []) : dialed answers address ≠ [] := by
  have hprobe : (probePunktfunkIdentity answers address).1 ≠ [] := by
    simp [probePunktfunkIdentity, urlHost_ne_nil h]
  simp only [dialed]
  rcases hi : gsInit answers (connectAddressFor (acquireRouteFor answers address) address)
    with ⟨dials, status⟩
  rcases status with connectError | server
  · simp [hprobe]
  · intro hnil
    simp only [List.append_nil] at hnil
    simp only [gsInit] at hi
    grind

/-- Through a granted route only the probe goes around the proxy. -/
lemma dialed_host (h : resolveTarget answers address = some target)
    (ha : answers.activated = true) :
    (∀ d ∈ dialed answers address, d.host = kProxyAddress) ↔
      Succeeds (address, answers) ∨ urlHost address = kProxyAddress := by
  have hactive : (acquireRouteFor answers address).active = true := by
    rw [acquireRouteFor_granted h ha]
    simp [RemoteRouteLease.construct]
  have hurl := urlHost_ne_nil (resolveTarget_host h).1
  have hdials : ∀ d ∈ (gsInit answers
      (connectAddressFor (acquireRouteFor answers address) address)).1, d.host = kProxyAddress := by
    simp only [gsInit, parse_connectAddressFor hactive]
    grind
  simp only [dialed]
  rcases hi : gsInit answers (connectAddressFor (acquireRouteFor answers address) address)
    with ⟨dials, status⟩
  rw [hi] at hdials
  rcases status with connectError | server
  · have hfail : ¬ Succeeds (address, answers) := by
      rintro ⟨hhost, hcert, server, hserver⟩
      have := gsInit_ok.mpr ⟨⟨hhost, hcert, server, hserver⟩, hserver⟩
      simp [hi] at this
    simp only [probePunktfunkIdentity, if_neg hurl, hfail, false_or, List.mem_append,
      List.mem_singleton]
    exact ⟨fun h => h _ (.inr rfl), fun h d hd => hd.elim (hdials d) fun hd => by rw [hd, h]⟩
  · have hok := (gsInit_ok.mp (by rw [hi])).1
    simpa [hok] using hdials

/-! ## The events of one address -/

variable {key : RouteKey} {keys routes : List RouteKey} {events : List Event}

lemma dialsThrough_acquires : DialsThrough key routes (keys.map .acquire ++ events) ↔
    DialsThrough key (keys.reverse ++ routes) events := by
  induction keys generalizing routes with
  | nil => rfl
  | cons k keys ih => simp [DialsThrough, ih]

lemma dialsThrough_dials {dials : List Dial} :
    DialsThrough key routes (dials.map .dial ++ events) ↔
      (∀ d ∈ dials, d.host = kProxyAddress ∧ key ∈ routes) ∧ DialsThrough key routes events := by
  induction dials with
  | nil => simp
  | cons d dials ih => simp [DialsThrough, ih, and_assoc]

lemma dialsThrough_releases : DialsThrough key routes (keys.map .release) := by
  induction keys generalizing routes with
  | nil => trivial
  | cons k keys ih => exact ih

/-- Whether an address is confined is decided by its route alone. -/
lemma confined_iff {error : Bytes} :
    (Visit.mk address answers ((held (acquireRouteFor answers address)).map .acquire ++
      ((dialed answers address).map .dial ++ keys.map .release)) error).Confined ↔
      RouteHolds (address, answers) := by
  simp only [Visit.Confined, RouteHolds]
  refine forall₂_congr fun target h => ?_
  rw [dialsThrough_acquires, dialsThrough_dials]
  rcases ha : answers.activated with _ | _
  · -- nothing is held, and something is dialed
    obtain ⟨d, hd⟩ := List.exists_mem_of_ne_nil (dialed answers address)
      (dialed_ne_nil (resolveTarget_host h).1)
    rw [acquireRouteFor_empty (.inr ha)]
    simp only [Bool.false_eq_true, false_and, iff_false]
    rintro ⟨⟨hall, -⟩, -⟩
    exact absurd (hall d hd).2 (by simp [held, RemoteRouteLease.releases])
  · rw [held_granted h ha, ← dialed_host h ha]
    simp [dialsThrough_releases]

lemma outstanding_acquires : outstanding routes (keys.map .acquire ++ events) =
    outstanding (keys.reverse ++ routes) events := by
  induction keys generalizing routes with
  | nil => rfl
  | cons k keys ih => simp [outstanding, ih]

lemma outstanding_dials {dials : List Dial} :
    outstanding routes (dials.map .dial ++ events) = outstanding routes events := by
  induction dials with
  | nil => rfl
  | cons d dials ih => exact ih

lemma held_cases (lease : RemoteRouteLease) : held lease = [] ∨ held lease = [lease.key] := by
  by_cases h : lease.releases <;> simp [held, h]

/-- An address that fails takes back what it acquired. -/
lemma outstanding_failure {lease : RemoteRouteLease} {dials : List Dial} :
    outstanding routes ((held lease).map .acquire ++
      (dials.map .dial ++ ((held lease).map .release ++ events))) = outstanding routes events := by
  rw [outstanding_acquires, outstanding_dials]
  rcases held_cases lease with h | h <;> simp [h, outstanding]

/-- An address that answers leaves its own route in the place of the one held before. -/
lemma outstanding_success {lease old : RemoteRouteLease} {dials : List Dial} :
    outstanding (held old) ((held lease).map .acquire ++
      (dials.map .dial ++ (held old).map .release)) = held lease := by
  rw [outstanding_acquires, outstanding_dials]
  rcases held_cases lease with h | h <;> rcases held_cases old with h' | h' <;>
    simp [h, h', outstanding]
  by_cases hk : lease.key = old.key <;> simp [hk]

/-! ## The whole list -/

variable {result : Bool × Out σ × List (Visit σ)}

lemma not_succeeds_empty : ¬ Succeeds (([] : Bytes), answers) := fun h => h.1 rfl

/-- An address that does not answer in front changes nothing. -/
lemma Settled.cons {error : Bytes} {visits : List (Visit σ)} (hs : ¬ Succeeds attempt)
    (h : Settled rest { out with error := error } result)
    (hv : outstanding (held out.lease) (visits.flatMap Visit.events) =
      outstanding (held out.lease) (result.2.2.flatMap Visit.events)) :
    Settled (attempt :: rest) out (result.1, result.2.1, visits) := by
  obtain ⟨hok, hfail, hout⟩ := h
  refine ⟨fun h => ?_, fun h => ?_, hv.trans hout⟩
  · obtain ⟨before, address, answers, after, rfl, hb, ha⟩ := hok h
    refine ⟨attempt :: before, address, answers, after, rfl, ?_, ha⟩
    rintro a (_ | ⟨_, ha⟩)
    exacts [hs, hb a ha]
  · refine ⟨?_, (hfail h).2⟩
    rintro a (_ | ⟨_, ha⟩)
    exacts [hs, (hfail h).1 a ha]

/-- The first address that answers is taken, with its lease alone, whatever happens to the
others. -/
theorem tryAddresses_settled (attempts : List (Bytes × Answers σ)) (out : Out σ) :
    Settled attempts out (tryAddresses attempts out) := by
  induction attempts generalizing out with
  | nil => simp [tryAddresses, Settled, outstanding]
  | cons attempt rest ih =>
    obtain ⟨address, answers⟩ := attempt
    by_cases hne : address = []
    · subst hne
      rw [tryAddresses_empty]
      exact (ih out).cons not_succeeds_empty rfl
    by_cases hs : Succeeds (address, answers)
    · obtain ⟨server, -, h⟩ := tryAddresses_success rest out hs
      rw [h]
      refine ⟨fun _ => ⟨[], address, answers, rest, rfl, by simp, hs, rfl, rfl⟩, by simp, ?_⟩
      simpa using outstanding_success
    · obtain ⟨error, h⟩ := tryAddresses_failure rest out hne hs
      rw [h]
      refine (ih { out with error := error }).cons hs ?_
      simpa using outstanding_failure

/-- The addresses are confined exactly as far as their routes hold. -/
theorem tryAddresses_confined (attempts : List (Bytes × Answers σ)) (out : Out σ) :
    (∀ v ∈ (tryAddresses attempts out).2.2, v.Confined) ↔ RoutesHold attempts := by
  induction attempts generalizing out with
  | nil => simp [tryAddresses, routesHold_nil]
  | cons attempt rest ih =>
    obtain ⟨address, answers⟩ := attempt
    rw [routesHold_cons]
    by_cases hne : address = []
    · subst hne
      have hhold : RouteHolds (([] : Bytes), answers) := by
        intro target h
        exact absurd rfl (resolveTarget_host h).1
      simp [tryAddresses_empty, ih, hhold, not_succeeds_empty]
    by_cases hs : Succeeds (address, answers)
    · obtain ⟨server, -, h⟩ := tryAddresses_success rest out hs
      simp [h, confined_iff, hs]
    · obtain ⟨error, h⟩ := tryAddresses_failure rest out hne hs
      simp [h, confined_iff, hs, ih]

/-- With nothing but empty addresses the loop would not have done anything either. -/
lemma tryAddresses_of_empty {attempts : List (Bytes × Answers σ)}
    (h : ∀ attempt ∈ attempts, attempt.1 = []) : tryAddresses attempts out = (false, out, []) := by
  induction attempts with
  | nil => rfl
  | cons attempt rest ih =>
    obtain ⟨address, answers⟩ := attempt
    obtain rfl : address = [] := h _ (List.mem_cons_self ..)
    rw [tryAddresses_empty, ih fun a ha => h a (List.mem_cons_of_mem _ ha)]

/-- `connect_to_addresses_sync` is the loop, run with other texts in its reference parameters. -/
lemma connectToAddressesSync_eq (attempts : List (Bytes × Answers σ)) (out : Out σ) :
    ∃ out' : Out σ, out'.lease = out.lease ∧
      connectToAddressesSync attempts out = tryAddresses attempts out' := by
  unfold connectToAddressesSync
  split
  · rename_i h
    rw [List.all_eq_true] at h
    refine ⟨{ out with error := ascii "Address is Empty" }, rfl, ?_⟩
    exact (tryAddresses_of_empty fun attempt ha => of_decide_eq_true (h attempt ha)).symm
  · exact ⟨{ out with
      error := ascii "Address is Empty", connectedAddress := [], connectedServer := none }, rfl, rfl⟩

lemma Settled.of_lease {attempts : List (Bytes × Answers σ)} {out' : Out σ}
    (h : Settled attempts out' result) (hl : out'.lease = out.lease) :
    Settled attempts out result := by
  simpa [Settled, hl] using h

/-- Every address behind the tunnel is dialed through it, and the call settles on the first one
that answers, exactly when the routes hold. -/
theorem connect_confined_iff (attempts : List (Bytes × Answers σ)) (out : Out σ) :
    ((∀ v ∈ (connectToAddressesSync attempts out).2.2, v.Confined) ∧
      Settled attempts out (connectToAddressesSync attempts out)) ↔ RoutesHold attempts := by
  obtain ⟨out', hl, h⟩ := connectToAddressesSync_eq attempts out
  rw [h, tryAddresses_confined]
  exact and_iff_left ((tryAddresses_settled attempts out').of_lease hl)

/-- A peer whose tunnel is down, and whose address answers all the same. -/
def refusing : Answers Unit :=
  { activeProviderId := ascii "tailscale"
    registered := true
    resolveRoute := fun host => some ⟨ascii "desktop", host, host, kProxyAddress, .proxy⟩
    activated := false
    lastError := ascii "peer offline"
    certificates := true
    gsError := []
    status := .ok ()
    punktfunk := false }

/-- After a refusal the address itself is dialed. -/
theorem refused_route_is_dialed : ¬ ∀ (attempts : List (Bytes × Answers Unit)) (out : Out Unit),
    (∀ v ∈ (connectToAddressesSync attempts out).2.2, v.Confined) ∧
      Settled attempts out (connectToAddressesSync attempts out) := by
  intro h
  have hvisits : (connectToAddressesSync [(ascii "100.64.0.7", refusing)] ⟨[], none, [], {}⟩).2.2 =
      [⟨ascii "100.64.0.7", refusing, [.dial ⟨ascii "100.64.0.7", 47989⟩],
        ascii "Address is Empty"⟩] := rfl
  have hv := (h [(ascii "100.64.0.7", refusing)] ⟨[], none, [], {}⟩).1
  rw [hvisits, List.forall_mem_singleton] at hv
  exact absurd (hv _ rfl).1.1.1 (by decide)

end ArtemisSwitch.RemoteRouting

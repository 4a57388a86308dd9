import ArtemisSwitch.HostRecord
import ArtemisSwitch.Library.AssocMap
import ArtemisSwitch.Library.Runs
import ArtemisSwitch.RemoteRouting

/-!
# The active routes of GameStreamClient

Two maps under the same keys: the address a host was reached at, and the lease of the route to
it.  Connecting writes both; what the server reports about itself goes to the first one alone.
-/

namespace ArtemisSwitch.GameStream
open HostAddress HostStore RemoteAccess RemoteRouting

variable {σ : Type}

/-- `host_key`. -/
def hostKey (host : Host) : Bytes :=
  if isUsableMac host.mac then ascii "mac:" ++ host.mac
  else if host.address ≠ [] then ascii "address:" ++ host.address
  else if host.remoteAddress ≠ [] then ascii "remote:" ++ host.remoteAddress
  else ascii "hostname:" ++ host.hostname

/-- A lease, and the address that was being connected to when it was acquired. -/
structure Route where
  lease : RemoteRouteLease
  acquiredFor : Bytes

/-- In `m_server_data`, `none` is an empty `SERVER_DATA`. -/
structure GameStreamClient (σ : Type) where
  serverData : AList fun _ : Bytes => Option σ := ∅
  activeAddresses : AList fun _ : Bytes => Bytes := ∅
  activeRoutes : AList fun _ : Bytes => Route := ∅

/-- The reference parameters before a connect. -/
def emptyOut : Out σ := ⟨[], none, [], {}⟩

def attempts (addresses : List Bytes) (answers : Bytes → Answers σ) : List (Bytes × Answers σ) :=
  addresses.map fun address => (address, answers address)

def WAKE_POLL_ATTEMPTS : ℕ := 20

namespace GameStreamClient

section
variable (mac : σ → Bytes)

def macKey (data : Option σ) : Bytes := ascii "mac:" ++ (data.map mac).getD []

def cacheServerData (s : GameStreamClient σ) (address : Bytes) (data : Option σ) :
    GameStreamClient σ :=
  { s with
    serverData := s.serverData.insert address data
    activeAddresses :=
      if isUsableMac ((data.map mac).getD []) then
        s.activeAddresses.insert (macKey mac data) address
      else s.activeAddresses }

/-- `m_active_addresses[key] = address` and `m_active_routes[key] = std::move(lease)`. -/
def activate (s : GameStreamClient σ) (key address : Bytes) (lease : RemoteRouteLease) :
    GameStreamClient σ :=
  { s with
    activeAddresses := s.activeAddresses.insert key address
    activeRoutes := s.activeRoutes.insert key ⟨lease, address⟩ }

/-- `connect_to_addresses`, once it has completed. -/
def connectToAddresses (s : GameStreamClient σ) (attempts : List (Bytes × Answers σ))
    (activeKey : Bytes) : GameStreamClient σ :=
  if attempts.all fun attempt => attempt.1 = [] then s
  else
    let out := (connectToAddressesSync attempts emptyOut).2.1
    if out.connectedAddress = [] then s
    else
      let s := s.cacheServerData mac out.connectedAddress out.connectedServer
      if activeKey ≠ [] then s.activate activeKey out.connectedAddress out.lease else s

def connect (s : GameStreamClient σ) (address : Bytes) (answers : Bytes → Answers σ) :
    GameStreamClient σ :=
  s.connectToAddresses mac (attempts [address] answers) (ascii "address:" ++ address)

def connectHost (s : GameStreamClient σ) (host : Host) (answers : Bytes → Answers σ) :
    GameStreamClient σ :=
  s.connectToAddresses mac (attempts host.connectionAddresses answers) (hostKey host)

/-- The first poll that connects ends the loop. -/
def poll (host : Host) (answers : Bytes → Answers σ) : Option (Out σ) :=
  let (connected, out, _) :=
    connectToAddressesSync (attempts host.connectionAddresses answers) emptyOut
  if connected then some out else none

/-- `woken` is what `WakeOnLanManager` says of the first packet. -/
def wakeUpHost (s : GameStreamClient σ) (host : Host) (woken : Bool)
    (polls : List (Bytes → Answers σ)) : GameStreamClient σ :=
  if woken then
    match (polls.take WAKE_POLL_ATTEMPTS).findSome? (poll host) with
    | some out =>
      (s.cacheServerData mac out.connectedAddress out.connectedServer).activate (hostKey host)
        out.connectedAddress out.lease
    | none => s
  else s

end

/-- The routes that `release_cancelled_pairing_connection` moves out. -/
def releasedRoutes (s : GameStreamClient σ) (address : Bytes) : List Route :=
  (s.activeRoutes.entries.filter fun e => s.activeAddresses.lookup e.1 = some address).map (·.2)

def releaseCancelledPairingConnection (s : GameStreamClient σ) (address : Bytes) :
    GameStreamClient σ where
  serverData := s.serverData.erase address
  activeAddresses := s.activeAddresses.keepBindings fun e => e.2 ≠ address
  activeRoutes := s.activeRoutes.keep fun key => s.activeAddresses.lookup key ≠ some address

/-! ## What is asked of the maps -/

/-- Every lease was acquired for the address under its key. -/
def Agrees (s : GameStreamClient σ) : Prop :=
  ∀ key route, s.activeRoutes.lookup key = some route →
    s.activeAddresses.lookup key = some route.acquiredFor

/-- A release takes the leases acquired for the address, and no others. -/
def ReleasesOwn (s : GameStreamClient σ) (address : Bytes) : Prop :=
  (∀ key route,
    (s.releaseCancelledPairingConnection address).activeRoutes.lookup key = some route →
      route.acquiredFor ≠ address) ∧
  ∀ route ∈ s.releasedRoutes address, route.acquiredFor = address

variable {s : GameStreamClient σ} {address key : Bytes} {route : Route}

lemma lookup_release_routes :
    (s.releaseCancelledPairingConnection address).activeRoutes.lookup key = some route ↔
      s.activeAddresses.lookup key ≠ some address ∧ s.activeRoutes.lookup key = some route := by
  have hkeep := AList.mem_keep_lookup (s := s.activeRoutes) (a := key) (b := route)
    (p := fun key => decide (s.activeAddresses.lookup key ≠ some address))
  rw [decide_eq_true_iff] at hkeep
  exact hkeep

lemma lookup_release_addresses {value : Bytes} :
    (s.releaseCancelledPairingConnection address).activeAddresses.lookup key = some value ↔
      value ≠ address ∧ s.activeAddresses.lookup key = some value := by
  have hkeep := AList.mem_keepBindings_lookup (s := s.activeAddresses) (a := key) (b := value)
    (p := fun e => decide (e.2 ≠ address))
  rw [decide_eq_true_iff] at hkeep
  exact hkeep

lemma mem_releasedRoutes : route ∈ s.releasedRoutes address ↔
    ∃ key, s.activeRoutes.lookup key = some route ∧
      s.activeAddresses.lookup key = some address := by
  unfold releasedRoutes
  rw [List.mem_map]
  constructor
  · rintro ⟨⟨key, r⟩, he, rfl⟩
    obtain ⟨hentry, haddress⟩ := List.mem_filter.mp he
    exact ⟨key, AList.mem_lookup_iff.mpr hentry, of_decide_eq_true haddress⟩
  · rintro ⟨key, hroute, haddress⟩
    refine ⟨⟨key, route⟩, List.mem_filter.mpr ⟨AList.mem_lookup_iff.mp hroute, ?_⟩, rfl⟩
    exact decide_eq_true haddress

/-- The maps agree exactly when every release takes its own leases. -/
lemma agrees_iff_releasesOwn : s.Agrees ↔ ∀ address, s.ReleasesOwn address := by
  constructor
  · intro h address
    refine ⟨fun key route hroute hown => ?_, fun route hroute => ?_⟩
    · obtain ⟨hne, hlookup⟩ := lookup_release_routes.mp hroute
      exact hne ((h key route hlookup).trans (congrArg some hown))
    · obtain ⟨key, hlookup, haddress⟩ := mem_releasedRoutes.mp hroute
      have hown := h key route hlookup
      rw [haddress] at hown
      exact (Option.some.inj hown).symm
  · intro h key route hlookup
    by_contra hne
    exact (h route.acquiredFor).1 key route (lookup_release_routes.mpr ⟨hne, hlookup⟩) rfl

lemma Agrees.release (h : s.Agrees) : (s.releaseCancelledPairingConnection address).Agrees := by
  intro key route hroute
  obtain ⟨hne, hlookup⟩ := lookup_release_routes.mp hroute
  have hown := h key route hlookup
  refine lookup_release_addresses.mpr ⟨?_, hown⟩
  rintro rfl
  exact hne hown

/-! ## Where a call connects to -/

/-- The address answers: the predicate of the loop, with the server that answers. -/
def reached (attempt : Bytes × Answers σ) : Option (Bytes × σ) :=
  if (parseHostAddress attempt.1).host ≠ [] ∧ attempt.2.certificates = true then
    match attempt.2.status with
    | .ok server => some (attempt.1, server)
    | .error _ => none
  else none

lemma reached_eq_some {attempt : Bytes × Answers σ} {server : σ} :
    reached attempt = some (address, server) ↔
      Succeeds attempt ∧ attempt.1 = address ∧ attempt.2.status = .ok server := by
  obtain ⟨a, answers⟩ := attempt
  unfold reached Succeeds
  dsimp only
  cases hstatus : answers.status with
  | error e => simp
  | ok other =>
    by_cases hok : (parseHostAddress a).host ≠ [] ∧ answers.certificates = true
    · rw [if_pos hok]
      simp [hok.1, hok.2]
    · rw [if_neg hok]
      refine iff_of_false (by simp) ?_
      rintro ⟨⟨hhost, hcert, -⟩, -⟩
      exact hok ⟨hhost, hcert⟩

lemma reached_eq_none {attempt : Bytes × Answers σ} :
    reached attempt = none ↔ ¬Succeeds attempt := by
  rw [← not_iff_not, not_not, ← ne_eq, Option.ne_none_iff_exists']
  constructor
  · rintro ⟨⟨a, server⟩, h⟩
    exact (reached_eq_some.mp h).1
  · intro h
    obtain ⟨server, hstatus⟩ := h.2.2
    exact ⟨(attempt.1, server), reached_eq_some.mpr ⟨h, rfl, hstatus⟩⟩

/-- What the loop returns for the first address that answers. -/
def Found (attempts : List (Bytes × Answers σ)) (result : Bool × Out σ) : Prop :=
  match attempts.findSome? reached with
  | none => result.1 = false ∧ result.2.connectedAddress = []
  | some (address, server) => result.1 = true ∧ result.2.connectedAddress = address ∧
      address ≠ [] ∧ result.2.connectedServer = some server ∧
      ∃ answers : Answers σ, result.2.lease = acquireRouteFor answers address

lemma tryAddresses_found (attempts : List (Bytes × Answers σ)) {out : Out σ}
    (hout : out.connectedAddress = []) :
    Found attempts ((tryAddresses attempts out).1, (tryAddresses attempts out).2.1) := by
  induction attempts generalizing out with
  | nil => exact ⟨rfl, hout⟩
  | cons attempt rest ih =>
    obtain ⟨address, answers⟩ := attempt
    by_cases hs : Succeeds (address, answers)
    · obtain ⟨server, hstatus, htry⟩ := tryAddresses_success rest out hs
      have hfirst : reached (address, answers) = some (address, server) :=
        reached_eq_some.mpr ⟨hs, rfl, hstatus⟩
      have hne : address ≠ [] := by
        rintro rfl
        exact not_succeeds_empty hs
      rw [Found, List.findSome?_cons, hfirst, htry]
      exact ⟨rfl, rfl, hne, rfl, answers, rfl⟩
    · have hfind : ((address, answers) :: rest).findSome? reached = rest.findSome? reached := by
        rw [List.findSome?_cons, reached_eq_none.mpr hs]
      unfold Found
      rw [hfind]
      by_cases hne : address = []
      · subst hne
        rw [tryAddresses_empty]
        exact ih hout
      · obtain ⟨error, htry⟩ := tryAddresses_failure rest out hne hs
        rw [htry]
        exact @ih { out with error := error } hout

lemma connectToAddressesSync_found (attempts : List (Bytes × Answers σ)) :
    Found attempts ((connectToAddressesSync attempts emptyOut).1,
      (connectToAddressesSync attempts emptyOut).2.1) := by
  unfold connectToAddressesSync
  split
  · rename_i hempty
    have hall : ∀ attempt ∈ attempts, reached attempt = none := by
      intro attempt hmem
      obtain ⟨address, answers⟩ := attempt
      have hnil : address = [] := of_decide_eq_true (List.all_eq_true.mp hempty _ hmem)
      subst hnil
      exact reached_eq_none.mpr not_succeeds_empty
    rw [Found, List.findSome?_eq_none_iff.mpr hall]
    exact ⟨rfl, rfl⟩
  · exact tryAddresses_found attempts rfl

/-! ## The calls -/

inductive Call (σ : Type)
  | connect (address : Bytes) (answers : Bytes → Answers σ)
  | connectHost (host : Host) (answers : Bytes → Answers σ)
  | wakeUpHost (host : Host) (woken : Bool) (polls : List (Bytes → Answers σ))
  | releaseCancelledPairingConnection (address : Bytes)

/-- The key, the address and the server that a call connects to. -/
def Call.connection : Call σ → Option (Bytes × Bytes × σ)
  | .connect address answers =>
    ((attempts [address] answers).findSome? reached).map (ascii "address:" ++ address, ·)
  | .connectHost host answers =>
    ((attempts host.connectionAddresses answers).findSome? reached).map (hostKey host, ·)
  | .wakeUpHost host woken polls =>
    if woken then
      ((polls.take WAKE_POLL_ATTEMPTS).findSome? fun answers =>
        (attempts host.connectionAddresses answers).findSome? reached).map (hostKey host, ·)
    else none
  | .releaseCancelledPairingConnection _ => none

variable (mac : σ → Bytes)

def apply (s : GameStreamClient σ) : Call σ → GameStreamClient σ
  | .connect address answers => s.connect mac address answers
  | .connectHost host answers => s.connectHost mac host answers
  | .wakeUpHost host woken polls => s.wakeUpHost mac host woken polls
  | .releaseCancelledPairingConnection address => s.releaseCancelledPairingConnection address

/-- The lease of a call was acquired for the address that it connects to. -/
def Connects (s t : GameStreamClient σ) (connection : Bytes × Bytes × σ) : Prop :=
  ∃ answers : Answers σ, t = (s.cacheServerData mac connection.2.1 (some connection.2.2)).activate
    connection.1 connection.2.1 (acquireRouteFor answers connection.2.1)

lemma hostKey_ne_nil (host : Host) : hostKey host ≠ [] := by
  unfold hostKey
  split_ifs <;> exact List.append_ne_nil_of_left_ne_nil (by decide) _

lemma reached_of_empty {attempts : List (Bytes × Answers σ)}
    (h : attempts.all fun attempt => decide (attempt.1 = [])) :
    attempts.findSome? reached = none := by
  rw [List.findSome?_eq_none_iff]
  intro attempt hmem
  obtain ⟨address, answers⟩ := attempt
  have hnil : address = [] := of_decide_eq_true (List.all_eq_true.mp h _ hmem)
  subst hnil
  exact reached_eq_none.mpr not_succeeds_empty

lemma connectToAddresses_none {attempts : List (Bytes × Answers σ)}
    (h : attempts.findSome? reached = none) : s.connectToAddresses mac attempts key = s := by
  have hfound := connectToAddressesSync_found attempts
  rw [Found, h] at hfound
  unfold connectToAddresses
  dsimp only
  rw [if_pos hfound.2, ite_self]

lemma connectToAddresses_some {attempts : List (Bytes × Answers σ)} {server : σ}
    (h : attempts.findSome? reached = some (address, server)) (hkey : key ≠ []) :
    s.Connects mac (s.connectToAddresses mac attempts key) (key, address, server) := by
  have hfound := connectToAddressesSync_found attempts
  rw [Found, h] at hfound
  obtain ⟨-, haddress, hne, hserver, answers, hlease⟩ := hfound
  have hsome : ¬(attempts.all fun attempt => decide (attempt.1 = [])) = true := by
    intro hempty
    rw [reached_of_empty hempty] at h
    cases h
  refine ⟨answers, ?_⟩
  unfold connectToAddresses
  dsimp only at haddress hserver hlease ⊢
  rw [if_neg hsome, haddress, if_neg hne, if_pos hkey, hserver, hlease]

lemma poll_reached (host : Host) (answers : Bytes → Answers σ) :
    match (attempts host.connectionAddresses answers).findSome? reached with
    | none => poll host answers = none
    | some (address, server) => ∃ out, poll host answers = some out ∧
        out.connectedAddress = address ∧ out.connectedServer = some server ∧
        ∃ a : Answers σ, out.lease = acquireRouteFor a address := by
  have hfound := connectToAddressesSync_found (attempts host.connectionAddresses answers)
  unfold Found at hfound
  unfold poll
  dsimp only at hfound ⊢
  cases hfind : (attempts host.connectionAddresses answers).findSome? reached with
  | none =>
    rw [hfind] at hfound
    exact if_neg (by simp [hfound.1])
  | some found =>
    rw [hfind] at hfound
    obtain ⟨hok, haddress, -, hserver, hlease⟩ := hfound
    exact ⟨_, if_pos hok, haddress, hserver, hlease⟩

/-- A poll connects exactly when an address of the host answers it. -/
lemma polls_reached (host : Host) (polls : List (Bytes → Answers σ)) :
    match polls.findSome? fun answers =>
      (attempts host.connectionAddresses answers).findSome? reached with
    | none => polls.findSome? (poll host) = none
    | some (address, server) => ∃ out, polls.findSome? (poll host) = some out ∧
        out.connectedAddress = address ∧ out.connectedServer = some server ∧
        ∃ a : Answers σ, out.lease = acquireRouteFor a address := by
  induction polls with
  | nil => rfl
  | cons answers polls ih =>
    have hpoll := poll_reached host answers
    rw [List.findSome?_cons, List.findSome?_cons]
    cases hfind : (attempts host.connectionAddresses answers).findSome? reached with
    | none =>
      rw [hfind] at hpoll
      rw [hpoll]
      exact ih
    | some found =>
      rw [hfind] at hpoll
      obtain ⟨out, hout, hrest⟩ := hpoll
      rw [hout]
      exact ⟨out, rfl, hrest⟩

/-- A call that does not connect changes nothing, unless it is a release. -/
lemma apply_spec (c : Call σ) :
    (∃ connection, c.connection = some connection ∧ s.Connects mac (s.apply mac c) connection) ∨
      c.connection = none ∧
        (s.apply mac c = s ∨ ∃ address, c = .releaseCancelledPairingConnection address) := by
  cases c with
  | connect address answers =>
    cases hfind : (attempts [address] answers).findSome? reached with
    | none =>
      exact .inr ⟨by simp [Call.connection, hfind], .inl (connectToAddresses_none mac hfind)⟩
    | some found =>
      have hkey : ascii "address:" ++ address ≠ [] :=
        List.append_ne_nil_of_left_ne_nil (by decide) _
      refine .inl ⟨(ascii "address:" ++ address, found), by simp [Call.connection, hfind], ?_⟩
      exact connectToAddresses_some mac hfind hkey
  | connectHost host answers =>
    cases hfind : (attempts host.connectionAddresses answers).findSome? reached with
    | none =>
      exact .inr ⟨by simp [Call.connection, hfind], .inl (connectToAddresses_none mac hfind)⟩
    | some found =>
      refine .inl ⟨(hostKey host, found), by simp [Call.connection, hfind], ?_⟩
      exact connectToAddresses_some mac hfind (hostKey_ne_nil host)
  | wakeUpHost host woken polls =>
    cases woken with
    | false => exact .inr ⟨rfl, .inl rfl⟩
    | true =>
      have hpolls := polls_reached host (polls.take WAKE_POLL_ATTEMPTS)
      cases hfind : (polls.take WAKE_POLL_ATTEMPTS).findSome? fun answers =>
          (attempts host.connectionAddresses answers).findSome? reached with
      | none =>
        rw [hfind] at hpolls
        refine .inr ⟨by simp [Call.connection, hfind], .inl ?_⟩
        simp [apply, wakeUpHost, hpolls]
      | some found =>
        rw [hfind] at hpolls
        obtain ⟨out, hout, haddress, hserver, answers, hlease⟩ := hpolls
        refine .inl ⟨(hostKey host, found), by simp [Call.connection, hfind], answers, ?_⟩
        simp [apply, wakeUpHost, hout, haddress, hserver, hlease]
  | releaseCancelledPairingConnection address => exact .inr ⟨rfl, .inr ⟨address, rfl⟩⟩

/-! ## Runs -/

/-- No other route is under the key of the MAC address that the server reports, or else the
address under it stays the same. -/
def Clear (s : GameStreamClient σ) (connection : Bytes × Bytes × σ) : Prop :=
  isUsableMac (mac connection.2.2) = false ∨
    macKey mac (some connection.2.2) = connection.1 ∨
    (s.activeRoutes.lookup (macKey mac (some connection.2.2))).isNone = true ∨
    s.activeAddresses.lookup (macKey mac (some connection.2.2)) = some connection.2.1

def Allowed (s : GameStreamClient σ) (c : Call σ) : Prop :=
  ∀ connection ∈ c.connection, s.Clear mac connection

instance (s : GameStreamClient σ) (connection : Bytes × Bytes × σ) :
    Decidable (s.Clear mac connection) :=
  inferInstanceAs (Decidable (_ ∨ _ ∨ _ ∨ _))

instance (s : GameStreamClient σ) (c : Call σ) : Decidable (s.Allowed mac c) :=
  inferInstanceAs (Decidable (∀ connection ∈ c.connection, s.Clear mac connection))

variable {mac} {t : GameStreamClient σ}

lemma lookup_connect_routes {lease : RemoteRouteLease} {data : Option σ} {k : Bytes} :
    ((s.cacheServerData mac address data).activate key address lease).activeRoutes.lookup k =
      if k = key then some ⟨lease, address⟩ else s.activeRoutes.lookup k := by
  split_ifs with hk
  · rw [hk]
    exact AList.lookup_insert _
  · exact AList.lookup_insert_ne hk

lemma lookup_connect_addresses {lease : RemoteRouteLease} {server : σ} {k : Bytes} :
    ((s.cacheServerData mac address (some server)).activate key address
        lease).activeAddresses.lookup k =
      if k = key ∨ isUsableMac (mac server) = true ∧ k = macKey mac (some server) then some address
      else s.activeAddresses.lookup k := by
  have hcached : (s.cacheServerData mac address (some server)).activeAddresses.lookup k =
      if isUsableMac (mac server) = true ∧ k = macKey mac (some server) then some address
      else s.activeAddresses.lookup k := by
    change (if isUsableMac (mac server) = true then _ else _ : AList fun _ => Bytes).lookup k = _
    by_cases husable : isUsableMac (mac server) = true
    · rw [if_pos husable]
      by_cases hk : k = macKey mac (some server)
      · rw [if_pos ⟨husable, hk⟩, hk]
        exact AList.lookup_insert _
      · rw [if_neg fun h => hk h.2]
        exact AList.lookup_insert_ne hk
    · rw [if_neg husable, if_neg fun h => husable h.1]
  by_cases hk : k = key
  · rw [if_pos (.inl hk), hk]
    exact AList.lookup_insert _
  · rw [activate, AList.lookup_insert_ne hk, hcached]
    simp only [hk, false_or]

/-- Connecting keeps the maps in agreement exactly when the key of the MAC address is clear. -/
lemma Connects.agrees {connection : Bytes × Bytes × σ} (h : s.Connects mac t connection)
    (hs : s.Agrees) : t.Agrees ↔ s.Clear mac connection := by
  obtain ⟨answers, rfl⟩ := h
  obtain ⟨key, address, server⟩ := connection
  unfold Clear
  dsimp only
  constructor
  · intro ht
    by_contra hclear
    push Not at hclear
    obtain ⟨husable, hkey, hroute, haddress⟩ := hclear
    obtain ⟨route, hlookup⟩ := Option.ne_none_iff_exists'.mp (by simpa using hroute)
    have hown := ht (macKey mac (some server)) route (by
      rw [lookup_connect_routes, if_neg hkey]
      exact hlookup)
    rw [lookup_connect_addresses, if_pos (.inr ⟨by simpa using husable, rfl⟩)] at hown
    exact haddress ((hs _ route hlookup).trans hown.symm)
  · intro hclear k route hlookup
    rw [lookup_connect_routes] at hlookup
    rw [lookup_connect_addresses]
    split_ifs at hlookup with hk
    · rw [if_pos (.inl hk), ← Option.some.inj hlookup]
    · have hown := hs k route hlookup
      by_cases hmac : isUsableMac (mac server) = true ∧ k = macKey mac (some server)
      · obtain ⟨husable, rfl⟩ := hmac
        rw [if_pos (.inr ⟨husable, rfl⟩)]
        rcases hclear with hunusable | hkey | hnone | haddress
        · rw [husable] at hunusable
          cases hunusable
        · exact absurd hkey hk
        · rw [hlookup] at hnone
          cases hnone
        · exact haddress.symm.trans hown
      · rw [if_neg (by simp only [hk, false_or]; exact hmac)]
        exact hown

/-- The step: a call keeps the maps in agreement exactly when it is allowed. -/
lemma agrees_apply (hs : s.Agrees) (c : Call σ) : (s.apply mac c).Agrees ↔ s.Allowed mac c := by
  unfold Allowed
  rcases apply_spec mac (s := s) c with ⟨connection, hc, hconnects⟩ | ⟨hc, hsame | ⟨address, rfl⟩⟩
  · rw [hconnects.agrees hs, hc]
    simp
  · rw [hsame, hc]
    simpa using hs
  · rw [hc]
    exact iff_of_true hs.release (by simp)

/-- Every lease of the map came from a route that was asked for. -/
def Acquired (s : GameStreamClient σ) : Prop :=
  ∀ key route, s.activeRoutes.lookup key = some route →
    ∃ answers : Answers σ, route.lease = acquireRouteFor answers route.acquiredFor

lemma Acquired.apply (hs : s.Acquired) (c : Call σ) : (s.apply mac c).Acquired := by
  rcases apply_spec mac (s := s) c with ⟨⟨key, address, server⟩, hc, answers, happly⟩ |
    ⟨hc, hsame | ⟨address, rfl⟩⟩
  · rw [happly]
    intro k route hlookup
    rw [lookup_connect_routes] at hlookup
    split_ifs at hlookup
    · rw [← Option.some.inj hlookup]
      exact ⟨answers, rfl⟩
    · exact hs k route hlookup
  · rwa [hsame]
  · intro k route hlookup
    exact hs k route (lookup_release_routes.mp hlookup).2

lemma agrees_run (hs : s.Agrees) (calls : List (Call σ)) :
    (∀ n, ((calls.take n).foldl (GameStreamClient.apply mac) s).Agrees) ↔
      Runs.allowed (GameStreamClient.apply mac) (Allowed mac) s calls = true := by
  apply Runs.forall_take_iff_allowed _ _ hs hs
  · intro s c hagrees
    exact agrees_apply hagrees c
  · intro s c hagrees hallowed
    exact (agrees_apply hagrees c).mpr hallowed

lemma acquired_run (hs : s.Acquired) (calls : List (Call σ)) :
    (calls.foldl (GameStreamClient.apply mac) s).Acquired := by
  apply Runs.foldl_invariant _ calls hs
  intro s c hacquired
  exact hacquired.apply c

/-- In every run each lease stands under the address that it was acquired for, and a release
takes the leases of its address and no others, exactly while every call is allowed. -/
theorem routes_agree (mac : σ → Bytes) (calls : List (Call σ)) :
    (calls.foldl (GameStreamClient.apply mac) {}).Acquired ∧
      ((∀ n, ((calls.take n).foldl (GameStreamClient.apply mac) {}).Agrees ∧
          ∀ address, ((calls.take n).foldl (GameStreamClient.apply mac) {}).ReleasesOwn address) ↔
        Runs.allowed (GameStreamClient.apply mac) (Allowed mac) {} calls = true) := by
  have hempty : ({} : GameStreamClient σ).Agrees := fun _ _ hlookup => by cases hlookup
  have hacquired : ({} : GameStreamClient σ).Acquired := fun _ _ hlookup => by cases hlookup
  refine ⟨acquired_run hacquired calls, ?_⟩
  rw [← agrees_run hempty calls]
  refine forall_congr' fun n => ?_
  rw [← agrees_iff_releasesOwn]
  exact and_self_iff

/-- A PC that is reached at every address, and the MAC address that it reports. -/
def answering (reported : Bytes) : Bytes → Answers Bytes := fun _ =>
  { activeProviderId := ascii "tailscale"
    registered := true
    resolveRoute := fun host => some ⟨ascii "desktop", host, host, kProxyAddress, .proxy⟩
    activated := true
    lastError := []
    certificates := true
    gsError := []
    status := .ok reported
    punktfunk := false }

def desktopMac : Bytes := ascii "aa:bb:cc:dd:ee:ff"

def desktop : Host := { address := ascii "100.64.0.7", mac := desktopMac }

/-- Through the record of the host first, then through another address of it. -/
def throughBoth : List (Call Bytes) :=
  [.connectHost desktop (answering desktopMac),
    .connect (ascii "100.64.0.9") (answering desktopMac)]

/-- The release of the second address takes the route of the first one with it. -/
theorem other_route_is_released :
    ¬(throughBoth.foldl (GameStreamClient.apply id) {}).Agrees ∧
      ascii "100.64.0.7" ∈ ((throughBoth.foldl (GameStreamClient.apply id) {}).releasedRoutes
        (ascii "100.64.0.9")).map (·.acquiredFor) := by
  refine ⟨fun hagrees => ?_, by decide +kernel⟩
  rw [agrees_iff_releasesOwn] at hagrees
  have hown := (hagrees (ascii "100.64.0.9")).2
  have hall : ∀ a ∈ ((throughBoth.foldl (GameStreamClient.apply id) {}).releasedRoutes
      (ascii "100.64.0.9")).map (·.acquiredFor), a = ascii "100.64.0.9" := by
    rw [List.forall_mem_map]
    exact hown
  exact absurd hall (by decide +kernel)

end GameStreamClient
end ArtemisSwitch.GameStream

import ArtemisSwitch.RemoteRouteLease
import ArtemisSwitch.RouteTable

/-!
# Leases without overlapping calls

Each call of the manager runs to its end before the next one starts.  A held
lease remembers, for the statements only, which entry its activation took a
reference on; the code itself gives a lease back by its key.
-/

namespace ArtemisSwitch.RemoteAccess
open Runs Manager World

/-- What the manager asks a provider to do. -/
inductive ProviderCall
  | start (providerId : Bytes)
  | stop (providerId : Bytes)
  | activateRoute (providerId : Bytes) (target : RemoteRouteTarget)
  | deactivateRoute (providerId : Bytes) (target : RemoteRouteTarget)
  deriving DecidableEq, Repr

namespace Manager

/-- `activateRoute` from its first to its last section: the entry it took a reference on if it
returns true.  A call that has to wait for another one never returns. -/
def activateRoute (m : Manager) (providerId : Bytes) (target : RemoteRouteTarget)
    (answer : Bool) : Option (Manager × Option EntryId × List ProviderCall) :=
  match m.beginActivate providerId target with
  | .refused => some (m, none, [])
  | .counted entry m => some (m, some entry, [])
  | .waits _ => none
  | .proceeds entry retired m =>
    let calls := retired.map (.deactivateRoute providerId) ++ [.activateRoute providerId target]
    match m.commitActivate providerId target entry answer with
    | (m, true) => some (m, none, calls ++ [.deactivateRoute providerId target])
    | (m, false) => some (m, if answer then some entry else none, calls)

def deactivateRoute (m : Manager) (providerId peerId targetAddress : Bytes) (hint : RouteKey) :
    Manager × List ProviderCall :=
  let (m, told) := m.beginDeactivate providerId peerId targetAddress hint
  (m, (told.map (.deactivateRoute providerId)).toList)

def stopActiveProvider (m : Manager) : Manager × List ProviderCall :=
  (m.beginStop.1, (m.beginStop.2.map .stop).toList)

def selectAndStartProvider (m : Manager) (id : Bytes) (answer : Startup) :
    Manager × List ProviderCall :=
  let (m, calls) := m.stopActiveProvider
  if id = [] ∨ (m.providerSlot id).isNone ∨ answer.available = false then (m, calls)
  else if answer.started then (m.setStarted id, calls ++ [.start id])
  else (m, calls ++ [.start id])

end Manager

/-- A lease and the entry that its activation took a reference on. -/
structure Held where
  lease : RemoteRouteLease
  entry : Option EntryId

/-- The lease has a reference on this entry to give back. -/
def Held.holds (entry : EntryId) (held : Held) : Bool :=
  held.lease.releases && decide (held.entry = some entry)

/-- The manager and every lease constructed so far. -/
structure Desk where
  manager : Manager
  leases : List Held

namespace Desk

def initial (providers : List Provider) : Desk := ⟨Manager.initial providers, []⟩

inductive Op
  | acquire (providerId : Bytes) (target : RemoteRouteTarget) (answer : Bool)
  | release (index : ℕ) (hint : RouteKey)
  | select (id : Bytes) (answer : Startup)
  | stop

def acquire (s : Desk) (providerId : Bytes) (target : RemoteRouteTarget) (answer : Bool) :
    Option (Desk × List ProviderCall) :=
  let sign (m : Manager) (entry : Option EntryId) : Desk :=
    ⟨m, s.leases ++ [⟨.construct providerId target entry.isSome, entry⟩]⟩
  if providerId = [] then some (sign s.manager none, [])
  else (s.manager.activateRoute providerId target answer).map fun r => (sign r.1 r.2.1, r.2.2)

def release (s : Desk) (index : ℕ) (hint : RouteKey) : Option (Desk × List ProviderCall) :=
  (s.leases[index]?).map fun held =>
    let lease := held.lease
    let leases := s.leases.set index { held with lease := lease.release }
    if lease.releases then
      let (m, calls) :=
        s.manager.deactivateRoute lease.providerId lease.peerId lease.targetAddress hint
      (⟨m, leases⟩, calls)
    else (⟨s.manager, leases⟩, [])

/-- The desk after the operation and what the provider was asked to do. -/
def perform (s : Desk) : Op → Option (Desk × List ProviderCall)
  | .acquire providerId target answer => s.acquire providerId target answer
  | .release index hint => s.release index hint
  | .select id answer =>
    let (m, calls) := s.manager.selectAndStartProvider id answer
    some (⟨m, s.leases⟩, calls)
  | .stop =>
    let (m, calls) := s.manager.stopActiveProvider
    some (⟨m, s.leases⟩, calls)

def step (s : Desk) (op : Op) : Option Desk := (s.perform op).map Prod.fst

/-- The reference of the lease is gone: its entry is no longer in the table. -/
def Superseded (s : Desk) (held : Held) : Prop :=
  held.lease.releases ∧ ∀ entry, held.entry = some entry →
    ∀ key, s.manager.activeRoutes.lookup key ≠ some entry

/-- A superseded lease is not released while a later activation has a route that it names. -/
def ReleasedInTime (s : Desk) : Op → Prop
  | .release index _ => ∀ held, s.leases[index]? = some held → s.Superseded held →
      ∀ key entry, s.manager.Active key entry → ¬ held.lease.Names key
  | _ => True

/-- Every active entry counts exactly the leases that hold it. -/
def Balanced (s : Desk) : Prop :=
  ∀ key entry, s.manager.Active key entry →
    (s.manager.heap entry).references = s.leases.countP (Held.holds entry)

/-- What holds between any two operations. -/
structure Ledger (s : Desk) : Prop where
  table : TableInv s.manager
  settled : ∀ {k e}, s.manager.activeRoutes.lookup k = some e →
    (s.manager.heap e).state = .active
  counted : ∀ {k e}, s.manager.activeRoutes.lookup k = some e →
    (s.manager.heap e).references = s.leases.countP (Held.holds e)
  entered : ∀ held ∈ s.leases, held.lease.releases → ∃ e, held.entry = some e
  fresh : ∀ held ∈ s.leases, ∀ e, held.entry = some e → e < s.manager.nextEntry
  keyed : ∀ held ∈ s.leases, ∀ e, held.entry = some e →
    ∀ k, s.manager.activeRoutes.lookup k = some e → k = held.lease.key

variable {m m' : Manager} {s s' : Desk} {providerId : Bytes} {target : RemoteRouteTarget}
variable {held : Held} {e : EntryId}

/-- One more lease, on a table whose older entries are where they were. -/
lemma Ledger.sign (h : Ledger s) (htable : TableInv m)
    (hsettled : ∀ {k e}, m.activeRoutes.lookup k = some e → (m.heap e).state = .active)
    (hcounted : ∀ {k e}, m.activeRoutes.lookup k = some e →
      (m.heap e).references = (s.leases ++ [held]).countP (Held.holds e))
    (hnext : s.manager.nextEntry ≤ m.nextEntry)
    (hold : ∀ {k e}, e < s.manager.nextEntry → m.activeRoutes.lookup k = some e →
      s.manager.activeRoutes.lookup k = some e)
    (hentered : held.lease.releases → ∃ e, held.entry = some e)
    (hfresh : ∀ e, held.entry = some e → e < m.nextEntry)
    (hkeyed : ∀ e, held.entry = some e → ∀ k, m.activeRoutes.lookup k = some e →
      k = held.lease.key) : Ledger ⟨m, s.leases ++ [held]⟩ where
  table := htable
  settled := hsettled
  counted := hcounted
  entered hd hm hrel := by
    rcases List.mem_append.mp hm with hm | hm
    · exact h.entered hd hm hrel
    · obtain rfl := List.mem_singleton.mp hm
      exact hentered hrel
  fresh hd hm e hde := by
    rcases List.mem_append.mp hm with hm | hm
    · exact Nat.lt_of_lt_of_le (h.fresh hd hm e hde) hnext
    · obtain rfl := List.mem_singleton.mp hm
      exact hfresh e hde
  keyed hd hm e hde k hl := by
    rcases List.mem_append.mp hm with hm | hm
    · exact h.keyed hd hm e hde k (hold (h.fresh hd hm e hde) hl)
    · obtain rfl := List.mem_singleton.mp hm
      exact hkeyed e hde k hl

/-- A lease that never took a reference changes nothing. -/
lemma Ledger.sign_none (h : Ledger s) (hr : held.lease.releases = false)
    (he : held.entry = none) : Ledger ⟨s.manager, s.leases ++ [held]⟩ := by
  apply h.sign h.table h.settled
  case hcounted =>
    intro k e hl
    simp [h.counted hl, Held.holds, hr]
  case hnext => exact Nat.le_refl _
  case hold => exact fun _ hl => hl
  all_goals simp [hr, he]

/-- Another lease on an entry of the table. -/
lemma Ledger.sign_counted (h : Ledger s)
    (hl : s.manager.activeRoutes.lookup held.lease.key = some e)
    (hr : held.lease.releases) (he : held.entry = some e) :
    Ledger ⟨s.manager.setEntry e
      { s.manager.heap e with references := (s.manager.heap e).references + 1 },
      s.leases ++ [held]⟩ := by
  apply h.sign ((shrinks_setEntry (e := e) (by rfl)).table h.table)
  case hsettled =>
    intro k e' hl'
    have hs := h.settled hl'
    by_cases hee : e' = e
    · subst hee
      simpa using hs
    · rwa [setEntry_heap_of_ne hee]
  case hcounted =>
    intro k e' hl'
    have hc := h.counted hl'
    by_cases hee : e' = e
    · subst hee
      simp [hc, Held.holds, hr, he]
    · have hne : e ≠ e' := Ne.symm hee
      simp [setEntry_heap_of_ne hee, hc, Held.holds, he, hne]
  case hnext => exact Nat.le_refl _
  case hold => exact fun _ hl' => hl'
  case hentered => exact fun _ => ⟨e, he⟩
  case hfresh =>
    intro e' hde
    obtain rfl : e = e' := Option.some.inj (he.symm.trans hde)
    exact h.table.allocated hl
  case hkeyed =>
    intro e' hde k hk
    obtain rfl : e = e' := Option.some.inj (he.symm.trans hde)
    exact (h.table.keyed hk).symm.trans (h.table.keyed hl)

/-- What a booking leaves of the old routes: all of them as they were, or none. -/
lemma Ledger.survivors {slot : Provider} (h : Ledger s) (hb : Books s.manager m slot target)
    (hsel : s.manager.activeProviderId = slot.id) {k : RouteKey}
    (hl : m.activeRoutes.lookup k = some e) (hne : e ≠ s.manager.nextEntry) :
    s.manager.activeRoutes.lookup k = some e ∧ m.heap e = s.manager.heap e := by
  rcases hb.lookup hl with ⟨-, he⟩ | ⟨hx, hold⟩
  · exact absurd he hne
  · have hp : k.providerId = slot.id := by rw [(h.table.selected hold).1, hsel]
    exact ⟨hold, hb.shared (hx hp) e (h.table.allocated hold)⟩

/-- No lease has the entry that is about to be created. -/
lemma Ledger.countP_next (h : Ledger s) : s.leases.countP (Held.holds s.manager.nextEntry) = 0 := by
  rw [List.countP_eq_zero]
  intro held hm hh
  obtain ⟨-, he⟩ : held.lease.releases ∧ held.entry = some s.manager.nextEntry := by
    simpa [Held.holds] using hh
  exact Nat.lt_irrefl _ (h.fresh held hm _ he)

/-- A new entry with the one lease that asked for it. -/
lemma Ledger.sign_booked {slot : Provider} (h : Ledger s) (hb : Books s.manager m slot target)
    (hsel : s.manager.activeProviderId = slot.id) (hr : held.lease.releases)
    (he : held.entry = some s.manager.nextEntry) (hk : held.lease.key = routeKey slot.id target) :
    Ledger ⟨m.setState s.manager.nextEntry .active, s.leases ++ [held]⟩ := by
  have hnext : (m.setState s.manager.nextEntry .active).nextEntry = s.manager.nextEntry + 1 :=
    hb.next
  have htable : TableInv (m.setState s.manager.nextEntry .active) :=
    (shrinks_setEntry (e := s.manager.nextEntry) (by rfl)).table (hb.table hsel h.table)
  apply h.sign htable
  case hsettled =>
    intro k e' hl
    by_cases hee : e' = s.manager.nextEntry
    · subst hee
      simp [setState]
    · obtain ⟨hold, hheap⟩ := h.survivors hb hsel hl hee
      rw [setState_heap_of_ne hee, hheap]
      exact h.settled hold
  case hcounted =>
    intro k e' hl
    by_cases hee : e' = s.manager.nextEntry
    · subst hee
      simp [setState, hb.new_references, h.countP_next, Held.holds, hr, he]
    · obtain ⟨hold, hheap⟩ := h.survivors hb hsel hl hee
      have hne : s.manager.nextEntry ≠ e' := Ne.symm hee
      rw [setState_heap_of_ne hee, hheap, h.counted hold]
      simp [Held.holds, he, hne]
  case hnext =>
    rw [hnext]
    exact Nat.le_succ _
  case hold => exact fun hlt hl => (h.survivors hb hsel hl (Nat.ne_of_lt hlt)).1
  case hentered => exact fun _ => ⟨_, he⟩
  case hfresh =>
    intro e' hde
    obtain rfl : s.manager.nextEntry = e' := Option.some.inj (he.symm.trans hde)
    rw [hnext]
    exact Nat.lt_succ_self _
  case hkeyed =>
    intro e' hde k hl
    obtain rfl : s.manager.nextEntry = e' := Option.some.inj (he.symm.trans hde)
    -- a route with the new entry is the one that was booked, since old entries are older
    rcases hb.lookup hl with ⟨rfl, -⟩ | ⟨-, hold⟩
    · exact hk.symm
    · exact absurd rfl (Nat.ne_of_lt (h.table.allocated hold))

/-- A booking whose activation failed leaves the survivors and no new lease. -/
lemma Ledger.sign_failed {slot : Provider} (h : Ledger s) (hb : Books s.manager m slot target)
    (hsel : s.manager.activeProviderId = slot.id) (hsh : Shrinks m m')
    (hheap : m'.heap = (m.setState s.manager.nextEntry .failed).heap)
    (hlook : ∀ k e, m'.activeRoutes.lookup k = some e ↔
      m.activeRoutes.lookup k = some e ∧
        ¬ (k = routeKey slot.id target ∧ e = s.manager.nextEntry)) :
    Ledger ⟨m', s.leases⟩ := by
  have hnew : ∀ {k e}, m'.activeRoutes.lookup k = some e → e ≠ s.manager.nextEntry := by
    rintro k e hl rfl
    obtain ⟨hm, hne⟩ := (hlook k _).mp hl
    rcases hb.lookup hm with hk | ⟨-, hold⟩
    · exact hne hk
    · exact Nat.lt_irrefl _ (h.table.allocated hold)
  have hold : ∀ {k e}, m'.activeRoutes.lookup k = some e →
      s.manager.activeRoutes.lookup k = some e ∧ m'.heap e = s.manager.heap e := by
    intro k e hl
    obtain ⟨ho, hh⟩ := h.survivors hb hsel (hsh.lookup hl) (hnew hl)
    exact ⟨ho, by rw [hheap, setState_heap_of_ne (hnew hl), hh]⟩
  exact {
    table := hsh.table (hb.table hsel h.table)
    settled := fun hl => by
      rw [(hold hl).2]
      exact h.settled (hold hl).1
    counted := fun hl => by
      rw [(hold hl).2]
      exact h.counted (hold hl).1
    entered := h.entered
    fresh := fun hd hm e he => by
      have := h.fresh hd hm e he
      rw [hsh.next, hb.next]
      exact Nat.lt_succ_of_lt this
    keyed := fun hd hm e he k hl => h.keyed hd hm e he k (hold hl).1 }

lemma Ledger.acquire {answer : Bool} {calls : List ProviderCall} (h : Ledger s)
    (hs : s.acquire providerId target answer = some (s', calls)) : Ledger s' := by
  unfold Desk.acquire at hs
  split_ifs at hs with hp
  · cases hs
    exact h.sign_none (by simp [RemoteRouteLease.releases_construct, hp]) rfl
  have hrel : (RemoteRouteLease.construct providerId target true).releases := by
    simp [RemoteRouteLease.releases_construct, hp]
  obtain ⟨⟨m, entry, cs⟩, hact, heq⟩ := Option.map_eq_some_iff.mp hs
  cases heq
  unfold Manager.activateRoute at hact
  split at hact
  · cases hact
    exact h.sign_none (by simp [RemoteRouteLease.releases_construct]) rfl
  · rename_i e m₁ hb
    cases hact
    obtain ⟨hl, hc⟩ := beginActivate_counted hb
    obtain ⟨-, -, rfl⟩ := countReference_some hc
    exact h.sign_counted hl hrel rfl
  · cases hact
  · rename_i e r m₁ hb
    obtain ⟨slot, -, rfl, hsel, rfl, hbk⟩ := books_of_proceeds hb
    -- nothing comes between the two sections here, but the provider may refuse
    rcases commitActivate_cases m₁ slot.id target s.manager.nextEntry answer with
      ⟨rfl, -, -, -, heq⟩ | ⟨hstale, hheap, hlook⟩
    · rw [heq] at hact
      cases hact
      exact h.sign_booked hbk hsel hrel rfl rfl
    · have hfailed := h.sign_failed hbk hsel shrinks_commitActivate hheap hlook
      have hnone : entry = none ∧
          m = (m₁.commitActivate slot.id target s.manager.nextEntry answer).1 := by
        split at hact
        all_goals
          rename_i m₂ hm
          rw [hm] at hstale ⊢
          cases hact
          simp_all
      obtain ⟨rfl, rfl⟩ := hnone
      exact hfailed.sign_none (by simp [RemoteRouteLease.releases_construct]) rfl

lemma Ledger.no_routes (h : Ledger s) (hn : ∀ k, m.activeRoutes.lookup k = none)
    (hc : m.nextEntry = s.manager.nextEntry) : Ledger ⟨m, s.leases⟩ where
  table := ⟨by simp [hn], by simp [hn], by simp [hn]⟩
  settled := by simp [hn]
  counted := by simp [hn]
  entered := h.entered
  fresh hd hm e he := hc ▸ h.fresh hd hm e he
  keyed := by simp [hn]

lemma Ledger.stop (h : Ledger s) : Ledger ⟨s.manager.stopActiveProvider.1, s.leases⟩ :=
  h.no_routes (lookup_beginStop h.table) rfl

lemma Ledger.select {id : Bytes} {answer : Startup} (h : Ledger s) :
    Ledger ⟨(s.manager.selectAndStartProvider id answer).1, s.leases⟩ := by
  have hstop := lookup_beginStop h.table
  unfold selectAndStartProvider stopActiveProvider
  simp only
  split_ifs
  · exact h.no_routes hstop rfl
  · exact h.no_routes hstop rfl
  · exact h.no_routes hstop rfl

/-! ## Giving a lease back -/

/-- A release looks for an active route that the lease names, if there is one. -/
lemma findRouteLocked_isSome {lease : RemoteRouteLease} {k : RouteKey} (hint : RouteKey)
    (hn : lease.Names k)
    (hl : m.activeRoutes.lookup k = some e) :
    ∃ k' e', m.findRouteLocked lease.providerId lease.peerId lease.targetAddress hint =
      some (k', e') := by
  have hmapped : ∀ {c}, c ∈ m.activeRoutes → ∃ e', m.activeRoutes.lookup c = some e' := by
    intro c hc
    exact Option.isSome_iff_exists.mp (AList.lookup_isSome.mpr hc)
  have hk : k ∈ m.activeRoutes := AList.lookup_isSome.mp (by simp [hl])
  simp only [findRouteLocked]
  split_ifs with h1 h2
  · have hexact : (⟨lease.providerId, lease.peerId, lease.targetAddress⟩ : RouteKey) ∈
        m.activeRoutes := by
      rcases h1 with h1 | h1
      · exact h1
      · rcases hn with rfl | ⟨hn, -⟩
        · exact hk
        · exact absurd hn h1
    obtain ⟨e', he'⟩ := hmapped hexact
    exact ⟨_, e', by rw [he']; rfl⟩
  · obtain ⟨e', he'⟩ := hmapped (AList.mem_keys.mpr (List.mem_of_mem_filter h2))
    exact ⟨hint, e', by rw [he']; rfl⟩
  -- no address matches exactly, but the peer has a route
  · have hcand : k ∈ m.activeRoutes.keys.filter fun key =>
        key.providerId = lease.providerId ∧ key.peerId = lease.peerId := by
      refine List.mem_filter.mpr ⟨AList.mem_keys.mp hk, ?_⟩
      rcases hn with rfl | ⟨-, h3, h4⟩
      · simp [RemoteRouteLease.key]
      · simp [h3, h4]
    obtain ⟨c, hc⟩ := Option.isSome_iff_exists.mp (List.isSome_head?.mpr (List.ne_nil_of_mem hcand))
    obtain ⟨e', he'⟩ :=
      hmapped (AList.mem_keys.mpr (List.mem_of_mem_filter (List.mem_of_mem_head? hc)))
    exact ⟨c, e', by rw [hc]; simp [he']⟩

lemma findRouteLocked_names {lease : RemoteRouteLease} {hint k : RouteKey}
    (hf : m.findRouteLocked lease.providerId lease.peerId lease.targetAddress hint =
      some (k, e)) : lease.Names k := by
  obtain ⟨-, h1, h2, h3 | h3⟩ := findRouteLocked_some hf
  · exact Or.inl h3
  · exact Or.inr ⟨h3, h1, h2⟩

/-- The leases after one of them was given back. -/
def givenBack (leases : List Held) (index : ℕ) (held : Held) : List Held :=
  leases.set index { held with lease := held.lease.release }

variable {index : ℕ}

lemma countP_givenBack (hi : s.leases[index]? = some held) (e : EntryId) :
    (givenBack s.leases index held).countP (Held.holds e) =
      s.leases.countP (Held.holds e) - if held.holds e then 1 else 0 := by
  obtain ⟨hlt, rfl⟩ := List.getElem?_eq_some_iff.mp hi
  have hnew :
      Held.holds e { s.leases[index] with lease := s.leases[index].lease.release } = false := by
    simp [Held.holds, RemoteRouteLease.releases_release]
  rw [givenBack, List.countP_set hlt, hnew]
  simp

/-- The bookkeeping of a release, given what it did to the table. -/
lemma Ledger.give_back (h : Ledger s) (hi : s.leases[index]? = some held)
    (hsh : Shrinks s.manager m)
    (hsettled : ∀ {k e}, m.activeRoutes.lookup k = some e → (m.heap e).state = .active)
    (hcounted : ∀ {k e}, m.activeRoutes.lookup k = some e → (m.heap e).references =
      s.leases.countP (Held.holds e) - if held.holds e then 1 else 0) :
    Ledger ⟨m, givenBack s.leases index held⟩ := by
  have hmem : ∀ {hd}, hd ∈ givenBack s.leases index held →
      hd = { held with lease := held.lease.release } ∨ hd ∈ s.leases :=
    fun hm => (List.mem_or_eq_of_mem_set hm).symm
  have hheld := List.mem_of_getElem? hi
  have hkey : held.lease.release.key = held.lease.key := by
    unfold RemoteRouteLease.release
    split_ifs <;> rfl
  exact {
    table := hsh.table h.table
    settled := hsettled
    counted := fun hl => by
      rw [countP_givenBack hi]
      exact hcounted hl
    entered := fun hd hm hrel => by
      rcases hmem hm with rfl | hm
      · simp [RemoteRouteLease.releases_release] at hrel
      · exact h.entered hd hm hrel
    fresh := fun hd hm e he => by
      rw [hsh.next]
      rcases hmem hm with rfl | hm
      · exact h.fresh held hheld e he
      · exact h.fresh hd hm e he
    keyed := fun hd hm e he k hl => by
      rcases hmem hm with rfl | hm
      · rw [hkey]
        exact h.keyed held hheld e he k (hsh.lookup hl)
      · exact h.keyed hd hm e he k (hsh.lookup hl) }

lemma holds_iff (hr : held.lease.releases) {e₀ : EntryId} (he : held.entry = some e₀) :
    held.holds e = decide (e = e₀) := by
  simp [Held.holds, hr, he, eq_comm]

/-- A release of the lease whose entry is in the table gives back that very entry. -/
lemma Ledger.release_current {hint k : RouteKey} (h : Ledger s)
    (hi : s.leases[index]? = some held) (hr : held.lease.releases) (he : held.entry = some e)
    (hl : s.manager.activeRoutes.lookup k = some e) :
    Ledger ⟨(s.manager.beginDeactivate held.lease.providerId held.lease.peerId
      held.lease.targetAddress hint).1, givenBack s.leases index held⟩ := by
  obtain rfl := h.keyed held (List.mem_of_getElem? hi) e he k hl
  have hfind : s.manager.findRouteLocked held.lease.providerId held.lease.peerId
      held.lease.targetAddress hint = some (held.lease.key, e) := findRouteLocked_exact hl
  have hcount := h.counted hl
  rcases beginDeactivate_cases s.manager held.lease.providerId held.lease.peerId
    held.lease.targetAddress hint with
    ⟨hidle, -⟩ | ⟨k', e', hfind', -, ⟨hmany, heq⟩ | ⟨-, heq⟩⟩
  · exact absurd (h.settled hl) (hidle _ _ hfind)
  · obtain ⟨rfl, rfl⟩ : held.lease.key = k' ∧ e = e' := by simpa [hfind] using hfind'
    rw [heq]
    refine h.give_back hi (shrinks_setEntry (by rfl)) ?_ ?_
    · intro k₁ e₁ hl₁
      by_cases hee : e₁ = e
      · subst hee
        simpa using h.settled hl
      · rw [setEntry_heap_of_ne hee]
        exact h.settled hl₁
    · intro k₁ e₁ hl₁
      rw [holds_iff hr he]
      by_cases hee : e₁ = e
      · subst hee
        simp [hcount]
      · rw [setEntry_heap_of_ne hee, h.counted hl₁]
        simp [hee]
  · obtain ⟨rfl, rfl⟩ : held.lease.key = k' ∧ e = e' := by simpa [hfind] using hfind'
    rw [heq]
    refine h.give_back hi (shrinks_erase held.lease.key) ?_ ?_
    · intro k₁ e₁ hl₁
      exact h.settled (AList.lookup_erase_some.mp hl₁).2
    · intro k₁ e₁ hl₁
      obtain ⟨hne, hl₂⟩ := AList.lookup_erase_some.mp hl₁
      have hee : e₁ ≠ e := by
        rintro rfl
        exact hne ((h.table.keyed hl₂).symm.trans (h.table.keyed hl))
      rw [holds_iff hr he, h.counted hl₂]
      simp [hee]

/-- In time, a superseded lease finds nothing. -/
lemma deactivate_superseded {hint : RouteKey}
    (hno : ∀ key entry, s.manager.Active key entry → ¬ held.lease.Names key) :
    s.manager.beginDeactivate held.lease.providerId held.lease.peerId
      held.lease.targetAddress hint = (s.manager, none) := by
  rcases beginDeactivate_cases s.manager held.lease.providerId held.lease.peerId
    held.lease.targetAddress hint with
    ⟨-, heq⟩ | ⟨k, e, hfind, ha, -⟩
  · exact heq
  · exact absurd (findRouteLocked_names hfind) (hno k e ⟨(findRouteLocked_some hfind).1, ha⟩)

lemma release_eq {hint : RouteKey} (hi : s.leases[index]? = some held)
    (hr : held.lease.releases) :
    s.perform (.release index hint) =
      some (⟨(s.manager.beginDeactivate held.lease.providerId held.lease.peerId
          held.lease.targetAddress hint).1, givenBack s.leases index held⟩,
        ((s.manager.beginDeactivate held.lease.providerId held.lease.peerId
          held.lease.targetAddress hint).2.map
            (.deactivateRoute held.lease.providerId)).toList) := by
  simp [perform, Desk.release, hi, hr, Manager.deactivateRoute, givenBack]

lemma Ledger.release {hint : RouteKey} {calls : List ProviderCall} (h : Ledger s)
    (hok : s.ReleasedInTime (.release index hint))
    (hs : s.perform (.release index hint) = some (s', calls)) : Ledger s' := by
  obtain ⟨held, hi, -⟩ := Option.map_eq_some_iff.mp hs
  by_cases hr : held.lease.releases
  · rw [release_eq hi hr] at hs
    cases hs
    obtain ⟨e, he⟩ := h.entered held (List.mem_of_getElem? hi) hr
    by_cases hcur : ∃ k, s.manager.activeRoutes.lookup k = some e
    · obtain ⟨k, hl⟩ := hcur
      exact h.release_current hi hr he hl
    · push Not at hcur
      have hsup : s.Superseded held := by
        refine ⟨hr, fun e' he' => ?_⟩
        obtain rfl : e = e' := Option.some.inj (he.symm.trans he')
        exact hcur
      rw [deactivate_superseded (hok held hi hsup)]
      refine h.give_back hi (.refl _) h.settled fun {k₁ e₁} hl₁ => ?_
      have hee : e₁ ≠ e := by
        rintro rfl
        exact hcur k₁ hl₁
      rw [holds_iff hr he, h.counted hl₁]
      simp [hee]
  · have hs' : s' = ⟨s.manager, givenBack s.leases index held⟩ := by
      simp only [perform, Desk.release, hi, Option.map_some, hr] at hs
      cases hs
      rfl
    subst hs'
    refine h.give_back hi (.refl _) h.settled fun {k₁ e₁} hl₁ => ?_
    simp [h.counted hl₁, Held.holds, hr]

theorem Ledger.step {op : Op} (h : Ledger s) (hok : s.ReleasedInTime op)
    (hs : s.step op = some s') : Ledger s' := by
  obtain ⟨⟨s₁, calls⟩, hp, rfl⟩ := Option.map_eq_some_iff.mp hs
  cases op with
  | acquire providerId target answer => exact h.acquire hp
  | release index hint => exact h.release hok hp
  | select id answer =>
    cases hp
    exact h.select
  | stop =>
    cases hp
    exact h.stop

lemma Ledger.initial (providers : List Provider) : Ledger (Desk.initial providers) where
  table := (Base.initial providers).table
  settled := by simp [Desk.initial, Manager.initial]
  counted := by simp [Desk.initial, Manager.initial]
  entered := by simp [Desk.initial]
  fresh := by simp [Desk.initial]
  keyed := by simp [Desk.initial]

/-- A superseded lease leaves the table and the provider alone exactly when it is released
in time. -/
lemma Ledger.harmless_iff {hint : RouteKey} (h : Ledger s) (hi : s.leases[index]? = some held)
    (hsup : s.Superseded held) :
    (∃ s', s.perform (.release index hint) = some (s', []) ∧ s'.manager = s.manager) ↔
      s.ReleasedInTime (.release index hint) := by
  rw [release_eq hi hsup.1]
  constructor
  · rintro ⟨s', heq, hsame⟩ held' hi' - k e ha hn
    obtain rfl : held = held' := Option.some.inj (hi.symm.trans hi')
    obtain ⟨k', e', hfind⟩ := findRouteLocked_isSome hint hn ha.1
    have hl' := (findRouteLocked_some hfind).1
    obtain ⟨rfl, -⟩ := Prod.mk.inj (Option.some.inj heq)
    rcases beginDeactivate_cases s.manager held.lease.providerId held.lease.peerId
      held.lease.targetAddress hint with ⟨hidle, -⟩ | ⟨k₁, e₁, hfind₁, -, ⟨hmany, heq⟩ | ⟨-, heq⟩⟩
    · exact hidle _ _ hfind (h.settled hl')
    · have hrefs := congrArg (fun m => (m.heap e₁).references) hsame
      simp only [heq, setEntry_heap_self] at hrefs
      omega
    · have hlook := congrArg (fun m => m.activeRoutes.lookup k₁) hsame
      simp [heq, (findRouteLocked_some hfind₁).1] at hlook
  · intro hok
    exact ⟨⟨s.manager, givenBack s.leases index held⟩,
      by rw [deactivate_superseded (hok held hi hsup)]; rfl, rfl⟩

/-- As long as no lease outlives a later activation of the route it names, every active entry
counts the leases that hold it; and a superseded lease is harmless exactly as long. -/
theorem leases_balanced (providers : List Provider) (s : Desk)
    (hrun : Run Desk.step ReleasedInTime (Desk.initial providers) s) :
    s.Balanced ∧ ∀ index hint held, s.leases[index]? = some held → s.Superseded held →
      ((∃ s', s.perform (.release index hint) = some (s', []) ∧ s'.manager = s.manager) ↔
        s.ReleasedInTime (.release index hint)) := by
  have h : Ledger s := hrun.invariant (Ledger.initial providers)
    fun _ _ _ h hok hstep => h.step hok hstep
  exact ⟨fun _ _ ha => h.counted ha.1, fun _ _ _ hi hsup => h.harmless_iff hi hsup⟩

/-- A second host behind the same provider. -/
def laptop : RemoteRouteTarget := ⟨ascii "n2", ascii "100.64.0.9", ascii "100.64.0.9", [], .proxy⟩

/-- The laptop has replaced the desktop. -/
def replaced : Desk :=
  (exec Desk.step (Desk.initial [tailscale]) [.select tailscale.id started,
    .acquire tailscale.id desktop true, .acquire tailscale.id laptop true]).get (by decide)

/-- The desktop is activated again before its first lease is given back. -/
def reactivated : Desk :=
  (exec Desk.step (Desk.initial [tailscale]) [.select tailscale.id started,
    .acquire tailscale.id desktop true, .acquire tailscale.id laptop true,
    .acquire tailscale.id desktop true]).get (by decide)

def firstLease : Held := ⟨.construct tailscale.id desktop true, some 0⟩

lemma replaced_superseded : replaced.Superseded firstLease := by
  refine ⟨rfl, fun entry he key hl => ?_⟩
  obtain rfl : 0 = entry := Option.some.inj he
  have hmem : (⟨key, 0⟩ : (_ : RouteKey) × EntryId) ∈ replaced.manager.activeRoutes.entries :=
    AList.mem_lookup_iff.mp hl
  have hentries : replaced.manager.activeRoutes.entries = [⟨routeKey tailscale.id laptop, 1⟩] := rfl
  simp [hentries] at hmem

/-- Given back right after the replacement, the lease is in time. -/
theorem leases_balanced_after_replacement :
    replaced.Balanced ∧ replaced.ReleasedInTime (.release 0 (routeKey tailscale.id desktop)) := by
  have hrun : Run Desk.step ReleasedInTime (Desk.initial [tailscale]) replaced :=
    .of_exec (Option.some_get _).symm (by simp [ReleasedInTime])
  have hall := leases_balanced [tailscale] replaced hrun
  exact ⟨hall.1, (hall.2 0 _ firstLease rfl replaced_superseded).mp ⟨_, rfl, rfl⟩⟩

/-- A late release takes the only reference of the new entry, whose lease is still held, and
has the provider drop the route. -/
theorem superseded_release_drops_new_route :
    Run Desk.step (fun _ _ => True) (Desk.initial [tailscale]) reactivated ∧
      reactivated.leases[0]? = some firstLease ∧ reactivated.Superseded firstLease ∧
      reactivated.manager.Active (routeKey tailscale.id desktop) 2 ∧
      ∃ s', reactivated.perform (.release 0 (routeKey tailscale.id desktop)) =
          some (s', [.deactivateRoute tailscale.id desktop]) ∧
        s'.manager.activeRoutes.lookup (routeKey tailscale.id desktop) = none ∧
        s'.leases.countP (Held.holds 2) = 1 := by
  refine ⟨.of_exec (Option.some_get _).symm (by simp), rfl, ⟨rfl, fun entry he key hl => ?_⟩,
    ⟨rfl, rfl⟩, _, rfl, rfl, rfl⟩
  obtain rfl : 0 = entry := Option.some.inj he
  have hmem : (⟨key, 0⟩ : (_ : RouteKey) × EntryId) ∈ reactivated.manager.activeRoutes.entries :=
    AList.mem_lookup_iff.mp hl
  have hentries : reactivated.manager.activeRoutes.entries =
    [⟨routeKey tailscale.id desktop, 2⟩] := rfl
  simp [hentries] at hmem

end Desk
end ArtemisSwitch.RemoteAccess

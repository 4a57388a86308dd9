import ArtemisSwitch.Library.AssocMap
import ArtemisSwitch.Transport

/-!
# RemoteAccessManager

The reference-counted route table.  Every function here is one section of the
source that runs under `mutex_`; the provider calls between the sections are in
`RouteWorld`.
-/

namespace ArtemisSwitch.RemoteAccess

inductive RemoteRouteMode
  | native
  | proxy
  deriving DecidableEq, Repr

structure RemoteRouteTarget where
  peerId : Bytes
  peerAddress : Bytes
  targetAddress : Bytes
  connectAddress : Bytes
  mode : RemoteRouteMode := .proxy
  deriving DecidableEq, Repr

structure RouteKey where
  providerId : Bytes
  peerId : Bytes
  targetAddress : Bytes
  deriving DecidableEq, Repr

inductive RouteState
  | activating
  | active
  | failed
  deriving DecidableEq, Repr

structure RouteEntry where
  target : RemoteRouteTarget
  generation : UInt64 := 0
  references : ℕ := 1
  state : RouteState := .activating
  deriving DecidableEq, Repr

/-- What the manager asks a registered provider that never changes.  The empty id is the
selection "Off", no provider has it. -/
structure Provider where
  id : Bytes
  routesAreExclusive : Bool
  id_ne_nil : id ≠ []

/-- The identity of a `shared_ptr<RouteEntry>`. -/
abbrev EntryId := ℕ

/-- Entries live on a heap: a call keeps its entry after the table has dropped it. -/
structure Manager where
  providers : List Provider
  activeProviderId : Bytes
  providerGeneration : UInt64
  heap : EntryId → RouteEntry
  nextEntry : EntryId
  activeRoutes : AList fun _ : RouteKey => EntryId

def routeKey (providerId : Bytes) (target : RemoteRouteTarget) : RouteKey :=
  ⟨providerId, target.peerId, target.targetAddress⟩

def emptyTarget : RemoteRouteTarget := ⟨[], [], [], [], .proxy⟩

def Manager.initial (providers : List Provider) : Manager where
  providers := providers
  activeProviderId := []
  providerGeneration := 0
  heap := fun _ => { target := emptyTarget }
  nextEntry := 0
  activeRoutes := ∅

namespace Manager

def providerSlot (m : Manager) (id : Bytes) : Option Provider :=
  m.providers.find? fun slot => slot.id = id

def setEntry (m : Manager) (entry : EntryId) (value : RouteEntry) : Manager :=
  { m with heap := Function.update m.heap entry value }

def setState (m : Manager) (entry : EntryId) (state : RouteState) : Manager :=
  m.setEntry entry { m.heap entry with state := state }

/-- A route of the table whose key passes the test leads to this entry. -/
def Leads (m : Manager) (p : RouteKey → Bool) (entry : EntryId) : Prop :=
  ∃ route ∈ m.activeRoutes.entries, p route.1 ∧ route.2 = entry

instance (m : Manager) (p : RouteKey → Bool) (entry : EntryId) : Decidable (m.Leads p entry) :=
  inferInstanceAs (Decidable (∃ route ∈ m.activeRoutes.entries, _))

/-- The erasing loops of `activateRoute` and `stopActiveProviderLocked`. -/
def dropRoutes (m : Manager) (p : RouteKey → Bool) : Manager :=
  { m with
    heap := fun entry =>
      if m.Leads p entry then { m.heap entry with state := .failed } else m.heap entry
    activeRoutes := m.activeRoutes.keep fun key => !p key }

/-- The targets of the active routes that such a loop drops. -/
def retiredTargets (m : Manager) (p : RouteKey → Bool) : List RemoteRouteTarget :=
  (m.activeRoutes.entries.filter fun route =>
    p route.1 && decide ((m.heap route.2).state = .active)).map fun route => (m.heap route.2).target

/-- Exact key first; an empty address falls back to the match that the iteration over the
hash table meets first, which `hint` names. -/
def findRouteLocked (m : Manager) (providerId peerId targetAddress : Bytes) (hint : RouteKey) :
    Option (RouteKey × EntryId) :=
  let exact : RouteKey := ⟨providerId, peerId, targetAddress⟩
  let named (key : RouteKey) := (m.activeRoutes.lookup key).map fun entry => (key, entry)
  if exact ∈ m.activeRoutes ∨ targetAddress ≠ [] then named exact
  else
    let candidates := m.activeRoutes.keys.filter fun key =>
      key.providerId = providerId ∧ key.peerId = peerId
    if hint ∈ candidates then named hint else candidates.head?.bind named

/-! ## activateRoute -/

/-- The check after the wait, and the reference it takes. -/
def countReference (m : Manager) (entry : EntryId) : Option Manager :=
  if (m.heap entry).state ≠ .active ∨ (m.heap entry).generation ≠ m.providerGeneration then none
  else some (m.setEntry entry { m.heap entry with references := (m.heap entry).references + 1 })

/-- A fresh entry under a key that has none. -/
def emplaceRoute (m : Manager) (key : RouteKey) (target : RemoteRouteTarget) : Manager :=
  { m with
    heap := Function.update m.heap m.nextEntry
      { target := target, generation := m.providerGeneration }
    nextEntry := m.nextEntry + 1
    activeRoutes := m.activeRoutes.insert key m.nextEntry }

/-- How the first section of `activateRoute` ends. -/
inductive Begun
  | refused
  | counted (entry : EntryId) (m : Manager)
  | waits (entry : EntryId)
  | proceeds (entry : EntryId) (retired : List RemoteRouteTarget) (m : Manager)

/-- The routes that an exclusive provider loses to a new one. -/
def replacedBy (key : RouteKey) (other : RouteKey) : Bool :=
  other.providerId = key.providerId ∧ other ≠ key

/-- The branch of `activateRoute` for a key that the table has. -/
def joinRoute (m : Manager) (entry : EntryId) : Begun :=
  if (m.heap entry).state = .activating then .waits entry
  else match m.countReference entry with
    | none => .refused
    | some counted => .counted entry counted

/-- The branch of `activateRoute` for a key that the table does not have. -/
def bookRoute (m : Manager) (selected : Provider) (target : RemoteRouteTarget) : Begun :=
  let key := routeKey selected.id target
  let booked := m.emplaceRoute key target
  if selected.routesAreExclusive then
    .proceeds m.nextEntry (booked.retiredTargets (replacedBy key))
      (booked.dropRoutes (replacedBy key))
  else .proceeds m.nextEntry [] booked

def beginActivate (m : Manager) (providerId : Bytes) (target : RemoteRouteTarget) : Begun :=
  match m.providerSlot providerId with
  | none => .refused
  | some selected =>
    if target.peerId = [] ∨ m.activeProviderId ≠ providerId then .refused
    else match m.activeRoutes.lookup (routeKey providerId target) with
      | some entry => m.joinRoute entry
      | none => m.bookRoute selected target

/-- The section after the provider's answer: the new table and `staleActivation`. -/
def commitActivate (m : Manager) (providerId : Bytes) (target : RemoteRouteTarget)
    (entry : EntryId) (activated : Bool) : Manager × Bool :=
  let key := routeKey providerId target
  let current := m.activeRoutes.lookup key
  let generationMatches := m.activeProviderId = providerId ∧
    (m.heap entry).generation = m.providerGeneration ∧ current = some entry
  if activated = false ∨ ¬ generationMatches then
    let failed := m.setState entry .failed
    (if current = some entry then { failed with activeRoutes := failed.activeRoutes.erase key }
      else failed, activated)
  else (m.setState entry .active, false)

/-! ## prepareRouteForStreaming, deactivateRoute -/

/-- The target to prepare and the generation it was found in. -/
def beginPrepare (m : Manager) (providerId peerId targetAddress : Bytes) (hint : RouteKey) :
    Option (RemoteRouteTarget × UInt64) :=
  match m.findRouteLocked providerId peerId targetAddress hint with
  | none => none
  | some (_, entry) =>
    if (m.heap entry).state ≠ .active then none
    else if (m.providerSlot providerId).isNone then none
    else some ((m.heap entry).target, (m.heap entry).generation)

def endPrepare (m : Manager) (providerId : Bytes) (generation : UInt64) (prepared : Bool) : Bool :=
  prepared && decide (m.activeProviderId = providerId ∧ generation = m.providerGeneration)

/-- The new table and the target that the provider is then told to deactivate. -/
def beginDeactivate (m : Manager) (providerId peerId targetAddress : Bytes) (hint : RouteKey) :
    Manager × Option RemoteRouteTarget :=
  match m.findRouteLocked providerId peerId targetAddress hint with
  | none => (m, none)
  | some (key, entry) =>
    if (m.heap entry).state ≠ .active then (m, none)
    else if 1 < (m.heap entry).references then
      (m.setEntry entry { m.heap entry with references := (m.heap entry).references - 1 }, none)
    else
      ({ m with activeRoutes := m.activeRoutes.erase key },
        if m.activeProviderId = providerId ∧ (m.providerSlot providerId).isSome then
          some (m.heap entry).target
        else none)

/-! ## selectAndStartProvider, stopActiveProvider -/

/-- The first section of `stopActiveProviderLocked` and the provider it goes on to stop. -/
def beginStop (m : Manager) : Manager × Option Bytes :=
  ({ m.dropRoutes fun key => key.providerId = m.activeProviderId with
      activeProviderId := []
      providerGeneration := m.providerGeneration + 1 },
    (m.providerSlot m.activeProviderId).map (·.id))

/-- The last section of a successful `selectAndStartProvider`. -/
def setStarted (m : Manager) (id : Bytes) : Manager :=
  { m with activeProviderId := id, providerGeneration := m.providerGeneration + 1 }

/-- The table has an active route under this key. -/
def Active (m : Manager) (key : RouteKey) (entry : EntryId) : Prop :=
  m.activeRoutes.lookup key = some entry ∧ (m.heap entry).state = .active

/-! ## What the sections do -/

variable {m m' : Manager} {p : RouteKey → Bool} {key other : RouteKey} {entry e : EntryId}
variable {providerId peerId targetAddress : Bytes} {target : RemoteRouteTarget} {hint : RouteKey}

lemma leads_iff : m.Leads p e ↔ ∃ key, p key ∧ m.activeRoutes.lookup key = some e := by
  constructor
  · rintro ⟨⟨key, e'⟩, hmem, hp, rfl⟩
    exact ⟨key, hp, AList.mem_lookup_iff.mpr hmem⟩
  · rintro ⟨key, hp, hl⟩
    exact ⟨⟨key, e⟩, AList.mem_lookup_iff.mp hl, hp, rfl⟩

lemma lookup_dropRoutes : (m.dropRoutes p).activeRoutes.lookup key = some e ↔
    p key = false ∧ m.activeRoutes.lookup key = some e := by
  have := AList.mem_keep_lookup (s := m.activeRoutes) (p := fun k => !p k) (a := key) (b := e)
  simpa [dropRoutes] using this

@[simp] lemma dropRoutes_target : ((m.dropRoutes p).heap e).target = (m.heap e).target := by
  simp only [dropRoutes]
  split_ifs <;> rfl

@[simp] lemma dropRoutes_references :
    ((m.dropRoutes p).heap e).references = (m.heap e).references := by
  simp only [dropRoutes]
  split_ifs <;> rfl

lemma dropRoutes_active (h : ((m.dropRoutes p).heap e).state = .active) :
    (m.heap e).state = .active := by
  simp only [dropRoutes] at h
  split_ifs at h
  exact h

/-- A route of the table survives the loop, or its entry is failed by it. -/
lemma dropRoutes_keeps_or_fails (h : m.activeRoutes.lookup key = some e) :
    (m.dropRoutes p).activeRoutes.lookup key = some e ∨
      ((m.dropRoutes p).heap e).state = .failed := by
  cases hp : p key with
  | false => exact Or.inl (lookup_dropRoutes.mpr ⟨hp, h⟩)
  | true =>
    have hl : m.Leads p e := leads_iff.mpr ⟨key, hp, h⟩
    exact Or.inr (by simp [dropRoutes, hl])

lemma dropRoutes_failed (h : (m.heap e).state = .failed) :
    ((m.dropRoutes p).heap e).state = .failed := by
  simp only [dropRoutes]
  split_ifs
  · rfl
  · exact h

lemma lookup_emplaceRoute : (m.emplaceRoute key target).activeRoutes.lookup other = some e ↔
    (other = key ∧ e = m.nextEntry) ∨ (other ≠ key ∧ m.activeRoutes.lookup other = some e) := by
  by_cases h : other = key
  · subst h
    simp [emplaceRoute, eq_comm]
  · simp [emplaceRoute, AList.lookup_insert_ne h, h]

lemma emplaceRoute_heap_of_lt (h : e < m.nextEntry) :
    (m.emplaceRoute key target).heap e = m.heap e := by
  simp [emplaceRoute, Function.update_of_ne (Nat.ne_of_lt h)]

@[simp] lemma emplaceRoute_heap_self : (m.emplaceRoute key target).heap m.nextEntry =
    { target := target, generation := m.providerGeneration } := by
  simp [emplaceRoute]

@[simp] lemma setEntry_activeRoutes (v : RouteEntry) :
    (m.setEntry e v).activeRoutes = m.activeRoutes := rfl

@[simp] lemma setEntry_nextEntry (v : RouteEntry) : (m.setEntry e v).nextEntry = m.nextEntry := rfl

@[simp] lemma setEntry_heap_self (v : RouteEntry) : (m.setEntry e v).heap e = v := by
  simp [setEntry]

lemma setEntry_heap_of_ne {v : RouteEntry} (h : e ≠ entry) :
    (m.setEntry entry v).heap e = m.heap e := by
  simp [setEntry, Function.update_of_ne h]

@[simp] lemma setState_target {s : RouteState} :
    ((m.setState entry s).heap e).target = (m.heap e).target := by
  by_cases h : e = entry
  · subst h
    simp [setState]
  · rw [setState, setEntry_heap_of_ne h]

/-- Counting a reference changes nothing else. -/
lemma countReference_some (h : m.countReference entry = some m') :
    (m.heap entry).state = .active ∧ (m.heap entry).generation = m.providerGeneration ∧
      m' = m.setEntry entry { m.heap entry with references := (m.heap entry).references + 1 } := by
  unfold countReference at h
  split_ifs at h with hc
  push Not at hc
  exact ⟨hc.1, hc.2, by simpa using h.symm⟩

lemma findRouteLocked_exact
    (h : m.activeRoutes.lookup ⟨providerId, peerId, targetAddress⟩ = some e) :
    m.findRouteLocked providerId peerId targetAddress hint =
      some (⟨providerId, peerId, targetAddress⟩, e) := by
  have hmem : (⟨providerId, peerId, targetAddress⟩ : RouteKey) ∈ m.activeRoutes := by
    rw [← AList.lookup_isSome, h]
    rfl
  simp [findRouteLocked, hmem, h]

lemma findRouteLocked_some (h : m.findRouteLocked providerId peerId targetAddress hint =
      some (key, e)) :
    m.activeRoutes.lookup key = some e ∧ key.providerId = providerId ∧ key.peerId = peerId ∧
      (key = ⟨providerId, peerId, targetAddress⟩ ∨ targetAddress = []) := by
  simp only [findRouteLocked] at h
  split_ifs at h with h1 h2
  · obtain ⟨e', he, heq⟩ := Option.map_eq_some_iff.mp h
    obtain ⟨rfl, rfl⟩ := Prod.mk.inj heq
    exact ⟨he, rfl, rfl, Or.inl rfl⟩
  · obtain ⟨e', he, heq⟩ := Option.map_eq_some_iff.mp h
    obtain ⟨rfl, rfl⟩ := Prod.mk.inj heq
    have hm := (List.mem_filter.mp h2).2
    simp only [decide_eq_true_eq] at hm
    exact ⟨he, hm.1, hm.2, Or.inr (by simp_all)⟩
  · obtain ⟨k, hk, hn⟩ := Option.bind_eq_some_iff.mp h
    obtain ⟨e', he, heq⟩ := Option.map_eq_some_iff.mp hn
    obtain ⟨rfl, rfl⟩ := Prod.mk.inj heq
    have hm := (List.mem_filter.mp (List.mem_of_mem_head? hk)).2
    simp only [decide_eq_true_eq] at hm
    exact ⟨he, hm.1, hm.2, Or.inr (by simp_all)⟩

lemma providerSlot_id {selected : Provider} (h : m.providerSlot providerId = some selected) :
    selected.id = providerId := by
  simpa using List.find?_some h

lemma beginActivate_counted (h : m.beginActivate providerId target = .counted entry m') :
    m.activeRoutes.lookup (routeKey providerId target) = some entry ∧
      m.countReference entry = some m' := by
  unfold beginActivate joinRoute bookRoute at h
  grind

lemma beginActivate_waits (h : m.beginActivate providerId target = .waits entry) :
    m.activeRoutes.lookup (routeKey providerId target) = some entry ∧
      (m.heap entry).state = .activating := by
  unfold beginActivate joinRoute bookRoute at h
  grind

/-- What a booking does: the new route is in, and of an exclusive provider's others none. -/
lemma beginActivate_proceeds {retired : List RemoteRouteTarget}
    (h : m.beginActivate providerId target = .proceeds entry retired m') :
    ∃ selected, m.providerSlot providerId = some selected ∧ m.activeProviderId = providerId ∧
      m.activeRoutes.lookup (routeKey providerId target) = none ∧ entry = m.nextEntry ∧
      m' = if selected.routesAreExclusive then
          (m.emplaceRoute (routeKey providerId target) target).dropRoutes
            (replacedBy (routeKey providerId target))
        else m.emplaceRoute (routeKey providerId target) target := by
  unfold beginActivate joinRoute bookRoute at h
  split at h
  · cases h
  rename_i selected hslot
  have hid := providerSlot_id hslot
  grind

lemma setState_heap_of_ne {s : RouteState} (h : e ≠ entry) :
    (m.setState entry s).heap e = m.heap e := setEntry_heap_of_ne h

/-- The entry becomes active while the table has it, or fails and is no longer in the table. -/
lemma commitActivate_cases (m : Manager) (providerId : Bytes) (target : RemoteRouteTarget)
    (entry : EntryId) (activated : Bool) :
    (activated = true ∧ m.activeProviderId = providerId ∧
      (m.heap entry).generation = m.providerGeneration ∧
      m.activeRoutes.lookup (routeKey providerId target) = some entry ∧
      m.commitActivate providerId target entry activated = (m.setState entry .active, false)) ∨
    ((m.commitActivate providerId target entry activated).2 = activated ∧
      (m.commitActivate providerId target entry activated).1.heap =
        (m.setState entry .failed).heap ∧
      ∀ k e, (m.commitActivate providerId target entry activated).1.activeRoutes.lookup k = some e ↔
        m.activeRoutes.lookup k = some e ∧ ¬ (k = routeKey providerId target ∧ e = entry)) := by
  simp only [commitActivate]
  split_ifs with h1 h2
  · refine Or.inr ⟨rfl, rfl, fun k e => ?_⟩
    have := @AList.lookup_erase_some _ _ _ m.activeRoutes k (routeKey providerId target) e
    grind [setState, setEntry]
  · refine Or.inr ⟨rfl, rfl, fun k e => ?_⟩
    grind [setState, setEntry]
  · exact Or.inl (by grind)

/-- A release finds nothing active, gives back one of several references, or erases the route
it found. -/
lemma beginDeactivate_cases (m : Manager) (providerId peerId targetAddress : Bytes)
    (hint : RouteKey) :
    ((∀ key e, m.findRouteLocked providerId peerId targetAddress hint = some (key, e) →
          (m.heap e).state ≠ .active) ∧
        m.beginDeactivate providerId peerId targetAddress hint = (m, none)) ∨
      ∃ key e, m.findRouteLocked providerId peerId targetAddress hint = some (key, e) ∧
        (m.heap e).state = .active ∧
        ((1 < (m.heap e).references ∧
            m.beginDeactivate providerId peerId targetAddress hint =
              (m.setEntry e { m.heap e with references := (m.heap e).references - 1 }, none)) ∨
          ((m.heap e).references ≤ 1 ∧
            m.beginDeactivate providerId peerId targetAddress hint =
              ({ m with activeRoutes := m.activeRoutes.erase key },
                if m.activeProviderId = providerId ∧ (m.providerSlot providerId).isSome then
                  some (m.heap e).target
                else none))) := by
  unfold beginDeactivate
  split
  · rename_i hnone
    exact Or.inl ⟨by simp [hnone], rfl⟩
  · grind

end Manager
end ArtemisSwitch.RemoteAccess

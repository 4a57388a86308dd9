import ArtemisSwitch.RouteTable

/-!
# Waiters on an activating route

A second `activateRoute` of the same key sleeps on the entry and, once woken,
looks at the entry only.  It can tell a failed entry from an active one, but not
an erased one; `SparesWaiters` says that no erased entry has a sleeper.
-/

namespace ArtemisSwitch.RemoteAccess
open Runs Manager

namespace World

/-- A `deactivateRoute` does not erase an entry that some call waits for. -/
def SparesWaiters (w : World) : Action → Prop
  | .deactivate providerId peerId targetAddress hint => ∀ key entry,
      w.manager.findRouteLocked providerId peerId targetAddress hint = some (key, entry) →
      (w.manager.heap entry).state = .active → (w.manager.heap entry).references ≤ 1 →
      ∀ other, .waiting other entry ∉ w.pending
  | _ => True

/-- A sleeper's entry is in the table under its key, or it failed and is gone for good. -/
def WaitsSound (w : World) : Prop :=
  ∀ key e, .waiting key e ∈ w.pending → e < w.manager.nextEntry ∧
    (w.manager.activeRoutes.lookup key = some e ∨
      (w.manager.heap e).state = .failed ∧
        ∀ k, w.manager.activeRoutes.lookup k ≠ some e)

variable {m m' : Manager} {w w' : World} {a : Action} {reply : Reply}

/-- Two keys never lead to one entry. -/
def Injective (m : Manager) : Prop :=
  ∀ k k' e, m.activeRoutes.lookup k = some e → m.activeRoutes.lookup k' = some e → k = k'

lemma TableInv.injective (h : TableInv m) : Injective m :=
  fun _ _ _ hk hk' => (h.keyed hk).symm.trans (h.keyed hk')

lemma TableInv.emplaceRoute_injective {key : RouteKey} {t : RemoteRouteTarget} (h : TableInv m) :
    Injective (m.emplaceRoute key t) := by
  intro k k' e hk hk'
  rcases lookup_emplaceRoute.mp hk with ⟨rfl, rfl⟩ | ⟨-, hk⟩
  · rcases lookup_emplaceRoute.mp hk' with ⟨rfl, -⟩ | ⟨-, hk'⟩
    · rfl
    · exact absurd rfl (Nat.ne_of_lt (h.allocated hk'))
  · rcases lookup_emplaceRoute.mp hk' with ⟨-, rfl⟩ | ⟨-, hk'⟩
    · exact absurd rfl (Nat.ne_of_lt (h.allocated hk))
    · exact h.injective _ _ _ hk hk'

lemma WaitsSound.mono {operations : AList fun _ : Bytes => Holder} {pending : List Call}
    {live : Bytes → Option RemoteRouteTarget} {lc : Option Lifecycle} (h : WaitsSound w)
    (hp : ∀ k e, .waiting k e ∈ pending → .waiting k e ∈ w.pending) :
    WaitsSound ⟨w.manager, live, operations, pending, lc⟩ :=
  fun _ _ hm => h _ _ (hp _ _ hm)

lemma WaitsSound.setEntry {e : EntryId} {v : RouteEntry} (h : WaitsSound w)
    (hv : v.state = (w.manager.heap e).state) :
    WaitsSound { w with manager := w.manager.setEntry e v } := by
  intro k e' hm
  obtain ⟨hlt, hor⟩ := h k e' hm
  refine ⟨hlt, hor.imp_right fun ⟨hs, hn⟩ => ⟨?_, hn⟩⟩
  by_cases he : e' = e
  · subst he
    simpa [hv] using hs
  · rwa [setEntry_heap_of_ne he]

lemma WaitsSound.count {e : EntryId} (h : WaitsSound w)
    (hc : w.manager.countReference e = some m') : WaitsSound { w with manager := m' } := by
  obtain ⟨-, -, rfl⟩ := countReference_some hc
  exact h.setEntry rfl

/-- The erasing loop keeps a sleeper's route or fails its entry. -/
lemma waits_dropRoutes {p : RouteKey → Bool} {key : RouteKey} {e : EntryId} (ht : Injective m)
    (h : m.activeRoutes.lookup key = some e ∨
      (m.heap e).state = .failed ∧ ∀ k, m.activeRoutes.lookup k ≠ some e) :
    (m.dropRoutes p).activeRoutes.lookup key = some e ∨
      ((m.dropRoutes p).heap e).state = .failed ∧
        ∀ k, (m.dropRoutes p).activeRoutes.lookup k ≠ some e := by
  rcases h with hl | ⟨hs, hn⟩
  · by_cases hk : (m.dropRoutes p).activeRoutes.lookup key = some e
    · exact Or.inl hk
    · refine Or.inr ⟨(dropRoutes_keeps_or_fails hl).resolve_left hk, fun k hk' => hk ?_⟩
      obtain rfl : k = key := ht _ _ _ (lookup_dropRoutes.mp hk').2 hl
      exact hk'
  · exact Or.inr ⟨dropRoutes_failed hs, fun k hk => hn k (lookup_dropRoutes.mp hk).2⟩

lemma waits_emplaceRoute {key key' : RouteKey} {t : RemoteRouteTarget} {e : EntryId}
    (hlt : e < m.nextEntry) (hnone : m.activeRoutes.lookup key = none)
    (h : m.activeRoutes.lookup key' = some e ∨
      (m.heap e).state = .failed ∧ ∀ k, m.activeRoutes.lookup k ≠ some e) :
    (m.emplaceRoute key t).activeRoutes.lookup key' = some e ∨
      ((m.emplaceRoute key t).heap e).state = .failed ∧
        ∀ k, (m.emplaceRoute key t).activeRoutes.lookup k ≠ some e := by
  rcases h with hl | ⟨hs, hn⟩
  · refine Or.inl (lookup_emplaceRoute.mpr (Or.inr ⟨?_, hl⟩))
    rintro rfl
    rw [hnone] at hl
    cases hl
  · refine Or.inr ⟨by rwa [emplaceRoute_heap_of_lt hlt], fun k hk => ?_⟩
    rcases lookup_emplaceRoute.mp hk with ⟨-, he⟩ | ⟨-, hk⟩
    · exact Nat.ne_of_lt hlt he
    · exact hn k hk

lemma WaitsSound.books {q : Bytes} {t : RemoteRouteTarget} {e : EntryId}
    {r : List RemoteRouteTarget} (h : WaitsSound w) (hbase : Base w)
    (hb : w.manager.beginActivate q t = .proceeds e r m') :
    WaitsSound { w with manager := m', pending := w.pending ++ [.activating q t e r] } := by
  obtain ⟨slot, hslot, hsel, hnone, rfl, hm⟩ := beginActivate_proceeds hb
  intro k e' hmem
  obtain ⟨hlt, hor⟩ := h k e' (by simpa using hmem)
  have hemp := waits_emplaceRoute (t := t) hlt hnone hor
  have hinj : Injective (w.manager.emplaceRoute (routeKey q t) t) :=
    hbase.table.emplaceRoute_injective
  subst hm
  split_ifs
  · exact ⟨Nat.lt_succ_of_lt hlt, waits_dropRoutes hinj hemp⟩
  · exact ⟨Nat.lt_succ_of_lt hlt, hemp⟩

lemma WaitsSound.commits {q : Bytes} {t : RemoteRouteTarget} {e : EntryId} (h : WaitsSound w)
    (hl : w.manager.activeRoutes.lookup (routeKey q t) = some e) :
    WaitsSound { w with
      manager := w.manager.setState e .active
      operations := w.operations.erase q } := by
  intro k e' hm
  obtain ⟨hlt, hor⟩ := h k e' hm
  refine ⟨hlt, hor.imp_right fun ⟨hs, hn⟩ => ⟨?_, hn⟩⟩
  have hne : e' ≠ e := by
    rintro rfl
    exact hn _ hl
  rwa [setState_heap_of_ne hne]

lemma WaitsSound.fails {q : Bytes} {t : RemoteRouteTarget} {e : EntryId} {r : Bool}
    {operations : AList fun _ : Bytes => Holder} (h : WaitsSound w) (hbase : Base w)
    (ho : w.operations.lookup q = some (.activated t e r)) (hsh : Shrinks w.manager m')
    (hheap : m'.heap = (w.manager.setState e .failed).heap)
    (hlook : ∀ k e', m'.activeRoutes.lookup k = some e' ↔
      w.manager.activeRoutes.lookup k = some e' ∧ ¬ (k = routeKey q t ∧ e' = e)) :
    WaitsSound { w with manager := m', operations := operations } := by
  intro k e' hm
  obtain ⟨hlt, hor⟩ := h k e' hm
  refine ⟨hsh.next ▸ hlt, ?_⟩
  by_cases he : e' = e
  · subst he
    refine Or.inr ⟨by simp [hheap, setState], fun k' hk' => ?_⟩
    -- the key of an entry is unique, so a failed entry has left the table altogether
    obtain ⟨hl, hne⟩ := (hlook k' e').mp hk'
    exact hne ⟨(hbase.carried (Or.inr ⟨r, ho⟩)).2.2 k' hl, rfl⟩
  · rw [hheap, setState_heap_of_ne he]
    rcases hor with hl | ⟨hs, hn⟩
    · exact Or.inl ((hlook k e').mpr ⟨hl, fun hc => he hc.2⟩)
    · exact Or.inr ⟨hs, fun k' hk' => hn k' (hsh.lookup hk')⟩

lemma WaitsSound.erases {k : RouteKey} {e : EntryId} {pending : List Call} (h : WaitsSound w)
    (ha : w.manager.Active k e) (hspare : ∀ other, .waiting other e ∉ w.pending)
    (hp : ∀ k e, .waiting k e ∈ pending → .waiting k e ∈ w.pending) :
    WaitsSound { w with
      manager := { w.manager with activeRoutes := w.manager.activeRoutes.erase k }
      pending := pending } := by
  intro k' e' hm
  obtain ⟨hlt, hor⟩ := h k' e' (hp _ _ hm)
  refine ⟨hlt, ?_⟩
  rcases hor with hl | ⟨hs, hn⟩
  · refine Or.inl (AList.lookup_erase_some.mpr ⟨?_, hl⟩)
    rintro rfl
    -- the erased entry is not waited for, which is the condition
    obtain rfl : e' = e := Option.some.inj (hl.symm.trans ha.1)
    exact hspare _ (hp _ _ hm)
  · exact Or.inr ⟨hs, fun k'' hk'' => hn k'' (AList.lookup_erase_some.mp hk'').2⟩

theorem WaitsSound.step (h : WaitsSound w) (hbase : Base w) (hok : w.SparesWaiters a)
    (hm : Moves w a w' reply) : WaitsSound w' := by
  have hsub : ∀ i k e, .waiting k e ∈ w.pending.eraseIdx i → .waiting k e ∈ w.pending :=
    fun i k e => List.mem_of_mem_eraseIdx
  cases hm with
  | idles => exact h
  | counts _ hc => exact h.count hc
  | waits hl =>
    intro k e hm
    rcases List.mem_append.mp hm with hm | hm
    · exact h k e hm
    · obtain ⟨rfl, rfl⟩ : k = _ ∧ e = _ := by simpa using hm
      exact ⟨hbase.table.allocated hl, Or.inl hl⟩
  | books hb => exact h.books hbase hb
  | asks => exact h.mono (by simp)
  | decrements => exact h.setEntry rfl
  | erases hf ha hr ht =>
    refine h.erases ha (hok _ _ hf ha.2 hr) ?_
    subst ht
    split_ifs <;> simp
  | leaves => exact h.mono (hsub _)
  | resumes _ hc => exact (h.mono (hsub _)).count hc
  | enters => exact h.mono (hsub _)
  | releases => exact h.mono (hsub _)
  | prepares => exact h.mono (hsub _)
  | commits _ _ hl => exact h.commits hl
  | fails ho hsh hheap hl => exact h.fails hbase ho hsh hheap hl
  | undoes => exact h.mono fun _ _ => id
  | answers => exact h.mono fun _ _ => id
  | stops =>
    intro k e hm
    obtain ⟨hlt, hor⟩ := h k e hm
    exact ⟨hlt, waits_dropRoutes hbase.table.injective hor⟩
  | stopped => exact h.mono fun _ _ => id
  | selects => exact h.mono fun _ _ => id
  | starts => exact h

/-- As long as no release erases an entry that is waited for, an `activateRoute` that counts
itself on an entry, waiting or not, counts itself on an active route of the table. -/
theorem counted_on_active_route (providers : List Provider) (w w' : World) (action : Action)
    (key : RouteKey) (entry : EntryId)
    (hrun : Run World.step SparesWaiters (World.initial providers) w)
    (hstep : w.transition action = some (w', .counted key entry)) :
    w'.manager.Active key entry := by
  obtain ⟨hbase, hwaits⟩ : Base w ∧ WaitsSound w := by
    refine hrun.invariant (I := fun w => Base w ∧ WaitsSound w)
      ⟨Base.initial providers, by simp [WaitsSound, World.initial]⟩ ?_
    rintro t a u ⟨hbase, h⟩ hok hstep
    obtain ⟨⟨u, reply⟩, htr, rfl⟩ := Option.map_eq_some_iff.mp hstep
    have hm := moves_of_transition htr
    exact ⟨hbase.step hm, h.step hbase hok hm⟩
  have hcount : ∀ {m}, w.manager.countReference entry = some m →
      w.manager.activeRoutes.lookup key = some entry → m.Active key entry := by
    intro m hc hl
    obtain ⟨hs, -, rfl⟩ := countReference_some hc
    exact ⟨hl, by simpa using hs⟩
  have hm := moves_of_transition hstep
  cases hm with
  | counts hl hc => exact hcount hc hl
  | resumes hi hc =>
    -- a waiting call whose entry is gone finds it failed, and counts nothing
    rcases (hwaits key entry (List.mem_of_getElem? hi)).2 with hl | ⟨hs, -⟩
    · exact hcount hc hl
    · rw [(countReference_some hc).1] at hs
      cases hs
  | idles hr => exact absurd rfl (hr key entry)
  | erases _ _ _ _ hn => exact absurd rfl (hn key entry)
  | fails _ _ _ _ hn => exact absurd rfl (hn key entry)
  | stops _ hn => exact absurd rfl (hn key entry)
  | selects _ hn => exact absurd rfl (hn key entry)

/-- A second call has waited until the first one activated the route. -/
def awaited : World :=
  (exec World.step (World.initial [tailscale]) [.select tailscale.id, .turn started,
    .turn started, .activate tailscale.id desktop, .activate tailscale.id desktop,
    .proceed 0 true, .finish tailscale.id]).get (by decide)

theorem counted_after_wait :
    awaited.pending = [.waiting (routeKey tailscale.id desktop) 0] ∧
      ∃ w', awaited.transition (.proceed 0 true) =
          some (w', .counted (routeKey tailscale.id desktop) 0) ∧
        w'.manager.Active (routeKey tailscale.id desktop) 0 := by
  have hrun : Run World.step SparesWaiters (World.initial [tailscale]) awaited :=
    .of_exec (Option.some_get _).symm (by simp [SparesWaiters])
  exact ⟨rfl, _, rfl, counted_on_active_route [tailscale] awaited _ (.proceed 0 true) _ 0 hrun rfl⟩

/-- The first caller releases the route before the second one, which waited for it, has woken. -/
def releasedBeforeWaking : List Action :=
  [.select tailscale.id, .turn started, .turn started, .activate tailscale.id desktop,
    .activate tailscale.id desktop, .proceed 0 true, .finish tailscale.id,
    .deactivate tailscale.id desktop.peerId desktop.targetAddress (routeKey tailscale.id desktop)]

/-- The second call succeeds on an entry that the table no longer has. -/
theorem counted_on_erased_entry :
    ∃ w w', Run World.step (fun _ _ => True) (World.initial [tailscale]) w ∧
      w.transition (.proceed 0 true) = some (w', .counted (routeKey tailscale.id desktop) 0) ∧
      w'.manager.activeRoutes.lookup (routeKey tailscale.id desktop) = none := by
  refine ⟨(exec World.step (World.initial [tailscale]) releasedBeforeWaking).get (by decide), _,
    Run.of_exec (Option.some_get _).symm (by simp), rfl, by decide⟩

end World
end ArtemisSwitch.RemoteAccess

import ArtemisSwitch.RouteTable

/-!
# The route table and an exclusive provider

The table is written under `mutex_` and the provider is called later, under its
`operations` mutex.  Between the two a call can be overtaken; `InBookingOrder`
rules out the overtaking that leaves the two in disagreement.
-/

namespace ArtemisSwitch.RemoteAccess
open Runs Manager

/-- The call is a `deactivateRoute` on its way to the provider. -/
def Call.Releases (providerId : Bytes) : Call → Prop
  | .releasing id _ => id = providerId
  | _ => False

namespace World

/-- The active routes of the provider are exactly the target it holds. -/
def Agrees (w : World) (providerId : Bytes) : Prop :=
  ∀ key target, key.providerId = providerId →
    ((∃ entry, w.manager.Active key entry ∧ (w.manager.heap entry).target = target) ↔
      w.live providerId = some target ∧ routeKey providerId target = key)

/-- An `activateRoute` goes to the provider only when no earlier `activateRoute` of the
provider and no earlier `deactivateRoute` of the same target is still queued for it. -/
def InBookingOrder (providerId : Bytes) (w : World) : Action → Prop
  | .proceed index _ => ∀ target entry retired,
      w.pending[index]? = some (.activating providerId target entry retired) →
      ∀ call ∈ w.pending.take index,
        ¬ call.Activates providerId ∧ call ≠ .releasing providerId target
  | _ => True

/-- An `activateRoute` of the provider is between its first section and its return. -/
def Busy (operations : AList fun _ : Bytes => Holder) (pending : List Call) (p : Bytes) : Prop :=
  (∃ call ∈ pending, call.Activates p) ∨
    (∃ target entry result, operations.lookup p = some (.activated target entry result)) ∨
    ∃ target, operations.lookup p = some (.undoing target)

/-- What holds of an exclusive provider between any two sections. -/
structure Inv (p : Bytes) (w : World) : Prop where
  slot : ∃ s, w.manager.providerSlot p = some s ∧ s.routesAreExclusive
  single : ∀ {k k' e e'}, w.manager.activeRoutes.lookup k = some e →
    w.manager.activeRoutes.lookup k' = some e' → w.manager.activeProviderId = p → k = k'
  active : ∀ {k e}, w.manager.Active k e → k.providerId = p →
    w.live p = some (w.manager.heap e).target ∧ ¬ Busy w.operations w.pending p ∧
      .releasing p (w.manager.heap e).target ∉ w.pending
  ordered : w.pending.Pairwise fun c c' => ∀ t e r, c = .activating p t e r →
    w.manager.activeRoutes.lookup (routeKey p t) = some e → ¬ c'.Activates p ∧ ¬ c'.Releases p
  entered : ∀ {t e r}, w.operations.lookup p = some (.activated t e r) →
    w.manager.activeRoutes.lookup (routeKey p t) = some e →
      ∀ c ∈ w.pending, ¬ c.Activates p ∧ c ≠ .releasing p t
  answered : ∀ {t e r}, w.operations.lookup p = some (.activated t e r) →
    w.live p = providerActivate r t
  undone : ∀ {t}, w.operations.lookup p = some (.undoing t) → w.live p = some t
  source : ∀ {t}, w.live p = some t →
    (∃ k e, w.manager.Active k e ∧ k.providerId = p ∧ (w.manager.heap e).target = t) ∨
      .releasing p t ∈ w.pending ∨ Busy w.operations w.pending p ∨
        ∃ next, w.lifecycle = some (.stopping p next)

variable {m m' : Manager} {w w' : World} {p : Bytes} {c : Call}

lemma Busy.mono {operations : AList fun _ : Bytes => Holder} {l l' : List Call}
    (hl : ∀ c ∈ l, c ∈ l') (h : Busy operations l p) : Busy operations l' p := by
  rcases h with ⟨c, hc, ha⟩ | h
  · exact Or.inl ⟨c, hl c hc, ha⟩
  · exact Or.inr h

/-- Whether the provider is busy depends on the holder of its own mutex only. -/
lemma busy_congr {operations operations' : AList fun _ : Bytes => Holder} {l : List Call}
    (h : operations'.lookup p = operations.lookup p) :
    Busy operations' l p ↔ Busy operations l p := by
  simp only [Busy, h]

/-! ## The sections under mutex_ -/

/-- Counting references up or down is invisible to the provider. -/
lemma Inv.setEntry {e : EntryId} {v : RouteEntry} (h : Inv p w)
    (ht : v.target = (w.manager.heap e).target) (hv : v.state = (w.manager.heap e).state) :
    Inv p { w with manager := w.manager.setEntry e v } := by
  have hs := shrinks_setEntry (m := w.manager) ht
  have hact : ∀ k e', (w.manager.setEntry e v).Active k e' ↔ w.manager.Active k e' := by
    intro k e'
    by_cases he : e' = e
    · subst he
      simp [Manager.Active, hv]
    · simp [Manager.Active, setEntry_heap_of_ne he]
  exact {
    slot := h.slot
    single := h.single
    active := fun ha hk => by simpa [hs.target] using h.active ((hact _ _).mp ha) hk
    ordered := h.ordered
    entered := h.entered
    answered := h.answered
    undone := h.undone
    source := fun hl => by simpa [hs.target, hact] using h.source hl }

lemma Inv.count {e : EntryId} (h : Inv p w) (hc : w.manager.countReference e = some m') :
    Inv p { w with manager := m' } := by
  obtain ⟨-, -, rfl⟩ := countReference_some hc
  exact h.setEntry rfl rfl

lemma Inv.append (h : Inv p w) (hA : ∀ q, ¬ c.Activates q) (hR : ∀ q, ¬ c.Releases q) :
    Inv p { w with pending := w.pending ++ [c] } := by
  have hne : ∀ q t, c ≠ .releasing q t := fun q t hc => hR q (by simp [hc, Call.Releases])
  have hna : ∀ q t e r, c ≠ .activating q t e r := fun q t e r hc =>
    hA q (by simp [hc, Call.Activates])
  have hbusy : ∀ q, Busy w.operations (w.pending ++ [c]) q ↔ Busy w.operations w.pending q := by
    simp [Busy, or_and_right, exists_or, hA]
  exact { h with
    active := fun ha hk => by simpa [hbusy, eq_comm, hne] using h.active ha hk
    ordered := by
      refine List.pairwise_append.mpr ⟨h.ordered, List.pairwise_singleton _ _, ?_⟩
      rintro c₁ - c₂ hc₂ t e r - -
      obtain rfl := List.mem_singleton.mp hc₂
      exact ⟨hA p, hR p⟩
    entered := fun ho hl c' hc' => by
      rcases List.mem_append.mp hc' with hc' | hc'
      · exact h.entered ho hl c' hc'
      · obtain rfl := List.mem_singleton.mp hc'
        exact ⟨hA p, hne p _⟩
    source := fun hl => by simpa [hbusy, eq_comm, hne] using h.source hl }

lemma Inv.remove {i : ℕ} (h : Inv p w) (hi : w.pending[i]? = some c)
    (hA : ∀ q, ¬ c.Activates q) (hR : ∀ q, ¬ c.Releases q) :
    Inv p { w with pending := w.pending.eraseIdx i } := by
  obtain ⟨pre, post, hp, he, -⟩ := split_at hi
  have hsub : ∀ c' ∈ w.pending.eraseIdx i, c' ∈ w.pending := fun c' => List.mem_of_mem_eraseIdx
  have hmem : ∀ c' ∈ w.pending, c' ≠ c → c' ∈ w.pending.eraseIdx i := by
    rw [hp, he] at *
    intro c' hc' hne
    simpa [hne] using hc'
  exact { h with
    active := fun ha hk => by
      obtain ⟨h1, h2, h3⟩ := h.active ha hk
      exact ⟨h1, fun hb => h2 (hb.mono hsub), fun hm => h3 (hsub _ hm)⟩
    ordered := h.ordered.sublist (List.eraseIdx_sublist _ _)
    entered := fun ho hl c' hc' => h.entered ho hl c' (hsub c' hc')
    source := fun hl => by
      rcases h.source hl with ha | hr | hb | hs
      · exact Or.inl ha
      · exact Or.inr (Or.inl (hmem _ hr fun hc => hR p (by simp [← hc, Call.Releases])))
      · refine Or.inr (Or.inr (Or.inl ?_))
        rcases hb with ⟨c', hc', ha⟩ | hb
        · exact Or.inl ⟨c', hmem c' hc' fun hc => hA p (hc ▸ ha), ha⟩
        · exact Or.inr hb
      · exact Or.inr (Or.inr (Or.inr hs)) }

/-- After a booking the provider is busy with it and has no other route. -/
lemma Inv.activate_proceeds {q : Bytes} {t : RemoteRouteTarget} {e : EntryId}
    {r : List RemoteRouteTarget} (h : Inv p w) (hbase : Base w)
    (hb : w.manager.beginActivate q t = .proceeds e r m') :
    Inv p { w with manager := m', pending := w.pending ++ [.activating q t e r] } := by
  obtain ⟨slot, hslot, rfl, hsel, rfl, hbk⟩ := books_of_proceeds hb
  have htab := hbk.table hsel hbase.table
  -- a route of the provider is the new one, which has not been activated
  have honly : ∀ {k e}, m'.activeRoutes.lookup k = some e → k.providerId = p →
      slot.id = p ∧ k = routeKey slot.id t ∧ e = w.manager.nextEntry := by
    intro k e hl hk
    have hkp : k.providerId = slot.id := by rw [(htab.selected hl).1, hbk.selected, hsel]
    have hp : slot.id = p := hkp.symm.trans hk
    rcases hbk.lookup hl with ⟨hk, he⟩ | ⟨hx, -⟩
    · exact ⟨hp, hk, he⟩
    · obtain ⟨s, hs, hex⟩ := h.slot
      rw [hp, hs, Option.some.injEq] at hslot
      rw [hslot, hx hkp] at hex
      cases hex
  have hinactive : ∀ {k e}, m'.Active k e → k.providerId ≠ p := by
    rintro k e ⟨hl, hs⟩ hk
    obtain ⟨-, -, rfl⟩ := honly hl hk
    exact hbk.new_state hs
  have hold : ∀ {t' e'}, e' < w.manager.nextEntry →
      m'.activeRoutes.lookup (routeKey p t') ≠ some e' := by
    intro t' e' hlt hl
    exact absurd (honly hl rfl).2.2 (Nat.ne_of_lt hlt)
  have hcar : ∀ {q t e}, Carries w.operations w.pending q t e → e < w.manager.nextEntry :=
    fun hc => (hbase.carried hc).1
  exact {
    slot := by
      simpa only [Manager.providerSlot, hbk.providers] using h.slot
    single := fun {k k' e e'} hl hl' hp => by
      have hk := (honly hl (by rw [(htab.selected hl).1, hp])).2.1
      have hk' := (honly hl' (by rw [(htab.selected hl').1, hp])).2.1
      rw [hk, hk']
    active := fun ha hk => absurd hk (hinactive ha)
    ordered := by
      refine List.pairwise_append.mpr ⟨?_, List.pairwise_singleton _ _, ?_⟩
      · refine h.ordered.imp_of_mem ?_
        rintro c₁ c₂ hc₁ - - t' e' r' rfl hl
        exact absurd hl (hold (hcar (Or.inl ⟨r', hc₁⟩)))
      · rintro c₁ hc₁ c₂ - t' e' r' rfl hl
        exact absurd hl (hold (hcar (Or.inl ⟨r', hc₁⟩)))
    entered := fun ho hl => absurd hl (hold (hcar (Or.inr ⟨_, ho⟩)))
    answered := h.answered
    undone := h.undone
    source := fun {t'} hl => by
      rcases h.source hl with ⟨k, e, ha, hk, -⟩ | hr | hbusy | hs
      · have hp : slot.id = p := by rw [← hsel, ← (hbase.table.selected ha.1).1, hk]
        exact Or.inr (Or.inr (Or.inl (Or.inl ⟨.activating slot.id t w.manager.nextEntry r,
          List.mem_append_right _ (List.mem_singleton.mpr rfl), hp⟩)))
      · exact Or.inr (Or.inl (List.mem_append_left _ hr))
      · exact Or.inr (Or.inr (Or.inl (hbusy.mono fun c => List.mem_append_left _)))
      · exact Or.inr (Or.inr (Or.inr hs)) }

lemma Inv.deactivate_erases {q : Bytes} {k : RouteKey} {e : EntryId} {told : List Call}
    (h : Inv p w) (hbase : Base w) (ha : w.manager.Active k e) (hq : k.providerId = q)
    (htold : told = if w.manager.activeProviderId = q ∧ (w.manager.providerSlot q).isSome then
      [.releasing q (w.manager.heap e).target] else []) :
    Inv p { w with
      manager := { w.manager with activeRoutes := w.manager.activeRoutes.erase k }
      pending := w.pending ++ told } := by
  have hsh := shrinks_erase (m := w.manager) k
  have hsel := hbase.table.selected ha.1
  have htold' : ∀ c ∈ told, c = .releasing q (w.manager.heap e).target := by
    rw [htold]
    split_ifs <;> simp
  -- either the provider has another selection, or its only route is gone
  have hgone : ∀ k' e', (w.manager.activeRoutes.erase k).lookup k' = some e' →
      k'.providerId ≠ p := by
    intro k' e' hl hk'
    obtain ⟨hne, hl⟩ := AList.lookup_erase_some.mp hl
    exact hne (h.single hl ha.1 (by rw [← (hbase.table.selected hl).1, hk']))
  have hbusy : ∀ p', Busy w.operations (w.pending ++ told) p' ↔ Busy w.operations w.pending p' := by
    refine fun p' => ⟨?_, fun hb => hb.mono fun c => List.mem_append_left _⟩
    rintro (⟨c, hc, hact⟩ | hb)
    · rcases List.mem_append.mp hc with hc | hc
      · exact Or.inl ⟨c, hc, hact⟩
      · rw [htold' c hc] at hact
        exact hact.elim
    · exact Or.inr hb
  exact {
    slot := h.slot
    single := fun hl hl' hp => h.single (hsh.lookup hl) (hsh.lookup hl') hp
    active := fun ha' hk => absurd hk (hgone _ _ ha'.1)
    ordered := by
      refine List.pairwise_append.mpr ⟨h.ordered.imp ?_, ?_, ?_⟩
      · intro c₁ c₂ hc t e r hc₁ hl
        exact hc t e r hc₁ (hsh.lookup hl)
      · rw [htold]
        split_ifs <;> simp
      · intro c₁ _ c₂ _ t' e' r' _ hl
        exact absurd rfl (hgone _ _ hl)
    entered := fun _ hl => absurd rfl (hgone _ _ hl)
    answered := h.answered
    undone := h.undone
    source := fun {t'} hl => by
      rcases h.source hl with ⟨k', e', ha', hk', rfl⟩ | hr | hb | hs
      · obtain rfl : k' = k := h.single ha'.1 ha.1 (by rw [← (hbase.table.selected ha'.1).1, hk'])
        obtain rfl : e' = e := Option.some.inj (ha'.1.symm.trans ha.1)
        obtain ⟨slot, hslot, -⟩ := h.slot
        have hqp : q = p := hq.symm.trans hk'
        have hmem : Call.releasing p (w.manager.heap e').target ∈ told := by
          rw [htold, hqp, if_pos ⟨by rw [← hsel.1, hk'], by simp [hslot]⟩]
          simp
        exact Or.inr (Or.inl (List.mem_append_right _ hmem))
      · exact Or.inr (Or.inl (List.mem_append_left _ hr))
      · exact Or.inr (Or.inr (Or.inl ((hbusy p).mpr hb)))
      · exact Or.inr (Or.inr (Or.inr hs)) }

/-- Steps of the lifecycle leave a table without routes. -/
lemma Inv.of_no_routes {lc : Option Lifecycle} {live : Bytes → Option RemoteRouteTarget}
    (h : Inv p w) (hn : ∀ k, m'.activeRoutes.lookup k = none)
    (hp : m'.providers = w.manager.providers)
    (hlive : live p = w.live p ∨ live p = none ∧ w.operations.lookup p = none)
    (hsrc : ∀ t, live p = some t → .releasing p t ∈ w.pending ∨
      Busy w.operations w.pending p ∨ ∃ next, lc = some (.stopping p next)) :
    Inv p ⟨m', live, w.operations, w.pending, lc⟩ where
  slot := by simpa only [Manager.providerSlot, hp] using h.slot
  single := by simp [hn]
  active ha := by
    have := ha.1
    simp [hn] at this
  ordered := List.pairwise_of_forall fun c c' t e r _ hl => by simp [hn] at hl
  entered := by simp [hn]
  answered ho := by
    rcases hlive with hl | ⟨-, hnone⟩
    · exact hl.trans (h.answered ho)
    · rw [hnone] at ho
      cases ho
  undone ho := by
    rcases hlive with hl | ⟨-, hnone⟩
    · exact hl.trans (h.undone ho)
    · rw [hnone] at ho
      cases ho
  source hl := Or.inr (hsrc _ hl)

lemma Inv.stops {next : Option Bytes} (h : Inv p w) (hbase : Base w) (hlc : w.lifecycle = none) :
    Inv p { w with
      manager := w.manager.beginStop.1
      lifecycle := afterBeginStop next w.manager.beginStop.2 } := by
  obtain ⟨slot, hslot, -⟩ := h.slot
  refine h.of_no_routes (lookup_beginStop hbase.table) rfl (Or.inl rfl) ?_
  intro t hl
  rcases h.source hl with ⟨k, e, ha, hk, -⟩ | hr | hbusy | ⟨next', hs⟩
  · have hp : w.manager.activeProviderId = p := by rw [← (hbase.table.selected ha.1).1, hk]
    have hstopped : w.manager.beginStop.2 = some p := by
      simp [beginStop, hp, hslot, providerSlot_id hslot]
    exact Or.inr (Or.inr ⟨next, by rw [hstopped]; rfl⟩)
  · exact Or.inl hr
  · exact Or.inr (Or.inl hbusy)
  · rw [hlc] at hs
    cases hs

/-- During a stop or a start, what the provider holds is still on its way out. -/
lemma Inv.source_of_lifecycle {t : RemoteRouteTarget} (h : Inv p w) (hbase : Base w)
    (hlc : w.lifecycle ≠ none) (hl : w.live p = some t)
    (hne : ∀ next, w.lifecycle ≠ some (.stopping p next)) :
    .releasing p t ∈ w.pending ∨ Busy w.operations w.pending p := by
  rcases h.source hl with ⟨k, e, ha, -⟩ | hr | hbusy | ⟨next, hs⟩
  · have := ha.1
    simp [hbase.no_routes hlc] at this
  · exact Or.inl hr
  · exact Or.inr hbusy
  · exact absurd hs (hne next)

lemma Inv.stopped {q : Bytes} {next : Option Bytes} (h : Inv p w) (hbase : Base w)
    (hlc : w.lifecycle = some (.stopping q next)) (hfree : w.operations.lookup q = none) :
    Inv p { w with
      live := Function.update w.live q none
      lifecycle := next.map .selecting } := by
  have hlc' : w.lifecycle ≠ none := by simp [hlc]
  by_cases hqp : q = p
  · subst hqp
    refine h.of_no_routes (hbase.no_routes hlc') rfl
      (Or.inr ⟨Function.update_self .., hfree⟩) ?_
    intro t hl
    simp at hl
  · have hsame : Function.update w.live q none p = w.live p :=
      Function.update_of_ne (Ne.symm hqp) ..
    refine h.of_no_routes (hbase.no_routes hlc') rfl (Or.inl hsame) ?_
    intro t hl
    rw [hsame] at hl
    exact (h.source_of_lifecycle hbase hlc' hl (by simp [hlc, hqp])).imp_right Or.inl

lemma Inv.turns {lc : Option Lifecycle} (h : Inv p w) (hbase : Base w) (hlc : w.lifecycle ≠ none)
    (hne : ∀ next, w.lifecycle ≠ some (.stopping p next))
    (hm : m'.activeRoutes = w.manager.activeRoutes) (hp : m'.providers = w.manager.providers) :
    Inv p { w with manager := m', lifecycle := lc } := by
  refine h.of_no_routes (fun k => hm ▸ hbase.no_routes hlc k) hp (Or.inl rfl) ?_
  intro t hl
  exact (h.source_of_lifecycle hbase hlc hl hne).imp_right Or.inl

/-! ## The provider is called -/

/-- An activation reaches the provider.  Nothing that could touch its target is queued
before it, and nothing at all behind it while its entry is in the table. -/
lemma Inv.enter {i : ℕ} {q : Bytes} {t : RemoteRouteTarget} {e : EntryId}
    {r : List RemoteRouteTarget} {answer : Bool} (h : Inv p w)
    (hi : w.pending[i]? = some (.activating q t e r))
    (hord : q = p → ∀ c ∈ w.pending.take i, ¬ c.Activates p ∧ c ≠ .releasing p t) :
    Inv p { w with
      pending := w.pending.eraseIdx i
      live := Function.update w.live q (providerActivate answer t)
      operations := w.operations.insert q (.activated t e answer) } := by
  obtain ⟨pre, post, hp, he, htake⟩ := split_at hi
  have hmem : .activating q t e r ∈ w.pending := by simp [hp]
  have hsub : ∀ c ∈ w.pending.eraseIdx i, c ∈ w.pending := fun c => List.mem_of_mem_eraseIdx
  have hordered := h.ordered.sublist (List.eraseIdx_sublist w.pending i)
  by_cases hq : q = p
  · subst hq
    -- the provider itself is called: it is busy from the booking to the answer
    have hbusy : Busy w.operations w.pending q := Or.inl ⟨_, hmem, rfl⟩
    exact { h with
      active := fun ha hk => absurd hbusy (h.active ha hk).2.1
      ordered := hordered
      entered := fun {t' e' r'} ho hl c hc => by
        simp only [AList.lookup_insert, Option.some.injEq, Holder.activated.injEq] at ho
        obtain ⟨rfl, rfl, -⟩ := ho
        rw [he] at hc
        rcases List.mem_append.mp hc with hc | hc
        · exact hord rfl c (htake ▸ hc)
        · have hpw := h.ordered
          rw [hp] at hpw
          have hlater := (List.pairwise_cons.mp (List.pairwise_append.mp hpw).2.1).1 c hc
          obtain ⟨h1, h2⟩ := hlater t e r rfl hl
          exact ⟨h1, fun hce => h2 (by rw [hce]; rfl)⟩
      answered := fun {t' e' r'} ho => by
        simp only [AList.lookup_insert, Option.some.injEq, Holder.activated.injEq] at ho
        obtain ⟨rfl, -, rfl⟩ := ho
        exact Function.update_self ..
      undone := fun ho => by simp at ho
      source := fun _ => Or.inr (Or.inr (Or.inl (Or.inr (Or.inl ⟨t, e, answer, by simp⟩)))) }
  -- a call to another provider changes nothing that concerns this one
  · have hpq : p ≠ q := Ne.symm hq
    have hlive : Function.update w.live q (providerActivate answer t) p = w.live p :=
      Function.update_of_ne hpq ..
    have hops : (w.operations.insert q (.activated t e answer)).lookup p =
        w.operations.lookup p := AList.lookup_insert_ne hpq
    have hbusy : Busy (w.operations.insert q (.activated t e answer)) (w.pending.eraseIdx i) p ↔
        Busy w.operations w.pending p := by
      rw [he, hp]
      simp only [Busy, hops, List.mem_append, List.mem_cons]
      grind [Call.Activates]
    have hrel : ∀ t', .releasing p t' ∈ w.pending.eraseIdx i ↔ .releasing p t' ∈ w.pending := by
      rw [he, hp]
      simp
    exact { h with
      active := fun ha hk => by
        simpa only [hlive, hbusy, hrel] using h.active ha hk
      ordered := hordered
      entered := fun ho hl c hc => h.entered (hops ▸ ho) hl c (hsub c hc)
      answered := fun ho => hlive.trans (h.answered (hops ▸ ho))
      undone := fun ho => hlive.trans (h.undone (hops ▸ ho))
      source := fun hl => by
        have := h.source (hlive.symm.trans hl)
        simpa only [hbusy, hrel] using this }

/-- A release reaches the provider and clears the target, if it is still the one held. -/
lemma Inv.release {i : ℕ} {q : Bytes} {t : RemoteRouteTarget} (h : Inv p w)
    (hi : w.pending[i]? = some (.releasing q t)) (hfree : w.operations.lookup q = none) :
    Inv p { w with
      pending := w.pending.eraseIdx i
      live := Function.update w.live q (providerDeactivate (w.live q) t) } := by
  obtain ⟨pre, post, hp, he, -⟩ := split_at hi
  have hmem : .releasing q t ∈ w.pending := by simp [hp]
  have hsub : ∀ c ∈ w.pending.eraseIdx i, c ∈ w.pending := fun c => List.mem_of_mem_eraseIdx
  have hbusy : Busy w.operations (w.pending.eraseIdx i) p ↔ Busy w.operations w.pending p := by
    rw [he, hp]
    simp only [Busy, List.mem_append, List.mem_cons]
    grind [Call.Activates]
  -- the release clears its own target only
  have hlive : ∀ t', (q = p → t' ≠ t) →
      (Function.update w.live q (providerDeactivate (w.live q) t) p = some t' ↔
        w.live p = some t') := by
    intro t' hne
    by_cases hq : q = p
    · subst hq
      simp only [Function.update_self, providerDeactivate]
      grind
    · rw [Function.update_of_ne (Ne.symm hq)]
  have hheld : ∀ v, w.operations.lookup p = some v → q ≠ p := by
    rintro v hv rfl
    simp [hfree] at hv
  have hsame : ∀ v, w.operations.lookup p = some v →
      Function.update w.live q (providerDeactivate (w.live q) t) p = w.live p :=
    fun v hv => Function.update_of_ne (hheld v hv).symm ..
  exact { h with
    active := fun ha hk => by
      obtain ⟨h1, h2, h3⟩ := h.active ha hk
      refine ⟨(hlive _ ?_).mpr h1, fun hb => h2 (hbusy.mp hb), fun hm => h3 (hsub _ hm)⟩
      rintro rfl htt
      exact h3 (htt ▸ hmem)
    ordered := h.ordered.sublist (List.eraseIdx_sublist _ _)
    entered := fun ho hl c' hc' => h.entered ho hl c' (hsub c' hc')
    answered := fun ho => (hsame _ ho).trans (h.answered ho)
    undone := fun ho => (hsame _ ho).trans (h.undone ho)
    source := fun {t'} hl => by
      have hne : q = p → t' ≠ t := by
        rintro rfl rfl
        simp [providerDeactivate] at hl
      rcases h.source ((hlive t' hne).mp hl) with ha | hr | hb | hs
      · exact Or.inl ha
      · refine Or.inr (Or.inl ?_)
        rw [hp] at hr
        rw [he]
        simp only [List.mem_append, List.mem_cons, Call.releasing.injEq] at hr ⊢
        rcases hr with hr | ⟨rfl, rfl⟩ | hr
        · exact Or.inl hr
        · exact absurd rfl (hne rfl)
        · exact Or.inr hr
      · exact Or.inr (Or.inr (Or.inl (hbusy.mpr hb)))
      · exact Or.inr (Or.inr (Or.inr hs)) }

/-- Preparing a route is invisible. -/
lemma Inv.prepare_section {ops : AList fun _ : Bytes => Holder} (h : Inv p w)
    (hops : ∀ q v, (∀ g r, v ≠ .prepared g r) →
      (ops.lookup q = some v ↔ w.operations.lookup q = some v)) :
    Inv p { w with operations := ops } := by
  have hbusy : Busy ops w.pending p ↔ Busy w.operations w.pending p := by
    simp [Busy, hops]
  exact { h with
    active := fun ha hk => by simpa only [hbusy] using h.active ha hk
    entered := fun ho => h.entered ((hops _ _ (by simp)).mp ho)
    answered := fun ho => h.answered ((hops _ _ (by simp)).mp ho)
    undone := fun ho => h.undone ((hops _ _ (by simp)).mp ho)
    source := fun hl => by simpa only [hbusy] using h.source hl }

/-- An entry that the table still has becomes active: nothing is on its way to the provider
that could undo it. -/
lemma Inv.commit_active {q : Bytes} {t : RemoteRouteTarget} {e : EntryId} (h : Inv p w)
    (hbase : Base w)
    (ho : w.operations.lookup q = some (.activated t e true))
    (hsel : w.manager.activeProviderId = q)
    (hl : w.manager.activeRoutes.lookup (routeKey q t) = some e) :
    Inv p { w with
      manager := w.manager.setState e .active
      operations := w.operations.erase q } := by
  have hsh : Shrinks w.manager (w.manager.setState e .active) := shrinks_setEntry rfl
  obtain ⟨-, htarget, -⟩ := hbase.carried (Or.inr ⟨true, ho⟩)
  have hops : ∀ q' v, (w.operations.erase q).lookup q' = some v →
      q' ≠ q ∧ w.operations.lookup q' = some v := fun q' v => AList.lookup_erase_some.mp
  have hstay : ∀ k e', w.manager.Active k e' → (w.manager.setState e .active).Active k e' := by
    rintro k e' ⟨hk, hs⟩
    refine ⟨hk, ?_⟩
    by_cases he : e' = e
    · simp [he, setState]
    · rwa [setState_heap_of_ne he]
  exact {
    slot := h.slot
    single := h.single
    active := fun {k e'} ha hk => by
      rw [hsh.target]
      have hkl : w.manager.activeRoutes.lookup k = some e' := ha.1
      have hqp : q = p := by rw [← hsel, ← (hbase.table.selected hkl).1, hk]
      subst hqp
      obtain rfl : k = routeKey q t := h.single hkl hl hsel
      obtain rfl : e' = e := Option.some.inj (hkl.symm.trans hl)
      -- the entry was in the table all along, so nothing was queued against its target
      have hfree := h.entered ho hl
      rw [htarget]
      refine ⟨h.answered ho, ?_, fun hm => (hfree _ hm).2 rfl⟩
      rintro (⟨c, hc, hact⟩ | ⟨t', e'', r', hv⟩ | ⟨t', hv⟩)
      · exact (hfree c hc).1 hact
      · exact (hops _ _ hv).1 rfl
      · exact (hops _ _ hv).1 rfl
    ordered := h.ordered
    entered := fun ho' => h.entered (hops _ _ ho').2
    answered := fun ho' => h.answered (hops _ _ ho').2
    undone := fun ho' => h.undone (hops _ _ ho').2
    source := fun {t'} hlive => by
      by_cases hqp : q = p
      · subst hqp
        obtain rfl : t = t' := Option.some.inj ((h.answered ho).symm.trans hlive)
        exact Or.inl ⟨routeKey q t, e, ⟨hl, by simp [setState]⟩, rfl, by rw [hsh.target, htarget]⟩
      · rcases h.source hlive with ⟨k, e', ha, hk, ht⟩ | hr | hb | hs
        · exact Or.inl ⟨k, e', hstay k e' ha, hk, by rw [hsh.target, ht]⟩
        · exact Or.inr (Or.inl hr)
        · have hbusy := busy_congr (l := w.pending) (w.operations.lookup_erase_ne (Ne.symm hqp))
          exact Or.inr (Or.inr (Or.inl (hbusy.mpr hb)))
        · exact Or.inr (Or.inr (Or.inr hs)) }

/-- An entry that is refused or no longer in the table fails, and an activation that took
place is left to be undone. -/
lemma Inv.commit_failed {q : Bytes} {t : RemoteRouteTarget} {e : EntryId} {r : Bool}
    (h : Inv p w) (hbase : Base w) (ho : w.operations.lookup q = some (.activated t e r))
    (hsh : Shrinks w.manager m') (hheap : m'.heap = (w.manager.setState e .failed).heap)
    (hlook : ∀ k e', m'.activeRoutes.lookup k = some e' ↔
      w.manager.activeRoutes.lookup k = some e' ∧ ¬ (k = routeKey q t ∧ e' = e)) :
    Inv p { w with
      manager := m'
      operations := if r then w.operations.insert q (.undoing t) else w.operations.erase q } := by
  have hown : ∀ q', q' ≠ q → (if r then w.operations.insert q (.undoing t)
      else w.operations.erase q).lookup q' = w.operations.lookup q' := by
    intro q' hq
    split_ifs
    · rw [AList.lookup_insert_ne hq]
    · rw [AList.lookup_erase_ne hq]
  have hops : ∀ q' t' e' r', (if r then w.operations.insert q (.undoing t)
      else w.operations.erase q).lookup q' = some (.activated t' e' r') →
      q' ≠ q ∧ w.operations.lookup q' = some (.activated t' e' r') := by
    intro q' t' e' r' hv
    by_cases hq : q' = q
    · subst hq
      split_ifs at hv <;> simp at hv
    · exact ⟨hq, (hown q' hq).symm.trans hv⟩
  have hbusyq : Busy w.operations w.pending q := Or.inr (Or.inl ⟨t, e, r, ho⟩)
  -- the failing entry was not active before, and no other one changes
  have hactive : ∀ k e', m'.Active k e' → w.manager.Active k e' := by
    rintro k e' ⟨hk, hs⟩
    refine ⟨((hlook k e').mp hk).1, ?_⟩
    rw [hheap] at hs
    by_cases he : e' = e
    · simp [he, setState] at hs
    · rwa [setState_heap_of_ne he] at hs
  exact {
    slot := by simpa only [Manager.providerSlot, hsh.providers] using h.slot
    single := fun hl hl' hp => h.single (hsh.lookup hl) (hsh.lookup hl') (hsh.selected ▸ hp)
    active := fun {k e'} ha hk => by
      rw [hsh.target]
      obtain ⟨h1, h2, h3⟩ := h.active (hactive k e' ha) hk
      refine ⟨h1, fun hb => h2 ((busy_congr (hown p ?_)).mp hb), h3⟩
      rintro rfl
      exact h2 hbusyq
    ordered := h.ordered.imp fun hc t' e' r' hc₁ hl => hc t' e' r' hc₁ (hsh.lookup hl)
    entered := fun ho' hl => h.entered (hops _ _ _ _ ho').2 (hsh.lookup hl)
    answered := fun ho' => h.answered (hops _ _ _ _ ho').2
    undone := fun {t'} ho' => by
      by_cases hqp : p = q
      · subst hqp
        cases r with
        | false => simp at ho'
        | true =>
          obtain rfl : t = t' := by simpa using ho'
          exact h.answered ho
      · exact h.undone ((hown p hqp).symm.trans ho')
    source := fun {t'} hlive => by
      by_cases hqp : p = q
      · subst hqp
        have hans := (h.answered ho).symm.trans hlive
        cases r with
        | false => cases hans
        | true => exact Or.inr (Or.inr (Or.inl (Or.inr (Or.inr ⟨t, by simp⟩))))
      · rcases h.source hlive with ⟨k, e', ha, hk, ht⟩ | hr | hb | hs
        · have hkq : k ≠ routeKey q t := by
            rintro rfl
            exact hqp hk.symm
          -- a route of this provider has another entry than the one that failed
          have hne : e' ≠ e := by
            rintro rfl
            exact hkq ((hbase.carried (Or.inr ⟨r, ho⟩)).2.2 k ha.1)
          refine Or.inl ⟨k, e', ⟨(hlook k e').mpr ⟨ha.1, fun hc => hkq hc.1⟩, ?_⟩, hk, ?_⟩
          · rw [hheap, setState_heap_of_ne hne]
            exact ha.2
          · rw [hsh.target, ht]
        · exact Or.inr (Or.inl hr)
        · exact Or.inr (Or.inr (Or.inl ((busy_congr (hown p hqp)).mpr hb)))
        · exact Or.inr (Or.inr (Or.inr hs)) }

/-- The stale activation is undone. -/
lemma Inv.undo {q : Bytes} {t : RemoteRouteTarget} (h : Inv p w)
    (ho : w.operations.lookup q = some (.undoing t)) :
    Inv p { w with
      live := Function.update w.live q (providerDeactivate (w.live q) t)
      operations := w.operations.erase q } := by
  have hown : ∀ q' v, (w.operations.erase q).lookup q' = some v →
      q' ≠ q ∧ w.operations.lookup q' = some v := fun q' v => AList.lookup_erase_some.mp
  have hlive : ∀ q' v, (w.operations.erase q).lookup q' = some v →
      Function.update w.live q (providerDeactivate (w.live q) t) q' = w.live q' :=
    fun q' v hv => Function.update_of_ne (hown q' v hv).1 ..
  have hbusy : p ≠ q →
      (Busy (w.operations.erase q) w.pending p ↔ Busy w.operations w.pending p) :=
    fun hp => busy_congr (AList.lookup_erase_ne hp)
  exact { h with
    active := fun {k e'} ha hk => by
      obtain ⟨h1, h2, h3⟩ := h.active ha hk
      have hpq : p ≠ q := by
        rintro rfl
        exact h2 (Or.inr (Or.inr ⟨t, ho⟩))
      exact ⟨(Function.update_of_ne hpq ..).trans h1, fun hb => h2 ((hbusy hpq).mp hb), h3⟩
    entered := fun ho' => h.entered (hown _ _ ho').2
    answered := fun ho' => (hlive _ _ ho').trans (h.answered (hown _ _ ho').2)
    undone := fun ho' => (hlive _ _ ho').trans (h.undone (hown _ _ ho').2)
    source := fun {t'} hl => by
      by_cases hpq : p = q
      · subst hpq
        simp [providerDeactivate, h.undone ho] at hl
      · have hl' : w.live p = some t' := (Function.update_of_ne hpq ..).symm.trans hl
        rcases h.source hl' with ha | hr | hb | hs
        · exact Or.inl ha
        · exact Or.inr (Or.inl hr)
        · exact Or.inr (Or.inr (Or.inl ((hbusy hpq).mpr hb)))
        · exact Or.inr (Or.inr (Or.inr hs)) }

/-! ## Every step -/

theorem Inv.step {a : Action} {reply : Reply} (h : Inv p w) (hbase : Base w)
    (hok : w.InBookingOrder p a) (hm : Moves w a w' reply) : Inv p w' := by
  cases hm with
  | idles => exact h
  | counts _ hc => exact h.count hc
  | waits => exact h.append (by simp [Call.Activates]) (by simp [Call.Releases])
  | books hb => exact h.activate_proceeds hbase hb
  | asks => exact h.append (by simp [Call.Activates]) (by simp [Call.Releases])
  | decrements => exact h.setEntry rfl rfl
  | erases hf ha _ ht => exact h.deactivate_erases hbase ha (findRouteLocked_some hf).2.1 ht
  | leaves hi => exact h.remove hi (by simp [Call.Activates]) (by simp [Call.Releases])
  | resumes hi hc =>
    exact (h.remove hi (by simp [Call.Activates]) (by simp [Call.Releases])).count hc
  | enters hi =>
    refine h.enter hi ?_
    rintro rfl
    exact hok _ _ _ hi
  | releases hi hfree => exact h.release hi hfree
  | prepares hi hfree =>
    have hrem := h.remove hi (by simp [Call.Activates]) (by simp [Call.Releases])
    refine hrem.prepare_section fun q' v hv => ?_
    grind [AList.lookup_insert, AList.lookup_insert_ne]
  | commits ho hs hl => exact h.commit_active hbase ho hs hl
  | fails ho hsh hheap hl => exact h.commit_failed hbase ho hsh hheap hl
  | undoes ho => exact h.undo ho
  | answers ho =>
    refine h.prepare_section fun q' v hv => ?_
    grind [AList.lookup_erase, AList.lookup_erase_ne]
  | stops hlc => exact h.stops hbase hlc
  | stopped hlc hfree => exact h.stopped hbase hlc hfree
  | selects hlc => exact h.turns hbase (by simp [hlc]) (by simp [hlc]) rfl rfl
  | starts hlc => exact h.turns hbase (by simp [hlc]) (by simp [hlc]) rfl rfl

lemma Inv.initial {providers : List Provider}
    (hp : ∃ s, (Manager.initial providers).providerSlot p = some s ∧ s.routesAreExclusive) :
    Inv p (World.initial providers) where
  slot := hp
  single := by simp [World.initial, Manager.initial]
  active ha := by simpa [World.initial, Manager.initial] using ha.1
  ordered := List.Pairwise.nil
  entered := by simp [World.initial]
  answered := by simp [World.initial]
  undone := by simp [World.initial]
  source := by simp [World.initial]

/-- With nothing in flight the invariant is the agreement. -/
lemma Inv.agrees (h : Inv p w) (hbase : Base w) (hq : w.Quiet) : w.Agrees p := by
  obtain ⟨hops, hpend, hlc⟩ := hq
  have hnone : ∀ q, w.operations.lookup q = none := by
    intro q
    rw [AList.lookup_eq_none, AList.mem_keys, AList.keys, hops]
    exact List.not_mem_nil
  intro key target hkey
  constructor
  · rintro ⟨e, ha, rfl⟩
    have hk := hbase.table.keyed ha.1
    rw [← (hbase.table.selected ha.1).1, hkey] at hk
    exact ⟨(h.active ha hkey).1, hk⟩
  · rintro ⟨hlive, rfl⟩
    rcases h.source hlive with ⟨k, e, ha, hk, ht⟩ | hr | (⟨c, hc, -⟩ | ⟨_, _, _, hv⟩ | ⟨_, hv⟩) |
      ⟨next, hs⟩
    · have hkk := hbase.table.keyed ha.1
      rw [← (hbase.table.selected ha.1).1, hk, ht] at hkk
      exact ⟨e, hkk ▸ ha, ht⟩
    · simp [hpend] at hr
    · simp [hpend] at hc
    · simp [hnone] at hv
    · simp [hnone] at hv
    · simp [hlc] at hs

/-- Whatever the threads do, as long as no activation overtakes what it must not, the table
and the exclusive provider agree whenever nothing is in flight. -/
theorem agrees_of_inBookingOrder (providers : List Provider) (p : Bytes) (w : World)
    (hp : ∃ s, (Manager.initial providers).providerSlot p = some s ∧ s.routesAreExclusive)
    (hrun : Run World.step (InBookingOrder p) (World.initial providers) w) (hq : w.Quiet) :
    w.Agrees p := by
  have hinv : Base w ∧ Inv p w := by
    refine hrun.invariant (I := fun w => Base w ∧ Inv p w)
      ⟨Base.initial providers, Inv.initial hp⟩ ?_
    rintro t a u ⟨hbase, h⟩ hok hstep
    obtain ⟨⟨u, reply⟩, htr, rfl⟩ := Option.map_eq_some_iff.mp hstep
    have hm := moves_of_transition htr
    exact ⟨hbase.step hm, h.step hbase hok hm⟩
  exact hinv.2.agrees hinv.1 hq

def activated : World :=
  (exec World.step (World.initial [tailscale]) selectAndActivate).get (by decide)

theorem agrees_after_one_activation :
    activated.live tailscale.id = some desktop ∧ activated.Agrees tailscale.id := by
  have hrun : Run World.step (InBookingOrder tailscale.id) (World.initial [tailscale]) activated :=
    .of_exec (Option.some_get _).symm (by simp [selectAndActivate, InBookingOrder])
  exact ⟨rfl, agrees_of_inBookingOrder [tailscale] tailscale.id activated ⟨tailscale, rfl, rfl⟩
    hrun (by decide)⟩

/-- The last reference is released; before the release reaches the provider, the same route is
activated again. -/
def releaseOvertaken : List Action :=
  selectAndActivate ++
    [.deactivate tailscale.id desktop.peerId desktop.targetAddress (routeKey tailscale.id desktop),
      .activate tailscale.id desktop, .proceed 1 true, .finish tailscale.id, .proceed 0 true]

/-- The provider's route is gone and the table has it active. -/
theorem active_after_overtaken_release :
    ∃ w, Run World.step (fun _ _ => True) (World.initial [tailscale]) w ∧ w.Quiet ∧
      (∃ entry, w.manager.Active (routeKey tailscale.id desktop) entry) ∧
      w.live tailscale.id = none := by
  refine ⟨(exec World.step (World.initial [tailscale]) releaseOvertaken).get (by decide),
    Run.of_exec (Option.some_get _).symm (by simp), by decide, ⟨1, by decide, by decide⟩, by decide⟩

end World
end ArtemisSwitch.RemoteAccess

import ArtemisSwitch.RouteWorld

/-!
# The route table in every run

What the manager's sections keep, whatever the providers answer and however the
calls interleave: the table holds routes of the active provider only, each under
the key of its own target.
-/

namespace ArtemisSwitch.RemoteAccess
open Runs Manager

/-- The call is an `activateRoute` on its way to the provider. -/
def Call.Activates (providerId : Bytes) : Call → Prop
  | .activating id .. => id = providerId
  | _ => False

namespace World

/-- The call that will decide about this entry. -/
def Carries (operations : AList fun _ : Bytes => Holder) (pending : List Call) (p : Bytes)
    (target : RemoteRouteTarget) (entry : EntryId) : Prop :=
  (∃ retired, .activating p target entry retired ∈ pending) ∨
    ∃ result, operations.lookup p = some (.activated target entry result)

/-- The table by itself. -/
structure TableInv (m : Manager) : Prop where
  selected : ∀ {k e}, m.activeRoutes.lookup k = some e →
    k.providerId = m.activeProviderId ∧ m.activeProviderId ≠ []
  keyed : ∀ {k e}, m.activeRoutes.lookup k = some e →
    routeKey m.activeProviderId (m.heap e).target = k
  allocated : ∀ {k e}, m.activeRoutes.lookup k = some e → e < m.nextEntry

/-- What holds between any two sections. -/
structure Base (w : World) : Prop where
  table : TableInv w.manager
  stopped : w.lifecycle ≠ none → w.manager.activeProviderId = []
  carried : ∀ {q t e}, Carries w.operations w.pending q t e → e < w.manager.nextEntry ∧
    (w.manager.heap e).target = t ∧
      ∀ k, w.manager.activeRoutes.lookup k = some e → k = routeKey q t

/-! ## Sections that only lose routes -/

/-- The table loses routes, at most, and keeps what it knows of the targets. -/
structure Shrinks (m m' : Manager) : Prop where
  providers : m'.providers = m.providers
  selected : m'.activeProviderId = m.activeProviderId
  next : m'.nextEntry = m.nextEntry
  lookup : ∀ {k e}, m'.activeRoutes.lookup k = some e → m.activeRoutes.lookup k = some e
  target : ∀ e, (m'.heap e).target = (m.heap e).target

variable {m m' : Manager} {w w' : World} {p : Bytes}

lemma Shrinks.refl (m : Manager) : Shrinks m m := ⟨rfl, rfl, rfl, id, fun _ => rfl⟩

lemma Shrinks.table (h : Shrinks m m') (ht : TableInv m) : TableInv m' where
  selected hl := by
    rw [h.selected]
    exact ht.selected (h.lookup hl)
  keyed hl := by
    rw [h.selected, h.target]
    exact ht.keyed (h.lookup hl)
  allocated hl := by
    rw [h.next]
    exact ht.allocated (h.lookup hl)

lemma shrinks_setEntry {e : EntryId} {v : RouteEntry} (hv : v.target = (m.heap e).target) :
    Shrinks m (m.setEntry e v) where
  providers := rfl
  selected := rfl
  next := rfl
  lookup := id
  target e' := by
    by_cases h : e' = e
    · subst h
      simp [hv]
    · rw [setEntry_heap_of_ne h]

lemma shrinks_erase (k : RouteKey) :
    Shrinks m { m with activeRoutes := m.activeRoutes.erase k } where
  providers := rfl
  selected := rfl
  next := rfl
  lookup hl := (AList.lookup_erase_some.mp hl).2
  target _ := rfl

lemma shrinks_countReference {e : EntryId} (h : m.countReference e = some m') : Shrinks m m' := by
  obtain ⟨-, -, rfl⟩ := countReference_some h
  exact shrinks_setEntry rfl

lemma shrinks_commitActivate {t : RemoteRouteTarget} {e : EntryId} {r : Bool} :
    Shrinks m (m.commitActivate p t e r).1 := by
  have hset (s : RouteState) : Shrinks m (m.setState e s) := shrinks_setEntry rfl
  simp only [commitActivate]
  split_ifs
  · exact ⟨rfl, rfl, rfl, fun hl => (AList.lookup_erase_some.mp hl).2, (hset _).target⟩
  · exact hset _
  · exact hset _

/-! ## Calls that come and go -/

lemma split_at {α : Type*} {l : List α} {i : ℕ} {a : α} (h : l[i]? = some a) :
    ∃ pre post, l = pre ++ a :: post ∧ l.eraseIdx i = pre ++ post ∧ l.take i = pre := by
  obtain ⟨hi, rfl⟩ := List.getElem?_eq_some_iff.mp h
  exact ⟨l.take i, l.drop (i + 1), by simp, List.eraseIdx_eq_take_drop_succ .., rfl⟩

lemma Carries.mono {operations : AList fun _ : Bytes => Holder} {l l' : List Call}
    {t : RemoteRouteTarget} {e : EntryId} (hl : ∀ c ∈ l, c ∈ l')
    (h : Carries operations l p t e) : Carries operations l' p t e := by
  rcases h with ⟨r, hr⟩ | h
  · exact Or.inl ⟨r, hl _ hr⟩
  · exact Or.inr h

lemma Carries.enter {operations : AList fun _ : Bytes => Holder} {l l' : List Call}
    {q q' : Bytes} {t t' : RemoteRouteTarget} {e e' : EntryId} {r : List RemoteRouteTarget}
    {answer : Bool} (hl : ∀ c ∈ l', c ∈ l) (hc : .activating q t e r ∈ l)
    (h : Carries (operations.insert q (.activated t e answer)) l' q' t' e') :
    Carries operations l q' t' e' := by
  rcases h with ⟨r', hr'⟩ | ⟨result, hr⟩
  · exact Or.inl ⟨r', hl _ hr'⟩
  · by_cases hq : q' = q
    · subst hq
      simp only [AList.lookup_insert, Option.some.injEq, Holder.activated.injEq] at hr
      obtain ⟨rfl, rfl, -⟩ := hr
      exact Or.inl ⟨r, hc⟩
    · rw [AList.lookup_insert_ne hq] at hr
      exact Or.inr ⟨result, hr⟩

lemma Carries.erase {operations : AList fun _ : Bytes => Holder} {l : List Call} {q q' : Bytes}
    {t : RemoteRouteTarget} {e : EntryId} (h : Carries (operations.erase q) l q' t e) :
    Carries operations l q' t e := by
  rcases h with h | ⟨r, hr⟩
  · exact Or.inl h
  · by_cases hq : q' = q
    · subst hq
      simp at hr
    · rw [AList.lookup_erase_ne hq] at hr
      exact Or.inr ⟨r, hr⟩

/-! ## activateRoute books an entry -/

/-- `m'` is `m` with a new entry for `target`, alone if the provider is exclusive. -/
structure Books (m m' : Manager) (slot : Provider) (target : RemoteRouteTarget) : Prop where
  providers : m'.providers = m.providers
  selected : m'.activeProviderId = m.activeProviderId
  next : m'.nextEntry = m.nextEntry + 1
  lookup : ∀ {k e}, m'.activeRoutes.lookup k = some e →
    (k = routeKey slot.id target ∧ e = m.nextEntry) ∨
      (k.providerId = slot.id → slot.routesAreExclusive = false) ∧
        m.activeRoutes.lookup k = some e
  new_target : (m'.heap m.nextEntry).target = target
  new_state : (m'.heap m.nextEntry).state ≠ .active
  new_references : (m'.heap m.nextEntry).references = 1
  target : ∀ e < m.nextEntry, (m'.heap e).target = (m.heap e).target
  shared : slot.routesAreExclusive = false → ∀ e < m.nextEntry, m'.heap e = m.heap e

lemma books_of_proceeds {q : Bytes} {t : RemoteRouteTarget} {e : EntryId}
    {r : List RemoteRouteTarget} (hb : m.beginActivate q t = .proceeds e r m') :
    ∃ slot, m.providerSlot q = some slot ∧ slot.id = q ∧
      m.activeProviderId = q ∧ e = m.nextEntry ∧ Books m m' slot t := by
  obtain ⟨slot, hslot, hsel, -, he, hm⟩ := beginActivate_proceeds hb
  have hid := providerSlot_id hslot
  refine ⟨slot, hslot, hid, hsel, he, ?_⟩
  subst hid
  have hlt : ∀ e < m.nextEntry, (m.emplaceRoute (routeKey slot.id t) t).heap e = m.heap e :=
    fun e he => emplaceRoute_heap_of_lt he
  cases hx : slot.routesAreExclusive with
  | false =>
    rw [hx, if_neg (by simp)] at hm
    subst hm
    exact {
      providers := rfl
      selected := rfl
      next := rfl
      lookup := fun hl => by
        rcases lookup_emplaceRoute.mp hl with h | ⟨-, h⟩
        · exact Or.inl h
        · exact Or.inr ⟨fun _ => hx, h⟩
      new_target := by simp
      new_state := by simp
      new_references := by simp
      target := fun e he => by rw [hlt e he]
      shared := fun _ => hlt }
  | true =>
    rw [hx, if_pos rfl] at hm
    subst hm
    exact {
      providers := rfl
      selected := rfl
      next := rfl
      lookup := fun {k e'} hl => by
        obtain ⟨hr, hl⟩ := lookup_dropRoutes.mp hl
        rcases lookup_emplaceRoute.mp hl with h | ⟨hk, h⟩
        · exact Or.inl h
        · refine Or.inr ⟨fun hid => ?_, h⟩
          -- an exclusive provider keeps no other route of its own
          have hrep : replacedBy (routeKey slot.id t) k = true := decide_eq_true ⟨hid, hk⟩
          rw [hr] at hrep
          cases hrep
      new_target := by simp
      new_state := fun hs => by simpa using dropRoutes_active hs
      new_references := by simp
      target := fun e he => by rw [dropRoutes_target, hlt e he]
      shared := fun hf => by simp [hx] at hf }

lemma Books.table {slot : Provider} {t : RemoteRouteTarget} (h : Books m m' slot t)
    (hsel : m.activeProviderId = slot.id) (ht : TableInv m) : TableInv m' where
  selected hl := by
    rw [h.selected]
    rcases h.lookup hl with ⟨rfl, -⟩ | ⟨-, hl⟩
    · exact ⟨hsel.symm, hsel ▸ slot.id_ne_nil⟩
    · exact ht.selected hl
  keyed hl := by
    rw [h.selected]
    rcases h.lookup hl with ⟨rfl, rfl⟩ | ⟨-, hl⟩
    · rw [h.new_target, hsel]
    · rw [h.target _ (ht.allocated hl)]
      exact ht.keyed hl
  allocated hl := by
    rw [h.next]
    rcases h.lookup hl with ⟨-, rfl⟩ | ⟨-, hl⟩
    · exact Nat.lt_succ_self _
    · exact Nat.lt_succ_of_lt (ht.allocated hl)

lemma carries_append {operations : AList fun _ : Bytes => Holder} {l : List Call} {q q' : Bytes}
    {t t' : RemoteRouteTarget} {e e' : EntryId} {r : List RemoteRouteTarget} :
    Carries operations (l ++ [.activating q t e r]) q' t' e' →
      Carries operations l q' t' e' ∨ (q' = q ∧ t' = t ∧ e' = e) := by
  rintro (⟨r', hr'⟩ | h)
  · rcases List.mem_append.mp hr' with hr' | hr'
    · exact Or.inl (Or.inl ⟨r', hr'⟩)
    · simp only [List.mem_singleton, Call.activating.injEq] at hr'
      exact Or.inr ⟨hr'.1, hr'.2.1, hr'.2.2.1⟩
  · exact Or.inl (Or.inr h)

/-- After its first section the table is empty. -/
lemma lookup_beginStop (ht : TableInv m) (k : RouteKey) :
    m.beginStop.1.activeRoutes.lookup k = none := by
  rw [Option.eq_none_iff_forall_not_mem]
  intro e he
  obtain ⟨hk, hl⟩ := lookup_dropRoutes.mp he
  simp [(ht.selected hl).1] at hk

/-! ## What a step can do -/

/-- Every step of the world, by what it changes. -/
inductive Moves (w : World) : Action → World → Reply → Prop
  | idles {a reply} (hr : ∀ k e, reply ≠ .counted k e) : Moves w a w reply
  | counts {q t e m} (hl : w.manager.activeRoutes.lookup (routeKey q t) = some e)
      (hc : w.manager.countReference e = some m) :
      Moves w (.activate q t) { w with manager := m } (.counted (routeKey q t) e)
  | waits {q t e} (hl : w.manager.activeRoutes.lookup (routeKey q t) = some e) :
      Moves w (.activate q t) { w with pending := w.pending ++ [.waiting (routeKey q t) e] }
        .inFlight
  | books {q t e r m} (hb : w.manager.beginActivate q t = .proceeds e r m) :
      Moves w (.activate q t)
        { w with manager := m, pending := w.pending ++ [.activating q t e r] } .inFlight
  | asks {q peerId targetAddress hint t g} :
      Moves w (.prepare q peerId targetAddress hint)
        { w with pending := w.pending ++ [.preparing q t g] } .inFlight
  | decrements {q peerId targetAddress hint e n} :
      Moves w (.deactivate q peerId targetAddress hint)
        { w with manager := w.manager.setEntry e { w.manager.heap e with references := n } } .done
  | erases {q peerId targetAddress hint k e told reply}
      (hf : w.manager.findRouteLocked q peerId targetAddress hint = some (k, e))
      (ha : w.manager.Active k e) (hr : (w.manager.heap e).references ≤ 1)
      (ht : told = if w.manager.activeProviderId = q ∧ (w.manager.providerSlot q).isSome then
        [.releasing q (w.manager.heap e).target] else [])
      (hn : ∀ k e, reply ≠ .counted k e) :
      Moves w (.deactivate q peerId targetAddress hint)
        { w with
          manager := { w.manager with activeRoutes := w.manager.activeRoutes.erase k }
          pending := w.pending ++ told } reply
  | leaves {i answer k e} (hi : w.pending[i]? = some (.waiting k e)) :
      Moves w (.proceed i answer) { w with pending := w.pending.eraseIdx i } .refused
  | resumes {i answer k e m} (hi : w.pending[i]? = some (.waiting k e))
      (hc : w.manager.countReference e = some m) :
      Moves w (.proceed i answer) { w with manager := m, pending := w.pending.eraseIdx i }
        (.counted k e)
  | enters {i answer q t e r} (hi : w.pending[i]? = some (.activating q t e r)) :
      Moves w (.proceed i answer)
        { w with
          pending := w.pending.eraseIdx i
          live := Function.update w.live q (providerActivate answer t)
          operations := w.operations.insert q (.activated t e answer) } .inFlight
  | releases {i answer q t} (hi : w.pending[i]? = some (.releasing q t))
      (hfree : w.operations.lookup q = none) :
      Moves w (.proceed i answer)
        { w with
          pending := w.pending.eraseIdx i
          live := Function.update w.live q (providerDeactivate (w.live q) t) } .done
  | prepares {i answer q t g} (hi : w.pending[i]? = some (.preparing q t g))
      (hfree : w.operations.lookup q = none) :
      Moves w (.proceed i answer)
        { w with
          pending := w.pending.eraseIdx i
          operations := w.operations.insert q (.prepared g answer) } .inFlight
  | commits {q t e} (ho : w.operations.lookup q = some (.activated t e true))
      (hs : w.manager.activeProviderId = q)
      (hl : w.manager.activeRoutes.lookup (routeKey q t) = some e) :
      Moves w (.finish q)
        { w with
          manager := w.manager.setState e .active
          operations := w.operations.erase q } (.activated (routeKey q t) e)
  | fails {q t e r m reply} (ho : w.operations.lookup q = some (.activated t e r))
      (hsh : Shrinks w.manager m) (hheap : m.heap = (w.manager.setState e .failed).heap)
      (hl : ∀ k e', m.activeRoutes.lookup k = some e' ↔
        w.manager.activeRoutes.lookup k = some e' ∧ ¬ (k = routeKey q t ∧ e' = e))
      (hn : ∀ k e, reply ≠ .counted k e) :
      Moves w (.finish q)
        { w with
          manager := m
          operations := if r then w.operations.insert q (.undoing t) else w.operations.erase q }
        reply
  | undoes {q t} (ho : w.operations.lookup q = some (.undoing t)) :
      Moves w (.finish q)
        { w with
          live := Function.update w.live q (providerDeactivate (w.live q) t)
          operations := w.operations.erase q } .refused
  | answers {q g r ok} (ho : w.operations.lookup q = some (.prepared g r)) :
      Moves w (.finish q) { w with operations := w.operations.erase q } (.prepared ok)
  | stops {a next reply} (hlc : w.lifecycle = none) (hn : ∀ k e, reply ≠ .counted k e) :
      Moves w a
        { w with
          manager := w.manager.beginStop.1
          lifecycle := afterBeginStop next w.manager.beginStop.2 } reply
  | stopped {answer q next} (hlc : w.lifecycle = some (.stopping q next))
      (hfree : w.operations.lookup q = none) :
      Moves w (.turn answer)
        { w with
          live := Function.update w.live q none
          lifecycle := next.map .selecting } .done
  | selects {answer id lc reply} (hlc : w.lifecycle = some (.selecting id))
      (hn : ∀ k e, reply ≠ .counted k e) :
      Moves w (.turn answer) { w with lifecycle := lc } reply
  | starts {answer result} (hlc : w.lifecycle = some (.started result)) :
      Moves w (.turn answer)
        { w with manager := w.manager.setStarted result.providerId, lifecycle := none }
        (.selected result)

variable {a : Action} {reply : Reply}

lemma moves_deactivate (w : World) (q peerId targetAddress : Bytes) (hint : RouteKey) :
    Moves w (.deactivate q peerId targetAddress hint) (w.deactivate q peerId targetAddress hint).1
      (w.deactivate q peerId targetAddress hint).2 := by
  unfold deactivate
  rcases beginDeactivate_cases w.manager q peerId targetAddress hint with
    ⟨-, heq⟩ | ⟨key, e, hfind, hst, ⟨-, heq⟩ | ⟨hr, heq⟩⟩
  · rw [heq]
    exact .idles (by simp)
  · rw [heq]
    exact .decrements
  · have herases := fun reply => @Moves.erases w q peerId targetAddress hint key e _ reply hfind
      ⟨(findRouteLocked_some hfind).1, hst⟩ hr rfl
    rw [heq]
    split_ifs at herases ⊢
    · exact herases .inFlight (by simp)
    · simpa using herases .done (by simp)

lemma moves_proceed {i : ℕ} {answer : Bool} (h : w.proceed i answer = some (w', reply)) :
    Moves w (.proceed i answer) w' reply := by
  unfold proceed at h
  split at h
  · cases h
  rename_i call hi
  cases call with
  | waiting key e =>
    simp only [continueCall] at h
    split_ifs at h
    split at h
    · cases h
      exact .leaves hi
    · cases h
      exact .resumes hi ‹_›
  | activating q t e r =>
    simp only [continueCall] at h
    split_ifs at h
    cases h
    exact .enters hi
  | releasing q t =>
    simp only [continueCall] at h
    split_ifs at h with hfree
    cases h
    exact .releases hi (AList.lookup_eq_none.mpr hfree)
  | preparing q t g =>
    simp only [continueCall] at h
    split_ifs at h with hfree
    cases h
    exact .prepares hi (AList.lookup_eq_none.mpr hfree)

lemma moves_finish {q : Bytes} (h : w.finish q = some (w', reply)) :
    Moves w (.finish q) w' reply := by
  unfold finish at h
  split at h
  · cases h
  · rename_i t e r ho
    rcases commitActivate_cases w.manager q t e r with
      ⟨rfl, hsel, -, hl, heq⟩ | ⟨hstale, hheap, hlook⟩
    · rw [heq] at h
      cases h
      exact .commits ho hsel hl
    -- the answer was false, or the entry is stale: either way the entry fails
    · have hfails := fun reply => @Moves.fails w q t e r _ reply ho
        shrinks_commitActivate hheap hlook
      split at h
      all_goals
        rename_i m hm
        rw [hm] at hstale hfails
        subst hstale
        cases h
        exact hfails _ (by simp)
  · cases h
    exact .undoes ‹_›
  · cases h
    exact .answers ‹_›

lemma moves_turn {answer : Startup} (h : w.turn answer = some (w', reply)) :
    Moves w (.turn answer) w' reply := by
  unfold turn at h
  split at h
  · cases h
  · split_ifs at h with hfree
    cases h
    exact .stopped ‹_› (AList.lookup_eq_none.mpr hfree)
  · rename_i id hid
    have hstay : ∃ lc, w' = { w with lifecycle := lc } ∧ ∀ k e, reply ≠ .counted k e := by grind
    obtain ⟨lc, rfl, hn⟩ := hstay
    exact .selects hid hn
  · cases h
    exact .starts ‹_›

theorem moves_of_transition (h : w.transition a = some (w', reply)) : Moves w a w' reply := by
  have hstop : ∀ {next}, w.stop next = some (w', reply) → Moves w a w' reply := by
    intro next h
    unfold stop at h
    split_ifs at h with hlc
    cases h
    refine .stops (by simpa using hlc) ?_
    intro k e
    split_ifs <;> simp
  cases a with
  | activate q t =>
    simp only [transition, activate, Option.some.injEq] at h
    split at h
    · cases h
      exact .idles (by simp)
    · rename_i e m hb
      cases h
      obtain ⟨hl, hc⟩ := beginActivate_counted hb
      exact .counts hl hc
    · rename_i e hb
      cases h
      exact .waits (beginActivate_waits hb).1
    · cases h
      exact .books ‹_›
  | deactivate q peerId targetAddress hint =>
    have hw := Option.some.inj h
    have hmoves := moves_deactivate w q peerId targetAddress hint
    rwa [hw] at hmoves
  | prepare q peerId targetAddress hint =>
    simp only [transition, prepare, Option.some.injEq] at h
    split at h
    · cases h
      exact .idles (by simp)
    · cases h
      exact .asks
  | select id => exact hstop h
  | stop => exact hstop h
  | proceed i answer => exact moves_proceed h
  | finish q => exact moves_finish h
  | turn answer => exact moves_turn h

/-! ## The table is kept in every run -/

lemma Base.of_shrinks {operations : AList fun _ : Bytes => Holder} {pending : List Call}
    {live : Bytes → Option RemoteRouteTarget} (h : Base w) (hsh : Shrinks w.manager m')
    (hc : ∀ {q t e}, Carries operations pending q t e → Carries w.operations w.pending q t e) :
    Base ⟨m', live, operations, pending, w.lifecycle⟩ where
  table := hsh.table h.table
  stopped hlc := by
    rw [hsh.selected]
    exact h.stopped hlc
  carried hcar := by
    obtain ⟨h1, h2, h3⟩ := h.carried (hc hcar)
    rw [hsh.next, hsh.target]
    exact ⟨h1, h2, fun k hl => h3 k (hsh.lookup hl)⟩

lemma Base.of_no_routes {lc : Option Lifecycle} {live : Bytes → Option RemoteRouteTarget}
    (h : Base w) (hn : ∀ k, m'.activeRoutes.lookup k = none)
    (hc : m'.nextEntry = w.manager.nextEntry)
    (ht : ∀ e, (m'.heap e).target = (w.manager.heap e).target)
    (hs : lc ≠ none → m'.activeProviderId = []) :
    Base ⟨m', live, w.operations, w.pending, lc⟩ where
  table := ⟨by simp [hn], by simp [hn], by simp [hn]⟩
  stopped := hs
  carried hcar := by
    obtain ⟨h1, h2, -⟩ := h.carried hcar
    exact ⟨by rwa [hc], by rwa [ht], by simp [hn]⟩

lemma Base.no_routes (h : Base w) (hlc : w.lifecycle ≠ none) (k : RouteKey) :
    w.manager.activeRoutes.lookup k = none := by
  rw [Option.eq_none_iff_forall_not_mem]
  exact fun e he => (h.table.selected he).2 (h.stopped hlc)

lemma Base.books {slot : Provider} {t : RemoteRouteTarget} {r : List RemoteRouteTarget}
    (h : Base w) (hsel : w.manager.activeProviderId = slot.id) (hb : Books w.manager m' slot t) :
    Base { w with
      manager := m'
      pending := w.pending ++ [.activating slot.id t w.manager.nextEntry r] } where
  table := hb.table hsel h.table
  stopped hlc := by
    rw [hb.selected]
    exact h.stopped hlc
  carried {q' t' e'} hc := by
    rw [hb.next]
    rcases carries_append hc with hc | ⟨rfl, rfl, rfl⟩
    · obtain ⟨hlt, htg, hk⟩ := h.carried hc
      refine ⟨Nat.lt_succ_of_lt hlt, by rw [hb.target _ hlt, htg], fun k hl => ?_⟩
      rcases hb.lookup hl with ⟨-, he⟩ | ⟨-, hl⟩
      · exact absurd he (Nat.ne_of_lt hlt)
      · exact hk k hl
    · refine ⟨Nat.lt_succ_self _, hb.new_target, fun k hl => ?_⟩
      rcases hb.lookup hl with ⟨hk, -⟩ | ⟨-, hl⟩
      · exact hk
      · exact absurd rfl (Nat.ne_of_lt (h.table.allocated hl))

theorem Base.step (h : Base w) (hm : Moves w a w' reply) : Base w' := by
  have hrefl := Shrinks.refl w.manager
  have hsub : ∀ i, ∀ c ∈ w.pending.eraseIdx i, c ∈ w.pending :=
    fun i c => List.mem_of_mem_eraseIdx
  cases hm with
  | idles => exact h
  | counts _ hc => exact h.of_shrinks (shrinks_countReference hc) id
  | waits => exact h.of_shrinks hrefl (by simp [Carries])
  | books hb =>
    obtain ⟨slot, -, rfl, hsel, rfl, hbk⟩ := books_of_proceeds hb
    exact h.books hsel hbk
  | asks => exact h.of_shrinks hrefl (by simp [Carries])
  | decrements => exact h.of_shrinks (shrinks_setEntry rfl) id
  | erases hf ha hr ht =>
    refine h.of_shrinks (shrinks_erase _) ?_
    subst ht
    split_ifs <;> simp [Carries]
  | leaves hi => exact h.of_shrinks hrefl fun hc => hc.mono (hsub _)
  | resumes hi hc => exact h.of_shrinks (shrinks_countReference hc) fun hc => hc.mono (hsub _)
  | enters hi =>
    exact h.of_shrinks hrefl fun hc => hc.enter (hsub _) (List.mem_of_getElem? hi)
  | releases hi => exact h.of_shrinks hrefl fun hc => hc.mono (hsub _)
  | prepares hi hfree =>
    refine h.of_shrinks hrefl fun {q t e} hc => ?_
    rcases hc with ⟨r, hr⟩ | ⟨r, hr⟩
    · exact Or.inl ⟨r, hsub _ _ hr⟩
    · grind [AList.lookup_insert, AList.lookup_insert_ne, Carries]
  | commits => exact h.of_shrinks (shrinks_setEntry rfl) fun hc => hc.erase
  | fails ho hsh =>
    refine h.of_shrinks hsh fun {q t e} hc => ?_
    split_ifs at hc
    · rcases hc with hc | ⟨r, hr⟩
      · exact Or.inl hc
      · grind [AList.lookup_insert, AList.lookup_insert_ne, Carries]
    · exact hc.erase
  | undoes => exact h.of_shrinks hrefl fun hc => hc.erase
  | answers => exact h.of_shrinks hrefl fun hc => hc.erase
  | stops =>
    exact h.of_no_routes (lookup_beginStop h.table) rfl (fun e => dropRoutes_target) fun _ => rfl
  | stopped hlc =>
    have hlc' : w.lifecycle ≠ none := by simp [hlc]
    exact h.of_no_routes (h.no_routes hlc') rfl (fun _ => rfl) fun _ => h.stopped hlc'
  | selects hlc =>
    have hlc' : w.lifecycle ≠ none := by simp [hlc]
    exact h.of_no_routes (h.no_routes hlc') rfl (fun _ => rfl) fun _ => h.stopped hlc'
  | starts hlc =>
    have hlc' : w.lifecycle ≠ none := by simp [hlc]
    exact h.of_no_routes (h.no_routes hlc') rfl (fun _ => rfl) (by simp)

lemma Base.initial (providers : List Provider) : Base (World.initial providers) where
  table := ⟨by simp [World.initial, Manager.initial], by simp [World.initial, Manager.initial],
    by simp [World.initial, Manager.initial]⟩
  stopped := by simp [World.initial]
  carried := by simp [World.initial, Carries]

end World
end ArtemisSwitch.RemoteAccess

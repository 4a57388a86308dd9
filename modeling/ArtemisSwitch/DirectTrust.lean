import Mathlib.Data.List.Induction
import ArtemisSwitch.DirectPath

/-!
# Why the best endpoint is trusted

Whatever arrives in whatever order, the best endpoint answered a ping of its own
a short while ago.
-/

namespace ArtemisSwitch.Disco.DirectPath

variable {path : DirectPath} {txid : TxId} {sender e e' : IPv4Endpoint} {now s t : Time}
variable {ops before mid post : List Op} {op : Op}

/-- After the calls `before`, this pong answers an outstanding ping. -/
def Answered (before : List Op) (txid : TxId) (sender : IPv4Endpoint) (now : Time) : Prop :=
  ((after before).notePong txid sender now).1.isSome

/-! ## Where the pending pings come from -/

/-- The ping `(txid, e, s)` was sent and nothing was reset since. -/
def Sent (ops : List Op) (txid : TxId) (e : IPv4Endpoint) (s : Time) : Prop :=
  ∃ before mid, ops = before ++ .pingSent txid e s :: mid ∧ .reset ∉ mid

lemma Sent.snoc (h : Sent ops txid e s) (hop : op ≠ .reset) : Sent (ops ++ [op]) txid e s := by
  obtain ⟨before, mid, rfl, hmid⟩ := h
  refine ⟨before, mid ++ [op], by simp, ?_⟩
  intro hm
  rcases List.mem_append.mp hm with hm | hm
  · exact hmid hm
  · exact hop (List.mem_singleton.mp hm).symm

/-- What one call leaves outstanding was outstanding before or is the ping just sent. -/
lemma pending_step {p : Pending} (h : p ∈ (path.step op).pending) :
    op ≠ .reset ∧ (p ∈ path.pending ∨ op = .pingSent p.txid p.endpoint p.sent) := by
  cases op with
  | addCandidate endpoint =>
    refine ⟨nofun, Or.inl ?_⟩
    simp only [step, addCandidate] at h
    split_ifs at h <;> exact h
  | due now =>
    exact ⟨nofun, Or.inl (List.mem_of_mem_filter h)⟩
  | pingSent txid endpoint now =>
    refine ⟨nofun, ?_⟩
    rcases List.mem_append.mp h with h | h
    · left
      split_ifs at h
      · exact List.mem_of_mem_tail h
      · exact h
    · right
      rw [List.mem_singleton.mp h]
  | pong txid sender now =>
    refine ⟨nofun, Or.inl ?_⟩
    rw [step, notePong_pending] at h
    exact List.mem_of_mem_eraseP h
  | reset => cases h

lemma pending_sent {p : Pending} (h : p ∈ (after ops).pending) :
    Sent ops p.txid p.endpoint p.sent := by
  induction ops using List.reverseRecOn with
  | nil => cases h
  | append_singleton ops op ih =>
    rw [after_snoc] at h
    obtain ⟨hop, h | rfl⟩ := pending_step h
    · exact (ih h).snoc hop
    · exact ⟨ops, [], rfl, nofun⟩

/-! ## Every ping is answered at most once -/

lemma pending_txids_step : ((path.step op).pending.map Pending.txid).Sublist
    (path.pending.map Pending.txid ++ op.txid.toList) := by
  cases op with
  | addCandidate endpoint =>
    simp only [step, addCandidate, Op.txid, Option.toList_none, List.append_nil]
    split_ifs <;> exact List.Sublist.refl _
  | due now =>
    simp only [step, due, Op.txid, Option.toList_none, List.append_nil]
    exact List.filter_sublist.map _
  | pingSent txid endpoint now =>
    simp only [step, notePingSent, Op.txid, Option.toList_some, List.map_append]
    apply List.Sublist.append_right
    split_ifs
    · exact (List.tail_sublist _).map _
    · exact List.Sublist.refl _
  | pong txid sender now =>
    simp only [step, notePong_pending, Op.txid, Option.toList_none, List.append_nil]
    exact List.eraseP_sublist.map _
  | reset => exact List.nil_sublist _

/-- The outstanding transaction IDs are some of those sent, in order of sending. -/
lemma pending_txids_sublist : ((after ops).pending.map Pending.txid).Sublist
    (ops.filterMap Op.txid) := by
  induction ops using List.reverseRecOn with
  | nil => exact List.Sublist.refl _
  | append_singleton ops op ih =>
    rw [after_snoc, List.filterMap_append]
    have hop : [op].filterMap Op.txid = op.txid.toList := by
      cases h : op.txid <;> simp [h]
    rw [hop]
    exact pending_txids_step.trans (ih.append_right _)

/-- An ID that is outstanding later was outstanding already or was sent in between. -/
lemma pending_txids_later (h : txid ∈ (after (ops ++ post)).pending.map Pending.txid) :
    txid ∈ (after ops).pending.map Pending.txid ∨ txid ∈ post.filterMap Op.txid := by
  induction post using List.reverseRecOn with
  | nil => exact Or.inl (by simpa using h)
  | append_singleton post op ih =>
    rw [← List.append_assoc, after_snoc] at h
    rcases List.mem_append.mp (pending_txids_step.subset h) with h | h
    · rcases ih h with h | h
      · exact Or.inl h
      · exact Or.inr (by simp [List.filterMap_append, h])
    · refine Or.inr ?_
      rw [List.filterMap_append, List.mem_append]
      right
      simpa using h

lemma Answered.pending (h : Answered ops txid sender now) :
    txid ∈ (after ops).pending.map Pending.txid := by
  obtain ⟨rtt, h⟩ := Option.isSome_iff_exists.mp h
  obtain ⟨found, hfound, -⟩ := notePong_some h
  obtain ⟨hmem, rfl⟩ := findPending_mem hfound
  exact List.mem_map_of_mem hmem

/-- With distinct IDs, a pong takes its ID off the list for good. -/
lemma erased_txid (hids : ((after ops).pending.map Pending.txid).Nodup) :
    txid ∉ ((after (ops ++ [.pong txid sender now])).pending.map Pending.txid) := by
  rw [after_snoc, step, notePong_pending, erasePending]
  rw [show ((after ops).pending.eraseP fun p => p.txid = txid).map Pending.txid =
      ((after ops).pending.map Pending.txid).erase txid by
    rw [List.erase_eq_eraseP, List.eraseP_map]
    congr 2
    funext p
    simp [Function.comp, eq_comm, Bool.beq_eq_decide_eq]]
  exact hids.not_mem_erase

lemma answered_once {u : Time} {x y : IPv4Endpoint} (hids : (ops.filterMap Op.txid).Nodup)
    (hops : ops = before ++ .pong txid x t :: mid ++ .pong txid y u :: post)
    (h : Answered before txid x t) : ¬ Answered (before ++ .pong txid x t :: mid) txid y u := by
  intro h'
  have hsplit : before ++ .pong txid x t :: mid = (before ++ [.pong txid x t]) ++ mid := by simp
  have hnodup : (before.filterMap Op.txid ++ mid.filterMap Op.txid).Nodup := by
    refine List.Nodup.sublist ?_ hids
    rw [hops, List.filterMap_append, List.filterMap_append]
    exact List.sublist_append_left _ _
  have hbefore : ((after before).pending.map Pending.txid).Nodup :=
    List.Nodup.sublist pending_txids_sublist (List.nodup_append.mp hnodup).1
  have hpending := h'.pending
  rw [hsplit] at hpending
  rcases pending_txids_later hpending with hm | hm
  · exact erased_txid hbefore hm
  · -- the ID was sent before the first pong, so it is not sent again
    have hsent := pending_txids_sublist.subset h.pending
    exact (List.nodup_append.mp hnodup).2.2 _ hsent _ hm rfl

/-! ## The best endpoint -/

/-- What the calls so far say for `e` being trusted since `t`. -/
def Justified (ops : List Op) (e : IPv4Endpoint) (t : Time) : Prop :=
  ∃ before mid post txid s,
    ops = before ++ .pingSent txid e s :: mid ++ .pong txid e t :: post ∧
      t - s ≤ kPingTimeout ∧ Answered (before ++ .pingSent txid e s :: mid) txid e t ∧
      .reset ∉ mid ∧ .reset ∉ post

lemma Justified.snoc (h : Justified ops e t) (hop : op ≠ .reset) :
    Justified (ops ++ [op]) e t := by
  obtain ⟨before, mid, post, txid, s, rfl, hs, ha, hmid, hpost⟩ := h
  refine ⟨before, mid, post ++ [op], txid, s, by simp, hs, ha, hmid, ?_⟩
  intro hm
  rcases List.mem_append.mp hm with hm | hm
  · exact hpost hm
  · exact hop (List.mem_singleton.mp hm).symm

/-- The ways in which the best endpoint comes about. -/
lemma best_step (path : DirectPath) (op : Op) : (path.step op).bestEndpoint = path.bestEndpoint ∧
      (path.step op).bestPong = path.bestPong ∧ (path.step op).bestRttMs = path.bestRttMs ∧
      op ≠ .reset ∨
    (path.step op).bestEndpoint.valid = false ∨
    ∃ txid rtt, op = .pong txid (path.step op).bestEndpoint (path.step op).bestPong ∧
      (path.notePong txid (path.step op).bestEndpoint (path.step op).bestPong).1 = some rtt ∧
      path.takesOver (path.step op).bestEndpoint rtt (path.step op).bestPong = true := by
  cases op with
  | addCandidate endpoint =>
    left
    simp only [step, addCandidate]
    split_ifs <;> simp
  | due now => exact Or.inl ⟨rfl, rfl, rfl, nofun⟩
  | pingSent txid endpoint now => exact Or.inl ⟨rfl, rfl, rfl, nofun⟩
  | pong txid sender now =>
    rcases h : (path.notePong txid sender now).1 with _ | rtt
    · left
      rw [step, notePong_none h]
      exact ⟨rfl, rfl, rfl, nofun⟩
    · obtain ⟨found, -, -, -, -, hpath⟩ := notePong_some h
      by_cases hover : path.takesOver sender rtt now
      · right; right
        rw [if_pos hover] at hpath
        rw [step, hpath]
        exact ⟨txid, rtt, rfl, h, hover⟩
      · left
        rw [if_neg hover] at hpath
        rw [step, hpath]
        exact ⟨rfl, rfl, rfl, nofun⟩
  | reset => exact Or.inr (Or.inl rfl)

lemma Answered.justified (h : Answered ops txid e t) :
    Justified (ops ++ [.pong txid e t]) e t := by
  obtain ⟨rtt, hrtt⟩ := Option.isSome_iff_exists.mp h
  obtain ⟨found, hfound, hsender, hfresh, -, -⟩ := notePong_some hrtt
  obtain ⟨hmem, hid⟩ := findPending_mem hfound
  obtain ⟨before, mid, hops, hmid⟩ := pending_sent hmem
  rw [hid, hsender] at hops
  refine ⟨before, mid, [], txid, found.sent, by rw [hops], hfresh, ?_, hmid, nofun⟩
  rw [← hops]
  exact h

theorem best_justified (h : (after ops).bestEndpoint.valid = true) :
    Justified ops (after ops).bestEndpoint (after ops).bestPong := by
  induction ops using List.reverseRecOn with
  | nil => cases h
  | append_singleton ops op ih =>
    rw [after_snoc] at h ⊢
    rcases best_step (after ops) op with
      ⟨hbest, hpong, -, hop⟩ | hinvalid | ⟨txid, rtt, hop, hrtt, -⟩
    · rw [hbest] at h
      rw [hbest, hpong]
      exact (ih h).snoc hop
    · rw [hinvalid] at h
      cases h
    · have hans : Answered ops txid ((after ops).step op).bestEndpoint
          ((after ops).step op).bestPong := by
        rw [Answered, hrtt]
        rfl
      have hjust := hans.justified
      rwa [← hop] at hjust

lemma best_some : path.best now = some e ↔
    path.bestEndpoint = e ∧ e.valid = true ∧ now - path.bestPong ≤ kTrustDuration := by
  unfold best
  constructor
  · intro h
    split_ifs at h with hbad
    obtain ⟨hvalid, hfresh⟩ := not_or.mp hbad
    obtain rfl := Option.some.inj h
    exact ⟨rfl, Bool.not_eq_false _ ▸ hvalid, Int.not_lt.mp hfresh⟩
  · rintro ⟨rfl, hvalid, hfresh⟩
    rw [if_neg]
    rw [not_or, Bool.not_eq_false]
    exact ⟨hvalid, Int.not_lt.mpr hfresh⟩

/-- A best endpoint that is still trusted gives way to a clearly faster one only. -/
lemma replaced_by_faster (hnow : ∀ t ∈ op.time, t ≤ now) (h : path.best now = some e)
    (h' : (path.step op).best now = some e') (hne : e' ≠ e) :
    ∃ txid t rtt, op = .pong txid e' t ∧ (path.notePong txid e' t).1 = some rtt ∧
      rtt * 10 < path.bestRttMs * 9 := by
  obtain ⟨hbest, hvalid, hfresh⟩ := best_some.mp h
  obtain ⟨hbest', hvalid', hfresh'⟩ := best_some.mp h'
  rcases best_step path op with
    ⟨hsame, -, -, -⟩ | hinvalid | ⟨txid, rtt, hop, hrtt, hover⟩
  · rw [hsame, hbest] at hbest'
    exact absurd hbest'.symm hne
  · rw [hbest', hvalid'] at hinvalid
    cases hinvalid
  · rw [hbest'] at hop hrtt hover
    refine ⟨txid, _, rtt, hop, hrtt, ?_⟩
    have htime : (path.step op).bestPong ≤ now := by
      apply hnow
      generalize (path.step op).bestPong = t at hop
      rw [hop]
      rfl
    -- at the pong's own time the endpoint is trusted all the more
    have hstill : path.best (path.step op).bestPong = some e :=
      best_some.mpr ⟨hbest, hvalid, by unfold Time at *; omega⟩
    simpa [takesOver, hstill, hbest, hne] using hover

/-- Runs of calls in any order.  The trusted endpoint answered a ping of its own in time
and a short while ago, no ping is answered twice, and a trusted endpoint gives way only
to a clearly faster one.  Nothing here needs the times to be in order. -/
theorem best_answered_recently (ops : List Op) (hids : (ops.filterMap Op.txid).Nodup) :
    (∀ now e, (after ops).best now = some e →
      ∃ t, Justified ops e t ∧ now - t ≤ kTrustDuration) ∧
    (∀ before mid post txid x y t u,
      ops = before ++ .pong txid x t :: mid ++ .pong txid y u :: post →
      Answered before txid x t → ¬ Answered (before ++ .pong txid x t :: mid) txid y u) ∧
    (∀ before op post now e e', ops = before ++ op :: post → (∀ t ∈ op.time, t ≤ now) →
      (after before).best now = some e → (after (before ++ [op])).best now = some e' → e' ≠ e →
      ∃ txid t rtt, op = .pong txid e' t ∧ ((after before).notePong txid e' t).1 = some rtt ∧
        rtt * 10 < (after before).bestRttMs * 9) := by
  refine ⟨?_, ?_, ?_⟩
  · intro now e h
    obtain ⟨rfl, hvalid, hfresh⟩ := best_some.mp h
    exact ⟨_, best_justified hvalid, hfresh⟩
  · intro before mid post txid x y t u hops h
    exact answered_once hids hops h
  · intro before op post now e e' _ hnow h h' hne
    rw [after_snoc] at h'
    exact replaced_by_faster hnow h h' hne

/-- A ping at 1 s that is answered after 20 ms. -/
def onePong : List Op :=
  [.addCandidate ⟨0xC0A80114, 41641⟩, .due 1000000000,
    .pingSent (Vector.replicate 12 1) ⟨0xC0A80114, 41641⟩ 1000000000,
    .pong (Vector.replicate 12 1) ⟨0xC0A80114, 41641⟩ 1020000000]

theorem best_answered_recently_onePong :
    ∃ t, Justified onePong ⟨0xC0A80114, 41641⟩ t ∧ 2000000000 - t ≤ kTrustDuration :=
  (best_answered_recently onePong (by decide +kernel)).1 2000000000 ⟨0xC0A80114, 41641⟩
    (by decide +kernel)

end ArtemisSwitch.Disco.DirectPath

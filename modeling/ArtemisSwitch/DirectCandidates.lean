import Mathlib.Data.List.Nodup
import ArtemisSwitch.Library.Runs
import ArtemisSwitch.DirectTrust

/-!
# Best endpoint and candidates

WireGuard is sent to the best endpoint, while pings go to the candidates and
packets are taken from candidates only.  New candidates push out the oldest one,
whichever endpoint is best.
-/

namespace ArtemisSwitch.Disco
open DirectPath Runs

/-- A path and those who drive it: the latest time they passed and the endpoints that
`due` has asked them to ping. -/
structure Driver where
  path : DirectPath := {}
  clock : Time
  asked : List IPv4Endpoint := []
  deriving DecidableEq, Repr

namespace Driver

/-- The next call comes no earlier than the last, and pings go to endpoints from `due`. -/
def step (s : Driver) (op : Op) : Option Driver :=
  match op with
  | .addCandidate _ => some { s with path := s.path.step op }
  | .due now =>
    if s.clock ≤ now then
      some { path := s.path.step op, clock := now, asked := (s.path.due now).1 ++ s.asked }
    else none
  | .pingSent _ endpoint now =>
    if s.clock ≤ now ∧ endpoint ∈ s.asked then
      some { s with path := s.path.step op, clock := now }
    else none
  | .pong _ _ now =>
    if s.clock ≤ now then some { s with path := s.path.step op, clock := now } else none
  | .reset => some { s with path := s.path.step op }

/-- From now on the endpoint that is sent to is one that is pinged and listened to. -/
def BestIsCandidate (s : Driver) : Prop :=
  ∀ now e, s.clock ≤ now → s.path.best now = some e → s.path.isCandidate e = true

/-- The call does not push the trusted endpoint out of the candidates, nor does it make an
endpoint the best one that is not a candidate any more. -/
def Keeps (s : Driver) : Op → Prop
  | .addCandidate endpoint =>
    endpoint.valid = true → s.path.isCandidate endpoint = false →
      kMaxCandidates ≤ s.path.candidates.length →
      ∀ c ∈ s.path.candidates.head?, s.path.best s.clock ≠ some c.endpoint
  | .pong txid sender now =>
    ∀ found ∈ s.path.findPending txid, found.endpoint = sender →
      now - found.sent ≤ kPingTimeout →
      s.path.takesOver sender (milliseconds (now - found.sent)) now = true →
      s.path.isCandidate sender = true
  | _ => True

instance (s : Driver) (op : Op) : Decidable (s.Keeps op) :=
  match op with
  | .addCandidate _ => inferInstanceAs (Decidable (_ → _ → _ → ∀ c ∈ s.path.candidates.head?, _))
  | .pong txid _ _ => inferInstanceAs (Decidable (∀ found ∈ s.path.findPending txid, _ → _ → _ → _))
  | .due _ => inferInstanceAs (Decidable True)
  | .pingSent _ _ _ => inferInstanceAs (Decidable True)
  | .reset => inferInstanceAs (Decidable True)

variable {s t u : Driver} {op : Op} {path : DirectPath} {e endpoint sender : IPv4Endpoint}
variable {now : Time} {txid : TxId}

lemma isCandidate_iff : path.isCandidate e = true ↔ ∃ c ∈ path.candidates, c.endpoint = e := by
  simp [isCandidate]

lemma isCandidate_iff_mem : path.isCandidate e = true ↔ e ∈ path.candidates.map (·.endpoint) := by
  rw [isCandidate_iff, List.mem_map]

/-! ## What reachable states look like -/

/-- Candidates are listed once, and only endpoints that can be sent to get anywhere. -/
structure Inv (s : Driver) : Prop where
  nodup : (s.path.candidates.map Candidate.endpoint).Nodup
  candidates_valid : ∀ e ∈ s.path.candidates.map Candidate.endpoint, e.valid = true
  asked_valid : ∀ e ∈ s.asked, e.valid = true
  pending_valid : ∀ p ∈ s.path.pending, p.endpoint.valid = true

lemma inv_initial (clock : Time) : Inv { clock := clock } := by
  constructor <;> simp

/-- Endpoints of the candidates after each call. -/
lemma endpoints_addCandidate :
    ((path.addCandidate endpoint).candidates.map Candidate.endpoint) =
      if endpoint.valid = false ∨ path.isCandidate endpoint = true then
        path.candidates.map Candidate.endpoint
      else (if kMaxCandidates ≤ path.candidates.length then
          (path.candidates.map Candidate.endpoint).tail
        else path.candidates.map Candidate.endpoint) ++ [endpoint] := by
  unfold addCandidate
  split_ifs <;> simp [List.map_tail]

lemma endpoints_notePingSent :
    (path.notePingSent txid endpoint now).candidates.map Candidate.endpoint =
      path.candidates.map Candidate.endpoint := by
  simp only [notePingSent, List.map_map]
  apply List.map_congr_left
  intro c _
  simp only [Function.comp]
  split_ifs <;> rfl

/-- The candidates' endpoints only change by an addition or a reset. -/
lemma endpoints_step (hadd : ∀ e, op ≠ .addCandidate e) (hreset : op ≠ .reset) :
    (path.step op).candidates.map Candidate.endpoint =
      path.candidates.map Candidate.endpoint := by
  cases op with
  | addCandidate e => exact absurd rfl (hadd e)
  | due now => rfl
  | pingSent txid e now => exact endpoints_notePingSent
  | pong txid sender now => rw [DirectPath.step, notePong_candidates]
  | reset => exact absurd rfl hreset

lemma isCandidate_step (hadd : ∀ e, op ≠ .addCandidate e) (hreset : op ≠ .reset) :
    (path.step op).isCandidate e = true ↔ path.isCandidate e = true := by
  rw [isCandidate_iff_mem, isCandidate_iff_mem, endpoints_step hadd hreset]

/-- An allowed step makes the call, moves the clock on and pings only on request. -/
lemma step_cases (h : s.step op = some t) :
    t.path = s.path.step op ∧ s.clock ≤ t.clock ∧
      (∀ now ∈ op.time, t.clock = now) ∧ (op.time = none → t.clock = s.clock) ∧
      (∀ e ∈ t.asked, e ∈ s.asked ∨ s.path.isCandidate e = true) ∧
      ∀ txid e now, op = .pingSent txid e now → e ∈ s.asked := by
  cases op with
  | addCandidate endpoint =>
    obtain rfl := Option.some.inj h
    exact ⟨rfl, Int.le_refl _, nofun, fun _ => rfl, fun e he => Or.inl he, nofun⟩
  | due now =>
    simp only [step] at h
    split_ifs at h with hle
    obtain rfl := Option.some.inj h
    refine ⟨rfl, hle, fun _ ht => Option.some.inj ht, nofun, ?_, nofun⟩
    intro e he
    rcases List.mem_append.mp he with he | he
    · right
      obtain ⟨c, hc, rfl⟩ := List.mem_map.mp he
      exact isCandidate_iff.mpr ⟨c, (List.mem_filter.mp hc).1, rfl⟩
    · exact Or.inl he
  | pingSent txid endpoint now =>
    simp only [step] at h
    split_ifs at h with hle
    obtain rfl := Option.some.inj h
    refine ⟨rfl, hle.1, fun _ ht => Option.some.inj ht, nofun, fun e he => Or.inl he, ?_⟩
    intro _ _ _ hop
    cases hop
    exact hle.2
  | pong txid sender now =>
    simp only [step] at h
    split_ifs at h with hle
    obtain rfl := Option.some.inj h
    exact ⟨rfl, hle, fun _ ht => Option.some.inj ht, nofun, fun e he => Or.inl he, nofun⟩
  | reset =>
    obtain rfl := Option.some.inj h
    exact ⟨rfl, Int.le_refl _, nofun, fun _ => rfl, fun e he => Or.inl he, nofun⟩

/-- The endpoints after a call are some of those before it, and at most one new one. -/
lemma endpoints_step_sublist (path : DirectPath) (op : Op) : ∃ added : List IPv4Endpoint,
    ((path.step op).candidates.map Candidate.endpoint).Sublist
      (path.candidates.map Candidate.endpoint ++ added) ∧
    added.Nodup ∧ ∀ e ∈ added, e.valid = true ∧ path.isCandidate e = false := by
  by_cases hadd : ∃ e, op = .addCandidate e
  · obtain ⟨e, rfl⟩ := hadd
    rw [DirectPath.step, endpoints_addCandidate]
    split_ifs with hskip hfull
    · exact ⟨[], by simp, List.nodup_nil, by simp⟩
    all_goals
      have hnew : e.valid = true ∧ path.isCandidate e = false := by simpa using hskip
      refine ⟨[e], ?_, List.nodup_singleton e, by simpa using hnew⟩
    · exact List.Sublist.append_right (List.tail_sublist _) _
    · exact List.Sublist.refl _
  · refine ⟨[], ?_, List.nodup_nil, by simp⟩
    rw [List.append_nil]
    by_cases hreset : op = .reset
    · subst hreset
      exact List.nil_sublist _
    · rw [endpoints_step (fun e he => hadd ⟨e, he⟩) hreset]

lemma Inv.step (h : Inv s) (hs : s.step op = some t) : Inv t := by
  obtain ⟨hpath, -, -, -, hasked, hping⟩ := step_cases hs
  obtain ⟨added, hsub, hnodup, hadded⟩ := endpoints_step_sublist s.path op
  constructor
  · rw [hpath]
    -- what is added was no candidate before
    refine List.Nodup.sublist hsub (List.nodup_append.mpr ⟨h.nodup, hnodup, ?_⟩)
    rintro x hx y hy rfl
    have hnot := (hadded x hy).2
    rw [isCandidate_iff_mem.mpr hx] at hnot
    cases hnot
  · intro e he
    rw [hpath] at he
    rcases List.mem_append.mp (hsub.subset he) with he | he
    · exact h.candidates_valid e he
    · exact (hadded e he).1
  · intro e he
    rcases hasked e he with he | he
    · exact h.asked_valid e he
    · exact h.candidates_valid e (isCandidate_iff_mem.mp he)
  · intro p hp
    rw [hpath] at hp
    obtain ⟨-, hp | hop⟩ := pending_step hp
    · exact h.pending_valid p hp
    · exact h.asked_valid _ (hping _ _ _ hop)

/-! ## One call -/

/-- Whether the best endpoint is a candidate only has to be asked at the latest time. -/
lemma bestIsCandidate_iff : BestIsCandidate s ↔
    ∀ e, s.path.best s.clock = some e → s.path.isCandidate e = true := by
  constructor
  · intro h e he
    exact h s.clock e (Int.le_refl _) he
  · intro h now e hnow he
    obtain ⟨hbest, hvalid, hfresh⟩ := best_some.mp he
    apply h e
    exact best_some.mpr ⟨hbest, hvalid, by unfold Time at *; omega⟩

lemma best_congr (hbest : path.bestEndpoint = s.path.bestEndpoint)
    (hpong : path.bestPong = s.path.bestPong) : path.best now = s.path.best now := by
  rw [best, best, hbest, hpong]

/-- A new candidate keeps the best one a candidate unless it pushes it out. -/
lemma addCandidate_iff (hinv : Inv s) (hb : BestIsCandidate s)
    (hs : s.step (.addCandidate endpoint) = some t) :
    BestIsCandidate t ↔ Keeps s (.addCandidate endpoint) := by
  obtain rfl := Option.some.inj hs
  rw [bestIsCandidate_iff] at hb ⊢
  have hbest : (s.path.addCandidate endpoint).best s.clock = s.path.best s.clock := by
    apply best_congr <;> (simp only [DirectPath.addCandidate]; split_ifs <;> rfl)
  have hcandidate (e) := @isCandidate_iff_mem (s.path.addCandidate endpoint) e
  simp only [endpoints_addCandidate] at hcandidate
  simp only [DirectPath.step, hbest, hcandidate, Keeps]
  split_ifs with hskip hfull
  · simp only [← isCandidate_iff_mem]
    constructor
    · intro _ hvalid hnew
      simp [hvalid, hnew] at hskip
    · intro _
      exact hb
  -- the list is full, and the oldest candidate goes
  · rcases hc : s.path.candidates with _ | ⟨c, cs⟩
    · simp [hc, kMaxCandidates] at hfull
    · have hnodup := hinv.nodup
      simp only [isCandidate_iff_mem] at hb
      simp only [hc, List.map_cons, List.nodup_cons] at hnodup hb
      have hnew : endpoint.valid = true ∧ s.path.isCandidate endpoint = false := by
        simpa using hskip
      have hne : c.endpoint ≠ endpoint := by
        rintro rfl
        have hcand : s.path.isCandidate c.endpoint = true :=
          isCandidate_iff.mpr ⟨c, by simp [hc], rfl⟩
        rw [hnew.2] at hcand
        cases hcand
      constructor
      · intro h _ _ _ c' hc' htrusted
        obtain rfl : c = c' := Option.some.inj hc'
        rcases List.mem_append.mp (h _ htrusted) with hm | hm
        · exact hnodup.1 hm
        · exact hne (List.mem_singleton.mp hm)
      · intro h e he
        apply List.mem_append_left
        rcases List.mem_cons.mp (hb e he) with rfl | hm
        · exact absurd he (h hnew.1 hnew.2 (hc ▸ hfull) c rfl)
        · exact hm
  · constructor
    · intro _ _ _ hfull'
      exact absurd hfull' hfull
    · intro _ e he
      exact List.mem_append_left _ (isCandidate_iff_mem.mp (hb e he))

/-- A pong keeps the best endpoint a candidate unless it makes another one best. -/
lemma pong_iff (hinv : Inv s) (hb : BestIsCandidate s)
    (hs : s.step (.pong txid sender now) = some t) :
    BestIsCandidate t ↔ Keeps s (.pong txid sender now) := by
  obtain ⟨hpath, hle, hclock, -⟩ := step_cases hs
  have hnow : t.clock = now := hclock now rfl
  have hcandidate (e) : (s.path.step (.pong txid sender now)).isCandidate e = true ↔
      s.path.isCandidate e = true := isCandidate_step (by simp) (by simp)
  rw [bestIsCandidate_iff, hpath, hnow]
  simp only [hcandidate]
  rw [DirectPath.step]
  have hsame (hbest : ((s.path.notePong txid sender now).2).best now = s.path.best now) (e) :
      ((s.path.notePong txid sender now).2).best now = some e → s.path.isCandidate e = true := by
    rw [hbest]
    exact hb now e (hnow ▸ hle)
  rcases h : (s.path.notePong txid sender now).1 with _ | rtt
  · -- nothing is answered, and the condition asks for nothing
    have hbest : ((s.path.notePong txid sender now).2).best now = s.path.best now := by
      rw [notePong_none h, erasePending_best]
    refine iff_of_true (hsame hbest) ?_
    intro found hfound hsender hfresh _
    rw [notePong_answers (Option.mem_def.mp hfound) hsender hfresh] at h
    cases h
  · obtain ⟨found, hfound, hsender, hfresh, rfl, hnext⟩ := notePong_some h
    have hkeeps : Keeps s (.pong txid sender now) ↔
        (s.path.takesOver sender (milliseconds (now - found.sent)) now = true →
          s.path.isCandidate sender = true) := by
      constructor
      · intro hk
        exact hk found hfound hsender hfresh
      · intro hk found' hfound' _ _
        obtain rfl := Option.some.inj (hfound.symm.trans hfound')
        exact hk
    rw [hkeeps]
    -- the sender takes over, or the best endpoint stays what it was
    split_ifs at hnext with hover
    · have hvalid : sender.valid = true :=
        hsender ▸ hinv.pending_valid found (findPending_mem hfound).1
      have hbest : ((s.path.notePong txid sender now).2).best now = some sender := by
        rw [hnext]
        exact best_some.mpr ⟨rfl, hvalid, by simp [kTrustDuration]⟩
      simp [hbest, hover]
    · have hbest : ((s.path.notePong txid sender now).2).best now = s.path.best now := by
        rw [hnext, erasePending_best]
      refine iff_of_true (hsame hbest) ?_
      intro hover'
      exact absurd hover' hover

/-- One call from a state in which the best endpoint is a candidate. -/
theorem step_iff (hinv : Inv s) (hb : BestIsCandidate s) (hs : s.step op = some t) :
    BestIsCandidate t ↔ Keeps s op := by
  cases op with
  | addCandidate endpoint => exact addCandidate_iff hinv hb hs
  | pong txid sender now => exact pong_iff hinv hb hs
  | due now =>
    refine iff_of_true ?_ trivial
    obtain ⟨hpath, hle, -⟩ := step_cases hs
    intro later e hlater he
    rw [hpath] at he ⊢
    exact hb later e (Int.le_trans hle hlater) he
  | pingSent txid endpoint now =>
    refine iff_of_true ?_ trivial
    obtain ⟨hpath, hle, -⟩ := step_cases hs
    intro later e hlater he
    rw [hpath] at he ⊢
    exact (isCandidate_step (by simp) (by simp)).mpr (hb later e (Int.le_trans hle hlater) he)
  | reset =>
    refine iff_of_true ?_ trivial
    obtain rfl := Option.some.inj hs
    intro later e _ he
    cases he

/-! ## Runs -/

/-- In a run whose calls all meet the condition the best endpoint is a candidate, and the
first call that does not meet it ends that. -/
theorem best_isCandidate_of_keeps (clock : Time) (s : Driver)
    (hrun : Run step Keeps { clock := clock } s) :
    BestIsCandidate s ∧ ∀ op t, s.step op = some t → (BestIsCandidate t ↔ Keeps s op) := by
  have h0 : Inv { clock := clock } ∧ BestIsCandidate { clock := clock } := by
    refine ⟨inv_initial clock, ?_⟩
    intro now e _ he
    cases he
  have h : Inv s ∧ BestIsCandidate s := by
    refine hrun.invariant (I := fun s => Inv s ∧ BestIsCandidate s) h0 ?_
    intro t op u ht hok hs
    exact ⟨ht.1.step hs, (step_iff ht.1 ht.2 hs).mpr hok⟩
  exact ⟨h.2, fun op t hs => step_iff h.1 h.2 hs⟩

/-- The peer is pinged at its LAN endpoint at 1 s and answers after 20 ms. -/
def trusting : Driver := (exec (guarded step Keeps) { clock := 0 } onePong).get (by decide +kernel)

theorem best_isCandidate_trusting : BestIsCandidate trusting :=
  (best_isCandidate_of_keeps 0 trusting (.of_exec_guarded (Option.some_get _).symm)).1

/-- Sixteen more endpoints, as a call-me-maybe may list them. -/
def callMeMaybe : List Op :=
  (List.range 16).map fun n => .addCandidate ⟨0xCB007101, UInt16.ofNat (n + 1)⟩

/-- The endpoint that just answered is sent to, and its packets are dropped. -/
theorem best_pushed_out :
    ∃ s, Run step (fun _ _ => True) { clock := 0 } s ∧
      s.path.best s.clock = some ⟨0xC0A80114, 41641⟩ ∧
      s.path.isCandidate ⟨0xC0A80114, 41641⟩ = false :=
  ⟨(exec step { clock := 0 } (onePong ++ callMeMaybe)).get (by decide +kernel),
    .of_exec (Option.some_get _).symm (by simp), by decide +kernel, by decide +kernel⟩

end Driver
end ArtemisSwitch.Disco

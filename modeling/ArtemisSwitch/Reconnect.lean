import ArtemisSwitch.Library.Runs
import Mathlib.Algebra.Order.Group.Nat

/-!
# Reconnecting to control

The worker thread runs one control session after the other, with a growing wait between them.  A
stop may be requested between any two of its steps.
-/

namespace ArtemisSwitch.Reconnect
open Runs

inductive SessionResult
  | stopped
  | connectFailed
  | droppedEarly
  | droppedAfterData
  | fatal
  deriving DecidableEq, Repr

/-- Where the worker is.  The counts are those of the messages of the session. -/
inductive Phase
  | loopHead
  | connecting
  | connectFailed
  | pollHead (messageCount : ℕ)
  | polling (messageCount : ℕ)
  | pollFailed (messageCount : ℕ)
  | rejected
  | returned (result : SessionResult)
  | waiting
  | finished
  deriving DecidableEq, Repr

/-- How a poll ends. -/
inductive Poll
  | failed
  | taken
  | refused
  deriving DecidableEq, Repr

/-- `next` is a step of the worker that waits for nothing. -/
inductive Event
  | stop
  | next
  | connected (ok : Bool)
  | polled (poll : Poll)
  | waited
  deriving DecidableEq, Repr

/-- In seconds. -/
def kInitialBackoff : ℕ := 1

def kMaxBackoff : ℕ := 30

/-- The variables of `workerMain`, and the results of the sessions so far. -/
structure Worker where
  phase : Phase := .loopHead
  stopRequested : Bool := false
  backoff : ℕ := kInitialBackoff
  firstSession : Bool := true
  everProductive : Bool := false
  attempt : ℕ := 0
  outcomes : List SessionResult := []
  deriving DecidableEq, Repr

namespace Worker

/-- `runControlSession` returns. -/
def returns (w : Worker) (result : SessionResult) : Worker :=
  { w with phase := .returned result, outcomes := w.outcomes ++ [result] }

/-- The loop behind a session, up to the wait. -/
def afterSession (w : Worker) (result : SessionResult) : Worker :=
  if result = .stopped ∨ w.stopRequested then { w with phase := .finished }
  else if result = .fatal then { w with phase := .finished }
  else
    let w := if result = .droppedAfterData then
      { w with everProductive := true, backoff := kInitialBackoff, attempt := 0 } else w
    if w.everProductive = false then { w with phase := .finished }
    else { w with firstSession := false, attempt := w.attempt + 1, phase := .waiting }

def next (w : Worker) : Option Worker :=
  match w.phase with
  | .loopHead => some { w with phase := if w.stopRequested then .finished else .connecting }
  | .connectFailed => some (w.returns (if w.stopRequested then .stopped else .connectFailed))
  | .pollHead messageCount =>
    some (if w.stopRequested then w.returns .stopped
      else { w with phase := .polling messageCount })
  | .pollFailed messageCount =>
    some (w.returns (if w.stopRequested then .stopped
      else if 0 < messageCount then .droppedAfterData else .droppedEarly))
  | .rejected => some (w.returns (if w.stopRequested then .stopped else .fatal))
  | .returned result => some (w.afterSession result)
  | _ => none

def step (w : Worker) : Event → Option Worker
  | .stop => some { w with stopRequested := true }
  | .next => w.next
  | .connected ok =>
    match w.phase with
    | .connecting => some { w with phase := if ok then .pollHead 0 else .connectFailed }
    | _ => none
  | .polled poll =>
    match w.phase with
    | .polling messageCount =>
      some
        { w with
          phase := match poll with
            | .failed => .pollFailed messageCount
            | .taken => .pollHead (messageCount + 1)
            | .refused => .rejected }
    | _ => none
  | .waited =>
    match w.phase with
    | .waiting =>
      some (if w.stopRequested then { w with phase := .finished }
        else { w with phase := .loopHead, backoff := min (w.backoff * 2) kMaxBackoff })
    | _ => none

/-! ## The policy -/

/-- Another session follows the last of these results, unless a stop is requested. -/
def GoesOn (outcomes : List SessionResult) : Prop :=
  (∀ result ∈ outcomes.getLast?, result ≠ .stopped ∧ result ≠ .fatal) ∧
    .droppedAfterData ∈ outcomes

instance (outcomes : List SessionResult) : Decidable (GoesOn outcomes) :=
  inferInstanceAs (Decidable (_ ∧ _))

/-- The results from the last `droppedAfterData` on. -/
def retries (outcomes : List SessionResult) : ℕ :=
  (outcomes.reverse.takeWhile (· ≠ .droppedAfterData)).length + 1

/-- The wait before the `k`-th retry. -/
def delay (k : ℕ) : ℕ := min (2 ^ (k - 1)) kMaxBackoff

/-- The results that the loop has looked at. -/
def handled (w : Worker) : List SessionResult :=
  match w.phase with
  | .returned _ => w.outcomes.dropLast
  | _ => w.outcomes

/-- What holds of the worker between any two steps. -/
structure Inv (w : Worker) : Prop where
  returned : ∀ result, w.phase = .returned result → w.outcomes = w.handled ++ [result]
  goesOn : w.phase ≠ .finished → w.handled ≠ [] → GoesOn w.handled
  productive : w.phase ≠ .finished →
    (w.everProductive = true ↔ .droppedAfterData ∈ w.handled)
  backoff : w.phase ≠ .finished → w.phase ≠ .waiting →
    w.backoff = (if w.everProductive then delay (retries w.handled + 1) else kInitialBackoff) ∧
      w.attempt = if w.everProductive then retries w.handled else 0
  waiting : w.phase = .waiting →
    w.outcomes ≠ [] ∧ w.backoff = delay (retries w.outcomes) ∧ w.attempt = retries w.outcomes

variable {w w' : Worker} {event : Event} {result : SessionResult}

lemma retries_append_dropped (outcomes : List SessionResult) :
    retries (outcomes ++ [.droppedAfterData]) = 1 := by
  simp [retries]

lemma retries_append (outcomes : List SessionResult) (h : result ≠ .droppedAfterData) :
    retries (outcomes ++ [result]) = retries outcomes + 1 := by
  simp [retries, h]

/-- Doubling the wait gives the next one. -/
lemma delay_succ {k : ℕ} (h : 0 < k) : min (delay k * 2) kMaxBackoff = delay (k + 1) := by
  obtain ⟨k, rfl⟩ := Nat.exists_eq_succ_of_ne_zero (Nat.ne_of_gt h)
  have hpow : 2 ^ (k.succ + 1 - 1) = 2 ^ (k.succ - 1) * 2 := Nat.pow_succ 2 k
  unfold delay kMaxBackoff
  omega

lemma handled_eq (h : ∀ result, w.phase ≠ .returned result) : w.handled = w.outcomes := by
  unfold handled
  split
  · rename_i result hreturned
    exact absurd hreturned (h result)
  · rfl

/-- The worker moves to another place of the session. -/
lemma Inv.moves (h : w.Inv) {phase : Phase} (hfrom : ∀ result, w.phase ≠ .returned result)
    (hto : ∀ result, phase ≠ .returned result) (hwaits : w.phase ≠ .waiting)
    (hends : w.phase ≠ .finished) (hwait : phase ≠ .waiting) :
    Inv { w with phase } := by
  have hold := handled_eq hfrom
  have hnew : handled { w with phase } = w.outcomes := handled_eq hto
  obtain ⟨-, hgoesOn, hproductive, hbackoff, -⟩ := h
  rw [hold] at hgoesOn hproductive hbackoff
  constructor
  · intro result hreturned
    exact absurd hreturned (hto result)
  · rw [hnew]
    exact fun _ => hgoesOn hends
  · rw [hnew]
    exact fun _ => hproductive hends
  · rw [hnew]
    exact fun _ _ => hbackoff hends hwaits
  · intro hwaiting
    exact absurd hwaiting hwait

/-- A session ends. -/
lemma Inv.returns (h : w.Inv) (hfrom : ∀ result, w.phase ≠ .returned result)
    (hwaits : w.phase ≠ .waiting) (hends : w.phase ≠ .finished) (result : SessionResult) :
    (w.returns result).Inv := by
  have hold := handled_eq hfrom
  have hnew : (w.returns result).handled = w.outcomes := List.dropLast_concat
  obtain ⟨-, hgoesOn, hproductive, hbackoff, -⟩ := h
  rw [hold] at hgoesOn hproductive hbackoff
  constructor
  · intro other hother
    obtain rfl : result = other := Phase.returned.inj hother
    rw [hnew]
    rfl
  · rw [hnew]
    exact fun _ => hgoesOn hends
  · rw [hnew]
    exact fun _ => hproductive hends
  · rw [hnew]
    exact fun _ _ => hbackoff hends hwaits
  · intro hwaiting
    cases hwaiting

/-- What the loop does behind a session. -/
lemma afterSession_cases (h : w.Inv) (hphase : w.phase = .returned result) :
    w.afterSession result = { w with phase := .finished } ∧
        (w.stopRequested = true ∨ ¬GoesOn w.outcomes) ∨
      w.stopRequested = false ∧ GoesOn w.outcomes ∧
        w.afterSession result =
          { w with
            firstSession := false
            everProductive := true
            backoff := delay (retries w.outcomes)
            attempt := retries w.outcomes
            phase := .waiting } := by
  have houtcomes := h.returned result hphase
  have hlast : w.outcomes.getLast? = some result := by rw [houtcomes, List.getLast?_concat]
  obtain ⟨hbackoff, hattempt⟩ := h.backoff (by rw [hphase]; exact Phase.noConfusion)
    (by rw [hphase]; exact Phase.noConfusion)
  unfold afterSession
  by_cases hstop : result = .stopped ∨ w.stopRequested = true
  · refine .inl ⟨if_pos hstop, hstop.symm.imp_right fun hresult hgoes => ?_⟩
    exact (hgoes.1 result hlast).1 hresult
  · rw [if_neg hstop]
    rw [not_or, Bool.not_eq_true] at hstop
    by_cases hfatal : result = .fatal
    · exact .inl ⟨if_pos hfatal, .inr fun hgoes => (hgoes.1 result hlast).2 hfatal⟩
    · have hends : ∀ other ∈ w.outcomes.getLast?, other ≠ .stopped ∧ other ≠ .fatal := by
        intro other hother
        obtain rfl : result = other := Option.some.inj (hlast.symm.trans hother)
        exact ⟨hstop.1, hfatal⟩
      rw [if_neg hfatal]
      by_cases hdata : result = .droppedAfterData
      · have hmem : .droppedAfterData ∈ w.outcomes := by
          rw [houtcomes, hdata]
          exact List.mem_append_right _ List.mem_cons_self
        have hone : retries w.outcomes = 1 := by
          rw [houtcomes, hdata, retries_append_dropped]
        rw [if_pos hdata, hone]
        exact .inr ⟨hstop.2, ⟨hends, hmem⟩, rfl⟩
      · rw [if_neg hdata]
        have hmem : .droppedAfterData ∈ w.outcomes ↔ w.everProductive = true := by
          rw [houtcomes, List.mem_append, h.productive (by rw [hphase]; exact Phase.noConfusion)]
          simp [Ne.symm hdata]
        dsimp only
        cases hproductive : w.everProductive with
        | false =>
          rw [hproductive] at hmem
          exact .inl ⟨if_pos rfl, .inr fun hgoes => Bool.noConfusion (hmem.mp hgoes.2)⟩
        | true =>
          rw [hproductive] at hmem hbackoff hattempt
          have hretries : retries w.outcomes = retries w.handled + 1 := by
            rw [houtcomes, retries_append _ hdata]
          rw [if_pos rfl] at hbackoff hattempt
          rw [if_neg (Ne.symm Bool.false_ne_true), hretries, ← hbackoff, ← hattempt, ← hproductive]
          exact .inr ⟨hstop.2, ⟨hends, hmem.mpr rfl⟩, rfl⟩

lemma inv_finished (hphase : w.phase = .finished) : w.Inv :=
  ⟨fun _ h => Phase.noConfusion (hphase.symm.trans h), fun h => absurd hphase h,
    fun h => absurd hphase h, fun h => absurd hphase h,
    fun h => Phase.noConfusion (hphase.symm.trans h)⟩

/-- What the loop does behind a session. -/
lemma Inv.afterSession (h : w.Inv) (hphase : w.phase = .returned result) :
    (w.afterSession result).Inv := by
  obtain ⟨hends, -⟩ | ⟨-, hgoes, hwaits⟩ := afterSession_cases h hphase
  · exact inv_finished (congrArg phase hends)
  · have hne : w.outcomes ≠ [] := List.ne_nil_of_mem hgoes.2
    rw [hwaits]
    constructor
    · intro other hother
      cases hother
    · exact fun _ _ => hgoes
    · exact fun _ => iff_of_true rfl hgoes.2
    · exact fun _ hwaiting => absurd rfl hwaiting
    · exact fun _ => ⟨hne, rfl, rfl⟩

/-- The wait is over. -/
lemma Inv.waited (h : w.Inv) (hphase : w.phase = .waiting) :
    Inv { w with phase := .loopHead, backoff := min (w.backoff * 2) kMaxBackoff } := by
  have hold : w.handled = w.outcomes := handled_eq (by simp [hphase])
  obtain ⟨hne, hbackoff, hattempt⟩ := h.waiting hphase
  have hgoesOn := h.goesOn (by simp [hphase]) (by rwa [hold])
  have hproductive := h.productive (by simp [hphase])
  rw [hold] at hgoesOn hproductive
  have heverProductive := hproductive.mpr hgoesOn.2
  have hdelay : min (w.backoff * 2) kMaxBackoff = delay (retries w.outcomes + 1) := by
    have hpos : 0 < retries w.outcomes := Nat.succ_pos _
    rw [hbackoff, delay_succ hpos]
  constructor
  · intro other hother
    cases hother
  · exact fun _ _ => hgoesOn
  · exact fun _ => hproductive
  · intro _ _
    dsimp only
    rw [heverProductive, if_pos rfl, if_pos rfl]
    exact ⟨hdelay, hattempt⟩
  · intro hwaiting
    cases hwaiting

lemma Inv.stops (h : w.Inv) : Inv { w with stopRequested := true } :=
  ⟨h.returned, h.goesOn, h.productive, h.backoff, h.waiting⟩

/-- A step of the worker that waits for nothing. -/
lemma inv_next (h : w.Inv) (hnext : w.next = some w') : w'.Inv := by
  unfold next at hnext
  split at hnext
  all_goals
    rename_i hphase
  · obtain rfl := Option.some.inj hnext
    split_ifs
    · exact inv_finished rfl
    · exact h.moves (by simp [hphase]) (by simp) (by simp [hphase]) (by simp [hphase]) (by simp)
  · obtain rfl := Option.some.inj hnext
    exact h.returns (by simp [hphase]) (by simp [hphase]) (by simp [hphase]) _
  · obtain rfl := Option.some.inj hnext
    split_ifs
    · exact h.returns (by simp [hphase]) (by simp [hphase]) (by simp [hphase]) _
    · exact h.moves (by simp [hphase]) (by simp) (by simp [hphase]) (by simp [hphase]) (by simp)
  · obtain rfl := Option.some.inj hnext
    exact h.returns (by simp [hphase]) (by simp [hphase]) (by simp [hphase]) _
  · obtain rfl := Option.some.inj hnext
    exact h.returns (by simp [hphase]) (by simp [hphase]) (by simp [hphase]) _
  · obtain rfl := Option.some.inj hnext
    exact h.afterSession hphase
  · cases hnext

/-- One step. -/
theorem inv_step (h : w.Inv) (hstep : w.step event = some w') : w'.Inv := by
  cases event with
  | stop =>
    obtain rfl := Option.some.inj hstep
    exact h.stops
  | next => exact inv_next h hstep
  | connected ok =>
    simp only [step] at hstep
    split at hstep
    · rename_i hphase
      obtain rfl := Option.some.inj hstep
      exact h.moves (by simp [hphase]) (by cases ok <;> simp) (by simp [hphase]) (by simp [hphase])
        (by cases ok <;> simp)
    · cases hstep
  | polled poll =>
    simp only [step] at hstep
    split at hstep
    · rename_i hphase
      obtain rfl := Option.some.inj hstep
      exact h.moves (by simp [hphase]) (by cases poll <;> simp) (by simp [hphase])
        (by simp [hphase]) (by cases poll <;> simp)
    · cases hstep
  | waited =>
    simp only [step] at hstep
    split at hstep
    · rename_i hphase
      obtain rfl := Option.some.inj hstep
      split_ifs
      · exact inv_finished rfl
      · exact h.waited hphase
    · cases hstep

/-- Every step of every thread is allowed. -/
def Free (_ : Worker) (_ : Event) : Prop := True

theorem inv_run (h : Run step Free {} w) : w.Inv := by
  refine h.invariant ?_ fun _ _ _ hinv _ hstep => inv_step hinv hstep
  constructor <;> simp [handled]

/-! ## Decisions -/

/-- A step of the worker that starts a session, or the last one that it takes. -/
def Decides (event : Event) (w' : Worker) : Prop :=
  event ≠ .stop ∧ (w'.phase = .connecting ∨ w'.phase = .finished)

/-- The loop either ends behind a session or waits. -/
lemma decides_afterSession (h : w.Inv) (hphase : w.phase = .returned result)
    (hdecides : Decides .next (w.afterSession result)) :
    (w.afterSession result).phase = .connecting ↔
      w.stopRequested = false ∧ GoesOn w.outcomes := by
  obtain ⟨hends, hcause⟩ | ⟨-, -, hwaits⟩ := afterSession_cases h hphase
  · rw [hends]
    refine iff_of_false Phase.noConfusion ?_
    rintro ⟨hstop, hgoes⟩
    rcases hcause with hstopped | hnot
    · rw [hstopped] at hstop
      cases hstop
    · exact hnot hgoes
  · rw [hwaits] at hdecides
    rcases hdecides.2 with hphase' | hphase' <;> cases hphase'

/-- The test at the head of the loop. -/
lemma decides_loopHead (h : w.Inv) (hphase : w.phase = .loopHead) (hafter : w.outcomes ≠ []) :
    (if w.stopRequested then Phase.finished else .connecting) = .connecting ↔
      w.stopRequested = false ∧ GoesOn w.outcomes := by
  have hold : w.handled = w.outcomes := handled_eq (by simp [hphase])
  have hgoesOn := h.goesOn (by simp [hphase]) (by rwa [hold])
  rw [hold] at hgoesOn
  cases w.stopRequested <;> simp [hgoesOn]

lemma decides_iff (h : w.Inv) (hstep : w.step event = some w') (hdecides : Decides event w')
    (hafter : w.outcomes ≠ []) :
    w'.phase = .connecting ↔ w.stopRequested = false ∧ GoesOn w.outcomes := by
  cases event with
  | stop => exact absurd rfl hdecides.1
  | next =>
    simp only [step, next] at hstep
    split at hstep
    all_goals
      rename_i hphase
    · obtain rfl := Option.some.inj hstep
      exact decides_loopHead h hphase hafter
    · obtain rfl := Option.some.inj hstep
      rcases hdecides.2 with hphase' | hphase' <;> cases hphase'
    · obtain rfl := Option.some.inj hstep
      split_ifs at hdecides <;>
      · rcases hdecides.2 with hphase' | hphase' <;> cases hphase'
    · obtain rfl := Option.some.inj hstep
      rcases hdecides.2 with hphase' | hphase' <;> cases hphase'
    · obtain rfl := Option.some.inj hstep
      rcases hdecides.2 with hphase' | hphase' <;> cases hphase'
    · obtain rfl := Option.some.inj hstep
      exact decides_afterSession h hphase hdecides
    · cases hstep
  | connected ok =>
    simp only [step] at hstep
    split at hstep
    · obtain rfl := Option.some.inj hstep
      cases ok <;> rcases hdecides.2 with hphase' | hphase' <;> cases hphase'
    · cases hstep
  | polled poll =>
    simp only [step] at hstep
    split at hstep
    · obtain rfl := Option.some.inj hstep
      cases poll <;> rcases hdecides.2 with hphase' | hphase' <;> cases hphase'
    · cases hstep
  | waited =>
    simp only [step] at hstep
    split at hstep
    · obtain rfl := Option.some.inj hstep
      cases hstop : w.stopRequested with
      | true => simp
      | false =>
        rw [hstop, if_neg Bool.false_ne_true] at hdecides
        rcases hdecides.2 with hphase' | hphase' <;> cases hphase'
    · cases hstep

lemma step_returned (hphase : w.phase = .returned result) :
    w.step .next = some (w.afterSession result) := by
  simp only [step, next, hphase]

/-- **The worker reconnects, after a wait that doubles.** -/
theorem reconnects (h : Run step Free {} w) :
    (∀ event w', w.step event = some w' → Decides event w' → w.outcomes ≠ [] →
      (w'.phase = .connecting ↔ w.stopRequested = false ∧ GoesOn w.outcomes)) ∧
    (w.phase = .waiting → w.backoff = delay (retries w.outcomes)) ∧
    ∀ result, w.phase = .returned result →
      (w.stopRequested = false ∧ GoesOn w.outcomes →
        (exec step w [.next, .waited, .next]).map phase = some .connecting) ∧
      (¬(w.stopRequested = false ∧ GoesOn w.outcomes) →
        (exec step w [.next]).map phase = some .finished) := by
  have hinv := inv_run h
  refine ⟨fun event w' hstep hdecides hafter => decides_iff hinv hstep hdecides hafter,
    fun hwaiting => (hinv.waiting hwaiting).2.1, fun result hphase => ⟨?_, ?_⟩⟩
  · rintro ⟨hstop, hgoes⟩
    obtain ⟨-, hcause⟩ | ⟨-, -, hwaits⟩ := afterSession_cases hinv hphase
    · rcases hcause with hstopped | hnot
      · rw [hstopped] at hstop
        cases hstop
      · exact absurd hgoes hnot
    · rw [exec, step_returned hphase, hwaits]
      simp [exec, step, next, hstop]
  · intro hnot
    obtain ⟨hends, -⟩ | ⟨hstop, hgoes, -⟩ := afterSession_cases hinv hphase
    · rw [exec, step_returned hphase, hends]
      rfl
    · exact absurd ⟨hstop, hgoes⟩ hnot

/-- A session with one message, and one that drops before its first. -/
def flakyRun : List Event :=
  [.next, .connected true, .next, .polled .taken, .next, .polled .failed, .next, .next, .waited,
    .next, .connected true, .next, .polled .failed, .next, .next]

theorem reconnects_flaky : ∃ w, exec step {} flakyRun = some w ∧ w.phase = .waiting ∧
    w.outcomes = [.droppedAfterData, .droppedEarly] ∧ w.backoff = delay 2 := by
  have hrun : exec step {} flakyRun = some
      { phase := .waiting, backoff := 2, firstSession := false, everProductive := true
        attempt := 2, outcomes := [.droppedAfterData, .droppedEarly] } := by decide
  exact ⟨_, hrun, rfl, rfl, (reconnects (Run.of_exec hrun fun _ _ _ => trivial)).2.1 rfl⟩

end Worker

end ArtemisSwitch.Reconnect

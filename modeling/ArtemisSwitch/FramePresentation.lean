import ArtemisSwitch.FrameConservation
import Mathlib.Data.Rat.Lemmas
import Mathlib.Tactic.Linarith
import Mathlib.Tactic.Positivity

/-!
# Low-latency presentation

Over exact rationals the filter never puts a frame off by more than a second, so the gate of the
oldest frame opens.
-/

namespace ArtemisSwitch.Frames
open Runs

/-! ## Bounds of the filter -/

def oneSecond : ℤ := 1000000000

lemma truncate_le {x : ℚ} {n : ℤ} (hn : 0 ≤ n) (h : x ≤ n) : Double.truncate x ≤ n := by
  change x.num.tdiv x.den ≤ n
  have hden : (0 : ℤ) < x.den := by exact_mod_cast x.den_pos
  have hnum : x.num ≤ n * x.den := by
    have hx := (Rat.le_iff x n).mp h
    simpa using hx
  by_cases hpos : 0 ≤ x.num
  · rw [Int.tdiv_eq_ediv_of_nonneg hpos]
    exact Int.ediv_le_of_le_mul hden hnum
  · have hneg : x.num.tdiv x.den ≤ 0 := by
      have := Int.tdiv_nonneg (a := -x.num) (b := x.den) (by omega) hden.le
      rw [Int.neg_tdiv] at this
      omega
    omega

lemma truncate_nonneg {x : ℚ} (h : 0 ≤ x) : 0 ≤ Double.truncate x := by
  change 0 ≤ x.num.tdiv x.den
  exact Int.tdiv_nonneg (Rat.num_nonneg.mpr h) (by positivity)

lemma truncate_min_le (x : ℚ) :
    Double.truncate (Double.min x (Double.ofRat 1000000000)) ≤ oneSecond := by
  apply truncate_le (by decide)
  unfold Double.min
  split_ifs with h
  · exact le_refl _
  · have hle : ¬(1000000000 : ℚ) < x := by simpa [Double.lt, Double.ofRat] using h
    exact_mod_cast not_lt.mp hle

/-- The filter expects the next frame within a second. -/
lemma update_within_second (streamFps : Int32) (now : Time) (f : LLFilter ℚ) :
    (f.update streamFps now).2 ≤ now + oneSecond := by
  by_cases hfirst : f.firstArrival = true
  · rw [LLFilter.update, if_pos hfirst]
    apply Int.add_le_add_left
    apply truncate_le (by decide)
    -- a second at one frame a second, and less at more
    split_ifs with hfps
    · have hone : (1 : ℚ) ≤ streamFps.toInt := by
        have hpos : 0 < streamFps.toInt := by simpa [Int32.lt_iff_toInt_lt] using hfps
        exact_mod_cast hpos
      exact div_le_self (by norm_num : (0 : ℚ) ≤ 1000000000) hone
    · change (1000000000 : ℚ) / 60 ≤ _
      norm_num [oneSecond]
  · rw [LLFilter.update, if_neg hfirst]
    exact Int.add_le_add_left (truncate_min_le _) now

lemma gateNs_nonneg (q : AVFrameQueue ℚ) : 0 ≤ q.gateNs := by
  apply truncate_nonneg
  apply mul_nonneg
  · unfold Double.max
    split_ifs with h
    · have hpos : (0 : ℚ) < presentGateLeadMs q.cost (q.ll.jitterNs / Double.ofRat 1000000) := by
        simpa [Double.lt, Double.ofRat] using h
      exact hpos.le
    · exact le_refl _
  · change (0 : ℚ) ≤ 1000000
    norm_num

/-- The frame is expected to be followed within a second of its push. -/
def Prompt (frame : TimedFrame) : Prop := frame.timeEstimate ≤ frame.queued + oneSecond

namespace AVFrameQueue

variable {q : AVFrameQueue ℚ}

lemma recordPush_within_second {now : Time} (hnow : 0 ≤ now) :
    (q.recordPush now).2 ≤ now + oneSecond := by
  unfold recordPush
  split_ifs
  · exact update_within_second _ _ _
  · have hsecond : 0 ≤ oneSecond := by decide
    exact Int.add_nonneg hnow hsecond

lemma enqueue_prompt {now : Time} {item : Frame} (h : ∀ f ∈ q.queue, Prompt f) (hnow : 0 ≤ now) :
    ∀ f ∈ (q.enqueue now item).queue, Prompt f := by
  obtain ⟨frame, n, -, hqueued, hestimate, hpush⟩ := q.enqueue_pushed now item
  intro f hf
  rw [hpush.queue] at hf
  cases List.mem_append.mp (List.mem_of_mem_drop hf) with
  | inl hold => exact h f hold
  | inr hnew =>
    rw [List.mem_singleton.mp hnew, Prompt, hqueued, hestimate]
    exact recordPush_within_second hnow

lemma pop_prompt {now : Time} (h : ∀ f ∈ q.queue, Prompt f) :
    ∀ f ∈ (q.pop now).queue.queue, Prompt f := by
  obtain hheld | ⟨n, selected, hconsumed⟩ := q.pop_pops now
  · rw [hheld.same.queue]
    exact h
  · intro f hf
    rw [hconsumed.queue] at hf
    exact h f (List.mem_of_mem_drop hf)

end AVFrameQueue

/-- The clock does not show a time before its epoch. -/
def Call.AfterEpoch (call : Call ℚ) : Prop := 0 ≤ call.pushTime

instance (call : Call ℚ) : Decidable call.AfterEpoch := inferInstanceAs (Decidable (0 ≤ _))

namespace Player

variable {s t : Player ℚ}

lemma step_prompt {call : Call ℚ} (h : ∀ f ∈ s.queue.queue, Prompt f) (hcall : call.AfterEpoch)
    (hstep : s.step call = some t) : ∀ f ∈ t.queue.queue, Prompt f := by
  obtain ⟨-, hsame⟩ | ⟨q, item, -, hqueue, hpush⟩ | ⟨now, hpop⟩ | ⟨-, hkept⟩ := step_queue hstep
  · rw [hsame]
    exact h
  · rw [hpush]
    exact AVFrameQueue.enqueue_prompt (by rwa [hqueue]) hcall
  · rw [hpop]
    exact AVFrameQueue.pop_prompt h
  · cases hkept with
    | inl hsame =>
      rw [hsame]
      exact h
    | inr hempty => simp [hempty]

theorem run_prompt (h : Run Player.step (fun _ call => call.AfterEpoch) {} s) :
    ∀ f ∈ s.queue.queue, Prompt f :=
  Run.invariant (I := fun s : Player ℚ => ∀ f ∈ s.queue.queue, Prompt f) (by simp)
    (fun _ _ _ hprompt hcall hstep => step_prompt hprompt hcall hstep) h

end Player

/-! ## Pops in low-latency mode -/

namespace AVFrameQueue

variable {F : Type} [Double F] {q : AVFrameQueue F} {front : TimedFrame}
  {queue : List TimedFrame} {now : Time}

/-- No backlog, and the deadline of the oldest frame has not come. -/
def Waits (q : AVFrameQueue F) (front : TimedFrame) (now : Time) : Prop :=
  q.queue.length - 1 ≤ q.targetBufferedFrames ∧ now < front.timeEstimate - q.gateNs

/-- The newest frame is presented, and all others are recycled. -/
structure Presents (q : AVFrameQueue F) (r : Popped F) : Prop where
  consumed : r.consumed = true
  frame : r.frame = q.queue.getLast?.map (·.frame)
  queue : r.queue.queue = []
  freeQueue : r.queue.freeQueue =
    q.freeQueue ++ q.queue.dropLast.map (·.frame) ++ q.bufferFrame.toList
  bufferFrame : r.queue.bufferFrame = r.frame

lemma popLowLatency_waits (hqueue : q.queue = front :: queue) (hwaits : q.Waits front now) :
    q.popLowLatency now = q.hold Statistics.scheduledHold := by
  have hwait : queue.length ≤ q.targetBufferedFrames ∧ now < front.timeEstimate - q.gateNs := by
    simpa [Waits, hqueue] using hwaits
  have hprepare : q.prepareLatestFrame now q.gateNs = (false, q) := by
    simp only [prepareLatestFrame, hqueue, if_pos hwait]
  have hne : q.queue ≠ [] := by simp [hqueue]
  rw [popLowLatency, if_neg hne, hprepare]

lemma popLowLatency_presents (hqueue : q.queue = front :: queue) (hready : ¬q.Waits front now) :
    Presents q (q.popLowLatency now) := by
  have hnot : ¬(queue.length ≤ q.targetBufferedFrames ∧
      now < front.timeEstimate - q.gateNs) := by
    simpa [Waits, hqueue] using hready
  have hprepare : q.prepareLatestFrame now q.gateNs =
      (true, q.dropTo 1 Statistics.pacingSkip) := by
    simp only [prepareLatestFrame, hqueue, if_neg hnot]
  have hne : q.queue ≠ [] := by simp [hqueue]
  have hskipped := q.dropTo_skipped 1
  have hlast : q.queue.drop (q.queue.length - 1) = [q.queue.getLast hne] :=
    List.drop_length_sub_one hne
  have holder : q.queue.take (q.queue.length - 1) = q.queue.dropLast :=
    List.dropLast_eq_take.symm
  rw [popLowLatency, if_neg hne, hprepare]
  generalize q.dropTo 1 Statistics.pacingSkip = p at *
  have hone : p.queue = [q.queue.getLast hne] := hskipped.queue.trans hlast
  simp only [hone]
  refine ⟨rfl, ?_, rfl, ?_, rfl⟩
  · rw [List.getLast?_eq_getLast_of_ne_nil hne]
    rfl
  · rw [recycleFrame, hskipped.freeQueue, hskipped.bufferFrame, holder]

/-- `pop` starts with the count of its pushes. -/
def popped (q : AVFrameQueue F) : AVFrameQueue F :=
  { q with stats := { q.stats with pushesSincePop := 0 } }

lemma pop_lowLatency (hlow : q.lowLatency = true) : q.pop now = q.popped.popLowLatency now :=
  if_pos hlow

/-- A pop that waits changes neither the queue nor the gate. -/
theorem pop_waits (hlow : q.lowLatency = true) (hqueue : q.queue = front :: queue)
    (hwaits : q.Waits front now) :
    (q.pop now).consumed = false ∧ (q.pop now).queue.queue = q.queue ∧
      (q.pop now).queue.gateNs = q.gateNs := by
  rw [pop_lowLatency hlow, popLowLatency_waits (q := q.popped) hqueue hwaits]
  exact ⟨rfl, rfl, rfl⟩

theorem pop_presents (hlow : q.lowLatency = true) (hqueue : q.queue = front :: queue)
    (hready : ¬q.Waits front now) : Presents q (q.pop now) := by
  rw [pop_lowLatency hlow]
  have h := popLowLatency_presents (q := q.popped) hqueue hready
  exact ⟨h.consumed, h.frame, h.queue, h.freeQueue, h.bufferFrame⟩

end AVFrameQueue

/-- In low-latency mode a pop that finds a frame waits only without a backlog and before the
deadline of the oldest frame, which comes within a second of its push.  A pop that does not wait
presents the newest frame and recycles the others. -/
theorem low_latency_presents {s : Player ℚ}
    (h : Run Player.step (fun _ call => call.AfterEpoch) {} s) (hlow : s.queue.lowLatency = true)
    {front : TimedFrame} {queue : List TimedFrame} (hqueue : s.queue.queue = front :: queue)
    (now : Time) :
    ((s.queue.pop now).consumed = false →
      s.queue.Waits front now ∧ (s.queue.pop now).queue.queue = s.queue.queue ∧
        (s.queue.pop now).queue.gateNs = s.queue.gateNs) ∧
      (front.queued + oneSecond ≤ now → (s.queue.pop now).consumed = true) ∧
      ((s.queue.pop now).consumed = true → AVFrameQueue.Presents s.queue (s.queue.pop now)) := by
  have hfront : front.timeEstimate ≤ front.queued + oneSecond :=
    Player.run_prompt h front (by simp [hqueue])
  have hgate : 0 ≤ s.queue.gateNs := gateNs_nonneg s.queue
  by_cases hwaits : s.queue.Waits front now
  · have hpop := AVFrameQueue.pop_waits hlow hqueue hwaits
    refine ⟨fun _ => ⟨hwaits, hpop.2⟩, fun hlate => ?_, fun hconsumed => ?_⟩
    · have hearly : now < front.timeEstimate - s.queue.gateNs := hwaits.2
      linarith
    · rw [hpop.1] at hconsumed
      exact absurd hconsumed (by decide)
  · have hpop := AVFrameQueue.pop_presents hlow hqueue hwaits
    refine ⟨fun hheld => ?_, fun _ => hpop.consumed, fun _ => hpop⟩
    rw [hpop.consumed] at hheld
    exact absurd hheld (by decide)

/-- A frame at 60 a second, before its deadline. -/
def oneFrame : List (Call ℚ) :=
  [.configure 3 60 true true, .allocate, .pushTransferred 1000000 (some 0)]

def afterOneFrame : Player ℚ := (exec Player.step {} oneFrame).get (by decide +kernel)

/-- It is expected to be followed after a sixtieth of a second. -/
def firstFrame : TimedFrame := { timeEstimate := 17666666, queued := 1000000, frame := 0 }

theorem low_latency_presents_oneFrame :
    ((afterOneFrame.queue.pop 2000000).consumed = false →
      afterOneFrame.queue.Waits firstFrame 2000000 ∧
        (afterOneFrame.queue.pop 2000000).queue.queue = afterOneFrame.queue.queue ∧
        (afterOneFrame.queue.pop 2000000).queue.gateNs = afterOneFrame.queue.gateNs) ∧
      (firstFrame.queued + oneSecond ≤ 2000000 →
        (afterOneFrame.queue.pop 2000000).consumed = true) ∧
      ((afterOneFrame.queue.pop 2000000).consumed = true →
        AVFrameQueue.Presents afterOneFrame.queue (afterOneFrame.queue.pop 2000000)) :=
  low_latency_presents
    (Run.of_exec_guarded (show exec (guarded Player.step fun _ call => call.AfterEpoch) {}
      oneFrame = some afterOneFrame from (Option.some_get _).symm))
    (by decide +kernel) (show afterOneFrame.queue.queue = [firstFrame] by decide +kernel) 2000000

end ArtemisSwitch.Frames

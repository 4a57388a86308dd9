import ArtemisSwitch.FrameQueue

/-!
# No frame is lost

Every frame has one owner, pops return frames in the order of the pushes, and the counters add
up, whatever the clock, the numbers of the pacing and the results of the allocations are.
-/

namespace ArtemisSwitch.Frames
open Runs

variable {F : Type} [Double F]

/-! ## What the loops do -/

lemma dropTo_eq (keep : ℕ) (count : Statistics → Statistics) (queue : List TimedFrame)
    (freeQueue : List Frame) (stats : Statistics) :
    dropTo keep count queue freeQueue stats =
      (queue.drop (queue.length - keep),
        freeQueue ++ (queue.take (queue.length - keep)).map (·.frame),
        count^[queue.length - keep] stats) := by
  induction queue generalizing freeQueue stats with
  | nil => simp [dropTo]
  | cons front queue ih =>
    by_cases h : keep < queue.length + 1
    · have hlength : (front :: queue).length - keep = queue.length - keep + 1 := by
        rw [List.length_cons]
        omega
      rw [dropTo, if_pos h, ih, hlength]
      simp
    · have hlength : (front :: queue).length - keep = 0 := by
        rw [List.length_cons]
        omega
      rw [dropTo, if_neg h, hlength]
      simp

/-- The counters that account for a frame: shown, dropped, and the two reasons for a drop. -/
def Statistics.account (stats : Statistics) : ℕ × ℕ × ℕ × ℕ :=
  (stats.localClockPacedFrameStat, stats.framesDroppedStat, stats.overflowDropStat,
    stats.pacingSkipStat)

lemma overflowDrop_account (n : ℕ) (stats : Statistics) :
    (Statistics.overflowDrop^[n] stats).account =
      (stats.localClockPacedFrameStat, stats.framesDroppedStat + n, stats.overflowDropStat + n,
        stats.pacingSkipStat) := by
  induction n generalizing stats with
  | zero => rfl
  | succ n ih =>
    rw [Function.iterate_succ_apply, ih]
    simp only [Statistics.overflowDrop, Prod.mk.injEq, true_and, and_true]
    omega

lemma pacingSkip_account (n : ℕ) (stats : Statistics) :
    (Statistics.pacingSkip^[n] stats).account =
      (stats.localClockPacedFrameStat, stats.framesDroppedStat + n, stats.overflowDropStat,
        stats.pacingSkipStat + n) := by
  induction n generalizing stats with
  | zero => rfl
  | succ n ih =>
    rw [Function.iterate_succ_apply, ih]
    simp only [Statistics.pacingSkip, Prod.mk.injEq, true_and]
    omega

namespace AVFrameQueue

/-- What configures the queue is the same. -/
structure SameSetup (q q' : AVFrameQueue F) : Prop where
  limit : q'.limit = q.limit
  targetBufferedFrames : q'.targetBufferedFrames = q.targetBufferedFrames
  lowLatency : q'.lowLatency = q.lowLatency
  transferOwnership : q'.transferOwnership = q.transferOwnership

/-- A push of `frame` that drops the `n` oldest frames. -/
structure Pushed (q q' : AVFrameQueue F) (frame : TimedFrame) (n : ℕ) : Prop where
  setup : SameSetup q q'
  few : n ≤ q.queue.length
  queue : q'.queue = (q.queue ++ [frame]).drop n
  freeQueue : q'.freeQueue = q.freeQueue ++ (q.queue.take n).map (·.frame)
  bufferFrame : q'.bufferFrame = q.bufferFrame
  account : q'.stats.account =
    (q.stats.localClockPacedFrameStat, q.stats.framesDroppedStat + n,
      q.stats.overflowDropStat + n, q.stats.pacingSkipStat)
  room : q'.queue.length ≤ max q.limit (q.targetBufferedFrames + 1)

section
variable (q : AVFrameQueue F) (keep : ℕ) (count : Statistics → Statistics)

@[simp] lemma dropTo_queue :
    (q.dropTo keep count).queue = q.queue.drop (q.queue.length - keep) := by
  simp [dropTo, dropTo_eq]

@[simp] lemma dropTo_freeQueue : (q.dropTo keep count).freeQueue =
    q.freeQueue ++ (q.queue.take (q.queue.length - keep)).map (·.frame) := by
  simp [dropTo, dropTo_eq]

@[simp] lemma dropTo_stats :
    (q.dropTo keep count).stats = count^[q.queue.length - keep] q.stats := by
  simp [dropTo, dropTo_eq]

@[simp] lemma dropTo_bufferFrame : (q.dropTo keep count).bufferFrame = q.bufferFrame := rfl

lemma dropTo_setup : SameSetup q (q.dropTo keep count) := ⟨rfl, rfl, rfl, rfl⟩

end

/-- The queue once the arrival is noted and the frame is at its end. -/
def queued (q : AVFrameQueue F) (now : Time) (item : Frame) : AVFrameQueue F :=
  let (q, timeEstimate) := q.recordPush now
  let pushesSincePop := q.stats.pushesSincePop + 1
  { q with
    queue := q.queue ++ [{ timeEstimate := timeEstimate, queued := now, frame := item }]
    stats := { q.stats with
      pushesSincePop := pushesSincePop
      maxPushBurstStat := max q.stats.maxPushBurstStat pushesSincePop } }

lemma enqueue_eq (q : AVFrameQueue F) (now : Time) (item : Frame) :
    q.enqueue now item =
      if (q.queued now item).limit < (q.queued now item).queue.length then
        (q.queued now item).dropOverflow
      else q.queued now item :=
  rfl

/-- What is dropped to make room; the pacing state is another one. -/
lemma dropOverflow_eq (q : AVFrameQueue F) :
    ∃ legacy ll, q.dropOverflow =
      { q.dropTo (q.targetBufferedFrames + 1) Statistics.overflowDrop with
        legacy := legacy, ll := ll } := by
  unfold dropOverflow
  dsimp only
  split_ifs
  · exact ⟨_, {}, rfl⟩
  · exact ⟨_, _, rfl⟩

lemma queued_pushed (q : AVFrameQueue F) (now : Time) (item : Frame) :
    ∃ frame, frame.frame = item ∧ frame.queued = now ∧
      frame.timeEstimate = (q.recordPush now).2 ∧
      (q.queued now item).queue = q.queue ++ [frame] ∧
      SameSetup q (q.queued now item) ∧ (q.queued now item).freeQueue = q.freeQueue ∧
      (q.queued now item).bufferFrame = q.bufferFrame ∧
      (q.queued now item).stats.account = q.stats.account := by
  refine ⟨⟨(q.recordPush now).2, now, item⟩, rfl, rfl, rfl, ?_⟩
  unfold queued recordPush
  dsimp only
  split_ifs
  · exact ⟨rfl, ⟨rfl, rfl, rfl, rfl⟩, rfl, rfl, rfl⟩
  · exact ⟨rfl, ⟨rfl, rfl, rfl, rfl⟩, rfl, rfl, rfl⟩

/-- A push drops the oldest frames, or none. -/
theorem enqueue_pushed (q : AVFrameQueue F) (now : Time) (item : Frame) :
    ∃ frame n, frame.frame = item ∧ frame.queued = now ∧
      frame.timeEstimate = (q.recordPush now).2 ∧ Pushed q (q.enqueue now item) frame n := by
  obtain ⟨frame, hframe, hqueued, hestimate, hqueue, hsetup, hfree, hbuffer, haccount⟩ :=
    queued_pushed q now item
  rw [enqueue_eq]
  generalize q.queued now item = p at *
  have hlength : p.queue.length = q.queue.length + 1 := by rw [hqueue]; simp
  by_cases hfull : p.limit < p.queue.length
  · rw [if_pos hfull]
    obtain ⟨legacy, ll, hdrop⟩ := p.dropOverflow_eq
    have hn : p.queue.length - (p.targetBufferedFrames + 1) ≤ q.queue.length := by omega
    refine ⟨frame, _, hframe, hqueued, hestimate, ?_, hn, ?_, ?_, ?_, ?_, ?_⟩
    · rw [hdrop]
      exact ⟨hsetup.limit, hsetup.targetBufferedFrames, hsetup.lowLatency,
        hsetup.transferOwnership⟩
    · simp [hdrop, hqueue]
    · have htake : p.queue.take (p.queue.length - (p.targetBufferedFrames + 1)) =
          q.queue.take (p.queue.length - (p.targetBufferedFrames + 1)) := by
        rw [hqueue, List.take_append_of_le_length (by rwa [hqueue] at hn)]
      simp [hdrop, hfree, htake]
    · simp [hdrop, hbuffer]
    · simp only [Statistics.account, Prod.mk.injEq] at haccount
      simp [hdrop, overflowDrop_account, haccount]
    · have htarget : p.targetBufferedFrames = q.targetBufferedFrames :=
        hsetup.targetBufferedFrames
      simp only [hdrop, dropTo_queue, List.length_drop]
      omega
  · rw [if_neg hfull]
    refine ⟨frame, 0, hframe, hqueued, hestimate, hsetup, by omega, ?_, ?_, hbuffer, ?_, ?_⟩
    · rw [hqueue, List.drop_zero]
    · rw [hfree, List.take_zero, List.map_nil, List.append_nil]
    · exact haccount
    · have hlimit : p.limit = q.limit := hsetup.limit
      omega

/-! ## What a pop does -/

/-- The frames and their account are as before. -/
structure SameFrames (q q' : AVFrameQueue F) : Prop where
  setup : SameSetup q q'
  queue : q'.queue = q.queue
  freeQueue : q'.freeQueue = q.freeQueue
  bufferFrame : q'.bufferFrame = q.bufferFrame
  account : q'.stats.account = q.stats.account

/-- The pop returns the buffered frame again. -/
structure Held (q : AVFrameQueue F) (r : Popped F) : Prop where
  same : SameFrames q r.queue
  consumed : r.consumed = false
  frame : r.frame = q.bufferFrame

/-- The pop skips `n` frames and shows the next one. -/
structure Consumed (q : AVFrameQueue F) (r : Popped F) (n : ℕ) (selected : TimedFrame) : Prop where
  setup : SameSetup q r.queue
  consumed : r.consumed = true
  nth : q.queue[n]? = some selected
  frame : r.frame = some selected.frame
  queue : r.queue.queue = q.queue.drop (n + 1)
  freeQueue : r.queue.freeQueue.Perm
    (q.freeQueue ++ (q.queue.take n).map (·.frame) ++ q.bufferFrame.toList)
  bufferFrame : r.queue.bufferFrame = some selected.frame
  account : r.queue.stats.account =
    (q.stats.localClockPacedFrameStat + 1, q.stats.framesDroppedStat + n,
      q.stats.overflowDropStat, q.stats.pacingSkipStat + n)

lemma SameFrames.refl (q : AVFrameQueue F) : SameFrames q q :=
  ⟨⟨rfl, rfl, rfl, rfl⟩, rfl, rfl, rfl, rfl⟩

variable {q p : AVFrameQueue F} {r : Popped F} {n : ℕ} {selected : TimedFrame}

lemma Held.of_same (h : SameFrames q p) (hr : Held p r) : Held q r where
  same := {
    setup := ⟨hr.same.setup.limit.trans h.setup.limit,
      hr.same.setup.targetBufferedFrames.trans h.setup.targetBufferedFrames,
      hr.same.setup.lowLatency.trans h.setup.lowLatency,
      hr.same.setup.transferOwnership.trans h.setup.transferOwnership⟩
    queue := hr.same.queue.trans h.queue
    freeQueue := hr.same.freeQueue.trans h.freeQueue
    bufferFrame := hr.same.bufferFrame.trans h.bufferFrame
    account := hr.same.account.trans h.account }
  consumed := hr.consumed
  frame := hr.frame.trans h.bufferFrame

/-- `takeDue` on the frames of a queue. -/
lemma takeDue_eq (n : ℕ) (q : AVFrameQueue F) (h : q.queue[n]? = some selected) :
    takeDue (n + 1) q =
      { q with
        queue := q.queue.drop (n + 1)
        freeQueue := q.freeQueue ++ (q.queue.take n).map (·.frame)
        bufferFrame := some selected.frame
        stats := Statistics.pacingSkip^[n] q.stats } := by
  induction n generalizing q with
  | zero =>
    unfold takeDue
    cases hq : q.queue with
    | nil => simp [hq] at h
    | cons item queue =>
      obtain rfl : item = selected := by simpa [hq] using h
      simp
  | succ n ih =>
    unfold takeDue
    cases hq : q.queue with
    | nil => simp [hq] at h
    | cons item queue =>
      have hrest : queue[n]? = some selected := by simpa [hq] using h
      simp only [Nat.add_eq_zero_iff, one_ne_zero, and_false, if_false]
      rw [ih _ hrest]
      simp

/-- The `n` oldest frames are skipped. -/
structure Skipped (q q' : AVFrameQueue F) (n : ℕ) : Prop where
  setup : SameSetup q q'
  queue : q'.queue = q.queue.drop n
  freeQueue : q'.freeQueue = q.freeQueue ++ (q.queue.take n).map (·.frame)
  bufferFrame : q'.bufferFrame = q.bufferFrame
  account : q'.stats.account =
    (q.stats.localClockPacedFrameStat, q.stats.framesDroppedStat + n,
      q.stats.overflowDropStat, q.stats.pacingSkipStat + n)

lemma SameFrames.skipped (h : SameFrames q p) : Skipped q p 0 :=
  ⟨h.setup, h.queue, by simpa using h.freeQueue, h.bufferFrame, h.account⟩

lemma dropTo_skipped (q : AVFrameQueue F) (keep : ℕ) :
    Skipped q (q.dropTo keep Statistics.pacingSkip) (q.queue.length - keep) :=
  ⟨dropTo_setup q keep _, dropTo_queue q keep _, dropTo_freeQueue q keep _, rfl,
    by rw [dropTo_stats, pacingSkip_account]⟩

/-- Frames that were skipped first count as skipped by the pop. -/
lemma Consumed.of_skipped {k : ℕ} (h : Skipped q p k) (hr : Consumed p r n selected) :
    Consumed q r (k + n) selected where
  setup := ⟨hr.setup.limit.trans h.setup.limit,
    hr.setup.targetBufferedFrames.trans h.setup.targetBufferedFrames,
    hr.setup.lowLatency.trans h.setup.lowLatency,
    hr.setup.transferOwnership.trans h.setup.transferOwnership⟩
  consumed := hr.consumed
  nth := by
    have hnth := hr.nth
    rwa [h.queue, List.getElem?_drop] at hnth
  frame := hr.frame
  queue := by rw [hr.queue, h.queue, List.drop_drop, Nat.add_assoc]
  freeQueue := by
    have hperm := hr.freeQueue
    rw [h.freeQueue, h.queue, h.bufferFrame] at hperm
    rw [List.take_add, List.map_append, ← List.append_assoc]
    exact hperm
  bufferFrame := hr.bufferFrame
  account := by
    have haccount := hr.account
    have hbefore := h.account
    simp only [Statistics.account, Prod.mk.injEq] at haccount hbefore ⊢
    omega

lemma consume_consumed (q : AVFrameQueue F) {due : ℕ} (hdue : due ≠ 0) (hqueue : q.queue ≠ []) :
    ∃ n selected, Consumed q (q.consume due) n selected := by
  have hlength : 0 < q.queue.length := List.length_pos_iff.mpr hqueue
  obtain ⟨n, hn⟩ : ∃ n, min q.queue.length due = n + 1 :=
    Nat.exists_eq_add_one.mpr (Nat.lt_min.mpr ⟨hlength, Nat.pos_of_ne_zero hdue⟩)
  have hle : min q.queue.length due ≤ q.queue.length := Nat.min_le_left ..
  have hlt : n < q.queue.length := by omega
  have hnth : q.queue[n]? = some q.queue[n] := List.getElem?_eq_getElem hlt
  have htake := takeDue_eq n
    { q with freeQueue := recycleFrame q.freeQueue q.bufferFrame, bufferFrame := none } hnth
  refine ⟨n, q.queue[n], ?_⟩
  simp only [consume, hn, htake]
  refine ⟨⟨rfl, rfl, rfl, rfl⟩, rfl, hnth, rfl, rfl, ?_, rfl, ?_⟩
  · simp only [recycleFrame, List.append_assoc]
    exact List.Perm.append_left _ List.perm_append_comm
  · have hskip := pacingSkip_account n q.stats
    simp only [Statistics.account, Prod.mk.injEq] at hskip ⊢
    omega

/-- What is due, and what was skipped to find out: nothing if the pop is held. -/
lemma dueFrames_skipped (q : AVFrameQueue F) :
    ∃ n, Skipped q q.dueFrames.2 n ∧
      (q.dueFrames.1 = 0 ∨ q.dueFrames.2.queue = [] → SameFrames q q.dueFrames.2) := by
  have hsame : ∀ legacy, SameFrames q { q with legacy := legacy } :=
    fun _ => ⟨⟨rfl, rfl, rfl, rfl⟩, rfl, rfl, rfl, rfl⟩
  have htrim : Skipped q q.trimToPlayoutWindow (q.queue.length - (q.targetBufferedFrames + 1)) :=
    dropTo_skipped q _
  unfold dueFrames
  dsimp only
  by_cases hresync : (q.legacy.playoutResyncNeeded = true ∨
      0 < q.limit ∧ q.limit ≤ q.queue.length) ∧ q.queue ≠ []
  · rw [if_pos hresync]
    refine ⟨_, ⟨⟨rfl, rfl, rfl, rfl⟩, htrim.queue, htrim.freeQueue, htrim.bufferFrame,
      htrim.account⟩, ?_⟩
    -- a trimmed queue still holds a frame, and one is due
    rintro (hnone | hempty)
    · simp at hnone
    · have hqueue : q.trimToPlayoutWindow.queue = [] := hempty
      have hlength : 0 < q.queue.length := List.length_pos_iff.mpr hresync.2
      rw [htrim.queue, List.drop_eq_nil_iff] at hqueue
      omega
  · rw [if_neg hresync]
    split_ifs
    · exact ⟨0, (SameFrames.refl q).skipped, fun _ => .refl q⟩
    · exact ⟨0, (SameFrames.refl q).skipped, fun _ => .refl q⟩
    · unfold creditFrames
      dsimp only
      split_ifs
      · exact ⟨0, (hsame _).skipped, fun _ => hsame _⟩
      · exact ⟨0, (hsame _).skipped, fun _ => hsame _⟩

/-- Counting a pop that holds leaves the account alone. -/
lemma hold_held (h : SameFrames q p) {count : Statistics → Statistics}
    (hcount : (count p.stats).account = p.stats.account) : Held q (p.hold count) :=
  Held.of_same h ⟨⟨⟨rfl, rfl, rfl, rfl⟩, rfl, rfl, rfl, hcount⟩, rfl, rfl⟩

lemma fakeFrame_account (bufferFrame : Option Frame) (reason : Statistics → Statistics)
    (hreason : ∀ stats, (reason stats).account = stats.account) (stats : Statistics) :
    (stats.fakeFrame bufferFrame reason).account = stats.account := by
  unfold Statistics.fakeFrame
  split_ifs
  · rw [hreason]
    rfl
  · rfl

/-- A pop holds, or it consumes. -/
def Pops (q : AVFrameQueue F) (r : Popped F) : Prop :=
  Held q r ∨ ∃ n selected, Consumed q r n selected

lemma popPaced_pops (q : AVFrameQueue F) : Pops q q.popPaced := by
  obtain ⟨n, hskipped, hsame⟩ := q.dueFrames_skipped
  unfold popPaced
  generalize q.dueFrames = due at *
  obtain ⟨due, p⟩ := due
  dsimp only
  split_ifs with hnone hempty
  · exact .inl (hold_held (hsame (.inl hnone)) rfl)
  · have hp := hsame (.inr hempty)
    refine .inl (hold_held ?_ (fakeFrame_account _ Statistics.emptyQueue (fun _ => rfl) _))
    exact ⟨⟨hp.setup.limit, hp.setup.targetBufferedFrames, hp.setup.lowLatency,
      hp.setup.transferOwnership⟩, hp.queue, hp.freeQueue, hp.bufferFrame, hp.account⟩
  · obtain ⟨m, selected, hconsumed⟩ := p.consume_consumed hnone hempty
    exact .inr ⟨n + m, selected, hconsumed.of_skipped hskipped⟩

lemma Pops.of_same (h : SameFrames q p) (hr : Pops p r) : Pops q r := by
  obtain hheld | ⟨n, selected, hconsumed⟩ := hr
  · exact .inl (hheld.of_same h)
  · refine .inr ⟨n, selected, ?_⟩
    simpa using hconsumed.of_skipped h.skipped

lemma popLegacy_pops (q : AVFrameQueue F) (now : Time) : Pops q (q.popLegacy now) := by
  unfold popLegacy
  dsimp only
  split_ifs
  · refine .inl (hold_held ?_ (fakeFrame_account _ Statistics.rebufferHold (fun _ => rfl) _))
    exact ⟨⟨rfl, rfl, rfl, rfl⟩, rfl, rfl, rfl, rfl⟩
  · refine Pops.of_same ?_ (popPaced_pops _)
    exact ⟨⟨rfl, rfl, rfl, rfl⟩, rfl, rfl, rfl, rfl⟩
  · refine Pops.of_same ?_ (popPaced_pops _)
    exact ⟨⟨rfl, rfl, rfl, rfl⟩, rfl, rfl, rfl, rfl⟩

lemma prepareLatestFrame_cases (q : AVFrameQueue F) (now : Time) (lead : ℤ) (h : q.queue ≠ []) :
    q.prepareLatestFrame now lead = (false, q) ∨
      q.prepareLatestFrame now lead = (true, q.dropTo 1 Statistics.pacingSkip) := by
  cases hqueue : q.queue with
  | nil => exact absurd hqueue h
  | cons front queue =>
    simp only [prepareLatestFrame, hqueue]
    split_ifs
    · exact .inl rfl
    · exact .inr rfl

/-- In low-latency mode a pop that consumes skips all frames but the newest. -/
lemma popLowLatency_cases (q : AVFrameQueue F) (now : Time) :
    Held q (q.popLowLatency now) ∨
      ∃ selected, Consumed q (q.popLowLatency now) (q.queue.length - 1) selected := by
  unfold popLowLatency
  split_ifs with hempty
  · refine .inl (hold_held (.refl q) (fakeFrame_account _ Statistics.emptyQueue (fun _ => rfl) _))
  · obtain hwait | hready := q.prepareLatestFrame_cases now q.gateNs hempty
    · rw [hwait]
      exact .inl (hold_held (.refl q) rfl)
    · have hskipped := q.dropTo_skipped 1
      have hlast : q.queue.drop (q.queue.length - 1) = [q.queue.getLast hempty] :=
        List.drop_length_sub_one hempty
      rw [hready]
      generalize q.dropTo 1 Statistics.pacingSkip = p at *
      have hone : p.queue = [q.queue.getLast hempty] := hskipped.queue.trans hlast
      refine .inr ⟨q.queue.getLast hempty, ?_⟩
      simp only [hone]
      apply Consumed.of_skipped hskipped (n := 0)
      refine ⟨⟨rfl, rfl, rfl, rfl⟩, rfl, by rw [hone]; rfl, rfl, by rw [hone]; rfl, ?_, rfl, rfl⟩
      simp [recycleFrame]

/-- A pop holds, or shows a frame from the queue. -/
theorem pop_pops (q : AVFrameQueue F) (now : Time) : Pops q (q.pop now) := by
  have hsame : SameFrames q { q with stats := { q.stats with pushesSincePop := 0 } } :=
    ⟨⟨rfl, rfl, rfl, rfl⟩, rfl, rfl, rfl, rfl⟩
  unfold pop
  dsimp only
  split_ifs
  · apply Pops.of_same hsame
    exact (popLowLatency_cases _ now).imp id fun ⟨selected, h⟩ => ⟨_, selected, h⟩
  · exact (popLegacy_pops _ now).of_same hsame

end AVFrameQueue

/-! ## Who owns a frame -/

namespace AVFrameQueue

variable {q q' : AVFrameQueue F} {r : Popped F} {frame : TimedFrame} {n : ℕ}

/-- The frames of the queue are counted with the one that is pushed. -/
lemma Pushed.frames (h : Pushed q q' frame n) : q'.frames.Perm (frame.frame :: q.frames) := by
  rw [List.perm_iff_count]
  intro a
  have hsplit := congrArg (fun l => (l.map (·.frame)).count a) (List.take_append_drop n q.queue)
  simp only [List.map_append, List.count_append] at hsplit
  simp only [AVFrameQueue.frames, h.queue, h.freeQueue, h.bufferFrame, List.count_append,
    List.count_cons, List.drop_append_of_le_length h.few, List.map_append, List.map_cons,
    List.map_nil, List.count_nil]
  omega

lemma Pops.frames (h : Pops q r) : r.queue.frames.Perm q.frames := by
  obtain hheld | ⟨n, selected, hconsumed⟩ := h
  · simp [AVFrameQueue.frames, hheld.same.queue, hheld.same.freeQueue, hheld.same.bufferFrame]
  · rw [List.perm_iff_count]
    intro a
    have hlt : n < q.queue.length := (List.getElem?_eq_some_iff.mp hconsumed.nth).1
    have hnth : q.queue[n] = selected := (List.getElem?_eq_some_iff.mp hconsumed.nth).2
    have hdrop : q.queue.drop n = selected :: q.queue.drop (n + 1) := by
      rw [List.drop_eq_getElem_cons hlt, hnth]
    have hsplit := congrArg (fun l => (l.map (·.frame)).count a) (List.take_append_drop n q.queue)
    have hfree := hconsumed.freeQueue.count_eq a
    rw [hdrop] at hsplit
    simp only [List.map_append, List.map_cons, List.count_append, List.count_cons] at hsplit hfree
    simp only [AVFrameQueue.frames, hconsumed.queue, hconsumed.bufferFrame, List.count_append,
      Option.toList_some, List.count_cons, List.count_nil]
    omega

/-- A frame is acquired from the free queue or from the heap. -/
lemma acquireFrame_frames (q : AVFrameQueue F) (allocOk : Bool) (heap : Heap) (a : Frame) :
    (q.acquireFrame allocOk heap).2.2.frames.count a +
        (q.acquireFrame allocOk heap).1.toList.count a + (List.range heap.allocated).count a =
      q.frames.count a + (List.range (q.acquireFrame allocOk heap).2.1.allocated).count a ∧
    (q.acquireFrame allocOk heap).2.1.freed = heap.freed := by
  unfold acquireFrame
  cases hfree : q.freeQueue with
  | cons frame freeQueue =>
    refine ⟨?_, rfl⟩
    simp only [AVFrameQueue.frames, hfree, List.count_append, Option.toList_some, List.count_cons,
      List.count_nil]
    omega
  | nil =>
    cases allocOk with
    | false => simp [avFrameAlloc]
    | true =>
      refine ⟨?_, rfl⟩
      simp only [avFrameAlloc, if_true, List.range_succ, List.count_append, Option.toList_some]
      omega

lemma acquireFrame_rest (q : AVFrameQueue F) (allocOk : Bool) (heap : Heap) :
    SameSetup q (q.acquireFrame allocOk heap).2.2 ∧
      (q.acquireFrame allocOk heap).2.2.queue = q.queue ∧
      (q.acquireFrame allocOk heap).2.2.stats = q.stats := by
  unfold acquireFrame
  cases q.freeQueue with
  | cons frame freeQueue => exact ⟨⟨rfl, rfl, rfl, rfl⟩, rfl, rfl⟩
  | nil => exact ⟨⟨rfl, rfl, rfl, rfl⟩, rfl, rfl⟩

/-- The frames of the queue and of the heap before and after a call, together with those that
the call has in hand. -/
def Balanced (q : AVFrameQueue F) (heap : Heap) (hand : List Frame) (q' : AVFrameQueue F)
    (heap' : Heap) : Prop :=
  ∀ a, q'.frames.count a + hand.count a + heap'.freed.count a +
      (List.range heap.allocated).count a =
    q.frames.count a + heap.freed.count a + (List.range heap'.allocated).count a

/-- A push by reference queues a frame of its own, or none. -/
lemma push_cases (q : AVFrameQueue F) (allocOk refOk : Bool) (now : Time) (item : Option Frame)
    (heap : Heap) (htransfer : ¬q.transferOwnership = true) :
    ∃ queued heap' q', SameSetup q q' ∧ q'.queue = q.queue ∧ q'.stats = q.stats ∧
      Balanced q heap queued.toList q' heap' ∧
      q.push allocOk refOk now item heap =
        (queued, heap', queued.elim q' fun frame => q'.enqueue now frame) := by
  cases item with
  | none => exact ⟨none, heap, q, ⟨rfl, rfl, rfl, rfl⟩, rfl, rfl, fun a => rfl, rfl⟩
  | some item =>
    obtain ⟨hsetup, hqueue, hstats⟩ := q.acquireFrame_rest allocOk heap
    have hframes := q.acquireFrame_frames allocOk heap
    simp only [push, if_neg htransfer]
    generalize q.acquireFrame allocOk heap = acquired at *
    obtain ⟨frame, heap', q'⟩ := acquired
    dsimp only at hsetup hqueue hstats hframes
    cases frame with
    | none =>
      refine ⟨none, heap', q', hsetup, hqueue, hstats, fun a => ?_, rfl⟩
      obtain ⟨hacquired, hfreed⟩ := hframes a
      rw [hfreed]
      omega
    | some frame =>
      cases refOk with
      | true =>
        refine ⟨some frame, heap', q', hsetup, hqueue, hstats, fun a => ?_, rfl⟩
        obtain ⟨hacquired, hfreed⟩ := hframes a
        rw [hfreed]
        omega
      | false =>
        refine ⟨none, _, q', hsetup, hqueue, hstats, fun a => ?_, rfl⟩
        obtain ⟨hacquired, hfreed⟩ := hframes a
        simp only [avFrameFree, List.count_append, hfreed, Option.toList_none, List.count_nil,
          Option.toList_some] at hacquired ⊢
        omega

lemma cleanup_frames (q : AVFrameQueue F) (heap : Heap) :
    ((q.cleanup heap).2.frames ++ (q.cleanup heap).1.freed).Perm (q.frames ++ heap.freed) := by
  rw [List.perm_iff_count]
  intro a
  simp only [cleanup, AVFrameQueue.frames, avFrameFree, List.map_nil, Option.toList_none,
    List.count_append, List.count_nil]
  omega

end AVFrameQueue

/-! ## Runs -/

namespace Player

/-- Every allocated frame is the queue's, the caller's or freed, and in one place only. -/
def Owned (s : Player F) : Prop :=
  (s.queue.frames ++ s.caller ++ s.heap.freed).Perm (List.range s.heap.allocated)

/-- What pops have returned is a part of what was pushed, in that order. -/
structure InOrder (s : Player F) : Prop where
  increasing : s.presented.Pairwise (· < ·)
  returned : s.returned = s.presented.map (s.pushes[·]?)

/-- Every frame since the last cleanup was shown, dropped for one of two reasons, or waits. -/
structure Counted (s : Player F) : Prop where
  pushes : s.pushes.length = s.pushesAtCleanup + (s.queue.stats.localClockPacedFrameStat +
    s.queue.stats.framesDroppedStat + s.queue.queue.length)
  dropped : s.queue.stats.framesDroppedStat =
    s.queue.stats.overflowDropStat + s.queue.stats.pacingSkipStat

/-- The law, with what keeps it: the queue holds the newest pushes. -/
structure Inv (s : Player F) : Prop where
  owned : s.Owned
  inOrder : s.InOrder
  counted : s.Counted
  newest : s.queue.queue.map (·.frame) <:+ s.pushes
  before : ∀ n ∈ s.presented, n + s.queue.queue.length < s.pushes.length

variable {s t : Player F}

lemma owned_iff : s.Owned ↔ ∀ a, s.queue.frames.count a + s.caller.count a + s.heap.freed.count a =
    (List.range s.heap.allocated).count a := by
  rw [Owned, List.perm_iff_count]
  simp only [List.count_append]

lemma inv_start : ({} : Player F).Inv := by
  refine ⟨List.Perm.refl _, ⟨.nil, rfl⟩, ⟨rfl, rfl⟩, List.nil_suffix, by simp⟩

lemma count_handOver {item : Option Frame} (howns : s.owns item = true) (a : Frame) :
    (s.handOver item).count a + item.toList.count a = s.caller.count a := by
  cases item with
  | none => rfl
  | some frame =>
    have hmem : frame ∈ s.caller := by simpa [owns] using howns
    have hperm := (List.perm_cons_erase hmem).count_eq a
    simp only [handOver, Option.elim_some, Option.toList_some, List.count_cons, List.count_nil]
      at hperm ⊢
    omega

/-- A push onto `q`, which has the queued frames of `s`. -/
lemma Inv.pushed {q : AVFrameQueue F} {frame : TimedFrame} {n : ℕ} {u : Player F} (h : s.Inv)
    (hq : q.queue = s.queue.queue ∧ q.stats = s.queue.stats)
    (hpush : AVFrameQueue.Pushed q u.queue frame n)
    (hpushes : u.pushes = s.pushes ++ [frame.frame])
    (hcleanup : u.pushesAtCleanup = s.pushesAtCleanup) (hreturned : u.returned = s.returned)
    (hpresented : u.presented = s.presented) (howned : u.Owned) : u.Inv := by
  have hlength : u.queue.queue.length = s.queue.queue.length + 1 - n := by
    rw [hpush.queue, hq.1]
    simp
  have hfew : n ≤ s.queue.queue.length := hq.1 ▸ hpush.few
  have haccount := hpush.account
  simp only [Statistics.account, Prod.mk.injEq, hq.2] at haccount
  refine ⟨howned, ⟨?_, ?_⟩, ⟨?_, ?_⟩, ?_, ?_⟩
  · rw [hpresented]
    exact h.inOrder.increasing
  · rw [hreturned, hpresented, h.inOrder.returned, hpushes]
    apply List.map_congr_left
    intro k hk
    have hlt := h.before k hk
    rw [List.getElem?_append_left (by omega)]
  · have hcounted := h.counted.pushes
    rw [hlength, hpushes, hcleanup, List.length_append, List.length_singleton]
    omega
  · have hdropped := h.counted.dropped
    omega
  · rw [hpush.queue, hq.1, hpushes, List.map_drop]
    refine (List.drop_suffix n _).trans ?_
    obtain ⟨older, holder⟩ := h.newest
    exact ⟨older, by simp [← holder]⟩
  · intro k hk
    rw [hpresented] at hk
    have hlt := h.before k hk
    rw [hlength, hpushes, List.length_append, List.length_singleton]
    omega

/-- A call that moves no queued frame. -/
lemma Inv.unmoved {u : Player F} (h : s.Inv) (hqueue : u.queue.queue = s.queue.queue)
    (haccount : u.queue.stats.account = s.queue.stats.account) (hpushes : u.pushes = s.pushes)
    (hcleanup : u.pushesAtCleanup = s.pushesAtCleanup) (hreturned : u.returned = s.returned)
    (hpresented : u.presented = s.presented) (howned : u.Owned) : u.Inv := by
  have hcounted := h.counted.pushes
  have hdropped := h.counted.dropped
  simp only [Statistics.account, Prod.mk.injEq] at haccount
  refine ⟨howned, ⟨?_, ?_⟩, ⟨?_, ?_⟩, ?_, ?_⟩
  · rw [hpresented]
    exact h.inOrder.increasing
  · rw [hreturned, hpresented, hpushes]
    exact h.inOrder.returned
  · rw [hpushes, hcleanup, hqueue]
    omega
  · omega
  · rw [hqueue, hpushes]
    exact h.newest
  · rw [hpresented, hqueue, hpushes]
    exact h.before

lemma Inv.popped {r : AVFrameQueue.Popped F} (h : s.Inv) (hr : AVFrameQueue.Pops s.queue r) :
    (s.notePop r).Inv := by
  have hframes := hr.frames
  have howned : (s.notePop r).Owned := by
    have hperm : (r.queue.frames ++ s.caller ++ s.heap.freed).Perm
        (List.range s.heap.allocated) :=
      ((hframes.append_right _).append_right _).trans h.owned
    unfold notePop
    split_ifs
    · exact hperm
    · exact hperm
  obtain hheld | ⟨n, selected, hconsumed⟩ := hr
  · have hnote : s.notePop r = { s with queue := r.queue } := by
      rw [notePop, if_neg (by rw [hheld.consumed]; decide)]
    rw [hnote] at howned ⊢
    exact h.unmoved hheld.same.queue hheld.same.account rfl rfl rfl rfl howned
  · have hlt : n < s.queue.queue.length := (List.getElem?_eq_some_iff.mp hconsumed.nth).1
    have hlength : r.queue.queue.length = s.queue.queue.length - (n + 1) := by
      rw [hconsumed.queue, List.length_drop]
    obtain ⟨older, holder⟩ := h.newest
    have htotal : s.pushes.length = older.length + s.queue.queue.length := by
      rw [← holder, List.length_append, List.length_map]
    -- the number of the push that brought the frame
    have hnumber : s.pushes.length - (r.queue.queue.length + 1) = older.length + n := by omega
    have hbrought : s.pushes[older.length + n]? = some selected.frame := by
      rw [← holder, List.getElem?_append_right (by omega), Nat.add_sub_cancel_left,
        List.getElem?_map, hconsumed.nth]
      rfl
    have hnote : s.notePop r = { s with
        queue := r.queue
        returned := s.returned ++ [some selected.frame]
        presented := s.presented ++ [older.length + n] } := by
      rw [notePop, if_pos hconsumed.consumed, hnumber, hconsumed.frame]
    have haccount := hconsumed.account
    have hcounted := h.counted.pushes
    have hdropped := h.counted.dropped
    simp only [Statistics.account, Prod.mk.injEq] at haccount
    rw [hnote] at howned ⊢
    refine ⟨howned, ⟨?_, ?_⟩, ⟨?_, ?_⟩, ?_, ?_⟩
    · rw [List.pairwise_append]
      refine ⟨h.inOrder.increasing, List.pairwise_singleton _ _, ?_⟩
      intro k hk m hm
      have hbefore := h.before k hk
      rw [List.mem_singleton.mp hm]
      omega
    · simp [h.inOrder.returned, hbrought]
    · dsimp only
      omega
    · dsimp only
      omega
    · dsimp only
      rw [hconsumed.queue, List.map_drop]
      exact (List.drop_suffix _ _).trans h.newest
    · intro k hk
      dsimp only at hk ⊢
      cases List.mem_append.mp hk with
      | inl hold =>
        have hbefore := h.before k hold
        omega
      | inr hlast =>
        rw [List.mem_singleton.mp hlast]
        omega

/-- A frame of the caller's goes to the queue. -/
lemma Inv.handed {item : Frame} (h : s.Inv) (howns : s.owns (some item) = true) (now : Time) :
    ({ s.notePush (some item) with
      queue := s.queue.enqueue now item
      caller := s.handOver (some item) } : Player F).Inv := by
  obtain ⟨frame, n, rfl, -, -, hpush⟩ := s.queue.enqueue_pushed now item
  refine h.pushed ⟨rfl, rfl⟩ hpush rfl rfl rfl rfl (owned_iff.mpr fun a => ?_)
  have hcount := owned_iff.mp h.owned a
  have hcaller := count_handOver howns a
  have hframes := hpush.frames.count_eq a
  simp only [List.count_cons, Option.toList_some, List.count_nil] at hcaller hframes
  dsimp only [notePush]
  omega

lemma Inv.step_push {allocOk refOk : Bool} {now : Time} {item : Option Frame} (h : s.Inv)
    (hstep : s.step (.push allocOk refOk now item) = some t) : t.Inv := by
  simp only [Player.step] at hstep
  split_ifs at hstep with howns htransfer
  · obtain rfl := Option.some.inj hstep
    cases item with
    | none => exact h.unmoved rfl rfl (List.append_nil _) rfl rfl rfl h.owned
    | some item =>
      have hpush : s.queue.push allocOk refOk now (some item) s.heap =
          (some item, s.heap, s.queue.enqueue now item) := by
        simp [AVFrameQueue.push, htransfer]
      rw [hpush]
      exact h.handed howns now
  · -- the caller keeps its frame, and a reference to it is queued if one could be made
    obtain ⟨queued, heap, q, -, hqueue, hstats, hbalanced, hpush⟩ :=
      s.queue.push_cases allocOk refOk now item s.heap htransfer
    rw [hpush] at hstep
    obtain rfl := Option.some.inj hstep
    cases queued with
    | none =>
      refine h.unmoved hqueue (congrArg _ hstats) (List.append_nil _) rfl rfl rfl
        (owned_iff.mpr fun a => ?_)
      have hcount := owned_iff.mp h.owned a
      have hbalance := hbalanced a
      simp only [Option.toList_none, List.count_nil] at hbalance
      dsimp only [Option.elim_none]
      omega
    | some queued =>
      obtain ⟨frame, n, rfl, -, -, hpushed⟩ := q.enqueue_pushed now queued
      refine h.pushed ⟨hqueue, hstats⟩ hpushed rfl rfl rfl rfl (owned_iff.mpr fun a => ?_)
      have hcount := owned_iff.mp h.owned a
      have hbalance := hbalanced a
      have hframes := hpushed.frames.count_eq a
      simp only [Option.toList_some, List.count_cons, List.count_nil] at hbalance hframes
      dsimp only [Option.elim_some]
      omega

lemma Inv.step_acquireWriteFrame {allocOk : Bool} (h : s.Inv)
    (hstep : s.step (.acquireWriteFrame allocOk) = some t) : t.Inv := by
  obtain ⟨-, hqueue, hstats⟩ := s.queue.acquireFrame_rest allocOk s.heap
  have hframes := s.queue.acquireFrame_frames allocOk s.heap
  simp only [Player.step, Option.some.injEq] at hstep
  generalize s.queue.acquireFrame allocOk s.heap = acquired at *
  obtain ⟨frame, heap, q⟩ := acquired
  dsimp only at hqueue hstats hframes
  obtain rfl := hstep
  refine h.unmoved hqueue (congrArg _ hstats) rfl rfl rfl rfl (owned_iff.mpr fun a => ?_)
  have hcount := owned_iff.mp h.owned a
  obtain ⟨hacquired, hfreed⟩ := hframes a
  dsimp only
  rw [List.count_append, hfreed]
  omega

lemma Inv.step_recycleWriteFrame {item : Option Frame} (h : s.Inv)
    (hstep : s.step (.recycleWriteFrame item) = some t) : t.Inv := by
  simp only [Player.step] at hstep
  split_ifs at hstep with howns
  obtain rfl := Option.some.inj hstep
  refine h.unmoved rfl rfl rfl rfl rfl rfl (owned_iff.mpr fun a => ?_)
  have hcount := owned_iff.mp h.owned a
  have hcaller := count_handOver howns a
  simp only [AVFrameQueue.frames, List.count_append] at hcount
  simp only [AVFrameQueue.frames, AVFrameQueue.recycleWriteFrame, recycleFrame,
    List.count_append]
  omega

/-- All frames of the queue are freed, and the counters start again. -/
lemma Inv.step_cleanup (h : s.Inv) (hstep : s.step .cleanup = some t) : t.Inv := by
  have hframes := s.queue.cleanup_frames s.heap
  have hheap : (s.queue.cleanup s.heap).1.allocated = s.heap.allocated := rfl
  have hempty : (s.queue.cleanup s.heap).2.queue = [] := rfl
  have hstats : (s.queue.cleanup s.heap).2.stats = {} := rfl
  simp only [Player.step, Option.some.injEq] at hstep
  generalize s.queue.cleanup s.heap = cleaned at *
  obtain rfl := hstep
  refine ⟨owned_iff.mpr fun a => ?_, ⟨h.inOrder.increasing, h.inOrder.returned⟩, ⟨?_, ?_⟩, ?_,
    ?_⟩
  · have hcount := owned_iff.mp h.owned a
    have hfreed := hframes.count_eq a
    simp only [List.count_append] at hfreed
    dsimp only
    rw [hheap]
    omega
  · simp [hstats, hempty]
  · simp [hstats]
  · rw [hempty]
    exact List.nil_suffix
  · intro n hn
    have hbefore := h.before n hn
    dsimp only
    rw [hempty, List.length_nil]
    omega

/-- One call keeps the law. -/
theorem Inv.step {call : Call F} (h : s.Inv) (hstep : s.step call = some t) : t.Inv := by
  cases call with
  | allocate =>
    obtain rfl := Option.some.inj hstep
    refine h.unmoved rfl rfl rfl rfl rfl rfl (owned_iff.mpr fun a => ?_)
    have hcount := owned_iff.mp h.owned a
    simp only [List.range_succ, List.count_append, Option.toList_some]
    omega
  | release frame =>
    simp only [Player.step] at hstep
    split_ifs at hstep with howns
    obtain rfl := Option.some.inj hstep
    refine h.unmoved rfl rfl rfl rfl rfl rfl (owned_iff.mpr fun a => ?_)
    have hcount := owned_iff.mp h.owned a
    have hcaller := count_handOver howns a
    simp only [handOver, Option.elim_some, Option.toList_some] at hcaller
    simp only [avFrameFree, List.count_append]
    omega
  | configure queueLimit streamFps transferOwnership lowLatency =>
    obtain rfl := Option.some.inj hstep
    exact h.unmoved rfl rfl rfl rfl rfl rfl h.owned
  | push allocOk refOk now item => exact h.step_push hstep
  | pushTransferred now item =>
    simp only [Player.step] at hstep
    split_ifs at hstep with howns
    obtain rfl := Option.some.inj hstep
    cases item with
    | none => exact h.unmoved rfl rfl (List.append_nil _) rfl rfl rfl h.owned
    | some item => exact h.handed howns now
  | pop now =>
    obtain rfl := Option.some.inj hstep
    exact h.popped (s.queue.pop_pops now)
  | acquireWriteFrame allocOk => exact h.step_acquireWriteFrame hstep
  | recycleWriteFrame item => exact h.step_recycleWriteFrame hstep
  | updatePresentCostMs cost =>
    obtain rfl := Option.some.inj hstep
    exact h.unmoved rfl rfl rfl rfl rfl rfl h.owned
  | cleanup => exact h.step_cleanup hstep

theorem run_inv (h : Run Player.step (fun _ _ => True) ({} : Player F) s) : s.Inv :=
  Run.invariant inv_start (fun _ _ _ hinv _ hstep => hinv.step hstep) h

end Player

/-! ## What a call does to the queue -/

namespace Call

def isConfigure : Call F → Bool
  | .configure .. => true
  | _ => false

def isPush : Call F → Bool
  | .push .. => true
  | .pushTransferred .. => true
  | _ => false

/-- The time at which a frame is pushed. -/
def pushTime : Call F → Time
  | .push _ _ now _ => now
  | .pushTransferred now _ => now
  | _ => 0

end Call

namespace Player

variable {s t : Player F}

/-- A call configures the queue, queues a frame, pops, or leaves the waiting frames alone. -/
theorem step_queue {call : Call F} (hstep : s.step call = some t) :
    call.isConfigure = true ∧ t.queue.queue = s.queue.queue ∨
      (∃ q item, AVFrameQueue.SameSetup s.queue q ∧ q.queue = s.queue.queue ∧
        t.queue = q.enqueue call.pushTime item) ∨
      (∃ now, t.queue = (s.queue.pop now).queue) ∨
      AVFrameQueue.SameSetup s.queue t.queue ∧
        (t.queue.queue = s.queue.queue ∨ t.queue.queue = []) := by
  have hsame : AVFrameQueue.SameSetup s.queue s.queue := ⟨rfl, rfl, rfl, rfl⟩
  cases call with
  | configure queueLimit streamFps transferOwnership lowLatency =>
    obtain rfl := Option.some.inj hstep
    exact .inl ⟨rfl, rfl⟩
  | allocate =>
    obtain rfl := Option.some.inj hstep
    exact .inr (.inr (.inr ⟨hsame, .inl rfl⟩))
  | release frame =>
    simp only [Player.step] at hstep
    split_ifs at hstep
    obtain rfl := Option.some.inj hstep
    exact .inr (.inr (.inr ⟨hsame, .inl rfl⟩))
  | push allocOk refOk now item =>
    simp only [Player.step] at hstep
    split_ifs at hstep with howns htransfer
    · obtain rfl := Option.some.inj hstep
      cases item with
      | none => exact .inr (.inr (.inr ⟨hsame, .inl rfl⟩))
      | some item =>
        simp only [AVFrameQueue.push, htransfer, if_true]
        exact .inr (.inl ⟨s.queue, item, hsame, rfl, rfl⟩)
    · obtain ⟨queued, heap, q, hsetup, hqueue, -, -, hpush⟩ :=
        s.queue.push_cases allocOk refOk now item s.heap htransfer
      rw [hpush] at hstep
      obtain rfl := Option.some.inj hstep
      cases queued with
      | none => exact .inr (.inr (.inr ⟨hsetup, .inl hqueue⟩))
      | some queued => exact .inr (.inl ⟨q, queued, hsetup, hqueue, rfl⟩)
  | pushTransferred now item =>
    simp only [Player.step] at hstep
    split_ifs at hstep
    obtain rfl := Option.some.inj hstep
    cases item with
    | none => exact .inr (.inr (.inr ⟨hsame, .inl rfl⟩))
    | some item => exact .inr (.inl ⟨s.queue, item, hsame, rfl, rfl⟩)
  | pop now =>
    obtain rfl := Option.some.inj hstep
    refine .inr (.inr (.inl ⟨now, ?_⟩))
    unfold notePop
    split_ifs <;> rfl
  | acquireWriteFrame allocOk =>
    obtain ⟨hsetup, hqueue, -⟩ := s.queue.acquireFrame_rest allocOk s.heap
    obtain rfl := Option.some.inj hstep
    exact .inr (.inr (.inr ⟨hsetup, .inl hqueue⟩))
  | recycleWriteFrame item =>
    simp only [Player.step] at hstep
    split_ifs at hstep
    obtain rfl := Option.some.inj hstep
    exact .inr (.inr (.inr ⟨⟨rfl, rfl, rfl, rfl⟩, .inl rfl⟩))
  | updatePresentCostMs cost =>
    obtain rfl := Option.some.inj hstep
    exact .inr (.inr (.inr ⟨⟨rfl, rfl, rfl, rfl⟩, .inl rfl⟩))
  | cleanup =>
    obtain rfl := Option.some.inj hstep
    exact .inr (.inr (.inr ⟨⟨rfl, rfl, rfl, rfl⟩, .inr rfl⟩))

end Player

/-! ## The capacity -/

namespace AVFrameQueue

/-- The queue has room for what an overflow keeps. -/
structure Roomy (q : AVFrameQueue F) : Prop where
  room : q.targetBufferedFrames < q.limit
  few : q.queue.length ≤ q.limit

lemma Roomy.of_setup {q q' : AVFrameQueue F} (h : q.Roomy) (hsetup : SameSetup q q')
    (hqueue : q'.queue.length ≤ q.queue.length) : q'.Roomy where
  room := by
    rw [hsetup.limit, hsetup.targetBufferedFrames]
    exact h.room
  few := by
    rw [hsetup.limit]
    exact hqueue.trans h.few

lemma Roomy.enqueue {q : AVFrameQueue F} (h : q.Roomy) (now : Time) (item : Frame) :
    (q.enqueue now item).Roomy := by
  obtain ⟨frame, n, -, -, -, hpush⟩ := q.enqueue_pushed now item
  have hlength := hpush.room
  have hroom := h.room
  constructor
  · rw [hpush.setup.limit, hpush.setup.targetBufferedFrames]
    exact hroom
  · rw [hpush.setup.limit]
    omega

lemma Roomy.pop {q : AVFrameQueue F} (h : q.Roomy) (now : Time) : (q.pop now).queue.Roomy := by
  obtain hheld | ⟨n, selected, hconsumed⟩ := q.pop_pops now
  · exact h.of_setup hheld.same.setup (by rw [hheld.same.queue])
  · refine h.of_setup hconsumed.setup ?_
    rw [hconsumed.queue, List.length_drop]
    omega

end AVFrameQueue

namespace Player

variable {s t : Player F}

lemma step_roomy {call : Call F} (h : s.queue.Roomy) (hcall : ¬call.isConfigure = true)
    (hstep : s.step call = some t) : t.queue.Roomy := by
  obtain ⟨hconfigure, -⟩ | ⟨q, item, hsetup, hqueue, hpush⟩ | ⟨now, hpop⟩ | ⟨hsetup, hkept⟩ :=
    step_queue hstep
  · exact absurd hconfigure hcall
  · rw [hpush]
    exact (h.of_setup hsetup (by rw [hqueue])).enqueue _ item
  · rw [hpop]
    exact h.pop now
  · refine h.of_setup hsetup ?_
    cases hkept with
    | inl hsame => rw [hsame]
    | inr hempty => simp [hempty]

/-- The depths of a `size_t` but those whose capacity wraps around to less than is kept. -/
def Fits (queueLimit : ℕ) (lowLatency : Bool) : Prop :=
  queueLimit < 2 ^ 64 ∧ queueLimit ≠ 2 ^ 64 - 5 ∧ queueLimit ≠ 2 ^ 64 - 4 ∧
    (lowLatency = true ∨ queueLimit ≠ 2 ^ 64 - 3)

lemma fits_iff {queueLimit : ℕ} {lowLatency : Bool} (h : queueLimit < 2 ^ 64) :
    Fits queueLimit lowLatency ↔
      AVFrameQueue.targetFor queueLimit lowLatency <
        AVFrameQueue.capacityFor (max queueLimit 1) := by
  have hcapacity : AVFrameQueue.capacityFor (max queueLimit 1) =
      (max (max queueLimit 1) 1 + 5) % 2 ^ 64 := rfl
  have htarget : AVFrameQueue.targetFor queueLimit lowLatency =
      if 1 < max queueLimit 1 then min (max queueLimit 1 - 1) (if lowLatency then 1 else 2)
      else 0 := rfl
  rw [Fits, hcapacity, htarget]
  cases lowLatency <;> grind

/-- `configure` as a step of the player. -/
def configured (s : Player F) (queueLimit : ℕ) (streamFps : Int32)
    (transferOwnership lowLatency : Bool) : Player F :=
  { s with queue := s.queue.configure queueLimit streamFps transferOwnership lowLatency }

/-- After a configuration with a depth that fits, no push leaves more than the limit. -/
theorem push_within_limit {queueLimit : ℕ} {streamFps : Int32}
    {transferOwnership lowLatency : Bool} {call : Call F} {u : Player F}
    (hempty : s.queue.queue = []) (hfits : Fits queueLimit lowLatency)
    (h : Run Player.step (fun _ call => ¬call.isConfigure = true)
      (s.configured queueLimit streamFps transferOwnership lowLatency) t)
    (hpush : call.isPush = true) (hstep : t.step call = some u) :
    u.queue.queue.length ≤ u.queue.limit := by
  have hstart : (s.configured queueLimit streamFps transferOwnership lowLatency).queue.Roomy := by
    refine ⟨(fits_iff hfits.1).mp hfits, ?_⟩
    simp [configured, AVFrameQueue.configure, hempty]
  have hroomy : t.queue.Roomy :=
    Run.invariant (I := fun s : Player F => s.queue.Roomy) hstart
      (fun _ _ _ hroomy hcall hstep => step_roomy hroomy hcall hstep) h
  have hcall : ¬call.isConfigure = true := by
    cases call <;> simp_all [Call.isConfigure, Call.isPush]
  exact (step_roomy hroomy hcall hstep).few

end Player

/-- No frame is lost or owned twice, pops present the pushed frames in order, the counters add
up, and pushes keep to the limit unless the capacity of the configured depth wraps around. -/
theorem frames_conserved {s : Player F}
    (h : Run Player.step (fun _ _ => True) ({} : Player F) s) :
    s.Owned ∧ s.InOrder ∧ s.Counted ∧
      ∀ queueLimit streamFps transferOwnership lowLatency t call u, s.queue.queue = [] →
        Player.Fits queueLimit lowLatency →
        Run Player.step (fun _ call => ¬call.isConfigure = true)
          (s.configured queueLimit streamFps transferOwnership lowLatency) t →
        call.isPush = true → t.step call = some u → u.queue.queue.length ≤ u.queue.limit := by
  have hinv : s.Inv := Player.run_inv h
  refine ⟨hinv.owned, hinv.inOrder, hinv.counted, ?_⟩
  intro queueLimit streamFps transferOwnership lowLatency t call u hempty hfits hrun hpush hstep
  exact Player.push_within_limit hempty hfits hrun hpush hstep

/-- Three frames, of which the second is skipped in low-latency mode, and one is written by the
caller. -/
def threeFrames : List (Call ℚ) :=
  [.configure 3 60 true true, .allocate, .allocate, .allocate, .pushTransferred 0 (some 0),
    .pushTransferred 16000000 (some 1), .pushTransferred 32000000 (some 2), .pop 40000000,
    .acquireWriteFrame true, .recycleWriteFrame (some 0)]

def afterThreeFrames : Player ℚ :=
  (exec Player.step {} threeFrames).get (by decide +kernel)

theorem frames_conserved_threeFrames :
    afterThreeFrames.Owned ∧ afterThreeFrames.InOrder ∧ afterThreeFrames.Counted ∧
      ∀ queueLimit streamFps transferOwnership lowLatency t call u,
        afterThreeFrames.queue.queue = [] → Player.Fits queueLimit lowLatency →
        Run Player.step (fun _ call => ¬call.isConfigure = true)
          (afterThreeFrames.configured queueLimit streamFps transferOwnership lowLatency) t →
        call.isPush = true → t.step call = some u → u.queue.queue.length ≤ u.queue.limit :=
  frames_conserved (Run.of_exec (Option.some_get _).symm fun _ _ _ => trivial)

/-- A depth of 2^64 - 5 makes a capacity of zero. -/
theorem wrapped_capacity_overflows :
    ∃ t u : Player ℚ, ∃ call : Call ℚ, ({} : Player ℚ).queue.queue = [] ∧
      Run Player.step (fun _ call => ¬call.isConfigure = true)
        (({} : Player ℚ).configured (2 ^ 64 - 5) 60 false false) t ∧
      call.isPush = true ∧ t.step call = some u ∧ ¬u.queue.queue.length ≤ u.queue.limit := by
  refine ⟨_, _, .pushTransferred 0 (some 0), rfl,
    Run.refl.snoc (a := .allocate) (by decide) rfl, rfl,
    rfl, ?_⟩
  decide +kernel

end ArtemisSwitch.Frames

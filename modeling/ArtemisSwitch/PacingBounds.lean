import ArtemisSwitch.FramePresentation
import ArtemisSwitch.Library.Clamping

/-!
# Bounds of the pacing estimators

Over exact rationals and with a clock that does not go back.
-/

namespace ArtemisSwitch.Frames
open Runs Clamping

/-! ## Double over the rationals -/

namespace Double

@[simp] lemma ofRat_rat (x : ℚ) : (Double.ofRat x : ℚ) = x := rfl

@[simp] lemma max_rat (x y : ℚ) : Double.max x y = Max.max x y := by
  unfold Double.max
  by_cases h : x < y
  · rw [if_pos (by simpa [Double.lt] using h), max_eq_right h.le]
  · rw [if_neg (by simpa [Double.lt] using h), max_eq_left (not_lt.mp h)]

@[simp] lemma min_rat (x y : ℚ) : Double.min x y = Min.min x y := by
  unfold Double.min
  by_cases h : y < x
  · rw [if_pos (by simpa [Double.lt] using h), min_eq_right h.le]
  · rw [if_neg (by simpa [Double.lt] using h), min_eq_left (not_lt.mp h)]

@[simp] lemma clamp_rat (x low high : ℚ) : Double.clamp x low high = Clamping.clamp x low high := by
  simp [Double.clamp, Clamping.clamp, Double.lt]

end Double

lemma truncate_eq {x : ℚ} (hx : 0 ≤ x) : Double.truncate x = ⌊x⌋ := by
  change x.num.tdiv x.den = _
  rw [Int.tdiv_eq_ediv_of_nonneg (Rat.num_nonneg.mpr hx), Rat.floor_def']

/-! ## The filter of the low-latency path -/

lemma fps_pos {streamFps : Int32} (h : 0 < streamFps) : (1 : ℚ) ≤ streamFps.toInt := by
  have hpos : 0 < streamFps.toInt := by simpa [Int32.lt_iff_toInt_lt] using h
  exact_mod_cast hpos

namespace LLFilter

/-- What holds from the first arrival on. -/
structure Sound (streamFps : Int32) (f : LLFilter ℚ) : Prop where
  smoothed_pos : 0 < f.smoothedIntervalNs
  smoothed_le : f.smoothedIntervalNs ≤ 1000000000
  le_smoothed : 0 < streamFps →
    1000000000 / (streamFps.toInt * (12 / 10)) ≤ f.smoothedIntervalNs
  velocity : |f.intervalVelocityNs| ≤ f.smoothedIntervalNs * (2 / 10)
  jitter : 0 ≤ f.jitterNs

variable {streamFps : Int32} {f : LLFilter ℚ} {now : Time}

/-- The drift is too small to make the prediction vanish. -/
lemma Sound.predicted_pos (h : f.Sound streamFps) :
    0 < f.smoothedIntervalNs + f.intervalVelocityNs := by
  have hlow := (abs_le.mp h.velocity).1
  linarith [h.smoothed_pos]

lemma minInterval_le (h : 0 < streamFps) :
    1000000000 / ((streamFps.toInt : ℚ) * (12 / 10)) ≤ 1000000000 / streamFps.toInt := by
  have hfps := fps_pos h
  apply div_le_div_of_nonneg_left (by norm_num) (by linarith)
  linarith

lemma minInterval_le_second (h : 0 < streamFps) :
    1000000000 / ((streamFps.toInt : ℚ) * (12 / 10)) ≤ 1000000000 := by
  have hfps := fps_pos h
  exact div_le_self (by norm_num) (by linarith)

lemma sound_first (streamFps : Int32) (now : Time) (hfirst : f.firstArrival = true) :
    ((f.update streamFps now).1).Sound streamFps := by
  rw [update, if_pos hfirst]
  have hinterval : 0 < (if 0 < streamFps then 1000000000 / (streamFps.toInt : ℚ)
      else 1000000000 / 60) ∧ (if 0 < streamFps then 1000000000 / (streamFps.toInt : ℚ)
      else 1000000000 / 60) ≤ 1000000000 := by
    split_ifs with hfps
    · have hone := fps_pos hfps
      exact ⟨by positivity, div_le_self (by norm_num) hone⟩
    · norm_num
  obtain ⟨hpos, hle⟩ := hinterval
  refine ⟨hpos, hle, fun hfps => ?_, ?_, ?_⟩
  · simp only [if_pos hfps]
    exact minInterval_le hfps
  · change |(0 : ℚ)| ≤ _ * _
    rw [abs_zero]
    exact mul_nonneg hpos.le (by norm_num)
  · exact mul_nonneg hpos.le (by norm_num)

/-- A mean of what is predicted and what is measured. -/
lemma blend_pos {alpha predicted measured : ℚ} (halpha : 0 ≤ alpha) (hone : alpha < 1)
    (hpredicted : 0 < predicted) (hmeasured : 0 ≤ measured) :
    0 < predicted + alpha * (measured - predicted) := by
  have hkeep := mul_pos (sub_pos.mpr hone) hpredicted
  have hadd := mul_nonneg halpha hmeasured
  linarith

/-- What the next estimates are made of: the error of the prediction and its weight. -/
lemma update_eq (hfirst : f.firstArrival = false) : ∃ alpha beta : ℚ, 0 ≤ alpha ∧ alpha < 1 ∧
    let predError := ((now - f.lastArrival : ℤ) : ℚ) - (f.smoothedIntervalNs + f.intervalVelocityNs)
    let raw := f.smoothedIntervalNs + f.intervalVelocityNs + alpha * predError
    let smoothed := min (if 0 < streamFps then
      max raw (1000000000 / (streamFps.toInt * (12 / 10))) else raw) 1000000000
    (f.update streamFps now).1 =
      { firstArrival := false
        lastArrival := now
        smoothedIntervalNs := smoothed
        intervalVelocityNs := clamp (f.intervalVelocityNs + beta * predError)
          (-(smoothed * (2 / 10))) (smoothed * (2 / 10))
        jitterNs := f.jitterNs * (1 - kLLAlpha) + |predError| * kLLAlpha } := by
  rw [update, if_neg (by simp [hfirst])]
  dsimp only
  simp only [Double.ofRat_rat, Double.max_rat, Double.min_rat, Double.clamp_rat]
  refine ⟨_, _, ?_, ?_, rfl⟩
  · split_ifs <;> norm_num [kLLAlpha, kLLFastAlpha]
  · split_ifs <;> norm_num [kLLAlpha, kLLFastAlpha]

lemma Sound.update_next (h : f.Sound streamFps) (hfirst : f.firstArrival = false)
    (hnow : f.lastArrival ≤ now) : ((f.update streamFps now).1).Sound streamFps := by
  obtain ⟨alpha, beta, halpha, hone, heq⟩ := @update_eq streamFps f now hfirst
  dsimp only at heq
  rw [heq]
  have hmeasured : (0 : ℚ) ≤ ((now - f.lastArrival : ℤ) : ℚ) := by
    exact_mod_cast sub_nonneg.mpr hnow
  have hraw := blend_pos halpha hone h.predicted_pos hmeasured
  generalize f.smoothedIntervalNs + f.intervalVelocityNs + alpha * _ = raw at *
  generalize hsmoothed : min (if 0 < streamFps then _ else raw) (1000000000 : ℚ) = smoothed
  have hpos : 0 < smoothed := by
    rw [← hsmoothed]
    refine lt_min ?_ (by norm_num)
    split_ifs
    · exact lt_max_of_lt_left hraw
    · exact hraw
  have hlimit : -(smoothed * (2 / 10)) ≤ smoothed * (2 / 10) := by linarith
  refine ⟨hpos, ?_, fun hfps => ?_, ?_, ?_⟩
  · exact hsmoothed ▸ min_le_right _ _
  · rw [← hsmoothed, if_pos hfps]
    exact le_min (le_max_right _ _) (minInterval_le_second hfps)
  · exact abs_le.mpr ⟨le_clamp hlimit, clamp_le hlimit⟩
  · have hold := mul_nonneg h.jitter (by norm_num [kLLAlpha] : (0 : ℚ) ≤ 1 - kLLAlpha)
    have hnew := mul_nonneg (abs_nonneg (((now - f.lastArrival : ℤ) : ℚ) -
      (f.smoothedIntervalNs + f.intervalVelocityNs))) (by norm_num [kLLAlpha] : 0 ≤ kLLAlpha)
    exact add_nonneg hold hnew

end LLFilter

/-! ## The arrival rate of the legacy path -/

/-- The fastest rate that is believed. -/
def maximumFps (streamFps : Int32) : ℚ := if 0 < streamFps then streamFps.toInt else 240

lemma one_le_maximumFps (streamFps : Int32) : 1 ≤ maximumFps streamFps := by
  unfold maximumFps
  split_ifs with h
  · exact fps_pos h
  · norm_num

namespace LegacyPacing

structure Sound (streamFps : Int32) (p : LegacyPacing ℚ) : Prop where
  one_le_fps : 0 < p.arrivalRateSamples → 1 ≤ p.estimatedSourceFps
  fps_le : 0 < p.arrivalRateSamples → p.estimatedSourceFps ≤ maximumFps streamFps
  interval : 0 < p.arrivalRateSamples →
    p.adaptiveFrameInterval = ⌊1000000000 / p.estimatedSourceFps⌋
  credit_nonneg : 0 ≤ p.frameCredit
  credit_lt : p.frameCredit < 1

variable {streamFps : Int32} {p : LegacyPacing ℚ} {now : Time}

/-- Without a sample there is no estimate to be wrong. -/
lemma sound_of_none (hnone : p.arrivalRateSamples = 0)
    (hcredit : 0 ≤ p.frameCredit ∧ p.frameCredit < 1) : p.Sound streamFps := by
  have hno : ¬0 < p.arrivalRateSamples := by omega
  exact ⟨fun h => absurd h hno, fun h => absurd h hno, fun h => absurd h hno, hcredit.1, hcredit.2⟩

lemma Sound.sampleRate (h : p.Sound streamFps) (elapsed : ℤ) :
    (p.sampleRate streamFps elapsed).Sound streamFps := by
  have hmaximum := one_le_maximumFps streamFps
  obtain ⟨sample, hone, hle, heq⟩ : ∃ sample : ℚ, 1 ≤ sample ∧ sample ≤ maximumFps streamFps ∧
      (p.sampleRate streamFps elapsed).estimatedSourceFps =
        if p.arrivalRateSamples = 0 then sample
        else p.estimatedSourceFps * (1 - kArrivalRateSmoothing) +
          sample * kArrivalRateSmoothing := by
    refine ⟨Double.clamp _ (Double.ofRat 1) _, ?_, ?_, rfl⟩
    · rw [Double.clamp_rat]
      exact le_clamp hmaximum
    · rw [Double.clamp_rat]
      exact clamp_le hmaximum
  -- The new estimate is a mean of the sample and of the old one.
  have hnew : 1 ≤ (p.sampleRate streamFps elapsed).estimatedSourceFps ∧
      (p.sampleRate streamFps elapsed).estimatedSourceFps ≤ maximumFps streamFps := by
    rw [heq]
    split_ifs with hfirst
    · exact ⟨hone, hle⟩
    · have hpos := Nat.pos_of_ne_zero hfirst
      have hold := h.one_le_fps hpos
      have hold' := h.fps_le hpos
      constructor
      · norm_num [kArrivalRateSmoothing]
        linarith
      · norm_num [kArrivalRateSmoothing]
        linarith
  refine ⟨fun _ => hnew.1, fun _ => hnew.2, fun _ => ?_, h.credit_nonneg, h.credit_lt⟩
  exact truncate_eq (div_nonneg (by norm_num) (one_pos.le.trans hnew.1))

/-- The estimator stays when the credit goes and other fields change. -/
lemma Sound.withCredit (h : p.Sound streamFps) {p' : LegacyPacing ℚ}
    (hsamples : p'.arrivalRateSamples = p.arrivalRateSamples)
    (hfps : p'.estimatedSourceFps = p.estimatedSourceFps)
    (hinterval : p'.adaptiveFrameInterval = p.adaptiveFrameInterval)
    (hcredit : 0 ≤ p'.frameCredit ∧ p'.frameCredit < 1) : p'.Sound streamFps := by
  refine ⟨?_, ?_, ?_, hcredit.1, hcredit.2⟩
  · rw [hsamples, hfps]
    exact h.one_le_fps
  · rw [hsamples, hfps]
    exact h.fps_le
  · rw [hsamples, hfps, hinterval]
    exact h.interval

lemma Sound.recordArrival (h : p.Sound streamFps) (now : Time) :
    (p.recordArrival streamFps now).Sound streamFps := by
  have hcredit := And.intro h.credit_nonneg h.credit_lt
  unfold LegacyPacing.recordArrival
  dsimp only
  split_ifs
  · exact h.withCredit rfl rfl rfl hcredit
  · exact h.withCredit rfl rfl rfl hcredit
  · exact h.withCredit rfl rfl rfl hcredit
  · have hcounted : Sound streamFps { p with
        lastArrival := now, arrivalWindowFrames := p.arrivalWindowFrames + 1 } :=
      h.withCredit rfl rfl rfl hcredit
    exact (hcounted.sampleRate (now - p.arrivalWindowStart)).withCredit rfl rfl rfl hcredit
  · exact h.withCredit rfl rfl rfl hcredit

lemma Sound.resetArrivalRateEstimator (h : p.Sound streamFps) :
    p.resetArrivalRateEstimator.Sound streamFps :=
  sound_of_none rfl ⟨h.credit_nonneg, h.credit_lt⟩

lemma Sound.measureDraw (h : p.Sound streamFps) (now : Time) :
    (p.measureDraw now).Sound streamFps := by
  have hcredit := And.intro h.credit_nonneg h.credit_lt
  unfold LegacyPacing.measureDraw
  dsimp only
  split_ifs
  · exact h.withCredit rfl rfl rfl hcredit
  · exact h.withCredit rfl rfl rfl ⟨le_rfl, one_pos⟩
  · exact h.withCredit rfl rfl rfl hcredit
  · exact h.withCredit rfl rfl rfl hcredit

/-- The interval is positive unless the rate is above one frame a nanosecond. -/
lemma Sound.interval_pos (h : p.Sound streamFps) (hsamples : 0 < p.arrivalRateSamples) :
    0 < p.adaptiveFrameInterval ↔ p.estimatedSourceFps ≤ 1000000000 := by
  have hpos : 0 < p.estimatedSourceFps := one_pos.trans_le (h.one_le_fps hsamples)
  rw [h.interval hsamples, Int.floor_pos, one_le_div₀ hpos]

end LegacyPacing

/-! ## The queue -/

namespace AVFrameQueue

/-- The estimators at a time of the clock. -/
structure Paced (q : AVFrameQueue ℚ) (clock : Time) : Prop where
  ll : q.ll.firstArrival = false → q.ll.Sound q.streamFps ∧ q.ll.lastArrival ≤ clock
  legacy : q.legacy.Sound q.streamFps

/-- Neither the estimators nor the rate of the stream have changed. -/
structure SamePacing (q q' : AVFrameQueue ℚ) : Prop where
  streamFps : q'.streamFps = q.streamFps
  ll : q'.ll = q.ll
  legacy : q'.legacy = q.legacy

variable {q q' : AVFrameQueue ℚ} {clock now : Time}

lemma SamePacing.refl (q : AVFrameQueue ℚ) : SamePacing q q := ⟨rfl, rfl, rfl⟩

lemma SamePacing.trans {p : AVFrameQueue ℚ} (h : SamePacing q p) (h' : SamePacing p q') :
    SamePacing q q' :=
  ⟨h'.streamFps.trans h.streamFps, h'.ll.trans h.ll, h'.legacy.trans h.legacy⟩

lemma Paced.of_same (h : q.Paced clock) (hsame : SamePacing q q') : q'.Paced clock := by
  constructor
  · rw [hsame.streamFps, hsame.ll]
    exact h.ll
  · rw [hsame.streamFps, hsame.legacy]
    exact h.legacy

lemma Paced.later (h : q.Paced clock) (hnow : clock ≤ now) : q.Paced now :=
  ⟨fun hfirst => ⟨(h.ll hfirst).1, (h.ll hfirst).2.trans hnow⟩, h.legacy⟩

/-- The filter is left alone, and the legacy path stays sound. -/
lemma Paced.withLegacy (h : q.Paced clock) (hfps : q'.streamFps = q.streamFps)
    (hll : q'.ll = q.ll) (hlegacy : q'.legacy.Sound q.streamFps) : q'.Paced clock := by
  constructor
  · rw [hfps, hll]
    exact h.ll
  · rw [hfps]
    exact hlegacy

/-- The filter starts again. -/
lemma Paced.withoutFilter (h : q.Paced clock) (hfps : q'.streamFps = q.streamFps)
    (hfirst : q'.ll.firstArrival = true) (hlegacy : q'.legacy = q.legacy) : q'.Paced clock := by
  constructor
  · rw [hfirst]
    exact fun habsurd => absurd habsurd (by decide)
  · rw [hfps, hlegacy]
    exact h.legacy

lemma paced_start (hfirst : q.ll.firstArrival = true) (hnone : q.legacy.arrivalRateSamples = 0)
    (hcredit : q.legacy.frameCredit = 0) : q.Paced clock := by
  constructor
  · rw [hfirst]
    exact fun habsurd => absurd habsurd (by decide)
  · refine LegacyPacing.sound_of_none hnone ?_
    rw [hcredit]
    exact ⟨le_rfl, one_pos⟩

/-! ## Arrivals -/

lemma Paced.update (h : q.Paced clock) (hnow : clock ≤ now) :
    ((q.ll.update q.streamFps now).1).Sound q.streamFps := by
  cases hfirst : q.ll.firstArrival with
  | true => exact LLFilter.sound_first q.streamFps now hfirst
  | false => exact (h.ll hfirst).1.update_next hfirst ((h.ll hfirst).2.trans hnow)

lemma update_lastArrival (f : LLFilter ℚ) (streamFps : Int32) (now : Time) :
    (f.update streamFps now).1.lastArrival = now := by
  by_cases hfirst : f.firstArrival = true
  · rw [LLFilter.update, if_pos hfirst]
  · rw [LLFilter.update, if_neg hfirst]

lemma Paced.recordPush (h : q.Paced clock) (hnow : clock ≤ now) :
    (q.recordPush now).1.Paced now := by
  unfold AVFrameQueue.recordPush
  split_ifs
  · exact ⟨fun _ => ⟨h.update hnow, (update_lastArrival _ _ _).le⟩, h.legacy⟩
  · exact (h.later hnow).withLegacy rfl rfl (h.legacy.recordArrival now)

lemma Paced.dropOverflow (h : q.Paced clock) : q.dropOverflow.Paced clock := by
  have hdropped : (q.dropTo (q.targetBufferedFrames + 1) Statistics.overflowDrop).Paced clock :=
    h.of_same ⟨rfl, rfl, rfl⟩
  unfold AVFrameQueue.dropOverflow
  dsimp only
  split_ifs
  · exact hdropped.withoutFilter rfl rfl rfl
  · have hcredit := And.intro h.legacy.credit_nonneg h.legacy.credit_lt
    exact hdropped.withLegacy rfl rfl (LegacyPacing.sound_of_none rfl hcredit)

lemma Paced.enqueue (h : q.Paced clock) (hnow : clock ≤ now) (item : Frame) :
    (q.enqueue now item).Paced now := by
  have hqueued : (q.queued now item).Paced now := (h.recordPush hnow).of_same ⟨rfl, rfl, rfl⟩
  rw [enqueue_eq]
  split_ifs
  · exact hqueued.dropOverflow
  · exact hqueued

/-! ## Pops -/

/-- What is left of the credit once its whole frames are taken. -/
lemma credit_rest {credit : ℚ} (h : 0 ≤ credit) :
    credit - ofInt (F := ℚ) ((Double.truncate credit).toNat : ℤ) = Int.fract credit := by
  rw [truncate_eq h, Int.toNat_of_nonneg (Int.floor_nonneg.mpr h)]
  rfl

lemma creditFrames_paced (h : q.Paced clock) : q.creditFrames.2.Paced clock := by
  unfold creditFrames
  dsimp only
  split_ifs
  · exact h.withLegacy rfl rfl (h.legacy.withCredit rfl rfl rfl ⟨le_rfl, one_pos⟩)
  · refine h.withLegacy rfl rfl (h.legacy.withCredit rfl rfl rfl ?_)
    have hcredit := h.legacy.credit_nonneg
    dsimp only
    rw [credit_rest]
    · exact ⟨Int.fract_nonneg _, Int.fract_lt_one _⟩
    · refine add_nonneg hcredit ?_
      rw [Double.max_rat]
      exact le_max_left _ _

lemma dueFrames_paced (h : q.Paced clock) : q.dueFrames.2.Paced clock := by
  have htrimmed : q.trimToPlayoutWindow.Paced clock := h.of_same ⟨rfl, rfl, rfl⟩
  unfold dueFrames
  dsimp only
  split_ifs
  · exact htrimmed.withLegacy rfl rfl (LegacyPacing.sound_of_none rfl ⟨le_rfl, one_pos⟩)
  · exact htrimmed.withLegacy rfl rfl (h.legacy.withCredit rfl rfl rfl ⟨le_rfl, one_pos⟩)
  · exact h
  · exact h
  · exact creditFrames_paced h

lemma takeDue_samePacing (n : ℕ) (q : AVFrameQueue ℚ) : SamePacing q (takeDue n q) := by
  induction n generalizing q with
  | zero => exact SamePacing.refl q
  | succ n ih =>
    unfold takeDue
    split
    · exact SamePacing.refl q
    · split_ifs
      · exact ⟨rfl, rfl, rfl⟩
      · refine SamePacing.trans ?_ (ih _)
        exact ⟨rfl, rfl, rfl⟩

lemma consume_samePacing (q : AVFrameQueue ℚ) (due : ℕ) : SamePacing q (q.consume due).queue := by
  have htaken := takeDue_samePacing (min q.queue.length due)
    { q with freeQueue := recycleFrame q.freeQueue q.bufferFrame, bufferFrame := none }
  exact ⟨htaken.streamFps, htaken.ll, htaken.legacy⟩

lemma popPaced_paced (h : q.Paced clock) : q.popPaced.queue.Paced clock := by
  have hdue := dueFrames_paced h
  unfold popPaced
  generalize q.dueFrames = r at *
  obtain ⟨due, q⟩ := r
  dsimp only at *
  split_ifs
  · exact hdue.of_same ⟨rfl, rfl, rfl⟩
  · exact hdue.withLegacy rfl rfl (LegacyPacing.sound_of_none rfl ⟨le_rfl, one_pos⟩)
  · exact hdue.of_same (consume_samePacing q due)

lemma popLegacy_paced (h : q.Paced clock) (now : Time) : (q.popLegacy now).queue.Paced clock := by
  have hmeasured := h.legacy.measureDraw now
  have hdrawn : ({ q with legacy := q.legacy.measureDraw now } : AVFrameQueue ℚ).Paced clock :=
    h.withLegacy rfl rfl hmeasured
  unfold popLegacy
  dsimp only
  split_ifs
  · exact hdrawn.of_same ⟨rfl, rfl, rfl⟩
  · exact popPaced_paced
      (hdrawn.withLegacy rfl rfl (hmeasured.withCredit rfl rfl rfl ⟨le_rfl, one_pos⟩))
  · exact popPaced_paced hdrawn

lemma popLowLatency_samePacing (q : AVFrameQueue ℚ) (now : Time) :
    SamePacing q (q.popLowLatency now).queue := by
  unfold popLowLatency
  split_ifs with hempty
  · exact ⟨rfl, rfl, rfl⟩
  · obtain hwait | hready := q.prepareLatestFrame_cases now q.gateNs hempty
    · rw [hwait]
      exact ⟨rfl, rfl, rfl⟩
    · rw [hready]
      dsimp only
      split
      · exact ⟨rfl, rfl, rfl⟩
      · exact ⟨rfl, rfl, rfl⟩

lemma Paced.pop (h : q.Paced clock) (hnow : clock ≤ now) : (q.pop now).queue.Paced now := by
  have hstart : ({ q with stats := { q.stats with pushesSincePop := 0 } } :
      AVFrameQueue ℚ).Paced clock := h.of_same ⟨rfl, rfl, rfl⟩
  unfold AVFrameQueue.pop
  dsimp only
  split_ifs
  · exact (hstart.of_same (popLowLatency_samePacing _ now)).later hnow
  · exact (popLegacy_paced hstart now).later hnow

end AVFrameQueue

/-! ## Checked arithmetic -/

def div? (x y : ℚ) : Option ℚ := if y = 0 then none else some (x / y)

/-- `static_cast<size_t>`. -/
def toSize? (x : ℚ) : Option ℕ := if x < 0 then none else some (Double.truncate x).toNat

lemma div?_eq {x y : ℚ} (h : y ≠ 0) : div? x y = some (x / y) := if_neg h

lemma toSize?_eq {x : ℚ} (h : 0 ≤ x) : toSize? x = some (Double.truncate x).toNat :=
  if_neg (not_lt.mpr h)

namespace LegacyPacing

variable {streamFps : Int32} {p : LegacyPacing ℚ} {now : Time}

def sampleRate? (streamFps : Int32) (elapsed : ℤ) (p : LegacyPacing ℚ) :
    Option (LegacyPacing ℚ) := do
  let elapsedSeconds ← div? elapsed 1000000000
  let rate ← div? ((p.arrivalWindowFrames - 1 : ℤ) : ℚ) elapsedSeconds
  let sampleFps := Double.clamp rate 1 (maximumFps streamFps)
  let estimatedSourceFps :=
    if p.arrivalRateSamples = 0 then sampleFps
    else p.estimatedSourceFps * (1 - kArrivalRateSmoothing) + sampleFps * kArrivalRateSmoothing
  let interval ← div? 1000000000 estimatedSourceFps
  some { p with
    estimatedSourceFps := estimatedSourceFps
    arrivalRateSamples := p.arrivalRateSamples + 1
    adaptiveFrameInterval := Double.truncate interval }

def recordArrival? (streamFps : Int32) (now : Time) (p : LegacyPacing ℚ) :
    Option (LegacyPacing ℚ) :=
  if !p.arrivalClockStarted then
    some { p with
      arrivalClockStarted := true
      arrivalWindowStart := now
      lastArrival := now
      arrivalWindowFrames := 1 }
  else if kArrivalRateResetGap < now - p.lastArrival then
    some { p with arrivalWindowStart := now, lastArrival := now, arrivalWindowFrames := 1 }
  else
    let p := { p with lastArrival := now, arrivalWindowFrames := p.arrivalWindowFrames + 1 }
    let elapsed := now - p.arrivalWindowStart
    if elapsed < kArrivalRateWindow then some p
    else do
      let p ← if 1 < p.arrivalWindowFrames then p.sampleRate? streamFps elapsed else some p
      some { p with arrivalWindowStart := now, arrivalWindowFrames := 1 }

lemma Sound.sampleRate?_eq (h : p.Sound streamFps) {elapsed : ℤ} (helapsed : 0 < elapsed) :
    p.sampleRate? streamFps elapsed = some (p.sampleRate streamFps elapsed) := by
  have hseconds : (elapsed : ℚ) / 1000000000 ≠ 0 := by
    have hpos : (0 : ℚ) < elapsed := by exact_mod_cast helapsed
    positivity
  have hfps : (p.sampleRate streamFps elapsed).estimatedSourceFps ≠ 0 := by
    have hone := (h.sampleRate elapsed).one_le_fps (Nat.succ_pos _)
    exact (one_pos.trans_le hone).ne'
  rw [sampleRate?, div?_eq (by norm_num), Option.bind_eq_bind, Option.bind_some,
    div?_eq hseconds, Option.bind_some]
  exact congrArg (Option.bind · _) (div?_eq hfps)

lemma Sound.recordArrival?_eq (h : p.Sound streamFps) (now : Time) :
    p.recordArrival? streamFps now = some (p.recordArrival streamFps now) := by
  have hcounted : Sound streamFps { p with
      lastArrival := now, arrivalWindowFrames := p.arrivalWindowFrames + 1 } :=
    h.withCredit rfl rfl rfl ⟨h.credit_nonneg, h.credit_lt⟩
  unfold recordArrival? LegacyPacing.recordArrival
  dsimp only
  split_ifs with hstarted hgap hwindow
  · rfl
  · rfl
  · rfl
  · have hpositive : 0 < kArrivalRateWindow := by decide
    rw [hcounted.sampleRate?_eq (hpositive.trans_le (not_lt.mp hwindow))]
    rfl
  · rfl

end LegacyPacing

def LLFilter.update? (streamFps : Int32) (now : Time) (f : LLFilter ℚ) :
    Option (LLFilter ℚ × Time) :=
  if f.firstArrival then do
    let smoothed ← if 0 < streamFps then div? 1000000000 streamFps.toInt else div? 1000000000 60
    some ({ firstArrival := false
            lastArrival := now
            smoothedIntervalNs := smoothed
            intervalVelocityNs := 0
            jitterNs := smoothed * (1 / 10) }, now + Double.truncate smoothed)
  else do
    let measured : ℚ := (now - f.lastArrival : ℤ)
    let predicted := f.smoothedIntervalNs + f.intervalVelocityNs
    let predError := measured - predicted
    let alpha := if Double.lt (predicted * (1 / 2)) (Double.abs predError) then kLLFastAlpha
      else kLLAlpha
    let beta ← div? (alpha * alpha) (2 - alpha)
    let smoothed := predicted + alpha * predError
    let velocity := f.intervalVelocityNs + beta * predError
    let smoothed ←
      if 0 < streamFps then
        (div? 1000000000 (streamFps.toInt * (12 / 10))).map (Double.max smoothed)
      else some smoothed
    let smoothed := Double.min smoothed 1000000000
    let velLimit := smoothed * (2 / 10)
    some ({ firstArrival := false
            lastArrival := now
            smoothedIntervalNs := smoothed
            intervalVelocityNs := Double.clamp velocity (-velLimit) velLimit
            jitterNs := f.jitterNs * (1 - kLLAlpha) + Double.abs predError * kLLAlpha },
      now + Double.truncate smoothed)

/-- The filter divides by rates of at least one and by constants. -/
lemma LLFilter.update?_eq (streamFps : Int32) (now : Time) (f : LLFilter ℚ) :
    f.update? streamFps now = some (f.update streamFps now) := by
  by_cases hfirst : f.firstArrival = true
  · rw [update?, update, if_pos hfirst, if_pos hfirst]
    by_cases hfps : 0 < streamFps
    · rw [if_pos hfps, if_pos hfps, div?_eq (one_pos.trans_le (fps_pos hfps)).ne']
      rfl
    · rw [if_neg hfps, if_neg hfps, div?_eq (by norm_num)]
      rfl
  · rw [update?, update, if_neg hfirst, if_neg hfirst]
    have hbeta {alpha : ℚ} (h : alpha = kLLFastAlpha ∨ alpha = kLLAlpha) : 2 - alpha ≠ 0 := by
      rcases h with rfl | rfl <;> norm_num [kLLAlpha, kLLFastAlpha]
    dsimp only
    rw [div?_eq (hbeta (by split_ifs <;> simp)), Option.bind_eq_bind, Option.bind_some]
    by_cases hfps : 0 < streamFps
    · have hinterval : (streamFps.toInt : ℚ) * (12 / 10) ≠ 0 := by
        have hone := fps_pos hfps
        positivity
      rw [if_pos hfps, if_pos hfps, div?_eq hinterval]
      rfl
    · rw [if_neg hfps, if_neg hfps]
      rfl

namespace AVFrameQueue

def recordPush? (now : Time) (q : AVFrameQueue ℚ) : Option (AVFrameQueue ℚ × Time) :=
  if q.lowLatency then do
    let (ll, timeEstimate) ← q.ll.update? q.streamFps now
    some ({ q with ll := ll }, timeEstimate)
  else do
    let legacy ← q.legacy.recordArrival? q.streamFps now
    some ({ q with legacy := legacy }, 0)

def creditFrames? (q : AVFrameQueue ℚ) : Option (ℕ × AVFrameQueue ℚ) := do
  let p := q.legacy
  let baseFramesPerDraw ← div? p.averageDrawInterval p.adaptiveFrameInterval
  let desiredDepth : ℚ := ((q.targetBufferedFrames + 1 : ℕ) : ℤ)
  let depthError : ℚ := ((q.queue.length : ℕ) : ℤ) - desiredDepth
  let occupancyCorr := Double.clamp (depthError * (1 / 100)) (-(8 / 100)) (8 / 100)
  let framesPerDraw := Double.max 0 (baseFramesPerDraw + occupancyCorr)
  if Double.le (98 / 100) baseFramesPerDraw ∧ Double.le baseFramesPerDraw (102 / 100) ∧
      Double.le depthError 0 ∧ Double.le 0 depthError then
    some (1, { q with legacy := { p with frameCredit := 0 } })
  else do
    let frameCredit := p.frameCredit + framesPerDraw
    let wholeFrames ← toSize? frameCredit
    some (min wholeFrames q.limit,
      { q with legacy := { p with frameCredit := frameCredit - ((wholeFrames : ℕ) : ℤ) } })

def dueFrames? (q : AVFrameQueue ℚ) : Option (ℕ × AVFrameQueue ℚ) :=
  let backlogResync := 0 < q.limit ∧ q.limit ≤ q.queue.length
  if (q.legacy.playoutResyncNeeded ∨ backlogResync) ∧ q.queue ≠ [] ∨
      q.legacy.arrivalRateSamples = 0 ∨ q.legacy.adaptiveFrameInterval ≤ 0 ∨
      q.legacy.averageDrawInterval ≤ 0 then
    some q.dueFrames
  else q.creditFrames?

def popPaced? (q : AVFrameQueue ℚ) : Option (Popped ℚ) := q.dueFrames?.map fun _ => q.popPaced

def popLegacy? (now : Time) (q : AVFrameQueue ℚ) : Option (Popped ℚ) :=
  let q := { q with legacy := q.legacy.measureDraw now }
  if q.legacy.startupBuffering ∧ q.queue.length ≤ q.targetBufferedFrames then
    some (q.hold (Statistics.fakeFrame q.bufferFrame Statistics.rebufferHold))
  else if q.legacy.startupBuffering then
    popPaced? { q with
      legacy := { q.legacy with
        startupBuffering := false
        frameCredit := 0
        playoutResyncNeeded := true } }
  else q.popPaced?

def pop? (now : Time) (q : AVFrameQueue ℚ) : Option (Popped ℚ) :=
  let q := { q with stats := { q.stats with pushesSincePop := 0 } }
  if q.lowLatency then some (q.popLowLatency now) else q.popLegacy? now

variable {q : AVFrameQueue ℚ} {clock : Time}

lemma recordPush?_eq (h : q.Paced clock) (now : Time) :
    q.recordPush? now = some (q.recordPush now) := by
  unfold AVFrameQueue.recordPush? AVFrameQueue.recordPush
  split_ifs
  · rw [LLFilter.update?_eq]
    rfl
  · rw [h.legacy.recordArrival?_eq]
    rfl

lemma creditFrames?_eq (h : q.Paced clock) (hinterval : q.legacy.adaptiveFrameInterval ≠ 0) :
    q.creditFrames? = some q.creditFrames := by
  have hdivisor : (q.legacy.adaptiveFrameInterval : ℚ) ≠ 0 := Int.cast_ne_zero.mpr hinterval
  rw [creditFrames?, div?_eq hdivisor, Option.bind_eq_bind, Option.bind_some, creditFrames]
  dsimp only
  split_ifs with hsteady hsteady' hsteady'
  · rfl
  · exact absurd hsteady hsteady'
  · exact absurd hsteady' hsteady
  · rw [toSize?_eq]
    · rfl
    · refine add_nonneg h.legacy.credit_nonneg ?_
      rw [Double.max_rat]
      exact le_max_left _ _

lemma popPaced?_eq (h : q.Paced clock) : q.popPaced? = some q.popPaced := by
  unfold popPaced? dueFrames?
  dsimp only
  split_ifs with hnone
  · rfl
  · simp only [not_or, not_le] at hnone
    rw [creditFrames?_eq h hnone.2.2.1.ne']
    rfl

lemma pop?_eq (h : q.Paced clock) (now : Time) : q.pop? now = some (q.pop now) := by
  have hmeasured := h.legacy.measureDraw now
  unfold AVFrameQueue.pop? AVFrameQueue.pop
  dsimp only
  split_ifs
  · rfl
  · unfold popLegacy? popLegacy
    dsimp only
    split_ifs
    · rfl
    · exact @popPaced?_eq _ clock (h.withLegacy rfl rfl
        (hmeasured.withCredit rfl rfl rfl ⟨le_rfl, one_pos⟩))
    · exact @popPaced?_eq _ clock (h.withLegacy rfl rfl hmeasured)

end AVFrameQueue

/-! ## Runs with a clock -/

/-- The time that a call reads from the clock. -/
def Call.time : Call ℚ → Option Time
  | .push _ _ now _ => some now
  | .pushTransferred now _ => some now
  | .pop now => some now
  | _ => none

structure Clocked where
  player : Player ℚ := {}
  clock : Time

/-- A call that reads the clock reads no earlier time than the one before it. -/
def Clocked.step (c : Clocked) (call : Call ℚ) : Option Clocked :=
  let now := call.time.getD c.clock
  if c.clock ≤ now then (c.player.step call).map fun player => ⟨player, now⟩ else none

namespace Player
open AVFrameQueue

variable {s t : Player ℚ} {clock : Time}

lemma acquireFrame_samePacing (q : AVFrameQueue ℚ) (allocOk : Bool) (heap : Heap) :
    SamePacing q (q.acquireFrame allocOk heap).2.2 := by
  unfold acquireFrame
  split
  · exact ⟨rfl, rfl, rfl⟩
  · exact SamePacing.refl q

lemma push_paced {q : AVFrameQueue ℚ} (h : q.Paced clock) {now : Time} (hnow : clock ≤ now)
    (allocOk refOk : Bool) (item : Option Frame) (heap : Heap) :
    (q.push allocOk refOk now item heap).2.2.Paced now := by
  have hacquired := h.of_same (acquireFrame_samePacing q allocOk heap)
  unfold push
  cases item with
  | none => exact h.later hnow
  | some item =>
    dsimp only
    by_cases htransfer : q.transferOwnership = true
    · rw [if_pos htransfer]
      exact h.enqueue hnow item
    · rw [if_neg htransfer]
      generalize q.acquireFrame allocOk heap = r at *
      obtain ⟨frame, heap, q⟩ := r
      cases frame with
      | none => exact hacquired.later hnow
      | some frame =>
        dsimp only
        split_ifs
        · exact hacquired.enqueue hnow frame
        · exact hacquired.later hnow

/-- One call, at a time that is not before the clock. -/
lemma step_paced {call : Call ℚ} (h : s.queue.Paced clock) (hnow : clock ≤ call.time.getD clock)
    (hstep : s.step call = some t) : t.queue.Paced (call.time.getD clock) := by
  cases call with
  | allocate =>
    obtain rfl := Option.some.inj hstep
    exact h
  | release frame =>
    simp only [Player.step] at hstep
    split_ifs at hstep
    obtain rfl := Option.some.inj hstep
    exact h
  | configure queueLimit streamFps transferOwnership lowLatency =>
    obtain rfl := Option.some.inj hstep
    exact paced_start rfl rfl rfl
  | push allocOk refOk now item =>
    simp only [Player.step] at hstep
    split_ifs at hstep <;>
    · obtain rfl := Option.some.inj hstep
      exact push_paced h hnow allocOk refOk item s.heap
  | pushTransferred now item =>
    simp only [Player.step] at hstep
    split_ifs at hstep
    obtain rfl := Option.some.inj hstep
    cases item with
    | none => exact h.later hnow
    | some item => exact h.enqueue hnow item
  | pop now =>
    obtain rfl := Option.some.inj hstep
    have hpopped : (s.queue.pop now).queue.Paced now := h.pop hnow
    unfold notePop
    split_ifs
    · exact hpopped
    · exact hpopped
  | acquireWriteFrame allocOk =>
    obtain rfl := Option.some.inj hstep
    exact h.of_same (acquireFrame_samePacing _ _ _)
  | recycleWriteFrame item =>
    simp only [Player.step] at hstep
    split_ifs at hstep
    obtain rfl := Option.some.inj hstep
    exact h.of_same ⟨rfl, rfl, rfl⟩
  | updatePresentCostMs cost =>
    obtain rfl := Option.some.inj hstep
    exact h.of_same ⟨rfl, rfl, rfl⟩
  | cleanup =>
    obtain rfl := Option.some.inj hstep
    exact paced_start rfl rfl rfl

end Player

namespace Clocked

variable {c d : Clocked} {start : Time}

lemma step_paced {call : Call ℚ} (h : c.player.queue.Paced c.clock)
    (hstep : c.step call = some d) : d.player.queue.Paced d.clock := by
  unfold Clocked.step at hstep
  dsimp only at hstep
  split_ifs at hstep with hnow
  obtain ⟨player, hplayer, rfl⟩ := Option.map_eq_some_iff.mp hstep
  exact Player.step_paced h hnow hplayer

lemma run_paced (h : Run Clocked.step (fun _ _ => True) ⟨{}, start⟩ c) :
    c.player.queue.Paced c.clock :=
  Run.invariant (I := fun c : Clocked => c.player.queue.Paced c.clock)
    (AVFrameQueue.paced_start rfl rfl rfl) (fun _ _ _ hpaced _ hstep => step_paced hpaced hstep) h

end Clocked

/-- Both estimators keep to their bounds in every run, and no division or conversion of theirs
goes wrong.  The interval of the legacy path is positive up to one frame a nanosecond. -/
theorem pacing_bounded {start : Time} {c : Clocked}
    (h : Run Clocked.step (fun _ _ => True) ⟨{}, start⟩ c) :
    let q := c.player.queue
    (q.ll.firstArrival = false →
      q.ll.Sound q.streamFps ∧ 0 < q.ll.smoothedIntervalNs + q.ll.intervalVelocityNs) ∧
    (0 < q.legacy.arrivalRateSamples →
      1 ≤ q.legacy.estimatedSourceFps ∧
      q.legacy.estimatedSourceFps ≤ maximumFps q.streamFps ∧
      (0 < q.legacy.adaptiveFrameInterval ↔ q.legacy.estimatedSourceFps ≤ 1000000000) ∧
      (q.streamFps ≤ 1000000000 → 0 < q.legacy.adaptiveFrameInterval)) ∧
    (0 ≤ q.legacy.frameCredit ∧ q.legacy.frameCredit < 1) ∧
    ∀ now, c.clock ≤ now →
      q.recordPush? now = some (q.recordPush now) ∧ q.pop? now = some (q.pop now) := by
  intro q
  have hpaced : q.Paced c.clock := Clocked.run_paced h
  refine ⟨fun hfirst => ?_, fun hsamples => ?_, ?_, fun now _ => ?_⟩
  · have hsound := (hpaced.ll hfirst).1
    exact ⟨hsound, hsound.predicted_pos⟩
  · have hlegacy := hpaced.legacy
    have hpos := hlegacy.interval_pos hsamples
    refine ⟨hlegacy.one_le_fps hsamples, hlegacy.fps_le hsamples, hpos, fun hfps => ?_⟩
    rw [hpos]
    refine (hlegacy.fps_le hsamples).trans ?_
    unfold maximumFps
    split_ifs
    · have hle : q.streamFps.toInt ≤ 1000000000 := Int32.le_iff_toInt_le.mp hfps
      exact_mod_cast hle
    · norm_num
  · exact ⟨hpaced.legacy.credit_nonneg, hpaced.legacy.credit_lt⟩
  · exact ⟨AVFrameQueue.recordPush?_eq hpaced now, AVFrameQueue.pop?_eq hpaced now⟩

/-- Two frames a quarter of a second apart, the second of which makes an estimate. -/
def twoFrames (streamFps : Int32) : List (Call ℚ) :=
  [.configure 3 streamFps false false, .allocate, .push true true 0 (some 0),
    .push true true 250000000 (some 0)]

def afterTwoFrames : Clocked :=
  (exec Clocked.step ⟨{}, 0⟩ (twoFrames 60)).get (by decide +kernel)

theorem pacing_bounded_twoFrames :
    1 ≤ afterTwoFrames.player.queue.legacy.estimatedSourceFps ∧
      0 < afterTwoFrames.player.queue.legacy.adaptiveFrameInterval := by
  have h := pacing_bounded (@Run.of_exec _ _ _ _ _ _ (twoFrames 60) (Option.some_get _).symm
    fun _ _ _ => trivial : Run Clocked.step (fun _ _ => True) ⟨{}, 0⟩ afterTwoFrames)
  have hsamples : 0 < afterTwoFrames.player.queue.legacy.arrivalRateSamples := by decide +kernel
  have hfps : afterTwoFrames.player.queue.streamFps ≤ 1000000000 := by decide +kernel
  exact ⟨(h.2.1 hsamples).1, (h.2.1 hsamples).2.2.2 hfps⟩

/-! ## More than a frame a nanosecond -/

/-- `k` frames were pushed at the time 0, and none was dropped. -/
structure Piled (k : ℕ) (c : Clocked) : Prop where
  clock : c.clock = 0
  caller : c.player.caller = [0]
  streamFps : c.player.queue.streamFps = 2147483647
  limit : c.player.queue.limit = 2 ^ 40 + 5
  transferOwnership : c.player.queue.transferOwnership = false
  lowLatency : c.player.queue.lowLatency = false
  freeQueue : c.player.queue.freeQueue = []
  queue : c.player.queue.queue.length = k
  started : c.player.queue.legacy.arrivalClockStarted = true
  windowStart : c.player.queue.legacy.arrivalWindowStart = 0
  lastArrival : c.player.queue.legacy.lastArrival = 0
  frames : c.player.queue.legacy.arrivalWindowFrames = k
  samples : c.player.queue.legacy.arrivalRateSamples = 0

namespace Piled

variable {k : ℕ} {c : Clocked}

/-- A push of the caller's frame, at a time up to which no window has ended or at its end. -/
lemma push_eq (h : Piled k c) (hk : k < 2 ^ 40) {now : Time} (hnow : 0 ≤ now) :
    ∃ d : Clocked, c.step (.push true true now (some 0)) = some d ∧ d.clock = now ∧
      d.player.caller = [0] ∧ d.player.queue = c.player.queue.queued now
        c.player.heap.allocated := by
  have howns : c.player.owns (some 0) = true := by
    simp [Player.owns, h.caller]
  have hacquire : c.player.queue.acquireFrame true c.player.heap = (some c.player.heap.allocated,
      { c.player.heap with allocated := c.player.heap.allocated + 1 }, c.player.queue) := by
    rw [AVFrameQueue.acquireFrame, h.freeQueue]
    rfl
  have hpush : c.player.queue.push true true now (some 0) c.player.heap =
      (some c.player.heap.allocated,
        { c.player.heap with allocated := c.player.heap.allocated + 1 },
        c.player.queue.enqueue now c.player.heap.allocated) := by
    rw [AVFrameQueue.push, if_neg (by simp [h.transferOwnership]), hacquire]
    rfl
  obtain ⟨frame, -, -, -, hqueue, hsetup, -⟩ :=
    c.player.queue.queued_pushed now c.player.heap.allocated
  have hroom : ¬(c.player.queue.queued now c.player.heap.allocated).limit <
      (c.player.queue.queued now c.player.heap.allocated).queue.length := by
    rw [hqueue, hsetup.limit, h.limit, List.length_append, h.queue, List.length_singleton]
    omega
  rw [AVFrameQueue.enqueue_eq, if_neg hroom] at hpush
  refine ⟨⟨{ c.player.notePush (some c.player.heap.allocated) with
    queue := c.player.queue.queued now c.player.heap.allocated
    heap := { c.player.heap with allocated := c.player.heap.allocated + 1 } }, now⟩,
    ?_, rfl, h.caller, rfl⟩
  rw [Clocked.step, Call.time, Option.getD_some, if_pos (h.clock ▸ hnow), Player.step,
    if_pos howns, hpush]
  dsimp only
  rw [if_neg (by simp [h.transferOwnership])]
  rfl

lemma legacy_queued (h : Piled k c) (now : Time) (item : Frame) :
    (c.player.queue.queued now item).legacy =
      c.player.queue.legacy.recordArrival 2147483647 now := by
  rw [AVFrameQueue.queued, AVFrameQueue.recordPush, if_neg (by simp [h.lowLatency]), h.streamFps]

/-- One more at the time 0. -/
lemma push (h : Piled k c) (hk : k < 2 ^ 40) :
    ∃ d, c.step (.push true true 0 (some 0)) = some d ∧ Piled (k + 1) d := by
  obtain ⟨d, hstep, hclock, hcaller, hqueue⟩ := h.push_eq hk le_rfl
  have hlegacy : d.player.queue.legacy = { c.player.queue.legacy with
      lastArrival := 0, arrivalWindowFrames := k + 1 } := by
    rw [hqueue, h.legacy_queued, LegacyPacing.recordArrival, if_neg (by simp [h.started]),
      if_neg (by simp [h.lastArrival, kArrivalRateResetGap])]
    dsimp only
    rw [if_pos (by simp [h.windowStart, kArrivalRateWindow]), h.frames]
  have hfps : d.player.queue.streamFps = c.player.queue.streamFps := by
    rw [hqueue, AVFrameQueue.queued, AVFrameQueue.recordPush, if_neg (by simp [h.lowLatency])]
  obtain ⟨frame, -, -, -, hframes, hsetup, hfree, -⟩ :=
    c.player.queue.queued_pushed 0 c.player.heap.allocated
  rw [← hqueue] at hframes hsetup hfree
  have hlength : d.player.queue.queue.length = k + 1 := by
    rw [hframes, List.length_append, h.queue, List.length_singleton]
  refine ⟨d, hstep, hclock, hcaller, hfps.trans h.streamFps, hsetup.limit.trans h.limit,
    hsetup.transferOwnership.trans h.transferOwnership, hsetup.lowLatency.trans h.lowLatency,
    hfree.trans h.freeQueue, hlength, ?_, ?_, ?_, ?_, ?_⟩
  · rw [hlegacy]
    exact h.started
  · rw [hlegacy]
    exact h.windowStart
  · rw [hlegacy]
  · rw [hlegacy]
  · rw [hlegacy]
    exact h.samples

/-- The first frame. -/
def firstPush : List (Call ℚ) :=
  [.configure (2 ^ 40) 2147483647 false false, .allocate, .push true true 0 (some 0)]

def afterFirstPush : Clocked := (exec Clocked.step ⟨{}, 0⟩ firstPush).get (by decide +kernel)

lemma first : Piled 1 afterFirstPush := by
  constructor <;> decide +kernel

/-- All of them. -/
lemma reached {k : ℕ} (hk : k < 2 ^ 40) :
    ∃ c, Run Clocked.step (fun _ _ => True) ⟨{}, 0⟩ c ∧ Piled (k + 1) c := by
  induction k with
  | zero =>
    exact ⟨afterFirstPush, @Run.of_exec _ _ _ _ _ _ firstPush (Option.some_get _).symm
      fun _ _ _ => trivial, first⟩
  | succ k ih =>
    obtain ⟨c, hrun, hpiled⟩ := ih (by omega)
    obtain ⟨d, hstep, hnext⟩ := hpiled.push hk
    exact ⟨d, hrun.snoc trivial hstep, hnext⟩

end Piled

/-- Frames that come faster than one a nanosecond leave no interval, and a negative rate of the
stream bounds nothing. -/
theorem interval_vanishes :
    (∃ c, Run Clocked.step (fun _ _ => True) ⟨{}, 0⟩ c ∧ c.player.queue.lowLatency = false ∧
      0 < c.player.queue.legacy.arrivalRateSamples ∧
      c.player.queue.legacy.adaptiveFrameInterval = 0) ∧
    ∃ c, Run Clocked.step (fun _ _ => True) ⟨{}, 0⟩ c ∧ c.player.queue.lowLatency = false ∧
      c.player.queue.streamFps = -1 ∧ 0 < c.player.queue.legacy.arrivalRateSamples ∧
      c.player.queue.streamFps.toInt < c.player.queue.legacy.estimatedSourceFps := by
  constructor
  · obtain ⟨c, hrun, hpiled⟩ := Piled.reached (k := 299999999) (by decide)
    obtain ⟨d, hstep, -, -, hqueue⟩ := hpiled.push_eq (by decide) (by decide : (0 : ℤ) ≤ 250000000)
    have hsampled : d.player.queue.legacy =
        { LegacyPacing.sampleRate 2147483647 250000000 { c.player.queue.legacy with
            lastArrival := 250000000, arrivalWindowFrames := 300000001 } with
          arrivalWindowStart := 250000000, arrivalWindowFrames := 1 } := by
      rw [hqueue, hpiled.legacy_queued, LegacyPacing.recordArrival,
        if_neg (by simp [hpiled.started]), hpiled.lastArrival, if_neg (by decide)]
      dsimp only
      rw [hpiled.windowStart, if_neg (by decide), hpiled.frames, if_pos (by decide)]
      rfl
    obtain ⟨frame, -, -, -, -, hsetup, -⟩ :=
      c.player.queue.queued_pushed 250000000 c.player.heap.allocated
    rw [← hqueue] at hsetup
    refine ⟨d, hrun.snoc trivial hstep, hsetup.lowLatency.trans hpiled.lowLatency, ?_, ?_⟩
    · rw [hsampled]
      exact Nat.succ_pos _
    · rw [hsampled, LegacyPacing.sampleRate]
      dsimp only
      rw [if_pos hpiled.samples]
      decide +kernel
  · refine ⟨(exec Clocked.step ⟨{}, 0⟩ (twoFrames (-1))).get (by decide +kernel),
      @Run.of_exec _ _ _ _ _ _ (twoFrames (-1)) (Option.some_get _).symm fun _ _ _ => trivial, ?_⟩
    decide +kernel

end ArtemisSwitch.Frames

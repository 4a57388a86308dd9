import ArtemisSwitch.Library.Clamping

/-!
# Bitrate steps

The bitrates that a slider can be set to, and the positions of the slider.  Progress is an exact
rational number.
-/

namespace ArtemisSwitch.Bitrate
open Clamping

/-- Bounds that belong to the range. -/
structure BitrateSliderRange where
  minKbps : Int32
  maxKbps : Int32
  deriving DecidableEq

def kFineStepKbps : Int32 := 500
def kCoarseStepKbps : Int32 := 1000
def kCoarseThresholdKbps : Int32 := 20000

def stepForKbps (kbps : Int32) : Int32 :=
  if kbps < kCoarseThresholdKbps then kFineStepKbps else kCoarseStepKbps

def quantizeBitrateKbps (kbps : Int32) (range : BitrateSliderRange) : Int32 :=
  if range.maxKbps ≤ range.minKbps then range.minKbps
  else
    let clamped := clamp kbps range.minKbps range.maxKbps
    let step := stepForKbps clamped
    let snapped := (clamped + step / 2) / step * step
    clamp snapped range.minKbps range.maxKbps

def bitrateFromSliderProgress (progress : ℚ) (range : BitrateSliderRange) : Int32 :=
  if range.maxKbps ≤ range.minKbps then range.minKbps
  else
    let clamped := clamp progress 0 1
    let span : ℚ := (range.maxKbps - range.minKbps).toInt
    let raw := range.minKbps + Int32.ofInt (lround (clamped * span))
    quantizeBitrateKbps raw range

def sliderProgressFromBitrate (kbps : Int32) (range : BitrateSliderRange) : ℚ :=
  if range.maxKbps ≤ range.minKbps then 0
  else
    let clamped := clamp kbps range.minKbps range.maxKbps
    let span : ℚ := (range.maxKbps - range.minKbps).toInt
    clamp ((clamped - range.minKbps).toInt / span) 0 1

/-- `0 ≤ min ≤ max`, and a step above the range there is still an `int`. -/
structure BitrateSliderRange.Valid (range : BitrateSliderRange) : Prop where
  nonneg : 0 ≤ range.minKbps
  ordered : range.minKbps ≤ range.maxKbps
  room : range.maxKbps.toInt + 500 < 2 ^ 31

/-- Multiples of the fine step up to the threshold, and of the coarse step from there on. -/
def OnGrid (kbps : Int32) : Prop :=
  (kbps.toInt ≤ 20000 ∧ (500 : ℤ) ∣ kbps.toInt) ∨ (20000 ≤ kbps.toInt ∧ (1000 : ℤ) ∣ kbps.toInt)

variable {range : BitrateSliderRange} {kbps x low high : Int32}

/-! ## In whole numbers -/

/-- The grid rounds to it. -/
abbrev grid : ℤ → ℤ := snapTwo 500 1000 20000

lemma grid_mono : Monotone grid := snapTwo_mono (by decide) (by decide) (by decide) (by decide)

lemma grid_idem (z : ℤ) : grid (grid z) = grid z :=
  snapTwo_idem (by decide) (by decide) (by decide) (by decide) z

lemma toInt_clamp (x low high : Int32) :
    (clamp x low high).toInt = clamp x.toInt low.toInt high.toInt := by
  unfold clamp
  simp only [Int32.lt_iff_toInt_lt, apply_ite Int32.toInt]

lemma toInt_add_of_lt {a b : Int32} (ha : 0 ≤ a.toInt) (hb : 0 ≤ b.toInt)
    (h : a.toInt + b.toInt < 2 ^ 31) : (a + b).toInt = a.toInt + b.toInt := by
  rw [Int32.toInt_add, Int.bmod_eq_of_le (by omega) (by omega)]

lemma toInt_sub_of_le {a b : Int32} (hb : 0 ≤ b.toInt) (h : b.toInt ≤ a.toInt) :
    (a - b).toInt = a.toInt - b.toInt := by
  have ha := a.toInt_lt
  rw [Int32.toInt_sub, Int.bmod_eq_of_le (by omega) (by omega)]

/-- Nothing overflows on the way to the multiple of a step. -/
lemma toInt_snap {step : Int32} (hstep : step.toInt = 500 ∨ step.toInt = 1000) (hx : 0 ≤ x.toInt)
    (hroom : x.toInt + 500 < 2 ^ 31) : ((x + step / 2) / step * step).toInt =
      snap step.toInt x.toInt := by
  have hhalf : (step / 2).toInt = step.toInt / 2 := by
    rw [Int32.toInt_div_of_ne_right _ _ (by decide)]
    exact Int.tdiv_eq_ediv_of_nonneg (by omega)
  have hne : step ≠ -1 := by
    rintro rfl
    exact absurd hstep (by decide)
  have hadd : (x + step / 2).toInt = x.toInt + step.toInt / 2 := by
    rw [toInt_add_of_lt hx (by omega) (by omega), hhalf]
  have hdiv : ((x + step / 2) / step).toInt = (x.toInt + step.toInt / 2) / step.toInt := by
    rw [Int32.toInt_div_of_ne_right _ _ hne, hadd]
    exact Int.tdiv_eq_ediv_of_nonneg (by omega)
  have hsplit := Int.ediv_mul_add_emod (x.toInt + step.toInt / 2) step.toInt
  have hrest := Int.emod_nonneg (x.toInt + step.toInt / 2) (b := step.toInt) (by omega)
  have hpos : 0 ≤ (x.toInt + step.toInt / 2) / step.toInt * step.toInt :=
    mul_nonneg (Int.ediv_nonneg (by omega) (by omega)) (by omega)
  rw [Int32.toInt_mul, hdiv, Int.bmod_eq_of_le (by omega) (by omega)]
  rfl

lemma toInt_stepForKbps (kbps : Int32) :
    (stepForKbps kbps).toInt = if kbps.toInt < 20000 then 500 else 1000 := by
  have hthreshold : kbps < kCoarseThresholdKbps ↔ kbps.toInt < 20000 := Int32.lt_iff_toInt_lt
  rw [stepForKbps, apply_ite Int32.toInt]
  exact if_congr hthreshold rfl rfl

namespace BitrateSliderRange.Valid

lemma nonneg_toInt (h : range.Valid) : 0 ≤ range.minKbps.toInt := by
  simpa [Int32.le_iff_toInt_le] using h.nonneg

lemma ordered_toInt (h : range.Valid) : range.minKbps.toInt ≤ range.maxKbps.toInt :=
  Int32.le_iff_toInt_le.mp h.ordered

end BitrateSliderRange.Valid

/-- The code rounds within the range. -/
lemma toInt_quantize (h : range.Valid) (kbps : Int32) : (quantizeBitrateKbps kbps range).toInt =
    roundIn grid range.minKbps.toInt range.maxKbps.toInt kbps.toInt := by
  have hlow := h.nonneg_toInt
  have hrange := h.ordered_toInt
  have hroom := h.room
  unfold quantizeBitrateKbps
  split_ifs with hempty
  · have heq : range.maxKbps.toInt = range.minKbps.toInt :=
      (Int32.le_iff_toInt_le.mp hempty).antisymm hrange
    have hinside : range.minKbps.toInt ≤
        roundIn grid range.minKbps.toInt range.maxKbps.toInt kbps.toInt := le_roundIn hrange
    have hinside' : roundIn grid range.minKbps.toInt range.maxKbps.toInt kbps.toInt ≤
        range.maxKbps.toInt := roundIn_le hrange
    omega
  · have hclamped := @le_clamp _ _ _ kbps.toInt _ _ hrange
    have hclamped' := @clamp_le _ _ _ kbps.toInt _ _ hrange
    rw [← toInt_clamp] at hclamped hclamped'
    have hstep := toInt_stepForKbps (clamp kbps range.minKbps range.maxKbps)
    have hsteps : (stepForKbps (clamp kbps range.minKbps range.maxKbps)).toInt = 500 ∨
        (stepForKbps (clamp kbps range.minKbps range.maxKbps)).toInt = 1000 := by
      rw [hstep]
      exact ite_eq_or_eq _ _ _
    dsimp only
    rw [toInt_clamp, toInt_snap hsteps (by omega) (by omega), hstep, toInt_clamp, roundIn]
    refine congrArg (clamp · _ _) ?_
    rw [grid, snapTwo]
    split_ifs <;> rfl

/-! ## The grid -/

lemma quantize_grid (h : range.Valid) (kbps : Int32) :
    OnGrid (quantizeBitrateKbps kbps range) ∨ quantizeBitrateKbps kbps range = range.minKbps ∨
      quantizeBitrateKbps kbps range = range.maxKbps := by
  have hcases := roundIn_cases grid range.minKbps.toInt range.maxKbps.toInt kbps.toInt
  rw [← toInt_quantize h, Int32.toInt_inj, Int32.toInt_inj] at hcases
  refine hcases.imp_left fun hgrid => ?_
  rw [OnGrid, hgrid]
  exact snapTwo_grid (by decide) (by decide) (by decide) (by decide) _

/-- The result is within half a step of the clamped bitrate. -/
lemma quantize_near (h : range.Valid) (kbps : Int32) :
    2 * |(quantizeBitrateKbps kbps range).toInt -
        (clamp kbps range.minKbps range.maxKbps).toInt| ≤
      (stepForKbps (clamp kbps range.minKbps range.maxKbps)).toInt := by
  have hrange := h.ordered_toInt
  rw [toInt_quantize h, toInt_stepForKbps, toInt_clamp, roundIn]
  set c := clamp kbps.toInt range.minKbps.toInt range.maxKbps.toInt with hc
  have hlow : range.minKbps.toInt ≤ c := le_clamp hrange
  have hhigh : c ≤ range.maxKbps.toInt := clamp_le hrange
  have hnear : 2 * |grid c - c| ≤ if c < 20000 then 500 else 1000 := by
    rw [grid, snapTwo]
    split_ifs
    · exact two_mul_abs_snap_sub_le (by decide) c
    · exact two_mul_abs_snap_sub_le (by decide) c
  calc 2 * |clamp (grid c) range.minKbps.toInt range.maxKbps.toInt - c| ≤ 2 * |grid c - c| :=
        mul_le_mul_of_nonneg_left (abs_clamp_sub_le hlow hhigh) (by decide)
    _ ≤ _ := hnear

/-- A bitrate in the range comes back from the position of the slider. -/
lemma raw_of_progress (h : range.Valid) (hlt : range.minKbps < range.maxKbps)
    (hlow : range.minKbps.toInt ≤ kbps.toInt) (hhigh : kbps.toInt ≤ range.maxKbps.toInt) :
    bitrateFromSliderProgress (sliderProgressFromBitrate kbps range) range =
      quantizeBitrateKbps kbps range := by
  have hnonneg := h.nonneg_toInt
  have hroom := h.room
  have hlt' := Int32.lt_iff_toInt_lt.mp hlt
  have hne : ¬range.maxKbps ≤ range.minKbps := by
    rw [Int32.le_iff_toInt_le]
    omega
  have hclamp : clamp kbps range.minKbps range.maxKbps = kbps := by
    rw [← Int32.toInt_inj, toInt_clamp, clamp_of_mem hlow hhigh]
  have hspan : (range.maxKbps - range.minKbps).toInt =
      range.maxKbps.toInt - range.minKbps.toInt := toInt_sub_of_le hnonneg hlt'.le
  have hdist : (kbps - range.minKbps).toInt = kbps.toInt - range.minKbps.toInt :=
    toInt_sub_of_le hnonneg hlow
  have hpos : (0 : ℚ) < (range.maxKbps - range.minKbps).toInt := by
    rw [hspan]
    exact_mod_cast sub_pos.mpr hlt'
  have hdist0 : (0 : ℚ) ≤ (kbps - range.minKbps).toInt := by
    rw [hdist]
    exact_mod_cast sub_nonneg.mpr hlow
  have hdist1 : ((kbps - range.minKbps).toInt : ℚ) ≤ (range.maxKbps - range.minKbps).toInt := by
    rw [hdist, hspan]
    exact_mod_cast sub_le_sub_right hhigh _
  have hprogress : clamp (((kbps - range.minKbps).toInt : ℚ) /
      (range.maxKbps - range.minKbps).toInt) 0 1 =
        (kbps - range.minKbps).toInt / (range.maxKbps - range.minKbps).toInt :=
    clamp_of_mem (div_nonneg hdist0 hpos.le) ((div_le_one hpos).mpr hdist1)
  have hback : range.minKbps + (kbps - range.minKbps) = kbps := by
    rw [Int32.add_comm, Int32.sub_add_cancel]
  rw [sliderProgressFromBitrate, if_neg hne, bitrateFromSliderProgress, if_neg hne]
  dsimp only
  rw [hclamp, hprogress, hprogress, div_mul_cancel₀ _ hpos.ne',
    lround_intCast (by exact_mod_cast hdist0), Int32.ofInt_toInt, hback]

/-- **Bitrates keep to the grid and come back from the slider.** -/
theorem bitrate_grid (range : BitrateSliderRange) (h : range.Valid) :
    (∀ kbps, range.minKbps ≤ quantizeBitrateKbps kbps range ∧
        quantizeBitrateKbps kbps range ≤ range.maxKbps) ∧
      (∀ kbps, quantizeBitrateKbps (quantizeBitrateKbps kbps range) range =
        quantizeBitrateKbps kbps range) ∧
      (∀ kbps kbps', kbps ≤ kbps' →
        quantizeBitrateKbps kbps range ≤ quantizeBitrateKbps kbps' range) ∧
      (∀ kbps, OnGrid (quantizeBitrateKbps kbps range) ∨
        quantizeBitrateKbps kbps range = range.minKbps ∨
        quantizeBitrateKbps kbps range = range.maxKbps) ∧
      (∀ kbps, 2 * |(quantizeBitrateKbps kbps range).toInt -
          (clamp kbps range.minKbps range.maxKbps).toInt| ≤
        (stepForKbps (clamp kbps range.minKbps range.maxKbps)).toInt) ∧
      (range.minKbps < range.maxKbps → ∀ kbps,
        bitrateFromSliderProgress
            (sliderProgressFromBitrate (quantizeBitrateKbps kbps range) range) range =
          quantizeBitrateKbps kbps range) := by
  have hrange := h.ordered_toInt
  have hinside (kbps : Int32) : range.minKbps ≤ quantizeBitrateKbps kbps range ∧
      quantizeBitrateKbps kbps range ≤ range.maxKbps := by
    rw [Int32.le_iff_toInt_le, Int32.le_iff_toInt_le, toInt_quantize h]
    exact ⟨le_roundIn hrange, roundIn_le hrange⟩
  have hidem (kbps : Int32) : quantizeBitrateKbps (quantizeBitrateKbps kbps range) range =
      quantizeBitrateKbps kbps range := by
    rw [← Int32.toInt_inj, toInt_quantize h, toInt_quantize h]
    exact roundIn_idem hrange grid_mono grid_idem _
  refine ⟨hinside, hidem, fun kbps kbps' hle => ?_, quantize_grid h, quantize_near h,
    fun hlt kbps => ?_⟩
  · rw [Int32.le_iff_toInt_le, toInt_quantize h, toInt_quantize h]
    exact roundIn_mono hrange grid_mono (Int32.le_iff_toInt_le.mp hle)
  · obtain ⟨hlow, hhigh⟩ := hinside kbps
    rw [raw_of_progress h hlt (Int32.le_iff_toInt_le.mp hlow) (Int32.le_iff_toInt_le.mp hhigh),
      hidem]

/-- The range of the console. -/
theorem bitrate_grid_switch :
    quantizeBitrateKbps (quantizeBitrateKbps 10347 ⟨500, 100000⟩) ⟨500, 100000⟩ =
      quantizeBitrateKbps 10347 ⟨500, 100000⟩ :=
  (bitrate_grid ⟨500, 100000⟩ ⟨by decide, by decide, by decide⟩).2.1 10347

end ArtemisSwitch.Bitrate

import ArtemisSwitch.Library.Clamping
import ArtemisSwitch.Library.Percentiles
import Mathlib.Data.Rat.Floor

/-!
# Summaries of a benchmark

The samples of a run are summarized as distributions, counters and a score.  A finite `float` or
`double` is the rational that it stands for, so `collect` keeps every value.
-/

namespace ArtemisSwitch.Benchmark
open Clamping Percentiles

structure BenchmarkSample where
  timestampMs : UInt64 := 0
  hostFps : ℚ := 0
  receivedFps : ℚ := 0
  decodedFps : ℚ := 0
  renderedFps : ℚ := 0
  receiveMs : ℚ := 0
  decodeMs : ℚ := 0
  decoderDelayMs : ℚ := 0
  renderMs : ℚ := 0
  gpuRenderMs : ℚ := 0
  queueDepth : ℚ := 0
  queueJitterMs : ℚ := 0
  presentIntervalMs : ℚ := 0
  queueWaitMs : ℚ := 0
  clientPipelineMs : ℚ := 0
  actualVideoMbps : ℚ := 0
  timeToFirstPacketMs : ℚ := -1
  timeToFirstDecodeMs : ℚ := -1
  timeToFirstPresentMs : ℚ := -1
  totalReceivedFrames : UInt64 := 0
  networkDroppedFrames : UInt64 := 0
  queueUnderflows : UInt64 := 0
  queueSkippedFrames : UInt64 := 0
  queueOverflowDrops : UInt64 := 0
  queuePacingSkips : UInt64 := 0
  queueResyncs : UInt64 := 0

structure DistributionSummary where
  mean : ℚ := 0
  median : ℚ := 0
  p95 : ℚ := 0
  p99 : ℚ := 0
  min : ℚ := 0
  max : ℚ := 0
  deriving DecidableEq

structure BenchmarkSummary where
  sampleCount : ℕ := 0
  durationSeconds : ℚ := 0
  hostFps : DistributionSummary := {}
  receivedFps : DistributionSummary := {}
  decodedFps : DistributionSummary := {}
  renderedFps : DistributionSummary := {}
  receiveMs : DistributionSummary := {}
  decodeMs : DistributionSummary := {}
  decoderDelayMs : DistributionSummary := {}
  renderMs : DistributionSummary := {}
  gpuRenderMs : DistributionSummary := {}
  clientProcessingMs : DistributionSummary := {}
  queueDepth : DistributionSummary := {}
  queueJitterMs : DistributionSummary := {}
  queueWaitMs : DistributionSummary := {}
  clientPipelineMs : DistributionSummary := {}
  presentIntervalMs : DistributionSummary := {}
  actualVideoMbps : DistributionSummary := {}
  receivedFrames : UInt64 := 0
  networkDroppedFrames : UInt64 := 0
  networkDropPercent : ℚ := 0
  queueUnderflows : UInt64 := 0
  queueSkippedFrames : UInt64 := 0
  queueOverflowDrops : UInt64 := 0
  queuePacingSkips : UInt64 := 0
  queueResyncs : UInt64 := 0
  timeToFirstPacketMs : ℚ := -1
  timeToFirstDecodeMs : ℚ := -1
  timeToFirstPresentMs : ℚ := -1
  stabilityScore : ℚ := 0

/-! ## Values -/

def collect (samples : List BenchmarkSample) (getter : BenchmarkSample → ℚ) : List ℚ :=
  samples.map getter

def deltaCounter (first last : UInt64) : UInt64 := if first ≤ last then last - first else 0

def percentile (values : List ℚ) (percentile01 : ℚ) : ℚ :=
  if values.isEmpty then 0
  else
    let percentile01 := clamp percentile01 0 1
    let values := values.insertionSort (· ≤ ·)
    if values.length = 1 then values.headD 0
    else
      let index := percentile01 * (values.length - 1 : ℕ)
      let lower := ⌊index⌋₊
      let upper := ⌈index⌉₊
      if lower = upper then values.getD lower 0
      else
        let weight := index - lower
        values.getD lower 0 * (1 - weight) + values.getD upper 0 * weight

def summarizeValues (values : List ℚ) : DistributionSummary :=
  if values.isEmpty then {}
  else
    { min := values.min?.getD 0
      max := values.max?.getD 0
      mean := values.foldl (· + ·) 0 / values.length
      median := percentile values 0.50
      p95 := percentile values 0.95
      p99 := percentile values 0.99 }

/-! ## The score -/

/-- What is taken off for an excess, if there is one. -/
def excessPenalty (most rate excess : ℚ) : ℚ := if 0 < excess then min most (excess * rate) else 0

def calculateStabilityScore (summary : BenchmarkSummary) (targetFps : Int32) : ℚ :=
  if summary.sampleCount = 0 ∨ targetFps ≤ 0 then 0
  else
    let fpsRatio := summary.renderedFps.mean / targetFps.toInt
    let score := 100 - excessPenalty 35 140 (0.995 - fpsRatio)
    let score := score - min 45 (summary.networkDropPercent * 25)
    let frameBudgetMs := 1000 / (targetFps.toInt : ℚ)
    let p99Ratio := summary.clientProcessingMs.p99 / frameBudgetMs
    let score := score - excessPenalty 20 30 (p99Ratio - 0.55)
    let queueFaults := summary.queueUnderflows + summary.queueOverflowDrops +
      summary.queueResyncs + summary.queueSkippedFrames
    let score := score - min 15 ((queueFaults.toNat : ℚ) * 0.75)
    clamp score 0 100

/-! ## The accumulator -/

structure BenchmarkAccumulator where
  m_targetFps : Int32
  m_samples : List BenchmarkSample := []

/-- The time that a sample took on the way from the network to the screen. -/
def clientProcessing (s : BenchmarkSample) : ℚ :=
  if 0 < s.clientPipelineMs then s.clientPipelineMs
  else s.receiveMs + s.decodeMs + s.decoderDelayMs + s.renderMs

namespace BenchmarkAccumulator

def new (targetFps : Int32) : BenchmarkAccumulator :=
  { m_targetFps := if targetFps < 1 then 1 else targetFps }

def reset (a : BenchmarkAccumulator) : BenchmarkAccumulator := { a with m_samples := [] }

def addSample (a : BenchmarkAccumulator) (sample : BenchmarkSample) : BenchmarkAccumulator :=
  { a with m_samples := a.m_samples ++ [sample] }

/-- The summary of samples of which `first` is the first and `last` the last, without a score. -/
def summarizeBetween (samples : List BenchmarkSample) (first last : BenchmarkSample) :
    BenchmarkSummary :=
  let receivedFrames := deltaCounter first.totalReceivedFrames last.totalReceivedFrames
  let networkDroppedFrames := deltaCounter first.networkDroppedFrames last.networkDroppedFrames
  let networkTotal := receivedFrames + networkDroppedFrames
  { sampleCount := samples.length
    hostFps := summarizeValues (collect samples (·.hostFps))
    receivedFps := summarizeValues (collect samples (·.receivedFps))
    decodedFps := summarizeValues (collect samples (·.decodedFps))
    renderedFps := summarizeValues (collect samples (·.renderedFps))
    receiveMs := summarizeValues (collect samples (·.receiveMs))
    decodeMs := summarizeValues (collect samples (·.decodeMs))
    decoderDelayMs := summarizeValues (collect samples (·.decoderDelayMs))
    renderMs := summarizeValues (collect samples (·.renderMs))
    gpuRenderMs := summarizeValues (collect samples (·.gpuRenderMs))
    clientProcessingMs := summarizeValues (collect samples clientProcessing)
    queueDepth := summarizeValues (collect samples (·.queueDepth))
    queueJitterMs := summarizeValues (collect samples (·.queueJitterMs))
    queueWaitMs := summarizeValues (collect samples (·.queueWaitMs))
    clientPipelineMs := summarizeValues (collect samples (·.clientPipelineMs))
    presentIntervalMs := summarizeValues (collect samples (·.presentIntervalMs))
    actualVideoMbps := summarizeValues (collect samples (·.actualVideoMbps))
    durationSeconds :=
      if first.timestampMs ≤ last.timestampMs then
        ((last.timestampMs - first.timestampMs).toNat : ℚ) / 1000
      else 0
    receivedFrames := receivedFrames
    networkDroppedFrames := networkDroppedFrames
    networkDropPercent :=
      if 0 < networkTotal then (networkDroppedFrames.toNat : ℚ) * 100 / networkTotal.toNat else 0
    queueUnderflows := deltaCounter first.queueUnderflows last.queueUnderflows
    queueSkippedFrames := deltaCounter first.queueSkippedFrames last.queueSkippedFrames
    queueOverflowDrops := deltaCounter first.queueOverflowDrops last.queueOverflowDrops
    queuePacingSkips := deltaCounter first.queuePacingSkips last.queuePacingSkips
    queueResyncs := deltaCounter first.queueResyncs last.queueResyncs
    timeToFirstPacketMs := last.timeToFirstPacketMs
    timeToFirstDecodeMs := last.timeToFirstDecodeMs
    timeToFirstPresentMs := last.timeToFirstPresentMs }

def summarize (a : BenchmarkAccumulator) : BenchmarkSummary :=
  match a.m_samples.head?, a.m_samples.getLast? with
  | some first, some last =>
    let result := summarizeBetween a.m_samples first last
    { result with stabilityScore := calculateStabilityScore result a.m_targetFps }
  | _, _ => {}

end BenchmarkAccumulator

/-! ## Percentiles -/

variable {values values' : List ℚ} {p q : ℚ}

lemma percentile_eq (hvalues : values ≠ []) (p : ℚ) :
    percentile values p = percentileOf values (clamp p 0 1) := by
  have hempty : ¬values.isEmpty := by simpa using hvalues
  rw [percentile, if_neg hempty, percentileOf]
  dsimp only
  rw [List.length_insertionSort]
  by_cases hone : values.length = 1
  · -- A single value is at the position 0.
    rw [if_pos hone, hone, Nat.sub_self, Nat.cast_zero, mul_zero, interpolate, Nat.floor_zero,
      Nat.ceil_zero, if_pos rfl]
    exact List.headD_eq_getD
  · rw [if_neg hone]
    rfl

lemma percentile_mono (values : List ℚ) (h : p ≤ q) :
    percentile values p ≤ percentile values q := by
  by_cases hvalues : values = []
  · rw [hvalues]
    exact le_rfl
  · rw [percentile_eq hvalues, percentile_eq hvalues]
    exact percentileOf_mono (le_clamp zero_le_one) (clamp_mono zero_le_one h)
      (clamp_le zero_le_one)

lemma percentile_le (h : List.Forall₂ (· ≤ ·) values values') (p : ℚ) :
    percentile values p ≤ percentile values' p := by
  cases h with
  | nil => exact le_rfl
  | cons hv hvs =>
    rw [percentile_eq (List.cons_ne_nil _ _), percentile_eq (List.cons_ne_nil _ _)]
    exact percentileOf_le (.cons hv hvs) (le_clamp zero_le_one)

lemma percentile_perm (h : values.Perm values') (p : ℚ) :
    percentile values p = percentile values' p := by
  by_cases hvalues : values = []
  · rw [hvalues] at h ⊢
    rw [h.nil_eq]
  · have hvalues' : values' ≠ [] := fun hnil => hvalues (by simpa [hnil] using h)
    rw [percentile_eq hvalues, percentile_eq hvalues', percentileOf_perm h]

/-! ## Distributions -/

/-- The figures of a distribution in their order. -/
structure DistributionSummary.Ordered (d : DistributionSummary) : Prop where
  min_le_median : d.min ≤ d.median
  median_le_p95 : d.median ≤ d.p95
  p95_le_p99 : d.p95 ≤ d.p99
  p99_le_max : d.p99 ≤ d.max
  min_le_mean : d.min ≤ d.mean
  mean_le_max : d.mean ≤ d.max

/-- The figures are those of the values. -/
structure DistributionSummary.Describes (d : DistributionSummary) (values : List ℚ) : Prop where
  min_mem : d.min ∈ values
  min_le : ∀ v ∈ values, d.min ≤ v
  max_mem : d.max ∈ values
  le_max : ∀ v ∈ values, v ≤ d.max
  mean_eq : d.mean = values.sum / values.length
  median_eq : d.median = percentileOf values 0.50
  p95_eq : d.p95 = percentileOf values 0.95
  p99_eq : d.p99 = percentileOf values 0.99

lemma percentile_of_mem (hvalues : values ≠ []) (hp : 0 ≤ p) (hp' : p ≤ 1) :
    percentile values p = percentileOf values p := by
  rw [percentile_eq hvalues, clamp_of_mem hp hp']

lemma summarizeValues_describes (hvalues : values ≠ []) :
    (summarizeValues values).Describes values := by
  have hempty : ¬values.isEmpty := by simpa using hvalues
  obtain ⟨least, hleast⟩ := Option.isSome_iff_exists.mp (List.isSome_min?_of_ne_nil hvalues)
  obtain ⟨greatest, hgreatest⟩ := Option.isSome_iff_exists.mp (List.isSome_max?_of_ne_nil hvalues)
  obtain ⟨hmin, hmin_le⟩ := List.min?_eq_some_iff.mp hleast
  obtain ⟨hmax, hle_max⟩ := List.max?_eq_some_iff.mp hgreatest
  rw [summarizeValues, if_neg hempty, hleast, hgreatest]
  constructor
  · exact hmin
  · exact hmin_le
  · exact hmax
  · exact hle_max
  · rw [List.sum_eq_foldl]
  · exact percentile_of_mem hvalues (by norm_num) (by norm_num)
  · exact percentile_of_mem hvalues (by norm_num) (by norm_num)
  · exact percentile_of_mem hvalues (by norm_num) (by norm_num)

lemma DistributionSummary.Describes.ordered {d : DistributionSummary} (h : d.Describes values) :
    d.Ordered := by
  have hvalues : values ≠ [] := List.ne_nil_of_mem h.min_mem
  have hpercentile {p : ℚ} (hp : 0 ≤ p) (hp' : p ≤ 1) :=
    percentileOf_mem hvalues h.min_le h.le_max hp hp'
  have hmean := mean_mem hvalues h.min_le h.le_max
  rw [← h.mean_eq] at hmean
  constructor
  · exact h.median_eq ▸ (hpercentile (by norm_num) (by norm_num)).1
  · rw [h.median_eq, h.p95_eq]
    exact percentileOf_mono (by norm_num) (by norm_num) (by norm_num)
  · rw [h.p95_eq, h.p99_eq]
    exact percentileOf_mono (by norm_num) (by norm_num) (by norm_num)
  · exact h.p99_eq ▸ (hpercentile (by norm_num) (by norm_num)).2
  · exact hmean.1
  · exact hmean.2

/-- Smaller values have a smaller mean. -/
lemma summarizeValues_mean_le (h : List.Forall₂ (· ≤ ·) values values') :
    (summarizeValues values).mean ≤ (summarizeValues values').mean := by
  cases h with
  | nil => exact le_rfl
  | @cons v v' vs vs' hv hvs =>
    have hsum := List.Forall₂.sum_le_sum (List.Forall₂.cons hv hvs)
    rw [List.sum_eq_foldl, List.sum_eq_foldl] at hsum
    have hlength : vs.length = vs'.length := hvs.length_eq
    rw [summarizeValues, summarizeValues, if_neg (by simp), if_neg (by simp)]
    dsimp only
    rw [List.length_cons, List.length_cons, hlength]
    exact div_le_div_of_nonneg_right hsum (Nat.cast_nonneg _)

/-! ## Counters -/

def BenchmarkSample.CountersBelow (s : BenchmarkSample) (bound : ℕ) : Prop :=
  s.totalReceivedFrames.toNat < bound ∧ s.networkDroppedFrames.toNat < bound ∧
    s.queueUnderflows.toNat < bound ∧ s.queueSkippedFrames.toNat < bound ∧
    s.queueOverflowDrops.toNat < bound ∧ s.queuePacingSkips.toNat < bound ∧
    s.queueResyncs.toNat < bound

lemma deltaCounter_toNat (first last : UInt64) :
    (deltaCounter first last).toNat = last.toNat - first.toNat := by
  unfold deltaCounter
  split_ifs with h
  · exact UInt64.toNat_sub_of_le _ _ h
  · have hlt : last.toNat < first.toNat := UInt64.lt_iff_toNat_lt.mp (UInt64.not_le.mp h)
    rw [UInt64.toNat_zero]
    omega

/-- The share of `dropped` in all frames, in percent. -/
def dropPercent (received dropped : ℕ) : ℚ :=
  if 0 < received + dropped then (dropped : ℚ) * 100 / (received + dropped : ℕ) else 0

lemma dropPercent_mem (received dropped : ℕ) :
    0 ≤ dropPercent received dropped ∧ dropPercent received dropped ≤ 100 := by
  unfold dropPercent
  split_ifs with h
  · have hpos : (0 : ℚ) < (received + dropped : ℕ) := by exact_mod_cast h
    constructor
    · positivity
    · rw [div_le_iff₀ hpos]
      push_cast
      linarith [(Nat.cast_nonneg received : (0 : ℚ) ≤ received)]
  · norm_num

lemma dropPercent_mono (received : ℕ) {dropped dropped' : ℕ} (h : dropped ≤ dropped') :
    dropPercent received dropped ≤ dropPercent received dropped' := by
  by_cases hpos : 0 < received + dropped
  · have hpos' : 0 < received + dropped' := by omega
    rw [dropPercent, dropPercent, if_pos hpos, if_pos hpos',
      div_le_div_iff₀ (by exact_mod_cast hpos) (by exact_mod_cast hpos')]
    -- What is compared is `received` times the drops.
    have hcross := Nat.mul_le_mul_left received h
    norm_cast
    nlinarith
  · rw [dropPercent, if_neg hpos]
    exact (dropPercent_mem received dropped').1

/-! ## The score -/

lemma excessPenalty_mono {most rate x y : ℚ} (hmost : 0 ≤ most) (hrate : 0 ≤ rate) (h : x ≤ y) :
    excessPenalty most rate x ≤ excessPenalty most rate y := by
  unfold excessPenalty
  split_ifs with hx hy
  · exact min_le_min le_rfl (mul_le_mul_of_nonneg_right h hrate)
  · exact absurd (hx.trans_le h) hy
  · exact le_min hmost (by positivity)
  · exact le_rfl

def BenchmarkSummary.queueFaults (b : BenchmarkSummary) : UInt64 :=
  b.queueUnderflows + b.queueOverflowDrops + b.queueResyncs + b.queueSkippedFrames

lemma stabilityScore_mem (b : BenchmarkSummary) (targetFps : Int32) :
    0 ≤ calculateStabilityScore b targetFps ∧ calculateStabilityScore b targetFps ≤ 100 := by
  unfold calculateStabilityScore
  split_ifs with h
  · norm_num
  · exact ⟨le_clamp (by norm_num), clamp_le (by norm_num)⟩

/-- A summary that is worse in every figure has no better score. -/
lemma stabilityScore_anti {good bad : BenchmarkSummary}
    (hcount : bad.sampleCount = good.sampleCount)
    (hfps : bad.renderedFps.mean ≤ good.renderedFps.mean)
    (hdrop : good.networkDropPercent ≤ bad.networkDropPercent)
    (hp99 : good.clientProcessingMs.p99 ≤ bad.clientProcessingMs.p99)
    (hfaults : good.queueFaults.toNat ≤ bad.queueFaults.toNat) (targetFps : Int32) :
    calculateStabilityScore bad targetFps ≤ calculateStabilityScore good targetFps := by
  by_cases hnone : good.sampleCount = 0 ∨ targetFps ≤ 0
  · rw [calculateStabilityScore, calculateStabilityScore, hcount, if_pos hnone, if_pos hnone]
  · have htarget : (0 : ℚ) ≤ targetFps.toInt := by
      have hpos : 0 < targetFps.toInt := by
        simpa [Int32.lt_iff_toInt_lt] using (not_or.mp hnone).2
      exact_mod_cast hpos.le
    have hratio : bad.renderedFps.mean / targetFps.toInt ≤
        good.renderedFps.mean / targetFps.toInt := div_le_div_of_nonneg_right hfps htarget
    have hlate : good.clientProcessingMs.p99 / (1000 / targetFps.toInt) ≤
        bad.clientProcessingMs.p99 / (1000 / targetFps.toInt) :=
      div_le_div_of_nonneg_right hp99 (by positivity)
    have hfaults' : (good.queueFaults.toNat : ℚ) ≤ bad.queueFaults.toNat := by
      exact_mod_cast hfaults
    rw [calculateStabilityScore, calculateStabilityScore, hcount, if_neg hnone, if_neg hnone]
    refine clamp_mono (by norm_num) ?_
    refine sub_le_sub (sub_le_sub (sub_le_sub (sub_le_sub_left ?_ _) ?_) ?_) ?_
    · exact excessPenalty_mono (by norm_num) (by norm_num) (sub_le_sub_left hratio _)
    · exact min_le_min le_rfl (mul_le_mul_of_nonneg_right hdrop (by norm_num))
    · exact excessPenalty_mono (by norm_num) (by norm_num) (sub_le_sub_right hlate _)
    · exact min_le_min le_rfl (mul_le_mul_of_nonneg_right hfaults' (by norm_num))

/-! ## Whole runs -/

namespace BenchmarkAccumulator

/-- What an accumulator for `targetFps` says of the samples. -/
def summaryOf (targetFps : Int32) (samples : List BenchmarkSample) : BenchmarkSummary :=
  (samples.foldl addSample (new targetFps)).summarize

lemma foldl_addSample (samples : List BenchmarkSample) (a : BenchmarkAccumulator) :
    samples.foldl addSample a = { a with m_samples := a.m_samples ++ samples } := by
  induction samples generalizing a with
  | nil => rw [List.foldl_nil, List.append_nil]
  | cons s samples ih =>
    rw [List.foldl_cons, ih, addSample]
    simp only [List.append_assoc, List.singleton_append]

/-- With its first and last sample at hand. -/
lemma summaryOf_eq (targetFps : Int32) {samples : List BenchmarkSample}
    {first last : BenchmarkSample} (hfirst : samples.head? = some first)
    (hlast : samples.getLast? = some last) :
    summaryOf targetFps samples =
      { summarizeBetween samples first last with
        stabilityScore := calculateStabilityScore (summarizeBetween samples first last)
          (new targetFps).m_targetFps } := by
  rw [summaryOf, foldl_addSample, new, List.nil_append, summarize]
  dsimp only
  rw [hfirst, hlast]

end BenchmarkAccumulator

/-- All distributions of a summary. -/
def BenchmarkSummary.distributions (b : BenchmarkSummary) : List DistributionSummary :=
  [b.hostFps, b.receivedFps, b.decodedFps, b.renderedFps, b.receiveMs, b.decodeMs,
    b.decoderDelayMs, b.renderMs, b.gpuRenderMs, b.clientProcessingMs, b.queueDepth,
    b.queueJitterMs, b.queueWaitMs, b.clientPipelineMs, b.presentIntervalMs, b.actualVideoMbps]

/-- What the distributions are made of, in their order. -/
def figures : List (BenchmarkSample → ℚ) :=
  [(·.hostFps), (·.receivedFps), (·.decodedFps), (·.renderedFps), (·.receiveMs), (·.decodeMs),
    (·.decoderDelayMs), (·.renderMs), (·.gpuRenderMs), clientProcessing, (·.queueDepth),
    (·.queueJitterMs), (·.queueWaitMs), (·.clientPipelineMs), (·.presentIntervalMs),
    (·.actualVideoMbps)]

/-- Each distribution is that of its figure. -/
def BenchmarkSummary.Describes (b : BenchmarkSummary) (samples : List BenchmarkSample) : Prop :=
  List.Forall₂ (fun figure d => d.Describes (collect samples figure)) figures b.distributions

open BenchmarkAccumulator

lemma summarizeBetween_describes {samples : List BenchmarkSample} (h : samples ≠ [])
    (first last : BenchmarkSample) :
    (summarizeBetween samples first last).Describes samples := by
  have hmap : (summarizeBetween samples first last).distributions =
      figures.map fun figure => summarizeValues (collect samples figure) := rfl
  rw [BenchmarkSummary.Describes, hmap, List.forall₂_map_right_iff, List.forall₂_same]
  intro figure _
  exact summarizeValues_describes fun hnil => h (List.map_eq_nil_iff.mp hnil)

lemma BenchmarkSummary.Describes.ordered {b : BenchmarkSummary} {samples : List BenchmarkSample}
    (h : b.Describes samples) : ∀ d ∈ b.distributions, d.Ordered := by
  have hboth := h.flip.imp fun d figure hd => And.intro hd.ordered hd
  exact ((List.forall₂_and_left _ _).mp hboth).1

/-- The sum of two counters that are not too large. -/
lemma networkDropPercent_eq (samples : List BenchmarkSample) (first : BenchmarkSample)
    {last : BenchmarkSample} (hlast : last.CountersBelow (2 ^ 62)) :
    (summarizeBetween samples first last).networkDropPercent =
      dropPercent (last.totalReceivedFrames.toNat - first.totalReceivedFrames.toNat)
        (last.networkDroppedFrames.toNat - first.networkDroppedFrames.toNat) := by
  obtain ⟨hreceived, hdropped, -⟩ := hlast
  have htotal : (deltaCounter first.totalReceivedFrames last.totalReceivedFrames +
      deltaCounter first.networkDroppedFrames last.networkDroppedFrames).toNat =
      last.totalReceivedFrames.toNat - first.totalReceivedFrames.toNat +
        (last.networkDroppedFrames.toNat - first.networkDroppedFrames.toNat) := by
    rw [UInt64.toNat_add, deltaCounter_toNat, deltaCounter_toNat]
    omega
  rw [dropPercent, summarizeBetween]
  simp only [UInt64.lt_iff_toNat_lt, htotal, UInt64.toNat_zero, deltaCounter_toNat]

lemma networkDropPercent_mem (samples : List BenchmarkSample) (first : BenchmarkSample)
    {last : BenchmarkSample} (hlast : last.CountersBelow (2 ^ 62)) :
    0 ≤ (summarizeBetween samples first last).networkDropPercent ∧
      (summarizeBetween samples first last).networkDropPercent ≤ 100 := by
  rw [networkDropPercent_eq samples first hlast]
  exact dropPercent_mem _ _

lemma queueFaults_eq (samples : List BenchmarkSample) (first : BenchmarkSample)
    {last : BenchmarkSample} (hlast : last.CountersBelow (2 ^ 62)) :
    (summarizeBetween samples first last).queueFaults.toNat =
      (last.queueUnderflows.toNat - first.queueUnderflows.toNat) +
        (last.queueOverflowDrops.toNat - first.queueOverflowDrops.toNat) +
        (last.queueResyncs.toNat - first.queueResyncs.toNat) +
        (last.queueSkippedFrames.toNat - first.queueSkippedFrames.toNat) := by
  obtain ⟨-, -, hunderflows, hskipped, hoverflow, -, hresyncs⟩ := hlast
  rw [BenchmarkSummary.queueFaults, summarizeBetween]
  dsimp only
  rw [UInt64.toNat_add, UInt64.toNat_add, UInt64.toNat_add, deltaCounter_toNat,
    deltaCounter_toNat, deltaCounter_toNat, deltaCounter_toNat]
  omega

/-- The sample with drops and queue faults that are not fewer. -/
def BenchmarkSample.Raised (s s' : BenchmarkSample) : Prop :=
  ∃ dropped underflows skipped overflowDrops pacingSkips resyncs,
    s.networkDroppedFrames ≤ dropped ∧ s.queueUnderflows ≤ underflows ∧
    s.queueSkippedFrames ≤ skipped ∧ s.queueOverflowDrops ≤ overflowDrops ∧
    s.queuePacingSkips ≤ pacingSkips ∧ s.queueResyncs ≤ resyncs ∧
    s' = { s with
      networkDroppedFrames := dropped
      queueUnderflows := underflows
      queueSkippedFrames := skipped
      queueOverflowDrops := overflowDrops
      queuePacingSkips := pacingSkips
      queueResyncs := resyncs }

/-- The sample with no higher rate of rendered frames. -/
def BenchmarkSample.Slower (s s' : BenchmarkSample) : Prop :=
  ∃ renderedFps, renderedFps ≤ s.renderedFps ∧ s' = { s with renderedFps := renderedFps }

lemma score_raised {init : List BenchmarkSample} {last last' : BenchmarkSample}
    (h : last.Raised last') (hlast : last.CountersBelow (2 ^ 62))
    (hlast' : last'.CountersBelow (2 ^ 62)) (targetFps : Int32) :
    (summaryOf targetFps (init ++ [last'])).stabilityScore ≤
      (summaryOf targetFps (init ++ [last])).stabilityScore := by
  -- The first sample stays, if it is not itself the last.
  obtain ⟨first, first', hfirst, hfirst', hsame⟩ : ∃ first first',
      (init ++ [last]).head? = some first ∧ (init ++ [last']).head? = some first' ∧
        (first' = first ∨ first = last ∧ first' = last') := by
    cases init with
    | nil => exact ⟨last, last', rfl, rfl, .inr ⟨rfl, rfl⟩⟩
    | cons first init => exact ⟨first, first, rfl, rfl, .inl rfl⟩
  rw [summaryOf_eq targetFps hfirst List.getLast?_concat,
    summaryOf_eq targetFps hfirst' List.getLast?_concat]
  have hdropped := networkDropPercent_eq (init ++ [last]) first hlast
  have hdropped' := networkDropPercent_eq (init ++ [last']) first' hlast'
  have hfaults := queueFaults_eq (init ++ [last]) first hlast
  have hfaults' := queueFaults_eq (init ++ [last']) first' hlast'
  have hcollect (getter : BenchmarkSample → ℚ) (hgetter : getter last' = getter last) :
      collect (init ++ [last']) getter = collect (init ++ [last]) getter := by
    rw [collect, collect, List.map_append, List.map_append, List.map_singleton,
      List.map_singleton, hgetter]
  obtain ⟨dropped, underflows, skipped, overflowDrops, pacingSkips, resyncs, hd, hu, hs, ho, hp,
    hr, rfl⟩ := h
  rw [UInt64.le_iff_toNat_le] at hd hu hs ho hr
  refine stabilityScore_anti ?_ ?_ ?_ ?_ ?_ _
  · simp only [summarizeBetween, List.length_append, List.length_singleton]
  · exact (congrArg (DistributionSummary.mean <| summarizeValues ·)
      (hcollect (·.renderedFps) rfl)).le
  · rw [hdropped, hdropped']
    rcases hsame with rfl | ⟨rfl, rfl⟩
    · refine dropPercent_mono _ ?_
      dsimp only
      omega
    · simp only [Nat.sub_self, le_refl]
  · exact (congrArg (DistributionSummary.p99 <| summarizeValues ·)
      (hcollect clientProcessing rfl)).ge
  · rw [hfaults, hfaults']
    rcases hsame with rfl | ⟨rfl, rfl⟩
    · dsimp only
      omega
    · simp only [Nat.sub_self, le_refl]

lemma head?_slower {samples samples' : List BenchmarkSample}
    (h : List.Forall₂ BenchmarkSample.Slower samples samples') (hne : samples ≠ []) :
    ∃ s fps, samples.head? = some s ∧ samples'.head? = some { s with renderedFps := fps } := by
  cases h with
  | nil => exact absurd rfl hne
  | cons hs _ =>
    obtain ⟨fps, -, rfl⟩ := hs
    exact ⟨_, fps, rfl, rfl⟩

lemma score_slower {samples samples' : List BenchmarkSample}
    (h : List.Forall₂ BenchmarkSample.Slower samples samples') (targetFps : Int32) :
    (summaryOf targetFps samples').stabilityScore ≤
      (summaryOf targetFps samples).stabilityScore := by
  have hcollect (getter : BenchmarkSample → ℚ)
      (hgetter : ∀ s fps, getter { s with renderedFps := fps } = getter s) :
      collect samples' getter = collect samples getter := by
    induction h with
    | nil => rfl
    | cons hs _ ih =>
      obtain ⟨fps, -, rfl⟩ := hs
      exact congrArg₂ List.cons (hgetter _ fps) ih
  have hrendered : List.Forall₂ (· ≤ ·) (collect samples' (·.renderedFps))
      (collect samples (·.renderedFps)) := by
    rw [collect, collect, List.forall₂_map_left_iff, List.forall₂_map_right_iff]
    refine h.flip.imp fun s' s hs => ?_
    obtain ⟨fps, hfps, rfl⟩ := hs
    exact hfps
  by_cases hne : samples = []
  · rw [hne] at h
    rw [hne, List.forall₂_nil_left_iff.mp h]
  · have hreverse := List.forall₂_reverse_iff.mpr h
    obtain ⟨first, fps, hfirst, hfirst'⟩ := head?_slower h hne
    obtain ⟨last, fps', hlast, hlast'⟩ :=
      head?_slower hreverse (List.reverse_ne_nil_iff.mpr hne)
    rw [List.head?_reverse] at hlast hlast'
    rw [summaryOf_eq targetFps hfirst hlast, summaryOf_eq targetFps hfirst' hlast']
    refine stabilityScore_anti ?_ ?_ ?_ ?_ ?_ _
    · exact h.length_eq.symm
    · exact summarizeValues_mean_le hrendered
    · exact le_rfl
    · exact (congrArg (DistributionSummary.p99 <| summarizeValues ·)
        (hcollect clientProcessing fun _ _ => rfl)).ge
    · exact le_rfl

/-- What a summary says is in order and in range, and more trouble has no better score. -/
theorem summaries_sound {samples : List BenchmarkSample} (hne : samples ≠ [])
    (hcounters : ∀ s ∈ samples, s.CountersBelow (2 ^ 62)) (targetFps : Int32) :
    ((summaryOf targetFps samples).sampleCount = samples.length ∧
        (summaryOf targetFps samples).Describes samples) ∧
      (∀ d ∈ (summaryOf targetFps samples).distributions, d.Ordered) ∧
      (0 ≤ (summaryOf targetFps samples).networkDropPercent ∧
        (summaryOf targetFps samples).networkDropPercent ≤ 100) ∧
      (0 ≤ (summaryOf targetFps samples).stabilityScore ∧
        (summaryOf targetFps samples).stabilityScore ≤ 100) ∧
      (∀ init last last', samples = init ++ [last] → last.Raised last' →
        last'.CountersBelow (2 ^ 62) →
        (summaryOf targetFps (init ++ [last'])).stabilityScore ≤
          (summaryOf targetFps samples).stabilityScore) ∧
      (∀ samples', List.Forall₂ BenchmarkSample.Slower samples samples' →
        (summaryOf targetFps samples').stabilityScore ≤
          (summaryOf targetFps samples).stabilityScore) ∧
      ∀ values p,
        (∀ q, p ≤ q → percentile values p ≤ percentile values q) ∧
        (∀ values', List.Forall₂ (· ≤ ·) values values' →
          percentile values p ≤ percentile values' p) ∧
        ∀ values', values.Perm values' → percentile values p = percentile values' p := by
  obtain ⟨first, hfirst⟩ := Option.isSome_iff_exists.mp (List.isSome_head?.mpr hne)
  obtain ⟨last, hlast⟩ := Option.isSome_iff_exists.mp (List.getLast?_isSome.mpr hne)
  have hbelow := hcounters last (List.mem_of_getLast? hlast)
  have hsummary := summaryOf_eq targetFps hfirst hlast
  have hdescribes : (summaryOf targetFps samples).Describes samples := by
    rw [hsummary]
    exact summarizeBetween_describes hne first last
  refine ⟨⟨?_, hdescribes⟩, hdescribes.ordered, ?_, ?_, ?_,
    fun samples' h => score_slower h targetFps, ?_⟩
  · rw [hsummary]
    rfl
  · rw [hsummary]
    exact networkDropPercent_mem samples first hbelow
  · rw [hsummary]
    exact stabilityScore_mem _ _
  · rintro init last last' rfl hraised hbelow'
    exact score_raised hraised (hcounters last (by simp)) hbelow' targetFps
  · intro values p
    exact ⟨fun q h => percentile_mono values h, fun values' h => percentile_le h p,
      fun values' h => percentile_perm h p⟩

/-- Two samples of a stream without trouble. -/
def steady : List BenchmarkSample := [{ renderedFps := 60 }, { renderedFps := 59 }]

theorem summaries_sound_steady :
    (summaryOf 60 steady).renderedFps = ⟨59.5, 59.5, 59.95, 59.99, 59, 60⟩ ∧
      (summaryOf 60 steady).Describes steady ∧ (summaryOf 60 steady).stabilityScore ≤ 100 := by
  have h := summaries_sound (List.cons_ne_nil _ _ : steady ≠ [])
    (by simp [BenchmarkSample.CountersBelow]) 60
  exact ⟨by decide +kernel, h.1.2, h.2.2.2.1.2⟩

end ArtemisSwitch.Benchmark

import Mathlib.Algebra.Order.Group.Unbundled.Abs
import Mathlib.Algebra.Order.Ring.Int
import Mathlib.Data.Int.ConditionallyCompleteOrder
import Mathlib.Data.Rat.Floor
import Mathlib.Order.Monotone.Basic
import Mathlib.Tactic.Common

/-!
# Clamping and rounding

A value is brought into a range, and rounded to the next multiple of a step.  A rounding that is
monotone stays idempotent when the range is off its grid.
-/

namespace Clamping

universe u

variable {α : Type u}

/-- `std::clamp`. -/
def clamp [LT α] [DecidableLT α] (x low high : α) : α :=
  if x < low then low else if high < x then high else x

/-- Rounding within a range. -/
def roundIn [LT α] [DecidableLT α] (round : α → α) (low high x : α) : α :=
  clamp (round (clamp x low high)) low high

section Order
variable [LinearOrder α] [DecidableLT α] {x y low high : α} {round : α → α}

lemma clamp_of_mem (hlow : low ≤ x) (hhigh : x ≤ high) : clamp x low high = x := by
  rw [clamp, if_neg (not_lt.mpr hlow), if_neg (not_lt.mpr hhigh)]

lemma clamp_of_le (h : x ≤ low) (hrange : low ≤ high) : clamp x low high = low := by
  rcases h.lt_or_eq with hlt | rfl
  · exact if_pos hlt
  · exact clamp_of_mem le_rfl hrange

lemma clamp_of_ge (h : high ≤ x) (hrange : low ≤ high) : clamp x low high = high := by
  rw [clamp, if_neg (not_lt.mpr (hrange.trans h))]
  split_ifs with hlt
  · rfl
  · exact (not_lt.mp hlt).antisymm h

lemma clamp_eq (hrange : low ≤ high) : clamp x low high = max low (min x high) := by
  rcases le_total x low with hlow | hlow
  · rw [clamp_of_le hlow hrange, min_eq_left (hlow.trans hrange), max_eq_left hlow]
  · rcases le_total x high with hhigh | hhigh
    · rw [clamp_of_mem hlow hhigh, min_eq_left hhigh, max_eq_right hlow]
    · rw [clamp_of_ge hhigh hrange, min_eq_right hhigh, max_eq_right hrange]

lemma le_clamp (hrange : low ≤ high) : low ≤ clamp x low high := by
  rw [clamp_eq hrange]
  exact le_max_left _ _

lemma clamp_le (hrange : low ≤ high) : clamp x low high ≤ high := by
  rw [clamp_eq hrange]
  exact max_le hrange (min_le_right _ _)

lemma clamp_mono (hrange : low ≤ high) (h : x ≤ y) : clamp x low high ≤ clamp y low high := by
  rw [clamp_eq hrange, clamp_eq hrange]
  exact max_le_max le_rfl (min_le_min h le_rfl)

/-- A clamped value is the value or an end of the range. -/
lemma clamp_cases (x low high : α) :
    clamp x low high = x ∨ clamp x low high = low ∨ clamp x low high = high := by
  unfold clamp
  split_ifs
  · exact .inr (.inl rfl)
  · exact .inr (.inr rfl)
  · exact .inl rfl

/-! ## Rounding within a range -/

lemma le_roundIn (hrange : low ≤ high) : low ≤ roundIn round low high x := le_clamp hrange

lemma roundIn_le (hrange : low ≤ high) : roundIn round low high x ≤ high := clamp_le hrange

lemma roundIn_mono (hrange : low ≤ high) (hround : Monotone round) (h : x ≤ y) :
    roundIn round low high x ≤ roundIn round low high y :=
  clamp_mono hrange (hround (clamp_mono hrange h))

/-- A value that was rounded and clamped is not moved any more: an end of the range that it was
clamped to is rounded to the same side again. -/
lemma roundIn_idem (hrange : low ≤ high) (hround : Monotone round)
    (hidem : ∀ z, round (round z) = round z) (x : α) :
    roundIn round low high (roundIn round low high x) = roundIn round low high x := by
  have hfixed : clamp (roundIn round low high x) low high = roundIn round low high x :=
    clamp_of_mem (le_roundIn hrange) (roundIn_le hrange)
  rw [roundIn, hfixed]
  have hlow : low ≤ clamp x low high := le_clamp hrange
  have hhigh : clamp x low high ≤ high := clamp_le hrange
  unfold roundIn
  rcases le_total (round (clamp x low high)) low with hbelow | habove
  · rw [clamp_of_le hbelow hrange]
    exact clamp_of_le ((hround hlow).trans hbelow) hrange
  · rcases le_total (round (clamp x low high)) high with hinside | hbeyond
    · rw [clamp_of_mem habove hinside, hidem, clamp_of_mem habove hinside]
    · rw [clamp_of_ge hbeyond hrange]
      exact clamp_of_ge (hbeyond.trans (hround hhigh)) hrange

/-- What is rounded in a range is on the grid or at an end. -/
lemma roundIn_cases (round : α → α) (low high x : α) :
    roundIn round low high x = round (clamp x low high) ∨ roundIn round low high x = low ∨
      roundIn round low high x = high :=
  clamp_cases _ _ _

end Order

/-- Clamping brings a value nearer to all of the range. -/
lemma abs_clamp_sub_le [AddCommGroup α] [LinearOrder α] [IsOrderedAddMonoid α] [DecidableLT α]
    {x y low high : α} (hlow : low ≤ y) (hhigh : y ≤ high) : |clamp x low high - y| ≤ |x - y| := by
  rcases le_total x low with hbelow | habove
  · rw [clamp_of_le hbelow (hlow.trans hhigh), abs_of_nonpos (sub_nonpos.mpr hlow),
      abs_of_nonpos (sub_nonpos.mpr (hbelow.trans hlow))]
    exact neg_le_neg (sub_le_sub_right hbelow y)
  · rcases le_total x high with hinside | hbeyond
    · rw [clamp_of_mem habove hinside]
    · rw [clamp_of_ge hbeyond (hlow.trans hhigh), abs_of_nonneg (sub_nonneg.mpr hhigh),
        abs_of_nonneg (sub_nonneg.mpr (hhigh.trans hbeyond))]
      exact sub_le_sub_right hbeyond y

/-! ## Multiples of a step -/

/-- The multiple of the step that is nearest, and of two the greater one. -/
def snap (step z : ℤ) : ℤ := (z + step / 2) / step * step

/-- Two steps, the fine one below a threshold. -/
def snapTwo (fine coarse threshold z : ℤ) : ℤ :=
  if z < threshold then snap fine z else snap coarse z

variable {step fine coarse threshold z w : ℤ}

lemma dvd_snap (step z : ℤ) : step ∣ snap step z := dvd_mul_left _ _

lemma snap_of_dvd (hstep : 0 < step) (h : step ∣ z) : snap step z = z := by
  obtain ⟨k, rfl⟩ := h
  have hhalf : step / 2 / step = 0 := Int.ediv_eq_zero_of_lt (by omega) (by omega)
  rw [snap, Int.add_comm, Int.add_mul_ediv_left _ _ hstep.ne', hhalf, Int.zero_add, Int.mul_comm]

lemma snap_mono (hstep : 0 < step) : Monotone (snap step) := by
  intro z w h
  exact Int.mul_le_mul_of_nonneg_right (Int.ediv_le_ediv hstep (by omega)) hstep.le

lemma two_mul_abs_snap_sub_le (hstep : 0 < step) (z : ℤ) : 2 * |snap step z - z| ≤ step := by
  have hrest : 0 ≤ (z + step / 2) % step := Int.emod_nonneg _ hstep.ne'
  have hless : (z + step / 2) % step < step := Int.emod_lt_of_pos _ hstep
  have hsplit : snap step z = z + step / 2 - (z + step / 2) % step := by
    have := Int.ediv_mul_add_emod (z + step / 2) step
    unfold snap
    omega
  have habs : |snap step z - z| = step / 2 - (z + step / 2) % step ∨
      |snap step z - z| = -(step / 2 - (z + step / 2) % step) := by
    have hdiff : snap step z - z = step / 2 - (z + step / 2) % step := by omega
    rw [hdiff]
    exact abs_choice _
  omega

lemma snapTwo_le_threshold (hfine : 0 < fine) (hmeet : fine ∣ threshold) (h : z < threshold) :
    snapTwo fine coarse threshold z ≤ threshold := by
  rw [snapTwo, if_pos h]
  calc snap fine z ≤ snap fine threshold := snap_mono hfine h.le
    _ = threshold := snap_of_dvd hfine hmeet

lemma threshold_le_snapTwo (hcoarse : 0 < coarse) (hmeet : coarse ∣ threshold)
    (h : threshold ≤ z) : threshold ≤ snapTwo fine coarse threshold z := by
  rw [snapTwo, if_neg (not_lt.mpr h)]
  calc threshold = snap coarse threshold := (snap_of_dvd hcoarse hmeet).symm
    _ ≤ snap coarse z := snap_mono hcoarse h

section Two
variable (hfine : 0 < fine) (hcoarse : 0 < coarse) (hmeet : fine ∣ threshold)
  (hmeet' : coarse ∣ threshold)
include hfine hcoarse hmeet hmeet'

/-- The two grids meet at the threshold, so that the order is kept across it. -/
lemma snapTwo_mono : Monotone (snapTwo fine coarse threshold) := by
  intro z w h
  rcases lt_or_ge z threshold with hz | hz
  · rcases lt_or_ge w threshold with hw | hw
    · rw [snapTwo, snapTwo, if_pos hz, if_pos hw]
      exact snap_mono hfine h
    · exact (snapTwo_le_threshold hfine hmeet hz).trans
        (threshold_le_snapTwo hcoarse hmeet' hw)
  · rw [snapTwo, snapTwo, if_neg (not_lt.mpr hz), if_neg (not_lt.mpr (hz.trans h))]
    exact snap_mono hcoarse h

/-- A multiple of the fine step up to the threshold, and one of the coarse step from there on. -/
lemma snapTwo_grid (z : ℤ) :
    (snapTwo fine coarse threshold z ≤ threshold ∧ fine ∣ snapTwo fine coarse threshold z) ∨
      (threshold ≤ snapTwo fine coarse threshold z ∧ coarse ∣ snapTwo fine coarse threshold z) := by
  rcases lt_or_ge z threshold with hz | hz
  · refine .inl ⟨snapTwo_le_threshold hfine hmeet hz, ?_⟩
    rw [snapTwo, if_pos hz]
    exact dvd_snap _ _
  · refine .inr ⟨threshold_le_snapTwo hcoarse hmeet' hz, ?_⟩
    rw [snapTwo, if_neg (not_lt.mpr hz)]
    exact dvd_snap _ _

lemma snapTwo_idem (z : ℤ) : snapTwo fine coarse threshold (snapTwo fine coarse threshold z) =
    snapTwo fine coarse threshold z := by
  have hthreshold : snapTwo fine coarse threshold threshold = threshold := by
    rw [snapTwo, if_neg (lt_irrefl _)]
    exact snap_of_dvd hcoarse hmeet'
  rcases snapTwo_grid hfine hcoarse hmeet hmeet' z with ⟨hle, hdvd⟩ | ⟨hge, hdvd⟩
  · rcases hle.lt_or_eq with hlt | heq
    · rw [snapTwo, if_pos hlt]
      exact snap_of_dvd hfine hdvd
    · rw [heq, hthreshold]
  · rw [snapTwo, if_neg (not_lt.mpr hge)]
    exact snap_of_dvd hcoarse hdvd

end Two

/-! ## Whole numbers -/

/-- `std::lround`: halfway cases go away from zero. -/
def lround (x : ℚ) : ℤ := if 0 ≤ x then ⌊x + 1 / 2⌋ else -⌊-x + 1 / 2⌋

lemma lround_intCast {n : ℤ} (h : 0 ≤ n) : lround n = n := by
  have hn : (0 : ℚ) ≤ n := by exact_mod_cast h
  have hhalf : ⌊(1 / 2 : ℚ)⌋ = 0 := by norm_num
  rw [lround, if_pos hn, Int.floor_intCast_add, hhalf, Int.add_zero]

end Clamping

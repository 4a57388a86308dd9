import ArtemisSwitch.Transport
import Mathlib.Data.Nat.Sqrt
import Mathlib.Tactic.Linarith
import Mathlib.Tactic.NormNum
import Mathlib.Tactic.Ring

/-!
# The virtual display of a host

Sizes are fitted to what the console can decode.  The scale is computed without rounding.
-/

namespace ArtemisSwitch.Apollo

inductive VirtualDisplayTarget
  | off | currentProfile | handheld | docked | portraitHandheld | portraitDocked | custom
  deriving DecidableEq

structure ApolloHostOptions where
  target : VirtualDisplayTarget := .off
  customWidth : Int32 := 1280
  customHeight : Int32 := 720
  refreshRate : Int32 := 60
  scaleFactor : Int32 := 100
  deriving DecidableEq

def budget : ℕ := 1920 * 1080

def clampSide (side : Int32) : ℕ := (max 360 (min side.toInt 1920)).toNat

/-- `& ~1`. -/
def even (n : ℕ) : ℕ := n - n % 2

/-- A side times `sqrt(budget / pixels)`, cut to an integer. -/
def scaled (side other : ℕ) : ℕ := Nat.sqrt (side * budget / other)

def fitSides (width height : ℕ) : ℕ × ℕ :=
  if budget < width * height then
    (even (max 360 (even (scaled width height))), even (max 360 (even (scaled height width))))
  else (even width, even height)

def fitDecodeBudget (width height : Int32) : Int32 × Int32 :=
  let sides := fitSides (clampSide width) (clampSide height)
  (Int32.ofNat sides.1, Int32.ofNat sides.2)

def clampRate (rate : Int32) : Int32 := if rate < 30 then 30 else if 120 < rate then 120 else rate

def kAllowedScale : List Int32 := [50, 75, 100, 125, 150]

def checkScale (scale : Int32) : Int32 := if scale ∈ kAllowedScale then scale else 100

def validateApolloHostOptions (options : ApolloHostOptions) : ApolloHostOptions :=
  let size := fitDecodeBudget options.customWidth options.customHeight
  { options with
    customWidth := size.1
    customHeight := size.2
    refreshRate := clampRate options.refreshRate
    scaleFactor := checkScale options.scaleFactor }

def virtualDisplayTargetName : VirtualDisplayTarget → Bytes
  | .off => ascii "off"
  | .currentProfile => ascii "current-profile"
  | .handheld => ascii "handheld"
  | .docked => ascii "docked"
  | .portraitHandheld => ascii "portrait-handheld"
  | .portraitDocked => ascii "portrait-docked"
  | .custom => ascii "custom"

def virtualDisplayTargetFromName (name : Bytes) : Option VirtualDisplayTarget :=
  [.off, .currentProfile, .handheld, .docked, .portraitHandheld, .portraitDocked, .custom].find?
    fun candidate => name = virtualDisplayTargetName candidate

/-! ## Checked options pass the check unchanged -/

lemma clampSide_mem (side : Int32) : 360 ≤ clampSide side ∧ clampSide side ≤ 1920 := by
  unfold clampSide
  omega

lemma clampSide_ofNat {n : ℕ} (hlow : 360 ≤ n) (hhigh : n ≤ 1920) :
    clampSide (Int32.ofNat n) = n := by
  have hint : (Int32.ofNat n).toInt = n := Int32.toInt_ofNat_of_lt (by omega)
  rw [clampSide, hint]
  omega

lemma even_even (n : ℕ) : even (even n) = even n := by
  unfold even
  omega

/-- A side of a picture that is too large is scaled to between 1080 and 1920. -/
lemma scaled_mem {side other : ℕ} (hside : side ≤ 1920) (hother : other ≤ 1920)
    (hlarge : budget < side * other) : 1080 ≤ scaled side other ∧ scaled side other ≤ 1920 := by
  have hpos : 0 < other := by
    rcases Nat.eq_zero_or_pos other with rfl | hpos
    · simp at hlarge
    · exact hpos
  constructor
  · -- the other side is at most 1920, so this one is more than 1080
    have hmin : 1080 < side := by
      unfold budget at hlarge
      nlinarith
    rw [scaled, Nat.le_sqrt', Nat.le_div_iff_mul_le hpos]
    unfold budget
    nlinarith
  · have hle : side * budget / other ≤ side * side := by
      apply Nat.div_le_of_le_mul
      nlinarith
    calc scaled side other ≤ Nat.sqrt (side * side) := Nat.sqrt_le_sqrt hle
      _ = side := Nat.sqrt_eq side
      _ ≤ 1920 := hside

lemma scaled_mul_le {width height : ℕ} (hwidth : 0 < width) (hheight : 0 < height) :
    scaled width height * scaled height width ≤ budget := by
  have hw : scaled width height ^ 2 * height ≤ width * budget :=
    (Nat.mul_le_mul_right height (Nat.sqrt_le' _)).trans (Nat.div_mul_le_self _ _)
  have hh : scaled height width ^ 2 * width ≤ height * budget :=
    (Nat.mul_le_mul_right width (Nat.sqrt_le' _)).trans (Nat.div_mul_le_self _ _)
  -- the product of the two squares is at most the square of the budget
  have hmul : (scaled width height * scaled height width) ^ 2 * (width * height) ≤
      budget ^ 2 * (width * height) :=
    calc (scaled width height * scaled height width) ^ 2 * (width * height)
        = scaled width height ^ 2 * height * (scaled height width ^ 2 * width) := by ring
      _ ≤ width * budget * (height * budget) := Nat.mul_le_mul hw hh
      _ = budget ^ 2 * (width * height) := by ring
  have hsquare := Nat.le_of_mul_le_mul_right hmul (Nat.mul_pos hwidth hheight)
  exact (Nat.pow_le_pow_iff_left (by decide)).mp hsquare

/-- Sides that fit. -/
structure Fits (width height : ℕ) : Prop where
  across : 360 ≤ width ∧ width ≤ 1920 ∧ even width = width
  down : 360 ≤ height ∧ height ≤ 1920 ∧ even height = height
  pixels : width * height ≤ budget

lemma fitSides_of_fits {width height : ℕ} (h : Fits width height) :
    fitSides width height = (width, height) := by
  rw [fitSides, if_neg (Nat.not_lt.mpr h.pixels), h.across.2.2, h.down.2.2]

lemma even_mem {n low : ℕ} (hlow : low ≤ n) (heven : low % 2 = 0) (hhigh : n ≤ 1920) :
    low ≤ even n ∧ even n ≤ 1920 := by
  unfold even
  omega

lemma even_le (n : ℕ) : even n ≤ n := Nat.sub_le _ _

lemma fitSides_fits {width height : ℕ} (hwidth : 360 ≤ width ∧ width ≤ 1920)
    (hheight : 360 ≤ height ∧ height ≤ 1920) :
    Fits (fitSides width height).1 (fitSides width height).2 := by
  unfold fitSides
  split_ifs with hlarge
  · have hw := scaled_mem hwidth.2 hheight.2 hlarge
    have hh := scaled_mem hheight.2 hwidth.2 (by rwa [Nat.mul_comm])
    have hew := even_mem hw.1 (by decide) hw.2
    have heh := even_mem hh.1 (by decide) hh.2
    have hpixels := @scaled_mul_le width height (by omega) (by omega)
    dsimp only
    -- no side falls below 360, so the second rounding changes nothing
    rw [Nat.max_eq_right (by omega), Nat.max_eq_right (by omega), even_even, even_even]
    exact ⟨⟨by omega, hew.2, even_even _⟩, ⟨by omega, heh.2, even_even _⟩,
      (Nat.mul_le_mul (even_le _) (even_le _)).trans hpixels⟩
  · have hw := even_mem hwidth.1 (by decide) hwidth.2
    have hh := even_mem hheight.1 (by decide) hheight.2
    exact ⟨⟨hw.1, hw.2, even_even _⟩, ⟨hh.1, hh.2, even_even _⟩,
      (Nat.mul_le_mul (even_le _) (even_le _)).trans (Nat.not_lt.mp hlarge)⟩

lemma fitDecodeBudget_idem (width height : Int32) :
    fitDecodeBudget (fitDecodeBudget width height).1 (fitDecodeBudget width height).2 =
      fitDecodeBudget width height := by
  have hfits := fitSides_fits (clampSide_mem width) (clampSide_mem height)
  simp only [fitDecodeBudget, clampSide_ofNat hfits.across.1 hfits.across.2.1,
    clampSide_ofNat hfits.down.1 hfits.down.2.1, fitSides_of_fits hfits]

lemma clampRate_idem (rate : Int32) : clampRate (clampRate rate) = clampRate rate := by
  by_cases hlow : rate < 30
  · have hrate : clampRate rate = 30 := if_pos hlow
    rw [hrate]
    decide
  · by_cases hhigh : 120 < rate
    · have hrate : clampRate rate = 120 := by rw [clampRate, if_neg hlow, if_pos hhigh]
      rw [hrate]
      decide
    · have hrate : clampRate rate = rate := by rw [clampRate, if_neg hlow, if_neg hhigh]
      rw [hrate, hrate]

lemma checkScale_idem (scale : Int32) : checkScale (checkScale scale) = checkScale scale := by
  by_cases hallowed : scale ∈ kAllowedScale
  · have hscale : checkScale scale = scale := if_pos hallowed
    rw [hscale, hscale]
  · have hscale : checkScale scale = 100 := if_neg hallowed
    rw [hscale]
    decide

theorem validateApolloHostOptions_idem (options : ApolloHostOptions) :
    validateApolloHostOptions (validateApolloHostOptions options) =
      validateApolloHostOptions options := by
  simp only [validateApolloHostOptions, fitDecodeBudget_idem, clampRate_idem, checkScale_idem]

lemma virtualDisplayTargetFromName_name (target : VirtualDisplayTarget) :
    virtualDisplayTargetFromName (virtualDisplayTargetName target) = some target := by
  cases target <;> decide +kernel

end ArtemisSwitch.Apollo

import Mathlib.Algebra.Order.BigOperators.Group.List
import Mathlib.Algebra.Order.Floor.Ring
import Mathlib.Algebra.Order.Floor.Semiring
import Mathlib.Data.List.GetD
import Mathlib.Data.List.Sort
import Mathlib.Tactic.Linarith
import Mathlib.Tactic.Ring

/-!
# Positions between sorted values

The values of a sequence are joined by straight lines.  The order of the positions, of the values
and of whole sequences is kept.
-/

namespace Percentiles

universe u

variable {α : Type u}

section Interpolation
variable [Field α] [LinearOrder α] [FloorRing α] {s t : ℕ → α} {x y : α} {n : ℕ}

/-- The value at `x` on the lines through the values of `s`. -/
def interpolate (s : ℕ → α) (x : α) : α :=
  if ⌊x⌋₊ = ⌈x⌉₊ then s ⌊x⌋₊
  else s ⌊x⌋₊ * (1 - (x - ⌊x⌋₊)) + s ⌈x⌉₊ * (x - ⌊x⌋₊)

/-- Both cases are the same line. -/
lemma interpolate_eq (s : ℕ → α) (x : α) :
    interpolate s x = s ⌊x⌋₊ + (s ⌈x⌉₊ - s ⌊x⌋₊) * (x - ⌊x⌋₊) := by
  unfold interpolate
  split_ifs with h
  · rw [← h, sub_self, zero_mul, add_zero]
  · ring

lemma interpolate_const (a x : α) : interpolate (fun _ => a) x = a := by
  rw [interpolate_eq, sub_self, zero_mul, add_zero]

variable [IsStrictOrderedRing α]

lemma weight_nonneg (hx : 0 ≤ x) : 0 ≤ x - ⌊x⌋₊ := sub_nonneg.mpr (Nat.floor_le hx)

lemma weight_le_one (x : α) : x - ⌊x⌋₊ ≤ 1 := by
  linarith [Nat.lt_floor_add_one x]

lemma interpolate_le_interpolate (hx : 0 ≤ x) (hfloor : s ⌊x⌋₊ ≤ t ⌊x⌋₊)
    (hceil : s ⌈x⌉₊ ≤ t ⌈x⌉₊) : interpolate s x ≤ interpolate t x := by
  unfold interpolate
  split_ifs
  · exact hfloor
  · have hweight := sub_nonneg.mpr (weight_le_one x)
    exact add_le_add (mul_le_mul_of_nonneg_right hfloor hweight)
      (mul_le_mul_of_nonneg_right hceil (weight_nonneg hx))

lemma le_interpolate {a : α} (hx : 0 ≤ x) (hfloor : a ≤ s ⌊x⌋₊) (hceil : a ≤ s ⌈x⌉₊) :
    a ≤ interpolate s x := by
  calc a = interpolate (fun _ => a) x := (interpolate_const a x).symm
    _ ≤ interpolate s x := interpolate_le_interpolate hx hfloor hceil

lemma interpolate_le {a : α} (hx : 0 ≤ x) (hfloor : s ⌊x⌋₊ ≤ a) (hceil : s ⌈x⌉₊ ≤ a) :
    interpolate s x ≤ a := by
  calc interpolate s x ≤ interpolate (fun _ => a) x := interpolate_le_interpolate hx hfloor hceil
    _ = a := interpolate_const a x

/-- A position farther right is at least as high, where the values rise up to `n`. -/
lemma interpolate_mono (hs : MonotoneOn s (Set.Iic n)) (hx : 0 ≤ x) (h : x ≤ y) (hy : y ≤ n) :
    interpolate s x ≤ interpolate s y := by
  have hy0 : 0 ≤ y := hx.trans h
  have hceil : ⌈y⌉₊ ≤ n := Nat.ceil_le.mpr hy
  have hfloor : ⌊y⌋₊ ≤ n := (Nat.floor_le_ceil y).trans hceil
  by_cases hapart : ⌈x⌉₊ ≤ ⌊y⌋₊
  · -- A whole position lies between the two.
    have hxn := hapart.trans hfloor
    calc interpolate s x ≤ s ⌈x⌉₊ :=
          interpolate_le hx (hs ((Nat.floor_le_ceil x).trans hxn) hxn (Nat.floor_le_ceil x)) le_rfl
      _ ≤ s ⌊y⌋₊ := hs hxn hfloor hapart
      _ ≤ interpolate s y := le_interpolate hy0 le_rfl (hs hfloor hceil (Nat.floor_le_ceil y))
  · -- Otherwise both are on one line.
    have hlt : (⌊y⌋₊ : α) < x := Nat.lt_ceil.mp (not_le.mp hapart)
    have hsame : ⌊x⌋₊ = ⌊y⌋₊ := (Nat.floor_mono h).antisymm (Nat.le_floor hlt.le)
    have hend : ⌈x⌉₊ = ⌈y⌉₊ := by
      refine (Nat.ceil_mono h).antisymm ?_
      have hnext : ⌈y⌉₊ ≤ ⌊y⌋₊ + 1 := Nat.ceil_le_floor_add_one y
      omega
    rw [interpolate_eq, interpolate_eq, hsame, hend]
    have hrise : 0 ≤ s ⌈y⌉₊ - s ⌊y⌋₊ :=
      sub_nonneg.mpr (hs hfloor hceil (Nat.floor_le_ceil y))
    have hweight := mul_le_mul_of_nonneg_left (sub_le_sub_right h (⌊y⌋₊ : α)) hrise
    linarith

end Interpolation

/-! ## Sorted lists -/

section Sorted
variable [LinearOrder α] {l m : List α} {a b : α}

/-- An insertion into larger values of a larger one. -/
lemma orderedInsert_le (hl : l.Pairwise (· ≤ ·)) (hm : m.Pairwise (· ≤ ·))
    (h : List.Forall₂ (· ≤ ·) l m) (hab : a ≤ b) :
    List.Forall₂ (· ≤ ·) (l.orderedInsert (· ≤ ·) a) (m.orderedInsert (· ≤ ·) b) := by
  have hself {x : α} {xs : List α} (hxs : (x :: xs).Pairwise (· ≤ ·)) :
      xs.orderedInsert (· ≤ ·) x = x :: xs := by
    cases hxs with
    | cons hx _ =>
      cases xs with
      | nil => rfl
      | cons y ys => exact List.orderedInsert_cons_of_le _ ys (hx y List.mem_cons_self)
  induction h generalizing a b with
  | nil => exact .cons hab .nil
  | @cons x y xs ys hxy hrest ih =>
    have ih {c d : α} (hcd : c ≤ d) := ih hl.of_cons hm.of_cons hcd
    by_cases ha : a ≤ x
    · rw [List.orderedInsert_cons_of_le _ _ ha]
      by_cases hb : b ≤ y
      · rw [List.orderedInsert_cons_of_le _ _ hb]
        exact .cons hab (.cons hxy hrest)
      · rw [List.orderedInsert_of_not_le _ _ hb]
        refine .cons (ha.trans hxy) ?_
        rw [← hself hl]
        exact ih (hxy.trans (not_le.mp hb).le)
    · rw [List.orderedInsert_of_not_le _ _ ha]
      by_cases hb : b ≤ y
      · rw [List.orderedInsert_cons_of_le _ _ hb]
        refine .cons ((not_le.mp ha).le.trans hab) ?_
        rw [← hself hm]
        exact ih (hab.trans hb)
      · rw [List.orderedInsert_of_not_le _ _ hb]
        exact .cons hxy (ih hab)

lemma insertionSort_le (h : List.Forall₂ (· ≤ ·) l m) :
    List.Forall₂ (· ≤ ·) (l.insertionSort (· ≤ ·)) (m.insertionSort (· ≤ ·)) := by
  induction h with
  | nil => exact .nil
  | cons hxy _ ih =>
    exact orderedInsert_le (List.pairwise_insertionSort _ _) (List.pairwise_insertionSort _ _) ih
      hxy

lemma insertionSort_perm (h : l.Perm m) :
    l.insertionSort (· ≤ ·) = m.insertionSort (· ≤ ·) := by
  have hperm := ((l.perm_insertionSort (· ≤ ·)).trans h).trans (m.perm_insertionSort (· ≤ ·)).symm
  exact hperm.eq_of_sortedLE List.sortedLE_insertionSort List.sortedLE_insertionSort

end Sorted

section Position
variable [Field α] [LinearOrder α] [IsStrictOrderedRing α] {p : α}

lemma position_le (hp : p ≤ 1) (n : ℕ) : p * n ≤ n :=
  mul_le_of_le_one_left (Nat.cast_nonneg n) hp

lemma position_nonneg (hp : 0 ≤ p) (n : ℕ) : 0 ≤ p * n := mul_nonneg hp (Nat.cast_nonneg n)

end Position

section Percentile
variable [Field α] [LinearOrder α] {l m : List α} {p q : α}

lemma getD_mono (hl : l.Pairwise (· ≤ ·)) :
    MonotoneOn (fun i => l.getD i 0) (Set.Iic (l.length - 1)) := by
  intro i hi j hj hij
  by_cases hempty : l = []
  · rw [hempty]
    exact le_rfl
  · have hpos := List.length_pos_iff.mpr hempty
    have hj' : j < l.length := by
      have := Set.mem_Iic.mp hj
      omega
    dsimp only
    rw [List.getD_eq_getElem l 0 (hij.trans_lt hj'), List.getD_eq_getElem l 0 hj']
    exact (List.sortedLE_iff_getElem_le_getElem_of_le.mp hl.sortedLE) hij

variable [FloorRing α]

/-- The value below which the share `p` of the values lies. -/
def percentileOf (l : List α) (p : α) : α :=
  interpolate (fun i => (l.insertionSort (· ≤ ·)).getD i 0) (p * (l.length - 1 : ℕ))

lemma percentileOf_perm (h : l.Perm m) (p : α) : percentileOf l p = percentileOf m p := by
  rw [percentileOf, percentileOf, insertionSort_perm h, h.length_eq]

variable [IsStrictOrderedRing α]

lemma percentileOf_mono (hp : 0 ≤ p) (h : p ≤ q) (hq : q ≤ 1) :
    percentileOf l p ≤ percentileOf l q := by
  have hsorted := getD_mono (List.pairwise_insertionSort (· ≤ ·) l)
  rw [List.length_insertionSort] at hsorted
  exact interpolate_mono hsorted (position_nonneg hp _)
    (mul_le_mul_of_nonneg_right h (Nat.cast_nonneg _)) (position_le hq _)

/-- Larger values have larger percentiles. -/
lemma percentileOf_le (h : List.Forall₂ (· ≤ ·) l m) (hp : 0 ≤ p) :
    percentileOf l p ≤ percentileOf m p := by
  have hget (i : ℕ) : (l.insertionSort (· ≤ ·)).getD i 0 ≤ (m.insertionSort (· ≤ ·)).getD i 0 := by
    have hsorted := insertionSort_le h
    have hlength := hsorted.length_eq
    by_cases hi : i < (l.insertionSort (· ≤ ·)).length
    · rw [List.getD_eq_getElem _ 0 hi, List.getD_eq_getElem _ 0 (hlength ▸ hi)]
      exact hsorted.get hi (hlength ▸ hi)
    · have hi' := not_lt.mp hi
      rw [List.getD_eq_default _ _ hi', List.getD_eq_default _ _ (hlength ▸ hi')]
  rw [percentileOf, percentileOf, h.length_eq]
  exact interpolate_le_interpolate (position_nonneg hp _) (hget _) (hget _)

/-- A percentile lies between any bounds of the values. -/
lemma percentileOf_mem {low high : α} (hl : l ≠ []) (hlow : ∀ a ∈ l, low ≤ a)
    (hhigh : ∀ a ∈ l, a ≤ high) (hp : 0 ≤ p) (hp' : p ≤ 1) :
    low ≤ percentileOf l p ∧ percentileOf l p ≤ high := by
  have hget {i : ℕ} (hi : i ≤ l.length - 1) : (l.insertionSort (· ≤ ·)).getD i 0 ∈ l := by
    have hlt : i < (l.insertionSort (· ≤ ·)).length := by
      have := List.length_pos_iff.mpr hl
      rw [List.length_insertionSort]
      omega
    rw [List.getD_eq_getElem _ 0 hlt]
    exact (List.mem_insertionSort _).mp (List.getElem_mem hlt)
  have hceil : ⌈p * (l.length - 1 : ℕ)⌉₊ ≤ l.length - 1 := Nat.ceil_le.mpr (position_le hp' _)
  have hfloor := (Nat.floor_le_ceil (p * (l.length - 1 : ℕ))).trans hceil
  constructor
  · exact le_interpolate (position_nonneg hp _) (hlow _ (hget hfloor)) (hlow _ (hget hceil))
  · exact interpolate_le (position_nonneg hp _) (hhigh _ (hget hfloor)) (hhigh _ (hget hceil))

lemma mean_mem {low high : α} (hl : l ≠ []) (hlow : ∀ a ∈ l, low ≤ a)
    (hhigh : ∀ a ∈ l, a ≤ high) : low ≤ l.sum / l.length ∧ l.sum / l.length ≤ high := by
  have hpos : (0 : α) < l.length := by
    exact_mod_cast List.length_pos_iff.mpr hl
  constructor
  · rw [le_div_iff₀ hpos, mul_comm, ← nsmul_eq_mul]
    exact List.card_nsmul_le_sum l low hlow
  · rw [div_le_iff₀ hpos, mul_comm, ← nsmul_eq_mul]
    exact List.sum_le_card_nsmul l high hhigh

end Percentile
end Percentiles

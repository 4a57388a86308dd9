import Mathlib.Algebra.BigOperators.Group.List.Basic
import ArtemisSwitch.Library.Framing

/-!
# A buffer that hands out one item a load

Items of known sizes arrive one after the other, cut into loads.  Each load is put
into a buffer of bounded capacity, and then at most one complete item is taken from
its front.  `serves_iff` says, from the sizes alone, when no load is refused and no
complete item is left behind.
-/

namespace Pacing
open Framing

/-- No load is refused and no complete item is left in the end, from a buffer of `n` symbols on. -/
def Serves (capacity : ℕ) : List ℕ → List ℕ → ℕ → Prop
  | [], sizes, n => whole sizes n = 0
  | load :: loads, [], n => n + load ≤ capacity ∧ Serves capacity loads [] (n + load)
  | load :: loads, s :: ss, n =>
    n + load ≤ capacity ∧
      if s ≤ n + load then Serves capacity loads ss (n + load - s)
      else Serves capacity loads (s :: ss) (n + load)

/-- Symbols that the first `i` loads bring. -/
def arrived (loads : List ℕ) (i : ℕ) : ℕ := (loads.take i).sum

/-- After no load were more items incomplete, of those that are complete in the end, than
loads were still to come. -/
def KeepsPace (sizes loads : List ℕ) : Prop :=
  ∀ j ≤ loads.length,
    whole sizes loads.sum ≤ whole sizes (arrived loads j) + (loads.length - j)

/-- Each load fits beside what the earlier ones can have left: after load `j` all complete
items are taken at best, and from then on one a load. -/
def FitsBuffer (capacity : ℕ) (sizes loads : List ℕ) : Prop :=
  ∀ i < loads.length, ∀ j ≤ i,
    arrived loads (i + 1) ≤ (sizes.take (whole sizes (arrived loads j) + (i - j))).sum + capacity

/-- `KeepsPace` from a buffer of `n` symbols on, none of whose items counts as taken. -/
def PaceFrom (sizes loads : List ℕ) (n : ℕ) : Prop :=
  whole sizes (n + loads.sum) ≤ loads.length ∧
    ∀ j < loads.length, whole sizes (n + loads.sum) ≤
      whole sizes (n + arrived loads (j + 1)) + (loads.length - (j + 1))

/-- `FitsBuffer` from a buffer of `n` symbols on, none of whose items counts as taken. -/
def FitsFrom (capacity : ℕ) (sizes loads : List ℕ) (n : ℕ) : Prop :=
  ∀ i < loads.length, n + arrived loads (i + 1) ≤ (sizes.take i).sum + capacity ∧
    ∀ j < i, n + arrived loads (i + 1) ≤
      (sizes.take (whole sizes (n + arrived loads (j + 1)) + (i - (j + 1)))).sum + capacity

variable {capacity n s l : ℕ} {sizes ss loads ls : List ℕ}

@[simp] lemma arrived_zero : arrived loads 0 = 0 := rfl

@[simp] lemma arrived_succ (i : ℕ) : arrived (l :: ls) (i + 1) = l + arrived ls i := by
  simp [arrived]

@[simp] lemma whole_nil (n : ℕ) : whole [] n = 0 := rfl

lemma whole_of_le (h : s ≤ n) : whole (s :: ss) n = whole ss (n - s) + 1 := by
  rw [whole, if_pos h]

lemma sum_take_le (sizes : List ℕ) {i j : ℕ} (h : i ≤ j) :
    (sizes.take i).sum ≤ (sizes.take j).sum := by
  obtain ⟨d, rfl⟩ := Nat.exists_eq_add_of_le h
  rw [List.take_add, List.sum_append]
  exact Nat.le_add_right _ _

/-! ## One load -/

lemma le_of_serves_cons (h : Serves capacity (l :: ls) sizes n) : n + l ≤ capacity := by
  cases sizes with
  | nil => exact h.1
  | cons s ss => exact h.1

lemma serves_nil_cons :
    Serves capacity (l :: ls) [] n ↔ n + l ≤ capacity ∧ Serves capacity ls [] (n + l) :=
  Iff.rfl

lemma serves_kept (h : n + l < s) :
    Serves capacity (l :: ls) (s :: ss) n ↔
      n + l ≤ capacity ∧ Serves capacity ls (s :: ss) (n + l) := by
  rw [Serves, if_neg (by omega)]

lemma serves_taken (h : s ≤ n + l) :
    Serves capacity (l :: ls) (s :: ss) n ↔
      n + l ≤ capacity ∧ Serves capacity ls ss (n + l - s) := by
  rw [Serves, if_pos h]

/-! ## The two conditions -/

/-- A load that completes the first item: the item goes, and everything moves down by its size. -/
lemma whole_shift (h : s ≤ n + l) (x : ℕ) :
    whole (s :: ss) (n + (l + x)) = whole ss (n + l - s + x) + 1 := by
  have hsub : n + (l + x) - s = n + l - s + x := by omega
  rw [whole_of_le (by omega), hsub]

lemma pace_taken (h : s ≤ n + l) :
    PaceFrom (s :: ss) (l :: ls) n ↔ PaceFrom ss ls (n + l - s) := by
  simp only [PaceFrom, List.sum_cons, arrived_succ, whole_shift h, List.length_cons]
  constructor
  · rintro ⟨hall, hpace⟩
    refine ⟨by omega, fun j hj => ?_⟩
    have := hpace (j + 1) (by omega)
    cases ls with
    | nil => simp at hj
    | cons l' ls =>
      simp only [arrived_succ] at this ⊢
      omega
  · rintro ⟨hall, hpace⟩
    refine ⟨by omega, fun j hj => ?_⟩
    rcases j with _ | j
    · omega
    · have := hpace j (by omega)
      omega

lemma pace_kept (h : n + l < s) :
    PaceFrom (s :: ss) (l :: ls) n ↔ PaceFrom (s :: ss) ls (n + l) := by
  have hnone : whole (s :: ss) (n + (l + 0)) = 0 := whole_of_lt (by omega)
  simp only [PaceFrom, List.sum_cons, arrived_succ, ← Nat.add_assoc, List.length_cons] at hnone ⊢
  constructor
  · rintro ⟨-, hpace⟩
    have hzero := hpace 0 (by omega)
    rw [arrived_zero, hnone] at hzero
    refine ⟨by omega, fun j hj => ?_⟩
    have := hpace (j + 1) (by omega)
    omega
  · rintro ⟨hall, hpace⟩
    refine ⟨by omega, fun j hj => ?_⟩
    rcases j with _ | j
    · rw [arrived_zero, hnone]
      omega
    · have := hpace j (by omega)
      omega

lemma fits_taken (h : s ≤ n + l) :
    FitsFrom capacity (s :: ss) (l :: ls) n ↔
      n + l ≤ capacity ∧ FitsFrom capacity ss ls (n + l - s) := by
  constructor
  · intro hfits
    refine ⟨by simpa using (hfits 0 (by simp)).1, fun i hi => ⟨?_, fun j hj => ?_⟩⟩
    · have := (hfits (i + 1) (by simpa using hi)).1
      simp only [arrived_succ, List.take_succ_cons, List.sum_cons] at this
      omega
    · have := (hfits (i + 1) (by simpa using hi)).2 (j + 1) (by omega)
      have hindex : whole ss (n + l - s + arrived ls (j + 1)) + 1 + (i + 1 - (j + 1 + 1)) =
          whole ss (n + l - s + arrived ls (j + 1)) + (i - (j + 1)) + 1 := by omega
      rw [arrived_succ, arrived_succ, whole_shift h, hindex, List.take_succ_cons,
        List.sum_cons] at this
      omega
  · rintro ⟨hload, hfits⟩ i hi
    rcases i with _ | i
    · exact ⟨by simpa using hload, fun j hj => absurd hj (by omega)⟩
    · have hi' : i < ls.length := by simpa using hi
      have hfirst := (hfits i hi').1
      refine ⟨?_, fun j hj => ?_⟩
      · simp only [arrived_succ, List.take_succ_cons, List.sum_cons]
        omega
      · rcases j with _ | j
        -- the bound that takes one item a load is the stronger one
        · have hmore := sum_take_le ss (Nat.le_add_left i (whole ss (n + l - s)))
          have hindex : whole ss (n + l - s) + 1 + (i + 1 - (0 + 1)) =
              whole ss (n + l - s) + i + 1 := by omega
          rw [arrived_succ, arrived_succ, arrived_zero, whole_shift h, Nat.add_zero (n + l - s),
            hindex, List.take_succ_cons, List.sum_cons]
          omega
        · have := (hfits i hi').2 j (by omega)
          have hindex : whole ss (n + l - s + arrived ls (j + 1)) + 1 + (i + 1 - (j + 1 + 1)) =
              whole ss (n + l - s + arrived ls (j + 1)) + (i - (j + 1)) + 1 := by omega
          rw [arrived_succ, arrived_succ, whole_shift h, hindex, List.take_succ_cons,
            List.sum_cons]
          omega

lemma fits_kept (h : n + l < s) :
    FitsFrom capacity (s :: ss) (l :: ls) n ↔
      n + l ≤ capacity ∧ FitsFrom capacity (s :: ss) ls (n + l) := by
  have hnone : whole (s :: ss) (n + l) = 0 := whole_of_lt h
  constructor
  · intro hfits
    refine ⟨by simpa using (hfits 0 (by simp)).1, fun i hi => ⟨?_, fun j hj => ?_⟩⟩
    · have := (hfits (i + 1) (by simpa using hi)).2 0 (by omega)
      simpa [← Nat.add_assoc, hnone] using this
    · have := (hfits (i + 1) (by simpa using hi)).2 (j + 1) (by omega)
      simpa [← Nat.add_assoc] using this
  · rintro ⟨hload, hfits⟩ i hi
    rcases i with _ | i
    · exact ⟨by simpa using hload, fun j hj => absurd hj (by omega)⟩
    · have hi' : i < ls.length := by simpa using hi
      have hfirst := (hfits i hi').1
      refine ⟨?_, fun j hj => ?_⟩
      · have hmore := sum_take_le (s :: ss) (Nat.le_add_right i 1)
        rw [arrived_succ]
        omega
      · rcases j with _ | j
        · simpa [← Nat.add_assoc, hnone] using hfirst
        · simpa [← Nat.add_assoc] using (hfits i hi').2 j (by omega)

lemma pace_nil : PaceFrom [] loads n := ⟨by simp, fun j _ => by simp⟩

lemma fits_nil_cons : FitsFrom capacity [] (l :: ls) n ↔
    n + l ≤ capacity ∧ FitsFrom capacity [] ls (n + l) := by
  simp only [FitsFrom, List.take_nil, List.sum_nil, Nat.zero_add, List.length_cons]
  constructor
  · intro hfits
    refine ⟨by simpa using (hfits 0 (by omega)).1, fun i hi => ?_⟩
    have := (hfits (i + 1) (by omega)).1
    rw [arrived_succ, ← Nat.add_assoc] at this
    exact ⟨this, fun _ _ => this⟩
  · rintro ⟨hload, hfits⟩ i hi
    have hroom : n + arrived (l :: ls) (i + 1) ≤ capacity := by
      rcases i with _ | i
      · simpa using hload
      · rw [arrived_succ, ← Nat.add_assoc]
        exact (hfits i (by omega)).1
    exact ⟨hroom, fun _ _ => hroom⟩

lemma serves_iff_from : Serves capacity loads sizes n ↔
    PaceFrom sizes loads n ∧ FitsFrom capacity sizes loads n := by
  induction loads generalizing sizes n with
  | nil => simp [Serves, PaceFrom, FitsFrom]
  | cons l ls ih =>
    cases sizes with
    | nil =>
      rw [serves_nil_cons, ih, fits_nil_cons]
      simp only [pace_nil, true_and]
    | cons s ss =>
      rcases Nat.lt_or_ge (n + l) s with hkept | htaken
      · rw [serves_kept hkept, ih, pace_kept hkept, fits_kept hkept]
        exact and_left_comm
      · rw [serves_taken htaken, ih, pace_taken htaken, fits_taken htaken]
        exact and_left_comm

/-- From an empty buffer on all items are handed out in time exactly when the loads keep
pace with the items and fit the buffer. -/
theorem serves_iff (hpos : ∀ s ∈ sizes, 0 < s) :
    Serves capacity loads sizes 0 ↔ KeepsPace sizes loads ∧ FitsBuffer capacity sizes loads := by
  have hzero : whole sizes 0 = 0 := by
    cases sizes with
    | nil => rfl
    | cons s ss => exact whole_of_lt (hpos s (by simp))
  rw [serves_iff_from]
  apply and_congr
  · constructor
    · rintro ⟨hall, hpace⟩ j hj
      rcases j with _ | j
      · simpa [hzero] using hall
      · simpa using hpace j hj
    · intro hpace
      refine ⟨by simpa [hzero] using hpace 0 (by omega), fun j hj => ?_⟩
      simpa using hpace (j + 1) hj
  · constructor
    · intro hfits i hi j hj
      rcases j with _ | j
      · simpa [hzero] using (hfits i hi).1
      · simpa using (hfits i hi).2 j hj
    · intro hfits i hi
      refine ⟨by simpa [hzero] using hfits i hi 0 (by omega), fun j hj => ?_⟩
      simpa using hfits i hi (j + 1) hj

end Pacing

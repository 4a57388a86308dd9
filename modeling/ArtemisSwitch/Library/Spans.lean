import ArtemisSwitch.Library.Clamping
import Mathlib.Algebra.Order.Field.Basic
import Mathlib.Tactic.FieldSimp
import Mathlib.Tactic.Linarith
import Mathlib.Tactic.Ring

/-!
# Spans of an axis

A span is a start and a size.  One is cut out of another, and the points of one are carried to
those of another.
-/

namespace Spans
open Clamping

universe u

/-- The points from `start` to `start + size`. -/
structure Span (α : Type u) where
  start : α
  size : α

namespace Span

section Maps
variable {α : Type u} [Field α] {s t : Span α}

/-- A point of `s` goes to the point of `t` that lies in the same proportion. -/
def carry (s t : Span α) (p : α) : α := t.start + (p - s.start) / s.size * t.size

/-- The way back. -/
lemma carry_carry (hs : s.size ≠ 0) (ht : t.size ≠ 0) (p : α) : t.carry s (s.carry t p) = p := by
  unfold carry
  field_simp
  ring

lemma carry_injective (hs : s.size ≠ 0) (ht : t.size ≠ 0) : Function.Injective (s.carry t) :=
  Function.LeftInverse.injective (carry_carry hs ht)

/-- The map is affine. -/
lemma carry_eq (s t : Span α) (p : α) :
    s.carry t p = t.size / s.size * p + (t.start - s.start / s.size * t.size) := by
  unfold carry
  ring

end Maps

variable {α : Type u} [Field α] [LinearOrder α] {s t r : Span α} {p size : α}

def Mem (s : Span α) (p : α) : Prop := s.start ≤ p ∧ p ≤ s.start + s.size

def Within (inner outer : Span α) : Prop :=
  outer.start ≤ inner.start ∧ inner.start + inner.size ≤ outer.start + outer.size

/-- A part of the given size that starts as near as it can to `p`. -/
def window [DecidableLT α] (s : Span α) (size p : α) : Span α :=
  ⟨clamp p s.start (s.start + s.size - size), size⟩

lemma Within.refl (s : Span α) : s.Within s := ⟨le_rfl, le_rfl⟩

lemma Within.trans (h : r.Within s) (h' : s.Within t) : r.Within t :=
  ⟨h'.1.trans h.1, h.2.trans h'.2⟩

lemma Within.mem (h : s.Within t) (hp : s.Mem p) : t.Mem p := ⟨h.1.trans hp.1, hp.2.trans h.2⟩

variable [IsStrictOrderedRing α]

/-- A part of the given size in the middle. -/
lemma middle_within {start : α} (h : size ≤ s.size)
    (hstart : start = s.start + (s.size - size) / 2) : (⟨start, size⟩ : Span α).Within s := by
  constructor
  · change s.start ≤ start
    linarith
  · change start + size ≤ s.start + s.size
    linarith

lemma window_within [DecidableLT α] (h : size ≤ s.size) (p : α) :
    (s.window size p).Within s := by
  have hrange : s.start ≤ s.start + s.size - size := by linarith
  have hend : clamp p s.start (s.start + s.size - size) ≤ s.start + s.size - size :=
    clamp_le hrange
  refine ⟨le_clamp hrange, ?_⟩
  change clamp p s.start (s.start + s.size - size) + size ≤ s.start + s.size
  linarith

lemma carry_mem (hs : 0 < s.size) (ht : 0 ≤ t.size) (h : s.Mem p) : t.Mem (s.carry t p) := by
  have hlow : 0 ≤ (p - s.start) / s.size := div_nonneg (sub_nonneg.mpr h.1) hs.le
  have hhigh : (p - s.start) / s.size ≤ 1 := by
    rw [div_le_one hs]
    linarith [h.2]
  constructor
  · exact le_add_of_nonneg_right (mul_nonneg hlow ht)
  · exact add_le_add_right (mul_le_of_le_one_left ht hhigh) t.start

end Span
end Spans

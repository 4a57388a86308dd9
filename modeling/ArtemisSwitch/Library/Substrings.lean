import ArtemisSwitch.Library.SplitLoops

/-!
# Checked substrings

The part of a text between two positions.  To take one that starts behind the end throws.
-/

namespace Substrings
open SplitLoops

universe u

variable {α : Type u} {text front part behind : List α} {sep : α} {start stop pos place : ℕ}

/-- `none` when it throws, or when its length would wrap. -/
def slice (text : List α) (start stop : ℕ) : Option (List α) :=
  if start ≤ text.length ∧ start ≤ stop then some ((text.drop start).take (stop - start)) else none

lemma slice_of_le (hstart : start ≤ text.length) (hstop : start ≤ stop) :
    slice text start stop = some ((text.drop start).take (stop - start)) :=
  if_pos ⟨hstart, hstop⟩

lemma slice_zero (text : List α) (stop : ℕ) : slice text 0 stop = some (text.take stop) :=
  slice_of_le (Nat.zero_le _) (Nat.zero_le _)

lemma slice_rest (h : start ≤ text.length) :
    slice text start text.length = some (text.drop start) := by
  rw [slice_of_le h h, ← List.length_drop, List.take_length]

lemma slice_middle (hstart : front.length = start) (hstop : start + part.length = stop) :
    slice (front ++ (part ++ behind)) start stop = some part := by
  subst hstart hstop
  rw [slice_of_le, List.drop_left, Nat.add_sub_cancel_left, List.take_left]
  · rw [List.length_append]
    exact Nat.le_add_right _ _
  · exact Nat.le_add_right _ _

variable [DecidableEq α]

/-- The text around the first separator from a position on. -/
lemma find_eq_some_iff : find text sep pos = some place ↔
    ∃ front behind, text.drop pos = front ++ sep :: behind ∧ sep ∉ front ∧
      place = pos + front.length := by
  constructor
  · intro h
    by_cases hmem : sep ∈ text.drop pos
    · obtain ⟨front, behind, hdrop, hfront⟩ := List.eq_append_cons_of_mem hmem
      rw [find_eq_some hdrop hfront] at h
      exact ⟨front, behind, hdrop, hfront, (Option.some.inj h).symm⟩
    · rw [find_eq_none hmem] at h
      cases h
  · rintro ⟨front, behind, hdrop, hfront, rfl⟩
    exact find_eq_some hdrop hfront

lemma lt_of_find (h : find text sep pos = some place) : place < text.length := by
  obtain ⟨front, behind, hdrop, -, rfl⟩ := find_eq_some_iff.mp h
  have hlength := congrArg List.length hdrop
  rw [List.length_drop, List.length_append, List.length_cons] at hlength
  omega

/-- Where the first separator stands, or the end of the text. -/
lemma getD_find_le (text : List α) (sep : α) (pos : ℕ) :
    (find text sep pos).getD text.length ≤ text.length := by
  cases h : find text sep pos with
  | none => exact Nat.le_refl _
  | some place => exact Nat.le_of_lt (lt_of_find h)

lemma le_getD_find (h : pos ≤ text.length) : pos ≤ (find text sep pos).getD text.length := by
  cases hfind : find text sep pos with
  | none => exact h
  | some place => exact le_of_find hfind

end Substrings

import Mathlib.Logic.Function.Basic
import Mathlib.Tactic.Common

/-!
# Lists of writes

A function that is updated at one point after the other holds the last write to each point.
-/

namespace Writes

variable {α β γ : Type*} [DecidableEq α]

/-- The last value that is written at `a`. -/
def last (a : α) : List (α × β) → Option β
  | [] => none
  | w :: ws => (last a ws).or (if w.1 = a then some w.2 else none)

def write (f : α → β) (w : α × β) : α → β := Function.update f w.1 w.2

theorem last_append (a : α) (ws ws' : List (α × β)) :
    last a (ws ++ ws') = (last a ws').or (last a ws) := by
  induction ws with
  | nil => rw [List.nil_append, last, Option.or_none]
  | cons w ws ih => rw [List.cons_append, last, ih, last, Option.or_assoc]

theorem last_eq_none {a : α} {ws : List (α × β)} :
    last a ws = none ↔ ∀ w ∈ ws, w.1 ≠ a := by
  induction ws with
  | nil => simp [last]
  | cons w ws ih =>
    rw [last, Option.or_eq_none_iff, ih, List.forall_mem_cons, and_comm]
    refine and_congr_left fun _ => ?_
    split_ifs with h
    · simp [h]
    · simp [h]

theorem foldl_write (ws : List (α × β)) (f : α → β) (a : α) :
    ws.foldl write f a = (last a ws).getD (f a) := by
  induction ws generalizing f with
  | nil => rfl
  | cons w ws ih =>
    rw [List.foldl_cons, ih, last, write]
    cases last a ws with
    | some v => rfl
    | none =>
      rw [Option.none_or]
      by_cases h : w.1 = a
      · rw [if_pos h, h, Function.update_self]
        rfl
      · rw [if_neg h, Function.update_of_ne (Ne.symm h)]

theorem last_map (g : β → γ) (a : α) (ws : List (α × β)) :
    last a (ws.map fun w => (w.1, g w.2)) = (last a ws).map g := by
  induction ws with
  | nil => rfl
  | cons w ws ih =>
    rw [List.map_cons, last, ih, last, Option.map_or]
    split_ifs <;> rfl

/-- The same value is written at some points. -/
theorem last_const (a : α) (b : β) (as : List α) :
    last a (as.map fun a' => (a', b)) = if a ∈ as then some b else none := by
  induction as with
  | nil => rfl
  | cons a' as ih =>
    rw [List.map_cons, last, ih]
    by_cases h : a' = a
    · by_cases hmem : a ∈ as <;> simp [h, hmem]
    · simp [h, Ne.symm h]

/-- A part of a state that each step writes at one point. -/
theorem foldl_hom_write {σ : Type*} {step : σ → γ → σ} {part : σ → α → β} {w : γ → α × β}
    (h : ∀ s c, part (step s c) = write (part s) (w c)) (cs : List γ) (s : σ) (a : α) :
    part (cs.foldl step s) a = (last a (cs.map w)).getD (part s a) := by
  rw [← foldl_write, List.foldl_map]
  exact congrFun (List.foldl_hom part fun s c => (h s c).symm).symm a

end Writes

import Mathlib.Data.List.Nodup
import Mathlib.Tactic.Common

/-!
# Cells that are linked by a pointer each

`link` sends a cell to the one behind it.
-/

namespace LinkedCells

variable {α : Type*} {link link' : α → Option α} {start : Option α} {l : List α} {i j : α}

/-- From `start`, the links lead through the cells of the list and to their end. -/
def Linked (link : α → Option α) : Option α → List α → Prop
  | start, [] => start = none
  | start, i :: l => start = some i ∧ Linked link (link i) l

lemma Linked.congr (h : Linked link start l) (hl : ∀ i ∈ l, link' i = link i) :
    Linked link' start l := by
  induction l generalizing start with
  | nil => exact h
  | cons i l ih =>
    refine ⟨h.1, ?_⟩
    rw [hl i (by simp)]
    exact ih h.2 fun j hj => hl j (List.mem_cons_of_mem i hj)

lemma Linked.head? (h : Linked link start l) : start = l.head? := by
  cases l with
  | nil => exact h
  | cons i l => exact h.1

lemma Linked.mem (h : Linked link start l) (hi : i ∈ l) (hj : link i = some j) : j ∈ l := by
  induction l generalizing start with
  | nil => exact absurd hi List.not_mem_nil
  | cons k l ih =>
    obtain rfl | hmem := List.mem_cons.mp hi
    · have hhead := h.2.head?
      rw [hj] at hhead
      exact List.mem_cons_of_mem i (List.mem_of_mem_head? hhead.symm)
    · exact List.mem_cons_of_mem k (ih h.2 hmem)

/-- Other names for the cells. -/
lemma Linked.map {β : Type*} {f : α → β} {next : β → Option β} (h : Linked link start l)
    (hf : ∀ i ∈ l, next (f i) = (link i).map f) : Linked next (start.map f) (l.map f) := by
  induction l generalizing start with
  | nil =>
    obtain rfl : start = none := h
    rfl
  | cons i l ih =>
    obtain ⟨rfl, hrest⟩ := h
    refine ⟨rfl, ?_⟩
    rw [hf i (by simp)]
    exact ih hrest fun j hj => hf j (List.mem_cons_of_mem i hj)

/-- `j` goes behind the head. -/
def insertBehind (j : α) : List α → List α
  | [] => [j]
  | i :: l => i :: j :: l

lemma perm_insertBehind : (insertBehind j l).Perm (j :: l) := by
  cases l with
  | nil => exact .refl _
  | cons i l => exact .swap j i l

lemma Linked.insertBehind (h : Linked link (some i) l) (hi : link' i = some j)
    (hj : link' j = link i) (hl : ∀ k ∈ l.tail, link' k = link k) :
    Linked link' (some i) (insertBehind j l) := by
  cases l with
  | nil => exact absurd h (by simp [Linked])
  | cons k l =>
    obtain rfl : i = k := Option.some.inj h.1
    refine ⟨rfl, hi, ?_⟩
    rw [hj]
    exact h.2.congr hl

/-- The cells from `start` on, if their end comes within `n` steps. -/
def follow (link : α → Option α) : ℕ → Option α → Option (List α)
  | _, none => some []
  | 0, some _ => none
  | n + 1, some i => (follow link n (link i)).map (i :: ·)

lemma Linked.follow (h : Linked link start l) {n : ℕ} (hn : l.length ≤ n) :
    follow link n start = some l := by
  induction l generalizing start n with
  | nil =>
    obtain rfl : start = none := h
    unfold LinkedCells.follow
    rfl
  | cons i l ih =>
    obtain ⟨rfl, hrest⟩ := h
    rw [List.length_cons] at hn
    obtain ⟨n, rfl⟩ : ∃ m, n = m + 1 := ⟨n - 1, by omega⟩
    rw [LinkedCells.follow, ih hrest (by omega), Option.map_some]

end LinkedCells

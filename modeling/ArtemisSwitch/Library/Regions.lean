import Mathlib.Data.List.Basic
import Mathlib.Tactic.Common

/-!
# Regions of a memory

Values are stored at a place of a memory, and a region of it is loaded again.
-/

namespace Regions

universe u

variable {α : Type u} {memory memory' : ℕ → α} {values : List α} {place start size n k : ℕ}

def store (memory : ℕ → α) (place : ℕ) (values : List α) : ℕ → α := fun a =>
  if place ≤ a then (values[a - place]?).getD (memory a) else memory a

def load (memory : ℕ → α) (start size : ℕ) : List α := (List.range' start size).map memory

@[simp] lemma load_zero (memory : ℕ → α) (start : ℕ) : load memory start 0 = [] := rfl

@[simp] lemma length_load (memory : ℕ → α) (start size : ℕ) :
    (load memory start size).length = size := by
  rw [load, List.length_map, List.length_range']

/-- Two regions next to each other. -/
lemma load_add (memory : ℕ → α) (start n k : ℕ) :
    load memory start (n + k) = load memory start n ++ load memory (start + n) k := by
  rw [load, load, load, ← List.map_append, List.range'_append_1]

/-- The rest of a region behind its first values. -/
lemma load_drop (memory : ℕ → α) (start : ℕ) (h : n ≤ size) :
    (load memory start size).drop n = load memory (start + n) (size - n) := by
  obtain ⟨k, rfl⟩ := Nat.exists_eq_add_of_le h
  rw [load_add, List.drop_left' (length_load _ _ _), Nat.add_sub_cancel_left]

lemma load_congr (h : ∀ a, start ≤ a → a < start + size → memory a = memory' a) :
    load memory start size = load memory' start size := by
  refine List.map_congr_left fun a ha => ?_
  rw [List.mem_range'_1] at ha
  exact h a ha.1 ha.2

/-- What is stored is what is loaded. -/
lemma load_store_self (memory : ℕ → α) (place : ℕ) (values : List α) :
    load (store memory place values) place values.length = values := by
  apply List.ext_getElem
  · exact length_load _ _ _
  · intro i hi hi'
    have hload : (load (store memory place values) place values.length)[i] =
        store memory place values (place + i) := by
      simp only [load, List.getElem_map, List.getElem_range', Nat.one_mul]
    rw [hload, store, if_pos (Nat.le_add_right place i), Nat.add_sub_cancel_left,
      List.getElem?_eq_getElem hi', Option.getD_some]

/-- A region that ends before the values or starts behind them. -/
lemma load_store_apart (h : start + size ≤ place ∨ place + values.length ≤ start) :
    load (store memory place values) start size = load memory start size := by
  refine load_congr fun a ha ha' => ?_
  unfold store
  split_ifs with hplace
  · rw [List.getElem?_eq_none (by omega), Option.getD_none]
  · rfl

/-- A region grows by what is stored at its end. -/
lemma load_store_end (memory : ℕ → α) (start n : ℕ) (values : List α) :
    load (store memory (start + n) values) start (n + values.length) =
      load memory start n ++ values := by
  rw [load_add, load_store_self, load_store_apart (.inl (Nat.le_refl _))]

end Regions

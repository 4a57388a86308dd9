import Mathlib.Tactic.Common

/-!
# Blocks of memory

A block is the cells that were allocated.  A cell that was not written yet may not be read, and
nothing may be read or written outside the block.
-/

namespace Cells

universe u

variable {α : Type u}

/-- `none` is a cell that was allocated and not written. -/
abbrev Block (α : Type u) := List (Option α)

def fresh (size : ℕ) : Block α := List.replicate size none

def filled (values : List α) : Block α := values.map some

/-- What was in the cells stays as far as they do. -/
def resize (block : Block α) (size : ℕ) : Block α :=
  block.take size ++ fresh (size - block.length)

/-- `none` when a value would be written outside the block. -/
def store (block : Block α) (place : ℕ) (values : List α) : Option (Block α) :=
  if place + values.length ≤ block.length then
    some (block.take place ++ (filled values ++ block.drop (place + values.length)))
  else none

/-- `none` when a cell is read that is outside the block or was not written. -/
def load (block : Block α) (place size : ℕ) : Option (List α) :=
  if place + size ≤ block.length then ((block.drop place).take size).mapM id else none

/-- The values in front of the first one that ends a text. -/
def loadUntil (stop : α → Bool) : Block α → Option (List α)
  | [] => none
  | none :: _ => none
  | some a :: block => if stop a then some [] else (loadUntil stop block).map (a :: ·)

variable {block rest : Block α} {values more : List α} {place size : ℕ} {stop : α → Bool}

@[simp] lemma length_fresh (size : ℕ) : (fresh size : Block α).length = size :=
  List.length_replicate

@[simp] lemma length_filled (values : List α) : (filled values).length = values.length :=
  List.length_map _

lemma filled_append (values more : List α) :
    filled (values ++ more) = filled values ++ filled more :=
  List.map_append

/-- Values take the place of as many cells. -/
lemma store_middle {front middle : Block α} (hplace : front.length = place)
    (hmiddle : middle.length = values.length) :
    store (front ++ (middle ++ rest)) place values = some (front ++ (filled values ++ rest)) := by
  subst hplace
  have hinside : front.length + values.length ≤ (front ++ (middle ++ rest)).length := by
    rw [List.length_append, List.length_append, hmiddle]
    omega
  rw [store, if_pos hinside, List.take_left, ← List.drop_drop, List.drop_left, ← hmiddle,
    List.drop_left]

/-- Cells are written behind those that were. -/
lemma store_append (h : more.length ≤ rest.length) :
    store (filled values ++ rest) values.length more =
      some (filled (values ++ more) ++ rest.drop more.length) := by
  have hmiddle : (rest.take more.length).length = more.length := by
    rw [List.length_take]
    omega
  rw [← List.take_append_drop more.length rest, store_middle (length_filled values) hmiddle,
    List.take_append_drop, filled_append, List.append_assoc]

lemma mapM_filled (values : List α) : (filled values).mapM id = some values := by
  induction values with
  | nil => rfl
  | cons a values ih =>
    rw [filled, List.map_cons, List.mapM_cons, ← filled, ih]
    rfl

/-- What was written is read. -/
lemma load_filled (h : place + size ≤ values.length) (rest : Block α) :
    load (filled values ++ rest) place size = some ((values.drop place).take size) := by
  have hinside : place + size ≤ (filled values ++ rest).length := by
    rw [List.length_append, length_filled]
    omega
  have hcells : ((filled values ++ rest).drop place).take size =
      filled ((values.drop place).take size) := by
    rw [List.drop_append_of_le_length (by rw [length_filled]; omega),
      List.take_append_of_le_length (by rw [List.length_drop, length_filled]; omega), filled,
      filled, ← List.map_drop, ← List.map_take]
  rw [load, if_pos hinside, hcells, mapM_filled]

/-- A text that ends in the block is read as far as its end. -/
lemma loadUntil_filled {last : α} (h : ∀ a ∈ values, stop a = false) (hlast : stop last = true)
    (rest : Block α) : loadUntil stop (filled values ++ some last :: rest) = some values := by
  induction values with
  | nil =>
    rw [filled, List.map_nil, List.nil_append, loadUntil, if_pos hlast]
  | cons a values ih =>
    have ha := h a List.mem_cons_self
    have htail := ih fun b hb => h b (List.mem_cons_of_mem a hb)
    rw [filled, List.map_cons, List.cons_append, loadUntil, if_neg (by simp [ha]), ← filled,
      htail, Option.map_some]

end Cells

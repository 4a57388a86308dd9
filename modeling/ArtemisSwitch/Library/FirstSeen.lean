import Mathlib.Data.List.Sort

/-!
# Lists that take in what is new

A list is extended by the items of another one whose key has not been seen before, in the order in
which they come.
-/

namespace FirstSeen

universe u v

variable {α : Type u} {β : Type v} [DecidableEq β]

/-- The items whose key is new, the first one of each. -/
def fresh (key : α → β) : List β → List α → List α
  | _, [] => []
  | seen, a :: items =>
    if key a ∈ seen then fresh key seen items else a :: fresh key (key a :: seen) items

variable {key : α → β} {seen seen' : List β} {a : α} {items : List α}

lemma fresh_cons_of_mem (h : key a ∈ seen) : fresh key seen (a :: items) = fresh key seen items :=
  if_pos h

lemma fresh_cons_of_not_mem (h : key a ∉ seen) :
    fresh key seen (a :: items) = a :: fresh key (key a :: seen) items :=
  if_neg h

/-- Only which keys were seen counts. -/
lemma fresh_congr (h : ∀ b, b ∈ seen ↔ b ∈ seen') (items : List α) :
    fresh key seen items = fresh key seen' items := by
  induction items generalizing seen seen' with
  | nil => rfl
  | cons a items ih =>
    by_cases ha : key a ∈ seen
    · rw [fresh_cons_of_mem ha, fresh_cons_of_mem ((h _).mp ha), ih h]
    · rw [fresh_cons_of_not_mem ha, fresh_cons_of_not_mem (mt (h _).mpr ha)]
      refine congrArg (a :: ·) (ih fun b => ?_)
      rw [List.mem_cons, List.mem_cons, h]

/-- The first item, and then what is new beside it. -/
lemma fresh_cons (seen : List β) (a : α) (items : List α) :
    fresh key seen (a :: items) =
      fresh key seen [a] ++ fresh key (seen ++ (fresh key seen [a]).map key) items := by
  by_cases ha : key a ∈ seen
  · rw [fresh_cons_of_mem ha, fresh_cons_of_mem ha]
    simp [fresh]
  · rw [fresh_cons_of_not_mem ha, fresh_cons_of_not_mem ha]
    refine congrArg (a :: ·) (fresh_congr (fun b => ?_) items)
    simp [fresh, or_comm]

/-- The loop that appends an item unless its key is there. -/
lemma foldl_append_fresh {step : List α → α → List α}
    (hstep : ∀ list a, step list a = if key a ∈ list.map key then list else list ++ [a])
    (items list : List α) : items.foldl step list = list ++ fresh key (list.map key) items := by
  induction items generalizing list with
  | nil => exact (List.append_nil list).symm
  | cons a items ih =>
    rw [List.foldl_cons, hstep]
    by_cases ha : key a ∈ list.map key
    · rw [if_pos ha, ih, fresh_cons_of_mem ha]
    · rw [if_neg ha, ih, fresh_cons_of_not_mem ha, List.append_assoc]
      refine congrArg (list ++ a :: ·) (fresh_congr (fun b => ?_) items)
      simp [or_comm]

/-! ## Items that are sorted in behind all others -/

variable {r : α → α → Prop} [DecidableRel r] {last : α}

lemma orderedInsert_concat (h : r a last) (items : List α) :
    (items ++ [last]).orderedInsert r a = items.orderedInsert r a ++ [last] := by
  induction items with
  | nil => exact List.orderedInsert_cons_of_le r [] h
  | cons b items ih =>
    by_cases hb : r a b
    · rw [List.cons_append, List.orderedInsert_cons_of_le r _ hb,
        List.orderedInsert_cons_of_le r _ hb]
      rfl
    · rw [List.cons_append, List.orderedInsert_of_not_le r _ hb,
        List.orderedInsert_of_not_le r _ hb, ih]
      rfl

/-- A stable sort leaves the last item where it is, if no other one comes behind it. -/
lemma insertionSort_concat (h : ∀ a ∈ items, r a last) :
    (items ++ [last]).insertionSort r = items.insertionSort r ++ [last] := by
  induction items with
  | nil => rfl
  | cons a items ih =>
    rw [List.forall_mem_cons] at h
    rw [List.cons_append, List.insertionSort_cons, List.insertionSort_cons, ih h.2,
      orderedInsert_concat h.1]

end FirstSeen

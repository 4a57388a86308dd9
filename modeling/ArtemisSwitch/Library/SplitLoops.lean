import Mathlib.Tactic.Common

/-!
# Loops over the pieces of a text

A loop looks for the next separator from a position on, handles the piece before it and goes on
behind it.  It is a fold over the pieces between the separators.
-/

namespace SplitLoops

universe u v

variable {α : Type u} {σ γ : Type v}

/-- A step that reads a value out of the piece first. -/
lemma foldlM_map (read : List α → Option γ) (add : σ → γ → σ) (pieces : List (List α))
    (state : σ) :
    pieces.foldlM (fun state piece => (read piece).map (add state)) state =
      (pieces.mapM read).map fun values => values.foldl add state := by
  induction pieces generalizing state with
  | nil => rfl
  | cons piece pieces ih =>
    rw [List.foldlM_cons, List.mapM_cons]
    cases read piece with
    | none => rfl
    | some value =>
      refine (ih (add state value)).trans ?_
      cases pieces.mapM read <;> rfl

variable [DecidableEq α]

/-- The first place of the separator, from a position on. -/
def find (text : List α) (sep : α) (pos : ℕ) : Option ℕ :=
  ((text.drop pos).findIdx? (· == sep)).map (pos + ·)

/-- The last place of the separator. -/
def rfind (text : List α) (sep : α) : Option ℕ :=
  (text.reverse.findIdx? (· == sep)).map (text.length - 1 - ·)

section Find
variable {text before behind : List α} {sep : α} {pos place : ℕ}

lemma findIdx?_eq_none (h : sep ∉ text) : text.findIdx? (· == sep) = none := by
  rw [List.findIdx?_eq_none_iff]
  intro c hc
  rw [beq_eq_false_iff_ne]
  rintro rfl
  exact h hc

lemma findIdx?_append_cons (h : sep ∉ before) :
    (before ++ sep :: behind).findIdx? (· == sep) = some before.length := by
  rw [List.findIdx?_append, findIdx?_eq_none h, List.findIdx?_cons]
  simp

lemma find_eq_none (h : sep ∉ text.drop pos) : find text sep pos = none := by
  rw [find, findIdx?_eq_none h, Option.map_none]

lemma find_eq_some (hdrop : text.drop pos = before ++ sep :: behind) (h : sep ∉ before) :
    find text sep pos = some (pos + before.length) := by
  rw [find, hdrop, findIdx?_append_cons h, Option.map_some]

/-- The text in front of the first separator is the only such text. -/
lemma before_unique {before' behind' : List α} (hbefore : sep ∉ before) (hbefore' : sep ∉ before')
    (h : before ++ sep :: behind = before' ++ sep :: behind') : before = before' := by
  have hplace := @findIdx?_append_cons _ _ _ behind _ hbefore
  rw [h, findIdx?_append_cons hbefore'] at hplace
  exact List.append_inj_left h (Option.some.inj hplace).symm

lemma le_of_find (h : find text sep pos = some place) : pos ≤ place := by
  obtain ⟨i, -, hi⟩ := Option.map_eq_some_iff.mp h
  exact hi ▸ Nat.le_add_right pos i

/-! What one round of a loop sees: the piece, what stands behind it, and that it gets shorter. -/

omit [DecidableEq α] in
lemma piece_of_drop (hdrop : text.drop pos = before ++ sep :: behind) :
    (text.drop pos).take (pos + before.length - pos) = before := by
  rw [Nat.add_sub_cancel_left, hdrop, List.take_left]

omit [DecidableEq α] in
lemma rest_of_drop (hdrop : text.drop pos = before ++ sep :: behind) :
    text.drop (pos + before.length + 1) = behind := by
  rw [Nat.add_assoc, ← List.drop_drop, hdrop, List.drop_append]
  simp

omit [DecidableEq α] in
lemma length_of_drop (hdrop : text.drop pos = before ++ sep :: behind) :
    text.length = pos + before.length + 1 + behind.length := by
  have hsame := congrArg List.length hdrop
  rw [List.length_drop, List.length_append, List.length_cons] at hsame
  omega

omit [DecidableEq α] in
lemma last_of_drop (text : List α) (pos : ℕ) :
    (text.drop pos).take (text.length - pos) = text.drop pos :=
  List.take_of_length_le (Nat.le_of_eq List.length_drop)

lemma rfind_append_cons (h : sep ∉ behind) :
    rfind (before ++ sep :: behind) sep = some before.length := by
  have hreverse : sep ∉ behind.reverse := by rwa [List.mem_reverse]
  rw [rfind, List.reverse_append, List.reverse_cons, List.append_assoc, List.singleton_append,
    findIdx?_append_cons hreverse, Option.map_some, List.length_append, List.length_cons,
    List.length_reverse]
  congr 1
  omega

/-- What is not a separator stands in a piece. -/
lemma mem_of_mem {c : α} (h : c ∈ text) : c = sep ∨ ∃ piece ∈ text.splitOn sep, c ∈ piece := by
  induction text with
  | nil => cases h
  | cons d text ih =>
    obtain ⟨first, rest, hsplit⟩ := List.exists_cons_of_ne_nil (List.splitOn_ne_nil sep text)
    rw [List.splitOn_cons_eq_if_modifyHead]
    rw [hsplit] at ih ⊢
    split_ifs with hsep
    · rcases List.mem_cons.mp h with rfl | hmem
      · exact .inl (eq_of_beq hsep)
      · refine (ih hmem).imp_right ?_
        rintro ⟨piece, hpiece, hc⟩
        exact ⟨piece, List.mem_cons_of_mem _ hpiece, hc⟩
    · rw [List.modifyHead_cons]
      rcases List.mem_cons.mp h with rfl | hmem
      · exact .inr ⟨c :: first, List.mem_cons_self, List.mem_cons_self⟩
      · refine (ih hmem).imp_right ?_
        rintro ⟨piece, hpiece, hc⟩
        rcases List.mem_cons.mp hpiece with rfl | hpiece
        · exact ⟨d :: piece, List.mem_cons_self, List.mem_cons_of_mem d hc⟩
        · exact ⟨piece, List.mem_cons_of_mem _ hpiece, hc⟩

omit [DecidableEq α] in
lemma infix_intercalate {piece : List α} {pieces : List (List α)} (h : piece ∈ pieces) :
    piece <:+: [sep].intercalate pieces := by
  induction pieces with
  | nil => cases h
  | cons first pieces ih =>
    cases pieces with
    | nil =>
      obtain rfl := List.mem_singleton.mp h
      exact Eq.subst (motive := fun text => piece <:+: text) List.intercalate_singleton.symm
        List.infix_rfl
    | cons second pieces =>
      rw [List.intercalate_cons_cons]
      rcases List.mem_cons.mp h with rfl | hrest
      · rw [List.append_assoc]
        exact (List.prefix_append _ _).isInfix
      · exact (ih hrest).trans (List.suffix_append _ _).isInfix

/-- Pieces that are joined by a separator that none of them has in it are told apart. -/
lemma intercalate_inj {pieces pieces' : List (List α)} (hne : pieces ≠ []) (hne' : pieces' ≠ [])
    (h : ∀ piece ∈ pieces, sep ∉ piece) (h' : ∀ piece ∈ pieces', sep ∉ piece) :
    [sep].intercalate pieces = [sep].intercalate pieces' ↔ pieces = pieces' := by
  refine ⟨fun heq => ?_, fun heq => heq ▸ rfl⟩
  rw [← List.splitOn_intercalate sep h hne, heq, List.splitOn_intercalate sep h' hne']

/-- A piece is a part of the text. -/
lemma infix_of_mem_splitOn {piece : List α} (h : piece ∈ text.splitOn sep) : piece <:+: text := by
  have hinside := @infix_intercalate _ sep _ _ h
  rwa [List.intercalate_splitOn] at hinside

end Find

/-! ## The loop -/

/-- The loop ends behind the last piece, or when a step fails. -/
def loop (text : List α) (sep : α) (step : σ → List α → Option σ) (pos : ℕ) (state : σ) :
    Option σ :=
  if pos ≤ text.length then
    match step state ((text.drop pos).take ((find text sep pos).getD text.length - pos)) with
    | none => none
    | some state =>
      match h : find text sep pos with
      | none => some state
      | some place => loop text sep step (place + 1) state
  else some state
termination_by text.length + 1 - pos
decreasing_by
  have hle := le_of_find h
  omega

/-- The loop folds the step over the pieces. -/
theorem loop_eq_foldlM {text : List α} {sep : α} {step : σ → List α → Option σ} {pos : ℕ}
    (h : pos ≤ text.length) (state : σ) :
    loop text sep step pos state = ((text.drop pos).splitOn sep).foldlM step state := by
  induction hn : text.length - pos using Nat.strongRecOn generalizing pos state with
  | ind n ih =>
    rw [loop, if_pos h]
    by_cases hmem : sep ∈ text.drop pos
    · obtain ⟨before, behind, hdrop, hbefore⟩ := List.eq_append_cons_of_mem hmem
      have hlength := length_of_drop hdrop
      rw [find_eq_some hdrop hbefore, Option.getD_some, piece_of_drop hdrop, hdrop,
        List.splitOn_append_cons_self_of_not_mem hbefore, List.foldlM_cons]
      cases step state before with
      | none => rfl
      | some next =>
        have hrest := ih (text.length - (pos + before.length + 1)) (by omega) (by omega) next rfl
        rw [rest_of_drop hdrop] at hrest
        exact hrest
    · rw [find_eq_none hmem, Option.getD_none, last_of_drop, List.splitOn_eq_singleton hmem,
        List.foldlM_cons]
      cases step state (text.drop pos) <;> rfl

end SplitLoops

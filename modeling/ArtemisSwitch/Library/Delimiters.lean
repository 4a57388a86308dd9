import Mathlib.Data.List.Infix

/-!
# Texts with delimiters

A text is cut at the first place where a delimiter of several characters stands.
-/

namespace Delimiters

universe u

variable {α : Type u} [DecidableEq α] {sep text before behind line : List α} {s : α}

/-- The parts in front of the first delimiter and behind it. -/
def cut (sep : List α) : List α → Option (List α × List α)
  | [] => if sep = [] then some ([], []) else none
  | c :: text =>
    if sep <+: c :: text then some ([], (c :: text).drop sep.length)
    else (cut sep text).map fun parts => (c :: parts.1, parts.2)

/-- The first place of the delimiter, from a position on. -/
def find (sep text : List α) (pos : ℕ) : Option ℕ :=
  (cut sep (text.drop pos)).map fun parts => pos + parts.1.length

lemma le_of_find {pos place : ℕ} (h : find sep text pos = some place) : pos ≤ place := by
  obtain ⟨parts, -, rfl⟩ := Option.map_eq_some_iff.mp h
  exact Nat.le_add_right pos parts.1.length

lemma cut_cons_of_not_prefix {c : α} (h : ¬sep <+: c :: text) :
    cut sep (c :: text) = (cut sep text).map fun parts => (c :: parts.1, parts.2) :=
  if_neg h

lemma cut_of_prefix (hsep : sep ≠ []) (behind : List α) :
    cut sep (sep ++ behind) = some ([], behind) := by
  obtain ⟨s, rest, rfl⟩ := List.exists_cons_of_ne_nil hsep
  have hstart : s :: rest <+: s :: (rest ++ behind) := List.prefix_append (s :: rest) behind
  have hdrop : (s :: (rest ++ behind)).drop (s :: rest).length = behind :=
    @List.drop_left _ (s :: rest) _
  rw [List.cons_append, cut, if_pos hstart, hdrop]

/-- The text is what it is cut into. -/
lemma eq_of_cut (h : cut sep text = some (before, behind)) : text = before ++ sep ++ behind := by
  induction text generalizing before with
  | nil =>
    rw [cut] at h
    split_ifs at h with hsep
    cases h
    simp [hsep]
  | cons c text ih =>
    rw [cut] at h
    split_ifs at h with hstart
    · cases h
      obtain ⟨rest, hrest⟩ := hstart
      rw [← hrest, List.drop_left, List.nil_append]
    · obtain ⟨parts, hparts, heq⟩ := Option.map_eq_some_iff.mp h
      cases heq
      rw [ih hparts, List.cons_append, List.cons_append]

/-- No delimiter ends before the first one does. -/
lemma not_infix_of_cut (hsep : sep ≠ []) (h : cut sep text = some (before, behind)) :
    ¬sep <:+: before ++ sep.dropLast := by
  induction text generalizing before with
  | nil =>
    rw [cut, if_neg hsep] at h
    cases h
  | cons c text ih =>
    have htext := eq_of_cut h
    rw [cut] at h
    split_ifs at h with hstart
    · cases h
      intro hinside
      have hlength := hinside.length_le
      have hpos := List.length_pos_iff.mpr hsep
      rw [List.nil_append, List.length_dropLast] at hlength
      omega
    · obtain ⟨⟨front, rest⟩, hparts, heq⟩ := Option.map_eq_some_iff.mp h
      cases heq
      rw [List.cons_append, List.infix_cons_iff, not_or]
      refine ⟨fun hfirst => hstart (hfirst.trans ?_), ih hparts⟩
      obtain ⟨last, hlast⟩ := List.dropLast_prefix sep
      rw [htext]
      refine ⟨last ++ rest, ?_⟩
      conv_rhs => rw [← hlast]
      simp only [List.append_assoc, List.cons_append]

/-- A text is cut at a delimiter if no other ends before it. -/
lemma cut_of_first (hsep : sep ≠ []) (h : ¬sep <:+: before ++ sep.dropLast) :
    cut sep (before ++ sep ++ behind) = some (before, behind) := by
  induction before with
  | nil => exact cut_of_prefix hsep behind
  | cons c before ih =>
    rw [List.cons_append, List.infix_cons_iff, not_or] at h
    have hnot : ¬sep <+: c :: (before ++ sep ++ behind) := by
      intro hstart
      apply h.1
      have hwhole : c :: (before ++ sep.dropLast) <+: c :: (before ++ sep ++ behind) := by
        obtain ⟨last, hlast⟩ := List.dropLast_prefix sep
        refine ⟨last ++ behind, ?_⟩
        conv_rhs => rw [← hlast]
        simp only [List.append_assoc, List.cons_append]
      refine List.prefix_of_prefix_length_le hstart hwhole ?_
      rw [List.length_cons, List.length_append, List.length_dropLast]
      omega
    rw [List.cons_append, List.cons_append, cut_cons_of_not_prefix hnot, ih h.2]
    rfl

/-- A text is cut at the first delimiter. -/
theorem cut_eq_some_iff (hsep : sep ≠ []) : cut sep text = some (before, behind) ↔
    text = before ++ sep ++ behind ∧ ¬sep <:+: before ++ sep.dropLast := by
  refine ⟨fun h => ⟨eq_of_cut h, not_infix_of_cut hsep h⟩, ?_⟩
  rintro ⟨rfl, hinside⟩
  exact cut_of_first hsep hinside

lemma length_lt_of_cut (hsep : sep ≠ []) (h : cut sep text = some (before, behind)) :
    behind.length < text.length := by
  have hpos := List.length_pos_iff.mpr hsep
  rw [eq_of_cut h, List.length_append, List.length_append]
  omega

/-- A text that cannot be cut has no delimiter. -/
lemma not_infix_of_cut_eq_none (h : cut sep text = none) : ¬sep <:+: text := by
  induction text with
  | nil =>
    intro hinside
    rw [cut, if_pos (List.infix_nil.mp hinside)] at h
    cases h
  | cons c text ih =>
    rw [cut] at h
    split_ifs at h with hstart
    rw [Option.map_eq_none_iff] at h
    rw [List.infix_cons_iff, not_or]
    exact ⟨hstart, ih h⟩

/-! ## Delimiters that start with a character of their own -/

/-- Text without the first character of the delimiter is passed over. -/
lemma cut_skip (h : s ∉ line) (text : List α) : cut (s :: sep) (line ++ text) =
    (cut (s :: sep) text).map fun parts => (line ++ parts.1, parts.2) := by
  induction line with
  | nil => simp
  | cons c line ih =>
    rw [List.mem_cons, not_or] at h
    have hnot : ¬s :: sep <+: c :: (line ++ text) := fun hstart =>
      h.1 (List.cons_prefix_cons.mp hstart).1
    rw [List.cons_append, cut_cons_of_not_prefix hnot, ih h.2, Option.map_map]
    rfl

lemma cut_append (h : s ∉ line) (behind : List α) :
    cut (s :: sep) (line ++ s :: (sep ++ behind)) = some (line, behind) := by
  have hstart := cut_of_prefix (List.cons_ne_nil s sep) behind
  rw [List.cons_append] at hstart
  rw [cut_skip h, hstart, Option.map_some, List.append_nil]

/-- A delimiter that cannot overlap itself is found behind any text without it. -/
lemma cut_append_of_not_infix (hsep : s ∉ sep) (h : ¬s :: sep <:+: line) (behind : List α) :
    cut (s :: sep) (line ++ s :: (sep ++ behind)) = some (line, behind) := by
  induction line with
  | nil => exact cut_append List.not_mem_nil behind
  | cons c line ih =>
    rw [List.infix_cons_iff, not_or] at h
    have hnot : ¬s :: sep <+: c :: (line ++ s :: (sep ++ behind)) := by
      rw [List.cons_prefix_cons]
      rintro ⟨rfl, hstart⟩
      have hline : line ++ [s] <+: line ++ s :: (sep ++ behind) := ⟨sep ++ behind, by simp⟩
      rcases Nat.lt_or_ge line.length sep.length with hlt | hle
      · have hinside : line ++ [s] <+: sep :=
          List.prefix_of_prefix_length_le hline hstart (by simpa using Nat.succ_le_of_lt hlt)
        exact hsep (hinside.subset (by simp))
      · have hinside : sep <+: line :=
          List.prefix_of_prefix_length_le hstart (List.prefix_append line _) hle
        exact h.1 (List.cons_prefix_cons.mpr ⟨rfl, hinside⟩)
    rw [List.cons_append, cut_cons_of_not_prefix hnot, ih h.2]
    rfl

/-! ## One round of a loop over positions -/

section Rounds
variable {pos : ℕ}

lemma find_of_drop (h : s ∉ line) (hdrop : text.drop pos = line ++ s :: sep ++ behind) :
    find (s :: sep) text pos = some (pos + line.length) := by
  have hcut : cut (s :: sep) (text.drop pos) = some (line, behind) := by
    rw [hdrop, List.append_assoc]
    exact cut_append h behind
  rw [find, hcut]
  rfl

omit [DecidableEq α]

lemma take_of_drop (hdrop : text.drop pos = line ++ sep ++ behind) :
    (text.drop pos).take (pos + line.length - pos) = line := by
  rw [hdrop, Nat.add_sub_cancel_left, List.append_assoc, List.take_left]

/-- The next round starts behind the delimiter. -/
lemma drop_of_drop (hdrop : text.drop pos = line ++ sep ++ behind) :
    text.drop (pos + line.length + sep.length) = behind := by
  rw [Nat.add_assoc, ← List.drop_drop, hdrop, ← List.length_append, List.drop_left]

end Rounds

/-! ## Lines -/

/-- Lines with a delimiter between every two of them. -/
def joined (sep line : List α) (lines : List (List α)) : List α :=
  line ++ lines.flatMap (sep ++ ·)

/-- Lines with a delimiter behind each of them. -/
def terminated (sep : List α) (lines : List (List α)) : List α := lines.flatMap (· ++ sep)

omit [DecidableEq α] in
lemma terminated_cons (sep line : List α) (lines : List (List α)) :
    terminated sep (line :: lines) = line ++ sep ++ terminated sep lines := List.flatMap_cons

omit [DecidableEq α] in
lemma joined_append (sep line : List α) (lines : List (List α)) :
    joined sep line lines ++ sep = line ++ sep ++ terminated sep lines := by
  induction lines generalizing line with
  | nil => simp [joined, terminated]
  | cons other lines ih =>
    have hrest := ih other
    simp only [joined, terminated, List.flatMap_cons, List.append_assoc] at hrest ⊢
    rw [hrest]

/-- Behind the last of some lines stand two delimiters. -/
lemma cut_joined {lines : List (List α)} (hsep : s ∉ sep) (hline : s ∉ line)
    (hlines : ∀ other ∈ lines, other ≠ [] ∧ s ∉ other) (behind : List α) :
    cut (s :: sep ++ s :: sep) (joined (s :: sep) line lines ++ (s :: sep ++ s :: sep) ++ behind) =
      some (joined (s :: sep) line lines, behind) := by
  induction lines generalizing line with
  | nil =>
    rw [joined, List.flatMap_nil, List.append_nil, List.append_assoc]
    exact cut_append hline behind
  | cons other lines ih =>
    obtain ⟨⟨hne, hother⟩, hlines⟩ := List.forall_mem_cons.mp hlines
    have hrest := ih hother hlines
    have hsplit : joined (s :: sep) line (other :: lines) ++ (s :: sep ++ s :: sep) ++ behind =
        line ++ s :: (sep ++
          (joined (s :: sep) other lines ++ (s :: sep ++ s :: sep) ++ behind)) := by
      simp [joined]
    have hnot : ¬s :: (sep ++ s :: sep) <+:
        s :: (sep ++ (joined (s :: sep) other lines ++ (s :: sep ++ s :: sep) ++ behind)) := by
      rw [List.cons_prefix_cons, List.prefix_append_right_inj]
      obtain ⟨c, rest, rfl⟩ := List.exists_cons_of_ne_nil hne
      rintro ⟨-, hstart⟩
      rw [joined, List.cons_append, List.cons_append, List.cons_append,
        List.cons_prefix_cons] at hstart
      exact hother (hstart.1 ▸ List.mem_cons_self)
    rw [hsplit]
    simp only [List.cons_append] at hrest hnot ⊢
    rw [cut_skip hline, cut_cons_of_not_prefix hnot, cut_skip hsep, hrest]
    simp [joined]

end Delimiters

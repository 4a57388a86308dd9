import Mathlib.Data.List.DropRight
import Mathlib.Data.List.Infix

/-!
# Trimming

A text without the blanks at its ends, for any notion of a blank.
-/

namespace Trimming

universe u

variable {α : Type u} {p : α → Bool} {s front back part : List α} {c : α}

def strip (p : α → Bool) (s : List α) : List α := (s.dropWhile p).rdropWhile p

lemma length_strip_le (p : α → Bool) (s : List α) : (strip p s).length ≤ (s.dropWhile p).length :=
  (List.rdropWhile_prefix p _).length_le

lemma mem_of_mem_strip (h : c ∈ strip p s) : c ∈ s :=
  (List.dropWhile_suffix p).subset ((List.rdropWhile_prefix p _).subset h)

/-- A text that is not trimmed does not start with a blank. -/
lemma dropWhile_of_strip (h : strip p s = s) : s.dropWhile p = s := by
  apply (List.dropWhile_suffix p).eq_of_length_le
  have hlength := length_strip_le p s
  rwa [h] at hlength

/-- Nothing is trimmed exactly when no blank is at either end. -/
lemma strip_eq_self_iff : strip p s = s ↔
    (∀ h : s ≠ [], p (s.head h) = false) ∧ ∀ h : s ≠ [], p (s.getLast h) = false := by
  constructor
  · intro htrim
    have hfront := dropWhile_of_strip htrim
    have hback : s.rdropWhile p = s := by
      rw [strip, hfront] at htrim
      exact htrim
    refine ⟨fun h => ?_, fun h => ?_⟩
    · have hhead := List.head_dropWhile_not p (l := s) (by rwa [hfront])
      simpa [hfront] using hhead
    · have hlast := List.rdropWhile_eq_self_iff.mp hback h
      simpa using hlast
  · rintro ⟨hfirst, hlast⟩
    have hfront : s.dropWhile p = s := by
      cases s with
      | nil => rfl
      | cons c s =>
        have hc := hfirst (List.cons_ne_nil c s)
        exact List.dropWhile_cons_of_neg (by simpa using hc)
    rw [strip, hfront, List.rdropWhile_eq_self_iff]
    intro h
    simp [hlast h]

lemma strip_eq_self (h : ∀ c ∈ s, p c = false) : strip p s = s :=
  strip_eq_self_iff.mpr ⟨fun hn => h _ (List.head_mem hn), fun hn => h _ (List.getLast_mem hn)⟩

lemma strip_strip (p : α → Bool) (s : List α) : strip p (strip p s) = strip p s := by
  refine strip_eq_self_iff.mpr ⟨fun h => ?_, fun h => ?_⟩
  · have hfront : strip p s <+: s.dropWhile p := List.rdropWhile_prefix p _
    have hne : s.dropWhile p ≠ [] := fun hnil => h (List.prefix_nil.mp (hnil ▸ hfront))
    have hhead := List.head_dropWhile_not p hne
    rwa [← hfront.head h] at hhead
  · exact Bool.eq_false_iff.mpr (List.rdropWhile_last_not p (s.dropWhile p) h)

/-- What is trimmed are blanks. -/
lemma strip_parts (p : α → Bool) (s : List α) :
    ∃ front back, s = front ++ strip p s ++ back ∧ front.all p = true ∧ back.all p = true := by
  have hfront := List.takeWhile_append_dropWhile (p := p) (l := s)
  have hback := List.rdropWhile_append_rtakeWhile (p := p) (l := s.dropWhile p)
  refine ⟨s.takeWhile p, (s.dropWhile p).rtakeWhile p, ?_,
    List.all_takeWhile, List.all_eq_true.mpr fun c hc => List.mem_rtakeWhile_imp hc⟩
  rw [strip, List.append_assoc, hback, hfront]

/-- Blanks in front go. -/
lemma strip_blanks_append (s : List α) (h : front.all p = true) :
    strip p (front ++ s) = strip p s := by
  rw [strip, List.dropWhile_append_of_pos (List.all_eq_true.mp h), strip]

/-- Blanks at the end go. -/
lemma strip_append_blanks (s : List α) (h : back.all p = true) :
    strip p (s ++ back) = strip p s := by
  have hall := List.all_eq_true.mp h
  have hback (t : List α) : (t ++ back).rdropWhile p = t.rdropWhile p := by
    rw [List.rdropWhile, List.reverse_append, List.dropWhile_append_of_pos, List.rdropWhile]
    exact fun c hc => hall c (List.mem_reverse.mp hc)
  rw [strip, strip, List.dropWhile_append]
  split_ifs with hnil
  · rw [List.isEmpty_iff] at hnil
    rw [hnil, List.dropWhile_eq_nil_iff.mpr hall]
  · exact hback _

/-- Of a text between blanks nothing is left but the text. -/
lemma strip_surrounded (hfront : front.all p = true) (hs : strip p s = s)
    (hback : back.all p = true) : strip p (front ++ s ++ back) = s := by
  rw [strip_append_blanks _ hback, strip_blanks_append _ hfront, hs]

/-- What is left does not start with what has been dropped. -/
lemma of_mem_head?_dropWhile (h : c ∈ (s.dropWhile p).head?) : p c = false := by
  have hhead := List.head?_dropWhile_not p s
  rw [Option.mem_def.mp h] at hhead
  exact hhead

lemma infix_dropWhile (hne : part ≠ []) (hpart : ∀ c ∈ part, p c = false) (h : part <:+: s) :
    part <:+: s.dropWhile p := by
  induction s with
  | nil => exact h
  | cons c s ih =>
    cases hc : p c with
    | false => rwa [List.dropWhile_cons_of_neg (by simp [hc])]
    | true =>
      rw [List.dropWhile_cons_of_pos hc]
      rcases List.infix_cons_iff.mp h with hstart | hinside
      · obtain ⟨d, part, rfl⟩ := List.exists_cons_of_ne_nil hne
        have hd := hpart d List.mem_cons_self
        rw [(List.cons_prefix_cons.mp hstart).1, hc] at hd
        cases hd
      · exact ih hinside

/-- A part without blanks is not trimmed away. -/
lemma infix_strip_iff (hne : part ≠ []) (hpart : ∀ c ∈ part, p c = false) :
    part <:+: strip p s ↔ part <:+: s := by
  constructor
  · intro h
    exact h.trans ((List.rdropWhile_prefix p _).isInfix.trans (List.dropWhile_suffix p).isInfix)
  · intro h
    have hfront := List.reverse_infix.mpr (infix_dropWhile hne hpart h)
    have hne' : part.reverse ≠ [] := by rwa [ne_eq, List.reverse_eq_nil_iff]
    have hback := infix_dropWhile hne' (fun c hc => hpart c (List.mem_reverse.mp hc)) hfront
    rw [strip, List.rdropWhile, ← List.reverse_infix, List.reverse_reverse]
    exact hback

lemma rdropWhile_congr {q : α → Bool} (h : ∀ c ∈ s, p c = q c) :
    s.rdropWhile p = s.rdropWhile q := by
  induction s using List.reverseRecOn with
  | nil => rfl
  | append_singleton s c ih =>
    have hc := h c (List.mem_append_right s List.mem_cons_self)
    rw [List.rdropWhile_concat, List.rdropWhile_concat, hc,
      ih fun d hd => h d (List.mem_append_left [c] hd)]

/-- Characters may be changed first where that changes no blank. -/
lemma strip_map {f : α → α} (h : ∀ c, p (f c) = p c) (s : List α) :
    strip p (s.map f) = (strip p s).map f := by
  have hsame : p ∘ f = p := funext h
  rw [strip, strip, List.dropWhile_map, List.rdropWhile, List.rdropWhile, ← List.map_reverse,
    List.dropWhile_map, List.map_reverse, hsame]

end Trimming

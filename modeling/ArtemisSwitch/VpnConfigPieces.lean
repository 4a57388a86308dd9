import ArtemisSwitch.Library.Delimiters
import ArtemisSwitch.VpnConfigRedaction

/-!
# What two texts show

A text is cut at the values that are hidden.  Two texts are shown alike when they differ in
hidden values only; the mark that is put for a value tells the cuts apart again, unless it
stands in the texts themselves.
-/

namespace ArtemisSwitch.VpnConfig
open Regex HostAddress HostStore
open Delimiters (cut cut_append_of_not_infix)

/-! ## Cuts at hidden values -/

def trailingBlanks (v : Bytes) : Bytes := v.drop (v.rdropWhile isspace).length

/-- What is written for a value. -/
def marker : Bytes := ascii "[REDACTED]"

/-- No comment starts in a text. -/
structure NoComment (x : Bytes) : Prop where
  no_hash : ¬ascii " #" <:+: x
  no_semicolon : ¬ascii " ;" <:+: x

namespace Found

variable (f : Found)

def value : Bytes := f.start.take (f.start.length - f.rest.length)

/-- The mark is put in quotes. -/
def InQuotes : Prop := f.value.head? = some quote ∨ f.quotedKey = true

/-- What stays behind the mark: the last blanks of the value, and the text behind it. -/
def left : Bytes × Bytes := (trailingBlanks f.value, f.rest)

end Found

/-- The first value of a text that is hidden. -/
inductive Hides : Bytes → Found → Prop
  | here {front x : Bytes} {f : Found} (hfront : NoStart assignment front x)
      (hat : assignmentAt x = some f) (hkey : isSensitiveKey f.key = true) : Hides (front ++ x) f
  | later {front x : Bytes} {f g : Found} (hfront : NoStart assignment front x)
      (hat : assignmentAt x = some f) (hkey : isSensitiveKey f.key = false)
      (hrest : Hides f.rest g) : Hides (front ++ x) g

/-- No value of a text is hidden. -/
def Bare (x : Bytes) : Prop := ∀ f, ¬Hides x f

/-- Two texts, whose first parts stay as they are, differ in hidden values only. -/
inductive ShownAlike : Bytes × Bytes → Bytes × Bytes → Prop
  | bare {kept x kept' y : Bytes} (hx : Bare x) (hy : Bare y)
      (hsame : kept ++ x = kept' ++ y) : ShownAlike (kept, x) (kept', y)
  | hidden {kept shown kept' shown' : Bytes} {f g : Found} (hx : Hides (shown ++ f.start) f)
      (hy : Hides (shown' ++ g.start) g) (hsame : kept ++ shown = kept' ++ shown')
      (hquotes : f.InQuotes ↔ g.InQuotes) (hleft : ShownAlike f.left g.left) :
      ShownAlike (kept, shown ++ f.start) (kept', shown' ++ g.start)

/-! ## The preview of a text that is cut -/

section
variable {x y u part front kept kept' shown shown' : Bytes} {c : UInt8} {f g : Found}
  {a b : Bytes × Bytes}

lemma NoComment.within (h : NoComment x) (hpart : part <:+: x) : NoComment part :=
  ⟨fun hinside => h.no_hash (hinside.trans hpart),
    fun hinside => h.no_semicolon (hinside.trans hpart)⟩

lemma find_eq {text part : Bytes} (h : ¬part <:+: text) : find text part = text.length + 1 := by
  rw [find, List.findIdx_eq_length_of_false, List.length_tails]
  intro t ht
  by_contra hstarts
  have hstarts : part <+: t := List.isPrefixOf_iff_prefix.mp (by simpa using hstarts)
  have hends : t <:+ text := (List.mem_tails t text).mp ht
  exact h (List.IsInfix.trans hstarts.isInfix hends.isInfix)

/-- Without a comment only blanks are kept. -/
lemma suffixOf_eq (h : NoComment x) : suffixOf x = trailingBlanks x := by
  unfold suffixOf
  simp only [find_eq h.no_hash, find_eq h.no_semicolon]
  split_ifs with hquoted hsize hsize
  · rfl
  · exact absurd rfl hsize
  · rfl
  · exact absurd (by omega) hsize

lemma trailingBlanks_suffix (v : Bytes) : trailingBlanks v <:+ v := List.drop_suffix _ v

lemma Found.value_append (h : f.rest <:+ f.start) : f.value ++ f.rest = f.start := by
  rw [Found.value]
  generalize f.rest = rest at h ⊢
  obtain ⟨value, hvalue⟩ := h
  rw [← hvalue]
  simp

lemma assignmentAt_length (h : assignmentAt x = some f) : f.rest.length < x.length := by
  have hdescribes := matchAt_assignment x
  rw [h] at hdescribes
  obtain ⟨g, hmatch, -⟩ := hdescribes
  have hread : 0 < assignment.least := by decide
  have hlen := length_of_matchAt hmatch
  omega

lemma Hides.suffixes (h : Hides x f) : f.start <:+ x ∧ f.rest <:+ f.start := by
  induction h with
  | here hfront hat hkey =>
    exact ⟨(assignmentAt_suffix hat).1.trans (List.suffix_append _ _), (assignmentAt_suffix hat).2⟩
  | later hfront hat hkey hrest ih =>
    have hbehind := (assignmentAt_suffix hat).2.trans (assignmentAt_suffix hat).1
    exact ⟨(ih.1.trans hbehind).trans (List.suffix_append _ _), ih.2⟩

lemma Hides.length (h : Hides x f) : f.rest.length < x.length := by
  induction h with
  | here hfront hat hkey =>
    have hlen := assignmentAt_length hat
    rw [List.length_append]
    omega
  | later hfront hat hkey hrest ih =>
    have hlen := assignmentAt_length hat
    rw [List.length_append]
    omega

/-- What stays behind a mark is the end of the text. -/
lemma Hides.left_suffix (h : Hides x f) : f.left.1 ++ f.left.2 <:+ x := by
  refine List.IsSuffix.trans ?_ h.suffixes.1
  rw [← Found.value_append h.suffixes.2]
  exact List.suffix_append_self_iff.mpr (trailingBlanks_suffix f.value)

/-- The preview of a text up to the first value that is hidden. -/
lemma redactAssignments_of_hides (h : Hides x f) (hx : x = shown ++ f.start)
    (hcomment : NoComment x) : redactAssignments x =
      shown ++ redacted f.quotedKey f.value ++ (f.left.1 ++ redactAssignments f.left.2) := by
  induction h generalizing shown with
  | @here front x f hfront hat hkey =>
    have hsuffixes := assignmentAt_suffix hat
    obtain ⟨lead, rfl⟩ := hsuffixes.1
    have hvalue : f.value <:+: front ++ (lead ++ f.start) := by
      rw [← Found.value_append hsuffixes.2]
      exact ⟨front ++ lead, f.rest, by simp⟩
    rw [← List.append_assoc, List.append_cancel_right_eq] at hx
    rw [redactAssignments_at lead f.value hfront hat rfl (Found.value_append hsuffixes.2).symm,
      replacement, if_neg (by simp [hkey]), suffixOf_eq (hcomment.within hvalue), hx]
    simp [Found.left]
  | @later front x f g hfront hat hkey hrest ih =>
    have hsuffixes := assignmentAt_suffix hat
    obtain ⟨lead, rfl⟩ := hsuffixes.1
    obtain ⟨shown', hshown'⟩ := hrest.suffixes.1
    have hvalue := Found.value_append hsuffixes.2
    have hrestComment : NoComment f.rest := by
      refine hcomment.within (List.IsSuffix.isInfix ?_)
      exact (hsuffixes.2.trans (List.suffix_append lead _)).trans (List.suffix_append front _)
    have hshown : shown = front ++ lead ++ f.value ++ shown' := by
      rw [← hvalue, ← hshown', ← List.append_assoc, ← List.append_assoc, ← List.append_assoc,
        List.append_cancel_right_eq] at hx
      exact hx.symm
    rw [redactAssignments_at lead f.value hfront hat rfl hvalue.symm, replacement, if_pos hkey,
      ih hshown'.symm hrestComment, hshown]
    simp

/-- A text in which nothing is hidden is shown as it is. -/
lemma redactAssignments_of_bare (h : Bare x) : redactAssignments x = x := by
  induction hlen : x.length using Nat.strong_induction_on generalizing x with
  | _ n ih =>
    cases hsearch : search assignment x with
    | none => exact redactAssignments_of_search hsearch
    | some found =>
      obtain ⟨y, rfl, hbefore, hmatch⟩ := search_some hsearch
      obtain ⟨f, hat⟩ := assignmentAt_of_matchAt hmatch
      obtain ⟨⟨lead, rfl⟩, hrest⟩ := assignmentAt_suffix hat
      have hvalue := Found.value_append hrest
      have hkey : isSensitiveKey f.key = false := by
        by_contra hsensitive
        exact h f (.here hbefore hat (by simpa using hsensitive))
      have hbehind : Bare f.rest := fun g hg => h g (.later hbefore hat hkey hg)
      have hshort : f.rest.length < n := by
        have hstep := assignmentAt_length hat
        rw [← hlen, List.length_append]
        omega
      rw [redactAssignments_at lead f.value hbefore hat rfl hvalue.symm, replacement, if_pos hkey,
        ih _ hshort hbehind rfl, List.append_assoc, hvalue, List.append_assoc]

/-- The character in front of a value that is hidden is a separator or a blank. -/
lemma Hides.shown_ends (h : Hides (shown ++ f.start) f) :
    ∃ before c, shown = before ++ [c] ∧ c ≠ quote := by
  obtain ⟨x, hx⟩ : ∃ x, x = shown ++ f.start := ⟨_, rfl⟩
  rw [← hx] at h
  induction h generalizing shown with
  | @here front x f hfront hat hkey =>
    obtain ⟨before, c, rfl, hc⟩ := assignmentAt_lead hat
    refine ⟨front ++ before, c, ?_, hc⟩
    have hbytes : front ++ (before ++ c :: f.start) = front ++ before ++ [c] ++ f.start := by simp
    exact (List.append_cancel_right (hbytes.symm.trans hx)).symm
  | @later front x f g hfront hat hkey hrest ih =>
    obtain ⟨shown', hshown'⟩ := hrest.suffixes.1
    obtain ⟨before, c, hbefore, hc⟩ := ih hshown'.symm
    obtain ⟨lead, hlead⟩ := (assignmentAt_suffix hat).2.trans (assignmentAt_suffix hat).1
    refine ⟨front ++ lead ++ before, c, ?_, hc⟩
    have hbytes : front ++ x = front ++ lead ++ before ++ [c] ++ g.start := by
      rw [← hlead, ← hshown', hbefore]
      simp
    exact (List.append_cancel_right (hbytes.symm.trans hx)).symm

/-! ## Texts that are shown alike -/

/-- What a preview makes of a text whose first part stays as it is. -/
def shownText (a : Bytes × Bytes) : Bytes := a.1 ++ redactAssignments a.2

lemma redacted_inQuotes (h : f.InQuotes) :
    redacted f.quotedKey f.value = [quote] ++ marker ++ [quote] := by
  exact if_pos h

lemma redacted_plain (h : ¬f.InQuotes) : redacted f.quotedKey f.value = marker := by
  exact if_neg h

lemma redacted_alike (h : f.InQuotes ↔ g.InQuotes) :
    redacted f.quotedKey f.value = redacted g.quotedKey g.value := by
  by_cases hf : f.InQuotes
  · rw [redacted_inQuotes hf, redacted_inQuotes (h.mp hf)]
  · rw [redacted_plain hf, redacted_plain fun hg => hf (h.mpr hg)]

lemma shownText_of_hides (h : Hides (shown ++ f.start) f)
    (hcomment : NoComment (shown ++ f.start)) : shownText (kept, shown ++ f.start) =
      kept ++ shown ++ (redacted f.quotedKey f.value ++ shownText f.left) := by
  rw [shownText, redactAssignments_of_hides h rfl hcomment]
  simp [shownText]

lemma Hides.noComment (h : Hides x f) (hcomment : NoComment x) : NoComment f.left.2 :=
  hcomment.within ((List.suffix_append f.left.1 f.left.2).trans h.left_suffix).isInfix

/-- Texts that differ in hidden values only have one preview. -/
theorem ShownAlike.shownText_eq (h : ShownAlike a b) (ha : NoComment a.2) (hb : NoComment b.2) :
    shownText a = shownText b := by
  induction h with
  | bare hx hy hsame =>
    simp only [shownText, redactAssignments_of_bare hx, redactAssignments_of_bare hy, hsame]
  | hidden hx hy hsame hquotes hleft ih =>
    rw [shownText_of_hides hx ha, shownText_of_hides hy hb, hsame, redacted_alike hquotes,
      ih (hx.noComment ha) (hy.noComment hb)]

lemma hides_or_bare (x : Bytes) : (∃ shown f, x = shown ++ f.start ∧ Hides x f) ∨ Bare x := by
  by_cases h : ∃ f, Hides x f
  · obtain ⟨f, hf⟩ := h
    obtain ⟨shown, hshown⟩ := hf.suffixes.1
    exact .inl ⟨shown, f, hshown.symm, hf⟩
  · exact .inr fun f hf => h ⟨f, hf⟩

theorem ShownAlike.refl (a : Bytes × Bytes) : ShownAlike a a := by
  induction hlen : a.2.length using Nat.strong_induction_on generalizing a with
  | _ n ih =>
    obtain ⟨kept, x⟩ := a
    rcases hides_or_bare x with ⟨shown, f, rfl, hf⟩ | hx
    · exact .hidden hf hf rfl Iff.rfl (ih _ (hlen ▸ hf.length) f.left rfl)
    · exact .bare hx hx rfl

lemma Hides.separator_mem (h : Hides x f) : ∃ c ∈ x, isSeparator c = true := by
  induction h with
  | here hfront hat hkey =>
    obtain ⟨c, hc, hsep⟩ := assignmentAt_separator hat
    exact ⟨c, List.mem_append_right _ hc, hsep⟩
  | later hfront hat hkey hrest ih =>
    obtain ⟨c, hc, hsep⟩ := assignmentAt_separator hat
    exact ⟨c, List.mem_append_right _ hc, hsep⟩

/-- Texts without a colon or an equals sign are shown alike only when they are the same. -/
theorem shownAlike_iff_of_no_separator (ha : ∀ c ∈ a.2, isSeparator c = false)
    (hb : ∀ c ∈ b.2, isSeparator c = false) : ShownAlike a b ↔ a.1 ++ a.2 = b.1 ++ b.2 := by
  have hbare : ∀ {x : Bytes}, (∀ c ∈ x, isSeparator c = false) → Bare x := by
    intro x hx f hf
    obtain ⟨c, hc, hsep⟩ := hf.separator_mem
    rw [hx c hc] at hsep
    cases hsep
  constructor
  · intro h
    cases h with
    | bare hx hy hsame => exact hsame
    | hidden hx hy hsame hquotes hleft => exact absurd hx (hbare ha _)
  · exact fun h => .bare (hbare ha) (hbare hb) h

/-! ## The marks in a preview -/

/-- The mark, with its quotes, tells where the text in front of it ends. -/
lemma marker_inj (hf : ¬marker <:+: shown) (hg : ¬marker <:+: shown')
    (h : shown ++ marker ++ x = shown' ++ marker ++ y) : shown = shown' ∧ x = y := by
  have hcut : ∀ {shown : Bytes}, ¬marker <:+: shown → ∀ x,
      cut marker (shown ++ marker ++ x) = some (shown, x) := by
    intro shown hshown x
    have hown : (91 : UInt8) ∉ ascii "REDACTED]" := by decide +kernel
    rw [List.append_assoc]
    exact cut_append_of_not_infix hown hshown x
  have hsame := (hcut hf x).symm.trans ((congrArg (cut marker) h).trans (hcut hg y))
  exact Prod.mk.inj (Option.some.inj hsame)

lemma marker_not_infix_quote (h : ¬marker <:+: x) : ¬marker <:+: x ++ [quote] := by
  rw [List.infix_concat_iff, not_or]
  refine ⟨?_, h⟩
  rintro ⟨front, hfront⟩
  have hmarker : marker = ascii "[REDACTED" ++ [93] := by decide +kernel
  rw [hmarker, ← List.append_assoc] at hfront
  have hlast := (List.append_inj' hfront rfl).2
  exact absurd hlast (by decide)

/-- Marks in two texts have quotes alike when all in front of them is the same. -/
lemma marks_inj (hx : Hides (shown ++ f.start) f) (hy : Hides (shown' ++ g.start) g)
    (hf : ¬marker <:+: kept ++ shown) (hg : ¬marker <:+: kept' ++ shown')
    (h : kept ++ shown ++ (redacted f.quotedKey f.value ++ x) =
      kept' ++ shown' ++ (redacted g.quotedKey g.value ++ y)) :
    kept ++ shown = kept' ++ shown' ∧ (f.InQuotes ↔ g.InQuotes) ∧ x = y := by
  obtain ⟨before, c, hshown, hc⟩ := hx.shown_ends
  obtain ⟨before', c', hshown', hc'⟩ := hy.shown_ends
  by_cases hquotes : f.InQuotes
  · by_cases hquotes' : g.InQuotes
    · rw [redacted_inQuotes hquotes, redacted_inQuotes hquotes'] at h
      have hmarks : kept ++ shown ++ [quote] ++ marker ++ (quote :: x) =
          kept' ++ shown' ++ [quote] ++ marker ++ (quote :: y) := by
        simpa using h
      obtain ⟨hfront, hbehind⟩ :=
        marker_inj (marker_not_infix_quote hf) (marker_not_infix_quote hg) hmarks
      exact ⟨List.append_cancel_right hfront, iff_of_true hquotes hquotes',
        (List.cons.inj hbehind).2⟩
    · rw [redacted_inQuotes hquotes, redacted_plain hquotes'] at h
      have hmarks : kept ++ shown ++ [quote] ++ marker ++ (quote :: x) =
          kept' ++ shown' ++ marker ++ y := by
        simpa using h
      have hfront := (marker_inj (marker_not_infix_quote hf) hg hmarks).1
      rw [hshown', ← List.append_assoc] at hfront
      exact absurd (List.cons.inj (List.append_inj' hfront rfl).2).1.symm hc'
  · by_cases hquotes' : g.InQuotes
    · rw [redacted_plain hquotes, redacted_inQuotes hquotes'] at h
      have hmarks : kept ++ shown ++ marker ++ x =
          kept' ++ shown' ++ [quote] ++ marker ++ (quote :: y) := by
        simpa using h
      have hfront := (marker_inj hf (marker_not_infix_quote hg) hmarks).1
      rw [hshown, ← List.append_assoc] at hfront
      exact absurd (List.cons.inj (List.append_inj' hfront rfl).2).1 hc
    · rw [redacted_plain hquotes, redacted_plain hquotes', ← List.append_assoc,
        ← List.append_assoc] at h
      obtain ⟨hfront, hbehind⟩ := marker_inj hf hg h
      exact ⟨hfront, iff_of_false hquotes hquotes', hbehind⟩

/-- A mark in a preview is one of the text, or stands for a value that is hidden. -/
lemma marker_infix_shownText (h : Hides (shown ++ f.start) f)
    (hcomment : NoComment (shown ++ f.start)) :
    marker <:+: shownText (kept, shown ++ f.start) := by
  rw [shownText_of_hides h hcomment]
  by_cases hquotes : f.InQuotes
  · rw [redacted_inQuotes hquotes]
    exact ⟨kept ++ shown ++ [quote], [quote] ++ shownText f.left, by simp⟩
  · rw [redacted_plain hquotes]
    exact ⟨kept ++ shown, shownText f.left, by simp⟩

/-- Texts without the mark differ in hidden values only when they have one preview. -/
theorem shownAlike_of_shownText_eq (ha : NoComment a.2) (hb : NoComment b.2)
    (hma : ¬marker <:+: a.1 ++ a.2) (hmb : ¬marker <:+: b.1 ++ b.2)
    (h : shownText a = shownText b) : ShownAlike a b := by
  induction hlen : a.2.length using Nat.strong_induction_on generalizing a b with
  | _ n ih =>
    obtain ⟨kept, x⟩ := a
    obtain ⟨kept', y⟩ := b
    rcases hides_or_bare x with ⟨shown, f, rfl, hf⟩ | hx
    · rcases hides_or_bare y with ⟨shown', g, rfl, hg⟩ | hy
      · have hfront : ∀ {kept shown start : Bytes}, ¬marker <:+: kept ++ (shown ++ start) →
            ¬marker <:+: kept ++ shown := by
          intro kept shown start hno hinside
          rw [← List.append_assoc] at hno
          exact hno (hinside.trans (List.prefix_append _ start).isInfix)
        have hbehind : ∀ {kept x : Bytes} {f : Found}, Hides x f → ¬marker <:+: kept ++ x →
            ¬marker <:+: f.left.1 ++ f.left.2 := by
          intro kept x f hhides hno hinside
          exact hno (hinside.trans (hhides.left_suffix.trans (List.suffix_append kept x)).isInfix)
        rw [shownText_of_hides hf ha, shownText_of_hides hg hb] at h
        obtain ⟨hsame, hquotes, hleft⟩ := marks_inj hf hg (hfront hma) (hfront hmb) h
        refine .hidden hf hg hsame hquotes ?_
        exact ih _ (hlen ▸ hf.length) (hf.noComment ha) (hg.noComment hb) (hbehind hf hma)
          (hbehind hg hmb) hleft rfl
      · have hplain : shownText (kept', y) = kept' ++ y := by
          rw [shownText, redactAssignments_of_bare hy]
        exact absurd (hplain ▸ h ▸ marker_infix_shownText hf ha) hmb
    · have hplain : shownText (kept, x) = kept ++ x := by
        rw [shownText, redactAssignments_of_bare hx]
      rcases hides_or_bare y with ⟨shown', g, rfl, hg⟩ | hy
      · exact absurd (hplain ▸ h.symm ▸ marker_infix_shownText hg hb) hma
      · refine .bare hx hy ?_
        rw [← hplain, h, shownText, redactAssignments_of_bare hy]

end
end ArtemisSwitch.VpnConfig

import ArtemisSwitch.VpnConfigPieces

/-!
# Secrets in a preview

Two configurations that differ in the value of one assignment, and when their previews do not.
-/

namespace ArtemisSwitch.VpnConfig
open Regex HostAddress HostStore

/-! ## An assignment in a line of its own -/

/-- A blank that does not end the line. -/
def isBlank (c : UInt8) : Bool := isspace c && c ≠ newline

/-- A key without quotes. -/
structure IsText (key : Bytes) : Prop where
  ne_nil : key ≠ []
  plain : ∀ c ∈ key, c ≠ quote ∧ isSeparator c = false ∧ c ≠ newline
  first : ∀ c ∈ key.head?, isspace c = false ∧ c ≠ 35 ∧ c ≠ 59
  last : ∀ c ∈ key.getLast?, isspace c = false

def IsQuoted (key : Bytes) : Prop :=
  ∃ name, key = quote :: (name ++ [quote]) ∧ name ≠ [] ∧ quote ∉ name ∧ newline ∉ name

/-- A value without line breaks, comment markers and blanks around it. -/
structure IsValue (v : Bytes) : Prop where
  in_line : newline ∉ v
  first : ∀ c ∈ v.head?, isspace c = false
  last : ∀ c ∈ v.getLast?, isspace c = false
  no_hash : ¬ascii " #" <:+: v
  no_semicolon : ¬ascii " ;" <:+: v

/-- A line `key = value` or `key: value`, which may be indented and may end in CR LF. -/
structure Setting where
  indent : Bytes
  key : Bytes
  before : Bytes
  separator : UInt8
  gap : Bytes
  blank : UInt8
  ending : Bytes
  key_ok : IsText key ∨ IsQuoted key
  blanks : ∀ c ∈ indent ++ before ++ gap, isBlank c = true
  separator_ok : isSeparator separator = true
  blank_ok : isBlank blank = true ∧ blank ≠ carriageReturn
  ending_ok : ending = [] ∨ ending = [carriageReturn]

/-- What is in front of the value but for the last blank. -/
def Setting.front (s : Setting) : Bytes := s.indent ++ s.key ++ s.before ++ s.separator :: s.gap

def Setting.line (s : Setting) (v : Bytes) : Bytes := s.front ++ s.blank :: (v ++ s.ending)

/-! ## What the code takes for the key and for the value -/

/-- The longest name that a text ends with. -/
def lastName : Bytes → Option Bytes
  | [] => none
  | c :: t => if isNameStart c && t.all isNameChar then some (c :: t) else lastName t

/-- The key that the pattern finds, and whether it is in quotes. -/
def codeKey (key : Bytes) : Option (Bool × Bytes) :=
  if key.head? = some quote then some (true, key.tail.dropLast)
  else (lastName key).map fun name => (false, name)

/-- Nothing of the value can be taken for one. -/
def missing (v : Bytes) : Bool := v.head?.all isStop

/-- What is behind the part of a value that is taken for the value. -/
def valueRest : Bytes → Bytes
  | [] => []
  | c :: x => (if c = quote then quotedEnd false x else none).getD
      ((c :: x).dropWhile fun c => !isStop c)

def hiddenPart (v : Bytes) : Bytes := v.take (v.length - (valueRest v).length)

namespace Setting

/-- What stays of a value that is hidden: its last blanks as they are, and what is behind it. -/
def left (s : Setting) (v : Bytes) : Bytes × Bytes :=
  (trailingBlanks (hiddenPart v), valueRest v ++ s.ending)

/-- What stays of a value that is not. -/
def shown (s : Setting) (v : Bytes) : Bytes × Bytes := (hiddenPart v, valueRest v ++ s.ending)

/-- Two values begin alike for the code: both are missing or neither is, and a quote in front
is seen unless the key has quotes. -/
def OpenAlike (quotedKey : Bool) (v w : Bytes) : Prop :=
  missing v = missing w ∧
    (missing v = true ∨ quotedKey = true ∨ (v.head? = some quote ↔ w.head? = some quote))

/-- What stays of two values is alike; the value is hidden when the key that the pattern finds is
sensitive. -/
def Alike (s : Setting) (R : Bytes × Bytes → Bytes × Bytes → Prop) (v w : Bytes) : Prop :=
  match codeKey s.key with
  | none => R ([], v ++ s.ending) ([], w ++ s.ending)
  | some (quotedKey, key) =>
    if isSensitiveKey key then OpenAlike quotedKey v w ∧ R (s.left v) (s.left w)
    else R (s.shown v) (s.shown w)

/-- What stays of two values differs in hidden values of its own only. -/
def HidesAlike (s : Setting) (v w : Bytes) : Prop := s.Alike ShownAlike v w

end Setting

/-! ## Where no assignment starts -/

section
variable {x u tail front v w : Bytes} {c : UInt8}

lemma not_isNameChar_of_isspace (h : isspace c = true) : isNameChar c = false := by
  by_contra hname
  rw [not_isspace_of_isNameChar (by simpa using hname)] at h
  cases h

lemma not_isNameChar_of_isSeparator (h : isSeparator c = true) : isNameChar c = false := by
  by_contra hname
  rw [not_isSeparator_of_isNameChar (by simpa using hname)] at h
  cases h

lemma isNameChar_of_isNameStart (h : isNameStart c = true) : isNameChar c = true := by
  simp only [isNameStart, isNameChar, isalnum, Bool.or_eq_true] at h ⊢
  tauto

lemma not_isNameStart (h : isNameChar c = false) : isNameStart c = false := by
  by_contra hstart
  rw [isNameChar_of_isNameStart (by simpa using hstart)] at h
  cases h

lemma assignmentAt_of_plain (hquote : c ≠ quote) (hname : isNameStart c = false) :
    assignmentAt (c :: x) = none := by
  simp [assignmentAt, hquote, hname]

lemma noStart_of_plain (h : ∀ c ∈ front, c ≠ quote ∧ isNameStart c = false) :
    NoStart assignment front x := by
  rintro y c z rfl
  have hc := h c (by simp)
  exact matchAt_of_none (assignmentAt_of_plain hc.1 hc.2)

/-- A text that ends in neither a blank nor a separator has no separator behind it. -/
lemma separatorEnd_of_text (hne : x ≠ []) (hplain : ∀ c ∈ x, isSeparator c = false)
    (hlast : ∀ c ∈ x.getLast?, isspace c = false) : separatorEnd (x ++ tail) = none := by
  have hblanks : x.dropWhile isspace ≠ [] := by
    intro hall
    have hspace := List.dropWhile_eq_nil_iff.mp hall _ (List.getLast_mem hne)
    rw [hlast _ (List.getLast?_eq_some_getLast hne)] at hspace
    cases hspace
  obtain ⟨c, y, hy⟩ := List.exists_cons_of_ne_nil hblanks
  have hc : c ∈ x := (List.dropWhile_suffix isspace).subset (by simp [hy])
  rw [separatorEnd, List.dropWhile_append, hy]
  simp [hplain c hc]

/-- A name that is not the end of its text is no key. -/
lemma assignmentAt_of_text (hquote : c ≠ quote) (hplain : ∀ d ∈ x, isSeparator d = false)
    (hlast : ∀ d ∈ x.getLast?, isspace d = false)
    (hname : (isNameStart c && x.all isNameChar) = false) :
    assignmentAt (c :: (x ++ tail)) = none := by
  by_cases hstart : isNameStart c = true
  · have hrest : x.dropWhile isNameChar ≠ [] := by
      intro hall
      rw [List.dropWhile_eq_nil_iff] at hall
      simp [hstart] at hname
      obtain ⟨d, hd, hbad⟩ := hname
      rw [hall d hd] at hbad
      cases hbad
    have hsuffix := List.dropWhile_suffix isNameChar (l := x)
    have hsep : separatorEnd (x.dropWhile isNameChar ++ tail) = none := by
      refine separatorEnd_of_text hrest (fun d hd => hplain d (hsuffix.subset hd)) fun d hd => ?_
      refine hlast d ?_
      obtain ⟨first, hfirst⟩ := hsuffix
      rw [← hfirst, List.getLast?_append_of_ne_nil _ hrest]
      exact hd
    have hdrop : (x ++ tail).dropWhile isNameChar = x.dropWhile isNameChar ++ tail := by
      rw [List.dropWhile_append]
      simp [hrest]
    simp [assignmentAt, hquote, hstart, valueBehind, hdrop, hsep]
  · exact assignmentAt_of_plain hquote (by simpa using hstart)

/-- In a key without quotes nothing is found in front of its last name. -/
lemma noStart_text {key : Bytes} (tail : Bytes)
    (hplain : ∀ c ∈ key, c ≠ quote ∧ isSeparator c = false)
    (hlast : ∀ c ∈ key.getLast?, isspace c = false) :
    match lastName key with
    | none => NoStart assignment key tail
    | some name => ∃ junk, key = junk ++ name ∧ NoStart assignment junk (name ++ tail) := by
  induction key with
  | nil => exact .nil
  | cons c t ih =>
    unfold lastName
    by_cases hname : (isNameStart c && t.all isNameChar) = true
    · rw [if_pos hname]
      exact ⟨[], rfl, .nil⟩
    · have hlater : ∀ d ∈ t.getLast?, isspace d = false := by
        intro d hd
        cases t with
        | nil => cases hd
        | cons e t => exact hlast d (by simpa using hd)
      have hhere : ∀ tail, matchAt assignment (c :: (t ++ tail)) = none := fun tail =>
        matchAt_of_none (assignmentAt_of_text (hplain c (by simp)).1
          (fun d hd => (hplain d (by simp [hd])).2) hlater (by simpa using hname))
      have ih := ih (fun d hd => hplain d (by simp [hd])) hlater
      rw [if_neg hname]
      cases hfound : lastName t with
      | none =>
        rw [hfound] at ih
        exact .cons (hhere tail) ih
      | some name =>
        rw [hfound] at ih
        obtain ⟨junk, rfl, hjunk⟩ := ih
        exact ⟨c :: junk, rfl, .cons (by simpa using hhere tail) hjunk⟩

lemma lastName_some {key name : Bytes} (h : lastName key = some name) :
    ∃ c t, name = c :: t ∧ isNameStart c = true ∧ ∀ d ∈ t, isNameChar d = true := by
  induction key with
  | nil => cases h
  | cons c t ih =>
    unfold lastName at h
    split_ifs at h with hname
    · cases h
      simp only [Bool.and_eq_true, List.all_eq_true] at hname
      exact ⟨c, t, rfl, hname.1, hname.2⟩
    · exact ih h

/-! ## The value behind a key -/

lemma quotedEnd_append {ending : Bytes} (h : ending = [] ∨ ending = [carriageReturn])
    (escaped : Bool) :
    quotedEnd escaped (x ++ ending) = (quotedEnd escaped x).map (· ++ ending) := by
  rcases h with rfl | rfl
  · cases hend : quotedEnd escaped x <;> simp [hend]
  · induction x generalizing escaped with
    | nil => cases escaped <;> rfl
    | cons c x ih =>
      cases escaped with
      | true =>
        rw [List.cons_append, quotedEnd, quotedEnd, ih]
        split_ifs <;> rfl
      | false =>
        rw [List.cons_append, quotedEnd, quotedEnd, ih]
        split_ifs <;> rfl

lemma dropWhile_append_ending {ending : Bytes} (h : ending = [] ∨ ending = [carriageReturn]) :
    (x ++ ending).dropWhile (fun c => !isStop c) = x.dropWhile (fun c => !isStop c) ++ ending := by
  rw [List.dropWhile_append]
  split_ifs with hall
  · rw [List.isEmpty_iff] at hall
    rcases h with rfl | rfl
    · simp [hall]
    · rw [hall]
      rfl
  · rfl

/-- A value that is not missing ends where its rest begins. -/
lemma valueEnd_of_value {ending : Bytes} (h : ending = [] ∨ ending = [carriageReturn])
    (hv : missing v = false) : valueEnd (v ++ ending) = some (valueRest v ++ ending) := by
  cases v with
  | nil => cases hv
  | cons c x =>
    have hstop : isStop c = false := by simpa [missing] using hv
    rw [List.cons_append, valueEnd, valueRest, quotedEnd_append h, dropWhile_append_ending h,
      List.dropWhile_cons_of_pos (by simp [hstop])]
    by_cases hquote : c = quote
    · subst hquote
      cases quotedEnd false x <;> simp [hstop]
    · simp [hquote, hstop]

lemma valueRest_of_missing (hv : missing v = true) : valueRest v = v := by
  cases v with
  | nil => rfl
  | cons c x =>
    have hstop : isStop c = true := by simpa [missing] using hv
    have hquote : c ≠ quote := by
      rintro rfl
      cases hstop
    simp [valueRest, hquote, hstop]

lemma hiddenPart_of_missing (hv : missing v = true) : hiddenPart v = [] := by
  simp [hiddenPart, valueRest_of_missing hv]

lemma valueRest_suffix (v : Bytes) : valueRest v <:+ v := by
  cases v with
  | nil => exact List.suffix_rfl
  | cons c x =>
    rw [valueRest]
    cases hend : (if c = quote then quotedEnd false x else none) with
    | none => exact List.dropWhile_suffix _
    | some y =>
      split_ifs at hend
      exact (quotedEnd_suffix hend).trans (List.suffix_cons c x)

lemma hiddenPart_append (v : Bytes) : hiddenPart v ++ valueRest v = v := by
  have hsuffix := valueRest_suffix v
  rw [hiddenPart]
  generalize valueRest v = rest at hsuffix ⊢
  obtain ⟨first, rfl⟩ := hsuffix
  simp

/-- What is taken for a value starts where the value does. -/
lemma head_hiddenPart (hv : missing v = false) : (hiddenPart v).head? = v.head? := by
  cases v with
  | nil => cases hv
  | cons c x =>
    have hstop : isStop c = false := by simpa [missing] using hv
    have hrest : (valueRest (c :: x)).length ≤ x.length := by
      rw [valueRest, List.dropWhile_cons_of_pos (by simp [hstop])]
      cases hend : (if c = quote then quotedEnd false x else none) with
      | none => exact (List.dropWhile_suffix _).length_le
      | some y =>
        split_ifs at hend
        exact (quotedEnd_suffix hend).length_le
    obtain ⟨n, hn⟩ : ∃ n, (c :: x).length - (valueRest (c :: x)).length = n + 1 :=
      Nat.exists_eq_succ_of_ne_zero (by simp only [List.length_cons]; omega)
    rw [hiddenPart, hn]
    rfl

lemma valueSpan_blanks {blanks : Bytes} {span : Bytes × Bytes}
    (hblanks : ∀ c ∈ blanks, isspace c = true) (h : valueSpan x = some span) :
    valueSpan (blanks ++ x) = some span := by
  induction blanks with
  | nil => exact h
  | cons c blanks ih =>
    rw [List.cons_append, valueSpan, if_pos (hblanks c (by simp)),
      ih fun d hd => hblanks d (by simp [hd])]
    rfl

/-- The last blank is taken for a value that is missing. -/
lemma valueSpan_missing {ending : Bytes} (hending : ending = [] ∨ ending = [carriageReturn])
    (hblank : isBlank c = true ∧ c ≠ carriageReturn) (hfirst : ∀ d ∈ v.head?, isspace d = false)
    (hv : missing v = true) :
    valueSpan (c :: (v ++ ending)) = some (c :: (v ++ ending), v ++ ending) := by
  have hquote : c ≠ quote := by
    rintro rfl
    exact absurd hblank.1 (by decide)
  have hstop : isStop c = false := by
    simp only [isBlank, isspace, isStop, newline, carriageReturn, Bool.and_eq_true,
      Bool.or_eq_true, decide_eq_true_eq, Bool.or_eq_false_iff, decide_eq_false_iff_not, ne_eq,
      UInt8.le_iff_toNat_le, ← UInt8.toNat_inj] at *
    simp only [UInt8.reduceToNat] at *
    omega
  have hspan : valueSpan (v ++ ending) = none := by
    cases v with
    | nil => rcases hending with rfl | rfl <;> rfl
    | cons d v =>
      have hd : isStop d = true := by simpa [missing] using hv
      have hspace : isspace d = false := hfirst d rfl
      have hquote : d ≠ quote := by
        rintro rfl
        cases hd
      simp [valueSpan, valueEnd, hspace, hd, hquote]
  have hdrop : (v ++ ending).dropWhile (fun c => !isStop c) = v ++ ending := by
    rw [dropWhile_append_ending hending]
    cases v with
    | nil => rfl
    | cons d v =>
      have hd : isStop d = true := by simpa [missing] using hv
      simp [hd]
  rw [valueSpan, hspan]
  simp [valueEnd, hquote, hstop, hdrop]

lemma valueSpan_value {ending : Bytes} (hending : ending = [] ∨ ending = [carriageReturn])
    (hfirst : ∀ d ∈ v.head?, isspace d = false) (hv : missing v = false) :
    valueSpan (v ++ ending) = some (v ++ ending, valueRest v ++ ending) := by
  have hend := valueEnd_of_value hending hv
  cases v with
  | nil => cases hv
  | cons c x =>
    rw [List.cons_append] at hend ⊢
    simp [valueSpan, hend, hfirst c rfl]

/-! ## A line with an assignment -/

lemma blank_plain (h : isspace c = true) : c ≠ quote ∧ isNameStart c = false := by
  refine ⟨?_, not_isNameStart (not_isNameChar_of_isspace h)⟩
  rintro rfl
  cases h

lemma separator_plain (h : isSeparator c = true) : c ≠ quote ∧ isNameStart c = false := by
  refine ⟨?_, not_isNameStart (not_isNameChar_of_isSeparator h)⟩
  rintro rfl
  cases h

variable {s : Setting} {quotedKey : Bool} {key : Bytes}

lemma Setting.isspace_of_mem (hc : c ∈ s.indent ++ s.before ++ s.gap) : isspace c = true :=
  (Bool.and_eq_true _ _ ▸ s.blanks c hc).1

lemma Setting.isspace_blank : isspace s.blank = true := (Bool.and_eq_true _ _ ▸ s.blank_ok.1).1

lemma Setting.separatorEnd_tail : separatorEnd (s.before ++ s.separator :: u) = some u := by
  have hsep : isspace s.separator = false := by
    by_contra hspace
    have := not_isSeparator_of_isspace (by simpa using hspace)
    rw [s.separator_ok] at this
    cases this
  rw [separatorEnd, List.dropWhile_append_of_pos fun c hc => s.isspace_of_mem (by simp [hc])]
  simp [hsep, s.separator_ok]

lemma Setting.valueBehind_tail : valueBehind quotedKey key (s.before ++ s.separator :: u) =
    (valueSpan u).map fun span => ⟨quotedKey, key, span.1, span.2⟩ := by
  rw [valueBehind, s.separatorEnd_tail]
  rfl

/-- What follows a key does not go on with its name. -/
lemma Setting.name_ends : (s.before ++ s.separator :: u).takeWhile isNameChar = [] ∧
    (s.before ++ s.separator :: u).dropWhile isNameChar = s.before ++ s.separator :: u := by
  cases hbefore : s.before with
  | nil => simp [not_isNameChar_of_isSeparator s.separator_ok]
  | cons c before =>
    have hspace : isspace c = true := s.isspace_of_mem (by simp [hbefore])
    simp [not_isNameChar_of_isspace hspace]

lemma Setting.assignmentAt_name {t : Bytes} (hc : isNameStart c = true)
    (ht : ∀ d ∈ t, isNameChar d = true) :
    assignmentAt (c :: t ++ (s.before ++ s.separator :: u)) =
      (valueSpan u).map fun span => ⟨false, c :: t, span.1, span.2⟩ := by
  have hquote : c ≠ quote := by
    rintro rfl
    cases hc
  rw [List.cons_append, assignmentAt, if_neg hquote, if_pos hc, List.takeWhile_append_of_pos ht,
    List.dropWhile_append_of_pos ht, s.name_ends.1, s.name_ends.2, List.append_nil,
    s.valueBehind_tail]

lemma Setting.assignmentAt_quoted {name : Bytes} (hne : name ≠ []) (hname : quote ∉ name) :
    assignmentAt (quote :: (name ++ [quote]) ++ (s.before ++ s.separator :: u)) =
      (valueSpan u).map fun span => ⟨true, name, span.1, span.2⟩ := by
  have hall : ∀ d ∈ name, notQuote d = true := by
    rintro d hd
    have hdne : d ≠ quote := fun heq => hname (heq ▸ hd)
    simpa [notQuote] using hdne
  have hend : notQuote quote = false := by decide
  have hbytes : quote :: (name ++ [quote]) ++ (s.before ++ s.separator :: u) =
      quote :: (name ++ quote :: (s.before ++ s.separator :: u)) := by simp
  rw [hbytes, assignmentAt, if_pos rfl, List.takeWhile_append_of_pos hall,
    List.dropWhile_append_of_pos hall, List.dropWhile_cons_of_neg (by simp [hend]),
    List.takeWhile_cons_of_neg (by simp [hend])]
  simp only [List.append_nil, if_neg hne, s.valueBehind_tail]

/-- The key that the pattern finds in a line. -/
lemma Setting.key_found (s : Setting) (u : Bytes) :
    match codeKey s.key with
    | none => NoStart assignment (s.indent ++ s.key) (s.before ++ s.separator :: u)
    | some (quotedKey, key) => ∃ junk mark, s.key = junk ++ mark ∧
        NoStart assignment (s.indent ++ junk) (mark ++ (s.before ++ s.separator :: u)) ∧
        assignmentAt (mark ++ (s.before ++ s.separator :: u)) =
          (valueSpan u).map fun span => ⟨quotedKey, key, span.1, span.2⟩ := by
  have hindent : ∀ x, NoStart assignment s.indent x := fun x =>
    noStart_of_plain fun c hc => blank_plain (s.isspace_of_mem (by simp [hc]))
  rcases s.key_ok with htext | ⟨name, hkey, hne, hname, -⟩
  · have hhead : ¬s.key.head? = some quote := by
      intro hhead
      exact (htext.plain quote (List.mem_of_mem_head? hhead)).1 rfl
    have hstart := noStart_text (s.before ++ s.separator :: u)
      (fun c hc => ⟨(htext.plain c hc).1, (htext.plain c hc).2.1⟩) htext.last
    rw [codeKey, if_neg hhead]
    cases hfound : lastName s.key with
    | none =>
      rw [hfound] at hstart
      exact (hindent _).append hstart
    | some name =>
      rw [hfound] at hstart
      obtain ⟨junk, hkey, hjunk⟩ := hstart
      obtain ⟨c, t, rfl, hc, ht⟩ := lastName_some hfound
      exact ⟨junk, c :: t, hkey, (hindent _).append hjunk, s.assignmentAt_name hc ht⟩
  · have hcode : codeKey s.key = some (true, name) := by
      simp [codeKey, hkey]
    rw [hcode]
    exact ⟨[], s.key, rfl, by simpa using hindent _, hkey ▸ s.assignmentAt_quoted hne hname⟩

/-- What becomes of a line with an assignment. -/
lemma Setting.redactAssignments_line (hv : IsValue v) :
    redactAssignments (s.line v) =
      match codeKey s.key with
      | none => s.front ++ s.blank :: redactAssignments (v ++ s.ending)
      | some (quotedKey, key) => s.front ++
          (if missing v then replacement quotedKey key [s.blank]
            else s.blank :: replacement quotedKey key (hiddenPart v)) ++
          redactAssignments (valueRest v ++ s.ending) := by
  have hfound := s.key_found (s.gap ++ s.blank :: (v ++ s.ending))
  have hgap : ∀ c ∈ s.gap, isspace c = true := fun c hc => s.isspace_of_mem (by simp [hc])
  cases hkey : codeKey s.key with
  | none =>
    rw [hkey] at hfound
    have hrest : NoStart assignment (s.before ++ s.separator :: (s.gap ++ [s.blank]))
        (v ++ s.ending) := by
      refine noStart_of_plain fun c hc => ?_
      simp only [List.mem_append, List.mem_cons, List.not_mem_nil, or_false] at hc
      rcases hc with hc | rfl | hc | rfl
      · exact blank_plain (s.isspace_of_mem (by simp [hc]))
      · exact separator_plain s.separator_ok
      · exact blank_plain (hgap c hc)
      · exact blank_plain s.isspace_blank
    have hkeyless : NoStart assignment (s.indent ++ s.key)
        (s.before ++ s.separator :: (s.gap ++ [s.blank]) ++ (v ++ s.ending)) := by
      simpa using hfound
    have hall := hkeyless.append hrest
    have hline : s.line v = s.indent ++ s.key ++
        (s.before ++ s.separator :: (s.gap ++ [s.blank])) ++ (v ++ s.ending) := by
      simp [line, front]
    rw [hline, redactAssignments_front hall]
    simp [front]
  | some found =>
    obtain ⟨quotedKey, key⟩ := found
    rw [hkey] at hfound
    obtain ⟨junk, mark, hmark, hstart, hat⟩ := hfound
    have hline : s.line v = s.indent ++ junk ++
        (mark ++ (s.before ++ s.separator :: (s.gap ++ s.blank :: (v ++ s.ending)))) := by
      simp [line, front, hmark]
    cases hmissing : missing v with
    | true =>
      have hspan := valueSpan_blanks hgap
        (valueSpan_missing s.ending_ok s.blank_ok hv.first hmissing)
      rw [hspan] at hat
      rw [hline, redactAssignments_at (mark ++ (s.before ++ s.separator :: s.gap)) [s.blank] hstart
        hat (by simp) rfl, valueRest_of_missing hmissing]
      simp [front, hmark]
    | false =>
      have hblanks : ∀ c ∈ s.gap ++ [s.blank], isspace c = true := by
        intro c hc
        rcases List.mem_append.mp hc with hc | hc
        · exact hgap c hc
        · rw [List.mem_singleton.mp hc]
          exact s.isspace_blank
      have hspan := valueSpan_blanks hblanks (valueSpan_value s.ending_ok hv.first hmissing)
      rw [List.append_assoc, List.singleton_append] at hspan
      rw [hspan] at hat
      rw [hline, redactAssignments_at (mark ++ (s.before ++ s.separator :: (s.gap ++ [s.blank])))
        (hiddenPart v) hstart hat (by simp) (by rw [← List.append_assoc, hiddenPart_append])]
      simp [front, hmark]

/-! ## What is written in place of a value -/

lemma IsValue.suffixOf_hidden (hv : IsValue v) :
    suffixOf (hiddenPart v) = trailingBlanks (hiddenPart v) := by
  have hpart : hiddenPart v <:+: v := (List.take_prefix _ v).isInfix
  exact suffixOf_eq ⟨fun h => hv.no_hash (h.trans hpart),
    fun h => hv.no_semicolon (h.trans hpart)⟩

/-- What is put for a value that starts with a quote, or not. -/
lemma redacted_inj {a b : Bytes} (h : redacted quotedKey x ++ a = redacted quotedKey u ++ b) :
    quotedKey = true ∨ (x.head? = some quote ↔ u.head? = some quote) := by
  by_contra hne
  push Not at hne
  obtain ⟨hkey, hquotes⟩ := hne
  have hkey : quotedKey = false := by simpa using hkey
  rcases hquotes with ⟨hx, hu⟩ | ⟨hx, hu⟩
  · simp [redacted, hkey, hx, hu, ascii] at h
  · simp [redacted, hkey, hx, hu, ascii] at h

lemma redacted_congr (h : quotedKey = true ∨ (x.head? = some quote ↔ u.head? = some quote)) :
    redacted quotedKey x = redacted quotedKey u := by
  rcases h with rfl | h
  · simp [redacted]
  · simp only [redacted, h]

/-- What is put for a value does not start with a blank. -/
lemma redacted_ne_blank {a b : Bytes} (h : isspace c = true) :
    redacted quotedKey x ++ a ≠ c :: b := by
  intro heq
  unfold redacted at heq
  split_ifs at heq
  · obtain ⟨rfl, -⟩ := List.cons.inj heq
    exact absurd h (by decide)
  · obtain ⟨rfl, -⟩ := List.cons.inj heq
    exact absurd h (by decide)

/-- What stands for a value whose key is not sensitive is the value itself. -/
lemma kept_of_not_sensitive (hsensitive : isSensitiveKey key = false) (blank : UInt8) (v : Bytes) :
    (if missing v then replacement quotedKey key [blank]
      else blank :: replacement quotedKey key (hiddenPart v)) = blank :: hiddenPart v := by
  cases hmissing : missing v with
  | true => simp [replacement, hsensitive, hiddenPart_of_missing hmissing]
  | false => simp [replacement, hsensitive]

lemma Setting.shownText_left_of_missing (s : Setting) (hmissing : missing v = true) :
    shownText (s.left v) = redactAssignments (valueRest v ++ s.ending) := by
  simp [shownText, left, hiddenPart_of_missing hmissing, trailingBlanks]

/-- The lines of two values are redacted alike. -/
lemma Setting.redactAssignments_line_iff (s : Setting) (hv : IsValue v) (hw : IsValue w) :
    redactAssignments (s.line v) = redactAssignments (s.line w) ↔
      s.Alike (fun a b => shownText a = shownText b) v w := by
  rw [s.redactAssignments_line hv, s.redactAssignments_line hw, Alike]
  cases hkey : codeKey s.key with
  | none => simp [shownText]
  | some found =>
    obtain ⟨quotedKey, key⟩ := found
    simp only [List.append_assoc, List.append_cancel_left_eq]
    cases hsensitive : isSensitiveKey key with
    | false =>
      rw [kept_of_not_sensitive hsensitive, kept_of_not_sensitive hsensitive]
      simp [shown, shownText]
    | true =>
      have hblank := s.isspace_blank
      simp only [replacement, hsensitive, Bool.true_eq_false, ite_false, ite_true, OpenAlike]
      cases hmv : missing v with
      | true =>
        cases hmw : missing w with
        | true =>
          simp [s.shownText_left_of_missing hmv, s.shownText_left_of_missing hmw]
        | false =>
          refine iff_of_false (fun h => ?_) fun h => absurd h.1.1 (by simp)
          simp only [ite_true, Bool.false_eq_true, ite_false, List.append_assoc,
            List.cons_append] at h
          exact redacted_ne_blank hblank h
      | false =>
        cases hmw : missing w with
        | true =>
          refine iff_of_false (fun h => ?_) fun h => absurd h.1.1 (by simp)
          simp only [ite_true, Bool.false_eq_true, ite_false, List.append_assoc,
            List.cons_append] at h
          exact redacted_ne_blank hblank h.symm
        | false =>
          simp only [Bool.false_eq_true, ite_false, List.append_assoc, List.cons_append,
            List.cons.injEq, true_and, false_or, hv.suffixOf_hidden, hw.suffixOf_hidden]
          constructor
          · intro h
            have hopen := redacted_inj h
            rw [redacted_congr hopen, List.append_cancel_left_eq] at h
            rw [head_hiddenPart hmv, head_hiddenPart hmw] at hopen
            exact ⟨hopen, h⟩
          · rintro ⟨hopen, h⟩
            rw [← head_hiddenPart hmv, ← head_hiddenPart hmw] at hopen
            rw [redacted_congr hopen]
            exact congrArg _ h

/-! ## The lines of a configuration -/

/-- A line with an assignment is no comment. -/
lemma Setting.not_isComment (s : Setting) (v : Bytes) : isComment (s.line v) = false := by
  obtain ⟨c, t, hkey, hspace, hhash, hsemicolon⟩ : ∃ c t, s.key = c :: t ∧ isspace c = false ∧
      c ≠ 35 ∧ c ≠ 59 := by
    rcases s.key_ok with htext | ⟨name, hkey, -⟩
    · obtain ⟨c, t, hkey⟩ := List.exists_cons_of_ne_nil htext.ne_nil
      exact ⟨c, t, hkey, htext.first c (by simp [hkey])⟩
    · exact ⟨quote, _, hkey, by decide, by decide, by decide⟩
  have hbytes : s.line v = s.indent ++ c :: (t ++ s.before ++ s.separator :: s.gap ++
      s.blank :: (v ++ s.ending)) := by
    simp [line, front, hkey]
  have hskipped : ¬((c = 32 || c = 9 || c = carriageReturn) = true) := by
    intro hskipped
    have hskipped : (c = 32 ∨ c = 9) ∨ c = carriageReturn := by simpa [or_assoc] using hskipped
    rcases hskipped with (rfl | rfl) | rfl <;> cases hspace
  rw [isComment, hbytes, List.dropWhile_append]
  cases hindent : s.indent.dropWhile fun c => c = 32 || c = 9 || c = carriageReturn with
  | nil => simp [hskipped, hhash, hsemicolon]
  | cons d y =>
    have hd : d ∈ s.indent := (List.dropWhile_suffix _).subset (by rw [hindent]; simp)
    have hblank : isspace d = true := s.isspace_of_mem (by simp [hd])
    have hno : d ≠ 35 ∧ d ≠ 59 := by
      refine ⟨?_, ?_⟩ <;> rintro rfl <;> cases hblank
    simp [hno.1, hno.2]

lemma Setting.newline_notMem_line (s : Setting) (hv : newline ∉ v) : newline ∉ s.line v := by
  have hblanks : newline ∉ s.indent ++ s.before ++ s.gap :=
    fun h => absurd (s.blanks newline h) (by decide)
  have hkey : newline ∉ s.key := by
    rcases s.key_ok with htext | ⟨name, hkey, -, -, hname⟩
    · exact fun h => (htext.plain newline h).2.2 rfl
    · have hquote : newline ≠ quote := by decide
      rw [hkey]
      simp [hname, hquote]
  have hseparator : newline ≠ s.separator := by
    intro h
    exact absurd (h ▸ s.separator_ok) (by decide)
  have hblank : newline ≠ s.blank := by
    intro h
    exact absurd (h ▸ s.blank_ok.1) (by decide)
  have hending : newline ∉ s.ending := by
    rcases s.ending_ok with h | h <;> simp [h, newline, carriageReturn]
  simp only [List.mem_append, not_or] at hblanks
  simp [line, front, hblanks, hkey, hseparator, hblank, hending, hv]

/-- One line of many can be told from the text that they make. -/
lemma intercalate_middle (sep : Bytes) (before after : List Bytes) :
    ∃ front back, ∀ line, sep.intercalate (before ++ line :: after) = front ++ line ++ back := by
  have hback : ∃ back, ∀ line, sep.intercalate (line :: after) = line ++ back := by
    cases after with
    | nil => exact ⟨[], fun line => by simp⟩
    | cons next after =>
      exact ⟨sep ++ sep.intercalate (next :: after), fun line => by simp [List.intercalate]⟩
  obtain ⟨back, hback⟩ := hback
  induction before with
  | nil => exact ⟨[], back, fun line => by simp [hback]⟩
  | cons first before ih =>
    obtain ⟨front, back, ih⟩ := ih
    refine ⟨first ++ sep ++ front, back, fun line => ?_⟩
    cases before with
    | nil => simp_all [List.intercalate]
    | cons next before =>
      have := ih line
      simp_all [List.intercalate]

/-- A line is redacted for itself. -/
lemma redactVpnConfig_line_iff {pre post : Bytes} (hpre : pre = [] ∨ ∃ p, pre = p ++ [newline])
    (hpost : post = [] ∨ ∃ p, post = newline :: p) (hx : newline ∉ x) (hu : newline ∉ u) :
    redactVpnConfig (pre ++ x ++ post) = redactVpnConfig (pre ++ u ++ post) ↔
      redactLine x = redactLine u := by
  obtain ⟨before, hbefore⟩ : ∃ before : List Bytes, ∀ y : Bytes,
      (pre ++ y).splitOn newline = before ++ y.splitOn newline := by
    rcases hpre with rfl | ⟨p, rfl⟩
    · exact ⟨[], fun y => by simp⟩
    · exact ⟨p.splitOn newline, fun y => by
        rw [List.append_assoc, List.singleton_append, List.splitOn_append_cons_self]⟩
  obtain ⟨after, hafter⟩ : ∃ after : List Bytes, ∀ y : Bytes, newline ∉ y →
      (y ++ post).splitOn newline = y :: after := by
    rcases hpost with rfl | ⟨p, rfl⟩
    · exact ⟨[], fun y hy => by rw [List.append_nil, List.splitOn_eq_singleton hy]⟩
    · exact ⟨p.splitOn newline, fun y hy => List.splitOn_append_cons_self_of_not_mem hy _⟩
  obtain ⟨front, back, hlines⟩ :=
    intercalate_middle [newline] (before.map redactLine) (after.map redactLine)
  have hredacted : ∀ y, newline ∉ y →
      redactVpnConfig (pre ++ y ++ post) = front ++ redactLine y ++ back := by
    intro y hy
    rw [redactVpnConfig, List.append_assoc, hbefore, hafter y hy, List.map_append, List.map_cons,
      hlines]
  rw [hredacted x hx, hredacted u hu, List.append_cancel_right_eq, List.append_cancel_left_eq]

/-- A value that is hidden to its end. -/
structure IsPlain (v : Bytes) : Prop where
  ne_nil : v ≠ []
  unquoted : v.head? ≠ some quote
  no_stop : ∀ c ∈ v, isStop c = false

/-! ## Values that are hidden alike -/

/-- What stays of a value is part of it. -/
lemma Setting.stays_infix (s : Setting) (v : Bytes) :
    (s.left v).1 ++ (s.left v).2 <:+: v ++ s.ending ∧
      (s.shown v).1 ++ (s.shown v).2 <:+: v ++ s.ending := by
  have hshown : hiddenPart v ++ (valueRest v ++ s.ending) = v ++ s.ending := by
    rw [← List.append_assoc, hiddenPart_append]
  refine ⟨?_, hshown ▸ List.infix_rfl⟩
  rw [← hshown]
  exact (List.suffix_append_self_iff.mpr (trailingBlanks_suffix (hiddenPart v))).isInfix

lemma Setting.Alike.imp {R R' : Bytes × Bytes → Bytes × Bytes → Prop} (h : s.Alike R v w)
    (himp : ∀ a b, a.1 ++ a.2 <:+: v ++ s.ending → b.1 ++ b.2 <:+: w ++ s.ending → R a b → R' a b) :
    s.Alike R' v w := by
  unfold Alike at h ⊢
  cases hkey : codeKey s.key with
  | none =>
    rw [hkey] at h
    exact himp _ _ List.infix_rfl List.infix_rfl h
  | some found =>
    simp only [hkey] at h ⊢
    split_ifs at h ⊢
    · exact ⟨h.1, himp _ _ (s.stays_infix v).1 (s.stays_infix w).1 h.2⟩
    · exact himp _ _ (s.stays_infix v).2 (s.stays_infix w).2 h

/-- The end of a line brings no text of several characters into it, unless it ends in CR. -/
lemma Setting.infix_ending {part : Bytes} (h : ¬part <:+: v)
    (hpart : part.getLast? ≠ some carriageReturn) : ¬part <:+: v ++ s.ending := by
  rcases s.ending_ok with hnone | hreturn
  · simpa [hnone] using h
  · rw [hreturn, List.infix_concat_iff, not_or]
    refine ⟨?_, h⟩
    rintro ⟨front, hfront⟩
    have hne : part ≠ [] := by
      rintro rfl
      exact h List.nil_infix
    have hlast := congrArg List.getLast? hfront
    rw [List.getLast?_append_of_ne_nil _ hne, List.getLast?_concat] at hlast
    exact hpart hlast

lemma IsValue.noComment (hv : IsValue v) : NoComment (v ++ s.ending) :=
  ⟨s.infix_ending hv.no_hash (by decide +kernel),
    s.infix_ending hv.no_semicolon (by decide +kernel)⟩

/-- Behind a key that the pattern finds to be sensitive, plain values are hidden alike. -/
theorem hidesAlike_of_plain (s : Setting) (hkey : codeKey s.key = some (quotedKey, key))
    (hsensitive : isSensitiveKey key = true) (hv : IsValue v) (hw : IsValue w)
    (hvplain : IsPlain v) (hwplain : IsPlain w) : s.HidesAlike v w := by
  have hplain : ∀ v, IsValue v → IsPlain v → missing v = false ∧ s.left v = ([], s.ending) := by
    intro v hv hplain
    obtain ⟨c, x, rfl⟩ := List.exists_cons_of_ne_nil hplain.ne_nil
    have hquote : c ≠ quote := by simpa using hplain.unquoted
    have hrest : valueRest (c :: x) = [] := by
      simp only [valueRest, if_neg hquote, Option.getD_none, List.dropWhile_eq_nil_iff]
      exact fun d hd => by simp [hplain.no_stop d hd]
    have hend : (c :: x).rdropWhile isspace = c :: x := by
      rw [List.rdropWhile_eq_self_iff]
      intro hne
      simpa using hv.last _ (List.getLast?_eq_some_getLast hne)
    refine ⟨by simpa [missing] using hplain.no_stop c (by simp), ?_⟩
    simp [Setting.left, hiddenPart, hrest, trailingBlanks, hend]
  have hone := hplain v hv hvplain
  have hother := hplain w hw hwplain
  simp only [Setting.HidesAlike, Setting.Alike, hkey, hsensitive, ite_true]
  refine ⟨⟨by rw [hone.1, hother.1], .inr (.inr ?_)⟩, ?_⟩
  · exact iff_of_false hvplain.unquoted hwplain.unquoted
  · rw [hone.2, hother.2]
    exact .refl _

/-- The previews of two configurations that differ in one value agree when both values are hidden
alike, and only then unless the mark stands in a value. -/
theorem redaction_hides_alike (s : Setting) (pre post v w : Bytes)
    (hpre : pre = [] ∨ ∃ p, pre = p ++ [newline]) (hpost : post = [] ∨ ∃ p, post = newline :: p)
    (hv : IsValue v) (hw : IsValue w) :
    (s.HidesAlike v w →
      redactVpnConfig (pre ++ s.line v ++ post) = redactVpnConfig (pre ++ s.line w ++ post)) ∧
    (¬marker <:+: v → ¬marker <:+: w →
      redactVpnConfig (pre ++ s.line v ++ post) = redactVpnConfig (pre ++ s.line w ++ post) →
        s.HidesAlike v w) := by
  have hpreview :
      redactVpnConfig (pre ++ s.line v ++ post) = redactVpnConfig (pre ++ s.line w ++ post) ↔
        s.Alike (fun a b => shownText a = shownText b) v w := by
    rw [redactVpnConfig_line_iff hpre hpost (s.newline_notMem_line hv.in_line)
      (s.newline_notMem_line hw.in_line), redactLine, redactLine, s.not_isComment v,
      s.not_isComment w]
    exact s.redactAssignments_line_iff hv hw
  have hcomment : ∀ {v : Bytes} {a : Bytes × Bytes}, IsValue v → a.1 ++ a.2 <:+: v ++ s.ending →
      NoComment a.2 := by
    intro v a hv hpart
    exact hv.noComment.within ((List.suffix_append a.1 a.2).isInfix.trans hpart)
  have hmark : ∀ {v : Bytes} {a : Bytes × Bytes}, ¬marker <:+: v → a.1 ++ a.2 <:+: v ++ s.ending →
      ¬marker <:+: a.1 ++ a.2 := by
    intro v a hno hpart hinside
    exact s.infix_ending hno (by decide +kernel) (hinside.trans hpart)
  rw [hpreview]
  constructor
  · intro h
    exact h.imp fun a b ha hb halike => halike.shownText_eq (hcomment hv ha) (hcomment hw hb)
  · intro hmv hmw h
    exact h.imp fun a b ha hb hsame => shownAlike_of_shownText_eq (hcomment hv ha) (hcomment hw hb)
      (hmark hmv ha) (hmark hmw hb) hsame

end

/-- `PrivateKey = ` -/
def privateKey : Setting where
  indent := []
  key := ascii "PrivateKey"
  before := [32]
  separator := 61
  gap := []
  blank := 32
  ending := []
  key_ok := .inl ⟨by decide, by decide +kernel, by decide +kernel, by decide +kernel⟩
  blanks := by decide +kernel
  separator_ok := by decide
  blank_ok := by decide
  ending_ok := .inl rfl

lemma isValue_first : IsValue (ascii "dzE4") :=
  ⟨by decide +kernel, by decide +kernel, by decide +kernel, by decide +kernel, by decide +kernel⟩

lemma isValue_second : IsValue (ascii "bjc=") :=
  ⟨by decide +kernel, by decide +kernel, by decide +kernel, by decide +kernel, by decide +kernel⟩

lemma privateKey_found : codeKey privateKey.key = some (false, ascii "PrivateKey") := by
  decide +kernel

theorem redaction_hides_alike_privateKey :
    redactVpnConfig (ascii "[Interface]\n" ++ privateKey.line (ascii "dzE4") ++ ascii "\n") =
        redactVpnConfig (ascii "[Interface]\n" ++ privateKey.line (ascii "bjc=") ++ ascii "\n") ∧
      privateKey.HidesAlike (ascii "dzE4") (ascii "bjc=") := by
  have hboth := redaction_hides_alike privateKey (ascii "[Interface]\n") (ascii "\n")
    (ascii "dzE4") (ascii "bjc=") (.inr ⟨ascii "[Interface]", rfl⟩) (.inr ⟨[], rfl⟩) isValue_first
    isValue_second
  have hsame := hboth.1 (hidesAlike_of_plain privateKey privateKey_found (by decide +kernel)
    isValue_first isValue_second ⟨by decide, by decide, by decide +kernel⟩
    ⟨by decide, by decide, by decide +kernel⟩)
  exact ⟨hsame, hboth.2 (by decide +kernel) (by decide +kernel) hsame⟩

/-- What is behind a comma in a secret is shown. -/
theorem comma_shows_rest :
    isSensitiveKey privateKey.key = true ∧ IsValue (ascii "a,b") ∧ IsValue (ascii "a,c") ∧
      privateKey.line (ascii "a,b") = ascii "PrivateKey = a,b" ∧
      redactVpnConfig (privateKey.line (ascii "a,b")) = ascii "PrivateKey = [REDACTED],b" ∧
      redactVpnConfig (privateKey.line (ascii "a,c")) = ascii "PrivateKey = [REDACTED],c" :=
  ⟨by decide +kernel,
    ⟨by decide +kernel, by decide +kernel, by decide +kernel, by decide +kernel,
      by decide +kernel⟩,
    ⟨by decide +kernel, by decide +kernel, by decide +kernel, by decide +kernel,
      by decide +kernel⟩,
    by decide +kernel, by decide +kernel, by decide +kernel⟩

end ArtemisSwitch.VpnConfig

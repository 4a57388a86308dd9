import ArtemisSwitch.VpnConfigPreview

/-!
# What a preview shows of a value

The pattern of an assignment is read off as a function of the text.  It tells which part of a
value a preview hides, and what of two values is shown.
-/

namespace ArtemisSwitch.VpnConfig
open Regex HostAddress HostStore

/-! ## The pattern as a function -/

/-- What is behind a string in quotes whose first quote has been read; `escaped` says that
the last character was a backslash. -/
def quotedEnd : Bool → Bytes → Option Bytes
  | _, [] => none
  | true, c :: x => if isDot c then quotedEnd false x else none
  | false, c :: x => if c = quote then some x else quotedEnd (c = backslash) x

/-- What is behind a value. -/
def valueEnd : Bytes → Option Bytes
  | [] => none
  | c :: x =>
    (if c = quote then quotedEnd false x else none).or
      (if isStop c then none else some (x.dropWhile fun c => !isStop c))

/-- The text where a value starts and the text behind it; blanks in front of it are not its
own unless it would be empty. -/
def valueSpan : Bytes → Option (Bytes × Bytes)
  | [] => none
  | c :: x =>
    (if isspace c then valueSpan x else none).or
      ((valueEnd (c :: x)).map fun rest => (c :: x, rest))

def separatorEnd (x : Bytes) : Option Bytes :=
  match x.dropWhile isspace with
  | [] => none
  | c :: u => if isSeparator c then some u else none

structure Found where
  quotedKey : Bool
  key : Bytes
  start : Bytes
  rest : Bytes

/-- The value behind a key. -/
def valueBehind (quotedKey : Bool) (key x : Bytes) : Option Found :=
  (separatorEnd x).bind fun u => (valueSpan u).map fun span => ⟨quotedKey, key, span.1, span.2⟩

/-- The assignment at the start of a text. -/
def assignmentAt : Bytes → Option Found
  | [] => none
  | c :: x =>
    if c = quote then
      match x.dropWhile notQuote with
      | [] => none
      | _ :: z =>
        if x.takeWhile notQuote = [] then none
        else valueBehind true (x.takeWhile notQuote) z
    else if isNameStart c then
      valueBehind false (c :: x.takeWhile isNameChar) (x.dropWhile isNameChar)
    else none

section
variable {β : Type} {k : Continuation UInt8 β} {x y u : Bytes} {g : Captures UInt8} {c : UInt8}

lemma not_isSeparator_of_isspace (h : isspace c = true) : isSeparator c = false := by
  simp only [isspace, isSeparator, Bool.or_eq_true, Bool.and_eq_true, decide_eq_true_eq,
    UInt8.le_iff_toNat_le, ← UInt8.toNat_inj, Bool.or_eq_false_iff, decide_eq_false_iff_not] at *
  simp only [UInt8.reduceToNat] at *
  omega

lemma not_isspace_of_isNameChar (h : isNameChar c = true) : isspace c = false := by
  simp only [isspace, isNameChar, isalnum, isalpha, isdigit, Bool.or_eq_true, Bool.and_eq_true,
    decide_eq_true_eq, UInt8.le_iff_toNat_le, ← UInt8.toNat_inj, Bool.or_eq_false_iff,
    Bool.and_eq_false_iff, decide_eq_false_iff_not] at *
  simp only [UInt8.reduceToNat] at *
  omega

lemma not_isSeparator_of_isNameChar (h : isNameChar c = true) : isSeparator c = false := by
  simp only [isSeparator, isNameChar, isalnum, isalpha, isdigit, Bool.or_eq_true,
    Bool.and_eq_true, decide_eq_true_eq, UInt8.le_iff_toNat_le, ← UInt8.toNat_inj,
    Bool.or_eq_false_iff, decide_eq_false_iff_not] at *
  simp only [UInt8.reduceToNat] at *
  omega

/-- A character of a string in quotes. -/
def quotedChar : Pattern UInt8 := .alt (.seq (.one (· = backslash)) (.one isDot)) (.one isPlain)

/-- The closing quote is the first one that is not behind a backslash. -/
lemma run_quoted : run (.star quotedChar) (run (.one (· = quote)) k) x g =
    (quotedEnd false x).bind fun y => k y g := by
  -- what is left behind a backslash starts one character later
  have hboth : ∀ x : Bytes, (∀ g, run (.star quotedChar) (run (.one (· = quote)) k) x g =
      (quotedEnd false x).bind fun y => k y g) ∧
      ∀ n g, x.length < n → run (.one isDot) (fun y g => if y.length < n then
        run (.star quotedChar) (run (.one (· = quote)) k) y g else none) x g =
          (quotedEnd true x).bind fun y => k y g := by
    intro x
    induction x with
    | nil =>
      refine ⟨fun g => ?_, fun n g _ => rfl⟩
      rw [run_star]
      simp [quotedChar, quotedEnd]
    | cons c x ih =>
      refine ⟨fun g => ?_, fun n g hn => ?_⟩
      · rw [run_star]
        by_cases hquote : c = quote
        · subst hquote
          simp [quotedChar, quotedEnd, isPlain, quote, backslash]
        · by_cases hback : c = backslash
          · have hescaped := ih.2 (x.length + 1) g (by omega)
            subst hback
            simpa [quotedChar, quotedEnd, isPlain, quote, backslash] using hescaped
          · have hnext := ih.1 g
            simpa [quotedChar, quotedEnd, isPlain, hquote, hback] using hnext
      · have hshort : x.length < n := by simp at hn; omega
        by_cases hdot : isDot c = true
        · simpa [quotedEnd, hdot, hshort] using ih.1 g
        · simp [quotedEnd, hdot]
  exact (hboth x).1 g

/-- Nothing behind a value makes its match fail. -/
lemma run_value (hk : ∀ y g, (k y g).isSome) :
    run valuePattern k x g = (valueEnd x).bind fun y => k y g := by
  have hplain : run (.plus (.one fun c => !isStop c)) k x g =
      (match x with
        | [] => none
        | c :: x => if isStop c then none else some (x.dropWhile fun c => !isStop c)).bind
          fun y => k y g := by
    rw [run_plus]
    cases x with
    | nil => rfl
    | cons c x =>
      rw [run_one_cons, run_star_one_of_some (hk _ _)]
      by_cases hstop : isStop c = true <;> simp [hstop]
  show (run (.seq (.one (· = quote)) (.seq (.star quotedChar) (.one (· = quote)))) k x g).or
    (run (.plus (.one fun c => !isStop c)) k x g) = _
  rw [hplain]
  cases x with
  | nil => rfl
  | cons c x =>
    simp only [run_seq, run_one_cons, decide_eq_true_eq, run_quoted, valueEnd]
    by_cases hquote : c = quote
    · simp only [hquote, ite_true]
      cases hend : quotedEnd false x with
      | none => simp
      | some y =>
        obtain ⟨b, hb⟩ := Option.isSome_iff_exists.mp (hk y g)
        simp [hb]
    · simp [hquote]

/-- The groups of a match whose separator starts at `x`. -/
def captured (g : Captures UInt8) (x start rest : Bytes) : Captures UInt8 :=
  (g.set 4 ⟨x, start⟩).set 5 ⟨start, rest⟩

/-- What ends a match. -/
def finish : Continuation UInt8 (Captures UInt8 × Bytes) := fun y g => some (g, y)

lemma run_gap : run (.star (.one isspace))
    (fun y g => run (.group 5 valuePattern) finish y (g.set 4 ⟨x, y⟩)) u g =
      (valueSpan u).map fun span => (captured g x span.1 span.2, span.2) := by
  have hvalue : ∀ y g, run (.group 5 valuePattern) finish y (g.set 4 ⟨x, y⟩) =
      (valueEnd y).map fun rest => (captured g x y rest, rest) := by
    intro y g
    rw [run_group, run_value fun _ _ => rfl]
    cases valueEnd y <;> rfl
  induction u with
  | nil =>
    rw [run_star_one_nil, hvalue]
    rfl
  | cons c u ih =>
    rw [run_star_one_cons, ih, hvalue, valueSpan]
    by_cases hspace : isspace c = true
    · cases valueSpan u <;> simp [hspace, Function.comp_def]
    · simp [hspace, Function.comp_def]

/-- What follows the key of a match. -/
def behindKey : Continuation UInt8 (Captures UInt8 × Bytes) :=
  run (.group 4 separatorPattern) (run (.group 5 valuePattern) finish)

lemma behindKey_eq : behindKey x g = (separatorEnd x).bind fun u =>
    (valueSpan u).map fun span => (captured g x span.1 span.2, span.2) := by
  show run (.star (.one isspace)) (run (.one isSeparator) (run (.star (.one isspace)) _)) x g = _
  rw [run_star_one_of_none, separatorEnd]
  · cases x.dropWhile isspace with
    | nil => rfl
    | cons c u =>
      rw [run_one_cons, run_gap]
      by_cases hsep : isSeparator c = true <;> simp [hsep]
  · intro c y hspace
    simp [not_isSeparator_of_isspace hspace]

/-- The match that a function of the text has found. -/
def Describes (result : Option (Captures UInt8 × Bytes)) : Option Found → Prop
  | none => result = none
  | some f => ∃ g, result = some (g, f.rest) ∧ (g 2).isSome = f.quotedKey ∧
      ((g 2).or (g 3)).elim [] Capture.text = f.key ∧ g 5 = some ⟨f.start, f.rest⟩

lemma behindKey_describes {quotedKey : Bool} {key : Bytes} (hquoted : (g 2).isSome = quotedKey)
    (hkey : ((g 2).or (g 3)).elim [] Capture.text = key) :
    Describes (behindKey x g) (valueBehind quotedKey key x) := by
  rw [behindKey_eq, valueBehind]
  cases separatorEnd x with
  | none => rfl
  | some u =>
    cases hspan : valueSpan u with
    | none => simp [hspan, Describes]
    | some span =>
      simp only [Option.bind_some, hspan, Option.map_some]
      exact ⟨_, rfl, by simpa [captured] using hquoted, by simpa [captured] using hkey,
        by simp [captured]⟩

lemma head_dropWhile_quote {e : UInt8} {z : Bytes} (h : x.dropWhile notQuote = e :: z) :
    e = quote := by
  have hhead := List.head?_dropWhile_not notQuote x
  simpa [h, notQuote] using hhead

/-- A name in quotes ends at the next quote. -/
lemma run_quotedName : run (.group 2 (.plus (.one notQuote))) (run (.one (· = quote)) k) x g =
    match x.dropWhile notQuote with
    | [] => none
    | e :: z =>
      if x.takeWhile notQuote = [] then none else k z (g.set 2 ⟨x, e :: z⟩) := by
  rw [run_group, run_plus]
  cases x with
  | nil => rfl
  | cons c x =>
    rw [run_one_cons]
    by_cases hquote : c = quote
    · simp [hquote, notQuote]
    · have hne : notQuote c = true := by simpa [notQuote] using hquote
      rw [if_pos hne, run_star_one_of_none, List.dropWhile_cons_of_pos hne,
        List.takeWhile_cons_of_pos hne]
      · cases hrest : x.dropWhile notQuote with
        | nil => rfl
        | cons e z => simp [head_dropWhile_quote hrest]
      · intro d y hd
        have hd : d ≠ quote := by simpa [notQuote] using hd
        simp [hd]

/-- A name is as long as it can be. -/
lemma run_name (hk : ∀ c y g, isNameChar c = true → k (c :: y) g = none)
    (hc : isNameStart c = true) :
    run (.group 3 (.seq (.one isNameStart) (.star (.one isNameChar)))) k (c :: x) g =
      k (x.dropWhile isNameChar) (g.set 3 ⟨c :: x, x.dropWhile isNameChar⟩) := by
  rw [run_group, run_seq, run_one_cons, if_pos hc, run_star_one_of_none]
  exact fun d y hd => hk d y _ hd

lemma text_takeWhile (p : UInt8 → Bool) (x : Bytes) :
    Capture.text ⟨x, x.dropWhile p⟩ = x.takeWhile p := by
  have hsplit := List.takeWhile_append_dropWhile (p := p) (l := x)
  have hlen := congrArg List.length hsplit
  rw [List.length_append] at hlen
  have htake : x.length - (x.dropWhile p).length = (x.takeWhile p).length := by omega
  show x.take (x.length - (x.dropWhile p).length) = _
  rw [htake]
  exact (List.prefix_iff_eq_take.mp (List.takeWhile_prefix p)).symm

/-- The match at the start of a text is the assignment that is found there. -/
lemma matchAt_assignment (x : Bytes) : Describes (matchAt assignment x) (assignmentAt x) := by
  show Describes (run (.group 1 keyPattern) behindKey x fun _ => none) (assignmentAt x)
  have hname : ∀ c y g, isNameChar c = true →
      behindKey (c :: y) (Captures.set g 1 ⟨x, c :: y⟩) = none := by
    intro c y g hc
    have hsep := not_isSeparator_of_isNameChar hc
    have hspace := not_isspace_of_isNameChar hc
    simp [behindKey_eq, separatorEnd, hspace, hsep]
  rw [run_group]
  cases x with
  | nil => rfl
  | cons c x =>
    rw [keyPattern, run_alt, run_seq, run_one_cons, assignmentAt]
    by_cases hquote : c = quote
    · have hstart : isNameStart quote = false := by decide
      subst hquote
      rw [if_pos (by simp), if_pos rfl, run_seq, run_quotedName]
      have hnone : ∀ k : Continuation UInt8 (Captures UInt8 × Bytes),
          run (.group 3 (.seq (.one isNameStart) (.star (.one isNameChar)))) k (quote :: x)
            (fun _ => none) = none := by
        intro k
        simp [hstart]
      rw [hnone, Option.or_none]
      cases hrest : x.dropWhile notQuote with
      | nil => rfl
      | cons e z =>
        dsimp only
        split_ifs with hempty
        · rfl
        · refine behindKey_describes (by simp) ?_
          have htext := text_takeWhile notQuote x
          rw [hrest] at htext
          simpa using htext
    · have hne : ¬decide (c = quote) = true := by simpa using hquote
      rw [if_neg hne, if_neg hquote, Option.none_or]
      by_cases hstart : isNameStart c = true
      · rw [if_pos hstart, run_name hname hstart]
        have hchar : isNameChar c = true := by
          simp only [isNameStart, isNameChar, isalnum, Bool.or_eq_true] at hstart ⊢
          tauto
        refine behindKey_describes (by simp) ?_
        have htext := text_takeWhile isNameChar (c :: x)
        rw [List.dropWhile_cons_of_pos hchar, List.takeWhile_cons_of_pos hchar] at htext
        simpa using htext
      · rw [if_neg hstart]
        simp [hstart, Describes]

lemma matchAt_of_none (h : assignmentAt x = none) : matchAt assignment x = none := by
  have hdescribes := matchAt_assignment x
  rwa [h] at hdescribes

lemma assignmentAt_of_matchAt {m : Captures UInt8 × Bytes} (h : matchAt assignment x = some m) :
    ∃ f, assignmentAt x = some f := by
  cases hat : assignmentAt x with
  | some f => exact ⟨f, rfl⟩
  | none =>
    rw [matchAt_of_none hat] at h
    cases h

/-! ## Where a value lies in its text -/

lemma quotedEnd_suffix {escaped : Bool} (h : quotedEnd escaped x = some y) : y <:+ x := by
  induction x generalizing escaped with
  | nil => cases h
  | cons c x ih =>
    cases escaped with
    | true =>
      simp only [quotedEnd] at h
      split_ifs at h
      exact (ih h).trans (List.suffix_cons c x)
    | false =>
      simp only [quotedEnd] at h
      split_ifs at h
      · cases h
        exact List.suffix_cons c _
      · exact (ih h).trans (List.suffix_cons c x)

lemma valueEnd_suffix (h : valueEnd x = some y) : y <:+ x := by
  cases x with
  | nil => cases h
  | cons c x =>
    refine List.IsSuffix.trans ?_ (List.suffix_cons c x)
    rcases Option.or_eq_some_iff.mp h with hquoted | ⟨-, hplain⟩
    · split_ifs at hquoted
      exact quotedEnd_suffix hquoted
    · split_ifs at hplain
      cases hplain
      exact List.dropWhile_suffix _

lemma valueSpan_suffix {span : Bytes × Bytes} (h : valueSpan x = some span) :
    span.1 <:+ x ∧ span.2 <:+ span.1 := by
  induction x with
  | nil => cases h
  | cons c x ih =>
    rcases Option.or_eq_some_iff.mp h with hlater | ⟨-, hhere⟩
    · split_ifs at hlater
      exact ⟨(ih hlater).1.trans (List.suffix_cons c x), (ih hlater).2⟩
    · obtain ⟨rest, hrest, rfl⟩ := Option.map_eq_some_iff.mp hhere
      exact ⟨List.suffix_rfl, valueEnd_suffix hrest⟩

lemma separatorEnd_suffix (h : separatorEnd x = some u) : u <:+ x := by
  have hblanks := List.dropWhile_suffix isspace (l := x)
  unfold separatorEnd at h
  split at h
  · cases h
  · rename_i c v heq
    split_ifs at h
    cases h
    rw [heq] at hblanks
    exact (List.suffix_cons c u).trans hblanks

lemma valueBehind_suffix {quotedKey : Bool} {key : Bytes} {f : Found}
    (h : valueBehind quotedKey key x = some f) : f.start <:+ x ∧ f.rest <:+ f.start := by
  obtain ⟨u, hu, h⟩ := Option.bind_eq_some_iff.mp h
  obtain ⟨span, hspan, rfl⟩ := Option.map_eq_some_iff.mp h
  exact ⟨(valueSpan_suffix hspan).1.trans (separatorEnd_suffix hu), (valueSpan_suffix hspan).2⟩

/-- An assignment is a key with a value behind it. -/
lemma valueBehind_of_assignmentAt {f : Found} (h : assignmentAt x = some f) :
    ∃ quotedKey key y, y <:+ x ∧ valueBehind quotedKey key y = some f := by
  cases x with
  | nil => cases h
  | cons c x =>
    rw [assignmentAt] at h
    by_cases hquote : c = quote
    · rw [if_pos hquote] at h
      have hquoted := List.dropWhile_suffix notQuote (l := x)
      cases hrest : x.dropWhile notQuote with
      | nil => simp [hrest] at h
      | cons e z =>
        simp only [hrest] at h hquoted
        split_ifs at h
        have hz : z <:+ c :: x :=
          ((List.suffix_cons e z).trans hquoted).trans (List.suffix_cons c x)
        exact ⟨_, _, z, hz, h⟩
    · rw [if_neg hquote] at h
      split_ifs at h
      exact ⟨_, _, _, (List.dropWhile_suffix _).trans (List.suffix_cons c x), h⟩

lemma assignmentAt_suffix {f : Found} (h : assignmentAt x = some f) :
    f.start <:+ x ∧ f.rest <:+ f.start := by
  obtain ⟨_, _, y, hy, hbehind⟩ := valueBehind_of_assignmentAt h
  exact ⟨(valueBehind_suffix hbehind).1.trans hy, (valueBehind_suffix hbehind).2⟩

/-- A value stands behind its separator or a blank. -/
lemma valueSpan_behind {span : Bytes × Bytes} (h : valueSpan u = some span) :
    ∃ d, d :: span.1 <:+ c :: u ∧ (d = c ∨ isspace d = true) := by
  induction u generalizing c with
  | nil => cases h
  | cons e u ih =>
    rcases Option.or_eq_some_iff.mp h with hlater | ⟨-, hhere⟩
    · split_ifs at hlater with hspace
      obtain ⟨d, hd, hkind⟩ := ih (c := e) hlater
      refine ⟨d, hd.trans (List.suffix_cons c (e :: u)), .inr ?_⟩
      rcases hkind with rfl | hblank
      · exact hspace
      · exact hblank
    · obtain ⟨rest, -, rfl⟩ := Option.map_eq_some_iff.mp hhere
      exact ⟨c, List.suffix_rfl, .inl rfl⟩

lemma separatorEnd_behind (h : separatorEnd x = some u) :
    ∃ c, c :: u <:+ x ∧ isSeparator c = true := by
  have hblanks := List.dropWhile_suffix isspace (l := x)
  unfold separatorEnd at h
  split at h
  · cases h
  · rename_i c v heq
    split_ifs at h with hsep
    cases h
    exact ⟨c, heq ▸ hblanks, hsep⟩

/-- What stands in front of a value is no quote. -/
lemma assignmentAt_lead {f : Found} (h : assignmentAt x = some f) :
    ∃ lead c, x = lead ++ c :: f.start ∧ c ≠ quote := by
  obtain ⟨_, _, y, hy, hbehind⟩ := valueBehind_of_assignmentAt h
  obtain ⟨u, hu, hvalue⟩ := Option.bind_eq_some_iff.mp hbehind
  obtain ⟨span, hspan, rfl⟩ := Option.map_eq_some_iff.mp hvalue
  obtain ⟨c, hc, hsep⟩ := separatorEnd_behind hu
  obtain ⟨d, hd, hkind⟩ := valueSpan_behind (c := c) hspan
  obtain ⟨lead, hlead⟩ := (hd.trans hc).trans hy
  refine ⟨lead, d, hlead.symm, ?_⟩
  rintro rfl
  rcases hkind with rfl | hblank
  · cases hsep
  · cases hblank

lemma assignmentAt_separator {f : Found} (h : assignmentAt x = some f) :
    ∃ c ∈ x, isSeparator c = true := by
  obtain ⟨_, _, y, hy, hbehind⟩ := valueBehind_of_assignmentAt h
  obtain ⟨u, hu, -⟩ := Option.bind_eq_some_iff.mp hbehind
  obtain ⟨c, hc, hsep⟩ := separatorEnd_behind hu
  exact ⟨c, (hc.trans hy).subset List.mem_cons_self, hsep⟩

/-! ## One match after the other -/

lemma search_length {m : Match UInt8} (h : search assignment x = some m) :
    m.rest.length < x.length := by
  obtain ⟨y, rfl, -, hmatch⟩ := search_some h
  have hread : 0 < assignment.least := by decide
  have hlen := length_of_matchAt hmatch
  rw [List.length_append]
  omega

/-- Each match reads something, so the length of the text bounds their number. -/
lemma redactMatches_of_le {n m : ℕ} (hn : x.length ≤ n) (hm : x.length ≤ m) :
    redactMatches n x = redactMatches m x := by
  have hempty : ∀ n, redactMatches n [] = [] := by
    intro n
    cases n <;> rfl
  induction n generalizing m x with
  | zero =>
    have hx : x = [] := List.length_eq_zero_iff.mp (by omega)
    rw [hx, hempty, hempty]
  | succ n ih =>
    cases m with
    | zero =>
      have hx : x = [] := List.length_eq_zero_iff.mp (by omega)
      rw [hx, hempty, hempty]
    | succ m =>
      simp only [redactMatches]
      cases hsearch : search assignment x with
      | none => rfl
      | some found =>
        have hshort := search_length hsearch
        have hrest : redactMatches n found.rest = redactMatches m found.rest :=
          ih (by omega) (by omega)
        simp only [hrest]

/-- What a value is replaced by. -/
def replacement (quotedKey : Bool) (key value : Bytes) : Bytes :=
  if isSensitiveKey key = false then value else redacted quotedKey value ++ suffixOf value

/-- The first match of a text and what is behind it. -/
lemma redactAssignments_at {front : Bytes} {f : Found} (lead value : Bytes)
    (hfront : NoStart assignment front x) (hat : assignmentAt x = some f)
    (hlead : x = lead ++ f.start) (hvalue : f.start = value ++ f.rest) :
    redactAssignments (front ++ x) = front ++ lead ++ replacement f.quotedKey f.key value ++
      redactAssignments f.rest := by
  have hdescribes := matchAt_assignment x
  rw [hat] at hdescribes
  obtain ⟨g, hmatch, hquoted, hkey, hgroup⟩ := hdescribes
  have hsearch : search assignment (front ++ x) = some ⟨front, g, f.rest⟩ := by
    rw [search_append hfront, search_of_some hmatch]
    simp
  have hshort := search_length hsearch
  obtain ⟨n, hn⟩ : ∃ n, (front ++ x).length = n + 1 := Nat.exists_eq_succ_of_ne_zero (by omega)
  have hrest : redactMatches n f.rest = redactAssignments f.rest :=
    redactMatches_of_le (by simp only at hshort; omega) (Nat.le_refl _)
  have htext : Capture.text ⟨f.start, f.rest⟩ = value := by
    simp [Capture.text, hvalue]
  have hstart : (front ++ x).take ((front ++ x).length - f.start.length) = front ++ lead := by
    rw [hlead, ← List.append_assoc, List.length_append, Nat.add_sub_cancel, List.take_left]
  have hend : (front ++ x).take ((front ++ x).length - f.rest.length) =
      front ++ lead ++ value := by
    rw [hlead, hvalue, ← List.append_assoc, ← List.append_assoc, List.length_append,
      Nat.add_sub_cancel, List.take_left]
  rw [redactAssignments, hn, redactMatches, hsearch]
  simp only [hgroup, hkey, hquoted, htext, hstart, hend, hrest, replacement]
  split_ifs <;> simp

lemma redactAssignments_of_search (h : search assignment x = none) : redactAssignments x = x := by
  unfold redactAssignments
  cases x.length with
  | zero => rfl
  | succ n => simp [redactMatches, h]

/-- Text in which no match starts is kept. -/
lemma redactAssignments_front {front : Bytes} (h : NoStart assignment front x) :
    redactAssignments (front ++ x) = front ++ redactAssignments x := by
  cases hsearch : search assignment x with
  | none =>
    have hall : search assignment (front ++ x) = none := by
      rw [search_append h, hsearch]
      rfl
    rw [redactAssignments_of_search hsearch, redactAssignments_of_search hall]
  | some found =>
    obtain ⟨y, hy, hbefore, hmatch⟩ := search_some hsearch
    obtain ⟨f, hat⟩ := assignmentAt_of_matchAt hmatch
    obtain ⟨⟨lead, hlead⟩, value, hvalue⟩ := assignmentAt_suffix hat
    have hall : NoStart assignment (front ++ found.before) y := by
      rw [hy] at h
      exact h.append hbefore
    rw [hy, ← List.append_assoc, redactAssignments_at lead value hall hat hlead.symm hvalue.symm,
      redactAssignments_at lead value hbefore hat hlead.symm hvalue.symm]
    simp

end
end ArtemisSwitch.VpnConfig

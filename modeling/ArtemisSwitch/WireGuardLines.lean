import ArtemisSwitch.Library.Trimming
import ArtemisSwitch.WireGuardConfig

/-!
# The lines of a WireGuard configuration

Blanks around the content of a line, the comment behind it and the case of a key do not count.
-/

namespace ArtemisSwitch.WireGuard
open HostAddress HostStore DecimalText VpnConfig Trimming

/-! ## Blanks -/

/-- Nothing is trimmed exactly when no blank is at either end. -/
lemma trim_eq_self_iff {s : Bytes} : trim s = s ↔
    (∀ h : s ≠ [], isspace (s.head h) = false) ∧ ∀ h : s ≠ [], isspace (s.getLast h) = false :=
  strip_eq_self_iff

lemma trim_trim (s : Bytes) : trim (trim s) = trim s := strip_strip isspace s

lemma mem_of_mem_trim {s : Bytes} {c : UInt8} (h : c ∈ trim s) : c ∈ s := mem_of_mem_strip h

/-- What is trimmed are blanks. -/
lemma trim_parts (s : Bytes) :
    ∃ front back, s = front ++ trim s ++ back ∧ front.all isspace = true ∧
      back.all isspace = true := strip_parts isspace s

/-- Blanks in front go. -/
lemma trim_blanks_append {blanks : Bytes} (s : Bytes) (h : blanks.all isspace = true) :
    trim (blanks ++ s) = trim s := strip_blanks_append s h

/-- Blanks at the end go. -/
lemma trim_append_blanks {blanks : Bytes} (s : Bytes) (h : blanks.all isspace = true) :
    trim (s ++ blanks) = trim s := strip_append_blanks s h

/-! ## The form of a line -/

/-- Nothing, or a comment. -/
def Comment (s : Bytes) : Prop := ∀ c ∈ s.head?, Parser.isComment c = true

instance (s : Bytes) : Decidable (Comment s) := inferInstanceAs (Decidable (∀ _, _))

/-- The content of a line: blanks around it and a comment behind it do not count. -/
def Shows (line content : Bytes) : Prop :=
  ∃ front back comment, line = front ++ content ++ back ++ comment ∧ front.all isspace = true ∧
    back.all isspace = true ∧ Comment comment

/-- A text that a line can show. -/
structure Clean (s : Bytes) : Prop where
  uncommented : ∀ c ∈ s, Parser.isComment c = false
  trimmed : trim s = s

/-- A line that starts a section.  The title is in lower case. -/
def Header (line title : Bytes) : Prop :=
  ∃ spelled, Shows line spelled ∧ Clean spelled ∧ spelled.head? = some 91 ∧
    lowercase spelled = title

/-- A line with a key, which is in lower case here, and a value. -/
def Entry (line key value : Bytes) : Prop :=
  ∃ spelled gap gap', lowercase spelled = key ∧ gap.all isspace = true ∧
    gap'.all isspace = true ∧ Shows line (spelled ++ gap ++ Parser.equals :: (gap' ++ value))

/-- A line within a section that sets none of the known keys. -/
def Ignored (known : Set Bytes) (line : Bytes) : Prop :=
  ∃ content, Shows line content ∧ Clean content ∧ content.head? ≠ some 91 ∧
    ∀ name value, content = name ++ Parser.equals :: value → Parser.equals ∉ name →
      lowercase (trim name) ∉ known

variable {p : Parser} {line content key value title : Bytes} {known : Set Bytes}

lemma isComment_of_isspace {c : UInt8} (h : isspace c = true) : Parser.isComment c = false := by
  rw [Parser.isComment, Bool.or_eq_false_iff, decide_eq_false_iff_not, decide_eq_false_iff_not]
  refine ⟨?_, ?_⟩ <;>
  · rintro rfl
    cases h

lemma clean_of_digits {digits : Bytes} (h : digits.all isdigit = true) : Clean digits := by
  have hdigit := List.all_eq_true.mp h
  refine ⟨fun c hc => ?_, Trimming.strip_eq_self fun c hc => isdigit_not_isspace (hdigit c hc)⟩
  have hd := hdigit c hc
  rw [Parser.isComment, Bool.or_eq_false_iff, decide_eq_false_iff_not, decide_eq_false_iff_not]
  refine ⟨?_, ?_⟩ <;>
  · rintro rfl
    cases hd

/-- What a line shows is what is left of it. -/
lemma content_of_shows (h : Shows line content)
    (hcontent : ∀ c ∈ content, Parser.isComment c = false) :
    trim (line.takeWhile fun c => !Parser.isComment c) = trim content := by
  obtain ⟨front, back, comment, rfl, hfront, hback, hcomment⟩ := h
  have hplain : ∀ c ∈ front ++ content ++ back, (!Parser.isComment c) = true := by
    intro c hc
    rw [Bool.not_eq_true']
    rcases List.mem_append.mp hc with hc | hc
    · rcases List.mem_append.mp hc with hc | hc
      · exact isComment_of_isspace (List.all_eq_true.mp hfront c hc)
      · exact hcontent c hc
    · exact isComment_of_isspace (List.all_eq_true.mp hback c hc)
  have hrest : (comment.takeWhile fun c => !Parser.isComment c) = [] := by
    cases comment with
    | nil => rfl
    | cons c comment => exact List.takeWhile_cons_of_neg (by simp [hcomment c rfl])
  rw [List.takeWhile_append_of_pos hplain, hrest, List.append_nil, trim_append_blanks _ hback,
    trim_blanks_append _ hfront]

/-- Every line shows something. -/
lemma shows_content (line : Bytes) :
    Shows line (trim (line.takeWhile fun c => !Parser.isComment c)) := by
  have hsplit := List.takeWhile_append_dropWhile (p := fun c => !Parser.isComment c) (l := line)
  obtain ⟨front, back, htext, hfront, hback⟩ :=
    trim_parts (line.takeWhile fun c => !Parser.isComment c)
  refine ⟨front, back, line.dropWhile fun c => !Parser.isComment c, ?_, hfront, hback, ?_⟩
  · rw [← htext, hsplit]
  · intro c hc
    have hhead := of_mem_head?_dropWhile hc
    simpa using hhead

/-- A line that shows an equals sign has a key and a value. -/
lemma entry_of_shows {name value : Bytes} (h : Shows line (name ++ Parser.equals :: value)) :
    Entry line (lowercase (trim name)) (trim value) := by
  obtain ⟨front, back, comment, rfl, hfront, hback, hcomment⟩ := h
  obtain ⟨blanks, gap, hname, hblanks, hgap⟩ := trim_parts name
  obtain ⟨gap', blanks', hvalue, hgap', hblanks'⟩ := trim_parts value
  refine ⟨trim name, gap, gap', rfl, hgap, hgap', front ++ blanks, blanks' ++ back, comment, ?_,
    ?_, ?_, hcomment⟩
  · conv_lhs => rw [hname, hvalue]
    simp only [List.append_assoc, List.cons_append]
  · rw [List.all_append, hfront, hblanks]
    rfl
  · rw [List.all_append, hblanks', hback]
    rfl

/-! ## Reading a line -/

namespace Parser

/-- The parser between two sections. -/
def closed (p : Parser) : Parser := { p.flushPeer with block := .none }

end Parser

/-- The section that a title opens. -/
def sectionOf (title : Bytes) : Section :=
  if title = ascii "[interface]" then .interface
  else if title = ascii "[peer]" then .peer
  else .none

lemma line_header (h : Header line title) :
    p.line line = { p.closed with block := sectionOf title } := by
  obtain ⟨spelled, hshows, hclean, hbracket, rfl⟩ := h
  have hne : spelled ≠ [] := by
    rintro rfl
    cases hbracket
  rw [Parser.line, content_of_shows hshows hclean.uncommented, hclean.trimmed]
  dsimp only
  rw [if_neg hne, if_pos hbracket, Parser.header, sectionOf]
  split_ifs <;> rfl

/-- A line that sets nothing which the section knows. -/
lemma line_ignored (h : Ignored known line)
    (hfield : ∀ key value, key ∉ known → p.field key value = p) : p.line line = p := by
  obtain ⟨content, hshows, hclean, hbracket, hkey⟩ := h
  rw [Parser.line, content_of_shows hshows hclean.uncommented, hclean.trimmed]
  split_ifs with hnil heq
  · rfl
  · obtain ⟨name, value, rfl, hname⟩ := List.eq_append_cons_of_mem heq
    have hfront : ∀ c ∈ name, decide (c ≠ Parser.equals) = true :=
      fun c hc => decide_eq_true fun heq => hname (heq ▸ hc)
    rw [List.takeWhile_append_of_pos hfront, List.takeWhile_cons_of_neg (by simp),
      List.append_nil]
    exact hfield _ _ (hkey name value rfl hname)
  · rfl

/-- A name that a line of the configuration can start with. -/
def keyOk (key : Bytes) : Bool :=
  key ≠ [] && key.all fun c => !isspace c && c ≠ Parser.equals && !Parser.isComment c &&
    c ≠ 91 && c ≠ newline

lemma keyOk_iff : keyOk key = true ↔ key ≠ [] ∧ ∀ c ∈ key, isspace c = false ∧
    c ≠ Parser.equals ∧ Parser.isComment c = false ∧ c ≠ 91 ∧ c ≠ newline := by
  simp [keyOk, and_assoc]

lemma trim_key (h : keyOk key = true) : trim key = key := by
  obtain ⟨-, hplain⟩ := keyOk_iff.mp h
  exact trim_eq_self_iff.mpr ⟨fun h => (hplain _ (List.head_mem h)).1,
    fun h => (hplain _ (List.getLast_mem h)).1⟩

/-- Only letters change their case. -/
lemma keyOk_of_lowercase (h : keyOk (lowercase key) = true) : keyOk key = true := by
  obtain ⟨hne, hplain⟩ := keyOk_iff.mp h
  refine keyOk_iff.mpr ⟨fun hnil => hne (by rw [hnil]; rfl), fun c hc => ?_⟩
  have hlower := hplain (tolower c) (List.mem_map_of_mem hc)
  unfold tolower at hlower
  split_ifs at hlower with hletter
  · have hlow : ∀ d : UInt8, d < 65 ∨ 90 < d → c ≠ d := by
      rintro d hd rfl
      rcases hd with hd | hd
      · exact absurd hletter.1 (UInt8.not_le.mpr hd)
      · exact absurd hletter.2 (UInt8.not_le.mpr hd)
    refine ⟨?_, hlow _ (by decide), ?_, hlow _ (by decide), hlow _ (by decide)⟩
    · rw [isspace, Bool.or_eq_false_iff, Bool.and_eq_false_iff, decide_eq_false_iff_not,
        decide_eq_false_iff_not, decide_eq_false_iff_not]
      refine ⟨hlow _ (by decide), .inr fun hle => ?_⟩
      exact absurd (UInt8.le_trans hletter.1 hle) (by decide)
    · rw [Parser.isComment, Bool.or_eq_false_iff, decide_eq_false_iff_not,
        decide_eq_false_iff_not]
      exact ⟨hlow _ (by decide), hlow _ (by decide)⟩
  · exact hlower

/-- What stays behind the equals sign once the line has been trimmed. -/
def behind (gap value : Bytes) : Bytes := if value = [] then [] else gap ++ value

lemma trim_behind {gap : Bytes} (hgap : gap.all isspace = true) (hvalue : trim value = value) :
    trim (behind gap value) = value := by
  unfold behind
  split_ifs with hnil
  · rw [hnil]
    rfl
  · rw [trim_blanks_append _ hgap, hvalue]

lemma trim_entry {gap gap' : Bytes} (hkey : keyOk key = true) (hgap' : gap'.all isspace = true)
    (hvalue : trim value = value) : trim (key ++ gap ++ Parser.equals :: (gap' ++ value)) =
      key ++ gap ++ Parser.equals :: behind gap' value := by
  obtain ⟨hne, hplain⟩ := keyOk_iff.mp hkey
  have hfirst (t : Bytes) (hn : key ++ gap ++ t ≠ []) :
      isspace ((key ++ gap ++ t).head hn) = false := by
    simp only [List.append_assoc]
    rw [List.head_append_of_ne_nil hne]
    exact (hplain _ (List.head_mem hne)).1
  unfold behind
  split_ifs with hnil
  · -- of an empty value only the blanks behind the equals sign are trimmed
    have hend : trim (key ++ gap ++ [Parser.equals]) = key ++ gap ++ [Parser.equals] :=
      trim_eq_self_iff.mpr ⟨hfirst _, fun _ => by simp; decide⟩
    have hsplit : key ++ gap ++ Parser.equals :: (gap' ++ value) =
        key ++ gap ++ [Parser.equals] ++ gap' := by
      rw [hnil, List.append_nil, List.append_assoc _ [Parser.equals]]
      rfl
    rw [hsplit, trim_append_blanks _ hgap', hend]
  · refine trim_eq_self_iff.mpr ⟨hfirst _, fun hn => ?_⟩
    have hlast := (trim_eq_self_iff.mp hvalue).2 hnil
    have hrest : gap' ++ value ≠ [] := List.append_ne_nil_of_right_ne_nil _ hnil
    rw [List.getLast_append_of_ne_nil _ (List.cons_ne_nil _ _), List.getLast_cons hrest,
      List.getLast_append_of_ne_nil _ hnil]
    exact hlast

/-- A line with a key and a value is read as that field. -/
lemma line_spelled {gap gap' : Bytes} (hkey : keyOk key = true) (hgap : gap.all isspace = true)
    (hgap' : gap'.all isspace = true) (hvalue : Clean value)
    (hshows : Shows line (key ++ gap ++ Parser.equals :: (gap' ++ value))) :
    p.line line = p.field (lowercase key) value := by
  obtain ⟨hne, hplain⟩ := keyOk_iff.mp hkey
  have huncommented : ∀ c ∈ key ++ gap ++ Parser.equals :: (gap' ++ value),
      Parser.isComment c = false := by
    intro c hc
    simp only [List.mem_append, List.mem_cons] at hc
    rcases hc with (hc | hc) | rfl | hc | hc
    · exact (hplain c hc).2.2.1
    · exact isComment_of_isspace (List.all_eq_true.mp hgap c hc)
    · decide
    · exact isComment_of_isspace (List.all_eq_true.mp hgap' c hc)
    · exact hvalue.uncommented c hc
  have hhead : (key ++ gap ++ Parser.equals :: behind gap' value).head? ≠ some 91 := by
    obtain ⟨c, t, rfl⟩ := List.exists_cons_of_ne_nil hne
    intro heq
    exact (hplain c List.mem_cons_self).2.2.2.1 (by simpa using heq)
  have hfront : ∀ c ∈ key ++ gap, decide (c ≠ Parser.equals) = true := by
    intro c hc
    apply decide_eq_true
    rcases List.mem_append.mp hc with hc | hc
    · exact (hplain c hc).2.1
    · rintro rfl
      exact absurd (List.all_eq_true.mp hgap _ hc) (by decide)
  rw [Parser.line, content_of_shows hshows huncommented, trim_entry hkey hgap' hvalue.trimmed]
  rw [if_neg (by simp), if_neg hhead, if_neg (by simp), List.takeWhile_append_of_pos hfront,
    List.dropWhile_append_of_pos hfront, List.takeWhile_cons_of_neg (by simp),
    List.dropWhile_cons_of_neg (by simp), List.append_nil, List.drop_one, List.tail_cons,
    trim_behind hgap' hvalue.trimmed, trim_append_blanks _ hgap, trim_key hkey]

lemma line_entry (h : Entry line key value) (hkey : keyOk key = true) (hvalue : Clean value) :
    p.line line = p.field key value := by
  obtain ⟨spelled, gap, gap', rfl, hgap, hgap', hshows⟩ := h
  exact line_spelled (keyOk_of_lowercase hkey) hgap hgap' hvalue hshows

/-- What a line does: nothing, it starts a section, or it is a field of the section. -/
lemma line_cases (p : Parser) (line : Bytes) :
    p.line line = p ∨
      (∃ title, Header line title ∧ p.line line = { p.closed with block := sectionOf title }) ∨
      ∃ key value, Entry line key value ∧ Clean value ∧ p.line line = p.field key value := by
  have hshows := shows_content line
  have hclean : Clean (trim (line.takeWhile fun c => !Parser.isComment c)) := by
    refine ⟨fun c hc => ?_, trim_trim _⟩
    simpa using List.mem_takeWhile_imp (mem_of_mem_trim hc)
  generalize hcontent : trim (line.takeWhile fun c => !Parser.isComment c) = content at *
  by_cases hbracket : content.head? = some 91
  · have hheader : Header line (lowercase content) := ⟨content, hshows, hclean, hbracket, rfl⟩
    exact .inr (.inl ⟨_, hheader, line_header hheader⟩)
  · rw [Parser.line, hcontent]
    dsimp only
    rw [if_neg hbracket]
    split_ifs with hnil heq
    · exact .inl rfl
    · obtain ⟨name, value, rfl, hname⟩ := List.eq_append_cons_of_mem heq
      have hfront : ∀ c ∈ name, decide (c ≠ Parser.equals) = true :=
        fun c hc => decide_eq_true fun heq => hname (heq ▸ hc)
      rw [List.takeWhile_append_of_pos hfront, List.dropWhile_append_of_pos hfront,
        List.takeWhile_cons_of_neg (by simp), List.dropWhile_cons_of_neg (by simp),
        List.append_nil, List.drop_one, List.tail_cons]
      refine .inr (.inr ⟨_, _, entry_of_shows hshows, ⟨fun c hc => ?_, trim_trim value⟩, rfl⟩)
      have hvalue := List.mem_cons_of_mem Parser.equals (mem_of_mem_trim hc)
      exact hclean.uncommented c (List.mem_append_right name hvalue)
    · exact .inl rfl

end ArtemisSwitch.WireGuard

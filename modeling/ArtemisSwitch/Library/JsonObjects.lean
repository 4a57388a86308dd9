import ArtemisSwitch.Library.Delimiters
import ArtemisSwitch.Library.JsonGrammar
import ArtemisSwitch.Library.Trimming

/-!
# The texts of JSON objects

Where in the text of an object its members stand, and what the text of a value starts with.
-/

namespace JsonGrammar
open Delimiters (joined terminated)

/-! ## Strings without escapes -/

/-- Only an escape writes a quote into a string. -/
lemma IsItem.unescaped {c : Char} {item : Text} (h : IsItem c item) (hplain : backslash ∉ item) :
    item = String.utf8EncodeChar c ∧ quote ∉ item := by
  cases h with
  | plain _ hquote _ =>
    refine ⟨rfl, fun hmem => ?_⟩
    by_cases hc : c.toNat < 128
    · rw [encode_ascii hc, List.mem_singleton] at hmem
      apply hquote
      have hcode := congrArg UInt8.toNat hmem
      rw [UInt8.toNat_ofNat_of_lt' (hc.trans (by decide))] at hcode
      exact Char.ext (UInt32.toNat_inj.mp hcode.symm)
    · -- The bytes of a longer encoding are not those of ASCII.
      have hhigh := encode_high (Nat.not_lt.mp hc) hmem
      exact absurd hhigh (by decide)
  | short => exact absurd List.mem_cons_self hplain
  | unicode => exact absurd List.mem_cons_self hplain
  | pair => exact absurd List.mem_cons_self hplain

lemma IsString.unescaped {chars : List Char} {text : Text} (h : IsString chars text)
    (hplain : backslash ∉ text) :
    text = quote :: utf8 chars ++ [quote] ∧ quote ∉ utf8 chars := by
  obtain ⟨items, hitems, rfl⟩ := h
  have hinside : backslash ∉ items.flatten := fun hmem =>
    hplain (List.mem_cons_of_mem quote (List.mem_append_left [quote] hmem))
  have hbytes : items.flatten = utf8 chars ∧ quote ∉ items.flatten := by
    clear hplain
    induction hitems with
    | nil => exact ⟨rfl, List.not_mem_nil⟩
    | cons hitem _ ih =>
      rw [List.flatten_cons, List.mem_append, not_or] at hinside
      obtain ⟨hfirst, hnone⟩ := hitem.unescaped hinside.1
      obtain ⟨hrest, hnone'⟩ := ih hinside.2
      rw [List.flatten_cons, List.mem_append, not_or]
      refine ⟨?_, hnone, hnone'⟩
      rw [hfirst, hrest, utf8, utf8, List.flatMap_cons]
  rw [← hbytes.1]
  exact ⟨rfl, hbytes.2⟩

/-! ## Bytes of numbers -/

def numeric (c : UInt8) : Bool := digit c || c = 43 || c = 45 || c = 46 || c = 69 || c = 101

lemma numeric_of_digit {c : UInt8} (h : digit c = true) : numeric c = true := by
  simp [numeric, h]

lemma all_numeric {digits : Text} (h : digits.all digit = true) : digits.all numeric = true :=
  List.all_eq_true.mpr fun c hc => numeric_of_digit (List.all_eq_true.mp h c hc)

lemma not_numeric_of_blank {c : UInt8} (h : blank c = true) : numeric c = false := by
  simp only [blank, Bool.or_eq_true, decide_eq_true_eq] at h
  rcases h with ((rfl | rfl) | rfl) | rfl <;> rfl

lemma not_blank_of_numeric {c : UInt8} (h : numeric c = true) : blank c = false := by
  by_contra hblank
  rw [Bool.not_eq_false] at hblank
  rw [not_numeric_of_blank hblank] at h
  cases h

lemma IsNumber.all_numeric {token : Text} (h : IsNumber token) : token.all numeric = true := by
  obtain ⟨sign, integer, fraction, exponent, rfl, hsign, hinteger, hfraction, hexponent⟩ := h
  simp only [List.all_append, Bool.and_eq_true]
  refine ⟨⟨⟨?_, ?_⟩, ?_⟩, ?_⟩
  · rcases hsign with rfl | rfl <;> rfl
  · rcases hinteger with rfl | ⟨-, hdigits, -⟩
    · rfl
    · exact JsonGrammar.all_numeric hdigits
  · rcases hfraction with rfl | ⟨digits, -, hdigits, rfl⟩
    · rfl
    · rw [List.all_cons, JsonGrammar.all_numeric hdigits]
      rfl
  · rcases hexponent with rfl | ⟨e, sign, digits, he, hsign, -, hdigits, rfl⟩
    · rfl
    · rw [List.cons_append, List.all_cons, List.all_append, JsonGrammar.all_numeric hdigits]
      rcases he with rfl | rfl <;> rcases hsign with rfl | rfl | rfl <;> rfl

lemma IsNumber.ne_nil {token : Text} (h : IsNumber token) : token ≠ [] := by
  obtain ⟨sign, integer, fraction, exponent, rfl, -, hinteger, -, -⟩ := h
  have hne : integer ≠ [] := by
    rcases hinteger with rfl | ⟨hne, -⟩
    · exact List.cons_ne_nil _ _
    · exact hne
  simp [hne]

/-- A number that is more than digits goes on with another byte of a number. -/
lemma IsNumber.digits_or {token : Text} (h : IsNumber token) : token.all digit = true ∨
    ∃ digits c rest, token = digits ++ c :: rest ∧ digits.all digit = true ∧ digit c = false ∧
      numeric c = true := by
  have hsplit := List.takeWhile_append_dropWhile (p := digit) (l := token)
  cases hrest : token.dropWhile digit with
  | nil =>
    left
    rw [hrest, List.append_nil] at hsplit
    rw [← hsplit]
    exact List.all_takeWhile
  | cons c rest =>
    right
    have hc : digit c = false := Trimming.of_mem_head?_dropWhile (by rw [hrest]; rfl)
    have hmem : c ∈ token := (List.dropWhile_suffix digit).subset (hrest ▸ List.mem_cons_self)
    rw [hrest] at hsplit
    exact ⟨_, c, rest, hsplit.symm, List.all_takeWhile, hc,
      List.all_eq_true.mp h.all_numeric c hmem⟩

/-! ## First bytes -/

/-- What the first byte of a text says of the value. -/
structure Starts (value : Value) (c : UInt8) : Prop where
  spaced : blank c = false
  string : c = quote → ∃ chars, value = .string chars
  number : digit c = true → ∃ token, value = .number token

/-- The text of another value starts with a byte of its own. -/
lemma Starts.of_other {value : Value} {c : UInt8} (h : blank c = false) (hquote : c ≠ quote)
    (hdigit : digit c = false) : Starts value c :=
  ⟨h, fun heq => absurd heq hquote, fun heq => absurd (hdigit.symm.trans heq) Bool.false_ne_true⟩

lemma IsValue.starts {value : Value} {text : Text} (h : IsValue value text) :
    ∃ c rest, text = c :: rest ∧ Starts value c := by
  cases h with
  | null => exact ⟨110, [117, 108, 108], rfl, .of_other rfl (by decide) rfl⟩
  | true => exact ⟨116, [114, 117, 101], rfl, .of_other rfl (by decide) rfl⟩
  | false => exact ⟨102, [97, 108, 115, 101], rfl, .of_other rfl (by decide) rfl⟩
  | number h =>
    obtain ⟨c, rest, rfl⟩ := List.exists_cons_of_ne_nil h.ne_nil
    have hc : numeric c = Bool.true := List.all_eq_true.mp h.all_numeric c List.mem_cons_self
    refine ⟨c, rest, rfl, not_blank_of_numeric hc, ?_, fun _ => ⟨_, rfl⟩⟩
    rintro rfl
    cases hc
  | string h =>
    obtain ⟨items, -, rfl⟩ := h
    exact ⟨quote, _, rfl, rfl, fun _ => ⟨_, rfl⟩, fun hdigit => by cases hdigit⟩
  | array => exact ⟨91, _, rfl, .of_other rfl (by decide) rfl⟩
  | object => exact ⟨123, _, rfl, .of_other rfl (by decide) rfl⟩

lemma IsValue.isString {chars : List Char} {text : Text} (h : IsValue (.string chars) text) :
    IsString chars text := by
  cases h with
  | string h => exact h

lemma IsValue.isNumber {token text : Text} (h : IsValue (.number token) text) :
    IsNumber text ∧ text = token := by
  cases h with
  | number h => exact ⟨h, rfl⟩

/-! ## Objects -/

/-- A member of an object with its text. -/
structure MemberText extends Entry where
  name : List Char
  content : Value
  isString : IsString name key
  isValue : IsValue content value
  spaced : toEntry.Spaced

/-- An object with its text. -/
structure ObjectText where
  before : Text := []
  lead : Text := []
  members : List MemberText
  after : Text := []
  blank_before : before.all blank = true := by rfl
  blank_lead : lead.all blank = true := by rfl
  blank_after : after.all blank = true := by rfl

namespace ObjectText

def value (t : ObjectText) : Value := .object (t.members.map fun m => (m.name, m.content))

def core (t : ObjectText) : Text :=
  123 :: t.lead ++ [comma].intercalate (t.members.map fun m => m.text) ++ [125]

def text (t : ObjectText) : Text := t.before ++ t.core ++ t.after

lemma getLast?_core (t : ObjectText) : t.core.getLast? = some 125 := List.getLast?_concat

lemma two_le_length_core (t : ObjectText) : 2 ≤ t.core.length := by
  rw [core, List.length_append, List.cons_append, List.length_cons, List.length_singleton]
  omega

lemma isValue (t : ObjectText) : IsValue t.value t.core := by
  have hkeys : List.Forall₂ (fun member e => IsString member.1 e.key)
      (t.members.map fun m => (m.name, m.content)) (t.members.map MemberText.toEntry) := by
    rw [List.forall₂_map_left_iff, List.forall₂_map_right_iff, List.forall₂_same]
    exact fun m _ => m.isString
  have hvalues : List.Forall₂ (fun member e => IsValue member.2 e.value)
      (t.members.map fun m => (m.name, m.content)) (t.members.map MemberText.toEntry) := by
    rw [List.forall₂_map_left_iff, List.forall₂_map_right_iff, List.forall₂_same]
    exact fun m _ => m.isValue
  have hspaced : ∀ e ∈ t.members.map MemberText.toEntry, e.Spaced := by
    intro e he
    obtain ⟨m, -, rfl⟩ := List.mem_map.mp he
    exact m.spaced
  have h := IsValue.object hkeys hvalues t.blank_lead hspaced
  rwa [List.map_map] at h

lemma isText (t : ObjectText) : IsText t.value t.text :=
  ⟨t.before, t.core, t.after, t.blank_before, t.isValue, t.blank_after, rfl⟩

end ObjectText

lemma exists_memberTexts {members : List (List Char × Value)} {entries : List Entry}
    (hkeys : List.Forall₂ (fun member e => IsString member.1 e.key) members entries)
    (h : List.Forall₂ (fun member e => IsValue member.2 e.value) members entries)
    (hspaced : ∀ e ∈ entries, e.Spaced) : ∃ texts : List MemberText,
      texts.map (fun m => (m.name, m.content)) = members ∧
        texts.map MemberText.toEntry = entries := by
  induction hkeys with
  | nil => exact ⟨[], rfl, rfl⟩
  | @cons member e members entries hkey _ ih =>
    obtain ⟨hvalue, hvalues⟩ := List.forall₂_cons.mp h
    obtain ⟨hfirst, hspaced⟩ := List.forall_mem_cons.mp hspaced
    obtain ⟨texts, hmembers, hentries⟩ := ih hvalues hspaced
    refine ⟨⟨e, member.1, member.2, hkey, hvalue, hfirst⟩ :: texts, ?_, ?_⟩
    · rw [List.map_cons, hmembers]
    · rw [List.map_cons, hentries]

/-- The texts of objects are those with a layout. -/
theorem isText_object_iff {members : List (List Char × Value)} {text : Text} :
    IsText (.object members) text ↔
      ∃ t : ObjectText, t.value = .object members ∧ t.text = text := by
  constructor
  · rintro ⟨before, core, after, hbefore, hcore, hafter, rfl⟩
    cases hcore with
    | @object _ lead entries hkeys h hlead hspaced =>
      obtain ⟨texts, rfl, rfl⟩ := exists_memberTexts hkeys h hspaced
      refine ⟨⟨before, lead, texts, after, hbefore, hlead, hafter⟩, rfl, ?_⟩
      rw [ObjectText.text, ObjectText.core, List.map_map]
      rfl
  · rintro ⟨t, hvalue, rfl⟩
    exact hvalue ▸ t.isText

namespace ObjectText
variable {earlier later : List MemberText} {m : MemberText} {name : String}

/-! ## Places of members -/

/-- What stands in front of a member. -/
def front (t : ObjectText) (earlier : List MemberText) : Text :=
  t.before ++ 123 :: (t.lead ++ terminated [comma] (earlier.map fun m => m.text))

/-- What stands behind a member. -/
def back (t : ObjectText) (later : List MemberText) : Text :=
  (later.map fun m => m.text).flatMap ([comma] ++ ·) ++ 125 :: t.after

lemma intercalate_append (sep line : Text) (lines others : List Text) :
    sep.intercalate (lines ++ line :: others) = terminated sep lines ++ joined sep line others := by
  induction lines with
  | nil =>
    rw [List.nil_append, terminated, List.flatMap_nil, List.nil_append]
    induction others generalizing line with
    | nil => simp [joined]
    | cons other others ih =>
      rw [List.intercalate_cons_cons, ih, joined, joined, List.flatMap_cons]
      simp only [List.append_assoc]
  | cons first lines ih =>
    rw [List.cons_append, List.intercalate_cons_of_ne_nil (by simp), ih,
      Delimiters.terminated_cons]
    simp only [List.append_assoc]

lemma text_eq (t : ObjectText) (h : t.members = earlier ++ m :: later) :
    t.text = t.front earlier ++ m.text ++ t.back later := by
  rw [text, core, h, List.map_append, List.map_cons, intercalate_append, joined, front, back]
  simp only [List.append_assoc, List.cons_append, List.nil_append]

/-- Behind a member stands a comma or the end of the object. -/
lemma back_eq (t : ObjectText) (later : List MemberText) :
    ∃ c rest, t.back later = c :: rest ∧ (c = comma ∨ c = 125) := by
  cases later with
  | nil => exact ⟨125, t.after, rfl, .inr rfl⟩
  | cons m later => exact ⟨comma, _, rfl, .inl rfl⟩

lemma member_none (t : ObjectText) (h : ∀ m ∈ t.members, m.name ≠ name.toList) :
    t.value.member name = none := by
  change (t.members.map fun m => (m.name, m.content)).lookup name.toList = none
  rw [List.lookup_eq_none_iff]
  intro member hmember
  obtain ⟨m, hm, rfl⟩ := List.mem_map.mp hmember
  exact bne_iff_ne.mpr (h m hm).symm

lemma member_first (t : ObjectText) (h : t.members = earlier ++ m :: later)
    (hname : m.name = name.toList) (hfirst : ∀ other ∈ earlier, other.name ≠ name.toList) :
    t.value.member name = some m.content := by
  change (t.members.map fun m => (m.name, m.content)).lookup name.toList = _
  have hnone : (earlier.map fun m => (m.name, m.content)).lookup name.toList = none := by
    rw [List.lookup_eq_none_iff]
    intro member hmember
    obtain ⟨other, hother, rfl⟩ := List.mem_map.mp hmember
    exact bne_iff_ne.mpr (hfirst other hother).symm
  rw [h, List.map_append, List.lookup_append, hnone, List.map_cons, ← hname]
  exact List.lookup_cons_self

end ObjectText

/-! ## Printing -/

def PrintedMember.memberText (m : PrintedMember) : MemberText where
  toEntry := m.entry
  name := m.name.toList
  content := m.printed.value
  isString := isString_name m.plain
  isValue := m.printed.valid
  spaced := m.spaced

def ObjectText.printed (members : List PrintedMember) : ObjectText where
  members := members.map PrintedMember.memberText

end JsonGrammar

import Mathlib.Data.List.Forall2
import Mathlib.Tactic.Common

/-!
# The texts of JSON values

The grammar of RFC 8259 over the bytes of UTF-8, with the value that each text stands for.
-/

namespace JsonGrammar

abbrev Text := List UInt8

/-- The bytes of UTF-8. -/
def utf8 (chars : List Char) : Text := chars.flatMap String.utf8EncodeChar

def IsUtf8 (text : Text) : Prop := ∃ chars, text = utf8 chars

def quote : UInt8 := 34

def comma : UInt8 := 44

def colon : UInt8 := 58

def backslash : UInt8 := 92

/-! ## Values -/

/-- A number is kept as it is written. -/
inductive Value
  | null
  | boolean (value : Bool)
  | number (token : Text)
  | string (chars : List Char)
  | array (items : List Value)
  | object (members : List (List Char × Value))

namespace Value

/-- The first member of this name. -/
def member (name : String) : Value → Option Value
  | .object members => members.lookup name.toList
  | _ => none

/-- The bytes of a string. -/
def bytes : Value → Option Text
  | .string chars => some (utf8 chars)
  | _ => none

end Value

/-! ## Tokens -/

def blank (c : UInt8) : Bool := c = 32 || c = 9 || c = 10 || c = 13

def digit (c : UInt8) : Bool := 48 ≤ c && c ≤ 57

/-- Digits without leading zeros. -/
def IsInteger (text : Text) : Prop :=
  text = [48] ∨ text ≠ [] ∧ text.all digit = true ∧ text.head? ≠ some 48

def IsFraction (text : Text) : Prop :=
  text = [] ∨ ∃ digits : Text, digits ≠ [] ∧ digits.all digit = true ∧ text = 46 :: digits

def IsExponent (text : Text) : Prop :=
  text = [] ∨ ∃ (e : UInt8) (sign digits : Text), (e = 101 ∨ e = 69) ∧
    (sign = [] ∨ sign = [43] ∨ sign = [45]) ∧ digits ≠ [] ∧ digits.all digit = true ∧
      text = e :: sign ++ digits

def IsNumber (token : Text) : Prop :=
  ∃ sign integer fraction exponent : Text, token = sign ++ integer ++ fraction ++ exponent ∧
    (sign = [] ∨ sign = [45]) ∧ IsInteger integer ∧ IsFraction fraction ∧ IsExponent exponent

def hexDigit (c : UInt8) : Option ℕ :=
  if digit c then some (c.toNat - 48)
  else if 97 ≤ c ∧ c ≤ 102 then some (c.toNat - 87)
  else if 65 ≤ c ∧ c ≤ 70 then some (c.toNat - 55)
  else none

def hexValue (digits : Text) : Option ℕ :=
  digits.foldlM (fun n c => (hexDigit c).map (16 * n + ·)) 0

def shortEscapes : List (UInt8 × Char) :=
  [(34, '"'), (92, '\\'), (47, '/'), (98, '\x08'), (102, '\x0c'), (110, '\n'), (114, '\r'),
    (116, '\t')]

/-- The text of one character of a string. -/
inductive IsItem : Char → Text → Prop
  | plain {c : Char} (h : 32 ≤ c.toNat) (hquote : c ≠ '"') (hbackslash : c ≠ '\\') :
      IsItem c (String.utf8EncodeChar c)
  | short {c : Char} {code : UInt8} (h : (code, c) ∈ shortEscapes) : IsItem c [backslash, code]
  | unicode {c : Char} {digits : Text} (hlength : digits.length = 4)
      (h : hexValue digits = some c.toNat) : IsItem c (backslash :: 117 :: digits)
  /-- A pair of surrogates. -/
  | pair {c : Char} {high low : Text} {m n : ℕ} (hhigh : high.length = 4) (hlow : low.length = 4)
      (hm : hexValue high = some (0xD800 + m)) (hn : hexValue low = some (0xDC00 + n))
      (hm' : m < 0x400) (hn' : n < 0x400) (h : c.toNat = 0x10000 + m * 0x400 + n) :
      IsItem c (backslash :: 117 :: high ++ backslash :: 117 :: low)

def IsString (chars : List Char) (text : Text) : Prop :=
  ∃ items, List.Forall₂ IsItem chars items ∧ text = quote :: items.flatten ++ [quote]

/-! ## Texts of values -/

/-- An item of an array between its blanks. -/
structure Element where
  before : Text := []
  value : Text
  after : Text := []

def Element.text (e : Element) : Text := e.before ++ e.value ++ e.after

def Element.Spaced (e : Element) : Prop := e.before.all blank = true ∧ e.after.all blank = true

/-- A member of an object with the blanks around its key and its value. -/
structure Entry where
  before : Text := []
  key : Text
  afterKey : Text := []
  beforeValue : Text := []
  value : Text
  after : Text := []

/-- Up to the colon. -/
def Entry.front (e : Entry) : Text := e.before ++ e.key ++ e.afterKey

/-- Behind the colon. -/
def Entry.back (e : Entry) : Text := e.beforeValue ++ e.value ++ e.after

def Entry.text (e : Entry) : Text := e.front ++ colon :: e.back

structure Entry.Spaced (e : Entry) : Prop where
  before : e.before.all blank = true
  afterKey : e.afterKey.all blank = true
  beforeValue : e.beforeValue.all blank = true
  after : e.after.all blank = true

inductive IsValue : Value → Text → Prop
  | null : IsValue .null (utf8 "null".toList)
  | true : IsValue (.boolean true) (utf8 "true".toList)
  | false : IsValue (.boolean false) (utf8 "false".toList)
  | number {token : Text} (h : IsNumber token) : IsValue (.number token) token
  | string {chars : List Char} {text : Text} (h : IsString chars text) :
      IsValue (.string chars) text
  | array {items : List Value} {lead : Text} {elements : List Element}
      (h : List.Forall₂ (fun item e => IsValue item e.value) items elements)
      (hlead : lead.all blank = Bool.true) (hspaced : ∀ e ∈ elements, e.Spaced) :
      IsValue (.array items) (91 :: lead ++ [comma].intercalate (elements.map Element.text) ++ [93])
  | object {members : List (List Char × Value)} {lead : Text} {entries : List Entry}
      (hkeys : List.Forall₂ (fun member e => IsString member.1 e.key) members entries)
      (h : List.Forall₂ (fun member e => IsValue member.2 e.value) members entries)
      (hlead : lead.all blank = Bool.true) (hspaced : ∀ e ∈ entries, e.Spaced) :
      IsValue (.object members)
        (123 :: lead ++ [comma].intercalate (entries.map Entry.text) ++ [125])

def IsText (value : Value) (text : Text) : Prop :=
  ∃ before core after : Text, before.all blank = true ∧ IsValue value core ∧
    after.all blank = true ∧ text = before ++ core ++ after

/-! ## Bytes of characters -/

lemma encode_ascii {c : Char} (h : c.toNat < 128) :
    String.utf8EncodeChar c = [UInt8.ofNat c.toNat] := by
  unfold String.utf8EncodeChar
  exact if_pos (Nat.le_of_lt_succ h)

lemma le_ofNat {n : ℕ} (h : 128 ≤ n) (hn : n < 256) : (128 : UInt8) ≤ UInt8.ofNat n := by
  rw [UInt8.le_iff_toNat_le, UInt8.toNat_ofNat_of_lt' hn]
  exact h

lemma isUtf8_of_ascii {text : Text} (h : ∀ b ∈ text, b < 128) : IsUtf8 text := by
  refine ⟨text.map fun b => Char.ofNat b.toNat, ?_⟩
  rw [utf8, List.flatMap_map]
  have hbytes : ∀ b ∈ text, String.utf8EncodeChar (Char.ofNat b.toNat) = [b] := by
    intro b hb
    have hlt : b.toNat < 128 := UInt8.lt_iff_toNat_lt.mp (h b hb)
    have hchar : (Char.ofNat b.toNat).toNat = b.toNat := by
      have hvalid : b.toNat.isValidChar := .inl (Nat.lt_trans hlt (by decide))
      rw [Char.ofNat, dif_pos hvalid]
      rfl
    have hchar_lt : (Char.ofNat b.toNat).toNat < 128 := hchar.symm ▸ hlt
    rw [encode_ascii hchar_lt, hchar, UInt8.ofNat_toNat]
  rw [List.flatMap_congr hbytes, List.flatMap_singleton']

/-- A byte of a longer encoding is not one of ASCII. -/
lemma encode_high {c : Char} (h : 128 ≤ c.toNat) {b : UInt8} (hb : b ∈ String.utf8EncodeChar c) :
    128 ≤ b := by
  have hlong : ¬c.val.toNat ≤ 0x7f := Nat.not_le.mpr h
  unfold String.utf8EncodeChar at hb
  dsimp only at hb
  rw [if_neg hlong] at hb
  split_ifs at hb
  all_goals
    simp only [List.mem_cons, List.not_mem_nil, or_false] at hb
    rcases hb with rfl | rfl | rfl | rfl <;> apply le_ofNat <;> omega

/-- Strings may be written as they are but for quotes, backslashes and control characters. -/
def plain (c : Char) : Bool := 32 ≤ c.toNat && c ≠ '"' && c ≠ '\\'

lemma isString_utf8 {chars : List Char} (h : chars.all plain = true) :
    IsString chars (quote :: utf8 chars ++ [quote]) := by
  refine ⟨chars.map String.utf8EncodeChar, ?_, ?_⟩
  · rw [List.forall₂_map_right_iff, List.forall₂_same]
    intro c hc
    have hplain := List.all_eq_true.mp h c hc
    simp only [plain, Bool.and_eq_true, decide_eq_true_eq] at hplain
    exact .plain hplain.1.1 hplain.1.2 hplain.2
  · rw [utf8, List.flatMap_def]

/-! ## Printing -/

/-- The bytes of a name of ASCII characters. -/
def nameBytes (name : String) : Text := name.toList.map fun c => UInt8.ofNat c.toNat

def plainName (name : String) : Bool := name.toList.all fun c => plain c && decide (c.toNat < 128)

lemma isString_name {name : String} (h : plainName name = true) :
    IsString name.toList (quote :: nameBytes name ++ [quote]) := by
  have hbytes : utf8 name.toList = nameBytes name := by
    rw [nameBytes, utf8, List.map_eq_flatMap]
    refine List.flatMap_congr fun c hc => encode_ascii ?_
    exact of_decide_eq_true ((Bool.and_eq_true _ _).mp (List.all_eq_true.mp h c hc)).2
  rw [← hbytes]
  refine isString_utf8 (List.all_eq_true.mpr fun c hc => ?_)
  exact ((Bool.and_eq_true _ _).mp (List.all_eq_true.mp h c hc)).1

/-- A value with one of its texts. -/
structure Printed where
  value : Value
  text : Text
  valid : IsValue value text

/-- A member of an object with its text. -/
structure PrintedMember where
  name : String
  printed : Printed
  before : Text := []
  after : Text := []
  plain : plainName name = true := by decide +kernel
  blank_before : before.all blank = true := by decide +kernel
  blank_after : after.all blank = true := by decide +kernel

def PrintedMember.entry (m : PrintedMember) : Entry where
  before := m.before
  key := quote :: nameBytes m.name ++ [quote]
  beforeValue := [32]
  value := m.printed.text
  after := m.after

lemma PrintedMember.spaced (m : PrintedMember) : m.entry.Spaced :=
  ⟨m.blank_before, rfl, rfl, m.blank_after⟩

def Printed.object (members : List PrintedMember) : Printed where
  value := .object (members.map fun m => (m.name.toList, m.printed.value))
  text := 123 :: [comma].intercalate (members.map fun m => m.entry.text) ++ [125]
  valid := by
    have hkeys : List.Forall₂ (fun member e => IsString member.1 e.key)
        (members.map fun m => (m.name.toList, m.printed.value))
        (members.map PrintedMember.entry) := by
      rw [List.forall₂_map_left_iff, List.forall₂_map_right_iff, List.forall₂_same]
      exact fun m _ => isString_name m.plain
    have hvalues : List.Forall₂ (fun member e => IsValue member.2 e.value)
        (members.map fun m => (m.name.toList, m.printed.value))
        (members.map PrintedMember.entry) := by
      rw [List.forall₂_map_left_iff, List.forall₂_map_right_iff, List.forall₂_same]
      exact fun m _ => m.printed.valid
    have hspaced : ∀ e ∈ members.map PrintedMember.entry, e.Spaced := by
      intro e he
      obtain ⟨m, -, rfl⟩ := List.mem_map.mp he
      exact m.spaced
    have h := @IsValue.object _ [] _ hkeys hvalues rfl hspaced
    rwa [List.map_map] at h

/-- A member whose name no other one before it has. -/
lemma member_object {members : List PrintedMember} {m : PrintedMember} {name : String}
    {value : Value} (i : ℕ) (hm : members[i]? = some m) (hname : m.name = name)
    (hvalue : m.printed.value = value)
    (hfirst : name ∉ (members.take i).map PrintedMember.name) :
    (Printed.object members).value.member name = some value := by
  subst hname hvalue
  change (members.map fun m => (m.name.toList, m.printed.value)).lookup m.name.toList = _
  induction i generalizing members with
  | zero =>
    obtain ⟨rest, rfl⟩ := List.head?_eq_some_iff.mp (List.head?_eq_getElem? ▸ hm)
    exact List.lookup_cons_self
  | succ i ih =>
    cases members with
    | nil => exact absurd hm nofun
    | cons first members =>
      rw [List.take_succ_cons, List.map_cons, List.mem_cons, not_or] at hfirst
      have hne : (m.name.toList == first.name.toList) = false :=
        beq_false_of_ne fun heq => hfirst.1 (String.toList_inj.mp heq)
      rw [List.map_cons, List.lookup_cons, hne]
      exact ih hm hfirst.2

end JsonGrammar

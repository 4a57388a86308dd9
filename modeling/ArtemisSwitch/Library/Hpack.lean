import Mathlib.Data.List.Infix
import Mathlib.Data.UInt
import Mathlib.Tactic.Common

/-!
# Header compression for HTTP/2

A decoder for header blocks as in RFC 7541: integers with a prefix, string literals, the
static and the dynamic table, and the representations of fields.  The Huffman code is a
parameter, which tells the text of a coded string or refuses it.
-/

namespace Hpack

abbrev Octets := List UInt8

/-- The octets of an ASCII literal. -/
def octets (s : String) : Octets := s.toList.map fun c => UInt8.ofNat c.toNat

structure Field where
  name : Octets
  value : Octets
  deriving DecidableEq, Repr

/-! ## Integers and strings -/

/-- The octets behind a full prefix, seven bits each, the lowest first. -/
def continuation : Octets → Option (ℕ × Octets)
  | [] => none
  | b :: rest =>
    if b < 128 then some (b.toNat, rest)
    else (continuation rest).map fun r => (b.toNat - 128 + 128 * r.1, r.2)

/-- An integer whose prefix has `n` bits. -/
def integer (n : ℕ) : Octets → Option (ℕ × Octets)
  | [] => none
  | b :: rest =>
    if b.toNat % 2 ^ n < 2 ^ n - 1 then some (b.toNat % 2 ^ n, rest)
    else (continuation rest).map fun r => (2 ^ n - 1 + r.1, r.2)

/-- The first bit of a string literal tells whether it is Huffman coded. -/
def literal (huffman : Octets → Option Octets) (text : Octets) : Option (Octets × Octets) :=
  (integer 7 text).bind fun (length, rest) =>
    if rest.length < length then none
    else
      (if text.headD 0 < 128 then some (rest.take length) else huffman (rest.take length)).map
        (·, rest.drop length)

/-! ## The tables -/

def staticTable : List (String × String) :=
  [(":authority", ""), (":method", "GET"), (":method", "POST"), (":path", "/"),
    (":path", "/index.html"), (":scheme", "http"), (":scheme", "https"), (":status", "200"),
    (":status", "204"), (":status", "206"), (":status", "304"), (":status", "400"),
    (":status", "404"), (":status", "500"), ("accept-charset", ""),
    ("accept-encoding", "gzip, deflate"), ("accept-language", ""), ("accept-ranges", ""),
    ("accept", ""), ("access-control-allow-origin", ""), ("age", ""), ("allow", ""),
    ("authorization", ""), ("cache-control", ""), ("content-disposition", ""),
    ("content-encoding", ""), ("content-language", ""), ("content-length", ""),
    ("content-location", ""), ("content-range", ""), ("content-type", ""), ("cookie", ""),
    ("date", ""), ("etag", ""), ("expect", ""), ("expires", ""), ("from", ""), ("host", ""),
    ("if-match", ""), ("if-modified-since", ""), ("if-none-match", ""), ("if-range", ""),
    ("if-unmodified-since", ""), ("last-modified", ""), ("link", ""), ("location", ""),
    ("max-forwards", ""), ("proxy-authenticate", ""), ("proxy-authorization", ""), ("range", ""),
    ("referer", ""), ("refresh", ""), ("retry-after", ""), ("server", ""), ("set-cookie", ""),
    ("strict-transport-security", ""), ("transfer-encoding", ""), ("user-agent", ""), ("vary", ""),
    ("via", ""), ("www-authenticate", "")]

def staticFields : List Field := staticTable.map fun entry => ⟨octets entry.1, octets entry.2⟩

/-- The dynamic table, with the newest entry first. -/
structure Table where
  capacity : ℕ := 4096
  entries : List Field := []
  deriving DecidableEq, Repr

def Field.size (field : Field) : ℕ := field.name.length + field.value.length + 32

/-- The newest entries that fit. -/
def fitting : ℕ → List Field → List Field
  | _, [] => []
  | room, field :: fields =>
    if field.size ≤ room then field :: fitting (room - field.size) fields else []

namespace Table

def insert (table : Table) (field : Field) : Table :=
  { table with entries := fitting table.capacity (field :: table.entries) }

def resize (table : Table) (capacity : ℕ) : Table :=
  ⟨capacity, fitting capacity table.entries⟩

/-- The static table comes first; there is no index 0. -/
def lookup (table : Table) (index : ℕ) : Option Field :=
  if index = 0 then none else (staticFields ++ table.entries)[index - 1]?

end Table

/-! ## Header blocks -/

section Decoder
variable (huffman : Octets → Option Octets)

/-- A literal field, whose name is a string of its own for the index 0. -/
def named (table : Table) (index : ℕ) (text : Octets) : Option (Field × Octets) :=
  (if index = 0 then literal huffman text
    else (table.lookup index).map fun field => (field.name, text)).bind fun (name, text) =>
      (literal huffman text).map fun (value, text) => (⟨name, value⟩, text)

/-- One representation of a field, and what follows it. -/
def representation (table : Table) (text : Octets) : Option (Field × Table × Octets) :=
  let first := text.headD 0
  if 128 ≤ first then
    (integer 7 text).bind fun (index, rest) =>
      (table.lookup index).map fun field => (field, table, rest)
  else if 64 ≤ first then
    (integer 6 text).bind fun (index, rest) =>
      (named huffman table index rest).map fun (field, rest) => (field, table.insert field, rest)
  else if 32 ≤ first then
    -- a change of the table size is allowed at the start of a block only
    none
  else
    (integer 4 text).bind fun (index, rest) =>
      (named huffman table index rest).map fun (field, rest) => (field, table, rest)

/-- At most so many fields. -/
def fields : ℕ → Table → Octets → Option (List Field)
  | _, _, [] => some []
  | 0, _, _ :: _ => none
  | count + 1, table, text@(_ :: _) =>
    (representation huffman table text).bind fun (field, table, rest) =>
      (fields count table rest).map (field :: ·)

/-- The changes of the table size at the start, which the limit bounds. -/
def resizes (limit : ℕ) : ℕ → Table → Octets → Option (Table × Octets)
  | 0, table, text => some (table, text)
  | count + 1, table, text =>
    if 32 ≤ text.headD 0 ∧ text.headD 0 < 64 then
      (integer 5 text).bind fun (capacity, rest) =>
        if limit < capacity then none else resizes limit count (table.resize capacity) rest
    else some (table, text)

/-- The fields of a whole block.  Every representation takes an octet at least. -/
def block (limit : ℕ) (table : Table) (text : Octets) : Option (List Field) :=
  (resizes limit text.length table text).bind fun (table, text) =>
    fields huffman text.length table text

end Decoder

variable {huffman : Octets → Option Octets} {table table' : Table} {text rest value : Octets}
  {b : UInt8} {n v : ℕ} {field : Field}

/-! ## What is read from the front -/

lemma continuation_shrinks (h : continuation text = some (v, rest)) :
    rest <:+ text ∧ rest.length < text.length := by
  induction text generalizing v with
  | nil => cases h
  | cons b text ih =>
    unfold continuation at h
    split_ifs at h
    · obtain ⟨-, rfl⟩ := Prod.mk.inj (Option.some.inj h)
      exact ⟨List.suffix_cons b text, Nat.lt_succ_self _⟩
    · obtain ⟨r, hr, heq⟩ := Option.map_eq_some_iff.mp h
      obtain ⟨-, rfl⟩ := Prod.mk.inj heq
      obtain ⟨hsuffix, hlength⟩ := ih hr
      exact ⟨hsuffix.trans (List.suffix_cons b text), Nat.lt_succ_of_lt hlength⟩

/-- Octets that add nothing are empty but for the bit that says that more follow. -/
lemma continuation_zero (h : continuation text = some (0, rest)) :
    ∃ front, text = front ++ rest ∧ front ≠ [] ∧ ∀ c ∈ front, c = 0 ∨ c = 128 := by
  induction text with
  | nil => cases h
  | cons b text ih =>
    unfold continuation at h
    split_ifs at h with hlast
    · obtain ⟨hzero, rfl⟩ := Prod.mk.inj (Option.some.inj h)
      have hb : b = 0 := UInt8.toNat_inj.mp hzero
      exact ⟨[b], rfl, List.cons_ne_nil _ _, by simp [hb]⟩
    · obtain ⟨r, hr, heq⟩ := Option.map_eq_some_iff.mp h
      obtain ⟨hzero, rfl⟩ := Prod.mk.inj heq
      rw [UInt8.not_lt, UInt8.le_iff_toNat_le] at hlast
      have hb : b = 128 := by
        apply UInt8.toNat_inj.mp
        change 128 ≤ b.toNat at hlast
        change b.toNat = 128
        omega
      have hnone : r.1 = 0 := by omega
      rw [← Prod.eta r, hnone] at hr
      obtain ⟨front, rfl, -, hfront⟩ := ih hr
      refine ⟨b :: front, rfl, List.cons_ne_nil _ _, ?_⟩
      exact List.forall_mem_cons.mpr ⟨.inr hb, hfront⟩

/-- A prefix that is not full is the whole integer. -/
lemma integer_of_lt (h : b.toNat % 2 ^ n < 2 ^ n - 1) :
    integer n (b :: text) = some (b.toNat % 2 ^ n, text) := if_pos h

lemma integer_of_ge (h : 2 ^ n - 1 ≤ b.toNat % 2 ^ n) :
    integer n (b :: text) = (continuation text).map fun r => (2 ^ n - 1 + r.1, r.2) :=
  if_neg (Nat.not_lt.mpr h)

lemma integer_some (h : integer n (b :: text) = some (v, rest)) :
    b.toNat % 2 ^ n < 2 ^ n - 1 ∧ v = b.toNat % 2 ^ n ∧ rest = text ∨
      rest <:+ text ∧ rest.length < text.length := by
  unfold integer at h
  dsimp only at h
  split_ifs at h with hshort
  · obtain ⟨rfl, rfl⟩ := Prod.mk.inj (Option.some.inj h)
    exact .inl ⟨hshort, rfl, rfl⟩
  · obtain ⟨r, hr, heq⟩ := Option.map_eq_some_iff.mp h
    obtain ⟨-, rfl⟩ := Prod.mk.inj heq
    exact .inr (continuation_shrinks hr)

lemma integer_suffix (h : integer n text = some (v, rest)) :
    rest <:+ text ∧ rest.length < text.length := by
  cases text with
  | nil => cases h
  | cons b text =>
    obtain ⟨-, -, rfl⟩ | ⟨hsuffix, hlength⟩ := integer_some h
    · exact ⟨List.suffix_cons b _, Nat.lt_succ_self _⟩
    · exact ⟨hsuffix.trans (List.suffix_cons b text), Nat.lt_succ_of_lt hlength⟩

/-- A string is found behind its length, as it is or coded. -/
lemma literal_some (h : literal huffman text = some (value, rest)) :
    ∃ coded, integer 7 text = some (coded.length, coded ++ rest) ∧
      (if text.headD 0 < 128 then some coded else huffman coded) = some value := by
  obtain ⟨⟨length, behind⟩, hinteger, h⟩ := Option.bind_eq_some_iff.mp h
  dsimp only at h
  by_cases hshort : behind.length < length
  · rw [if_pos hshort] at h
    cases h
  · rw [if_neg hshort] at h
    obtain ⟨found, hfound, heq⟩ := Option.map_eq_some_iff.mp h
    obtain ⟨rfl, rfl⟩ := Prod.mk.inj heq
    refine ⟨behind.take length, ?_, hfound⟩
    rw [List.take_append_drop, List.length_take, Nat.min_eq_left (Nat.not_lt.mp hshort), hinteger]

lemma literal_suffix (h : literal huffman text = some (value, rest)) :
    rest <:+ text ∧ rest.length < text.length := by
  obtain ⟨coded, hinteger, -⟩ := literal_some h
  obtain ⟨hsuffix, hlength⟩ := integer_suffix hinteger
  refine ⟨(List.suffix_append coded rest).trans hsuffix, ?_⟩
  rw [List.length_append] at hlength
  omega

/-- A short string behind its length in one octet. -/
lemma literal_of_length_lt (h : value.length < 127) :
    literal huffman (UInt8.ofNat value.length :: (value ++ rest)) = some (value, rest) := by
  have hlength : (UInt8.ofNat value.length).toNat = value.length := by
    rw [UInt8.toNat_ofNat']
    omega
  have hplain : UInt8.ofNat value.length < 128 := by
    rw [UInt8.lt_iff_toNat_lt, hlength]
    exact h.trans (by decide)
  have hinteger : integer 7 (UInt8.ofNat value.length :: (value ++ rest)) =
      some (value.length, value ++ rest) := by
    rw [integer_of_lt (by omega), hlength, Nat.mod_eq_of_lt (by omega)]
  unfold literal
  rw [hinteger, Option.bind_some]
  dsimp only
  rw [if_neg (by simp), List.headD_cons, if_pos hplain, List.take_left, List.drop_left]
  rfl

/-! ## Representations -/

lemma fitting_subset (room : ℕ) (fields : List Field) : fitting room fields ⊆ fields := by
  induction fields generalizing room with
  | nil => exact List.Subset.refl _
  | cons field fields ih =>
    unfold fitting
    split_ifs
    · exact List.cons_subset_cons field (ih _)
    · exact List.nil_subset _

lemma lookup_mem {index : ℕ} (h : table.lookup index = some field) :
    field ∈ staticFields ++ table.entries := by
  unfold Table.lookup at h
  split_ifs at h
  exact List.mem_of_getElem? h

lemma named_some {index : ℕ} (h : named huffman table index text = some (field, rest)) :
    ∃ behind, behind <:+ text ∧ literal huffman behind = some (field.value, rest) := by
  obtain ⟨⟨name, behind⟩, hname, h⟩ := Option.bind_eq_some_iff.mp h
  obtain ⟨⟨value, rest'⟩, hvalue, heq⟩ := Option.map_eq_some_iff.mp h
  obtain ⟨rfl, rfl⟩ := Prod.mk.inj heq
  refine ⟨behind, ?_, hvalue⟩
  split_ifs at hname
  · exact (literal_suffix hname).1
  · obtain ⟨_, -, heq⟩ := Option.map_eq_some_iff.mp hname
    exact (Prod.mk.inj heq).2 ▸ List.suffix_rfl

/-- A field comes out of the tables, or its value is a string of the text. -/
lemma representation_some
    (h : representation huffman table text = some (field, table', rest)) :
    table'.entries ⊆ field :: table.entries ∧
      (field ∈ staticFields ++ table.entries ∧ rest <:+ text ∧ rest.length < text.length ∨
        ∃ behind, behind <:+ text ∧ behind.length < text.length ∧
          literal huffman behind = some (field.value, rest)) := by
  have hliteral : ∀ {n index : ℕ} {behind rest : Octets} {field : Field},
      integer n text = some (index, behind) →
        named huffman table index behind = some (field, rest) →
          ∃ behind, behind <:+ text ∧ behind.length < text.length ∧
            literal huffman behind = some (field.value, rest) := by
    intro n index behind rest field hinteger hnamed
    obtain ⟨hsuffix, hlength⟩ := integer_suffix hinteger
    obtain ⟨string, hstring, hvalue⟩ := named_some hnamed
    exact ⟨string, hstring.trans hsuffix, hstring.length_le.trans_lt hlength, hvalue⟩
  unfold representation at h
  dsimp only at h
  split_ifs at h
  · obtain ⟨⟨index, behind⟩, hinteger, h⟩ := Option.bind_eq_some_iff.mp h
    obtain ⟨found, hfound, heq⟩ := Option.map_eq_some_iff.mp h
    cases heq
    exact ⟨List.subset_cons_self _ _, .inl ⟨lookup_mem hfound, integer_suffix hinteger⟩⟩
  · obtain ⟨⟨index, behind⟩, hinteger, h⟩ := Option.bind_eq_some_iff.mp h
    obtain ⟨⟨found, left⟩, hfound, heq⟩ := Option.map_eq_some_iff.mp h
    cases heq
    exact ⟨fitting_subset _ _, .inr (hliteral hinteger hfound)⟩
  · obtain ⟨⟨index, behind⟩, hinteger, h⟩ := Option.bind_eq_some_iff.mp h
    obtain ⟨⟨found, left⟩, hfound, heq⟩ := Option.map_eq_some_iff.mp h
    cases heq
    exact ⟨List.subset_cons_self _ _, .inr (hliteral hinteger hfound)⟩

lemma representation_suffix (h : representation huffman table text = some (field, table', rest)) :
    rest <:+ text := by
  obtain ⟨-, ⟨-, hsuffix, -⟩ | ⟨behind, hbehind, -, hvalue⟩⟩ := representation_some h
  · exact hsuffix
  · exact (literal_suffix hvalue).1.trans hbehind

/-- A literal without indexing, whose name is an early entry of the static table. -/
lemma representation_literal {entry : Field} (hb : b.toNat < 15)
    (hentry : table.lookup b.toNat = some entry) :
    representation huffman table (b :: text) =
      (literal huffman text).map fun r => (⟨entry.name, r.1⟩, table, r.2) := by
  have hindex : b.toNat ≠ 0 := by
    intro hzero
    rw [hzero] at hentry
    cases hentry
  have hinteger : integer 4 (b :: text) = some (b.toNat, text) := by
    have hmod : b.toNat % 2 ^ 4 = b.toNat := Nat.mod_eq_of_lt (by omega)
    rw [integer_of_lt (by omega), hmod]
  unfold representation named
  have hbytes : (128 : UInt8).toNat = 128 ∧ (64 : UInt8).toNat = 64 ∧ (32 : UInt8).toNat = 32 :=
    ⟨rfl, rfl, rfl⟩
  simp only [List.headD_cons, UInt8.le_iff_toNat_le, hbytes]
  rw [if_neg (show ¬128 ≤ b.toNat by omega), if_neg (show ¬64 ≤ b.toNat by omega),
    if_neg (show ¬32 ≤ b.toNat by omega), hinteger]
  simp only [Option.bind_some, if_neg hindex, hentry, Option.map_some, Option.map_map]
  rfl

/-! ## The fields of a block -/

@[simp] lemma fields_nil (count : ℕ) : fields huffman count table [] = some [] := by
  cases count <;> rfl

lemma fields_cons {count : ℕ} (h : representation huffman table (b :: text) =
    some (field, table', rest)) :
    fields huffman (count + 1) table (b :: text) =
      (fields huffman count table' rest).map (field :: ·) := by
  rw [fields, h]
  rfl

lemma fields_eq_cons {count : ℕ} {more : List Field}
    (h : fields huffman count table text = some (field :: more)) :
    ∃ count' table' rest, representation huffman table text = some (field, table', rest) ∧
      fields huffman count' table' rest = some more := by
  cases text with
  | nil => cases count <;> cases h
  | cons b text =>
    cases count with
    | zero => cases h
    | succ count =>
      rw [fields] at h
      obtain ⟨⟨found, table', rest⟩, hfound, h⟩ := Option.bind_eq_some_iff.mp h
      obtain ⟨_, hmore, heq⟩ := Option.map_eq_some_iff.mp h
      cases heq
      exact ⟨count, table', rest, hfound, hmore⟩

end Hpack

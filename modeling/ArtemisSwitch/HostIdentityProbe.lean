import ArtemisSwitch.Library.JsonObjects
import ArtemisSwitch.ServerRecord

/-!
# The health text of Punktfunk

`parsePunktfunkHealth` looks for quoted keys in the text of a health object. What it finds is
compared with the members that the object has.
-/

namespace ArtemisSwitch.HostProbe
open HostAddress (isspace isdigit)
open HostStore (tolower)
open JsonGrammar
open ServerRecord (HostKind)

/-! ## Identities -/

structure HostIdentity where
  kind : HostKind := .unknown
  product : Bytes := []
  version : Bytes := []
  webConsolePort : UInt16 := 47990
  deriving DecidableEq, Repr

def identityFor (kind : HostKind) : HostIdentity :=
  match kind with
  | .sunshine => { kind, product := ascii "Sunshine-compatible" }
  | .apollo => { kind, product := ascii "Apollo" }
  | .vibeshine => { kind, product := ascii "Vibeshine" }
  | .punktfunk => { kind, product := ascii "Punktfunk", webConsolePort := 47992 }
  | .vibepollo => { kind, product := ascii "Vibepollo" }
  | .polaris => { kind, product := ascii "Polaris" }
  | .solarFlare => { kind, product := ascii "Solar Flare" }
  | .foundationSunshine => { kind, product := ascii "Foundation Sunshine" }
  | .unknown => { kind, product := ascii "GameStream host" }

/-! ## The reader -/

def lowercase (value : Bytes) : Bytes := value.map tolower

def marker (key : String) : Bytes := ascii "\"" ++ ascii key ++ ascii "\""

/-- The text behind the next colon after the quoted key. -/
def behindKey (body : Bytes) (key : String) : Option Bytes :=
  (Delimiters.cut (marker key) body).bind fun parts =>
    (Delimiters.cut [colon] parts.2).map Prod.snd

/-- The rest of `jsonString` behind the colon. -/
def stringAt (text : Bytes) : Option Bytes :=
  let text := text.dropWhile blank
  -- Where only blanks are left, there is no first byte either.
  if text.head? = some quote then (Delimiters.cut [quote] text.tail).map Prod.fst else none

def jsonString (body : Bytes) (key : String) : Option Bytes := (behindKey body key).bind stringAt

/-- The rest of `jsonNonNegativeInteger` behind the colon. -/
def integerAt (text : Bytes) : Bool :=
  let text := text.dropWhile blank
  text.head?.any isdigit &&
    ((text.dropWhile isdigit).dropWhile blank).head?.any fun c => c = 44 || c = 125

def jsonNonNegativeInteger (body : Bytes) (key : String) : Bool :=
  (behindKey body key).any integerAt

def trimmed (value : Bytes) : Bytes := Trimming.strip isspace value

def parsePunktfunkHealth (body : Bytes) : Option HostIdentity :=
  let object := trimmed body
  if object.length < 2 ∨ object.head? ≠ some 123 ∨ object.getLast? ≠ some 125 then none
  else
    match jsonString body "status", jsonString body "version" with
    | some status, some version =>
      if lowercase status ≠ ascii "ok" ∨ version = [] ∨
          jsonNonNegativeInteger body "abi_version" = false then none
      else some { identityFor .punktfunk with version := version }
    | _, _ => none

/-! ## What an object says -/

/-- The members of the object are those of a healthy service of this version. -/
structure Healthy (value : Value) (version : Bytes) : Prop where
  status : ∃ chars, value.member "status" = some (.string chars) ∧
    lowercase (utf8 chars) = ascii "ok"
  named : ∃ chars, value.member "version" = some (.string chars) ∧ utf8 chars = version
  nonempty : version ≠ []
  abiVersion : ∃ token, value.member "abi_version" = some (.number token) ∧
    token.all digit = true

lemma Healthy.unique {value : Value} {version version' : Bytes} (h : Healthy value version)
    (h' : Healthy value version') : version = version' := by
  obtain ⟨chars, hmember, rfl⟩ := h.named
  obtain ⟨chars', hmember', rfl⟩ := h'.named
  rw [hmember] at hmember'
  cases hmember'
  rfl

/-- An identity is found exactly for healthy objects, with the version of the object. -/
structure ReadsMembers (value : Value) (body : Bytes) : Prop where
  found : (∃ identity, parsePunktfunkHealth body = some identity) ↔
    ∃ version, Healthy value version
  version : ∀ identity version, parsePunktfunkHealth body = some identity →
    Healthy value version → identity.version = version

/-! ## What the text shows -/

/-- This is what stands behind the first quoted key and the next colon. -/
def Follows (key : String) (body text : Bytes) : Prop :=
  ∃ before between, body = before ++ marker key ++ (between ++ colon :: text) ∧
    ¬marker key <:+: before ++ (marker key).dropLast ∧ colon ∉ between

/-- The text starts with these bytes between quotes. -/
def IsLiteral (value text : Bytes) : Prop :=
  ∃ gap rest, text = gap ++ quote :: (value ++ quote :: rest) ∧ gap.all blank = true ∧
    quote ∉ value

/-- The text starts with digits in front of a comma or a brace. -/
def IsCount (text : Bytes) : Prop :=
  ∃ gap digits gap' c rest, text = gap ++ digits ++ (gap' ++ c :: rest) ∧ gap.all blank = true ∧
    digits ≠ [] ∧ digits.all digit = true ∧ gap'.all blank = true ∧ (c = comma ∨ c = 125)

structure Shows (body version : Bytes) : Prop where
  status : ∃ text status, Follows "status" body text ∧ IsLiteral status text ∧
    lowercase status = ascii "ok"
  named : ∃ text, Follows "version" body text ∧ IsLiteral version text
  nonempty : version ≠ []
  abiVersion : ∃ text, Follows "abi_version" body text ∧ IsCount text

/-- The text shows a healthy service exactly where the object is one. -/
structure Agrees (value : Value) (body : Bytes) : Prop where
  shown : ∀ version, Healthy value version → Shows body version
  own : ∀ version, Shows body version → ∃ version', Healthy value version'

/-! ## Texts behind keys -/

section Reader
variable {body text version : Bytes} {key : String} {identity : HostIdentity}

lemma marker_ne_nil : marker key ≠ [] := List.cons_ne_nil _ _

lemma behindKey_eq_some_iff : behindKey body key = some text ↔ Follows key body text := by
  have hcolon (before : Bytes) : ([colon] <:+: before ++ [colon].dropLast) ↔ colon ∈ before := by
    rw [List.dropLast_singleton, List.append_nil, List.singleton_infix_iff]
  rw [behindKey, Option.bind_eq_some_iff]
  constructor
  · rintro ⟨⟨before, behind⟩, hkey, hbehind⟩
    obtain ⟨⟨between, rest⟩, hnext, rfl⟩ := Option.map_eq_some_iff.mp hbehind
    obtain ⟨hbody, hfirst⟩ := (Delimiters.cut_eq_some_iff marker_ne_nil).mp hkey
    obtain ⟨hsplit, hnone⟩ := (Delimiters.cut_eq_some_iff (List.cons_ne_nil colon [])).mp hnext
    refine ⟨before, between, ?_, hfirst, (hcolon between).not.mp hnone⟩
    rw [hbody]
    dsimp only at hsplit
    rw [hsplit, List.append_assoc, List.append_assoc, List.append_assoc, List.singleton_append]
  · rintro ⟨before, between, rfl, hfirst, hnone⟩
    -- The first quoted key fixes what is cut off, and so does the first colon behind it.
    refine ⟨_, Delimiters.cut_of_first marker_ne_nil hfirst, ?_⟩
    rw [Option.map_eq_some_iff]
    exact ⟨_, Delimiters.cut_append hnone text, rfl⟩

lemma dropWhile_append_cons {p : UInt8 → Bool} {front rest : Bytes} {c : UInt8}
    (h : front.all p = true) (hc : p c = false) : (front ++ c :: rest).dropWhile p = c :: rest := by
  rw [List.dropWhile_append_of_pos (List.all_eq_true.mp h)]
  exact List.dropWhile_cons_of_neg (Bool.eq_false_iff.mp hc)

lemma stringAt_eq_some_iff {value : Bytes} : stringAt text = some value ↔ IsLiteral value text := by
  constructor
  · intro h
    rw [stringAt] at h
    split_ifs at h with hquote
    obtain ⟨rest, hrest⟩ := List.head?_eq_some_iff.mp hquote
    rw [hrest, List.tail_cons] at h
    obtain ⟨⟨_, behind⟩, hcut, rfl⟩ := Option.map_eq_some_iff.mp h
    obtain ⟨rfl, hnone⟩ := (Delimiters.cut_eq_some_iff (List.cons_ne_nil quote [])).mp hcut
    refine ⟨text.takeWhile blank, behind, ?_, List.all_takeWhile, ?_⟩
    · have hsplit := List.takeWhile_append_dropWhile (p := blank) (l := text)
      rw [hrest, List.append_assoc, List.singleton_append] at hsplit
      exact hsplit.symm
    · rwa [List.dropLast_singleton, List.append_nil, List.singleton_infix_iff] at hnone
  · rintro ⟨gap, rest, rfl, hgap, hnone⟩
    rw [stringAt, dropWhile_append_cons hgap rfl, List.head?_cons, if_pos rfl, List.tail_cons]
    exact congrArg (Option.map Prod.fst) (Delimiters.cut_append hnone rest)

lemma digit_of_blank {c : UInt8} (h : blank c = true) : digit c = false := by
  have hnumeric := not_numeric_of_blank h
  simp only [numeric, Bool.or_eq_false_iff] at hnumeric
  exact hnumeric.1.1.1.1.1

/-- Digits end in front of a comma or a brace. -/
lemma dropWhile_digits {digits gap rest : Bytes} {c : UInt8} (h : digits.all digit = true)
    (hgap : gap.all blank = true) (hc : c = comma ∨ c = 125) :
    (digits ++ (gap ++ c :: rest)).dropWhile isdigit = gap ++ c :: rest := by
  cases gap with
  | nil => exact dropWhile_append_cons h (by rcases hc with rfl | rfl <;> rfl)
  | cons first gap =>
    have hfirst := List.all_eq_true.mp hgap first List.mem_cons_self
    exact dropWhile_append_cons h (digit_of_blank hfirst)

lemma integerAt_eq_true_iff : integerAt text = true ↔ IsCount text := by
  constructor
  · intro h
    rw [integerAt, Bool.and_eq_true, Option.any_eq_true, Option.any_eq_true] at h
    obtain ⟨⟨d, hd, hdigit⟩, c, hc, hend⟩ := h
    obtain ⟨rest, hrest⟩ := List.head?_eq_some_iff.mp hd
    obtain ⟨rest', hrest'⟩ := List.head?_eq_some_iff.mp hc
    have hgap := List.takeWhile_append_dropWhile (p := blank) (l := text)
    have hdigits := List.takeWhile_append_dropWhile (p := isdigit) (l := text.dropWhile blank)
    have hgap' := List.takeWhile_append_dropWhile (p := blank)
      (l := (text.dropWhile blank).dropWhile isdigit)
    refine ⟨text.takeWhile blank, (text.dropWhile blank).takeWhile isdigit,
      ((text.dropWhile blank).dropWhile isdigit).takeWhile blank, c, rest', ?_,
      List.all_takeWhile, ?_, List.all_takeWhile, List.all_takeWhile, ?_⟩
    · rw [← hrest', hgap', List.append_assoc, hdigits, hgap]
    · rw [hrest, List.takeWhile_cons_of_pos hdigit]
      exact List.cons_ne_nil _ _
    · rwa [Bool.or_eq_true, decide_eq_true_eq, decide_eq_true_eq] at hend
  · rintro ⟨gap, digits, gap', c, rest, rfl, hgap, hne, hdigits, hgap', hc⟩
    obtain ⟨d, more, rfl⟩ := List.exists_cons_of_ne_nil hne
    have hd : digit d = true := List.all_eq_true.mp hdigits d List.mem_cons_self
    have hd' : blank d = false := not_blank_of_numeric (numeric_of_digit hd)
    have hc' : blank c = false := by rcases hc with rfl | rfl <;> rfl
    have hstart : (gap ++ d :: more ++ (gap' ++ c :: rest)).dropWhile blank =
        d :: more ++ (gap' ++ c :: rest) := by
      rw [List.append_assoc]
      exact dropWhile_append_cons hgap hd'
    rw [integerAt, hstart, dropWhile_digits hdigits hgap' hc, dropWhile_append_cons hgap' hc',
      Bool.and_eq_true]
    refine ⟨hd, ?_⟩
    rcases hc with rfl | rfl <;> rfl

lemma jsonString_eq_some_iff {value : Bytes} : jsonString body key = some value ↔
    ∃ text, Follows key body text ∧ IsLiteral value text := by
  rw [jsonString, Option.bind_eq_some_iff]
  simp only [behindKey_eq_some_iff, stringAt_eq_some_iff]

lemma jsonNonNegativeInteger_iff : jsonNonNegativeInteger body key = true ↔
    ∃ text, Follows key body text ∧ IsCount text := by
  rw [jsonNonNegativeInteger, Option.any_eq_true]
  simp only [behindKey_eq_some_iff, integerAt_eq_true_iff]

/-! ## The trimmed text of an object -/

lemma trimmed_text (t : ObjectText) : trimmed t.text = t.core := by
  have hspace {gap : Bytes} (h : gap.all blank = true) : gap.all isspace = true := by
    refine List.all_eq_true.mpr fun c hc => ?_
    have hblank := List.all_eq_true.mp h c hc
    simp only [blank, Bool.or_eq_true, decide_eq_true_eq] at hblank
    rcases hblank with ((rfl | rfl) | rfl) | rfl <;> rfl
  have hcore : Trimming.strip isspace t.core = t.core := by
    refine Trimming.strip_eq_self_iff.mpr ⟨fun _ => rfl, fun hne => ?_⟩
    have hlast : t.core.getLast hne = 125 := by
      apply Option.some.inj
      rw [← List.getLast?_eq_some_getLast hne, t.getLast?_core]
    rw [hlast]
    rfl
  exact Trimming.strip_surrounded (hspace t.blank_before) hcore (hspace t.blank_after)

/-- The reader accepts what the text shows. -/
lemma parse_eq_some_iff (t : ObjectText) : parsePunktfunkHealth t.text = some identity ↔
    ∃ version, Shows t.text version ∧
      identity = { identityFor .punktfunk with version := version } := by
  have hbraces : ¬(t.core.length < 2 ∨ t.core.head? ≠ some 123 ∨ t.core.getLast? ≠ some 125) := by
    simp only [t.getLast?_core, ne_eq, not_true_eq_false, or_false, not_or, not_lt, not_not]
    exact ⟨t.two_le_length_core, rfl⟩
  rw [parsePunktfunkHealth, trimmed_text, if_neg hbraces]
  constructor
  · intro h
    split at h
    next status version hstatus hversion =>
      split_ifs at h with hbad
      simp only [not_or, not_not, Bool.not_eq_false] at hbad
      obtain ⟨hok, hne, hcount⟩ := hbad
      obtain ⟨text, hfollows, hliteral⟩ := jsonString_eq_some_iff.mp hstatus
      refine ⟨version, ⟨⟨text, status, hfollows, hliteral, hok⟩,
        jsonString_eq_some_iff.mp hversion, hne, jsonNonNegativeInteger_iff.mp hcount⟩, ?_⟩
      exact (Option.some.inj h).symm
    next => cases h
  · rintro ⟨version, h, rfl⟩
    obtain ⟨text, status, hfollows, hliteral, hok⟩ := h.status
    rw [jsonString_eq_some_iff.mpr ⟨text, hfollows, hliteral⟩,
      jsonString_eq_some_iff.mpr h.named]
    dsimp only
    rw [if_neg]
    simp only [not_or, not_not, Bool.not_eq_false]
    exact ⟨hok, h.nonempty, jsonNonNegativeInteger_iff.mpr h.abiVersion⟩

end Reader

/-! ## Keys in their places -/

/-- The quoted key first stands in the text as a key of the object, or nowhere. -/
inductive Clear (t : ObjectText) (key : String) : Prop
  | absent (hnone : ∀ m ∈ t.members, m.name ≠ key.toList) (hmissing : ¬marker key <:+: t.text)
  | present {earlier later : List MemberText} {m : MemberText}
      (hmembers : t.members = earlier ++ m :: later) (hname : m.name = key.toList)
      (hown : ∀ other ∈ earlier, other.name ≠ key.toList) (hkey : m.key = marker key)
      (hplain : ∀ chars, m.content = .string chars → backslash ∉ m.value)
      (hfirst : ¬marker key <:+: t.front earlier ++ m.before ++ (marker key).dropLast)

/-- A member without escapes at a place where it can be checked. -/
lemma Clear.of_place {t : ObjectText} {key : String} (i : ℕ) (hi : i < t.members.length)
    (h : (t.members[i].name = key.toList ∧ ∀ other ∈ t.members.take i, other.name ≠ key.toList) ∧
      (t.members[i].key = marker key ∧ backslash ∉ t.members[i].value) ∧
        ¬marker key <:+: t.front (t.members.take i) ++ t.members[i].before ++
          (marker key).dropLast) : Clear t key := by
  obtain ⟨⟨hname, hown⟩, ⟨hkey, hplain⟩, hfirst⟩ := h
  have hmembers : t.members = t.members.take i ++ t.members[i] :: t.members.drop (i + 1) := by
    rw [← List.drop_eq_getElem_cons hi, List.take_append_drop]
  exact .present hmembers hname hown hkey (fun _ _ => hplain) hfirst

section Places
variable {t : ObjectText} {key : String} {value version rest : Bytes} {m : MemberText}

lemma behindKey_absent (h : ¬marker key <:+: t.text) : behindKey t.text key = none := by
  cases hbehind : behindKey t.text key with
  | none => rfl
  | some text =>
    obtain ⟨before, between, hbody, -, -⟩ := behindKey_eq_some_iff.mp hbehind
    exact absurd ⟨before, between ++ colon :: text, hbody.symm⟩ h

lemma behindKey_present {earlier later : List MemberText}
    (hmembers : t.members = earlier ++ m :: later) (hkey : m.key = marker key)
    (hfirst : ¬marker key <:+: t.front earlier ++ m.before ++ (marker key).dropLast) :
    behindKey t.text key = some (m.toEntry.back ++ t.back later) := by
  refine behindKey_eq_some_iff.mpr ⟨t.front earlier ++ m.before, m.afterKey, ?_, hfirst, ?_⟩
  · rw [t.text_eq hmembers, Entry.text, Entry.front, hkey]
    simp only [List.append_assoc, List.cons_append]
  · intro hcolon
    have hblank := List.all_eq_true.mp m.spaced.afterKey colon hcolon
    cases hblank

/-- Behind the colon and its blanks stands the value. -/
lemma dropWhile_back (m : MemberText) (rest : Bytes) :
    (m.toEntry.back ++ rest).dropWhile blank = m.value ++ (m.after ++ rest) := by
  obtain ⟨c, text, hvalue, hstarts⟩ := m.isValue.starts
  rw [Entry.back, hvalue]
  simp only [List.append_assoc, List.cons_append]
  exact dropWhile_append_cons m.spaced.beforeValue hstarts.spaced

lemma stringAt_back (hplain : ∀ chars, m.content = .string chars → backslash ∉ m.value) :
    stringAt (m.toEntry.back ++ rest) = some value ↔
      ∃ chars, m.content = .string chars ∧ utf8 chars = value := by
  rw [stringAt, dropWhile_back]
  by_cases hstring : ∃ chars, m.content = .string chars
  · obtain ⟨chars, hchars⟩ := hstring
    have hvalid : IsString chars m.value := (hchars ▸ m.isValue).isString
    obtain ⟨htext, hnone⟩ := hvalid.unescaped (hplain chars hchars)
    -- Without escapes the next quote is the one that ends the string.
    have hcut : Delimiters.cut [quote] (utf8 chars ++ [quote] ++ (m.after ++ rest)) =
        some (utf8 chars, m.after ++ rest) := by
      rw [List.append_assoc]
      exact Delimiters.cut_append hnone (m.after ++ rest)
    rw [htext, List.cons_append, List.cons_append, List.head?_cons, if_pos rfl, List.tail_cons,
      hcut, Option.map_some, Option.some_inj, hchars]
    simp
  · obtain ⟨c, text, hvalue, hstarts⟩ := m.isValue.starts
    have hquote : (m.value ++ (m.after ++ rest)).head? ≠ some quote := by
      rw [hvalue, List.cons_append, List.head?_cons]
      exact fun heq => hstring (hstarts.string (Option.some.inj heq))
    rw [if_neg hquote]
    constructor
    · intro h
      cases h
    · rintro ⟨chars, hchars, -⟩
      exact absurd ⟨chars, hchars⟩ hstring

lemma integerAt_back {c : UInt8} (hc : c = comma ∨ c = 125) :
    integerAt (m.toEntry.back ++ c :: rest) = true ↔
      ∃ token, m.content = .number token ∧ token.all digit = true := by
  constructor
  · intro h
    rw [integerAt, dropWhile_back, Bool.and_eq_true] at h
    obtain ⟨hfirst, hend⟩ := h
    obtain ⟨first, text, hvalue, hstarts⟩ := m.isValue.starts
    rw [hvalue] at hfirst
    obtain ⟨token, htoken⟩ := hstarts.number hfirst
    obtain ⟨hnumber, heq⟩ := (htoken ▸ m.isValue).isNumber
    refine ⟨token, htoken, ?_⟩
    rw [← heq]
    rcases hnumber.digits_or with hdigits | ⟨digits, d, more, hsplit, hdigits, hd, hnumeric⟩
    · exact hdigits
    · -- A sign, a point or an exponent ends the digits, and is no comma.
      have hblank := Bool.eq_false_iff.mp (not_blank_of_numeric hnumeric)
      rw [hsplit, List.append_assoc, List.cons_append,
        dropWhile_append_cons (p := isdigit) hdigits hd, List.dropWhile_cons_of_neg hblank,
        List.head?_cons, Option.any_some, Bool.or_eq_true, decide_eq_true_eq,
        decide_eq_true_eq] at hend
      rcases hend with rfl | rfl <;> cases hnumeric
  · rintro ⟨token, htoken, hdigits⟩
    obtain ⟨hnumber, heq⟩ := (htoken ▸ m.isValue).isNumber
    refine integerAt_eq_true_iff.mpr ⟨m.beforeValue, m.value, m.after, c, rest, ?_,
      m.spaced.beforeValue, hnumber.ne_nil, heq ▸ hdigits, m.spaced.after, hc⟩
    rw [Entry.back]
    simp only [List.append_assoc]

lemma Clear.string (h : Clear t key) : jsonString t.text key = some value ↔
    ∃ chars, t.value.member key = some (.string chars) ∧ utf8 chars = value := by
  rw [jsonString]
  cases h with
  | absent hnone hmissing =>
    rw [behindKey_absent hmissing, t.member_none hnone]
    simp
  | present hmembers hname hown hkey hplain hfirst =>
    rw [behindKey_present hmembers hkey hfirst, t.member_first hmembers hname hown,
      Option.bind_some, stringAt_back hplain]
    simp only [Option.some_inj]

lemma Clear.integer (h : Clear t key) : jsonNonNegativeInteger t.text key = true ↔
    ∃ token, t.value.member key = some (.number token) ∧ token.all digit = true := by
  rw [jsonNonNegativeInteger]
  cases h with
  | absent hnone hmissing =>
    rw [behindKey_absent hmissing, t.member_none hnone]
    simp
  | @present _ later _ hmembers hname hown hkey hplain hfirst =>
    obtain ⟨c, rest, hback, hc⟩ := t.back_eq later
    rw [behindKey_present hmembers hkey hfirst, t.member_first hmembers hname hown, hback,
      Option.any_some, integerAt_back hc]
    simp only [Option.some_inj]

lemma shows_iff_of_clear (h : ∀ key ∈ ["status", "version", "abi_version"], Clear t key) :
    Shows t.text version ↔ Healthy t.value version := by
  have hstatus : Clear t "status" := h _ (by simp)
  have hversion : Clear t "version" := h _ (by simp)
  have habi : Clear t "abi_version" := h _ (by simp)
  constructor
  · intro hshows
    obtain ⟨text, status, hfollows, hliteral, hok⟩ := hshows.status
    obtain ⟨chars, hmember, rfl⟩ :=
      hstatus.string.mp (jsonString_eq_some_iff.mpr ⟨text, hfollows, hliteral⟩)
    exact ⟨⟨chars, hmember, hok⟩, hversion.string.mp (jsonString_eq_some_iff.mpr hshows.named),
      hshows.nonempty, habi.integer.mp (jsonNonNegativeInteger_iff.mpr hshows.abiVersion)⟩
  · intro hhealthy
    obtain ⟨chars, hmember, hok⟩ := hhealthy.status
    obtain ⟨text, hfollows, hliteral⟩ :=
      jsonString_eq_some_iff.mp (hstatus.string.mpr ⟨chars, hmember, rfl⟩)
    exact ⟨⟨text, utf8 chars, hfollows, hliteral, hok⟩,
      jsonString_eq_some_iff.mp (hversion.string.mpr hhealthy.named), hhealthy.nonempty,
      jsonNonNegativeInteger_iff.mp (habi.integer.mpr hhealthy.abiVersion)⟩

end Places

/-! ## The health text -/

lemma readsMembers_iff (t : ObjectText) : ReadsMembers t.value t.text ↔ Agrees t.value t.text := by
  constructor
  · intro h
    refine ⟨fun version hhealthy => ?_, fun version hshows => ?_⟩
    · obtain ⟨identity, hparse⟩ := h.found.mpr ⟨version, hhealthy⟩
      have hversion := h.version identity version hparse hhealthy
      obtain ⟨shown, hshows, rfl⟩ := (parse_eq_some_iff t).mp hparse
      rwa [← hversion]
    · exact h.found.mp ⟨_, (parse_eq_some_iff t).mpr ⟨version, hshows, rfl⟩⟩
  · intro h
    refine ⟨⟨?_, ?_⟩, ?_⟩
    · rintro ⟨identity, hparse⟩
      obtain ⟨version, hshows, -⟩ := (parse_eq_some_iff t).mp hparse
      exact h.own version hshows
    · rintro ⟨version, hhealthy⟩
      exact ⟨_, (parse_eq_some_iff t).mpr ⟨version, h.shown version hhealthy, rfl⟩⟩
    · intro identity version hparse hhealthy
      have hfound := (parse_eq_some_iff t).mpr ⟨version, h.shown version hhealthy, rfl⟩
      rw [hparse] at hfound
      exact congrArg HostIdentity.version (Option.some.inj hfound)

lemma agrees_of_clear {t : ObjectText}
    (h : ∀ key ∈ ["status", "version", "abi_version"], Clear t key) : Agrees t.value t.text :=
  ⟨fun _ hhealthy => (shows_iff_of_clear h).mpr hhealthy,
    fun version hshows => ⟨version, (shows_iff_of_clear h).mp hshows⟩⟩

/-- The reader sees the members of an object exactly where its text agrees with them, as it does
whenever the three quoted keys first stand in their places. -/
theorem health_read {members : List (List Char × Value)} {body : Bytes}
    (h : IsText (.object members) body) :
    (ReadsMembers (.object members) body ↔ Agrees (.object members) body) ∧
      ∀ t : ObjectText, t.value = .object members → t.text = body →
        (∀ key ∈ ["status", "version", "abi_version"], Clear t key) →
          Agrees (.object members) body := by
  constructor
  · obtain ⟨t, hvalue, rfl⟩ := isText_object_iff.mp h
    rw [← hvalue]
    exact readsMembers_iff t
  · rintro t hvalue rfl hclear
    rw [← hvalue]
    exact agrees_of_clear hclear

/-! ## Other texts -/

def printedString (text : String) (h : plainName text = true) : Printed where
  value := .string text.toList
  text := quote :: nameBytes text ++ [quote]
  valid := .string (isString_name h)

/-- The text `7`. -/
def printedSeven : Printed where
  value := .number [55]
  text := [55]
  valid := .number ⟨[], [55], [], [], rfl, .inl rfl, .inr ⟨by decide, rfl, by decide⟩, .inl rfl,
    .inl rfl⟩

/-- The text `"1\/2"`, which stands for `1/2`. -/
def printedEscape : Printed where
  value := .string ['1', '/', '2']
  text := [quote, 49, backslash, 47, 50, quote]
  valid := .string ⟨[[49], [backslash, 47], [50]],
    .cons (.plain (by decide) (by decide) (by decide)) (.cons (.short (by decide))
      (.cons (.plain (by decide) (by decide) (by decide)) .nil)), rfl⟩

lemma all_blank_nil : ([] : Bytes).all blank = true := rfl

/-- A member without blanks around it. -/
def compactMember (name : String) (printed : Printed) (h : plainName name = true) :
    PrintedMember where
  name := name
  printed := printed
  plain := h
  blank_before := all_blank_nil
  blank_after := all_blank_nil

def health (version : Printed) : List PrintedMember :=
  [compactMember "status" (printedString "ok" rfl) rfl, compactMember "version" version rfl,
    compactMember "abi_version" printedSeven rfl]

def plainHealth : ObjectText := .printed (health (printedString "1" rfl))

lemma clear_plainHealth : ∀ key ∈ ["status", "version", "abi_version"], Clear plainHealth key := by
  simp only [List.forall_mem_cons, List.not_mem_nil, false_imp_iff, implies_true, and_true]
  refine ⟨?_, ?_, ?_⟩
  · exact .of_place 0 (by decide) (by decide +kernel)
  · exact .of_place 1 (by decide) (by decide +kernel)
  · exact .of_place 2 (by decide) (by decide +kernel)

theorem health_read_plain : ReadsMembers plainHealth.value plainHealth.text := by
  have h := health_read plainHealth.isText
  exact h.1.mpr (h.2 plainHealth rfl rfl clear_plainHealth)

/-- A member that comes first has a status of its own. -/
def otherStatus : ObjectText :=
  let other : Printed := .object [compactMember "status" (printedString "down" rfl) rfl]
  .printed (compactMember "note" other rfl :: health (printedString "1" rfl))

/-- All of it is said of a member. -/
def otherHealth : ObjectText :=
  .printed [compactMember "note" (.object (health (printedString "1" rfl))) rfl]

def escapedVersion : ObjectText := .printed (health printedEscape)

/-- A healthy object is not found, another one is, and an escape is read as it stands. -/
theorem health_misread :
    (IsText otherStatus.value otherStatus.text ∧
      ¬ReadsMembers otherStatus.value otherStatus.text) ∧
    (IsText otherHealth.value otherHealth.text ∧
      ¬ReadsMembers otherHealth.value otherHealth.text) ∧
    IsText escapedVersion.value escapedVersion.text ∧
      ¬ReadsMembers escapedVersion.value escapedVersion.text := by
  refine ⟨⟨otherStatus.isText, fun h => ?_⟩, ⟨otherHealth.isText, fun h => ?_⟩,
    escapedVersion.isText, fun h => ?_⟩
  · have hhealthy : Healthy otherStatus.value [49] :=
      ⟨⟨['o', 'k'], rfl, rfl⟩, ⟨['1'], rfl, rfl⟩, by decide, [55], rfl, rfl⟩
    obtain ⟨identity, hparse⟩ := h.found.mpr ⟨_, hhealthy⟩
    have hnone : parsePunktfunkHealth otherStatus.text = none := by decide +kernel
    rw [hnone] at hparse
    cases hparse
  · have hfound : (parsePunktfunkHealth otherHealth.text).isSome = true := by decide +kernel
    obtain ⟨version, hhealthy⟩ := h.found.mp (Option.isSome_iff_exists.mp hfound)
    obtain ⟨chars, hmember, -⟩ := hhealthy.status
    have hnone : otherHealth.value.member "status" = none := rfl
    rw [hnone] at hmember
    cases hmember
  · have hhealthy : Healthy escapedVersion.value [49, 47, 50] :=
      ⟨⟨['o', 'k'], rfl, rfl⟩, ⟨['1', '/', '2'], rfl, rfl⟩, by decide, [55], rfl, rfl⟩
    have hparse : parsePunktfunkHealth escapedVersion.text =
        some { identityFor .punktfunk with version := [49, 92, 47, 50] } := by decide +kernel
    have hversion := h.version _ _ hparse hhealthy
    cases hversion

end ArtemisSwitch.HostProbe

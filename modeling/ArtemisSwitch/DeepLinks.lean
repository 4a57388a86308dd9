import ArtemisSwitch.LaunchRequest
import ArtemisSwitch.Library.Substrings
import Mathlib.Tactic.IntervalCases

/-!
# Deep links

`parseDeepLinkUrl` reads a launch request from the query of a URL, from its authority, or from
arguments in its place.
-/

namespace ArtemisSwitch.Launch
open HostAddress HostStore DecimalText SplitLoops Substrings

def percent : UInt8 := 37

def ampersand : UInt8 := 38

def plus : UInt8 := 43

def slash : UInt8 := 47

def semicolon : UInt8 := 59

def question : UInt8 := 63

def hash : UInt8 := 35

/-! ## Decoding -/

def hexValue (ch : UInt8) : Option UInt8 :=
  if 48 ≤ ch ∧ ch ≤ 57 then some (ch - 48)
  else if 97 ≤ ch ∧ ch ≤ 102 then some (ch - 97 + 10)
  else if 65 ≤ ch ∧ ch ≤ 70 then some (ch - 65 + 10)
  else none

/-- What two hexadecimal digits behind a percent sign stand for. -/
def hexByte (high low : UInt8) : Option UInt8 :=
  match hexValue high, hexValue low with
  | some high, some low => some (high <<< 4 ||| low)
  | _, _ => none

/-- The loop over the characters.  A percent sign without two digits behind it stays. -/
def urlDecode (plusAsSpace : Bool) : Bytes → Bytes
  | [] => []
  | [ch] => [if ch = plus && plusAsSpace then space else ch]
  | [ch, last] =>
    [if ch = plus && plusAsSpace then space else ch,
      if last = plus && plusAsSpace then space else last]
  | ch :: high :: low :: value =>
    match if ch = percent then hexByte high low else none with
    | some c => c :: urlDecode plusAsSpace value
    | none => (if ch = plus && plusAsSpace then space else ch) ::
        urlDecode plusAsSpace (high :: low :: value)

/-! ## The query -/

def isSeparator (c : UInt8) : Bool := c = ampersand || c = semicolon

/-- A pair without an equals sign is a key alone. -/
def parsePair (request : LaunchRequest) (pair : Bytes) : Option LaunchRequest := do
  let separator := find pair equals 0
  let rawKey ← slice pair 0 (separator.getD pair.length)
  let rawValue ← match separator with
    | none => some []
    | some place => slice pair (place + 1) pair.length
  some (setLaunchValue request (urlDecode true rawKey) (urlDecode true rawValue))

/-- Empty pairs are skipped. -/
def parsePiece (request : LaunchRequest) (pair : Bytes) : Option LaunchRequest :=
  if pair = [] then some request else parsePair request pair

/-- The loop over the pairs. -/
def parseQuery (query : Bytes) (request : LaunchRequest) : Option LaunchRequest :=
  if _h : query = [] then some request
  else
    match query.findIdx? isSeparator with
    | none => parsePiece request query
    | some separator =>
      match (slice query 0 separator).bind (parsePiece request) with
      | none => none
      | some request =>
        if separator + 1 ≤ query.length then parseQuery (query.drop (separator + 1)) request
        else none
termination_by query.length
decreasing_by
  rw [List.length_drop]
  exact Nat.sub_lt (List.length_pos_iff.mpr _h) (Nat.succ_pos separator)

/-! ## Arguments in place of a query -/

/-- The tokens so far, the one that is being read, and the quote that it is in. -/
structure Tokens where
  tokens : List Bytes := []
  current : Bytes := []
  quote : Option UInt8 := none

namespace Tokens

def push (t : Tokens) : Tokens :=
  if t.current = [] then t else { t with tokens := t.tokens ++ [t.current], current := [] }

def next (t : Tokens) (ch : UInt8) : Tokens :=
  match t.quote with
  | some quote =>
    if ch = quote then { t with quote := none } else { t with current := t.current ++ [ch] }
  | none =>
    if ch = 39 ∨ ch = 34 then { t with quote := some ch }
    else if isspace ch then t.push
    else { t with current := t.current ++ [ch] }

end Tokens

def splitArgumentPayload (payload : Bytes) : List Bytes :=
  (payload.foldl Tokens.next {}).push.tokens

/-- A token of the form `--key=value`; others are skipped. -/
def parseToken (request : LaunchRequest) (token : Bytes) : Option LaunchRequest :=
  if ascii "--" <+: token then
    match find token equals 0 with
    | none => some request
    | some separator => do
      let key ← slice token 2 separator
      let value ← slice token (separator + 1) token.length
      some (setLaunchValue request key value)
  else some request

def parseArgumentPayload (payload : Bytes) (request : LaunchRequest) : Option LaunchRequest :=
  (splitArgumentPayload payload).foldlM parseToken request

/-! ## The URL -/

/-- `url.compare(start, 2, "//") == 0`, which throws behind the end. -/
def authorityAt (url : Bytes) (start : ℕ) : Option Bool :=
  (slice url start (start + 2)).map fun text => text = [slash, slash]

/-- `std::string::npos` is greater than any position, and the size is no smaller than any. -/
def orEnd (url : Bytes) (place : Option ℕ) : ℕ := place.getD url.length

/-- The query, if it stands in front of the fragment. -/
def parseUrlQuery (url : Bytes) (queryStart : Option ℕ) (queryEnd : ℕ) : Option LaunchRequest :=
  match queryStart with
  | none => some {}
  | some queryStart =>
    if queryStart < queryEnd then do
      let query ← slice url (queryStart + 1) queryEnd
      parseQuery query {}
    else some {}

/-- The authority is the address of the host unless the query says which host. -/
def parseAuthority (url : Bytes) (authorityStart : ℕ) (queryStart fragmentStart : Option ℕ)
    (request : LaunchRequest) : Option LaunchRequest := do
  if ← authorityAt url authorityStart then
    let hostStart := authorityStart + 2
    let hostEnd := min (orEnd url (find url slash hostStart))
      (min (orEnd url queryStart) (orEnd url fragmentStart))
    let text ← slice url hostStart hostEnd
    let authority := urlDecode false text
    if authority ≠ [] ∧ authority ≠ ascii "launch" ∧ request.mac = [] ∧ request.ip = [] then
      some { request with ip := authority }
    else some request
  else some request

/-- The arguments stand where the authority would. -/
def parsePayload (url : Bytes) (authorityStart : ℕ) (queryStart fragmentStart : Option ℕ)
    (request : LaunchRequest) : Option LaunchRequest := do
  if request.mac = [] ∧ request.ip = [] ∧ request.appId = [] then
    let payloadStart := if ← authorityAt url authorityStart then authorityStart + 2
      else authorityStart
    let payloadEnd := min (orEnd url queryStart) (orEnd url fragmentStart)
    let text ← slice url payloadStart payloadEnd
    let payload := (urlDecode true text).map fun c => if c = ampersand then space else c
    parseArgumentPayload payload request
  else some request

/-- `none` when some substring throws. -/
def parseDeepLinkUrl (url : Bytes) : Option LaunchRequest :=
  match find url colon 0 with
  | none => some {}
  | some schemeEnd => do
    let authorityStart := schemeEnd + 1
    let queryStart := find url question authorityStart
    let fragmentStart := find url hash authorityStart
    let request ← parseUrlQuery url queryStart (orEnd url fragmentStart)
    let request ← parseAuthority url authorityStart queryStart fragmentStart request
    parsePayload url authorityStart queryStart fragmentStart request

/-! ## What a URL says -/

inductive LaunchField
  | mac
  | ip
  | appId
  | appName
  deriving DecidableEq

namespace LaunchField

/-- The keys of a field, in lower case. -/
def keys : LaunchField → List Bytes
  | mac => [ascii "host", ascii "mac"]
  | ip => [ascii "ip", ascii "address"]
  | appId => [ascii "appid"]
  | appName => [ascii "appname", ascii "name"]

def get (request : LaunchRequest) : LaunchField → Bytes
  | mac => request.mac
  | ip => request.ip
  | appId => request.appId
  | appName => request.appName

def set (request : LaunchRequest) (value : Bytes) : LaunchField → LaunchRequest
  | mac => { request with mac := value }
  | ip => { request with ip := value }
  | appId => { request with appId := value }
  | appName => { request with appName := value }

/-- Any letter case, with dashes and underscores anywhere. -/
def Spelled (f : LaunchField) (key : Bytes) : Prop :=
  (key.filter fun c => !(c = minus || c = 95)).map tolower ∈ f.keys

instance (f : LaunchField) (key : Bytes) : Decidable (f.Spelled key) :=
  inferInstanceAs (Decidable (_ ∈ _))

end LaunchField

/-- A digit of a number below 16, in either case. -/
def IsHexDigit (n : ℕ) (digit : UInt8) : Prop :=
  (ascii "0123456789ABCDEF")[n]? = some digit ∨ (ascii "0123456789abcdef")[n]? = some digit

/-- How a byte may be written. -/
inductive Spells : UInt8 → Bytes → Prop
  | literal {c : UInt8} (h : c ∉ ascii "%&;=+#") : Spells c [c]
  | escaped {c high low : UInt8} (hhigh : IsHexDigit (c.toNat / 16) high)
    (hlow : IsHexDigit (c.toNat % 16) low) : Spells c [percent, high, low]
  | plus : Spells space [plus]

inductive Written : Bytes → Bytes → Prop
  | nil : Written [] []
  | cons {c : UInt8} {value spelled text : Bytes} (hc : Spells c spelled)
    (hvalue : Written value text) : Written (c :: value) (spelled ++ text)

/-- A pair that gives the field this value. -/
def Gives (f : LaunchField) (value text : Bytes) : Prop :=
  ∃ key writtenKey writtenValue, f.Spelled key ∧ Written key writtenKey ∧
    Written value writtenValue ∧ text = writtenKey ++ equals :: writtenValue

/-- An empty pair, or one whose key is unknown. -/
structure Idle (text : Bytes) : Prop where
  unseparated : ∀ c ∈ text, isSeparator c = false
  hash : hash ∉ text
  unknown : ∀ f : LaunchField, ¬f.Spelled (urlDecode true (text.takeWhile (· ≠ equals)))

/-- A query with pairs for these fields, in this order. -/
inductive Pairs (request : LaunchRequest) : List LaunchField → Bytes → Prop
  | lastIdle {text : Bytes} (h : Idle text) : Pairs request [] text
  | last {f : LaunchField} {text : Bytes} (h : Gives f (f.get request) text) :
    Pairs request [f] text
  | idle {fields : List LaunchField} {sep : UInt8} {text query : Bytes} (h : Idle text)
    (hsep : isSeparator sep = true) (hquery : Pairs request fields query) :
    Pairs request fields (text ++ sep :: query)
  | field {f : LaunchField} {fields : List LaunchField} {sep : UInt8} {text query : Bytes}
    (h : Gives f (f.get request) text) (hsep : isSeparator sep = true)
    (hquery : Pairs request fields query) : Pairs request (f :: fields) (text ++ sep :: query)

/-- A query that lists each field once, unless it is empty. -/
def Lists (request : LaunchRequest) (query : Bytes) : Prop :=
  ∃ fields, Pairs request fields query ∧ fields.Nodup ∧
    ∀ f : LaunchField, f ∈ fields ↔ f.get request ≠ []

variable {request : LaunchRequest} {c high low sep : UInt8}
  {key value text query url spelled : Bytes} {fields : List LaunchField} {f : LaunchField}

/-! ## What is written is decoded -/

lemma hexValue_of_isHexDigit : ∀ n < 16, ∀ digit, IsHexDigit n digit →
    hexValue digit = some (UInt8.ofNat n) := by
  intro n hn digit hdigit
  interval_cases n <;>
  · rcases hdigit with hupper | hlower
    · obtain rfl := Option.some.inj hupper
      decide
    · obtain rfl := Option.some.inj hlower
      decide

lemma hexByte_digits (c : UInt8) (hhigh : IsHexDigit (c.toNat / 16) high)
    (hlow : IsHexDigit (c.toNat % 16) low) : hexByte high low = some c := by
  have hlt := c.toNat_lt
  have hjoin : ∀ n < 256, UInt8.ofNat (n / 16) <<< 4 ||| UInt8.ofNat (n % 16) = UInt8.ofNat n := by
    decide +kernel
  rw [hexByte, hexValue_of_isHexDigit _ (by omega) _ hhigh,
    hexValue_of_isHexDigit _ (by omega) _ hlow]
  dsimp only
  rw [hjoin _ hlt, UInt8.ofNat_toNat]

/-- A character that is no percent sign stands for itself, but for a plus sign. -/
lemma urlDecode_cons {plusAsSpace : Bool} (h : c ≠ percent) (text : Bytes) :
    urlDecode plusAsSpace (c :: text) =
      (if c = plus && plusAsSpace then space else c) :: urlDecode plusAsSpace text := by
  rcases text with _ | ⟨high, _ | ⟨low, text⟩⟩
  · rfl
  · rfl
  · rw [urlDecode, if_neg h]

lemma urlDecode_spelled (h : Spells c spelled) (text : Bytes) :
    urlDecode true (spelled ++ text) = c :: urlDecode true text := by
  cases h with
  | literal h =>
    have hpercent : c ≠ percent := by
      rintro rfl
      exact h (by decide)
    have hplus : c ≠ plus := by
      rintro rfl
      exact h (by decide)
    rw [List.singleton_append, urlDecode_cons hpercent]
    simp [hplus]
  | escaped hhigh hlow =>
    rw [List.cons_append, List.cons_append, List.singleton_append, urlDecode, if_pos rfl,
      hexByte_digits c hhigh hlow]
  | plus =>
    rw [List.singleton_append, urlDecode_cons (by decide)]
    rfl

theorem urlDecode_written (h : Written value text) : urlDecode true text = value := by
  induction h with
  | nil => rfl
  | cons hc _ ih => rw [urlDecode_spelled hc, ih]

lemma written_self (h : ∀ c ∈ text, c ∉ ascii "%&;=+#") : Written text text := by
  induction text with
  | nil => exact .nil
  | cons c text ih =>
    rw [List.forall_mem_cons] at h
    exact .cons (.literal h.1) (ih h.2)

/-- What is written has no separators in it. -/
lemma plain_of_isHexDigit {n : ℕ} (hn : n < 16) {digit : UInt8} (h : IsHexDigit n digit) :
    digit ∉ ascii "&;=#" := by
  interval_cases n <;>
  · rcases h with hupper | hlower
    · obtain rfl := Option.some.inj hupper
      decide
    · obtain rfl := Option.some.inj hlower
      decide

lemma plain_of_spells (h : Spells c spelled) : ∀ d ∈ spelled, d ∉ ascii "&;=#" := by
  intro d hd
  cases h with
  | literal h =>
    obtain rfl := List.mem_singleton.mp hd
    intro hmem
    exact h ((show ascii "&;=#" ⊆ ascii "%&;=+#" by decide) hmem)
  | escaped hhigh hlow =>
    have hlt := c.toNat_lt
    simp only [List.mem_cons, List.not_mem_nil, or_false] at hd
    obtain rfl | rfl | rfl := hd
    · decide
    · exact plain_of_isHexDigit (by omega) hhigh
    · exact plain_of_isHexDigit (by omega) hlow
  | plus =>
    obtain rfl := List.mem_singleton.mp hd
    decide

lemma plain_of_written (h : Written value text) : ∀ d ∈ text, d ∉ ascii "&;=#" := by
  induction h with
  | nil => exact nofun
  | cons hc _ ih =>
    intro d hd
    exact (List.mem_append.mp hd).elim (plain_of_spells hc d) (ih d)

/-! ## Pairs -/

lemma normalizeKey_eq (key : Bytes) :
    normalizeKey key = (key.filter fun c => !(c = minus || c = 95)).map tolower := by
  have hfilter : ((key.dropWhile (· = minus)).filter fun c => !(c = minus || c = 95)) =
      key.filter fun c => !(c = minus || c = 95) := by
    induction key with
    | nil => rfl
    | cons c key ih =>
      by_cases hc : c = minus
      · subst hc
        rw [List.dropWhile_cons_of_pos (by decide), ih, List.filter_cons_of_neg (by decide)]
      · rw [List.dropWhile_cons_of_neg (by simpa using hc)]
  rw [normalizeKey, hfilter]

lemma setLaunchValue_spelled (h : f.Spelled key) (value : Bytes) :
    setLaunchValue request key value = f.set request value := by
  unfold LaunchField.Spelled at h
  rw [← normalizeKey_eq] at h
  unfold setLaunchValue
  cases f with
  | mac =>
    rcases List.mem_pair.mp h with hkey | hkey <;> rw [hkey] <;> rfl
  | ip =>
    rcases List.mem_pair.mp h with hkey | hkey <;> rw [hkey] <;> rfl
  | appId =>
    rw [List.mem_singleton.mp h]
    rfl
  | appName =>
    rcases List.mem_pair.mp h with hkey | hkey <;> rw [hkey] <;> rfl

lemma setLaunchValue_unknown (h : ∀ f : LaunchField, ¬f.Spelled key) (value : Bytes) :
    setLaunchValue request key value = request := by
  unfold LaunchField.Spelled at h
  simp only [← normalizeKey_eq] at h
  have hmac := h .mac
  have hip := h .ip
  have happId := h .appId
  have happName := h .appName
  simp only [LaunchField.keys, List.mem_cons, List.not_mem_nil, or_false]
    at hmac hip happId happName
  unfold setLaunchValue
  dsimp only
  rw [if_neg hmac, if_neg hip, if_neg happId, if_neg happName]

/-- The key and the value of a pair, cut at the first equals sign. -/
lemma parsePair_cut {rawKey rawValue : Bytes} (h : equals ∉ rawKey) :
    parsePair request (rawKey ++ equals :: rawValue) =
      some (setLaunchValue request (urlDecode true rawKey) (urlDecode true rawValue)) := by
  have hfind : find (rawKey ++ equals :: rawValue) equals 0 = some rawKey.length := by
    have hplace := @find_eq_some _ _ (rawKey ++ equals :: rawValue) rawKey rawValue equals 0 rfl h
    rwa [Nat.zero_add] at hplace
  have hkey : slice (rawKey ++ equals :: rawValue) 0 rawKey.length = some rawKey := by
    rw [slice_zero, List.take_left]
  have hvalue : slice (rawKey ++ equals :: rawValue) (rawKey.length + 1)
      (rawKey ++ equals :: rawValue).length = some rawValue := by
    rw [slice_rest, ← List.drop_drop, List.drop_left]
    · rfl
    · rw [List.length_append, List.length_cons]
      omega
  simp only [parsePair, hfind, Option.getD_some, hkey, hvalue]
  rfl

lemma parsePair_alone (h : equals ∉ text) :
    parsePair request text = some (setLaunchValue request (urlDecode true text) []) := by
  have hfind : find text equals 0 = none := find_eq_none h
  have hkey : slice text 0 text.length = some text := by
    rw [slice_zero, List.take_length]
  simp only [parsePair, hfind, Option.getD_none, hkey]
  rfl

/-- A pair is read in any case. -/
lemma parsePiece_isSome (request : LaunchRequest) (text : Bytes) :
    ∃ request', parsePiece request text = some request' := by
  unfold parsePiece
  split_ifs
  · exact ⟨_, rfl⟩
  · by_cases hmem : equals ∈ text
    · obtain ⟨rawKey, rawValue, rfl, hkey⟩ := List.eq_append_cons_of_mem hmem
      exact ⟨_, parsePair_cut hkey⟩
    · exact ⟨_, parsePair_alone hmem⟩

lemma parsePiece_gives (h : Gives f value text) :
    parsePiece request text = some (f.set request value) := by
  obtain ⟨key, writtenKey, writtenValue, hspelled, hkey, hvalue, rfl⟩ := h
  have hequals : equals ∉ writtenKey := fun hmem => plain_of_written hkey _ hmem (by decide)
  rw [parsePiece, if_neg (by simp), parsePair_cut hequals, urlDecode_written hkey,
    urlDecode_written hvalue, setLaunchValue_spelled hspelled]

lemma parsePiece_idle (h : Idle text) : parsePiece request text = some request := by
  unfold parsePiece
  split_ifs
  · rfl
  · have hunknown := h.unknown
    by_cases hmem : equals ∈ text
    · obtain ⟨rawKey, rawValue, rfl, hkey⟩ := List.eq_append_cons_of_mem hmem
      have hfront : ∀ c ∈ rawKey, decide (c ≠ equals) = true :=
        fun c hc => decide_eq_true fun heq => hkey (heq ▸ hc)
      rw [List.takeWhile_append_of_pos hfront, List.takeWhile_cons_of_neg (by simp),
        List.append_nil] at hunknown
      rw [parsePair_cut hkey, setLaunchValue_unknown hunknown]
    · have hall : ∀ c ∈ text, decide (c ≠ equals) = true :=
        fun c hc => decide_eq_true fun heq => hmem (heq ▸ hc)
      rw [List.takeWhile_eq_self_iff.mpr hall] at hunknown
      rw [parsePair_alone hmem, setLaunchValue_unknown hunknown]

/-! ## Queries -/

lemma parseQuery_last (h : ∀ c ∈ text, isSeparator c = false) :
    parseQuery text request = parsePiece request text := by
  have hnone : text.findIdx? isSeparator = none := List.findIdx?_eq_none_iff.mpr h
  rw [parseQuery]
  split_ifs with hnil
  · rw [parsePiece, if_pos hnil]
  · rw [hnone]

/-- The first pair is read, and then the rest. -/
lemma parseQuery_append (h : ∀ c ∈ text, isSeparator c = false) (hsep : isSeparator sep = true)
    (query : Bytes) : parseQuery (text ++ sep :: query) request =
      (parsePiece request text).bind (parseQuery query) := by
  have hsome : (text ++ sep :: query).findIdx? isSeparator = some text.length := by
    rw [List.findIdx?_append, List.findIdx?_eq_none_iff.mpr h, List.findIdx?_cons, hsep]
    simp
  have hpair : slice (text ++ sep :: query) 0 text.length = some text := by
    rw [slice_zero, List.take_left]
  have hrest : (text ++ sep :: query).drop (text.length + 1) = query := by
    rw [← List.drop_drop, List.drop_left]
    rfl
  have hlength : text.length + 1 ≤ (text ++ sep :: query).length := by
    rw [List.length_append, List.length_cons]
    omega
  obtain ⟨request', hpiece⟩ := parsePiece_isSome request text
  rw [parseQuery, dif_neg (by simp), hsome]
  dsimp only
  rw [hpair, Option.bind_some, hpiece]
  dsimp only
  rw [if_pos hlength, hrest, Option.bind_some]

lemma parseQuery_isSome (query : Bytes) (request : LaunchRequest) :
    ∃ request', parseQuery query request = some request' := by
  induction hn : query.length using Nat.strongRecOn generalizing query request with
  | ind n ih =>
    by_cases hall : ∀ c ∈ query, isSeparator c = false
    · rw [parseQuery_last hall]
      exact parsePiece_isSome request query
    · -- up to the first separator there is none
      push Not at hall
      obtain ⟨sep, hmem, hsep⟩ := hall
      rw [Ne, Bool.not_eq_false] at hsep
      obtain ⟨first, text, rest, hplain, hfirst, rfl, -⟩ := List.exists_of_eraseP hmem hsep
      simp only [Bool.not_eq_true] at hplain
      obtain ⟨request', hpiece⟩ := parsePiece_isSome request text
      rw [parseQuery_append hplain hfirst, hpiece, Option.bind_some]
      refine ih rest.length ?_ rest request' rfl
      rw [← hn, List.length_append, List.length_cons]
      omega

/-- What a pair of a request, and one of another kind, has in it. -/
lemma plain_of_gives (h : Gives f value text) :
    (∀ c ∈ text, isSeparator c = false) ∧ hash ∉ text := by
  obtain ⟨key, writtenKey, writtenValue, -, hkey, hvalue, rfl⟩ := h
  have hplain : ∀ c ∈ writtenKey ++ equals :: writtenValue, c ∉ ascii "&;#" := by
    intro c hc hmem
    have hwide := (show ascii "&;#" ⊆ ascii "&;=#" by decide) hmem
    rcases List.mem_append.mp hc with hc | hc
    · exact plain_of_written hkey c hc hwide
    · rcases List.mem_cons.mp hc with rfl | hc
      · exact absurd hmem (by decide)
      · exact plain_of_written hvalue c hc hwide
  refine ⟨fun c hc => ?_, fun hmem => hplain hash hmem (by decide)⟩
  rw [isSeparator, Bool.or_eq_false_iff, decide_eq_false_iff_not, decide_eq_false_iff_not]
  refine ⟨?_, ?_⟩ <;>
  · rintro rfl
    exact hplain _ hc (by decide)

/-- Every field that has a pair is set. -/
lemma parseQuery_pairs (h : Pairs request fields query) (start : LaunchRequest) :
    parseQuery query start = some (fields.foldl (fun r f => f.set r (f.get request)) start) := by
  induction h generalizing start with
  | lastIdle h => rw [parseQuery_last h.unseparated, parsePiece_idle h, List.foldl_nil]
  | last h =>
    rw [parseQuery_last (plain_of_gives h).1, parsePiece_gives h, List.foldl_cons, List.foldl_nil]
  | idle h hsep _ ih =>
    rw [parseQuery_append h.unseparated hsep, parsePiece_idle h, Option.bind_some, ih]
  | field h hsep _ ih =>
    rw [parseQuery_append (plain_of_gives h).1 hsep, parsePiece_gives h, Option.bind_some, ih,
      List.foldl_cons]

lemma hash_notMem_pairs (h : Pairs request fields query) : hash ∉ query := by
  have hjoin (text query : Bytes) (sep : UInt8) (hsep : isSeparator sep = true)
      (htext : hash ∉ text) (hquery : hash ∉ query) : hash ∉ text ++ sep :: query := by
    have hne : hash ≠ sep := by
      rintro rfl
      cases hsep
    rw [List.mem_append, List.mem_cons]
    tauto
  induction h with
  | lastIdle h => exact h.hash
  | last h => exact (plain_of_gives h).2
  | idle h hsep _ ih => exact hjoin _ _ _ hsep h.hash ih
  | field h hsep _ ih => exact hjoin _ _ _ hsep (plain_of_gives h).2 ih

namespace LaunchField

lemma get_set (f g : LaunchField) (request : LaunchRequest) (value : Bytes) :
    g.get (f.set request value) = if g = f then value else g.get request := by
  cases f <;> cases g <;> rfl

lemma ext {r r' : LaunchRequest} (h : ∀ f : LaunchField, f.get r = f.get r') : r = r' := by
  obtain ⟨mac, ip, appId, appName⟩ := r
  obtain ⟨mac', ip', appId', appName'⟩ := r'
  obtain rfl : mac = mac' := h .mac
  obtain rfl : ip = ip' := h .ip
  obtain rfl : appId = appId' := h .appId
  obtain rfl : appName = appName' := h .appName
  rfl

lemma get_foldl_set (fields : List LaunchField) (start : LaunchRequest) (g : LaunchField) :
    g.get (fields.foldl (fun r f => f.set r (f.get request)) start) =
      if g ∈ fields then g.get request else g.get start := by
  induction fields generalizing start with
  | nil => rfl
  | cons f fields ih =>
    rw [List.foldl_cons, ih, get_set]
    by_cases hmem : g ∈ fields
    · rw [if_pos hmem, if_pos (List.mem_cons_of_mem f hmem)]
    · rw [if_neg hmem]
      by_cases hsame : g = f
      · rw [if_pos hsame, hsame, if_pos List.mem_cons_self]
      · rw [if_neg hsame, if_neg (by simp [hsame, hmem])]

end LaunchField

/-- The fields without a pair are empty. -/
lemma foldl_set_eq (h : ∀ f : LaunchField, f ∈ fields ↔ f.get request ≠ []) :
    fields.foldl (fun r f => f.set r (f.get request)) {} = request := by
  refine LaunchField.ext fun g => ?_
  rw [LaunchField.get_foldl_set]
  by_cases hmem : g ∈ fields
  · rw [if_pos hmem]
  · have hempty : g.get request = [] := not_not.mp (mt (h g).mpr hmem)
    rw [if_neg hmem, hempty]
    cases g <;> rfl

theorem parseQuery_lists (h : Lists request query) : parseQuery query {} = some request := by
  obtain ⟨fields, hpairs, -, hfields⟩ := h
  rw [parseQuery_pairs hpairs, foldl_set_eq hfields]

/-! ## URLs of the launcher -/

/-- The URL with this query. -/
def launchUrl (query : Bytes) : Bytes := ascii "moonlightswitch://launch?" ++ query

section Places
variable (query : Bytes)

lemma length_launchUrl : (launchUrl query).length = 25 + query.length := List.length_append

lemma drop_launchUrl : (launchUrl query).drop 16 = ascii "//launch" ++ question :: query := rfl

lemma find_scheme : find (launchUrl query) colon 0 = some 15 :=
  @find_eq_some _ _ (launchUrl query) (ascii "moonlightswitch") (ascii "//launch?" ++ query)
    colon 0 rfl (by decide)

lemma find_query : find (launchUrl query) question 16 = some 24 :=
  find_eq_some (drop_launchUrl query) (by decide)

lemma find_fragment (hhash : hash ∉ query) : find (launchUrl query) hash 16 = none := by
  refine find_eq_none ?_
  rw [drop_launchUrl, List.mem_append, List.mem_cons]
  rintro (hmem | hmem | hmem)
  · exact absurd hmem (by decide)
  · exact absurd hmem (by decide)
  · exact hhash hmem

/-- A path can only start behind the host. -/
lemma le_find_slash : 24 ≤ orEnd (launchUrl query) (find (launchUrl query) slash 18) := by
  cases hfind : find (launchUrl query) slash 18 with
  | none =>
    rw [orEnd, Option.getD_none, length_launchUrl]
    omega
  | some place =>
    obtain ⟨front, behind, hdrop, hfront, rfl⟩ := find_eq_some_iff.mp hfind
    have htext : ascii "launch" ++ question :: query = front ++ slash :: behind := hdrop
    -- a slash that stood earlier would be a letter of the host
    have hnot : ¬front.length < 6 := by
      intro hlt
      have hmem : slash ∈ ascii "launch" := by
        have hget := congrArg (·[front.length]?) htext
        simp only [List.getElem?_append_right (Nat.le_refl front.length), Nat.sub_self,
          List.getElem?_cons_zero] at hget
        rw [List.getElem?_append_left (by exact hlt)] at hget
        exact List.mem_of_getElem? hget
      exact absurd hmem (by decide)
    rw [orEnd, Option.getD_some]
    omega

end Places

/-- The authority is the host. -/
lemma parseAuthority_launchUrl (request : LaunchRequest) (query : Bytes) :
    parseAuthority (launchUrl query) 16 (some 24) none request = some request := by
  have hlength := length_launchUrl query
  have hslash := le_find_slash query
  have hauthority : authorityAt (launchUrl query) 16 = some true := by
    rw [authorityAt, slice_of_le (by omega) (by omega)]
    rfl
  have hhost : slice (launchUrl query) 18 24 = some (ascii "launch") := by
    rw [slice_of_le (by omega) (by omega)]
    rfl
  have hend : min (orEnd (launchUrl query) (find (launchUrl query) slash 18))
      (min (orEnd (launchUrl query) (some 24)) (orEnd (launchUrl query) none)) = 24 := by
    have hquestion : orEnd (launchUrl query) (some 24) = 24 := rfl
    have hnone : orEnd (launchUrl query) none = (launchUrl query).length := rfl
    omega
  have hdecoded : urlDecode false (ascii "launch") = ascii "launch" := by decide
  unfold parseAuthority
  rw [hauthority]
  simp only [Option.bind_eq_bind, Option.bind_some, if_true, hend, hhost]
  exact if_neg fun h => h.2.1 hdecoded

/-- The request of the query, which says which host or which app, is all that is read. -/
lemma parseDeepLinkUrl_launchUrl (hquery : parseQuery query {} = some request)
    (hhash : hash ∉ query) (hgiven : ¬(request.mac = [] ∧ request.ip = [] ∧ request.appId = [])) :
    parseDeepLinkUrl (launchUrl query) = some request := by
  have hlength := length_launchUrl query
  have htext : slice (launchUrl query) 25 (launchUrl query).length = some query := by
    rw [slice_rest (by omega)]
    rfl
  have hparsed : parseUrlQuery (launchUrl query) (some 24) (launchUrl query).length =
      some request := by
    rw [parseUrlQuery, if_pos (by omega), htext]
    exact hquery
  have hpayload : parsePayload (launchUrl query) 16 (some 24) none request = some request := by
    rw [parsePayload, if_neg hgiven]
  have hnone : orEnd (launchUrl query) none = (launchUrl query).length := rfl
  have hstart := find_query query
  have hfragment := find_fragment query hhash
  have hhosted := parseAuthority_launchUrl request query
  rw [parseDeepLinkUrl, find_scheme]
  simp only [hstart, hfragment]
  rw [hnone, hparsed]
  simp only [Option.bind_eq_bind, Option.bind_some, hhosted, hpayload]

/-! ## Every URL is read -/

lemma foldlM_isSome {α β : Type} {step : α → β → Option α} (h : ∀ a b, ∃ a', step a b = some a')
    (l : List β) (a : α) : ∃ a', l.foldlM step a = some a' := by
  induction l generalizing a with
  | nil => exact ⟨a, rfl⟩
  | cons b l ih =>
    obtain ⟨a', ha⟩ := h a b
    obtain ⟨a'', ha'⟩ := ih a'
    exact ⟨a'', by rw [List.foldlM_cons, ha]; exact ha'⟩

/-- The equals sign of an argument stands behind its dashes. -/
lemma parseToken_isSome (request : LaunchRequest) (token : Bytes) :
    ∃ request', parseToken request token = some request' := by
  unfold parseToken
  split_ifs with hdashes
  · cases hfind : find token equals 0 with
    | none => exact ⟨_, rfl⟩
    | some separator =>
      obtain ⟨rest, rfl⟩ := hdashes
      have hlt := lt_of_find hfind
      have hbehind : 2 ≤ separator := by
        obtain ⟨front, behind, hdrop, hfront, rfl⟩ := find_eq_some_iff.mp hfind
        rcases front with _ | ⟨first, _ | ⟨second, front⟩⟩
        · cases (List.cons.inj hdrop).1
        · cases (List.cons.inj (List.cons.inj hdrop).2).1
        · simp
      dsimp only
      rw [slice_of_le (by omega) hbehind, slice_rest (by omega)]
      exact ⟨_, rfl⟩
  · exact ⟨_, rfl⟩

lemma authorityAt_isSome {start : ℕ} (h : start ≤ url.length) :
    ∃ here, authorityAt url start = some here := by
  rw [authorityAt, slice_of_le h (Nat.le_add_right _ _)]
  exact ⟨_, rfl⟩

/-- An authority starts behind two slashes, and neither a question mark nor a hash is one. -/
lemma le_of_authorityAt {start : ℕ} (h : authorityAt url start = some true) :
    start + 2 ≤ url.length ∧
      ∀ sep, sep ≠ slash → start + 2 ≤ orEnd url (find url sep start) := by
  obtain ⟨text, hslice, htext⟩ := Option.map_eq_some_iff.mp h
  unfold slice at hslice
  split_ifs at hslice with hle
  obtain rfl := Option.some.inj hslice
  rw [decide_eq_true_eq, Nat.add_sub_cancel_left] at htext
  have hlength : start + 2 ≤ url.length := by
    have htwo := congrArg List.length htext
    rw [List.length_take, List.length_drop] at htwo
    simp only [List.length_cons, List.length_nil] at htwo
    omega
  refine ⟨hlength, fun sep hne => ?_⟩
  cases hfind : find url sep start with
  | none => exact hlength
  | some place =>
    obtain ⟨front, behind, hdrop, -, rfl⟩ := find_eq_some_iff.mp hfind
    rw [hdrop] at htext
    have hfront : 2 ≤ front.length := by
      rcases front with _ | ⟨first, _ | ⟨second, front⟩⟩
      · exact absurd (List.cons.inj htext).1 hne
      · exact absurd (List.cons.inj (List.cons.inj htext).2).1 hne
      · simp
    exact Nat.add_le_add_left hfront start

lemma orEnd_le (sep : UInt8) (pos : ℕ) : orEnd url (find url sep pos) ≤ url.length :=
  getD_find_le url sep pos

lemma le_orEnd {sep : UInt8} {pos : ℕ} (h : pos ≤ url.length) :
    pos ≤ orEnd url (find url sep pos) :=
  le_getD_find h

lemma parseUrlQuery_isSome {queryEnd start : ℕ} (hend : queryEnd ≤ url.length) :
    ∃ request, parseUrlQuery url (find url question start) queryEnd = some request := by
  unfold parseUrlQuery
  cases hfind : find url question start with
  | none => exact ⟨_, rfl⟩
  | some place =>
    dsimp only
    split_ifs with hlt
    · rw [slice_of_le (by omega) (by omega)]
      exact parseQuery_isSome _ _
    · exact ⟨_, rfl⟩

lemma parseAuthority_isSome {start : ℕ} (hstart : start ≤ url.length) (request : LaunchRequest) :
    ∃ request', parseAuthority url start (find url question start) (find url hash start) request =
      some request' := by
  obtain ⟨here, hhere⟩ := authorityAt_isSome hstart
  unfold parseAuthority
  rw [hhere]
  cases here with
  | false => exact ⟨_, rfl⟩
  | true =>
    obtain ⟨hle, hplaces⟩ := le_of_authorityAt hhere
    have hquery := hplaces question (by decide)
    have hfragment := hplaces hash (by decide)
    have hslash : start + 2 ≤ orEnd url (find url slash (start + 2)) := le_orEnd hle
    simp only [Option.bind_eq_bind, Option.bind_some, if_true]
    rw [slice_of_le hle (by omega), Option.bind_some]
    split_ifs <;> exact ⟨_, rfl⟩

lemma parsePayload_isSome {start : ℕ} (hstart : start ≤ url.length) (request : LaunchRequest) :
    ∃ request', parsePayload url start (find url question start) (find url hash start) request =
      some request' := by
  obtain ⟨here, hhere⟩ := authorityAt_isSome hstart
  unfold parsePayload
  split_ifs
  · rw [hhere]
    have hpayload : (if here = true then start + 2 else start) ≤ url.length ∧
        (if here = true then start + 2 else start) ≤
          min (orEnd url (find url question start)) (orEnd url (find url hash start)) := by
      cases here with
      | false =>
        exact ⟨hstart, Nat.le_min.mpr ⟨le_orEnd hstart, le_orEnd hstart⟩⟩
      | true =>
        obtain ⟨hle, hplaces⟩ := le_of_authorityAt hhere
        exact ⟨hle, Nat.le_min.mpr ⟨hplaces question (by decide), hplaces hash (by decide)⟩⟩
    simp only [Option.bind_eq_bind, Option.bind_some]
    rw [slice_of_le hpayload.1 hpayload.2, Option.bind_some]
    exact foldlM_isSome parseToken_isSome _ _
  · exact ⟨_, rfl⟩

lemma parseDeepLinkUrl_isSome (url : Bytes) : ∃ request, parseDeepLinkUrl url = some request := by
  unfold parseDeepLinkUrl
  cases hfind : find url colon 0 with
  | none => exact ⟨_, rfl⟩
  | some schemeEnd =>
    have hstart : schemeEnd + 1 ≤ url.length := lt_of_find hfind
    obtain ⟨first, hfirst⟩ :=
      @parseUrlQuery_isSome url (orEnd url (find url hash (schemeEnd + 1))) (schemeEnd + 1)
        (orEnd_le hash _)
    obtain ⟨second, hsecond⟩ := parseAuthority_isSome hstart first
    dsimp only
    rw [hfirst]
    simp only [Option.bind_eq_bind, Option.bind_some, hsecond]
    exact parsePayload_isSome hstart second

/-- **A deep link says what is launched, and any URL is read.** -/
theorem deep_links_decode :
    (∀ request query, request.mac ≠ [] ∨ request.ip ≠ [] ∨ request.appId ≠ [] →
      Lists request query → parseDeepLinkUrl (launchUrl query) = some request) ∧
    ∀ url, ∃ request, parseDeepLinkUrl url = some request := by
  refine ⟨fun request query hgiven hlists => ?_, parseDeepLinkUrl_isSome⟩
  have hquery := parseQuery_lists hlists
  obtain ⟨fields, hpairs, -⟩ := hlists
  exact parseDeepLinkUrl_launchUrl hquery (hash_notMem_pairs hpairs) (by tauto)

/-- A pair of another kind, an empty one, and two fields. -/
def deskQuery : Bytes := ascii "utm=1&&Ho-St=a%2Fb;app_ID=7"

def deskRequest : LaunchRequest := { mac := ascii "a/b", appId := ascii "7" }

lemma lists_deskQuery : Lists deskRequest deskQuery := by
  have hutm : Idle (ascii "utm=1") := by
    refine ⟨by decide +kernel, by decide +kernel, fun f => ?_⟩
    cases f <;> decide +kernel
  have hempty : Idle [] := by
    refine ⟨nofun, nofun, fun f => ?_⟩
    cases f <;> decide +kernel
  have hmac : Written (ascii "a/b") (ascii "a%2Fb") := by
    have hslash : Spells slash (ascii "%2F") := .escaped (.inl rfl) (.inl rfl)
    exact .cons (.literal (by decide +kernel))
      (.cons hslash (.cons (.literal (by decide +kernel)) .nil))
  have hhost : Gives .mac (LaunchField.mac.get deskRequest) (ascii "Ho-St=a%2Fb") :=
    ⟨ascii "Ho-St", _, _, by decide +kernel, written_self (by decide +kernel), hmac, rfl⟩
  have happ : Gives .appId (LaunchField.appId.get deskRequest) (ascii "app_ID=7") :=
    ⟨ascii "app_ID", _, _, by decide +kernel, written_self (by decide +kernel),
      written_self (by decide +kernel), rfl⟩
  refine ⟨[.mac, .appId], .idle hutm rfl (.idle hempty rfl (.field hhost rfl (.last happ))),
    by decide +kernel, fun f => ?_⟩
  cases f <;> decide +kernel

theorem deep_links_decode_desk : parseDeepLinkUrl
    (ascii "moonlightswitch://launch?utm=1&&Ho-St=a%2Fb;app_ID=7") =
      some { mac := ascii "a/b", appId := ascii "7" } :=
  deep_links_decode.1 deskRequest deskQuery (by decide) lists_deskQuery

end ArtemisSwitch.Launch

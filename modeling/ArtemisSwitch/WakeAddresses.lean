import ArtemisSwitch.DecimalText
import ArtemisSwitch.Library.Substrings

/-!
# Addresses to wake a host at

`split_address_and_port` of the wake-on-LAN manager reads what `format_host_address` writes, as
`parse_host_address` does.  Of the two only `parse_host_address` reads any text.
-/

namespace ArtemisSwitch.WakeOnLan
open HostAddress DecimalText SplitLoops Substrings

def openingBracket : UInt8 := 91

def closingBracket : UInt8 := 93

/-! ## `parse_host_address` by positions -/

/-- An address in brackets, if they are closed. -/
def parseBracketed (value : Bytes) : Option ParsedHostAddress :=
  match find value closingBracket 0 with
  | none => some { host := value, isHostname := true }
  | some close => do
    let host ← slice value 1 close
    if value[close + 1]? = some colon then
      let text ← slice value (close + 2) value.length
      some { host := host, isIpv6 := true, port := parsePort text }
    else some { host := host, isIpv6 := true }

/-- Many colons are those of an address without brackets. -/
def parseBare (value : Bytes) : Option ParsedHostAddress :=
  match find value colon 0 with
  | none =>
    some { host := value, isIpv4 := looksLikeIpv4 value, isHostname := !looksLikeIpv4 value }
  | some separator =>
    if (find value colon (separator + 1)).isSome then some { host := value, isIpv6 := true }
    else do
      let host ← slice value 0 separator
      let text ← slice value (separator + 1) value.length
      some
        { host := host
          port := parsePort text
          isIpv4 := looksLikeIpv4 host
          isHostname := !looksLikeIpv4 host }

/-- `none` when some substring throws. -/
def checkedHostAddress (input : Bytes) : Option ParsedHostAddress :=
  let value := (input.dropWhile isspace).rdropWhile isspace
  if value = [] then some {}
  else if value.head? = some openingBracket then parseBracketed value
  else parseBare value

/-! ## `split_address_and_port` -/

def DEFAULT_SUNSHINE_PORT : ℕ := 47989

/-- `std::stoul`, without a value where it throws. -/
def stoul (text : Bytes) : Option ℕ :=
  let (negative, rest) := splitSign (text.dropWhile isspace)
  let digits := rest.takeWhile isdigit
  if digits = [] ∨ 2 ^ 64 ≤ digitsValue digits then none
  else some (if negative then (2 ^ 64 - digitsValue digits) % 2 ^ 64 else digitsValue digits)

/-- Whether there is a port, and which, unless `std::stoul` throws. -/
def tryParsePort (portText : Bytes) : Option (Option ℕ) :=
  if portText = [] ∨ portText.all isdigit = false then some none
  else do
    let parsedPort ← stoul portText
    some (if parsedPort = 0 ∨ 65535 < parsedPort then none else some parsedPort)

/-- What is returned and what the two references refer to then. -/
structure Split where
  ok : Bool
  address : Bytes
  basePort : ℕ
  deriving DecidableEq, Repr

def splitBracketed (addressPort address : Bytes) : Option Split :=
  match find addressPort closingBracket 0 with
  | none => some ⟨false, address, DEFAULT_SUNSHINE_PORT⟩
  | some close => do
    let address ← slice addressPort 1 close
    match addressPort[close + 1]? with
    | none => some ⟨address ≠ [], address, DEFAULT_SUNSHINE_PORT⟩
    | some c =>
      if c = colon then
        let port ← tryParsePort (← slice addressPort (close + 2) addressPort.length)
        some ⟨port.isSome, address, port.getD DEFAULT_SUNSHINE_PORT⟩
      else some ⟨false, address, DEFAULT_SUNSHINE_PORT⟩

/-- What stands behind the only colon, if it is a port. -/
def splitPort (addressPort : Bytes) : Option (Option (ℕ × ℕ)) :=
  if addressPort.count colon = 1 then
    match rfind addressPort colon with
    | none => some none
    | some portSeparator => do
      let port ← tryParsePort (← slice addressPort (portSeparator + 1) addressPort.length)
      some (port.map (portSeparator, ·))
  else some none

def splitBare (addressPort : Bytes) : Option Split := do
  match ← splitPort addressPort with
  | none => some ⟨true, addressPort, DEFAULT_SUNSHINE_PORT⟩
  | some (portSeparator, parsedPort) =>
    let address ← slice addressPort 0 portSeparator
    some ⟨address ≠ [], address, parsedPort⟩

/-- `none` when it throws. -/
def splitAddressAndPort (addressPort address : Bytes) (basePort : ℕ) : Option Split :=
  if addressPort = [] then some ⟨false, address, basePort⟩
  else if addressPort.head? = some openingBracket then splitBracketed addressPort address
  else splitBare addressPort

/-! ## What the formatter is given -/

/-- A host and its kind, with a port or none. -/
inductive Formattable : ParsedHostAddress → Prop
  | ipv4 {host : Bytes} {port : Option ℕ} (hhost : looksLikeIpv4 host = true)
    (hport : ∀ n ∈ port, 1 ≤ n ∧ n ≤ 65535) : Formattable { host, port, isIpv4 := true }
  | name {host : Bytes} {port : Option ℕ} (hne : host ≠ []) (hhost : looksLikeIpv4 host = false)
    (hplain : ∀ c ∈ host, isspace c = false ∧ c ≠ colon ∧ c ≠ openingBracket ∧ c ≠ closingBracket)
    (hport : ∀ n ∈ port, 1 ≤ n ∧ n ≤ 65535) : Formattable { host, port, isHostname := true }
  | ipv6 {host : Bytes} {port : Option ℕ} (hne : host ≠ []) (hhost : closingBracket ∉ host)
    (hport : ∀ n ∈ port, 1 ≤ n ∧ n ≤ 65535) : Formattable { host, port, isIpv6 := true }

/-- The digits behind the only place where a port may stand are too great for an
`unsigned long`. -/
def Overlong (s : Bytes) : Prop :=
  ∃ front digits, s = front ++ colon :: digits ∧ digits.all isdigit = true ∧
    2 ^ 64 ≤ digitsValue digits ∧
      ((colon ∉ front ∧ front.head? ≠ some openingBracket) ∨
        ∃ host, closingBracket ∉ host ∧ front = openingBracket :: host ++ [closingBracket])

variable {host front behind text digits s : Bytes} {address : Bytes} {basePort port : ℕ}

/-! ## Around a separator -/

lemma find_first {sep : UInt8} (h : sep ∉ front) :
    find (front ++ sep :: behind) sep 0 = some front.length := by
  rw [find_eq_some rfl h, Nat.zero_add]

lemma drop_behind (sep : UInt8) (front behind : Bytes) :
    (front ++ sep :: behind).drop (front.length + 1) = behind := by
  rw [List.drop_append, List.drop_of_length_le (Nat.le_succ _), Nat.add_sub_cancel_left]
  rfl

lemma slice_behind (sep : UInt8) (front behind : Bytes) :
    slice (front ++ sep :: behind) (front.length + 1) (front ++ sep :: behind).length =
      some behind := by
  have hlength : (front ++ sep :: behind).length = front.length + 1 + behind.length := by
    rw [List.length_append, List.length_cons]
    omega
  rw [slice_rest (by omega), drop_behind]

lemma slice_front (sep : UInt8) (front behind : Bytes) :
    slice (front ++ sep :: behind) 0 front.length = some front := by
  rw [slice_zero, List.take_left]

section Closed

/-- What the two parsers do at an address whose brackets are closed. -/
lemma find_closed (h : closingBracket ∉ host) :
    find (openingBracket :: host ++ closingBracket :: behind) closingBracket 0 =
      some (host.length + 1) := by
  refine (@find_first (openingBracket :: host) _ _ ?_).trans rfl
  rintro (_ | ⟨_, hmem⟩)
  exact h hmem

lemma slice_closed : slice (openingBracket :: host ++ closingBracket :: behind) 1
    (host.length + 1) = some host :=
  @slice_middle _ [openingBracket] _ _ _ _ rfl (Nat.add_comm _ _)

lemma getElem?_closed :
    (openingBracket :: host ++ closingBracket :: behind)[host.length + 1 + 1]? = behind.head? := by
  rw [List.getElem?_append_right (by simp), List.length_cons, Nat.add_sub_cancel_left,
    List.head?_eq_getElem?]
  rfl

lemma slice_closed_behind : slice (openingBracket :: host ++ closingBracket :: colon :: text)
    (host.length + 1 + 2) (openingBracket :: host ++ closingBracket :: colon :: text).length =
      some text := by
  have hbehind := slice_behind colon (openingBracket :: host ++ [closingBracket]) text
  simp only [List.length_append, List.length_cons, List.append_assoc, List.cons_append,
    List.nil_append, List.length_nil] at hbehind ⊢
  exact hbehind

end Closed

/-! ## `parse_host_address` returns -/

lemma parseBracketed_port (h : closingBracket ∉ host) :
    parseBracketed (openingBracket :: host ++ closingBracket :: colon :: text) =
      some { host := host, isIpv6 := true, port := parsePort text } := by
  rw [parseBracketed, find_closed h]
  simp only [slice_closed, getElem?_closed, slice_closed_behind, List.head?_cons, if_true,
    Option.bind_eq_bind, Option.bind_some]

lemma parseBracketed_none (h : closingBracket ∉ host) (hbehind : behind.head? ≠ some colon) :
    parseBracketed (openingBracket :: host ++ closingBracket :: behind) =
      some { host := host, isIpv6 := true } := by
  rw [parseBracketed, find_closed h]
  simp only [slice_closed, getElem?_closed, if_neg hbehind, Option.bind_eq_bind, Option.bind_some]

lemma parseBare_none (h : colon ∉ s) : parseBare s =
    some { host := s, isIpv4 := looksLikeIpv4 s, isHostname := !looksLikeIpv4 s } := by
  rw [parseBare, find_eq_none h]

lemma find_second (front : Bytes) :
    find (front ++ colon :: text) colon (front.length + 1) = none ↔ colon ∉ text := by
  have hdrop := drop_behind colon front text
  constructor
  · intro hnone hmem
    obtain ⟨before, behind, hsplit, hbefore⟩ := List.eq_append_cons_of_mem hmem
    rw [find_eq_some (hdrop.trans hsplit) hbefore] at hnone
    cases hnone
  · intro h
    exact find_eq_none (by rwa [hdrop])

lemma parseBare_port (hfront : colon ∉ host) (htext : colon ∉ text) :
    parseBare (host ++ colon :: text) =
      some
        { host := host
          port := parsePort text
          isIpv4 := looksLikeIpv4 host
          isHostname := !looksLikeIpv4 host } := by
  rw [parseBare, find_first hfront]
  simp only [(find_second host).mpr htext, slice_front, slice_behind, Option.isSome_none,
    Bool.false_eq_true, if_false, Option.bind_eq_bind, Option.bind_some]

lemma parseBare_colons (hfront : colon ∉ host) (htext : colon ∈ text) :
    parseBare (host ++ colon :: text) =
      some { host := host ++ colon :: text, isIpv6 := true } := by
  have hsome : (find (host ++ colon :: text) colon (host.length + 1)).isSome = true := by
    rw [Option.isSome_iff_ne_none, ne_eq, find_second]
    exact not_not_intro htext
  rw [parseBare, find_first hfront]
  simp only [hsome, if_true]

lemma takeWhile_cut {sep : UInt8} (h : sep ∉ front) :
    (front ++ sep :: behind).takeWhile (· ≠ sep) = front := by
  rw [List.takeWhile_append_of_pos fun c hc => by simpa using ne_of_mem_of_not_mem hc h]
  simp

lemma dropWhile_cut {sep : UInt8} (h : sep ∉ front) :
    ((front ++ sep :: behind).dropWhile (· ≠ sep)).drop 1 = behind := by
  rw [List.dropWhile_append_of_pos fun c hc => by simpa using ne_of_mem_of_not_mem hc h]
  simp

/-- No substring of `parse_host_address` starts behind its text. -/
theorem checkedHostAddress_eq (input : Bytes) :
    checkedHostAddress input = some (parseHostAddress input) := by
  unfold checkedHostAddress parseHostAddress
  dsimp only
  generalize (input.dropWhile isspace).rdropWhile isspace = value
  rcases value with _ | ⟨first, rest⟩
  · rfl
  dsimp only
  rw [if_neg (List.cons_ne_nil first rest), List.head?_cons]
  by_cases hopen : first = openingBracket
  · subst hopen
    rw [if_pos rfl, if_pos (show openingBracket = 91 from rfl)]
    by_cases hclose : closingBracket ∈ rest
    · obtain ⟨host, behind, rfl, hhost⟩ := List.eq_append_cons_of_mem hclose
      have htake : (host ++ closingBracket :: behind).takeWhile (· ≠ 93) = host :=
        takeWhile_cut hhost
      have hdrop : ((host ++ closingBracket :: behind).dropWhile (· ≠ 93)).drop 1 = behind :=
        dropWhile_cut hhost
      rw [if_pos (show (93 : UInt8) ∈ host ++ closingBracket :: behind from hclose), htake, hdrop]
      rcases behind with _ | ⟨c, text⟩
      · exact parseBracketed_none hhost nofun
      by_cases hc : c = colon
      · subst hc
        exact parseBracketed_port hhost
      · refine (parseBracketed_none hhost (by simpa using hc)).trans ?_
        split
        · rename_i heq
          exact absurd (List.cons.inj heq).1 hc
        · rfl
    · have hfind : find (openingBracket :: rest) closingBracket 0 = none := by
        refine find_eq_none ?_
        rintro (_ | ⟨_, hmem⟩)
        exact hclose hmem
      rw [if_neg (show ¬(93 : UInt8) ∈ rest from hclose), parseBracketed, hfind]
  · rw [if_neg (by simpa using hopen), if_neg (show ¬first = 91 from hopen)]
    by_cases hcolon : colon ∈ first :: rest
    · obtain ⟨host, text, hvalue, hhost⟩ := List.eq_append_cons_of_mem hcolon
      rw [if_pos hcolon, hvalue, takeWhile_cut hhost, dropWhile_cut hhost]
      split_ifs with htext
      · exact parseBare_colons hhost htext
      · exact parseBare_port hhost htext
    · rw [if_neg hcolon, parseBare_none hcolon]

/-! ## Ports -/

lemma stoul_of_digits (hne : digits ≠ []) (h : digits.all isdigit = true) :
    stoul digits = if 2 ^ 64 ≤ digitsValue digits then none else some (digitsValue digits) := by
  have htake : digits.takeWhile isdigit = digits :=
    List.takeWhile_eq_self_iff.mpr (List.all_eq_true.mp h)
  rw [stoul, dropWhile_of_digits h, splitSign_of_digits h]
  simp only [htake, hne, false_or, Bool.false_eq_true, if_false]

/-- What `std::stoul` throws at. -/
lemma tryParsePort_eq_none_iff :
    tryParsePort text = none ↔ text.all isdigit = true ∧ 2 ^ 64 ≤ digitsValue text := by
  unfold tryParsePort
  split_ifs with hskip
  · refine iff_of_false nofun ?_
    rintro ⟨hall, hvalue⟩
    rcases hskip with rfl | hother
    · exact absurd hvalue (by decide)
    · rw [hall] at hother
      cases hother
  · push Not at hskip
    obtain ⟨hne, hother⟩ := hskip
    have hall : text.all isdigit = true := by simpa using hother
    rw [stoul_of_digits hne hall]
    split_ifs with hvalue
    · exact iff_of_true rfl ⟨hall, hvalue⟩
    · exact iff_of_false nofun fun h => hvalue h.2

lemma tryParsePort_decimal (hport : 1 ≤ port ∧ port ≤ 65535) :
    tryParsePort (decimal port) = some (some port) := by
  have hdigits : ¬(decimal port = [] ∨ (decimal port).all isdigit = false) := by
    simp [decimal_ne_nil, all_isdigit_decimal]
  rw [tryParsePort, if_neg hdigits, stoul_of_digits (decimal_ne_nil _) (all_isdigit_decimal _),
    digitsValue_decimal, if_neg (by omega)]
  simp only [Option.bind_eq_bind, Option.bind_some]
  rw [if_neg (by omega)]

lemma parsePort_decimal (hport : 1 ≤ port ∧ port ≤ 65535) :
    parsePort (decimal port) = some port := by
  have hdigits : ¬(decimal port = [] ∨ (decimal port).all isdigit = false) := by
    simp [decimal_ne_nil, all_isdigit_decimal]
  have hvalue := digitsValue_decimal port
  unfold digitsValue at hvalue
  rw [parsePort, if_neg hdigits]
  dsimp only
  rw [hvalue, if_neg (by omega)]

/-! ## `split_address_and_port` -/

lemma splitBracketed_port (h : closingBracket ∉ host) :
    splitBracketed (openingBracket :: host ++ closingBracket :: colon :: text) address =
      (tryParsePort text).map fun port =>
        ⟨port.isSome, host, port.getD DEFAULT_SUNSHINE_PORT⟩ := by
  rw [splitBracketed, find_closed h]
  simp only [slice_closed, getElem?_closed, slice_closed_behind, List.head?_cons, if_true,
    Option.bind_eq_bind, Option.bind_some]
  cases tryParsePort text <;> rfl

lemma splitBracketed_other (h : closingBracket ∉ host) (hbehind : behind.head? ≠ some colon) :
    splitBracketed (openingBracket :: host ++ closingBracket :: behind) address =
      some ⟨behind = [] ∧ host ≠ [], host, DEFAULT_SUNSHINE_PORT⟩ := by
  rw [splitBracketed, find_closed h]
  simp only [slice_closed, getElem?_closed, Option.bind_eq_bind, Option.bind_some]
  rcases behind with _ | ⟨c, behind⟩
  · simp
  · have hc : c ≠ colon := by simpa using hbehind
    simp [hc]

lemma count_colon_port (hfront : colon ∉ host) (htext : colon ∉ text) :
    (host ++ colon :: text).count colon = 1 := by
  rw [List.count_append, List.count_cons_self, List.count_eq_zero.mpr hfront,
    List.count_eq_zero.mpr htext]

lemma splitBare_port (hfront : colon ∉ host) (htext : colon ∉ text) :
    splitBare (host ++ colon :: text) = (tryParsePort text).map fun port =>
      match port with
      | none => ⟨true, host ++ colon :: text, DEFAULT_SUNSHINE_PORT⟩
      | some parsedPort => ⟨host ≠ [], host, parsedPort⟩ := by
  rw [splitBare, splitPort, if_pos (count_colon_port hfront htext), rfind_append_cons htext]
  simp only [slice_behind, Option.bind_eq_bind, Option.bind_some]
  rcases tryParsePort text with _ | _ | parsedPort
  · rfl
  · rfl
  · simp [slice_front]

lemma splitBare_other (h : s.count colon ≠ 1) :
    splitBare s = some ⟨true, s, DEFAULT_SUNSHINE_PORT⟩ := by
  rw [splitBare, splitPort, if_neg h]
  rfl

/-! ## What was formatted is read -/

lemma looksLikeIpv4From_plain {dots digits : ℕ} (h : looksLikeIpv4From dots digits host = true) :
    ∀ c ∈ host, isspace c = false ∧ c ≠ colon ∧ c ≠ openingBracket := by
  induction host generalizing dots digits with
  | nil => nofun
  | cons ch host ih =>
    rw [looksLikeIpv4From] at h
    intro c hc
    split_ifs at h with hdot
    · rcases List.mem_cons.mp hc with rfl | hmem
      · subst hdot
        decide
      · exact ih (Bool.and_eq_true_iff.mp h).2 c hmem
    · obtain ⟨hdigit, hrest⟩ := Bool.and_eq_true_iff.mp h
      rcases List.mem_cons.mp hc with rfl | hmem
      · refine ⟨isdigit_not_isspace hdigit, isdigit_ne_colon hdigit, ?_⟩
        rintro rfl
        exact absurd hdigit (by decide)
      · exact ih hrest c hmem

/-- What the formatter writes behind a host. -/
def portText : Option ℕ → Bytes
  | some port => colon :: decimal port
  | none => []

lemma formatHostAddress_ipv6 (hne : host ≠ []) (port : Option ℕ) :
    formatHostAddress { host, port, isIpv6 := true } =
      openingBracket :: host ++ closingBracket :: portText port := by
  rw [formatHostAddress, if_neg hne]
  cases port <;> simp [openingBracket, closingBracket, portText]

lemma colon_notMem_decimal (port : ℕ) : colon ∉ decimal port :=
  fun h => isdigit_ne_colon (isdigit_of_mem_decimal h) rfl

lemma isspace_of_mem_decimal {c : UInt8} (h : c ∈ decimal port) : isspace c = false :=
  isdigit_not_isspace (isdigit_of_mem_decimal h)

/-- Blanks within the brackets stay. -/
lemma strip_bracketed (h : ∀ c ∈ behind, isspace c = false) :
    ((openingBracket :: host ++ closingBracket :: behind).dropWhile isspace).rdropWhile isspace =
      openingBracket :: host ++ closingBracket :: behind := by
  refine Trimming.strip_eq_self_iff.mpr ⟨fun _ => rfl, fun hne => ?_⟩
  rw [List.getLast_append_of_ne_nil hne (List.cons_ne_nil closingBracket behind)]
  rcases List.mem_cons.mp (List.getLast_mem (List.cons_ne_nil closingBracket behind)) with
    hlast | hlast
  · rw [hlast]
    rfl
  · exact h _ hlast

lemma parse_bracketed (hhost : closingBracket ∉ host) (port : Option ℕ) (hne : host ≠ [])
    (hport : ∀ n ∈ port, 1 ≤ n ∧ n ≤ 65535) :
    parseHostAddress (formatHostAddress { host, port, isIpv6 := true }) =
      { host, port, isIpv6 := true } := by
  rw [formatHostAddress_ipv6 hne]
  apply Option.some.inj
  rw [← checkedHostAddress_eq, checkedHostAddress]
  cases port with
  | none =>
    rw [@strip_bracketed _ (portText none) nofun]
    exact parseBracketed_none hhost (show ([] : Bytes).head? ≠ some colon from nofun)
  | some port =>
    have hrange := hport port rfl
    rw [strip_bracketed fun c hc => ?_]
    · refine (parseBracketed_port hhost).trans ?_
      rw [parsePort_decimal hrange]
    · rcases List.mem_cons.mp hc with rfl | hmem
      · rfl
      · exact isspace_of_mem_decimal hmem

lemma split_bracketed (hhost : closingBracket ∉ host) (port : Option ℕ) (hne : host ≠ [])
    (hport : ∀ n ∈ port, 1 ≤ n ∧ n ≤ 65535) (address : Bytes) (basePort : ℕ) :
    splitAddressAndPort (formatHostAddress { host, port, isIpv6 := true }) address basePort =
      some ⟨true, host, port.getD DEFAULT_SUNSHINE_PORT⟩ := by
  rw [formatHostAddress_ipv6 hne]
  cases port with
  | none =>
    refine (splitBracketed_other hhost (show ([] : Bytes).head? ≠ some colon from nofun)).trans ?_
    simp [hne]
  | some port =>
    refine (splitBracketed_port hhost).trans ?_
    rw [tryParsePort_decimal (hport port rfl)]
    rfl

/-- A host that may stand without brackets. -/
structure Plain (host : Bytes) : Prop where
  ne_nil : host ≠ []
  plain : ∀ c ∈ host, isspace c = false ∧ c ≠ colon ∧ c ≠ openingBracket

namespace Plain

lemma colon_notMem (h : Plain host) : colon ∉ host := fun hmem => (h.plain _ hmem).2.1 rfl

lemma head?_append (h : Plain host) (behind : Bytes) :
    (host ++ behind).head? ≠ some openingBracket := by
  obtain ⟨c, rest, rfl⟩ := List.exists_cons_of_ne_nil h.ne_nil
  have hc := (h.plain c List.mem_cons_self).2.2
  simpa using hc

lemma strip_eq (h : Plain host) (port : Option ℕ) :
    ((host ++ portText port).dropWhile isspace).rdropWhile isspace = host ++ portText port := by
  refine Trimming.strip_eq_self fun c hc => ?_
  rcases List.mem_append.mp hc with hmem | hmem
  · exact (h.plain c hmem).1
  · cases port with
    | none => cases hmem
    | some port =>
      rcases List.mem_cons.mp hmem with rfl | hdigit
      · rfl
      · exact isspace_of_mem_decimal hdigit

lemma parse_eq (h : Plain host) (port : Option ℕ) (hport : ∀ n ∈ port, 1 ≤ n ∧ n ≤ 65535) :
    parseHostAddress (host ++ portText port) =
      { host, port, isIpv4 := looksLikeIpv4 host, isHostname := !looksLikeIpv4 host } := by
  apply Option.some.inj
  rw [← checkedHostAddress_eq, checkedHostAddress, h.strip_eq port,
    if_neg (List.append_ne_nil_of_left_ne_nil h.ne_nil _), if_neg (h.head?_append _)]
  cases port with
  | none =>
    rw [portText, List.append_nil]
    exact parseBare_none h.colon_notMem
  | some port =>
    rw [portText, parseBare_port h.colon_notMem (colon_notMem_decimal port),
      parsePort_decimal (hport port rfl)]

lemma split_eq (h : Plain host) (port : Option ℕ) (hport : ∀ n ∈ port, 1 ≤ n ∧ n ≤ 65535)
    (address : Bytes) (basePort : ℕ) :
    splitAddressAndPort (host ++ portText port) address basePort =
      some ⟨true, host, port.getD DEFAULT_SUNSHINE_PORT⟩ := by
  rw [splitAddressAndPort, if_neg (List.append_ne_nil_of_left_ne_nil h.ne_nil _),
    if_neg (h.head?_append _)]
  cases port with
  | none =>
    have hcount : host.count colon ≠ 1 := by
      rw [List.count_eq_zero.mpr h.colon_notMem]
      decide
    rw [portText, List.append_nil, splitBare_other hcount]
    rfl
  | some port =>
    rw [portText, splitBare_port h.colon_notMem (colon_notMem_decimal port),
      tryParsePort_decimal (hport port rfl)]
    simp [h.ne_nil]

end Plain

lemma plain_of_looksLikeIpv4 (h : looksLikeIpv4 host = true) : Plain host := by
  refine ⟨?_, looksLikeIpv4From_plain h⟩
  rintro rfl
  exact absurd h (by decide)

lemma formatHostAddress_plain {parsed : ParsedHostAddress} (hne : parsed.host ≠ [])
    (h : parsed.isIpv6 = false) :
    formatHostAddress parsed = parsed.host ++ portText parsed.port := by
  rw [formatHostAddress, if_neg hne, h]
  cases parsed.port <;> rfl

lemma parse_format {parsed : ParsedHostAddress} (h : Formattable parsed) :
    parseHostAddress (formatHostAddress parsed) = parsed := by
  cases h with
  | ipv4 hhost hport =>
    have hplain := plain_of_looksLikeIpv4 hhost
    rw [formatHostAddress_plain hplain.ne_nil rfl, hplain.parse_eq _ hport, hhost]
    rfl
  | name hne hhost hplain hport =>
    have hplain : Plain _ := ⟨hne, fun c hc => ⟨(hplain c hc).1, (hplain c hc).2.1,
      (hplain c hc).2.2.1⟩⟩
    rw [formatHostAddress_plain hne rfl, hplain.parse_eq _ hport, hhost]
    rfl
  | ipv6 hne hhost hport => exact parse_bracketed hhost _ hne hport

lemma split_format {parsed : ParsedHostAddress} (h : Formattable parsed) (address : Bytes)
    (basePort : ℕ) : splitAddressAndPort (formatHostAddress parsed) address basePort =
      some ⟨true, parsed.host, parsed.port.getD DEFAULT_SUNSHINE_PORT⟩ := by
  cases h with
  | ipv4 hhost hport =>
    have hplain := plain_of_looksLikeIpv4 hhost
    rw [formatHostAddress_plain hplain.ne_nil rfl, hplain.split_eq _ hport]
  | name hne hhost hplain hport =>
    have hplain : Plain _ := ⟨hne, fun c hc => ⟨(hplain c hc).1, (hplain c hc).2.1,
      (hplain c hc).2.2.1⟩⟩
    rw [formatHostAddress_plain hne rfl, hplain.split_eq _ hport]
  | ipv6 hne hhost hport => exact split_bracketed hhost _ hne hport address basePort

/-! ## When `split_address_and_port` returns -/

lemma colon_notMem_of_digits (h : digits.all isdigit = true) : colon ∉ digits :=
  fun hmem => isdigit_ne_colon (List.all_eq_true.mp h _ hmem) rfl

lemma splitBracketed_eq_none_iff : splitBracketed (openingBracket :: s) address = none ↔
    ∃ host digits, closingBracket ∉ host ∧ digits.all isdigit = true ∧
      2 ^ 64 ≤ digitsValue digits ∧ s = host ++ closingBracket :: colon :: digits := by
  constructor
  · intro hnone
    by_cases hclose : closingBracket ∈ s
    · obtain ⟨host, behind, rfl, hhost⟩ := List.eq_append_cons_of_mem hclose
      by_cases hbehind : behind.head? = some colon
      · obtain ⟨text, rfl⟩ := List.head?_eq_some_iff.mp hbehind
        have hport := (splitBracketed_port hhost).symm.trans hnone
        obtain ⟨hdigits, hvalue⟩ := tryParsePort_eq_none_iff.mp (Option.map_eq_none_iff.mp hport)
        exact ⟨host, text, hhost, hdigits, hvalue, rfl⟩
      · have hsome := (splitBracketed_other hhost hbehind).symm.trans hnone
        cases hsome
    · have hfind : find (openingBracket :: s) closingBracket 0 = none := by
        refine find_eq_none ?_
        rintro (_ | ⟨_, hmem⟩)
        exact hclose hmem
      rw [splitBracketed, hfind] at hnone
      cases hnone
  · rintro ⟨host, digits, hhost, hdigits, hvalue, rfl⟩
    refine (splitBracketed_port hhost).trans ?_
    rw [tryParsePort_eq_none_iff.mpr ⟨hdigits, hvalue⟩]
    rfl

lemma splitBare_eq_none_iff : splitBare s = none ↔
    ∃ front digits, colon ∉ front ∧ digits.all isdigit = true ∧
      2 ^ 64 ≤ digitsValue digits ∧ s = front ++ colon :: digits := by
  constructor
  · intro hnone
    by_cases hcount : s.count colon = 1
    · have hmem : colon ∈ s := List.count_pos_iff.mp (by omega)
      obtain ⟨front, text, rfl, hfront⟩ := List.eq_append_cons_of_mem hmem
      have htext : colon ∉ text := by
        rw [List.count_append, List.count_cons_self] at hcount
        exact List.count_eq_zero.mp (by omega)
      rw [splitBare_port hfront htext] at hnone
      obtain ⟨hdigits, hvalue⟩ := tryParsePort_eq_none_iff.mp (Option.map_eq_none_iff.mp hnone)
      exact ⟨front, text, hfront, hdigits, hvalue, rfl⟩
    · rw [splitBare_other hcount] at hnone
      cases hnone
  · rintro ⟨front, digits, hfront, hdigits, hvalue, rfl⟩
    rw [splitBare_port hfront (colon_notMem_of_digits hdigits),
      tryParsePort_eq_none_iff.mpr ⟨hdigits, hvalue⟩]
    rfl

lemma splitAddressAndPort_eq_none_iff :
    splitAddressAndPort s address basePort = none ↔ Overlong s := by
  unfold splitAddressAndPort Overlong
  rcases s with _ | ⟨first, s⟩
  · simp
  rw [if_neg (List.cons_ne_nil first s), List.head?_cons]
  by_cases hopen : first = openingBracket
  · subst hopen
    rw [if_pos rfl, splitBracketed_eq_none_iff]
    constructor
    · rintro ⟨host, digits, hhost, hdigits, hvalue, rfl⟩
      exact ⟨openingBracket :: host ++ [closingBracket], digits, by simp, hdigits, hvalue,
        .inr ⟨host, hhost, rfl⟩⟩
    · rintro ⟨front, digits, hs, hdigits, hvalue, ⟨-, hhead⟩ | ⟨host, hhost, rfl⟩⟩
      · rcases front with _ | ⟨c, front⟩
        · exact absurd (List.cons.inj hs).1 (by decide)
        · exact absurd (congrArg some (List.cons.inj hs).1.symm) hhead
      · exact ⟨host, digits, hhost, hdigits, hvalue, by simpa using hs⟩
  · rw [if_neg (by simpa using hopen), splitBare_eq_none_iff]
    constructor
    · rintro ⟨front, digits, hfront, hdigits, hvalue, hs⟩
      refine ⟨front, digits, hs, hdigits, hvalue, .inl ⟨hfront, ?_⟩⟩
      rcases front with _ | ⟨c, front⟩
      · exact nofun
      · rw [List.head?_cons, ← (List.cons.inj hs).1]
        simpa using hopen
    · rintro ⟨front, digits, hs, hdigits, hvalue, ⟨hfront, -⟩ | ⟨host, -, rfl⟩⟩
      · exact ⟨front, digits, hfront, hdigits, hvalue, hs⟩
      · exact absurd (List.cons.inj hs).1 hopen

/-- **Both parsers read what the formatter writes, and `split_address_and_port` returns unless a
port has too many digits.** -/
theorem host_address_round_trip (parsed : ParsedHostAddress) (s address : Bytes) (basePort : ℕ) :
    (Formattable parsed → parseHostAddress (formatHostAddress parsed) = parsed ∧
      splitAddressAndPort (formatHostAddress parsed) address basePort =
        some ⟨true, parsed.host, parsed.port.getD DEFAULT_SUNSHINE_PORT⟩) ∧
    checkedHostAddress s = some (parseHostAddress s) ∧
      ((∃ split, splitAddressAndPort s address basePort = some split) ↔ ¬Overlong s) := by
  refine ⟨fun h => ⟨parse_format h, split_format h address basePort⟩, checkedHostAddress_eq s, ?_⟩
  rw [← @splitAddressAndPort_eq_none_iff s address basePort, ← ne_eq,
    Option.ne_none_iff_exists']

theorem host_address_round_trip_lan :
    parseHostAddress (ascii "[fe80::1]:4711") =
      { host := ascii "fe80::1", port := some 4711, isIpv6 := true } :=
  ((host_address_round_trip { host := ascii "fe80::1", port := some 4711, isIpv6 := true } [] []
    0).1 (.ipv6 (by decide) (by decide) (by decide))).1

/-- A port with twenty digits. -/
theorem host_address_overlong :
    splitAddressAndPort (ascii "192.168.1.10:99999999999999999999") [] 0 = none := by
  decide +kernel

end ArtemisSwitch.WakeOnLan

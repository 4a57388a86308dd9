import ArtemisSwitch.HttpHeads
import ArtemisSwitch.Library.SplitLoops

/-!
# Upgrade responses

The callers read the head of a response up to its first empty line.  Two validators look for the
tokens that switch the connection to another protocol, and take any word that contains one for it.
-/

namespace ArtemisSwitch.HttpUpgrade
open HostAddress HostStore VpnConfig Delimiters Trimming SplitLoops
open Http hiding trim

def kMaxHeaderSize : ℕ := 16 * 1024

/-! ## Reading a head -/

/-- The loop takes one byte after the other until an empty line ends the head. -/
def readFrom (closed oversized : String) (header : Bytes) : Bytes → Except Bytes (Bytes × Bytes)
  | [] => .error (ascii (if header.length < kMaxHeaderSize then closed else oversized))
  | byte :: wire =>
    if header.length < kMaxHeaderSize then
      if headerEnd <:+ header ++ [byte] then .ok (header ++ [byte], wire)
      else readFrom closed oversized (header ++ [byte]) wire
    else .error (ascii oversized)

def readHttpHeader (wire : Bytes) : Except Bytes (Bytes × Bytes) :=
  readFrom "control connection closed during HTTP upgrade" "oversized HTTP upgrade response" []
    wire

def readDerpUpgradeHeader (wire : Bytes) : Except Bytes (Bytes × Bytes) :=
  readFrom "DERP connection closed during HTTP upgrade" "oversized DERP upgrade response" [] wire

/-! ## DERP -/

/-- One line of the loop. -/
def namesDerp (line : Bytes) : Bool :=
  match cut [colon] line with
  | none => false
  | some (name, value) => lower name = ascii "upgrade" && ascii "derp" <:+: lower value

/-- The loop over the lines. -/
def scanDerp (rest : Bytes) : Bool :=
  if rest = [] then false
  else
    match _h : cut crlf rest with
    | none => namesDerp rest
    | some (line, behind) => namesDerp line || scanDerp behind
termination_by rest.length
decreasing_by exact length_lt_of_cut (by decide) _h

def validateDerpUpgradeResponse (header : Bytes) : Except Bytes Unit :=
  if header.length < 16 ∨ ¬headerEnd <:+ header then
    .error (ascii "DERP upgrade response is incomplete")
  else
    match cut crlf header with
    | none => .error (ascii "DERP upgrade response has no status line")
    | some (status, rest) =>
      let http11 := ascii "HTTP/1.1 " <+: status
      let http10 := ascii "HTTP/1.0 " <+: status
      let is101 := 12 ≤ status.length ∧ (status.drop 9).take 3 = ascii "101"
      if ¬(http11 ∨ http10) ∨ ¬is101 then .error (ascii "DERP upgrade rejected: " ++ status)
      else if scanDerp rest then .ok ()
      else .error (ascii "DERP upgrade response lacks an Upgrade: DERP header")

/-! ## The control protocol -/

def kUpgrade : Bytes := ascii "tailscale-control-protocol"

/-- At the end a carriage return goes as well. -/
def trim (value : Bytes) : Bytes :=
  (value.dropWhile isBlank).rdropWhile fun c => isBlank c || c = carriageReturn

structure Seen where
  upgrade : Bool := false
  connection : Bool := false
  deriving DecidableEq

/-- One line of the loop, in lower case. -/
def Seen.line (seen : Seen) (name value : Bytes) : Seen where
  upgrade := seen.upgrade || (name = ascii "upgrade" && value = kUpgrade)
  connection := seen.connection || (name = ascii "connection" && ascii "upgrade" <:+: value)

/-- The loop over the lines. -/
def scanTs2021 (header : Bytes) (offset : ℕ) (seen : Seen) : Except Bytes Seen :=
  if offset < header.length - 2 then
    match _h : Delimiters.find crlf header offset with
    | none => .ok seen
    | some place =>
      if place = offset then .ok seen
      else
        match cut [colon] ((header.drop offset).take (place - offset)) with
        | none => .error (ascii "malformed TS2021 HTTP header")
        | some (name, value) =>
          scanTs2021 header (place + 2) (seen.line (lower (trim name)) (lower (trim value)))
  else .ok seen
termination_by header.length - offset
decreasing_by
  have hle := Delimiters.le_of_find _h
  omega

def validateTs2021UpgradeResponse (header : Bytes) : Except Bytes Unit :=
  if kMaxHeaderSize < header.length ∨ ¬headerEnd <:+ header then
    .error (ascii "invalid or oversized TS2021 HTTP response")
  else
    match Delimiters.find crlf header 0 with
    | none => .error (ascii "missing TS2021 HTTP status")
    | some firstEnd =>
      let status := header.take firstEnd
      if ¬ascii "HTTP/1.1 101 " <+: status ∧ status ≠ ascii "HTTP/1.1 101" then
        .error (ascii "TS2021 HTTP upgrade was not accepted")
      else
        match scanTs2021 header (firstEnd + 2) {} with
        | .error error => .error error
        | .ok seen =>
          if seen.upgrade && seen.connection then .ok ()
          else .error (ascii "TS2021 HTTP upgrade headers are missing")

/-! ## The grammar -/

/-- The head of an HTTP/1.1 response.  The reason stands behind a blank, if there is one. -/
structure Head where
  code : Bytes
  reason : Bytes
  fields : List Field

namespace Head

def status (h : Head) : Bytes := ascii "HTTP/1.1 " ++ (h.code ++ h.reason)

def text (h : Head) : Bytes := headText h.status h.fields ++ headerEnd

structure WellFormed (h : Head) : Prop where
  size : h.code.length = 3
  digits : h.code.all isdigit = true
  blank : h.reason = [] ∨ h.reason.head? = some 32
  reason : Within h.reason
  fields : ∀ f ∈ h.fields, f.WellFormed

/-- Some field of the name lists the token. -/
def HasToken (h : Head) (name token : String) : Prop :=
  ∃ f ∈ h.fields, f.Named (ascii name) ∧
    ∃ part ∈ f.value.splitOn 44, lower (Http.trim part) = ascii token

/-- Some field of the name is this value. -/
def HasValue (h : Head) (name : String) (value : Bytes) : Prop :=
  ∃ f ∈ h.fields, f.Named (ascii name) ∧ lower (Http.trim f.value) = value

/-- Some field of the name contains the word, be it within a longer one. -/
def Mentions (h : Head) (name word : String) : Prop :=
  ∃ f ∈ h.fields, f.Named (ascii name) ∧ ascii word <:+: lower f.value

instance (h : Head) (name token : String) : Decidable (h.HasToken name token) :=
  inferInstanceAs (Decidable (∃ f ∈ h.fields, _ ∧ ∃ part ∈ f.value.splitOn 44, _))

instance (h : Head) (name word : String) : Decidable (h.Mentions name word) :=
  inferInstanceAs (Decidable (∃ f ∈ h.fields, _))

def SwitchesToDerp (h : Head) : Prop := h.code = ascii "101" ∧ h.HasToken "upgrade" "derp"

def SwitchesToTs2021 (h : Head) : Prop :=
  h.code = ascii "101" ∧ h.HasValue "upgrade" kUpgrade ∧ h.HasToken "connection" "upgrade"

end Head

/-- A text that ends with its first empty line. -/
def Complete (text : Bytes) : Prop := ∃ front, cut headerEnd text = some (front, [])

/-- The lines of such a text, whatever they are. -/
structure Lines where
  status : Bytes
  rest : List Bytes

namespace Lines

def text (l : Lines) : Bytes := l.status ++ crlf ++ (terminated crlf l.rest ++ crlf)

structure Cut (l : Lines) : Prop where
  status : ¬crlf <:+: l.status
  rest : ∀ line ∈ l.rest, line ≠ [] ∧ ¬crlf <:+: line

/-- The line has a first colon, between these parts. -/
def Splits (line name value : Bytes) : Prop := line = name ++ colon :: value ∧ colon ∉ name

/-- The first line starts as one of two versions with 101 behind it, and some line is named
Upgrade and has the letters derp. -/
def PassesForDerp (l : Lines) : Prop :=
  (ascii "HTTP/1.1 101" <+: l.status ∨ ascii "HTTP/1.0 101" <+: l.status) ∧
    ∃ line ∈ l.rest, ∃ name value, Splits line name value ∧ lower name = ascii "upgrade" ∧
      ascii "derp" <:+: lower value

/-- Every line has a colon, and the two lines are there, but for blanks. -/
def PassesForTs2021 (l : Lines) : Prop :=
  (ascii "HTTP/1.1 101 " <+: l.status ∨ l.status = ascii "HTTP/1.1 101") ∧
    (∀ line ∈ l.rest, colon ∈ line) ∧
    (∃ line ∈ l.rest, ∃ name value, Splits line name value ∧
      lower (trim name) = ascii "upgrade" ∧ lower (trim value) = kUpgrade) ∧
    ∃ line ∈ l.rest, ∃ name value, Splits line name value ∧
      lower (trim name) = ascii "connection" ∧ ascii "upgrade" <:+: lower (trim value)

end Lines

/-- What the loop sees of the two parts of a line. -/
def Seen.parts (seen : Seen) (parts : Bytes × Bytes) : Seen :=
  seen.line (lower (trim parts.1)) (lower (trim parts.2))

/-! ## What the readers promise -/

/-- What is read ends with its first empty line, and is not too long. -/
theorem readFrom_ok {closed oversized : String} {acc wire header rest : Bytes}
    (hacc : ¬headerEnd <:+: acc) (h : readFrom closed oversized acc wire = .ok (header, rest)) :
    acc ++ wire = header ++ rest ∧ Complete header ∧ header.length ≤ kMaxHeaderSize := by
  induction wire generalizing acc with
  | nil => cases h
  | cons byte wire ih =>
    rw [readFrom] at h
    split_ifs at h with hlength hend
    · cases h
      refine ⟨by rw [List.append_assoc]; rfl, ?_, ?_⟩
      · obtain ⟨front, hfront⟩ := hend
        -- the byte is the last one of the empty line
        have hbefore : front ++ headerEnd.dropLast = acc := by
          have hsplit : front ++ headerEnd.dropLast ++ [newline] = acc ++ [byte] := by
            rw [← hfront, List.append_assoc]
            rfl
          exact List.append_inj_left' hsplit rfl
        have hcut := @cut_of_first _ _ headerEnd front [] (by decide) (by rwa [hbefore])
        rw [List.append_nil, hfront] at hcut
        exact ⟨front, hcut⟩
      · rw [List.length_append, List.length_singleton]
        exact hlength
    · have hnext : ¬headerEnd <:+: acc ++ [byte] := by
        rw [List.infix_concat_iff, not_or]
        exact ⟨hend, hacc⟩
      have hrest := ih hnext h
      rwa [List.append_assoc] at hrest

/-! ## The lines of a text -/

/-- A line end stands in a line with a carriage return behind it only where it stands in the
line. -/
lemma crlf_infix_append {line : Bytes} (h : ¬crlf <:+: line) :
    ¬crlf <:+: line ++ [carriageReturn] := by
  rw [List.infix_concat_iff, not_or]
  refine ⟨?_, h⟩
  rintro ⟨front, hfront⟩
  have hlast := (List.append_inj' (hfront.symm.trans
    (List.append_assoc front [carriageReturn] [newline]).symm) rfl).2
  exact absurd hlast (by decide)

lemma cut_line {line : Bytes} (h : ¬crlf <:+: line) (behind : Bytes) :
    cut crlf (line ++ crlf ++ behind) = some (line, behind) :=
  cut_of_first (by decide) (crlf_infix_append h)

lemma cut_colon_iff {line name value : Bytes} :
    cut [colon] line = some (name, value) ↔ Lines.Splits line name value := by
  rw [cut_eq_some_iff (by decide), Lines.Splits, List.append_assoc, List.singleton_append,
    show [colon].dropLast = [] from rfl, List.append_nil, List.singleton_infix_iff]

/-- The text in front of the first empty line is cut into lines. -/
lemma exists_lines {front : Bytes} (h : ¬headerEnd <:+: front ++ headerEnd.dropLast) :
    ∃ l : Lines, l.Cut ∧ l.text = front ++ headerEnd := by
  induction hn : front.length using Nat.strongRecOn generalizing front with
  | ind n ih =>
    cases hcut : cut crlf front with
    | none =>
      refine ⟨⟨front, []⟩, ⟨not_infix_of_cut_eq_none hcut, nofun⟩, ?_⟩
      simp [Lines.text, terminated, headerEnd]
    | some parts =>
      obtain ⟨line, behind⟩ := parts
      have hfront := eq_of_cut hcut
      have hline : ¬crlf <:+: line := fun hinside =>
        not_infix_of_cut (by decide) hcut (hinside.trans (List.prefix_append _ _).isInfix)
      have hbehind : ¬headerEnd <:+: behind ++ headerEnd.dropLast := by
        intro hinside
        apply h
        rw [hfront, List.append_assoc]
        exact hinside.trans (List.suffix_append _ _).isInfix
      obtain ⟨⟨next, rest⟩, ⟨hnext, hrest⟩, htext⟩ :=
        ih behind.length (hn ▸ length_lt_of_cut (by decide) hcut) hbehind rfl
      -- the next line is not the empty one, which ends the text
      have hne : next ≠ [] := by
        rintro rfl
        apply h
        have hstart : crlf <+: behind ++ headerEnd.dropLast := by
          have hwhole : crlf <+: behind ++ headerEnd := by
            rw [← htext]
            exact (List.prefix_append _ _).trans (List.prefix_append _ _)
          have hshort : behind ++ headerEnd.dropLast <+: behind ++ headerEnd :=
            (List.prefix_append_right_inj _).mpr (List.dropLast_prefix _)
          refine List.prefix_of_prefix_length_le hwhole hshort ?_
          rw [List.length_append]
          exact Nat.le_add_left_of_le (by decide)
        rw [hfront, List.append_assoc, List.append_assoc]
        have hends : headerEnd <+: crlf ++ (behind ++ headerEnd.dropLast) :=
          (List.prefix_append_right_inj _).mpr hstart
        exact hends.isInfix.trans (List.suffix_append _ _).isInfix
      refine ⟨⟨line, next :: rest⟩, ⟨hline, List.forall_mem_cons.mpr ⟨⟨hne, hnext⟩, hrest⟩⟩, ?_⟩
      rw [hfront, List.append_assoc, ← htext, Lines.text, Lines.text, terminated_cons]
      simp only [List.append_assoc]

lemma Complete.exists_lines {text : Bytes} (h : Complete text) :
    ∃ l : Lines, l.Cut ∧ l.text = text := by
  obtain ⟨front, hcut⟩ := h
  obtain ⟨l, hl, htext⟩ := HttpUpgrade.exists_lines (not_infix_of_cut (by decide) hcut)
  rw [eq_of_cut hcut, List.append_nil]
  exact ⟨l, hl, htext⟩

namespace Lines

variable {l : Lines}

lemma Cut.cut_text (hl : l.Cut) :
    cut crlf l.text = some (l.status, terminated crlf l.rest ++ crlf) :=
  cut_line hl.status _

lemma headerEnd_suffix (l : Lines) : headerEnd <:+ l.text := by
  rw [text]
  rcases List.eq_nil_or_concat l.rest with hnil | ⟨lines, last, hlast⟩
  · rw [hnil]
    exact ⟨l.status, by simp [headerEnd, terminated]⟩
  · rw [hlast]
    exact ⟨l.status ++ crlf ++ (terminated crlf lines ++ last), by simp [headerEnd, terminated]⟩

end Lines

/-! ## The lines of a head -/

namespace Head

variable {h : Head}

lemma WellFormed.return_notMem_status (hh : h.WellFormed) : carriageReturn ∉ h.status := by
  have hcode : carriageReturn ∉ h.code := fun hmem =>
    absurd (List.all_eq_true.mp hh.digits _ hmem) (by decide)
  have hstart : carriageReturn ∉ ascii "HTTP/1.1 " := by decide
  rw [status, List.mem_append, List.mem_append]
  rintro (hmem | hmem | hmem)
  · exact hstart hmem
  · exact hcode hmem
  · exact hh.reason.1 hmem

/-- The status line, the field lines and the empty line. -/
lemma text_eq (h : Head) : h.text =
    h.status ++ crlf ++ (terminated crlf (h.fields.map Field.text) ++ crlf) := by
  rw [text, headText, headerEnd, ← List.append_assoc, joined_append, List.append_assoc]

lemma WellFormed.cut_text (hh : h.WellFormed) : cut crlf h.text =
    some (h.status, terminated crlf (h.fields.map Field.text) ++ crlf) := by
  rw [h.text_eq, List.append_assoc]
  exact cut_append hh.return_notMem_status _

lemma headerEnd_suffix (h : Head) : headerEnd <:+ h.text := List.suffix_append _ _

/-- The code, read off the status line. -/
lemma WellFormed.code_iff (hh : h.WellFormed) : (h.status.drop 9).take 3 = h.code := by
  have hdrop : h.status.drop 9 = h.code ++ h.reason := @List.drop_left _ (ascii "HTTP/1.1 ") _
  rw [hdrop, ← hh.size, List.take_left]

lemma WellFormed.status_iff (hh : h.WellFormed) :
    ascii "HTTP/1.1 101 " <+: h.status ∨ h.status = ascii "HTTP/1.1 101" ↔
      h.code = ascii "101" := by
  have hsplit : ascii "HTTP/1.1 101 " = ascii "HTTP/1.1 " ++ (ascii "101" ++ [32]) := by decide
  have hwhole : ascii "HTTP/1.1 101" = ascii "HTTP/1.1 " ++ ascii "101" := by decide
  rw [hsplit, hwhole, status, List.prefix_append_right_inj, List.append_cancel_left_eq]
  have hlength : (ascii "101").length = h.code.length := by
    rw [hh.size]
    rfl
  constructor
  · rintro (hstart | heq)
    · have hshort : ascii "101" <+: h.code ++ h.reason := (List.prefix_append _ _).trans hstart
      have hcode : h.code <+: h.code ++ h.reason := List.prefix_append _ _
      exact ((List.prefix_of_prefix_length_le hshort hcode hlength.le).eq_of_length hlength).symm
    · rw [← List.append_nil (ascii "101")] at heq
      exact List.append_inj_left heq hlength.symm
  · intro hcode
    rw [hcode, List.prefix_append_right_inj]
    rcases hh.blank with hnil | hblank
    · exact .inr (by rw [hnil, List.append_nil])
    · obtain ⟨rest, hrest⟩ := List.head?_eq_some_iff.mp hblank
      exact .inl (by rw [hrest]; exact List.prefix_append [32] rest)

/-- A head is made of lines. -/
def lines (h : Head) : Lines := ⟨h.status, h.fields.map Field.text⟩

lemma text_lines (h : Head) : h.lines.text = h.text := h.text_eq.symm

lemma not_infix_of_notMem {s : Bytes} (h : carriageReturn ∉ s) : ¬crlf <:+: s :=
  fun hinside => h (hinside.subset List.mem_cons_self)

lemma WellFormed.cut_lines (hh : h.WellFormed) : h.lines.Cut := by
  refine ⟨not_infix_of_notMem hh.return_notMem_status, fun line hline => ?_⟩
  obtain ⟨f, hf, rfl⟩ := List.mem_map.mp hline
  exact ⟨f.text_ne, not_infix_of_notMem (hh.fields f hf).within_text.1⟩

end Head

/-! ## DERP -/

lemma namesDerp_iff {line : Bytes} : namesDerp line = true ↔
    ∃ name value, Lines.Splits line name value ∧ lower name = ascii "upgrade" ∧
      ascii "derp" <:+: lower value := by
  unfold namesDerp
  simp only [← cut_colon_iff]
  cases hcut : cut [colon] line with
  | none => simp
  | some parts =>
    simp only [Bool.and_eq_true, decide_eq_true_eq, Option.some.injEq]
    constructor
    · intro h
      exact ⟨parts.1, parts.2, rfl, h⟩
    · rintro ⟨name, value, rfl, h⟩
      exact h

lemma scanDerp_of_cut {rest line behind : Bytes} (h : cut crlf rest = some (line, behind)) :
    scanDerp rest = (namesDerp line || scanDerp behind) := by
  have hne : rest ≠ [] := by
    rintro rfl
    cases h
  rw [scanDerp, if_neg hne]
  split
  · rename_i hnone
    rw [h] at hnone
    cases hnone
  · rename_i hsome
    obtain ⟨rfl, rfl⟩ := Prod.mk.inj (Option.some.inj (h.symm.trans hsome))
    rfl

/-- The loop finds a line that contains the word. -/
lemma scanDerp_terminated {lines : List Bytes} (hlines : ∀ line ∈ lines, ¬crlf <:+: line) :
    scanDerp (terminated crlf lines ++ crlf) = true ↔ ∃ line ∈ lines, namesDerp line = true := by
  induction lines with
  | nil =>
    have hcut : cut crlf (terminated crlf [] ++ crlf) = some ([], []) := by decide
    have hline : namesDerp [] = false := by decide
    rw [scanDerp_of_cut hcut, hline, scanDerp]
    simp
  | cons line lines ih =>
    rw [List.forall_mem_cons] at hlines
    have hcut : cut crlf (terminated crlf (line :: lines) ++ crlf) =
        some (line, terminated crlf lines ++ crlf) := by
      rw [terminated_cons, List.append_assoc]
      exact cut_line hlines.1 _
    rw [scanDerp_of_cut hcut, Bool.or_eq_true, ih hlines.2]
    simp only [List.mem_cons, exists_eq_or_imp]

/-- What the validator asks of the first line. -/
lemma status101_iff {status : Bytes} :
    ((ascii "HTTP/1.1 " <+: status ∨ ascii "HTTP/1.0 " <+: status) ∧
        12 ≤ status.length ∧ (status.drop 9).take 3 = ascii "101") ↔
      ascii "HTTP/1.1 101" <+: status ∨ ascii "HTTP/1.0 101" <+: status := by
  have hversion (version : Bytes) (hsize : version.length = 9) :
      version ++ ascii "101" <+: status ↔
        version <+: status ∧ 12 ≤ status.length ∧ (status.drop 9).take 3 = ascii "101" := by
    constructor
    · rintro ⟨rest, rfl⟩
      have hdrop : (version ++ ascii "101" ++ rest).drop 9 = ascii "101" ++ rest := by
        rw [List.append_assoc, ← hsize, List.drop_left]
      refine ⟨(List.prefix_append _ _).trans (List.prefix_append _ _), ?_, ?_⟩
      · rw [List.length_append, List.length_append, hsize]
        exact Nat.le_add_right 12 _
      · rw [hdrop]
        exact List.take_left' rfl
    · rintro ⟨⟨rest, rfl⟩, -, htake⟩
      rw [← hsize, List.drop_left] at htake
      rw [List.prefix_append_right_inj, ← htake]
      exact List.take_prefix _ _
  have h11 := hversion (ascii "HTTP/1.1 ") (by decide)
  have h10 := hversion (ascii "HTTP/1.0 ") (by decide)
  rw [show ascii "HTTP/1.1 101" = ascii "HTTP/1.1 " ++ ascii "101" by decide,
    show ascii "HTTP/1.0 101" = ascii "HTTP/1.0 " ++ ascii "101" by decide, h11, h10,
    ← or_and_right]

/-- What the validator passes, of all complete texts. -/
theorem validateDerp_lines {l : Lines} (hl : l.Cut) :
    validateDerpUpgradeResponse l.text = .ok () ↔ l.PassesForDerp := by
  have hscan := scanDerp_terminated fun line hline => (hl.rest line hline).2
  simp only [namesDerp_iff] at hscan
  unfold validateDerpUpgradeResponse
  rw [hl.cut_text, Lines.PassesForDerp, ← hscan, ← status101_iff]
  dsimp only
  by_cases hstatus : (ascii "HTTP/1.1 " <+: l.status ∨ ascii "HTTP/1.0 " <+: l.status) ∧
      12 ≤ l.status.length ∧ (l.status.drop 9).take 3 = ascii "101"
  · have hlength : ¬(l.text.length < 16 ∨ ¬headerEnd <:+ l.text) := by
      rw [not_or, not_not]
      refine ⟨?_, l.headerEnd_suffix⟩
      have hlong := hstatus.2.1
      rw [Lines.text, List.length_append, List.length_append, List.length_append, length_crlf]
      omega
    have hpasses := not_or.mpr ⟨not_not.mpr hstatus.1, not_not.mpr hstatus.2⟩
    rw [if_neg hlength, if_neg hpasses]
    cases scanDerp (terminated crlf l.rest ++ crlf) with
    | true => exact ⟨fun _ => ⟨hstatus, rfl⟩, fun _ => rfl⟩
    | false => exact ⟨nofun, fun h => absurd h.2 Bool.false_ne_true⟩
  · have hfails := not_and_or.mp hstatus
    rw [if_pos hfails]
    refine ⟨fun h => ?_, fun h => absurd h.1 hstatus⟩
    split_ifs at h

namespace Head

variable {h : Head}

lemma splits_text {f : Field} (hf : f.WellFormed) {name value : Bytes} :
    Lines.Splits f.text name value ↔ f.name = name ∧ f.value = value := by
  rw [← cut_colon_iff, hf.cut_text, Option.some.injEq, Prod.mk.injEq]

/-- A line of a head, seen as its field. -/
lemma exists_line_iff (hh : h.WellFormed) {p : Bytes → Bytes → Prop} :
    (∃ line ∈ h.lines.rest, ∃ name value, Lines.Splits line name value ∧ p name value) ↔
      ∃ f ∈ h.fields, p f.name f.value := by
  rw [show h.lines.rest = h.fields.map Field.text from rfl]
  simp only [List.mem_map, exists_exists_and_eq_and]
  refine exists_congr fun f => and_congr_right fun hf => ?_
  simp only [splits_text (hh.fields f hf)]
  constructor
  · rintro ⟨name, value, ⟨rfl, rfl⟩, hp⟩
    exact hp
  · intro hp
    exact ⟨f.name, f.value, ⟨rfl, rfl⟩, hp⟩

/-- The validator looks for the word within the value. -/
theorem validateDerp_iff (hh : h.WellFormed) :
    validateDerpUpgradeResponse h.text = .ok () ↔
      h.code = ascii "101" ∧ h.Mentions "upgrade" "derp" := by
  rw [← text_lines, validateDerp_lines hh.cut_lines, Lines.PassesForDerp, ← status101_iff]
  have hhttp : ascii "HTTP/1.1 " <+: h.status := List.prefix_append _ _
  have hsize : 12 ≤ h.status.length := by
    have hstart : (ascii "HTTP/1.1 ").length = 9 := by decide
    rw [status, List.length_append, List.length_append, hh.size, hstart]
    omega
  refine and_congr ?_ ?_
  · show (_ ∨ _) ∧ 12 ≤ h.status.length ∧ (h.status.drop 9).take 3 = ascii "101" ↔ _
    rw [hh.code_iff]
    exact ⟨fun h101 => h101.2.2, fun hcode => ⟨.inl hhttp, hsize, hcode⟩⟩
  · exact exists_line_iff hh

end Head

/-! ## The control protocol -/

lemma scanTs2021_of_drop {header line behind : Bytes} {offset : ℕ} {seen : Seen}
    (hline : line ≠ [] ∧ ¬crlf <:+: line) (hdrop : header.drop offset = line ++ crlf ++ behind)
    (hbehind : 2 ≤ behind.length) :
    scanTs2021 header offset seen =
      match cut [colon] line with
      | none => .error (ascii "malformed TS2021 HTTP header")
      | some parts => scanTs2021 header (offset + line.length + 2) (seen.parts parts) := by
  have hpos : 0 < line.length := List.length_pos_iff.mpr hline.1
  have hlength := congrArg List.length hdrop
  rw [List.length_drop, List.length_append, List.length_append, length_crlf] at hlength
  have hfind : Delimiters.find crlf header offset = some (offset + line.length) := by
    rw [Delimiters.find, hdrop, cut_line hline.2, Option.map_some]
  rw [scanTs2021, if_pos (by omega)]
  split
  · rename_i hnone
    rw [hfind] at hnone
    cases hnone
  · rename_i place hplace
    obtain rfl := Option.some.inj (hfind.symm.trans hplace)
    rw [if_neg (by omega), take_of_drop hdrop]
    cases cut [colon] line <;> rfl

lemma colon_mem_iff {line : Bytes} : colon ∈ line ↔ ∃ parts, cut [colon] line = some parts := by
  constructor
  · intro hmem
    cases hcut : cut [colon] line with
    | none => exact absurd ((List.singleton_infix_iff _ _).mpr hmem) (not_infix_of_cut_eq_none hcut)
    | some parts => exact ⟨parts, rfl⟩
  · rintro ⟨⟨name, value⟩, hcut⟩
    rw [(cut_colon_iff.mp hcut).1]
    simp

/-- The loop looks at every line, unless one has no colon. -/
lemma scanTs2021_terminated {lines : List Bytes}
    (hlines : ∀ line ∈ lines, line ≠ [] ∧ ¬crlf <:+: line) {header : Bytes} {offset : ℕ}
    (seen : Seen) (hdrop : header.drop offset = terminated crlf lines ++ crlf) :
    ((∀ line ∈ lines, colon ∈ line) → scanTs2021 header offset seen =
        .ok ((lines.filterMap (cut [colon])).foldl Seen.parts seen)) ∧
      (¬(∀ line ∈ lines, colon ∈ line) → ∃ error, scanTs2021 header offset seen =
        .error error) := by
  induction lines generalizing offset seen with
  | nil =>
    refine ⟨fun _ => ?_, fun h => absurd (by simp) h⟩
    have hlength := congrArg List.length hdrop
    rw [List.length_drop, terminated, List.flatMap_nil, List.nil_append, length_crlf] at hlength
    rw [scanTs2021, if_neg (by omega)]
    rfl
  | cons line lines ih =>
    rw [List.forall_mem_cons] at hlines
    rw [terminated_cons, List.append_assoc] at hdrop
    have hbehind : 2 ≤ (terminated crlf lines ++ crlf).length := by
      rw [List.length_append, length_crlf]
      omega
    have hnext := drop_of_drop hdrop
    rw [length_crlf] at hnext
    rw [scanTs2021_of_drop hlines.1 hdrop hbehind, List.forall_mem_cons, colon_mem_iff]
    cases hcut : cut [colon] line with
    | none => exact ⟨fun h => absurd h.1 (by simp), fun _ => ⟨_, rfl⟩⟩
    | some parts =>
      obtain ⟨hok, hbad⟩ := ih hlines.2 (seen.parts parts) hnext
      rw [List.filterMap_cons_some hcut, List.foldl_cons]
      exact ⟨fun h => hok h.2, fun h => hbad fun hall => h ⟨⟨parts, rfl⟩, hall⟩⟩

/-- A flag that every element may set. -/
lemma foldl_flag {α : Type} {get : Seen → Bool} {step : Seen → α → Seen} {test : α → Bool}
    (hstep : ∀ seen a, get (step seen a) = (get seen || test a)) (elements : List α)
    (seen : Seen) : get (elements.foldl step seen) = (get seen || elements.any test) := by
  induction elements generalizing seen with
  | nil => simp
  | cons a elements ih => rw [List.foldl_cons, ih, hstep, List.any_cons, Bool.or_assoc]

lemma exists_cut_iff {lines : List Bytes} {test : Bytes × Bytes → Bool} :
    (lines.filterMap (cut [colon])).any test = true ↔
      ∃ line ∈ lines, ∃ name value, Lines.Splits line name value ∧ test (name, value) = true := by
  simp only [List.any_eq_true, List.mem_filterMap, ← cut_colon_iff, Prod.exists]
  constructor
  · rintro ⟨name, value, ⟨line, hline, hcut⟩, htest⟩
    exact ⟨line, hline, name, value, hcut, htest⟩
  · rintro ⟨line, hline, name, value, hcut, htest⟩
    exact ⟨name, value, ⟨line, hline, hcut⟩, htest⟩

/-- The loop has seen both fields in lines that have a colon. -/
lemma foldl_parts_iff (lines : List Bytes) :
    (((lines.filterMap (cut [colon])).foldl Seen.parts {}).upgrade = true ∧
        ((lines.filterMap (cut [colon])).foldl Seen.parts {}).connection = true) ↔
      (∃ line ∈ lines, ∃ name value, Lines.Splits line name value ∧
        lower (trim name) = ascii "upgrade" ∧ lower (trim value) = kUpgrade) ∧
      ∃ line ∈ lines, ∃ name value, Lines.Splits line name value ∧
        lower (trim name) = ascii "connection" ∧ ascii "upgrade" <:+: lower (trim value) := by
  have hupgrade := @foldl_flag _ Seen.upgrade Seen.parts
    (fun parts => lower (trim parts.1) = ascii "upgrade" && lower (trim parts.2) = kUpgrade)
    (fun _ _ => rfl) (lines.filterMap (cut [colon])) {}
  have hconnection := @foldl_flag _ Seen.connection Seen.parts
    (fun parts => lower (trim parts.1) = ascii "connection" &&
      ascii "upgrade" <:+: lower (trim parts.2))
    (fun _ _ => rfl) (lines.filterMap (cut [colon])) {}
  rw [Bool.false_or] at hupgrade hconnection
  rw [hupgrade, hconnection, exists_cut_iff, exists_cut_iff]
  simp only [Bool.and_eq_true, decide_eq_true_eq]

/-- What the validator passes, of all complete texts. -/
theorem validateTs2021_lines {l : Lines} (hl : l.Cut) :
    validateTs2021UpgradeResponse l.text = .ok () ↔
      l.text.length ≤ kMaxHeaderSize ∧ l.PassesForTs2021 := by
  have hfind : Delimiters.find crlf l.text 0 = some l.status.length := by
    rw [Delimiters.find, List.drop_zero, hl.cut_text, Option.map_some, Nat.zero_add]
  have hstatus : l.text.take l.status.length = l.status := by
    rw [Lines.text, List.append_assoc, List.take_left]
  have hdrop : l.text.drop (l.status.length + 2) = terminated crlf l.rest ++ crlf := by
    have hline : (l.status ++ crlf).length = l.status.length + 2 := List.length_append
    rw [Lines.text, ← hline, List.drop_left]
  obtain ⟨hok, hbad⟩ := scanTs2021_terminated hl.rest {} hdrop
  unfold validateTs2021UpgradeResponse
  rw [hfind]
  dsimp only
  rw [hstatus, Lines.PassesForTs2021]
  by_cases hsize : l.text.length ≤ kMaxHeaderSize
  · have hlength : ¬(kMaxHeaderSize < l.text.length ∨ ¬headerEnd <:+ l.text) := by
      rw [not_or, not_not]
      exact ⟨Nat.not_lt.mpr hsize, l.headerEnd_suffix⟩
    rw [if_neg hlength]
    by_cases hstart : ascii "HTTP/1.1 101 " <+: l.status ∨ l.status = ascii "HTTP/1.1 101"
    · rw [if_neg fun h => hstart.elim h.1 h.2]
      by_cases hcolons : ∀ line ∈ l.rest, colon ∈ line
      · rw [hok hcolons]
        dsimp only
        split_ifs with hseen <;> rw [Bool.and_eq_true] at hseen
        · exact ⟨fun _ => ⟨hsize, hstart, hcolons, (foldl_parts_iff l.rest).mp hseen⟩, fun _ => rfl⟩
        · exact iff_of_false (fun h => by cases h) fun h =>
            hseen ((foldl_parts_iff l.rest).mpr h.2.2.2)
      · obtain ⟨error, herror⟩ := hbad hcolons
        rw [herror]
        exact iff_of_false (fun h => by cases h) fun h => hcolons h.2.2.1
    · rw [if_pos (not_or.mp hstart)]
      exact iff_of_false (fun h => by cases h) fun h => hstart h.2.1
  · rw [if_pos (.inl (Nat.not_le.mp hsize))]
    exact iff_of_false (fun h => by cases h) fun h => hsize h.1

namespace Head

variable {h : Head}

/-- Nothing of a field ends in a carriage return. -/
lemma trim_eq {s : Bytes} (h : carriageReturn ∉ s) : trim s = Http.trim s := by
  refine rdropWhile_congr fun c hc => ?_
  have hne : c ≠ carriageReturn := fun heq =>
    h (heq ▸ (List.dropWhile_suffix isBlank).subset hc)
  simp [hne]

lemma isBlank_tolower (c : UInt8) : isBlank (tolower c) = isBlank c := by
  unfold tolower
  split_ifs with hletter
  · rw [UInt8.le_iff_toNat_le, UInt8.le_iff_toNat_le] at hletter
    have hlow : (65 : UInt8).toNat = 65 := rfl
    have hhigh : (90 : UInt8).toNat = 90 := rfl
    have hsum : (c + 32).toNat = c.toNat + 32 := by
      rw [UInt8.toNat_add, show (32 : UInt8).toNat = 32 from rfl]
      omega
    have hne (d e : UInt8) (hd : d.toNat ≤ 32) (he : 65 ≤ e.toNat) : e ≠ d := by
      rintro rfl
      omega
    have hnot (e : UInt8) (he : 65 ≤ e.toNat) : isBlank e = false := by
      simp [isBlank, hne 32 e (by decide) he, hne 9 e (by decide) he]
    rw [hnot _ (by omega), hnot _ (by omega)]
  · rfl

/-- The word is found whether the value has been trimmed or not. -/
lemma infix_lower_trim {word s : Bytes} (hne : word ≠ []) (hword : ∀ c ∈ word, isBlank c = false) :
    word <:+: lower (Http.trim s) ↔ word <:+: lower s := by
  have hlower : lower (Http.trim s) = strip isBlank (lower s) :=
    (strip_map isBlank_tolower s).symm
  rw [hlower, infix_strip_iff hne hword]

lemma trim_field {f : Field} (hf : f.WellFormed) :
    trim f.name = f.name ∧ trim f.value = Http.trim f.value :=
  ⟨(trim_eq (notMem_of_tchar hf.token (by decide))).trans hf.trim_name, trim_eq hf.value.1⟩

/-- The validator looks for the word within the value. -/
theorem validateTs2021_iff (hh : h.WellFormed) :
    validateTs2021UpgradeResponse h.text = .ok () ↔
      h.text.length ≤ kMaxHeaderSize ∧ h.code = ascii "101" ∧ h.HasValue "upgrade" kUpgrade ∧
        h.Mentions "connection" "upgrade" := by
  rw [← text_lines, validateTs2021_lines hh.cut_lines, Lines.PassesForTs2021, exists_line_iff hh,
    exists_line_iff hh]
  have hcolons : ∀ line ∈ h.lines.rest, colon ∈ line := by
    intro line hline
    obtain ⟨f, -, rfl⟩ := List.mem_map.mp hline
    simp [Field.text]
  have hupgrade : (∃ f ∈ h.fields, lower (trim f.name) = ascii "upgrade" ∧
      lower (trim f.value) = kUpgrade) ↔ h.HasValue "upgrade" kUpgrade := by
    refine exists_congr fun f => and_congr_right fun hf => ?_
    obtain ⟨hname, hvalue⟩ := trim_field (hh.fields f hf)
    rw [hname, hvalue]
    rfl
  have hconnection : (∃ f ∈ h.fields, lower (trim f.name) = ascii "connection" ∧
      ascii "upgrade" <:+: lower (trim f.value)) ↔ h.Mentions "connection" "upgrade" := by
    refine exists_congr fun f => and_congr_right fun hf => ?_
    obtain ⟨hname, hvalue⟩ := trim_field (hh.fields f hf)
    rw [hname, hvalue, infix_lower_trim (by decide) (by decide +kernel)]
    rfl
  have hcode : (ascii "HTTP/1.1 101 " <+: h.lines.status ∨
      h.lines.status = ascii "HTTP/1.1 101") ↔ h.code = ascii "101" := hh.status_iff
  rw [hupgrade, hconnection, hcode]
  exact and_congr_right fun _ => and_congr_right fun _ => and_iff_right hcolons

/-- A field that lists a token contains it. -/
lemma mentions_of_hasToken {name token : String} (hh : h.HasToken name token) :
    h.Mentions name token := by
  obtain ⟨f, hf, hname, part, hpart, htoken⟩ := hh
  refine ⟨f, hf, hname, ?_⟩
  have htrim : Http.trim part <:+: part :=
    (List.rdropWhile_prefix isBlank _).isInfix.trans (List.dropWhile_suffix isBlank).isInfix
  rw [← htoken]
  exact (htrim.trans (infix_of_mem_splitOn hpart)).map tolower

end Head

/-- Two readings of which one implies the other. -/
lemma agree_iff {a b c : Prop} (h : c → b) : ((a ∧ b ↔ a ∧ c) ↔ (a → b → c)) := by
  tauto

/-- **The validators read the grammar but for longer words**, and reject what is outside it but
for what two looser readings let pass. -/
theorem validators_iff (text : Bytes) :
    (∀ h : Head, h.WellFormed → h.text = text →
      ((validateDerpUpgradeResponse text = .ok () ↔ h.SwitchesToDerp) ↔
        (h.code = ascii "101" → h.Mentions "upgrade" "derp" → h.HasToken "upgrade" "derp")) ∧
      ((validateTs2021UpgradeResponse text = .ok () ↔ h.SwitchesToTs2021) ↔
        (h.code = ascii "101" → h.HasValue "upgrade" kUpgrade →
          if text.length ≤ kMaxHeaderSize then
            h.Mentions "connection" "upgrade" → h.HasToken "connection" "upgrade"
          else ¬h.HasToken "connection" "upgrade"))) ∧
    (Complete text → (∀ h : Head, h.WellFormed → h.text ≠ text) →
      ∃ l : Lines, l.Cut ∧ l.text = text ∧
        (validateDerpUpgradeResponse text ≠ .ok () ↔ ¬l.PassesForDerp) ∧
        (validateTs2021UpgradeResponse text ≠ .ok () ↔
          ¬(text.length ≤ kMaxHeaderSize ∧ l.PassesForTs2021))) := by
  constructor
  · rintro h hh rfl
    rw [Head.validateDerp_iff hh, Head.validateTs2021_iff hh, Head.SwitchesToDerp,
      Head.SwitchesToTs2021, agree_iff Head.mentions_of_hasToken]
    refine ⟨Iff.rfl, ?_⟩
    have htoken := @Head.mentions_of_hasToken h "connection" "upgrade"
    split_ifs <;> tauto
  · intro hcomplete _
    obtain ⟨l, hl, rfl⟩ := hcomplete.exists_lines
    exact ⟨l, hl, rfl, not_congr (validateDerp_lines hl), not_congr (validateTs2021_lines hl)⟩

/-- A head without the token, whose only field has a longer word. -/
def underpants : Head where
  code := ascii "101"
  reason := ascii " Switching Protocols"
  fields := [{ name := ascii "Upgrade", value := ascii " underpants" }]

lemma wellFormed_underpants : underpants.WellFormed := by
  refine ⟨by decide, by decide, .inr (by decide), by decide, fun f hf => ?_⟩
  obtain rfl := List.mem_singleton.mp hf
  exact ⟨by decide, by decide +kernel, by decide⟩

theorem underpants_accepted :
    underpants.text =
        ascii "HTTP/1.1 101 Switching Protocols\r\nUpgrade: underpants\r\n\r\n" ∧
      validateDerpUpgradeResponse underpants.text = .ok () ∧ ¬underpants.SwitchesToDerp := by
  refine ⟨by decide, (Head.validateDerp_iff wellFormed_underpants).mpr ⟨rfl, by decide +kernel⟩, ?_⟩
  rintro ⟨-, htoken⟩
  revert htoken
  decide +kernel

/-- A text with the token, but with a code of four digits. -/
def fourDigits : Bytes := ascii "HTTP/1.1 1015 Odd\r\nUpgrade: DERP\r\n\r\n"

lemma complete_fourDigits : Complete fourDigits :=
  ⟨ascii "HTTP/1.1 1015 Odd\r\nUpgrade: DERP", by decide +kernel⟩

/-- No head has this text: what stands behind the code would be its reason. -/
lemma ne_fourDigits {h : Head} (hh : h.WellFormed) : h.text ≠ fourDigits := by
  intro htext
  have hcut := hh.cut_text
  have hfirst : cut crlf fourDigits =
      some (ascii "HTTP/1.1 " ++ (ascii "101" ++ ascii "5 Odd"),
        ascii "Upgrade: DERP\r\n\r\n") := by
    decide +kernel
  rw [htext, hfirst] at hcut
  have hstatus := (Prod.mk.inj (Option.some.inj hcut)).1
  have hparts := List.append_cancel_left hstatus
  obtain ⟨-, hreason⟩ := List.append_inj hparts (by rw [hh.size]; rfl)
  rcases hh.blank with hnil | hblank
  · rw [hnil] at hreason
    exact absurd hreason (by decide)
  · rw [← hreason] at hblank
    exact absurd hblank (by decide)

theorem validators_iff_underpants :
    ((validateDerpUpgradeResponse underpants.text = .ok () ↔ underpants.SwitchesToDerp) ↔
      (underpants.code = ascii "101" → underpants.Mentions "upgrade" "derp" →
        underpants.HasToken "upgrade" "derp")) ∧
    ∃ l : Lines, l.Cut ∧ l.text = fourDigits ∧
      (validateDerpUpgradeResponse fourDigits ≠ .ok () ↔ ¬l.PassesForDerp) ∧
      validateDerpUpgradeResponse fourDigits = .ok () := by
  obtain ⟨l, hl, htext, hderp, -⟩ :=
    (validators_iff fourDigits).2 complete_fourDigits fun h hh => ne_fourDigits hh
  have hhead := (validators_iff underpants.text).1 underpants wellFormed_underpants rfl
  exact ⟨hhead.1, l, hl, htext, hderp, by decide +kernel⟩

end ArtemisSwitch.HttpUpgrade

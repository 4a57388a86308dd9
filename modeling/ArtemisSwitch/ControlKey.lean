import ArtemisSwitch.HttpHeads
import ArtemisSwitch.DecimalText

/-!
# The control key

The body of the response that carries the control key: `decodeHttpBody` undoes every framing of it,
and takes no framing that can be read in two ways.
-/

namespace ArtemisSwitch.ControlKey
open HostAddress HostStore DecimalText Delimiters Trimming Http
open VpnConfig (carriageReturn newline)

def kMaxHeaderSize : ℕ := 16 * 1024

def kMaxBodySize : ℕ := 64 * 1024

def semicolon : UInt8 := 59

/-! ## Chunks -/

def hexDigit (c : UInt8) : ℕ := if isdigit c then c.toNat - 48 else (tolower c).toNat - 87

/-- The value of a run of hexadecimal digits. -/
def hexValue (digits : Bytes) : ℕ := digits.foldl (fun n c => n * 16 + hexDigit c) 0

/-- `std::from_chars` over the whole text; a value past 64 bits is also past the limit. -/
def parseHexSize (text : Bytes) : Option ℕ :=
  let text := trim (text.takeWhile (· ≠ semicolon))
  if text = [] ∨ text.all isxdigit = false ∨ kMaxBodySize < hexValue text then none
  else some (hexValue text)

/-- The loop over the chunks. -/
def decodeChunked (body wire : Bytes) : Except Bytes Bytes :=
  match _h : cut crlf wire with
  | none => .error (ascii "truncated control-key chunk header")
  | some (line, rest) =>
    match parseHexSize line with
    | none => .error (ascii "invalid control-key chunk size")
    | some chunkSize =>
      if chunkSize = 0 then
        if rest = crlf then .ok body
        else
          match cut headerEnd rest with
          | none => .error (ascii "invalid control-key chunk trailer")
          | some (trailer, behind) =>
            if kMaxHeaderSize < trailer.length ∨ behind ≠ [] then
              .error (ascii "invalid control-key chunk trailer")
            else .ok body
      else if rest.length < chunkSize + 2 ∨ (rest.drop chunkSize).take 2 ≠ crlf ∨
          kMaxBodySize - chunkSize < body.length then
        .error (ascii "truncated or oversized control-key chunk")
      else decodeChunked (body ++ rest.take chunkSize) (rest.drop (chunkSize + 2))
termination_by wire.length
decreasing_by
  have hlt := length_lt_of_cut (by decide) _h
  rw [List.length_drop]
  omega

/-! ## The response -/

/-- The digit behind the blank that follows the version is the first of the code. -/
def accepted (status : Bytes) : Bool :=
  match cut [32] status with
  | none => false
  | some (_, rest) =>
    ascii "HTTP/1." <+: status && rest.take 3 = ascii "200" && rest[3]? = some 32

/-- The value of a field that has been read. -/
def lookup (name : String) (headers : List Field) : Option Bytes :=
  (headers.find? fun f => f.name = ascii name).map Field.value

/-- The loop over the field lines, with the fields so far. -/
def readFields (response : Bytes) (headerEnd cursor : ℕ) (headers : List Field) :
    Except Bytes (List Field) :=
  if cursor < headerEnd then
    match _h : find crlf response cursor with
    | none => .error (ascii "malformed control-key HTTP header")
    | some lineEnd =>
      if headerEnd < lineEnd then .error (ascii "malformed control-key HTTP header")
      else
        match cut [colon] ((response.drop cursor).take (lineEnd - cursor)) with
        | none => .error (ascii "malformed control-key HTTP field")
        | some (name, value) =>
          let f : Field := { name := lower (trim name), value := trim value }
          if f.name = [] ∨ headers.any (·.name = f.name) then
            .error (ascii "duplicate control-key HTTP field")
          else readFields response headerEnd (lineEnd + 2) (f :: headers)
  else .ok headers
termination_by headerEnd - cursor
decreasing_by
  have hle := le_of_find _h
  omega

/-- `std::from_chars` over the whole text. -/
def decodeLength (length body : Bytes) : Except Bytes Bytes :=
  let text := trim length
  if text = [] ∨ text.all isdigit = false ∨ kMaxBodySize < digitsValue text ∨
      body.length ≠ digitsValue text then
    .error (ascii "invalid control-key content length")
  else .ok body

def decodeFramed (headers : List Field) (body : Bytes) : Except Bytes Bytes :=
  match lookup "transfer-encoding" headers, lookup "content-length" headers with
  | some _, some _ => .error (ascii "ambiguous control-key HTTP framing")
  | some transfer, none =>
    if lower (trim transfer) ≠ ascii "chunked" then
      .error (ascii "unsupported control-key transfer encoding")
    else decodeChunked [] body
  | none, some length => decodeLength length body
  | none, none =>
    if kMaxBodySize < body.length then .error (ascii "oversized control-key response body")
    else .ok body

def decodeHttpBody (response : Bytes) : Except Bytes Bytes :=
  match cut headerEnd response with
  | none => .error (ascii "invalid or oversized control-key HTTP header")
  | some (head, body) =>
    if kMaxHeaderSize < head.length then
      .error (ascii "invalid or oversized control-key HTTP header")
    else
      match cut crlf response with
      | none => .error (ascii "invalid control-key HTTP status")
      | some (status, _) =>
        if accepted status = false then
          .error (ascii "control-key endpoint returned a non-200 status")
        else
          match readFields response head.length (status.length + 2) [] with
          | .error error => .error error
          | .ok headers => decodeFramed headers body

/-! ## The grammar -/

/-- The line with the size of a chunk, blanks around it and an extension. -/
def SizeLine (line : Bytes) (size : ℕ) : Prop :=
  ¬crlf <:+: line ∧ ∃ front digits back extension,
    line = front ++ digits ++ back ++ extension ∧ front.all isBlank = true ∧ digits ≠ [] ∧
      digits.all isxdigit = true ∧ hexValue digits = size ∧ back.all isBlank = true ∧
      ∀ c ∈ extension.head?, c = semicolon

/-- A body in non-empty chunks.  Behind the last chunk stands some kind of trailer. -/
inductive Chunked (Trailer : Bytes → Prop) : Bytes → Bytes → Prop
  | last {line trailer : Bytes} (hline : SizeLine line 0) (htrailer : Trailer trailer) :
    Chunked Trailer (line ++ crlf ++ trailer) []
  | chunk {line data rest body : Bytes} (hline : SizeLine line data.length) (hdata : data ≠ [])
    (hrest : Chunked Trailer rest body) :
    Chunked Trailer (line ++ crlf ++ (data ++ crlf ++ rest)) (data ++ body)

/-- A field line that ends where it should. -/
structure Plain (f : Field) : Prop where
  colon : colon ∉ f.name
  name : Within f.name
  value : Within f.value

/-- The name that counts. -/
def key (f : Field) : Bytes := lower (trim f.name)

/-- No trailer, or some field lines. -/
def Fields (trailer : Bytes) : Prop :=
  ∃ fields : List Field, (∀ f ∈ fields, Plain f) ∧
    trailer = terminated crlf (fields.map Field.text) ++ crlf ∧
    trailer.length ≤ kMaxHeaderSize + 4

/-- The first empty line of the trailer ends the response. -/
def Closed (trailer : Bytes) : Prop :=
  trailer = crlf ∨ ∃ lines, trailer = lines ++ headerEnd ∧ lines.length ≤ kMaxHeaderSize ∧
    ¬headerEnd <:+: lines ++ headerEnd.dropLast

/-- A response: the head, and what follows it. -/
structure Message where
  status : Bytes
  fields : List Field
  received : Bytes

namespace Message

def head (m : Message) : Bytes := headText m.status m.fields

def text (m : Message) : Bytes := m.head ++ headerEnd ++ m.received

def Has (m : Message) (name : String) (value : Bytes) : Prop :=
  ∃ f ∈ m.fields, key f = ascii name ∧ trim f.value = value

/-- The lines of the head are lines. -/
structure Lines (m : Message) : Prop where
  status : Within m.status
  fields : ∀ f ∈ m.fields, Plain f

/-- An HTTP/1.x response with the code 200 and fields that differ in their names. -/
structure Legal (m : Message) : Prop extends m.Lines where
  version : ∃ minor reason, isdigit minor = true ∧
    m.status = ascii "HTTP/1." ++ [minor] ++ ascii " 200 " ++ reason
  named : ∀ f ∈ m.fields, key f ≠ []
  distinct : (m.fields.map key).Nodup

/-- The framings of a body. -/
inductive Frames (Trailer : Bytes → Prop) (m : Message) (body : Bytes) : Prop
  | length (digits : Bytes) (hlength : m.Has "content-length" digits)
    (htransfer : ∀ value, ¬m.Has "transfer-encoding" value) (hne : digits ≠ [])
    (hdigits : digits.all isdigit = true) (hvalue : digitsValue digits = m.received.length)
    (hbody : m.received = body)
  | chunked (coding : Bytes) (htransfer : m.Has "transfer-encoding" coding)
    (hlength : ∀ value, ¬m.Has "content-length" value) (hcoding : lower coding = ascii "chunked")
    (hbody : Chunked Trailer m.received body)
  | close (hlength : ∀ value, ¬m.Has "content-length" value)
    (htransfer : ∀ value, ¬m.Has "transfer-encoding" value) (hbody : m.received = body)

/-- What makes a response unacceptable. -/
inductive Faulty (m : Message) : Prop
  | length (value : Bytes) (hlength : m.Has "content-length" value)
    (hdiffers : ¬(value ≠ [] ∧ value.all isdigit = true ∧ digitsValue value = m.received.length))
  | both (value coding : Bytes) (hlength : m.Has "content-length" value)
    (htransfer : m.Has "transfer-encoding" coding)
  | duplicate (hduplicate : ¬(m.fields.map key).Nodup)
  | malformed (coding : Bytes) (htransfer : m.Has "transfer-encoding" coding)
    (hbody : ∀ body, ¬Chunked Closed m.received body)
  | oversized (body : Bytes) (hbody : m.Frames Closed body) (hsize : kMaxBodySize < body.length)

end Message

/-! ## Chunks -/

variable {line rest wire body trailer : Bytes} {size : ℕ}

/-- A line ends at the first line end. -/
lemma cut_line (h : ¬crlf <:+: line) (rest : Bytes) :
    cut crlf (line ++ crlf ++ rest) = some (line, rest) := by
  refine cut_of_first (by decide) ?_
  have hlast : crlf.dropLast = [13] := by decide
  rw [hlast, List.infix_concat_iff, not_or]
  refine ⟨?_, h⟩
  rintro ⟨front, hfront⟩
  have hsame : front ++ [13] ++ [10] = line ++ [13] := by
    rw [← hfront, List.append_assoc]
    rfl
  exact absurd (List.append_inj_right' hsame rfl) (by decide)

lemma not_infix_of_cut_line (h : cut crlf wire = some (line, rest)) : ¬crlf <:+: line :=
  fun hinside => not_infix_of_cut (by decide) h (hinside.trans (List.prefix_append _ _).isInfix)

lemma isBlank_of_isxdigit {c : UInt8} (h : isxdigit c = true) :
    isBlank c = false ∧ c ≠ semicolon := by
  have hne (d : UInt8) (hd : isxdigit d = false) : c ≠ d := by
    rintro rfl
    rw [h] at hd
    cases hd
  refine ⟨?_, hne _ (by decide)⟩
  rw [isBlank, Bool.or_eq_false_iff, decide_eq_false_iff_not, decide_eq_false_iff_not]
  exact ⟨hne _ (by decide), hne _ (by decide)⟩

lemma semicolon_of_isBlank {c : UInt8} (h : isBlank c = true) : c ≠ semicolon := by
  rintro rfl
  cases h

/-- The size is read off its line. -/
lemma parseHexSize_of_sizeLine (h : SizeLine line size) :
    parseHexSize line = if kMaxBodySize < size then none else some size := by
  obtain ⟨-, front, digits, back, extension, rfl, hfront, hne, hdigits, rfl, hback, hextension⟩ := h
  have hall := List.all_eq_true.mp hdigits
  have hplain : ∀ c ∈ front ++ digits ++ back, decide (c ≠ semicolon) = true := by
    intro c hc
    apply decide_eq_true
    rcases List.mem_append.mp hc with hc | hc
    · rcases List.mem_append.mp hc with hc | hc
      · exact semicolon_of_isBlank (List.all_eq_true.mp hfront c hc)
      · exact (isBlank_of_isxdigit (hall c hc)).2
    · exact semicolon_of_isBlank (List.all_eq_true.mp hback c hc)
  have hrest : extension.takeWhile (· ≠ semicolon) = [] := by
    cases extension with
    | nil => rfl
    | cons c extension => exact List.takeWhile_cons_of_neg (by simp [hextension c rfl])
  have htrim : trim (front ++ digits ++ back) = digits := strip_surrounded hfront
    (strip_eq_self fun c hc => (isBlank_of_isxdigit (hall c hc)).1) hback
  rw [parseHexSize, List.takeWhile_append_of_pos hplain, hrest, List.append_nil, htrim]
  simp only [hne, hdigits, Bool.true_eq_false, false_or]

/-- A line with a size has the form of one. -/
lemma sizeLine_of_parseHexSize (hline : ¬crlf <:+: line) (h : parseHexSize line = some size) :
    SizeLine line size ∧ size ≤ kMaxBodySize := by
  rw [parseHexSize] at h
  split_ifs at h with hshape
  obtain rfl := Option.some.inj h
  rw [not_or, not_or, Bool.not_eq_false, Nat.not_lt] at hshape
  obtain ⟨hne, hdigits, hsize⟩ := hshape
  obtain ⟨front, back, htext, hfront, hback⟩ :=
    strip_parts isBlank (line.takeWhile (· ≠ semicolon))
  refine ⟨⟨hline, front, _, back, line.dropWhile (· ≠ semicolon), ?_, hfront, hne, hdigits, rfl,
    hback, fun c hc => ?_⟩, hsize⟩
  · have hsplit := List.takeWhile_append_dropWhile (p := (· ≠ semicolon)) (l := line)
    conv_lhs => rw [← hsplit, htext]
    rfl
  · have hhead := of_mem_head?_dropWhile hc
    simpa using hhead

/-- What the loop makes of a trailer. -/
lemma cut_trailer (h : Closed trailer) : trailer = crlf ∨
    ∃ lines, cut headerEnd trailer = some (lines, []) ∧ lines.length ≤ kMaxHeaderSize := by
  refine h.imp_right ?_
  rintro ⟨lines, rfl, hlength, hinside⟩
  refine ⟨lines, ?_, hlength⟩
  have hcut := @cut_of_first _ _ _ _ [] (by decide) hinside
  rwa [List.append_nil] at hcut

lemma closed_of_cut {lines : Bytes} (h : cut headerEnd trailer = some (lines, []))
    (hlength : lines.length ≤ kMaxHeaderSize) : Closed trailer := by
  obtain ⟨htrailer, hinside⟩ := (cut_eq_some_iff (by decide)).mp h
  rw [List.append_nil] at htrailer
  exact .inr ⟨lines, htrailer, hlength, hinside⟩

lemma Plain.return_notMem {f : Field} (h : Plain f) : carriageReturn ∉ f.text := by
  rw [Field.text, List.mem_append, List.mem_cons]
  rintro (hname | heq | hvalue)
  · exact h.name.1 hname
  · exact absurd heq (by decide)
  · exact h.value.1 hvalue

/-- The empty line behind some lines is the first one. -/
lemma cut_headText {first : Bytes} {fields : List Field} (hfirst : carriageReturn ∉ first)
    (hfields : ∀ f ∈ fields, Plain f) (behind : Bytes) :
    cut headerEnd (headText first fields ++ headerEnd ++ behind) =
      some (headText first fields, behind) := by
  refine @cut_joined _ _ [10] _ carriageReturn _ (by decide) hfirst ?_ behind
  intro text htext
  obtain ⟨f, hf, rfl⟩ := List.mem_map.mp htext
  exact ⟨f.text_ne, (hfields f hf).return_notMem⟩

/-- Field lines of a bounded length are closed by the empty line behind them. -/
lemma closed_of_fields (h : Fields trailer) : Closed trailer := by
  obtain ⟨fields, hplain, rfl, hlength⟩ := h
  cases fields with
  | nil => exact .inl rfl
  | cons f fields =>
    rw [List.forall_mem_cons] at hplain
    have hsplit : terminated crlf ((f :: fields).map Field.text) ++ crlf =
        headText f.text fields ++ headerEnd := by
      rw [headText, headerEnd, ← List.append_assoc, joined_append, List.map_cons, terminated_cons]
    rw [hsplit] at hlength ⊢
    have hcut := cut_headText hplain.1.return_notMem hplain.2 []
    rw [List.append_nil] at hcut
    refine closed_of_cut hcut ?_
    have hend : headerEnd.length = 4 := by decide
    rw [List.length_append, hend] at hlength
    omega

lemma Chunked.mono {T T' : Bytes → Prop} (hT : ∀ trailer, T trailer → T' trailer)
    (h : Chunked T wire body) : Chunked T' wire body := by
  induction h with
  | last hline htrailer => exact .last hline (hT _ htrailer)
  | chunk hline hdata _ ih => exact .chunk hline hdata ih

/-- One round of the loop behind the line with the size. -/
lemma decodeChunked_of_cut {acc : Bytes} (hcut : cut crlf wire = some (line, rest)) :
    decodeChunked acc wire =
      match parseHexSize line with
      | none => .error (ascii "invalid control-key chunk size")
      | some chunkSize =>
        if chunkSize = 0 then
          if rest = crlf then .ok acc
          else
            match cut headerEnd rest with
            | none => .error (ascii "invalid control-key chunk trailer")
            | some (trailer, behind) =>
              if kMaxHeaderSize < trailer.length ∨ behind ≠ [] then
                .error (ascii "invalid control-key chunk trailer")
              else .ok acc
        else if rest.length < chunkSize + 2 ∨ (rest.drop chunkSize).take 2 ≠ crlf ∨
            kMaxBodySize - chunkSize < acc.length then
          .error (ascii "truncated or oversized control-key chunk")
        else decodeChunked (acc ++ rest.take chunkSize) (rest.drop (chunkSize + 2)) := by
  rw [decodeChunked]
  split
  · rename_i hnone
    rw [hcut] at hnone
    cases hnone
  · rename_i hsome
    obtain ⟨rfl, rfl⟩ := Prod.mk.inj (Option.some.inj (hcut.symm.trans hsome))
    rfl

section Chunk
variable {acc data : Bytes} (hline : SizeLine line data.length) (hdata : data ≠ [])
include hline hdata

/-- A chunk that fits goes to the body. -/
lemma decodeChunked_of_fits (hfits : acc.length + data.length ≤ kMaxBodySize) :
    decodeChunked acc (line ++ crlf ++ (data ++ crlf ++ rest)) =
      decodeChunked (acc ++ data) rest := by
  have hpos := List.length_pos_iff.mpr hdata
  have hsize := parseHexSize_of_sizeLine hline
  rw [if_neg (by omega)] at hsize
  have hlength : (data ++ crlf ++ rest).length = data.length + 2 + rest.length := by
    rw [List.length_append, List.length_append, length_crlf]
  have hend : ((data ++ crlf ++ rest).drop data.length).take 2 = crlf := by
    rw [List.append_assoc, List.drop_left, ← length_crlf, List.take_left]
  have htake : (data ++ crlf ++ rest).take data.length = data := by
    rw [List.append_assoc, List.take_left]
  have hdrop : (data ++ crlf ++ rest).drop (data.length + 2) = rest := by
    have hchunk : (data ++ crlf).length = data.length + 2 := List.length_append
    rw [← hchunk, List.drop_left]
  rw [decodeChunked_of_cut (cut_line hline.1 _), hsize]
  dsimp only
  rw [if_neg (by omega), if_neg, htake, hdrop]
  rw [hlength, hend]
  simp only [ne_eq, not_true_eq_false, false_or]
  omega

lemma decodeChunked_of_exceeds (hexceeds : kMaxBodySize < acc.length + data.length) :
    ∃ error, decodeChunked acc (line ++ crlf ++ (data ++ crlf ++ rest)) = .error error := by
  have hpos := List.length_pos_iff.mpr hdata
  rw [decodeChunked_of_cut (cut_line hline.1 _), parseHexSize_of_sizeLine hline]
  by_cases hbig : kMaxBodySize < data.length
  · rw [if_pos hbig]
    exact ⟨_, rfl⟩
  · rw [if_neg hbig]
    dsimp only
    rw [if_neg (by omega), if_pos (.inr (.inr (by omega)))]
    exact ⟨_, rfl⟩

end Chunk

/-- The loop puts a body together from its chunks, up to the limit. -/
theorem decodeChunked_of_chunked (h : Chunked Closed wire body) {acc : Bytes} :
    (acc.length + body.length ≤ kMaxBodySize → decodeChunked acc wire = .ok (acc ++ body)) ∧
      (acc.length ≤ kMaxBodySize → kMaxBodySize < acc.length + body.length →
        ∃ error, decodeChunked acc wire = .error error) := by
  induction h generalizing acc with
  | @last line trailer hline htrailer =>
    have hsize := parseHexSize_of_sizeLine hline
    rw [if_neg (by decide)] at hsize
    refine ⟨fun _ => ?_, fun hacc hover => absurd hover (Nat.not_lt.mpr hacc)⟩
    rw [decodeChunked_of_cut (cut_line hline.1 _), hsize]
    dsimp only
    rw [if_pos rfl, List.append_nil]
    rcases cut_trailer htrailer with rfl | ⟨lines, hcut, hlength⟩
    · rw [if_pos rfl]
    · split_ifs
      · rfl
      · rw [hcut]
        exact if_neg (by simpa using hlength)
  | @chunk line data rest body hline hdata hrest ih =>
    rw [List.length_append]
    by_cases hfits : acc.length + data.length ≤ kMaxBodySize
    · obtain ⟨hok, herror⟩ := @ih (acc ++ data)
      rw [List.length_append] at hok herror
      rw [decodeChunked_of_fits hline hdata hfits, ← List.append_assoc]
      exact ⟨fun h => hok (by omega), fun _ h => herror hfits (by omega)⟩
    · refine ⟨fun h => absurd h (by omega), fun _ _ => ?_⟩
      exact decodeChunked_of_exceeds hline hdata (by omega)

/-- The trailer that is accepted behind the last chunk. -/
lemma closed_of_trailer {acc out rest : Bytes}
    (h : (if rest = crlf then .ok acc
      else
        match cut headerEnd rest with
        | none => .error (ascii "invalid control-key chunk trailer")
        | some (trailer, behind) =>
          if kMaxHeaderSize < trailer.length ∨ behind ≠ [] then
            .error (ascii "invalid control-key chunk trailer")
          else .ok acc : Except Bytes Bytes) = .ok out) : Closed rest := by
  by_cases hcrlf : rest = crlf
  · exact .inl hcrlf
  · rw [if_neg hcrlf] at h
    cases htrailer : cut headerEnd rest with
    | none =>
      rw [htrailer] at h
      cases h
    | some parts =>
      rw [htrailer] at h
      dsimp only at h
      split_ifs at h with hbad
      rw [not_or, not_not, Nat.not_lt] at hbad
      obtain ⟨lines, behind⟩ := parts
      obtain ⟨hlength, rfl⟩ := hbad
      exact closed_of_cut htrailer hlength

/-- A round that succeeds reads the last chunk, or one with data in front of the rest. -/
lemma round_of_decodeChunked {acc out : Bytes} (h : decodeChunked acc wire = .ok out) :
    (∃ line trailer, wire = line ++ crlf ++ trailer ∧ SizeLine line 0 ∧ Closed trailer) ∨
      ∃ line data rest, wire = line ++ crlf ++ (data ++ crlf ++ rest) ∧
        SizeLine line data.length ∧ data ≠ [] ∧ decodeChunked (acc ++ data) rest = .ok out := by
  cases hcut : cut crlf wire with
  | none =>
    rw [decodeChunked] at h
    split at h
    · cases h
    · rename_i hsome
      rw [hcut] at hsome
      cases hsome
  | some parts =>
    obtain ⟨line, rest⟩ := parts
    rw [decodeChunked_of_cut hcut] at h
    cases hsize : parseHexSize line with
    | none =>
      rw [hsize] at h
      cases h
    | some size =>
      obtain ⟨hline, -⟩ := sizeLine_of_parseHexSize (not_infix_of_cut_line hcut) hsize
      rw [hsize] at h
      dsimp only at h
      by_cases hzero : size = 0
      · rw [hzero] at hline
        rw [if_pos hzero] at h
        exact .inl ⟨line, rest, eq_of_cut hcut, hline, closed_of_trailer h⟩
      · rw [if_neg hzero] at h
        split_ifs at h with hbad
        simp only [not_or, not_not, Nat.not_lt] at hbad
        obtain ⟨hlength, hend, -⟩ := hbad
        have hdata : (rest.take size).length = size := List.length_take_of_le (by omega)
        have hne : rest.take size ≠ [] := by
          intro hnil
          rw [hnil] at hdata
          exact hzero hdata.symm
        have hsplit : rest = rest.take size ++ crlf ++ rest.drop (size + 2) := by
          rw [← hend, ← List.drop_drop, List.append_assoc, List.take_append_drop,
            List.take_append_drop]
        refine .inr ⟨line, rest.take size, rest.drop (size + 2), ?_, hdata.symm ▸ hline, hne, h⟩
        rw [← hsplit]
        exact eq_of_cut hcut

/-- What the loop accepts is made of chunks. -/
theorem chunked_of_decodeChunked {acc out : Bytes} (h : decodeChunked acc wire = .ok out) :
    ∃ body, Chunked Closed wire body := by
  induction hn : wire.length using Nat.strongRecOn generalizing wire acc with
  | ind n ih =>
    rcases round_of_decodeChunked h with
      ⟨line, trailer, rfl, hline, htrailer⟩ | ⟨line, data, rest, rfl, hline, hdata, hrest⟩
    · exact ⟨[], .last hline htrailer⟩
    · have hshorter : rest.length < n := by
        rw [← hn, List.length_append, List.length_append, List.length_append, List.length_append]
        have hlength : crlf.length = 2 := rfl
        omega
      obtain ⟨body, hbody⟩ := ih rest.length hshorter hrest rfl
      exact ⟨data ++ body, .chunk hline hdata hbody⟩

/-! ## Fields -/

/-- A field as it is kept. -/
def entry (f : Field) : Field := { name := key f, value := trim f.value }

/-- The loop over the fields, without their lines. -/
def collect (headers : List Field) : List Field → Except Bytes (List Field)
  | [] => .ok headers
  | f :: fields =>
    if key f = [] ∨ headers.any (·.name = key f) then
      .error (ascii "duplicate control-key HTTP field")
    else collect (entry f :: headers) fields

lemma cut_field {f : Field} (h : Plain f) : cut [colon] f.text = some (f.name, f.value) :=
  cut_append h.colon f.value

/-- The loop over the lines of a head looks at every field. -/
lemma readFields_eq {response behind : Bytes} {last cursor : ℕ} {fields : List Field}
    (hfields : ∀ f ∈ fields, Plain f) (headers : List Field)
    (hdrop : response.drop cursor = terminated crlf (fields.map Field.text) ++ crlf ++ behind)
    (hlast : cursor + (terminated crlf (fields.map Field.text)).length = last + 2) :
    readFields response last cursor headers = collect headers fields := by
  induction fields generalizing cursor headers with
  | nil =>
    rw [List.map_nil, terminated, List.flatMap_nil, List.length_nil] at hlast
    rw [readFields, if_neg (by omega)]
    rfl
  | cons f fields ih =>
    rw [List.forall_mem_cons] at hfields
    have hpos : 0 < f.text.length := List.length_pos_iff.mpr f.text_ne
    rw [List.map_cons, terminated_cons] at hdrop hlast
    rw [List.length_append, List.length_append, length_crlf] at hlast
    rw [List.append_assoc, List.append_assoc] at hdrop
    have hfind : find crlf response cursor = some (cursor + f.text.length) :=
      find_of_drop hfields.1.return_notMem hdrop
    have hnext := drop_of_drop hdrop
    rw [length_crlf, ← List.append_assoc] at hnext
    rw [readFields, if_pos (by omega)]
    split
    · rename_i hnone
      rw [hfind] at hnone
      cases hnone
    · rename_i place hplace
      obtain rfl := Option.some.inj (hfind.symm.trans hplace)
      rw [if_neg (by omega), take_of_drop hdrop, cut_field hfields.1]
      dsimp only
      rw [ih hfields.2 _ hnext (by omega)]
      rfl

/-- Fields are kept if their names are all there and differ. -/
lemma collect_eq_ok_iff {fields headers out : List Field} : collect headers fields = .ok out ↔
    out = (fields.map entry).reverse ++ headers ∧ (∀ f ∈ fields, key f ≠ []) ∧
      (fields.map key).Nodup ∧ ∀ f ∈ fields, ∀ g ∈ headers, g.name ≠ key f := by
  induction fields generalizing headers with
  | nil =>
    rw [collect, Except.ok.injEq]
    exact ⟨fun h => ⟨h.symm, nofun, List.nodup_nil, nofun⟩, fun h => h.1.symm⟩
  | cons f fields ih =>
    rw [collect]
    by_cases hbad : key f = [] ∨ headers.any (·.name = key f) = true
    · rw [if_pos hbad]
      refine iff_of_false nofun ?_
      rintro ⟨-, hnamed, -, hnew⟩
      rw [List.forall_mem_cons] at hnamed hnew
      refine hbad.elim hnamed.1 fun hany => ?_
      obtain ⟨g, hg, hname⟩ := List.any_eq_true.mp hany
      exact hnew.1 g hg (of_decide_eq_true hname)
    · rw [not_or, List.any_eq_true] at hbad
      have hnew : ∀ g ∈ headers, g.name ≠ key f :=
        fun g hg hname => hbad.2 ⟨g, hg, decide_eq_true hname⟩
      have houtput : (fields.map entry).reverse ++ entry f :: headers =
          ((f :: fields).map entry).reverse ++ headers := by
        rw [List.map_cons, List.reverse_cons, List.append_assoc]
        rfl
      rw [if_neg (by rw [not_or, List.any_eq_true]; exact hbad), ih, houtput,
        List.map_cons (f := key), List.nodup_cons]
      simp only [List.forall_mem_cons]
      constructor
      · rintro ⟨hout, hnamed, hdistinct, hapart⟩
        have hfirst : key f ∉ fields.map key := by
          intro hmem
          obtain ⟨g, hg, hname⟩ := List.mem_map.mp hmem
          exact (hapart g hg).1 hname.symm
        exact ⟨hout, ⟨hbad.1, hnamed⟩, ⟨hfirst, hdistinct⟩, hnew, fun g hg => (hapart g hg).2⟩
      · rintro ⟨hout, ⟨-, hnamed⟩, ⟨hfirst, hdistinct⟩, -, hapart⟩
        refine ⟨hout, hnamed, hdistinct, fun g hg => ⟨fun hname => ?_, hapart g hg⟩⟩
        exact hfirst (List.mem_map.mpr ⟨g, hg, hname.symm⟩)

lemma lookup_eq_some_iff {fields : List Field} (hdistinct : (fields.map key).Nodup) {name : String}
    {value : Bytes} : lookup name (fields.map entry).reverse = some value ↔
      ∃ f ∈ fields, key f = ascii name ∧ trim f.value = value := by
  rw [lookup, Option.map_eq_some_iff]
  constructor
  · rintro ⟨g, hg, rfl⟩
    obtain ⟨f, hf, rfl⟩ := List.mem_map.mp (List.mem_reverse.mp (List.mem_of_find?_eq_some hg))
    have hname := List.find?_some hg
    exact ⟨f, hf, of_decide_eq_true hname, rfl⟩
  · rintro ⟨f, hf, hname, rfl⟩
    have hmem : entry f ∈ (fields.map entry).reverse :=
      List.mem_reverse.mpr (List.mem_map_of_mem hf)
    cases hfind : (fields.map entry).reverse.find? fun g => g.name = ascii name with
    | none =>
      have hnone := List.find?_eq_none.mp hfind _ hmem
      exact absurd (decide_eq_true hname) hnone
    | some g =>
      obtain ⟨f', hf', rfl⟩ :=
        List.mem_map.mp (List.mem_reverse.mp (List.mem_of_find?_eq_some hfind))
      have hname' := List.find?_some hfind
      have hsame := List.inj_on_of_nodup_map hdistinct hf' hf
        ((of_decide_eq_true hname').trans hname.symm)
      exact ⟨_, rfl, by rw [hsame]; rfl⟩

/-! ## Responses -/

namespace Message

variable {m : Message} {name : String} {value : Bytes} {headers : List Field}

lemma has_iff (hdistinct : (m.fields.map key).Nodup) :
    lookup name (m.fields.map entry).reverse = some value ↔ m.Has name value :=
  lookup_eq_some_iff hdistinct

lemma hasNot_iff (hdistinct : (m.fields.map key).Nodup) :
    lookup name (m.fields.map entry).reverse = none ↔ ∀ value, ¬m.Has name value := by
  rw [Option.eq_none_iff_forall_ne_some]
  exact forall_congr' fun value => not_congr (has_iff hdistinct)

/-- The text of the response, cut behind the status line. -/
lemma text_eq (m : Message) : m.text =
    m.status ++ crlf ++ (terminated crlf (m.fields.map Field.text) ++ crlf ++ m.received) := by
  rw [text, head, headText, headerEnd, ← List.append_assoc, joined_append]
  simp only [List.append_assoc]

/-- What is decided line by line. -/
theorem decodeHttpBody_text (hlines : m.Lines) : decodeHttpBody m.text =
    if kMaxHeaderSize < m.head.length then
      .error (ascii "invalid or oversized control-key HTTP header")
    else if accepted m.status = false then
      .error (ascii "control-key endpoint returned a non-200 status")
    else
      match collect [] m.fields with
      | .error error => .error error
      | .ok headers => decodeFramed headers m.received := by
  have hhead : cut headerEnd m.text = some (m.head, m.received) :=
    cut_headText hlines.status.1 hlines.fields m.received
  have hstatus : cut crlf m.text = some
      (m.status, terminated crlf (m.fields.map Field.text) ++ crlf ++ m.received) := by
    rw [m.text_eq, List.append_assoc]
    exact cut_append hlines.status.1 _
  have hdrop : m.text.drop (m.status.length + 2) =
      terminated crlf (m.fields.map Field.text) ++ crlf ++ m.received := by
    have hline : (m.status ++ crlf).length = m.status.length + 2 := List.length_append
    rw [m.text_eq, ← hline, List.drop_left]
  have hlast : m.status.length + 2 + (terminated crlf (m.fields.map Field.text)).length =
      m.head.length + 2 := by
    have hjoined := congrArg List.length (joined_append crlf m.status (m.fields.map Field.text))
    rw [List.length_append, List.length_append, List.length_append, length_crlf] at hjoined
    exact hjoined.symm
  rw [decodeHttpBody, hhead]
  dsimp only
  rw [hstatus]
  dsimp only
  rw [readFields_eq hlines.fields [] hdrop hlast]

/-- A framed body is taken up to the limit. -/
lemma decodeFramed_of_frames (hdistinct : (m.fields.map key).Nodup) (h : m.Frames Closed body) :
    (body.length ≤ kMaxBodySize →
        decodeFramed (m.fields.map entry).reverse m.received = .ok body) ∧
      (kMaxBodySize < body.length →
        ∃ error, decodeFramed (m.fields.map entry).reverse m.received = .error error) := by
  have htrim (value : Bytes) (name : String) (hvalue : m.Has name value) : trim value = value := by
    obtain ⟨f, -, -, rfl⟩ := hvalue
    exact strip_strip isBlank f.value
  unfold decodeFramed
  cases h with
  | length digits hlength htransfer hne hdigits hvalue hbody =>
    subst hbody
    rw [(hasNot_iff hdistinct).mpr htransfer, (has_iff hdistinct).mpr hlength]
    dsimp only
    unfold decodeLength
    rw [htrim _ _ hlength]
    simp only [hne, hdigits, Bool.true_eq_false, hvalue, ne_eq, not_true_eq_false, or_false,
      false_or]
    refine ⟨fun hsize => if_neg (Nat.not_lt.mpr hsize), fun hsize => ⟨_, if_pos hsize⟩⟩
  | chunked coding htransfer hlength hcoding hbody =>
    rw [(has_iff hdistinct).mpr htransfer, (hasNot_iff hdistinct).mpr hlength]
    dsimp only
    rw [htrim _ _ htransfer, if_neg (not_not.mpr hcoding)]
    obtain ⟨hok, herror⟩ := @decodeChunked_of_chunked _ _ hbody []
    rw [List.length_nil, Nat.zero_add] at hok herror
    exact ⟨hok, herror (Nat.zero_le _)⟩
  | close hlength htransfer hbody =>
    subst hbody
    rw [(hasNot_iff hdistinct).mpr htransfer, (hasNot_iff hdistinct).mpr hlength]
    exact ⟨fun hsize => if_neg (Nat.not_lt.mpr hsize), fun hsize => ⟨_, if_pos hsize⟩⟩

lemma Legal.accepted (h : m.Legal) : ControlKey.accepted m.status = true := by
  obtain ⟨minor, reason, hminor, hstatus⟩ := h.version
  have hblank : (32 : UInt8) ∉ ascii "HTTP/1." ++ [minor] := by
    rw [List.mem_append, List.mem_singleton]
    rintro (hmem | rfl)
    · exact absurd hmem (by decide)
    · cases hminor
  have hrest : ascii " 200 " = 32 :: ascii "200 " := by decide
  have hcode : ascii "200 " = ascii "200" ++ [32] := by decide
  have hcut : cut [32] m.status = some (ascii "HTTP/1." ++ [minor], ascii "200 " ++ reason) := by
    rw [hstatus, hrest, List.append_assoc _ (32 :: ascii "200 ")]
    exact cut_append hblank _
  have hversion : ascii "HTTP/1." <+: m.status := by
    rw [hstatus, List.append_assoc, List.append_assoc]
    exact List.prefix_append _ _
  rw [ControlKey.accepted, hcut, hcode, List.append_assoc]
  simp only [hversion, decide_true, Bool.true_and, Bool.and_eq_true, decide_eq_true_eq]
  exact ⟨rfl, rfl⟩

lemma Frames.mono {T T' : Bytes → Prop} (hT : ∀ trailer, T trailer → T' trailer)
    (h : m.Frames T body) : m.Frames T' body := by
  cases h with
  | length digits hlength htransfer hne hdigits hvalue hbody =>
    exact .length digits hlength htransfer hne hdigits hvalue hbody
  | chunked coding htransfer hlength hcoding hbody =>
    exact .chunked coding htransfer hlength hcoding (hbody.mono hT)
  | close hlength htransfer hbody => exact .close hlength htransfer hbody

/-- Every framing is undone. -/
theorem decodeHttpBody_of_legal (hlegal : m.Legal) (hhead : m.head.length ≤ kMaxHeaderSize)
    (hframes : m.Frames Fields body) (hsize : body.length ≤ kMaxBodySize) :
    decodeHttpBody m.text = .ok body := by
  have hcollect : collect [] m.fields = .ok (m.fields.map entry).reverse :=
    collect_eq_ok_iff.mpr
      ⟨(List.append_nil _).symm, hlegal.named, hlegal.distinct, fun _ _ => nofun⟩
  have hframed := decodeFramed_of_frames hlegal.distinct (hframes.mono fun _ => closed_of_fields)
  rw [decodeHttpBody_text hlegal.toLines, if_neg (Nat.not_lt.mpr hhead), hlegal.accepted,
    if_neg (by simp), hcollect]
  exact hframed.1 hsize

/-- The length of an accepted response is that of its body, and no other framing is there. -/
lemma length_of_decodeFramed (hdistinct : (m.fields.map key).Nodup) {out : Bytes}
    (h : decodeFramed (m.fields.map entry).reverse m.received = .ok out)
    (hlength : m.Has "content-length" value) :
    (value ≠ [] ∧ value.all isdigit = true ∧ digitsValue value = m.received.length) ∧
      ∀ coding, ¬m.Has "transfer-encoding" coding := by
  have htrim : trim value = value := by
    obtain ⟨f, -, -, rfl⟩ := hlength
    exact strip_strip isBlank f.value
  unfold decodeFramed at h
  rw [(has_iff hdistinct).mpr hlength] at h
  cases htransfer : lookup "transfer-encoding" (m.fields.map entry).reverse with
  | some coding =>
    rw [htransfer] at h
    cases h
  | none =>
    rw [htransfer] at h
    dsimp only at h
    unfold decodeLength at h
    dsimp only at h
    rw [htrim] at h
    split_ifs at h with hbad
    simp only [not_or, Bool.not_eq_false, not_not] at hbad
    obtain ⟨hne, hdigits, -, hvalue⟩ := hbad
    exact ⟨⟨hne, hdigits, hvalue.symm⟩, (hasNot_iff hdistinct).mp htransfer⟩

/-- The chunks of an accepted response are well formed. -/
lemma chunked_of_decodeFramed (hdistinct : (m.fields.map key).Nodup) {out : Bytes}
    (h : decodeFramed (m.fields.map entry).reverse m.received = .ok out)
    (htransfer : m.Has "transfer-encoding" value) : ∃ body, Chunked Closed m.received body := by
  unfold decodeFramed at h
  rw [(has_iff hdistinct).mpr htransfer] at h
  cases hlength : lookup "content-length" (m.fields.map entry).reverse with
  | some length =>
    rw [hlength] at h
    cases h
  | none =>
    rw [hlength] at h
    dsimp only at h
    split_ifs at h
    exact chunked_of_decodeChunked h

/-- No response with a fault is accepted. -/
theorem error_of_faulty (hlines : m.Lines) (hfaulty : m.Faulty) :
    ∃ error, decodeHttpBody m.text = .error error := by
  cases hresult : decodeHttpBody m.text with
  | error error => exact ⟨error, rfl⟩
  | ok out =>
    exfalso
    rw [decodeHttpBody_text hlines] at hresult
    split_ifs at hresult
    cases hcollect : collect [] m.fields with
    | error error =>
      rw [hcollect] at hresult
      cases hresult
    | ok headers =>
      obtain ⟨rfl, -, hdistinct, -⟩ := collect_eq_ok_iff.mp hcollect
      rw [hcollect, List.append_nil] at hresult
      dsimp only at hresult
      cases hfaulty with
      | length value hlength hdiffers =>
        exact hdiffers (length_of_decodeFramed hdistinct hresult hlength).1
      | both value coding hlength htransfer =>
        exact (length_of_decodeFramed hdistinct hresult hlength).2 coding htransfer
      | duplicate hduplicate => exact hduplicate hdistinct
      | malformed coding htransfer hbody =>
        obtain ⟨body, hchunked⟩ := chunked_of_decodeFramed hdistinct hresult htransfer
        exact hbody body hchunked
      | oversized body hbody hsize =>
        obtain ⟨error, herror⟩ := (decodeFramed_of_frames hdistinct hbody).2 hsize
        rw [herror] at hresult
        cases hresult

/-- A head that is too long is an error. -/
lemma error_of_long (hlines : m.Lines) (hlong : kMaxHeaderSize < m.head.length) :
    ∃ error, decodeHttpBody m.text = .error error := by
  rw [decodeHttpBody_text hlines, if_pos hlong]
  exact ⟨_, rfl⟩

end Message

/-- **Every framing is undone, and no ambiguous one is accepted.** -/
theorem decodes_framed (m : Message) :
    (m.Legal → m.head.length ≤ kMaxHeaderSize → ∀ body, m.Frames Fields body →
      body.length ≤ kMaxBodySize → decodeHttpBody m.text = .ok body) ∧
    (m.Lines → m.Faulty → ∃ error, decodeHttpBody m.text = .error error) :=
  ⟨fun hlegal hhead _ hframes hsize =>
    Message.decodeHttpBody_of_legal hlegal hhead hframes hsize, Message.error_of_faulty⟩

/-- A field that is longer than a head may be. -/
def longField : Field := { name := ascii "a", value := List.replicate kMaxHeaderSize 97 }

def longHead : Message where
  status := ascii "HTTP/1.1 200 OK"
  fields := [longField]
  received := []

lemma plain_longField : Plain longField := by
  have hvalue {c : UInt8} (hc : c ≠ 97) : c ∉ longField.value :=
    fun hmem => hc (List.eq_of_mem_replicate hmem)
  exact ⟨by decide, by decide, hvalue (by decide), hvalue (by decide)⟩

lemma key_longField : key longField = ascii "a" := by decide +kernel

lemma legal_longHead : longHead.Legal := by
  refine ⟨⟨by decide, fun f hf => ?_⟩, ⟨49, ascii "OK", by decide, by decide⟩, fun f hf => ?_,
    List.nodup_singleton _⟩
  · rw [List.mem_singleton.mp hf]
    exact plain_longField
  · rw [List.mem_singleton.mp hf, key_longField]
    decide

lemma hasNot_longHead {name : String} (hname : ascii "a" ≠ ascii name) (value : Bytes) :
    ¬longHead.Has name value := by
  rintro ⟨f, hf, hkey, -⟩
  rw [List.mem_singleton.mp hf, key_longField] at hkey
  exact hname hkey

/-- The body of the response is not read. -/
theorem longHead_rejected : longHead.Legal ∧ longHead.Frames Fields [] ∧
    ∃ error, decodeHttpBody longHead.text = .error error := by
  refine ⟨legal_longHead, .close (hasNot_longHead (by decide)) (hasNot_longHead (by decide)) rfl,
    Message.error_of_long legal_longHead.toLines ?_⟩
  have hvalue : longField.text.length = kMaxHeaderSize + 2 := by
    rw [Field.text, List.length_append, List.length_cons, longField, List.length_replicate]
    exact Nat.add_comm _ _
  have hhead : longHead.head.length =
      longHead.status.length + (crlf.length + longField.text.length) := by
    simp only [Message.head, headText, joined, longHead, List.map_cons, List.map_nil,
      List.flatMap_cons, List.flatMap_nil, List.append_nil, List.length_append]
  omega

/-- A body in two chunks, one of them with an extension, and a trailer. -/
def twoChunks : Message where
  status := ascii "HTTP/1.1 200 OK"
  fields := [{ name := ascii "Transfer-Encoding", value := ascii " Chunked" }]
  received := ascii "A;x=1\r\n0123456789\r\n1\r\na\r\n00\r\nT: 1\r\n\r\n"

lemma chunked_twoChunks : Chunked Fields twoChunks.received (ascii "0123456789a") := by
  have hfirst : SizeLine (ascii "A;x=1") (ascii "0123456789").length :=
    ⟨by decide +kernel, [], ascii "A", [], ascii ";x=1", by decide, rfl, by decide, by decide,
      by decide, rfl, by decide +kernel⟩
  have hsecond : SizeLine (ascii "1") (ascii "a").length :=
    ⟨by decide +kernel, [], ascii "1", [], [], by decide, rfl, by decide, by decide, by decide,
      rfl, nofun⟩
  have hlast : SizeLine (ascii "00") 0 :=
    ⟨by decide +kernel, [], ascii "00", [], [], by decide, rfl, by decide, by decide, by decide,
      rfl, nofun⟩
  have htrailer : Fields (ascii "T: 1\r\n\r\n") := by
    refine ⟨[{ name := ascii "T", value := ascii " 1" }], fun f hf => ?_, by decide, by decide⟩
    rw [List.mem_singleton.mp hf]
    exact ⟨by decide, by decide, by decide⟩
  exact .chunk hfirst (by decide) (.chunk hsecond (by decide) (.last hlast htrailer))

theorem decodes_framed_twoChunks :
    decodeHttpBody twoChunks.text = .ok (ascii "0123456789a") := by
  have hkey (f : Field) (hf : f ∈ twoChunks.fields) : key f = ascii "transfer-encoding" := by
    rw [List.mem_singleton.mp hf]
    decide +kernel
  have hlength (value : Bytes) : ¬twoChunks.Has "content-length" value := by
    rintro ⟨f, hf, hname, -⟩
    rw [hkey f hf] at hname
    exact absurd hname (by decide)
  have hlegal : twoChunks.Legal := by
    refine ⟨⟨by decide, fun f hf => ?_⟩, ⟨49, ascii "OK", by decide, by decide⟩, fun f hf => ?_,
      List.nodup_singleton _⟩
    · rw [List.mem_singleton.mp hf]
      exact ⟨by decide, by decide, by decide⟩
    · rw [hkey f hf]
      decide
  refine (decodes_framed twoChunks).1 hlegal (by decide +kernel) _ (.chunked (ascii "Chunked")
    ⟨_, List.mem_cons_self, hkey _ List.mem_cons_self, by decide +kernel⟩ hlength (by decide)
    chunked_twoChunks) (by decide +kernel)

end ArtemisSwitch.ControlKey

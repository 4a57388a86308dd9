import Mathlib.Tactic.IntervalCases
import ArtemisSwitch.Http2
import ArtemisSwitch.Library.Hpack

/-!
# The headers of a control request

`buildHttp2PostHeaders` writes each length into one octet.  What a decoder makes of the block is
compared with the list of headers that the request is to have.
-/

namespace ArtemisSwitch.Http2
open Hpack

/-- The headers of a request. -/
def postHeaders (authority path : Bytes) : List Field :=
  [⟨ascii ":method", ascii "POST"⟩, ⟨ascii ":scheme", ascii "https"⟩, ⟨ascii ":path", path⟩,
    ⟨ascii ":authority", authority⟩, ⟨ascii "content-type", ascii "application/json"⟩]

/-- The dynamic table may take so much without a setting of the peer. -/
def defaultTableSize : ℕ := 4096

/-- The frame carries the headers to a decoder with this Huffman code. -/
def CarriesHeaders (huffman : Bytes → Option Bytes) (streamId : ℕ) (authority path : Bytes) :
    Prop :=
  let request := buildHttp2PostHeaders streamId authority path
  let payload := request.drop kHttp2HeaderLen
  block huffman defaultTableSize {} payload = some (postHeaders authority path) ∧
    ∃ frame, Http2FrameDecoder.take request = (some frame, []) ∧ frame.payload = payload ∧
      frame.type = 0x01 ∧ frame.streamId = streamId

/-- The end of the block, which is the same in all requests. -/
def typeText : Bytes := [0x0f, 0x10, 0x10] ++ ascii "application/json"

/-- The end of the block from the authority on. -/
def authorityText (authority : Bytes) : Bytes :=
  0x01 :: UInt8.ofNat authority.length :: (authority ++ typeText)

variable {huffman : Bytes → Option Bytes} {authority path text rest value : Bytes}
  {table : Table} {field : Field}

lemma postHeaderBlock_eq (authority path : Bytes) : postHeaderBlock authority path =
    0x83 :: 0x87 :: 0x04 :: UInt8.ofNat path.length :: (path ++ authorityText authority) := by
  simp [postHeaderBlock, authorityText, typeText, ascii]

lemma length_authorityText (authority : Bytes) :
    (authorityText authority).length = authority.length + 21 := by
  simp [authorityText, typeText, ascii]

/-! ## The fixed octets -/

lemma representation_method : representation huffman {} (0x83 :: text) =
    some (⟨ascii ":method", ascii "POST"⟩, {}, text) := rfl

lemma representation_scheme : representation huffman {} (0x87 :: text) =
    some (⟨ascii ":scheme", ascii "https"⟩, {}, text) := rfl

lemma representation_path : representation huffman {} (0x04 :: text) =
    (literal huffman text).map fun r => (⟨ascii ":path", r.1⟩, {}, r.2) := by
  have hentry : ({} : Table).lookup (0x04 : UInt8).toNat = some ⟨ascii ":path", ascii "/"⟩ := by
    decide +kernel
  exact representation_literal (by decide) hentry

lemma representation_authority : representation huffman {} (0x01 :: text) =
    (literal huffman text).map fun r => (⟨ascii ":authority", r.1⟩, {}, r.2) := by
  have hentry : ({} : Table).lookup (0x01 : UInt8).toNat = some ⟨ascii ":authority", []⟩ := by
    decide +kernel
  exact representation_literal (by decide) hentry

lemma representation_type : representation huffman {} typeText =
    some (⟨ascii "content-type", ascii "application/json"⟩, {}, []) := rfl

/-- The block starts with no change of the table size. -/
lemma block_eq (limit : ℕ) : block huffman limit {} (postHeaderBlock authority path) =
    fields huffman (postHeaderBlock authority path).length {} (postHeaderBlock authority path) := by
  rw [postHeaderBlock_eq]
  rfl

/-! ## Short texts are read back -/

lemma length_postHeaderBlock (authority path : Bytes) :
    (postHeaderBlock authority path).length = path.length + authority.length + 25 := by
  rw [postHeaderBlock_eq]
  simp only [List.length_cons, List.length_append, length_authorityText]
  omega

lemma block_of_short (limit : ℕ) (hpath : path.length < 127) (hauthority : authority.length < 127) :
    block huffman limit {} (postHeaderBlock authority path) =
      some (postHeaders authority path) := by
  have hpathField : representation huffman {}
      (0x04 :: UInt8.ofNat path.length :: (path ++ authorityText authority)) =
        some (⟨ascii ":path", path⟩, {}, authorityText authority) := by
    rw [representation_path, literal_of_length_lt hpath, Option.map_some]
  have hauthorityField : representation huffman {} (authorityText authority) =
      some (⟨ascii ":authority", authority⟩, {}, typeText) := by
    rw [authorityText, representation_authority, literal_of_length_lt hauthority, Option.map_some]
  have htype {count : ℕ} : fields huffman (count + 1) {} typeText =
      some [⟨ascii "content-type", ascii "application/json"⟩] := by
    have h := @fields_cons huffman _ _ _ _ _ _ count (@representation_type huffman)
    rw [fields_nil] at h
    exact h
  rw [block_eq, length_postHeaderBlock, postHeaderBlock_eq, fields_cons representation_method,
    fields_cons representation_scheme, fields_cons hpathField, authorityText,
    fields_cons hauthorityField, htype]
  rfl

/-! ## The length octet of a long text -/

/-- Whoever reads a string behind the octet of its own length reads a short one, or takes octets
of the string for the length. -/
lemma literal_own {behind : Bytes}
    (hcode : ∀ coded, huffman coded = some value →
      value.length ≤ 254 ∧ 5 * value.length ≤ 8 * coded.length)
    (h : literal huffman (UInt8.ofNat value.length :: (value ++ behind)) = some (value, rest)) :
    value.length < 127 ∧ rest = behind ∨
      value.length % 256 = 127 ∧
        continuation (value ++ behind) = some (value.length - 127, value ++ rest) := by
  obtain ⟨coded, hinteger, htext⟩ := literal_some h
  have hoctet : (UInt8.ofNat value.length).toNat = value.length % 256 := UInt8.toNat_ofNat'
  rw [List.headD_cons] at htext
  split_ifs at htext with hplain
  · rw [UInt8.lt_iff_toNat_lt, hoctet] at hplain
    change value.length % 256 < 128 at hplain
    obtain rfl := Option.some.inj htext
    by_cases hfull : coded.length % 256 = 127
    · right
      refine ⟨hfull, ?_⟩
      rw [integer_of_ge (by omega)] at hinteger
      obtain ⟨r, hr, heq⟩ := Option.map_eq_some_iff.mp hinteger
      obtain ⟨hlength, hrest⟩ := Prod.mk.inj heq
      rw [hr]
      exact congrArg some (Prod.ext (by omega) hrest)
    · left
      rw [integer_of_lt (by omega)] at hinteger
      obtain ⟨hlength, hrest⟩ := Prod.mk.inj (Option.some.inj hinteger)
      exact ⟨by omega, (List.append_cancel_left hrest).symm⟩
  · -- a Huffman code would have to be much shorter than its text
    obtain ⟨hle, hcode⟩ := hcode coded htext
    rw [UInt8.lt_iff_toNat_lt, hoctet] at hplain
    change ¬value.length % 256 < 128 at hplain
    rw [integer_of_lt (by omega)] at hinteger
    obtain ⟨hlength, -⟩ := Prod.mk.inj (Option.some.inj hinteger)
    omega

/-- The last field is not found in a part of its text. -/
lemma representation_typeText_drop {k : ℕ} (hk : k < 19) :
    representation huffman table (typeText.drop (k + 1)) = none := by
  interval_cases k <;> rfl

lemma typeText_suffix (authority path : Bytes) : typeText <:+ postHeaderBlock authority path := by
  rw [postHeaderBlock_eq]
  exact ⟨0x83 :: 0x87 :: 0x04 :: UInt8.ofNat path.length :: (path ++
    0x01 :: UInt8.ofNat authority.length :: authority), by simp [authorityText]⟩

/-- What the last field is read from has its whole text. -/
lemma le_length_of_type {table' : Table} (hsuffix : text <:+ postHeaderBlock authority path)
    (h : representation huffman table text = some (field, table', rest)) : 19 ≤ text.length := by
  by_contra hshort
  have hlength : typeText.length = 19 := rfl
  have hwithin : text <:+ typeText :=
    List.suffix_of_suffix_length_le hsuffix (typeText_suffix authority path) (by omega)
  rw [List.suffix_iff_eq_drop, hlength] at hwithin
  have hnone := @representation_typeText_drop huffman table (18 - text.length) (by omega)
  rw [show 18 - text.length + 1 = 19 - text.length by omega, ← hwithin, h] at hnone
  cases hnone

lemma fields_of_block {limit : ℕ}
    (h : block huffman limit {} (postHeaderBlock authority path) =
      some (postHeaders authority path)) :
    ∃ behindPath behindAuthority table,
      literal huffman (UInt8.ofNat path.length :: (path ++ authorityText authority)) =
          some (path, behindPath) ∧
        representation huffman {} behindPath =
          some (⟨ascii ":authority", authority⟩, table, behindAuthority) ∧
        behindPath <:+ postHeaderBlock authority path ∧ 19 ≤ behindAuthority.length := by
  rw [block_eq, postHeaderBlock_eq] at h
  obtain ⟨_, _, _, hmethod, h⟩ := fields_eq_cons h
  rw [representation_method] at hmethod
  cases hmethod
  obtain ⟨_, _, _, hscheme, h⟩ := fields_eq_cons h
  rw [representation_scheme] at hscheme
  cases hscheme
  obtain ⟨_, _, _, hpath, h⟩ := fields_eq_cons h
  rw [representation_path] at hpath
  obtain ⟨⟨found, behindPath⟩, hliteral, heq⟩ := Option.map_eq_some_iff.mp hpath
  obtain rfl : path = found := by
    cases heq
    rfl
  cases heq
  obtain ⟨_, table, behindAuthority, hauthority, h⟩ := fields_eq_cons h
  obtain ⟨_, _, _, htype, -⟩ := fields_eq_cons h
  have hsuffix : behindPath <:+ postHeaderBlock authority path := by
    rw [postHeaderBlock_eq]
    exact (literal_suffix hliteral).1.trans ⟨[0x83, 0x87, 0x04], rfl⟩
  exact ⟨behindPath, behindAuthority, table, hliteral, hauthority, hsuffix,
    le_length_of_type ((representation_suffix hauthority).trans hsuffix) htype⟩

lemma authority_short {behind : Bytes}
    (hcode : ∀ coded, huffman coded = some authority →
      authority.length ≤ 254 ∧ 5 * authority.length ≤ 8 * coded.length)
    (h : representation huffman {} (authorityText authority) =
      some (⟨ascii ":authority", authority⟩, table, behind))
    (htype : 19 ≤ behind.length) : authority.length < 127 := by
  rw [authorityText, representation_authority] at h
  obtain ⟨⟨found, left⟩, hliteral, heq⟩ := Option.map_eq_some_iff.mp h
  obtain ⟨rfl, rfl⟩ : authority = found ∧ behind = left := by
    cases heq
    exact ⟨rfl, rfl⟩
  obtain ⟨hshort, -⟩ | ⟨-, hlong⟩ := literal_own hcode hliteral
  · exact hshort
  · have hlength := (continuation_shrinks hlong).2
    have htypeText : typeText.length = 19 := rfl
    rw [List.length_append, List.length_append] at hlength
    omega

/-- Without a Huffman code there is no room for the octets that are taken for the length. -/
lemma path_short_of_refusing {behind behindAuthority : Bytes}
    (hliteral : literal (fun _ => none)
      (UInt8.ofNat path.length :: (path ++ authorityText authority)) = some (path, behind))
    (hauthority : representation (fun _ => none) {} behind =
      some (⟨ascii ":authority", authority⟩, table, behindAuthority))
    (hsuffix : behind <:+ postHeaderBlock authority path) (htype : 19 ≤ behindAuthority.length) :
    path.length < 127 ∧ behind = authorityText authority := by
  obtain hshort | ⟨-, hlong⟩ := literal_own (by simp) hliteral
  · exact hshort
  · exfalso
    have hlength := (continuation_shrinks hlong).2
    rw [List.length_append, List.length_append, length_authorityText] at hlength
    obtain ⟨-, ⟨hstatic, -, hrest⟩ | ⟨string, hstring, hbefore, hvalue⟩⟩ :=
      representation_some hauthority
    · -- the empty authority of the static table takes one octet
      have hempty : authority = [] := by
        have hfields : ∀ field ∈ staticFields, field.name = ascii ":authority" →
            field.value = [] := by decide +kernel
        exact hfields _ (by simpa using hstatic) rfl
      subst hempty
      have hbehind : behind = 0x00 :: typeText := by
        have hwhole : 0x00 :: typeText <:+ postHeaderBlock [] path := by
          rw [postHeaderBlock_eq]
          exact ⟨0x83 :: 0x87 :: 0x04 :: UInt8.ofNat path.length :: (path ++ [0x01]),
            by simp [authorityText]⟩
        refine (List.suffix_of_suffix_length_le hsuffix hwhole ?_).eq_of_length ?_
        all_goals
          have htypeText : (0x00 :: typeText).length = 20 := rfl
          rw [List.length_nil] at hlength
          omega
      rw [hbehind] at hauthority
      cases hauthority
    · obtain ⟨coded, hinteger, htext⟩ := literal_some hvalue
      split_ifs at htext
      obtain rfl := Option.some.inj htext
      have hinside := (integer_suffix hinteger).2
      rw [List.length_append] at hinside
      omega

/-- A text that is pushed back by some octets ends with one of these. -/
lemma mem_of_shifted {c : UInt8} {front text behind rest : Bytes} (hfront : front ≠ [])
    (h : text ++ c :: behind = front ++ (text ++ rest)) : c ∈ front := by
  have hlength : 0 < front.length := List.length_pos_iff.mpr hfront
  -- on the length of the text: a longer one begins with `front` itself
  induction hn : text.length using Nat.strong_induction_on generalizing text with
  | _ n ih =>
    by_cases hshort : text.length < front.length
    · have hget := congrArg (·[text.length]?) h
      simp only [List.getElem?_append_right (Nat.le_refl _), Nat.sub_self, List.getElem?_cons_zero,
        List.getElem?_append_left hshort] at hget
      exact List.mem_of_getElem? hget.symm
    · have hfits : front <+: text :=
        List.prefix_of_prefix_length_le (List.prefix_append _ _) ⟨c :: behind, h⟩
          (Nat.not_lt.mp hshort)
      obtain ⟨text', rfl⟩ := hfits
      rw [List.length_append] at hn
      rw [List.append_assoc, List.append_assoc] at h
      exact ih text'.length (by omega) (List.append_cancel_left h) rfl

/-- No symbol of the code takes less than five bits, which holds of the code of HPACK. -/
def FiveBits (huffman : Bytes → Option Bytes) : Prop :=
  ∀ coded text, huffman coded = some text → 5 * text.length ≤ 8 * coded.length

/-- A path of 127 octets would have to begin with octets that stand for 0. -/
lemma path_short_of_fiveBits {behind : Bytes} (hcode : FiveBits huffman)
    (hsize : path.length ≤ 254)
    (hliteral : literal huffman
      (UInt8.ofNat path.length :: (path ++ authorityText authority)) = some (path, behind)) :
    path.length < 127 ∧ behind = authorityText authority := by
  obtain hshort | ⟨hlength, hlong⟩ :=
    literal_own (fun coded htext => ⟨hsize, hcode coded path htext⟩) hliteral
  · exact hshort
  · exfalso
    have hzero : path.length - 127 = 0 := by omega
    rw [hzero] at hlong
    obtain ⟨front, htext, hfront, hoctets⟩ := continuation_zero hlong
    rcases hoctets 0x01 (mem_of_shifted hfront htext) with heq | heq
    all_goals exact absurd heq (by decide)

/-! ## The frame -/

lemma drop_buildHttp2PostHeaders (streamId : ℕ) (authority path : Bytes) :
    (buildHttp2PostHeaders streamId authority path).drop kHttp2HeaderLen =
      postHeaderBlock authority path := by
  simp [buildHttp2PostHeaders, write24, write32, kHttp2HeaderLen]

lemma take_buildHttp2PostHeaders {streamId : ℕ} (hstream : streamId < 2147483648)
    (hsize : (postHeaderBlock authority path).length ≤ defaultMaxFrameSize) :
    Http2FrameDecoder.take (buildHttp2PostHeaders streamId authority path) =
      (some ⟨(postHeaderBlock authority path).length, 0x01, 0x04, streamId,
        postHeaderBlock authority path⟩, []) := by
  have hlegal : Http2Frame.Legal ⟨(postHeaderBlock authority path).length, 0x01, 0x04, streamId,
      postHeaderBlock authority path⟩ := ⟨rfl, hsize, hstream⟩
  have hencoded : buildHttp2PostHeaders streamId authority path =
      Http2Frame.encoded ⟨(postHeaderBlock authority path).length, 0x01, 0x04, streamId,
        postHeaderBlock authority path⟩ ++ [] := (List.append_nil _).symm
  rw [take_eq_scan, hencoded, Framing.scan_frame_append hlegal.isFrame]
  dsimp only
  rw [frameOf_encoded hlegal]

lemma carriesHeaders_of_short {streamId : ℕ} (hstream : streamId < 2147483648)
    (hpath : path.length < 127) (hauthority : authority.length < 127) :
    CarriesHeaders huffman streamId authority path := by
  have hsize : (postHeaderBlock authority path).length ≤ defaultMaxFrameSize := by
    rw [length_postHeaderBlock, defaultMaxFrameSize]
    omega
  unfold CarriesHeaders
  dsimp only
  rw [drop_buildHttp2PostHeaders]
  exact ⟨block_of_short defaultTableSize hpath hauthority, _,
    take_buildHttp2PostHeaders hstream hsize, rfl, rfl, rfl⟩

/-- Decoders get the headers exactly when both texts are short: decoders with any Huffman code for
texts of any length, and a decoder with the code of HPACK for texts as long as host names are. -/
theorem postHeaders_carried_iff {streamId : ℕ} (hstream : streamId < 2147483648)
    (authority path : Bytes) :
    ((∀ huffman, CarriesHeaders huffman streamId authority path) ↔
        path.length < 127 ∧ authority.length < 127) ∧
      ∀ huffman, FiveBits huffman → path.length ≤ 254 → authority.length ≤ 254 →
        (CarriesHeaders huffman streamId authority path ↔
          path.length < 127 ∧ authority.length < 127) := by
  refine ⟨⟨fun h => ?_, fun h huffman => carriesHeaders_of_short hstream h.1 h.2⟩,
    fun huffman hcode hpathSize hauthoritySize =>
      ⟨fun h => ?_, fun h => carriesHeaders_of_short hstream h.1 h.2⟩⟩
  · have hblock := (h fun _ => none).1
    rw [drop_buildHttp2PostHeaders] at hblock
    obtain ⟨behind, left, table, hliteral, hauthority, hsuffix, htype⟩ := fields_of_block hblock
    obtain ⟨hpath, rfl⟩ := path_short_of_refusing hliteral hauthority hsuffix htype
    exact ⟨hpath, authority_short (by simp) hauthority htype⟩
  · have hblock := h.1
    rw [drop_buildHttp2PostHeaders] at hblock
    obtain ⟨behind, left, table, hliteral, hauthority, -, htype⟩ := fields_of_block hblock
    obtain ⟨hpath, rfl⟩ := path_short_of_fiveBits hcode hpathSize hliteral
    exact ⟨hpath, authority_short
      (fun coded htext => ⟨hauthoritySize, hcode coded authority htext⟩) hauthority htype⟩

theorem postHeaders_carried_iff_map : (ascii "controlplane.tailscale.com").length < 127 ∧
    ∀ huffman, CarriesHeaders huffman 3 (ascii "controlplane.tailscale.com")
      (ascii "/machine/map") :=
  ⟨by decide +kernel, (postHeaders_carried_iff (by decide) _ _).1.mpr (by decide +kernel)⟩

/-- A host name of 127 characters. -/
def longHost : Bytes := List.replicate 63 97 ++ ascii "." ++ List.replicate 63 97

/-- The first character of the name is taken for a part of its length. -/
theorem long_host_lost :
    ¬∃ huffman, CarriesHeaders huffman 3 longHost (ascii "/machine/map") := by
  rintro ⟨huffman, hblock, -⟩
  rw [drop_buildHttp2PostHeaders] at hblock
  obtain ⟨behind, left, table, hliteral, hauthority, -, -⟩ := fields_of_block hblock
  rw [literal_of_length_lt (by decide +kernel)] at hliteral
  obtain ⟨-, rfl⟩ := Prod.mk.inj (Option.some.inj hliteral)
  have hoctet : UInt8.ofNat longHost.length = 127 := by decide +kernel
  have hfirst : longHost ++ typeText = 97 :: (longHost ++ typeText).tail := by decide +kernel
  have hlength : (longHost ++ typeText).tail.length < 127 + 97 := by decide +kernel
  have hnone : literal huffman (127 :: 97 :: (longHost ++ typeText).tail) = none := by
    have hinteger : integer 7 (127 :: 97 :: (longHost ++ typeText).tail) =
        some (127 + 97, (longHost ++ typeText).tail) := rfl
    rw [literal, hinteger, Option.bind_some]
    exact if_pos hlength
  rw [authorityText, representation_authority, hoctet, hfirst, hnone] at hauthority
  cases hauthority

end ArtemisSwitch.Http2

import ArtemisSwitch.DirectPath
import ArtemisSwitch.PeerResolution
import ArtemisSwitch.WireGuardConfig
import ArtemisSwitch.Library.SplitLoops
import ArtemisSwitch.Library.Trimming

/-!
# IPv4 literals

The loops of three modules that read an address, each as it is written.  They read the same octets
out of the same texts.
-/

namespace ArtemisSwitch.IPv4
open HostAddress SplitLoops DecimalText
open Netmap (parseOctet fromCharsUnsigned dot slash)
open Disco (IPv4Endpoint)

/-! ## The peer directory -/

def isLiteralIPv4 (address : Bytes) : Bool :=
  loop address dot (fun components piece =>
    if (parseOctet piece).isNone then none else some (components + 1)) 0 0 = some 4

/-- The number of components and the value. -/
def valueStep (state : ℕ × UInt32) (piece : Bytes) : Option (ℕ × UInt32) :=
  match parseOctet piece with
  | none => none
  | some octet => some (state.1 + 1, state.2 <<< 8 ||| UInt32.ofNat octet)

def parseIPv4Value (ip : Bytes) : Option UInt32 :=
  match loop ip dot valueStep 0 (0, 0) with
  | some (components, val) => if components ≠ 4 then none else some val
  | none => none

/-! ## Endpoints of disco -/

def endpointStep (state : ℕ × UInt32) (piece : Bytes) : Option (ℕ × UInt32) :=
  match fromCharsUnsigned piece with
  | some (octet, []) =>
    if piece = [] ∨ 3 < piece.length ∨ 255 < octet then none
    else some (state.1 + 1, state.2 <<< 8 ||| UInt32.ofNat octet)
  | _ => none

def toString (endpoint : IPv4Endpoint) : Bytes :=
  decimal ((endpoint.address >>> 24) &&& 0xff).toNat ++ dot ::
    (decimal ((endpoint.address >>> 16) &&& 0xff).toNat ++ dot ::
      (decimal ((endpoint.address >>> 8) &&& 0xff).toNat ++ dot ::
        (decimal (endpoint.address &&& 0xff).toNat ++ colon :: decimal endpoint.port.toNat)))

/-- `IPv4Endpoint::parse`. -/
def parse (text : Bytes) : Option IPv4Endpoint :=
  match rfind text colon with
  | none => none
  | some place =>
    let host := text.take place
    match fromCharsUnsigned (text.drop (place + 1)) with
    | some (port, []) =>
      if port = 0 ∨ 65535 < port then none
      else
        match loop host dot endpointStep 0 (0, 0) with
        | some (parts, value) =>
          if parts ≠ 4 then none
          else
            let ep : IPv4Endpoint := { address := value, port := UInt16.ofNat port }
            if ep.valid then some ep else none
        | none => none
    | _ => none

/-! ## WireGuard configurations -/

/-- One octet of one to three digits. -/
def validIpv4 (value : Bytes) : Bool :=
  loop value dot (fun octets part =>
    if part = [] ∨ 3 < part.length then none
    else if part.all isdigit = false then none
    else
      match WireGuard.parseInt part with
      | none => none
      | some number => if 255 < number then none else some (octets + 1)) 0 0 = some 4

/-- The second loop of `parse_ipv4`, over so many octets. -/
def octetsFrom (value : Bytes) : ℕ → ℕ → UInt32 → Option UInt32
  | 0, _, result => some result
  | count + 1, pos, result =>
    let dotPlace := find value dot pos
    match WireGuard.parseInt ((value.drop pos).take (dotPlace.getD value.length - pos)) with
    | none => none
    | some number =>
      octetsFrom value count ((dotPlace.map (· + 1)).getD value.length)
        (result <<< 8 ||| UInt32.ofNat number.toNat)

def parseIpv4 (value : Bytes) : Option UInt32 :=
  if validIpv4 value = false then none else octetsFrom value 4 0 0

/-! ## One octet -/

section Octets
variable {part : Bytes}

/-- `std::stol` on digits. -/
lemma parseInt_of_digits (hne : part ≠ []) (h : part.all isdigit = true) :
    WireGuard.parseInt part =
      if 0x7fffffff < digitsValue part then none else some (digitsValue part : ℤ) := by
  rw [WireGuard.parseInt, dropWhile_of_digits h, splitSign_of_digits h]
  dsimp only
  rw [if_neg (by rw [h]; simpa using hne)]
  simp only [signed, Bool.false_eq_true, if_false]
  split_ifs with hcode hmeant hmeant
  · rfl
  · omega
  · omega
  · rfl

/-- `std::from_chars` on digits. -/
lemma fromCharsUnsigned_of_digits (hne : part ≠ []) (h : part.all isdigit = true) :
    fromCharsUnsigned part =
      if 4294967295 < digitsValue part then none else some (digitsValue part, []) := by
  have htake : part.takeWhile isdigit = part := List.takeWhile_eq_self_iff.mpr fun c hc =>
    List.all_eq_true.mp h c hc
  have hdrop : part.dropWhile isdigit = [] := List.dropWhile_eq_nil_iff.mpr fun c hc =>
    List.all_eq_true.mp h c hc
  unfold fromCharsUnsigned Netmap.fromChars
  dsimp only
  rw [htake, hdrop]
  show (if part = [] ∨ 4294967295 < digitsValue part then none else some (digitsValue part, [])) = _
  simp only [hne, false_or]

/-- Another character stops `std::from_chars`. -/
lemma rest_ne_nil {value : ℕ} {rest : Bytes} (h : part.all isdigit = false)
    (hread : fromCharsUnsigned part = some (value, rest)) : rest ≠ [] := by
  unfold fromCharsUnsigned Netmap.fromChars at hread
  dsimp only at hread
  split_ifs at hread
  obtain ⟨-, rfl⟩ := Prod.mk.inj (Option.some.inj hread)
  intro hnil
  rw [List.dropWhile_eq_nil_iff] at hnil
  rw [List.all_eq_true.mpr hnil] at h
  exact Bool.noConfusion h

/-- One to three digits, and no more than an octet holds. -/
def octetValue (part : Bytes) : Option ℕ :=
  if part = [] ∨ 3 < part.length ∨ part.all isdigit = false ∨ 255 < digitsValue part then none
  else some (digitsValue part)

lemma octetValue_of_shape (h : part = [] ∨ 3 < part.length ∨ part.all isdigit = false) :
    octetValue part = none := if_pos (by tauto)

lemma octetValue_of_digits (hsize : ¬(part = [] ∨ 3 < part.length))
    (hdigits : part.all isdigit = true) :
    octetValue part = if 255 < digitsValue part then none else some (digitsValue part) := by
  rw [not_or] at hsize
  have hiff : (part = [] ∨ 3 < part.length ∨ part.all isdigit = false ∨ 255 < digitsValue part) ↔
      255 < digitsValue part := by
    simp [hsize, hdigits]
  unfold octetValue
  simp only [hiff]

lemma parseOctet_eq (part : Bytes) : parseOctet part = octetValue part := by
  unfold parseOctet
  by_cases hsize : part = [] ∨ 3 < part.length
  · rw [if_pos hsize, octetValue_of_shape (by tauto)]
  · rw [if_neg hsize]
    cases hdigits : part.all isdigit with
    | false =>
      rw [octetValue_of_shape (by tauto)]
      split
      · rename_i hread
        exact absurd rfl (rest_ne_nil hdigits hread)
      · rfl
    | true =>
      rw [octetValue_of_digits hsize hdigits,
        fromCharsUnsigned_of_digits (not_or.mp hsize).1 hdigits]
      by_cases hbig : 4294967295 < digitsValue part
      · rw [if_pos hbig, if_pos (by omega)]
      · rw [if_neg hbig]
        dsimp only
        rw [← ite_not]
        simp only [not_le]

/-- The octets of a configuration are those of the peer directory. -/
lemma octet_eq (part : Bytes) :
    WireGuard.octet part = (octetValue part).map fun value : ℕ => (value : ℤ) := by
  unfold WireGuard.octet
  by_cases hshape : part = [] ∨ 3 < part.length ∨ part.all isdigit = false
  · rw [if_pos hshape, octetValue_of_shape hshape]
    rfl
  · rw [if_neg hshape]
    rw [← or_assoc, not_or, Bool.not_eq_false] at hshape
    obtain ⟨hsize, hdigits⟩ := hshape
    rw [octetValue_of_digits hsize hdigits, parseInt_of_digits (not_or.mp hsize).1 hdigits]
    split_ifs with hbig hlarge hlarge
    · rfl
    · omega
    · exact if_neg (by simpa using hlarge)
    · exact if_pos (by simpa using hlarge)

/-- What `std::from_chars` makes of an octet. -/
lemma fromCharsUnsigned_of_octetValue {value : ℕ} (h : octetValue part = some value) :
    fromCharsUnsigned part = some (value, []) ∧ part ≠ [] ∧ part.length ≤ 3 ∧ value ≤ 255 ∧
      part.all isdigit = true ∧ WireGuard.parseInt part = some (value : ℤ) := by
  unfold octetValue at h
  split_ifs at h with hshape
  simp only [not_or, Bool.not_eq_false, Nat.not_lt] at hshape
  obtain ⟨hne, hlength, hdigits, hle⟩ := hshape
  obtain rfl := Option.some.inj h
  refine ⟨?_, hne, hlength, hle, hdigits, ?_⟩
  · rw [fromCharsUnsigned_of_digits hne hdigits, if_neg (by omega)]
  · rw [parseInt_of_digits hne hdigits, if_neg (by omega)]

end Octets

/-! ## The loops -/

/-- An octet is put behind the others. -/
def shiftIn (word : UInt32) (octet : ℕ) : UInt32 := word <<< 8 ||| UInt32.ofNat octet

def addOctet (state : ℕ × UInt32) (octet : ℕ) : ℕ × UInt32 := (state.1 + 1, shiftIn state.2 octet)

/-- The octets of a text, whatever their number. -/
def octets (text : Bytes) : Option (List ℕ) := (text.splitOn dot).mapM octetValue

/-- Four octets as one word. -/
def joined (values : List ℕ) : UInt32 := values.foldl shiftIn 0

/-- What a text stands for. -/
def literal (text : Bytes) : Option UInt32 :=
  (octets text).bind fun values => if values.length = 4 then some (joined values) else none

lemma foldl_addOctet (values : List ℕ) (state : ℕ × UInt32) :
    values.foldl addOctet state = (state.1 + values.length, values.foldl shiftIn state.2) := by
  induction values generalizing state with
  | nil => rfl
  | cons octet values ih =>
    rw [List.foldl_cons, ih, List.length_cons, List.foldl_cons, addOctet, Nat.add_assoc,
      Nat.add_comm 1]

/-- A loop whose step reads one octet. -/
lemma loop_eq_octets {σ : Type} (add : σ → ℕ → σ) {step : σ → Bytes → Option σ}
    (hstep : ∀ state piece, step state piece = (octetValue piece).map (add state)) (text : Bytes)
    (state : σ) :
    loop text dot step 0 state = (octets text).map fun values => values.foldl add state := by
  have hsame : step = fun state piece => (octetValue piece).map (add state) := by
    funext state piece
    exact hstep state piece
  rw [loop_eq_foldlM (Nat.zero_le _), List.drop_zero, hsame]
  exact foldlM_map octetValue add _ state

lemma foldl_count (values : List ℕ) (count : ℕ) :
    values.foldl (fun count _ => count + 1) count = count + values.length := by
  induction values generalizing count with
  | nil => rfl
  | cons octet values ih =>
    rw [List.foldl_cons, ih, List.length_cons]
    omega

/-- A loop that counts the octets. -/
lemma counts_eq {step : ℕ → Bytes → Option ℕ}
    (hstep : ∀ count piece, step count piece = (octetValue piece).map fun _ => count + 1)
    (text : Bytes) : decide (loop text dot step 0 0 = some 4) = (literal text).isSome := by
  rw [loop_eq_octets (fun count _ => count + 1) hstep, literal]
  cases octets text with
  | none => rfl
  | some values =>
    rw [Option.map_some, Option.bind_some, foldl_count, Nat.zero_add]
    split_ifs with hfour
    · simp [hfour]
    · simp [hfour]

theorem isLiteralIPv4_eq (text : Bytes) : isLiteralIPv4 text = (literal text).isSome := by
  refine counts_eq (fun count piece => ?_) text
  rw [parseOctet_eq]
  cases octetValue piece <;> rfl

/-- The loop of `valid_ipv4` counts with `std::stol`. -/
lemma validStep_eq (octets : ℕ) (part : Bytes) :
    (if part = [] ∨ 3 < part.length then none
      else if part.all isdigit = false then none
      else
        match WireGuard.parseInt part with
        | none => none
        | some number => if 255 < number then none else some (octets + 1)) =
      (octetValue part).map fun _ => octets + 1 := by
  by_cases hsize : part = [] ∨ 3 < part.length
  · rw [if_pos hsize, octetValue_of_shape (by tauto)]
    rfl
  · rw [if_neg hsize]
    cases hdigits : part.all isdigit with
    | false =>
      rw [if_pos rfl, octetValue_of_shape (by tauto)]
      rfl
    | true =>
      rw [if_neg Bool.noConfusion, octetValue_of_digits hsize hdigits,
        parseInt_of_digits (not_or.mp hsize).1 hdigits]
      split_ifs with hbig hlarge hlarge
      · rfl
      · omega
      · exact if_pos (by omega)
      · exact if_neg (by omega)

theorem validIpv4_eq (text : Bytes) : validIpv4 text = (literal text).isSome :=
  counts_eq validStep_eq text

lemma valueStep_eq (state : ℕ × UInt32) (piece : Bytes) :
    valueStep state piece = (octetValue piece).map (addOctet state) := by
  rw [valueStep, parseOctet_eq]
  cases octetValue piece <;> rfl

lemma endpointStep_eq (state : ℕ × UInt32) (piece : Bytes) :
    endpointStep state piece = (octetValue piece).map (addOctet state) := by
  unfold endpointStep
  by_cases hdigits : piece.all isdigit = false
  · rw [octetValue_of_shape (.inr (.inr hdigits))]
    split
    · rename_i hread
      exact absurd rfl (rest_ne_nil hdigits hread)
    · rfl
  · rw [Bool.not_eq_false] at hdigits
    by_cases hsize : piece = [] ∨ 3 < piece.length
    · rw [octetValue_of_shape (by tauto)]
      split
      · exact if_pos (by tauto)
      · rfl
    · rw [octetValue_of_digits hsize hdigits,
        fromCharsUnsigned_of_digits (not_or.mp hsize).1 hdigits]
      have hiff : (piece = [] ∨ 3 < piece.length ∨ 255 < digitsValue piece) ↔
          255 < digitsValue piece := by
        simp [not_or.mp hsize]
      by_cases hbig : 4294967295 < digitsValue piece
      · rw [if_pos hbig, if_pos (by omega)]
        rfl
      · rw [if_neg hbig]
        simp only [hiff]
        split_ifs <;> rfl

theorem parseIPv4Value_eq (text : Bytes) : parseIPv4Value text = literal text := by
  rw [parseIPv4Value, loop_eq_octets addOctet valueStep_eq, literal]
  cases octets text with
  | none => rfl
  | some values =>
    rw [Option.map_some, Option.bind_some, foldl_addOctet]
    dsimp only
    rw [Nat.zero_add, ite_not]
    rfl

/-- The part of an endpoint before the last colon, and the port. -/
theorem parse_eq {host portText : Bytes} {port : ℕ} (hcolon : colon ∉ portText)
    (hport : fromCharsUnsigned portText = some (port, [])) (hzero : port ≠ 0)
    (hmax : port ≤ 65535) :
    parse (host ++ colon :: portText) = (literal host).bind fun value =>
      if value = 0 then none else some { address := value, port := UInt16.ofNat port } := by
  have hvalid : ∀ value : UInt32,
      ({ address := value, port := UInt16.ofNat port } : IPv4Endpoint).valid = true ↔
        ¬value = 0 := by
    intro value
    have hne : UInt16.ofNat port ≠ 0 := by
      intro h
      apply hzero
      have hnat := congrArg UInt16.toNat h
      rwa [UInt16.toNat_ofNat_of_lt' (Nat.lt_succ_of_le hmax)] at hnat
    simp [IPv4Endpoint.valid, hne]
  have hbehind : (host ++ colon :: portText).drop (host.length + 1) = portText := by
    rw [← List.drop_drop, List.drop_left]
    rfl
  rw [parse, rfind_append_cons hcolon]
  dsimp only
  rw [hbehind, hport]
  dsimp only
  rw [if_neg (by omega), List.take_left, loop_eq_octets addOctet endpointStep_eq, literal]
  cases octets host with
  | none => rfl
  | some values =>
    rw [Option.map_some, Option.bind_some, foldl_addOctet]
    dsimp only
    rw [Nat.zero_add, ite_not]
    by_cases hfour : values.length = 4
    · rw [if_pos hfour, if_pos hfour, Option.bind_some]
      simp only [hvalid, ite_not]
      rfl
    · rw [if_neg hfour, if_neg hfour]
      rfl

/-- The second loop of `parse_ipv4`, which stops at the last octet. -/
lemma octetsFrom_eq {value : Bytes} {pos : ℕ} {values : List ℕ} (hpos : pos ≤ value.length)
    (h : ((value.drop pos).splitOn dot).mapM octetValue = some values) (result : UInt32) :
    octetsFrom value values.length pos result = some (values.foldl shiftIn result) := by
  induction values generalizing pos result with
  | nil =>
    obtain ⟨piece, pieces, hpieces⟩ :=
      List.exists_cons_of_ne_nil (List.splitOn_ne_nil dot (value.drop pos))
    rw [hpieces, List.mapM_cons] at h
    obtain ⟨octet, -, h⟩ := Option.bind_eq_some_iff.mp h
    obtain ⟨rest, -, h⟩ := Option.bind_eq_some_iff.mp h
    cases h
  | cons octet values ih =>
    rw [List.length_cons, octetsFrom, List.foldl_cons]
    by_cases hmem : dot ∈ value.drop pos
    · obtain ⟨before, behind, hdrop, hbefore⟩ := List.eq_append_cons_of_mem hmem
      have hlength := length_of_drop hdrop
      rw [hdrop, List.splitOn_append_cons_self_of_not_mem hbefore, List.mapM_cons] at h
      obtain ⟨first, hfirst, h⟩ := Option.bind_eq_some_iff.mp h
      obtain ⟨rest, hrest, h⟩ := Option.bind_eq_some_iff.mp h
      obtain ⟨rfl, rfl⟩ := List.cons.inj (Option.some.inj h)
      have hnumber := (fromCharsUnsigned_of_octetValue hfirst).2.2.2.2.2
      rw [← rest_of_drop hdrop] at hrest
      have htail := ih (by omega) hrest (shiftIn result first)
      rw [find_eq_some hdrop hbefore, Option.getD_some, piece_of_drop hdrop, hnumber]
      exact htail
    · rw [List.splitOn_eq_singleton hmem, List.mapM_cons] at h
      obtain ⟨first, hfirst, h⟩ := Option.bind_eq_some_iff.mp h
      obtain ⟨rfl, rfl⟩ := List.cons.inj (Option.some.inj h)
      have hnumber := (fromCharsUnsigned_of_octetValue hfirst).2.2.2.2.2
      rw [find_eq_none hmem, Option.getD_none, last_of_drop, hnumber]
      rfl

theorem parseIpv4_eq (text : Bytes) : parseIpv4 text = literal text := by
  rw [parseIpv4, validIpv4_eq]
  cases hliteral : literal text with
  | none => rfl
  | some word =>
    rw [if_neg (by simp)]
    obtain ⟨values, hvalues, hfour⟩ := Option.bind_eq_some_iff.mp hliteral
    split_ifs at hfour with hlength
    have hread := octetsFrom_eq (Nat.zero_le _) hvalues 0
    rw [hlength] at hread
    exact hread.trans hfour

/-! ## The values as numbers -/

lemma toNat_shiftIn {word : UInt32} {octet : ℕ} (hword : word.toNat < 2 ^ 24)
    (hoctet : octet ≤ 255) : (shiftIn word octet).toNat = word.toNat * 256 + octet := by
  have hshift : (8 : UInt32).toNat % 32 = 8 := rfl
  have hlow : (UInt32.ofNat octet).toNat = octet :=
    UInt32.toNat_ofNat_of_lt' (show octet < 2 ^ 32 by omega)
  rw [shiftIn, UInt32.toNat_or, UInt32.toNat_shiftLeft, hshift, hlow,
    Nat.mod_eq_of_lt (by rw [Nat.shiftLeft_eq]; omega),
    ← Nat.shiftLeft_add_eq_or_of_lt (show octet < 2 ^ 8 by omega), Nat.shiftLeft_eq]

lemma toNat_joined {a b c d : ℕ} (ha : a ≤ 255) (hb : b ≤ 255) (hc : c ≤ 255) (hd : d ≤ 255) :
    (joined [a, b, c, d]).toNat = ((a * 256 + b) * 256 + c) * 256 + d := by
  have h₁ : (shiftIn 0 a).toNat = a := by
    have h := @toNat_shiftIn 0 a (by decide) ha
    rwa [UInt32.toNat_zero, Nat.zero_mul, Nat.zero_add] at h
  have h₂ := @toNat_shiftIn (shiftIn 0 a) b (by omega) hb
  have h₃ := @toNat_shiftIn (shiftIn (shiftIn 0 a) b) c (by omega) hc
  have h₄ := @toNat_shiftIn (shiftIn (shiftIn (shiftIn 0 a) b) c) d (by omega) hd
  show (shiftIn (shiftIn (shiftIn (shiftIn 0 a) b) c) d).toNat = _
  rw [h₄, h₃, h₂, h₁]

lemma octets_le {text : Bytes} {values : List ℕ} (h : octets text = some values) :
    ∀ octet ∈ values, octet ≤ 255 := by
  have hsame : (fun part => parseOctet part) = octetValue := funext parseOctet_eq
  unfold octets at h
  rw [← hsame] at h
  exact Netmap.octets_le h

/-- The models that read all pieces at once read the same. -/
lemma of_four {γ : Type} {read : Bytes → Option γ} {make : ℕ → γ}
    (hread : ∀ part, read part = (octetValue part).map make) (text : Bytes) :
    (text.splitOn dot).mapM read = (octets text).map (List.map make) := by
  have hsame : read = fun part => (octetValue part).map make := funext hread
  rw [hsame, octets]
  induction text.splitOn dot with
  | nil => rfl
  | cons piece pieces ih =>
    rw [List.mapM_cons, ih, List.mapM_cons]
    cases octetValue piece with
    | none => rfl
    | some octet => cases pieces.mapM octetValue <;> rfl

lemma literal_cases (text : Bytes) :
    (∃ a b c d, octets text = some [a, b, c, d] ∧ literal text = some (joined [a, b, c, d]) ∧
      (joined [a, b, c, d]).toNat = ((a * 256 + b) * 256 + c) * 256 + d) ∨
    literal text = none ∧ ∀ a b c d, octets text ≠ some [a, b, c, d] := by
  unfold literal
  cases hoctets : octets text with
  | none => exact .inr ⟨rfl, fun a b c d h => by cases h⟩
  | some values =>
    have hle := octets_le hoctets
    by_cases hfour : values.length = 4
    · obtain ⟨a, b, c, d, rfl⟩ := List.length_eq_four.mp hfour
      simp only [List.forall_mem_cons] at hle
      obtain ⟨ha, hb, hc, hd, -⟩ := hle
      exact .inl ⟨a, b, c, d, rfl, rfl, toNat_joined ha hb hc hd⟩
    · refine .inr ⟨if_neg hfour, fun a b c d h => hfour ?_⟩
      rw [Option.some.inj h]
      rfl

theorem directory_value_eq (text : Bytes) :
    Netmap.parseIPv4Value text = (literal text).map UInt32.toNat := by
  have hoctets : (text.splitOn dot).mapM parseOctet = octets text := by
    rw [show parseOctet = octetValue from funext parseOctet_eq]
    rfl
  unfold Netmap.parseIPv4Value
  rw [hoctets]
  obtain ⟨a, b, c, d, hfour, hliteral, hvalue⟩ | ⟨hnone, hother⟩ := literal_cases text
  · rw [hfour, hliteral, Option.map_some, hvalue]
  · rw [hnone]
    split
    · rename_i h
      exact absurd h (hother _ _ _ _)
    · rfl

theorem configuration_value_eq (text : Bytes) :
    WireGuard.parseIpv4 text = (literal text).map fun word : UInt32 => (word.toNat : ℤ) := by
  have hoctets : (text.splitOn WireGuard.dot).mapM WireGuard.octet =
      (octets text).map (List.map fun value : ℕ => (value : ℤ)) := of_four octet_eq text
  unfold WireGuard.parseIpv4
  rw [hoctets]
  obtain ⟨a, b, c, d, hfour, hliteral, hvalue⟩ | ⟨hnone, hother⟩ := literal_cases text
  · rw [hfour, hliteral, Option.map_some, Option.map_some, hvalue]
    simp
  · rw [hnone]
    split
    · rename_i h
      obtain ⟨values, hvalues, hmap⟩ := Option.map_eq_some_iff.mp h
      obtain ⟨a, b, c, d, rfl⟩ : ∃ a b c d, values = [a, b, c, d] := by
        apply List.length_eq_four.mp
        rw [← @List.length_map _ _ values, hmap]
        rfl
      exact absurd hvalues (hother _ _ _ _)
    · rfl

/-! ## Texts of addresses -/

lemma octetValue_decimal {n : ℕ} (h : n ≤ 255) : octetValue (decimal n) = some n := by
  have hall : ∀ m : Fin 256, octetValue (decimal m) = some m.val := by decide +kernel
  exact hall ⟨n, by omega⟩

lemma not_mem_decimal {c : UInt8} (h : isdigit c = false) (n : ℕ) : c ∉ decimal n := by
  intro hmem
  rw [isdigit_of_mem_decimal hmem] at h
  cases h

/-- Four numbers between dots. -/
def dotted (a b c d : ℕ) : Bytes :=
  decimal a ++ dot :: (decimal b ++ dot :: (decimal c ++ dot :: decimal d))

lemma octets_dotted {a b c d : ℕ} (ha : a ≤ 255) (hb : b ≤ 255) (hc : c ≤ 255) (hd : d ≤ 255) :
    octets (dotted a b c d) = some [a, b, c, d] := by
  have hdot : ∀ n, dot ∉ decimal n := not_mem_decimal (by decide)
  have hsplit : (dotted a b c d).splitOn dot = [decimal a, decimal b, decimal c, decimal d] := by
    rw [dotted, List.splitOn_append_cons_self_of_not_mem (hdot a),
      List.splitOn_append_cons_self_of_not_mem (hdot b),
      List.splitOn_append_cons_self_of_not_mem (hdot c), List.splitOn_eq_singleton (hdot d)]
  rw [octets, hsplit]
  simp only [List.mapM_cons, List.mapM_nil, octetValue_decimal ha, octetValue_decimal hb,
    octetValue_decimal hc, octetValue_decimal hd]
  rfl

lemma literal_dotted {a b c d : ℕ} (ha : a ≤ 255) (hb : b ≤ 255) (hc : c ≤ 255) (hd : d ≤ 255) :
    literal (dotted a b c d) = some (joined [a, b, c, d]) := by
  rw [literal, octets_dotted ha hb hc hd]
  rfl

lemma not_mem_dotted {e : UInt8} (hdigit : isdigit e = false) (hdot : e ≠ dot) (a b c d : ℕ) :
    e ∉ dotted a b c d := by
  have hdecimal := not_mem_decimal hdigit
  simp only [dotted, List.mem_append, List.mem_cons, hdecimal, hdot, or_self, not_false_eq_true]

/-- The octets of a word. -/
lemma joined_octets (word : UInt32) :
    (word >>> 24 &&& 0xff).toNat ≤ 255 ∧ (word >>> 16 &&& 0xff).toNat ≤ 255 ∧
      (word >>> 8 &&& 0xff).toNat ≤ 255 ∧ (word &&& 0xff).toNat ≤ 255 ∧
      joined [(word >>> 24 &&& 0xff).toNat, (word >>> 16 &&& 0xff).toNat,
        (word >>> 8 &&& 0xff).toNat, (word &&& 0xff).toNat] = word := by
  have hoctet : ∀ v : UInt32, (v &&& 0xff).toNat = v.toNat % 256 := by
    intro v
    rw [UInt32.toNat_and]
    exact Nat.and_two_pow_sub_one_eq_mod v.toNat 8
  have h24 : (word >>> 24).toNat = word.toNat / 2 ^ 24 := by
    rw [UInt32.toNat_shiftRight, Nat.shiftRight_eq_div_pow]
    rfl
  have h16 : (word >>> 16).toNat = word.toNat / 2 ^ 16 := by
    rw [UInt32.toNat_shiftRight, Nat.shiftRight_eq_div_pow]
    rfl
  have h8 : (word >>> 8).toNat = word.toNat / 2 ^ 8 := by
    rw [UInt32.toNat_shiftRight, Nat.shiftRight_eq_div_pow]
    rfl
  have hword := word.toNat_lt
  rw [hoctet, hoctet, hoctet, hoctet, h24, h16, h8]
  refine ⟨by omega, by omega, by omega, by omega, UInt32.toNat_inj.mp ?_⟩
  rw [toNat_joined (by omega) (by omega) (by omega) (by omega)]
  omega

theorem parse_toString {endpoint : IPv4Endpoint} (h : endpoint.valid) :
    parse (toString endpoint) = some endpoint := by
  obtain ⟨address, port⟩ := endpoint
  obtain ⟨haddress, hport⟩ : address ≠ 0 ∧ port ≠ 0 := by simpa [IPv4Endpoint.valid] using h
  obtain ⟨ha, hb, hc, hd, hjoined⟩ := joined_octets address
  have htext : toString { address, port } =
      dotted (address >>> 24 &&& 0xff).toNat (address >>> 16 &&& 0xff).toNat
        (address >>> 8 &&& 0xff).toNat (address &&& 0xff).toNat ++
        colon :: decimal port.toNat := by
    simp only [toString, dotted, List.append_assoc, List.cons_append]
  have hzero : port.toNat ≠ 0 := fun hzero => hport (UInt16.toNat_inj.mp hzero)
  have hmax : port.toNat ≤ 65535 := Nat.le_of_lt_succ port.toNat_lt
  have hread : fromCharsUnsigned (decimal port.toNat) = some (port.toNat, []) := by
    rw [fromCharsUnsigned_of_digits (decimal_ne_nil _) (all_isdigit_decimal _),
      digitsValue_decimal, if_neg (by omega)]
  rw [htext, parse_eq (not_mem_decimal (by decide) _) hread hzero hmax,
    literal_dotted ha hb hc hd, hjoined, Option.bind_some, if_neg haddress, UInt16.ofNat_toNat]

/-! ## Networks -/

/-- A network in canonical decimal. -/
def cidrText (a b c d bits : ℕ) : Bytes := dotted a b c d ++ slash :: decimal bits

section Networks
variable {a b c d bits : ℕ}

lemma takeWhile_cidrText : (cidrText a b c d bits).takeWhile (· ≠ slash) = dotted a b c d := by
  have hslash := @not_mem_dotted slash (by decide) (by decide) a b c d
  rw [cidrText, List.takeWhile_append_of_pos]
  · simp
  · intro e he
    simpa using fun heq : e = slash => hslash (heq ▸ he)

lemma dropWhile_cidrText :
    (cidrText a b c d bits).dropWhile (· ≠ slash) = slash :: decimal bits := by
  have hslash := @not_mem_dotted slash (by decide) (by decide) a b c d
  rw [cidrText, List.dropWhile_append_of_pos]
  · simp
  · intro e he
    simpa using fun heq : e = slash => hslash (heq ▸ he)

lemma parseIPv4Cidr_cidrText (ha : a ≤ 255) (hb : b ≤ 255) (hc : c ≤ 255) (hd : d ≤ 255)
    (hbits : bits ≤ 32) : Netmap.parseIPv4Cidr (cidrText a b c d bits) =
      some ((joined [a, b, c, d]).toNat, (bits : ℤ)) := by
  have hshort : (decimal bits).length ≤ 2 := by
    have hall : ∀ n : Fin 33, (decimal n).length ≤ 2 := by decide +kernel
    exact hall ⟨bits, by omega⟩
  have hread : Netmap.fromCharsInt (decimal bits) = some ((bits : ℤ), []) := by
    have hall : ∀ n : Fin 33, Netmap.fromCharsInt (decimal n) = some ((n.val : ℤ), []) := by
      decide +kernel
    exact hall ⟨bits, by omega⟩
  unfold Netmap.parseIPv4Cidr
  dsimp only
  rw [dropWhile_cidrText, takeWhile_cidrText, directory_value_eq, literal_dotted ha hb hc hd]
  dsimp only
  rw [if_neg (by simp [decimal_ne_nil, hshort]), hread]
  dsimp only
  rw [if_neg (by omega)]
  rfl

lemma prefixOf_cidrText (hbits : bits ≤ 32) :
    WireGuard.prefixOf (cidrText a b c d bits) = some bits := by
  have hmem : slash ∈ cidrText a b c d bits := by simp [cidrText]
  have hread : WireGuard.parseInt (decimal bits) = some (bits : ℤ) := by
    rw [parseInt_of_digits (decimal_ne_nil bits) (all_isdigit_decimal bits), digitsValue_decimal,
      if_neg (by omega)]
  unfold WireGuard.prefixOf
  rw [show WireGuard.slash = slash from rfl, if_pos hmem, dropWhile_cidrText, List.drop_succ_cons,
    List.drop_zero, hread]
  dsimp only
  rw [if_neg (by omega)]
  rfl

/-- The characters of a network. -/
lemma mem_cidrText {e : UInt8} (h : e ∈ cidrText a b c d bits) :
    isdigit e = true ∨ e = dot ∨ e = slash := by
  by_contra hother
  simp only [not_or, Bool.not_eq_true] at hother
  obtain ⟨hdigit, hdot, hslash⟩ := hother
  have hdecimal := not_mem_decimal hdigit
  simp [cidrText, dotted, hdecimal, hdot, hslash] at h

end Networks

lemma trim_eq_self {text : Bytes} (h : ∀ e ∈ text, isspace e = false) :
    WireGuard.trim text = text := Trimming.strip_eq_self h

lemma octetValue_of_mapM {pieces : List Bytes} {values : List ℕ}
    (h : pieces.mapM octetValue = some values) :
    ∀ piece ∈ pieces, ∃ value, octetValue piece = some value := by
  induction pieces generalizing values with
  | nil => simp
  | cons first pieces ih =>
    rw [List.mapM_cons] at h
    obtain ⟨value, hfirst, h⟩ := Option.bind_eq_some_iff.mp h
    obtain ⟨rest, hrest, -⟩ := Option.bind_eq_some_iff.mp h
    exact List.forall_mem_cons.mpr ⟨⟨value, hfirst⟩, ih hrest⟩

/-- A text that stands for an address has no blanks. -/
lemma isspace_of_literal {text : Bytes} {word : UInt32} (h : literal text = some word) :
    ∀ e ∈ text, isspace e = false := by
  intro e he
  obtain ⟨values, hvalues, -⟩ := Option.bind_eq_some_iff.mp h
  rcases @mem_of_mem _ _ text dot e he with rfl | ⟨piece, hpiece, hmem⟩
  · decide
  · obtain ⟨value, hvalue⟩ := octetValue_of_mapM hvalues piece hpiece
    have hdigits := (fromCharsUnsigned_of_octetValue hvalue).2.2.2.2.1
    exact isdigit_not_isspace (List.all_eq_true.mp hdigits e hmem)

/-- Both modules find the address in the network, or neither does. -/
theorem matches_iff {address : Bytes} {candidate a b c d bits : ℕ}
    (h : Netmap.parseIPv4Value address = some candidate) (ha : a ≤ 255) (hb : b ≤ 255)
    (hc : c ≤ 255) (hd : d ≤ 255) (hbits : bits ≤ 32) :
    WireGuard.ipv4MatchesAllowedIps address (cidrText a b c d bits) = true ↔
      Netmap.cidrMatchLength candidate (cidrText a b c d bits) ≠ -1 := by
  have hcandidate := Netmap.parseIPv4Value_lt h
  rw [directory_value_eq] at h
  obtain ⟨word, hword, rfl⟩ := Option.map_eq_some_iff.mp h
  have hplain : ∀ e ∈ cidrText a b c d bits, isspace e = false ∧ e ≠ WireGuard.comma ∧
      e ≠ colon := by
    intro e he
    rcases mem_cidrText he with hdigit | rfl | rfl
    · refine ⟨isdigit_not_isspace hdigit, ?_, ?_⟩ <;>
      · rintro rfl
        cases hdigit
    · decide
    · decide
  have hne : cidrText a b c d bits ≠ [] := by simp [cidrText]
  have hcolon : ¬(cidrText a b c d bits = [] ∨ colon ∈ cidrText a b c d bits) := by
    rw [not_or]
    exact ⟨hne, fun hmem => (hplain _ hmem).2.2 rfl⟩
  have hsplit : (cidrText a b c d bits).splitOn WireGuard.comma = [cidrText a b c d bits] :=
    List.splitOn_eq_singleton fun hmem => (hplain _ hmem).2.1 rfl
  have hnetwork : WireGuard.parseIpv4 ((cidrText a b c d bits).takeWhile (· ≠ WireGuard.slash)) =
      some ((joined [a, b, c, d]).toNat : ℤ) := by
    rw [show WireGuard.slash = slash from rfl, takeWhile_cidrText, configuration_value_eq,
      literal_dotted ha hb hc hd]
    rfl
  have hmask := Netmap.and_prefixMask_iff hcandidate (joined [a, b, c, d]).toNat_lt hbits
  have hleft : WireGuard.ipv4MatchesAllowedIps address (cidrText a b c d bits) = true ↔
      Netmap.SameNetwork word.toNat (joined [a, b, c, d]).toNat bits := by
    unfold WireGuard.ipv4MatchesAllowedIps
    rw [trim_eq_self (isspace_of_literal hword), configuration_value_eq, hword, Option.map_some]
    dsimp only
    rw [hsplit, List.any_cons, List.any_nil, Bool.or_false,
      trim_eq_self fun e he => (hplain e he).1, WireGuard.matchesEntry, if_neg hcolon, hnetwork,
      prefixOf_cidrText hbits]
    simp only [hne, ne_eq, not_false_eq_true, decide_true, Bool.true_and, decide_eq_true_eq]
    unfold Netmap.SameNetwork
    norm_cast
  rw [hleft, Netmap.cidrMatchLength, parseIPv4Cidr_cidrText ha hb hc hd hbits, ← hmask]
  dsimp only
  split_ifs with hsame
  · exact ⟨fun _ => by omega, fun _ => hsame⟩
  · exact ⟨fun h => absurd h hsame, fun h => absurd rfl h⟩

/-- **The readers of IPv4 literals agree.** -/
theorem literals_agree :
    (∀ text, isLiteralIPv4 text = (parseIPv4Value text).isSome ∧
      validIpv4 text = (parseIPv4Value text).isSome ∧ parseIpv4 text = parseIPv4Value text ∧
      parse (text ++ ascii ":1") = ((parseIPv4Value text).bind fun value =>
        if value = 0 then none else some { address := value, port := 1 }) ∧
      Netmap.parseIPv4Value text = (parseIPv4Value text).map UInt32.toNat ∧
      WireGuard.parseIpv4 text = (parseIpv4 text).map fun value : UInt32 => (value.toNat : ℤ)) ∧
    (∀ endpoint : IPv4Endpoint, endpoint.valid → parse (toString endpoint) = some endpoint) ∧
    ∀ address value a b c d bits, parseIPv4Value address = some value →
      a ≤ 255 → b ≤ 255 → c ≤ 255 → d ≤ 255 → bits ≤ 32 →
        (WireGuard.ipv4MatchesAllowedIps address (cidrText a b c d bits) = true ↔
          Netmap.cidrMatchLength value.toNat (cidrText a b c d bits) ≠ -1) := by
  refine ⟨fun text => ?_, fun endpoint => parse_toString, ?_⟩
  · have hport : fromCharsUnsigned (ascii "1") = some (1, []) := by decide +kernel
    have hparse := @parse_eq text (ascii "1") 1 (by decide) hport (by decide) (by decide)
    refine ⟨?_, ?_, ?_, ?_, ?_, ?_⟩
    · rw [isLiteralIPv4_eq, parseIPv4Value_eq]
    · rw [validIpv4_eq, parseIPv4Value_eq]
    · rw [parseIpv4_eq, parseIPv4Value_eq]
    · rw [parseIPv4Value_eq]
      exact hparse
    · rw [directory_value_eq, parseIPv4Value_eq]
    · rw [configuration_value_eq, parseIpv4_eq]
  · intro address value a b c d bits h ha hb hc hd hbits
    have hvalue : Netmap.parseIPv4Value address = some value.toNat := by
      rw [directory_value_eq, ← parseIPv4Value_eq, h]
      rfl
    exact matches_iff hvalue ha hb hc hd hbits

/-- An address in the network `10.1.0.0/16`. -/
theorem literals_agree_subnet :
    WireGuard.ipv4MatchesAllowedIps (ascii "10.1.2.3") (cidrText 10 1 0 0 16) = true :=
  (literals_agree.2.2 (ascii "10.1.2.3") 0x0a010203 10 1 0 0 16 (by decide +kernel) (by decide)
    (by decide) (by decide) (by decide) (by decide)).mpr (by decide +kernel)

end ArtemisSwitch.IPv4

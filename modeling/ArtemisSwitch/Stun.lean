import ArtemisSwitch.DiscoMessages

/-!
# Responses of STUN servers

The walk over the attributes of a Binding response, by checked reads, and the response that a server
builds from a list of attributes.
-/

namespace ArtemisSwitch.Stun
open Transport CheckedReads ByteLayout Disco

def kStunHeaderLen : ℕ := 20

def kStunBindingSuccess : UInt16 := 0x0101

def kStunAttrMappedAddress : UInt16 := 0x0001

def kStunAttrXorMappedAddress : UInt16 := 0x0020

def kMagicCookie : UInt32 := 0x2112A442

/-! ## The parser -/

def looksLikeStun (packet : Bytes) : Except OutOfRange Bool :=
  if packet.length < kStunHeaderLen then .ok false
  else do
    let first ← readAt packet 0 1
    if first.getD 0 0 &&& 0xc0 ≠ 0 then return false
    else
      let cookie ← getU32 packet 4
      return cookie = kMagicCookie

/-- An address under the magic cookie, or the address under its mask. -/
def unmask (ep : IPv4Endpoint) : IPv4Endpoint where
  address := ep.address ^^^ kMagicCookie
  port := ep.port ^^^ (kMagicCookie >>> 16).toUInt16

/-- The address that an attribute gives, in one of its two forms. -/
def mappedAddress (packet : Bytes) (type : UInt16) (attrLen value : ℕ) :
    Except OutOfRange (Option IPv4Endpoint) := do
  if ¬(type = kStunAttrXorMappedAddress ∨ type = kStunAttrMappedAddress) ∨ attrLen < 8 then
    return none
  else
    let family ← readAt packet (value + 1) 1
    if family ≠ [0x01] then return none
    else
      let port ← getU16 packet (value + 2)
      let address ← getU32 packet (value + 4)
      let ep := if type = kStunAttrXorMappedAddress then unmask { address, port }
        else { address, port }
      return if ep.valid then some ep else none

/-- The loop over the attributes, which end at `limit`. -/
def attributesFrom (packet : Bytes) (limit off : ℕ) (mapped : Option IPv4Endpoint) :
    Except OutOfRange (Option IPv4Endpoint) :=
  if off + 4 ≤ limit then do
    let type ← getU16 packet off
    let attrLen ← getU16 packet (off + 2)
    let value := off + 4
    if limit < value + attrLen.toNat then return mapped
    else
      let ep ← mappedAddress packet type attrLen.toNat value
      -- The XOR form wins over the legacy one.
      if type = kStunAttrXorMappedAddress ∧ ep.isSome then return ep
      else attributesFrom packet limit (value + (attrLen.toNat + 3) / 4 * 4) (mapped.or ep)
  else .ok mapped
termination_by limit - off

def parseBindingResponse (packet : Bytes) (txid : TxId) :
    Except OutOfRange (Option IPv4Endpoint) := do
  if ¬(← looksLikeStun packet) then return none
  else if (← getU16 packet 0) ≠ kStunBindingSuccess then return none
  else if (← readAt packet 8 12) ≠ txid.toList then return none
  else
    let length ← getU16 packet 2
    if packet.length < kStunHeaderLen + length.toNat then return none
    else attributesFrom packet (kStunHeaderLen + length.toNat) kStunHeaderLen none

/-! ## Responses of a server -/

/-- An attribute, whose length is a word. -/
structure Attribute where
  type : UInt16
  value : Bytes
  length_lt : value.length < 65536

namespace Attribute

/-- The value is filled up to words of four octets. -/
def encode (attr : Attribute) : Bytes :=
  putU16 attr.type ++ (putU16 (UInt16.ofNat attr.value.length) ++
    (attr.value ++
      List.replicate ((attr.value.length + 3) / 4 * 4 - attr.value.length) 0))

/-- The endpoint in the value: a reserved octet, the family, the port and the address. -/
def endpoint (attr : Attribute) : Option IPv4Endpoint :=
  match attr.value with
  | _ :: family :: p₀ :: p₁ :: a₀ :: a₁ :: a₂ :: a₃ :: _ =>
    if family = 0x01 then
      some
        { address :=
            a₀.toUInt32 <<< 24 ||| a₁.toUInt32 <<< 16 ||| a₂.toUInt32 <<< 8 ||| a₃.toUInt32
          port := p₀.toUInt16 <<< 8 ||| p₁.toUInt16 }
    else none
  | _ => none

/-- The endpoint of a valid IPv4 XOR-MAPPED-ADDRESS: the address is sent XORed with the magic
cookie, and the port with its first half. -/
def xorMapped (attr : Attribute) : Option IPv4Endpoint :=
  if attr.type = kStunAttrXorMappedAddress then
    (attr.endpoint.map fun ep =>
      { address := ep.address ^^^ 0x2112A442, port := ep.port ^^^ 0x2112 }).filter
        IPv4Endpoint.valid
  else none

/-- The endpoint of a valid IPv4 MAPPED-ADDRESS. -/
def mapped (attr : Attribute) : Option IPv4Endpoint :=
  if attr.type = kStunAttrMappedAddress then attr.endpoint.filter IPv4Endpoint.valid
  else none

/-- The attribute by which a server tells an endpoint. -/
def ofEndpoint (ep : IPv4Endpoint) : Attribute where
  type := kStunAttrXorMappedAddress
  value := [0x00, 0x01] ++ putU16 (ep.port ^^^ 0x2112) ++ putU32 (ep.address ^^^ 0x2112A442)
  length_lt := by simp [putU16, putU32]

end Attribute

/-- A Binding success with the attributes. -/
def response (txid : TxId) (attributes : List Attribute) : Bytes :=
  putU16 kStunBindingSuccess ++
    (putU16 (UInt16.ofNat (attributes.flatMap Attribute.encode).length) ++
      (putU32 kMagicCookie ++ (txid.toList ++ attributes.flatMap Attribute.encode)))

/-! ## What is read -/

section Reads
variable {packet : Bytes} {type : UInt16} {attrLen value limit off : ℕ}
  {mapped : Option IPv4Endpoint} {txid : TxId}

lemma mappedAddress_inside (h : value + attrLen ≤ packet.length) :
    ∃ ep, mappedAddress packet type attrLen value = .ok ep := by
  unfold mappedAddress
  by_cases hother :
      ¬(type = kStunAttrXorMappedAddress ∨ type = kStunAttrMappedAddress) ∨ attrLen < 8
  · exact ⟨none, if_pos hother⟩
  · have hlong : 8 ≤ attrLen := Nat.not_lt.mp (not_or.mp hother).2
    obtain ⟨port, hport⟩ : ∃ v, getU16 packet (value + 2) = .ok v := getU16_of_le (by omega)
    obtain ⟨address, haddress⟩ : ∃ v, getU32 packet (value + 4) = .ok v := getU32_of_le (by omega)
    rw [if_neg hother, readAt_of_le (by omega), ok_bind, hport, haddress]
    split_ifs <;> exact ⟨_, rfl⟩

lemma attributesFrom_inside (hlimit : limit ≤ packet.length) :
    ∃ result, attributesFrom packet limit off mapped = .ok result := by
  fun_induction attributesFrom packet limit off mapped with
  | case1 off mapped hroom ih =>
    obtain ⟨type, htype⟩ : ∃ v, getU16 packet off = .ok v := getU16_of_le (by omega)
    obtain ⟨attrLen, hattrLen⟩ : ∃ v, getU16 packet (off + 2) = .ok v := getU16_of_le (by omega)
    rw [htype, ok_bind, hattrLen, ok_bind]
    dsimp only
    split_ifs with hlies
    · exact ⟨_, rfl⟩
    · obtain ⟨ep, hep⟩ : ∃ ep, mappedAddress packet type attrLen.toNat (off + 4) = .ok ep :=
        mappedAddress_inside (by omega)
      rw [hep, ok_bind]
      split_ifs
      · exact ⟨_, rfl⟩
      · exact ih attrLen ep
  | case2 => exact ⟨_, rfl⟩

lemma looksLikeStun_inside (packet : Bytes) : ∃ found, looksLikeStun packet = .ok found ∧
    (found = true → kStunHeaderLen ≤ packet.length ∧ getU32 packet 4 = .ok kMagicCookie) := by
  unfold looksLikeStun
  by_cases hshort : packet.length < kStunHeaderLen
  · exact ⟨false, if_pos hshort, fun h => absurd h Bool.false_ne_true⟩
  · unfold kStunHeaderLen at hshort ⊢
    obtain ⟨cookie, hcookie⟩ : ∃ v, getU32 packet 4 = .ok v := getU32_of_le (by omega)
    rw [if_neg hshort, readAt_of_le (by omega), ok_bind, hcookie, ok_bind]
    split_ifs with hbits
    · exact ⟨false, rfl, fun h => absurd h Bool.false_ne_true⟩
    · refine ⟨decide (cookie = kMagicCookie), rfl, fun h => ⟨Nat.not_lt.mp hshort, ?_⟩⟩
      rw [of_decide_eq_true h]

/-- A Binding success for the transaction, whose length lies inside the packet. -/
structure IsBindingSuccess (packet : Bytes) (txid : TxId) : Prop where
  header : kStunHeaderLen ≤ packet.length
  type_eq : getU16 packet 0 = .ok kStunBindingSuccess
  cookie_eq : getU32 packet 4 = .ok kMagicCookie
  txid_eq : slice packet 8 12 = txid.toList
  length_le : ∃ length, getU16 packet 2 = .ok length ∧
    kStunHeaderLen + length.toNat ≤ packet.length

lemma parseBindingResponse_cases (packet : Bytes) (txid : TxId) :
    parseBindingResponse packet txid = .ok none ∨
      IsBindingSuccess packet txid ∧ ∃ result, parseBindingResponse packet txid = .ok result := by
  obtain ⟨found, hfound, hheader⟩ := looksLikeStun_inside packet
  unfold parseBindingResponse
  rw [hfound, ok_bind]
  cases found with
  | false => exact .inl rfl
  | true =>
    obtain ⟨hsize, hcookie⟩ := hheader rfl
    have hsize' := hsize
    unfold kStunHeaderLen at hsize'
    obtain ⟨type, htype⟩ : ∃ v, getU16 packet 0 = .ok v := getU16_of_le (by omega)
    obtain ⟨length, hlength⟩ : ∃ v, getU16 packet 2 = .ok v := getU16_of_le (by omega)
    rw [if_neg (by simp), htype, ok_bind, readAt_of_le (by omega), ok_bind, hlength, ok_bind]
    split_ifs with hsuccess htxid hlies
    · exact .inl rfl
    · exact .inl rfl
    · exact .inl rfl
    · rw [not_not] at hsuccess htxid
      have hfits := Nat.not_lt.mp hlies
      refine .inr ⟨⟨hsize, ?_, hcookie, htxid, length, hlength, hfits⟩,
        attributesFrom_inside hfits⟩
      rw [htype, hsuccess]

end Reads

/-! ## What is made of a response -/

section Response
variable {before behind : Bytes} {attr : Attribute} {limit off : ℕ}
  {mapped : Option IPv4Endpoint} {txid : TxId} {attributes : List Attribute}

lemma length_encode : attr.encode.length = 4 + (attr.value.length + 3) / 4 * 4 := by
  simp only [Attribute.encode, List.length_append, length_putU16, List.length_replicate]
  omega

lemma toNat_ofNat_length : (UInt16.ofNat attr.value.length).toNat = attr.value.length :=
  UInt16.toNat_ofNat_of_lt' attr.length_lt

/-- The mask of the parser is the one of the attribute. -/
lemma unmask_eq (ep : IPv4Endpoint) : unmask ep =
    { address := ep.address ^^^ 0x2112A442, port := ep.port ^^^ 0x2112 } := rfl

lemma xorMapped_eq : attr.xorMapped =
    if attr.type = kStunAttrXorMappedAddress then
      (attr.endpoint.map unmask).filter IPv4Endpoint.valid
    else none := by
  rw [Attribute.xorMapped, funext unmask_eq]

/-- The endpoint of either form. -/
lemma xorMapped_or_mapped : attr.xorMapped.or attr.mapped =
    if attr.type = kStunAttrXorMappedAddress then
      (attr.endpoint.map unmask).filter IPv4Endpoint.valid
    else if attr.type = kStunAttrMappedAddress then attr.endpoint.filter IPv4Endpoint.valid
    else none := by
  rw [xorMapped_eq]
  unfold Attribute.mapped
  split_ifs with hxor hmapped
  · rw [hxor] at hmapped
    exact absurd hmapped (by decide)
  · exact Option.or_none
  · rfl
  · rfl

lemma endpoint_of_short (h : attr.value.length < 8) : attr.endpoint = none := by
  unfold Attribute.endpoint
  split
  · rename_i hvalue
    rw [hvalue] at h
    simp at h
    omega
  · rfl

lemma exists_octets {value : Bytes} (h : ¬value.length < 8) : ∃ v family p₀ p₁ a₀ a₁ a₂ a₃ rest,
    value = v :: family :: p₀ :: p₁ :: a₀ :: a₁ :: a₂ :: a₃ :: rest := by
  rcases value with _ | ⟨v, _ | ⟨family, _ | ⟨p₀, _ | ⟨p₁, _ | ⟨a₀, _ | ⟨a₁, _ | ⟨a₂, _ |
    ⟨a₃, rest⟩⟩⟩⟩⟩⟩⟩⟩
  case cons.cons.cons.cons.cons.cons.cons.cons =>
    exact ⟨v, family, p₀, p₁, a₀, a₁, a₂, a₃, rest, rfl⟩
  all_goals simp at h

/-- The value behind the type and the length. -/
lemma mappedAddress_value (hbefore : before.length = off) :
    mappedAddress (before ++ (attr.value ++ behind)) attr.type attr.value.length off =
      .ok (attr.xorMapped.or attr.mapped) := by
  rw [xorMapped_or_mapped]
  unfold mappedAddress
  by_cases htype : attr.type = kStunAttrXorMappedAddress ∨ attr.type = kStunAttrMappedAddress
  · by_cases hshort : attr.value.length < 8
    · rw [if_pos (.inr hshort), endpoint_of_short hshort]
      simp only [Option.map_none, Option.filter_none, ite_self]
      rfl
    · obtain ⟨v, family, p₀, p₁, a₀, a₁, a₂, a₃, rest, hvalue⟩ := exists_octets hshort
      have hone : (before ++ [v]).length = off + 1 := by rw [List.length_append, hbefore]; rfl
      have htwo : (before ++ [v, family]).length = off + 2 := by
        rw [List.length_append, hbefore]
        rfl
      have hfour : (before ++ [v, family, p₀, p₁]).length = off + 4 := by
        rw [List.length_append, hbefore]
        rfl
      have hfamily := @readAt_middle _ (before ++ [v]) [family]
        (p₀ :: p₁ :: a₀ :: a₁ :: a₂ :: a₃ :: rest ++ behind) _ 1 hone rfl
      have hport := @getU16_cons _ (a₀ :: a₁ :: a₂ :: a₃ :: rest ++ behind) _ htwo p₀ p₁
      have haddress := @getU32_cons _ (rest ++ behind) _ hfour a₀ a₁ a₂ a₃
      simp only [List.append_assoc, List.cons_append, List.nil_append] at hfamily hport haddress
      have hpacket : before ++ (attr.value ++ behind) =
          before ++ (v :: family :: p₀ :: p₁ :: a₀ :: a₁ :: a₂ :: a₃ :: (rest ++ behind)) := by
        rw [hvalue]
        rfl
      rw [if_neg (by rw [not_or, not_not]; exact ⟨htype, hshort⟩), hpacket, hfamily, ok_bind, hport,
        ok_bind, haddress, ok_bind, Attribute.endpoint, hvalue]
      dsimp only
      by_cases hone : family = 0x01
      · rw [if_neg (by rw [hone]; exact not_not.mpr rfl), if_pos hone]
        rcases htype with hxor | hmapped
        · rw [if_pos hxor, if_pos hxor, Option.map_some]
          rfl
        · have hother : attr.type ≠ kStunAttrXorMappedAddress := by
            rw [hmapped]
            decide
          rw [if_neg hother, if_neg hother, if_pos hmapped]
          rfl
      · rw [if_pos (by simpa using hone), if_neg hone]
        simp only [Option.map_none, Option.filter_none, ite_self]
        rfl
  · rw [if_pos (.inl htype)]
    rw [not_or] at htype
    rw [if_neg htype.1, if_neg htype.2]
    rfl

/-- The two forms of the attribute, as the parser sees them. -/
lemma mappedAddress_encode (hoff : before.length = off) :
    mappedAddress (before ++ (attr.encode ++ behind)) attr.type attr.value.length (off + 4) =
      .ok (attr.xorMapped.or attr.mapped) := by
  have hbefore : (before ++ (putU16 attr.type ++ putU16 (UInt16.ofNat attr.value.length))).length =
      off + 4 := by
    rw [List.length_append, hoff]
    rfl
  have hread := @mappedAddress_value _ (List.replicate
    ((attr.value.length + 3) / 4 * 4 - attr.value.length) 0 ++ behind) attr _ hbefore
  simpa only [Attribute.encode, List.append_assoc] using hread

lemma type_of_xorMapped {ep : IPv4Endpoint} (h : attr.xorMapped = some ep) :
    attr.type = kStunAttrXorMappedAddress := by
  unfold Attribute.xorMapped at h
  split_ifs at h with htype
  exact htype

lemma mapped_of_type (h : attr.type = kStunAttrXorMappedAddress) : attr.mapped = none := by
  unfold Attribute.mapped
  rw [h]
  exact if_neg (by decide)

lemma attributesFrom_encode (hoff : before.length = off)
    (hlimit : off + attr.encode.length ≤ limit) :
    attributesFrom (before ++ (attr.encode ++ behind)) limit off mapped =
      match attr.xorMapped with
      | some ep => .ok (some ep)
      | none => attributesFrom (before ++ (attr.encode ++ behind)) limit
          (off + attr.encode.length) (mapped.or attr.mapped) := by
  rw [length_encode] at hlimit ⊢
  have htype : getU16 (before ++ (attr.encode ++ behind)) off = .ok attr.type := by
    rw [Attribute.encode, List.append_assoc]
    exact getU16_putU16 hoff attr.type
  have hattrLen : getU16 (before ++ (attr.encode ++ behind)) (off + 2) =
      .ok (UInt16.ofNat attr.value.length) := by
    have hbefore : (before ++ putU16 attr.type).length = off + 2 := by
      rw [List.length_append, hoff, length_putU16]
    have hread := @getU16_putU16 _ (attr.value ++ (List.replicate
      ((attr.value.length + 3) / 4 * 4 - attr.value.length) 0 ++ behind)) _ hbefore
      (UInt16.ofNat attr.value.length)
    simpa only [Attribute.encode, List.append_assoc] using hread
  rw [attributesFrom, if_pos (by omega), htype, ok_bind, hattrLen, ok_bind]
  dsimp only
  rw [toNat_ofNat_length, if_neg (by omega), mappedAddress_encode hoff, ok_bind, ← Nat.add_assoc]
  cases hxor : attr.xorMapped with
  | some ep => exact if_pos ⟨type_of_xorMapped hxor, rfl⟩
  | none =>
    rw [Option.none_or]
    refine if_neg ?_
    rintro ⟨htype, hmapped⟩
    rw [mapped_of_type htype] at hmapped
    exact absurd hmapped Bool.false_ne_true

lemma attributesFrom_attributes (hoff : before.length = off)
    (hlimit : off + (attributes.flatMap Attribute.encode).length = limit) :
    attributesFrom (before ++ (attributes.flatMap Attribute.encode ++ behind)) limit off mapped =
      .ok ((attributes.findSome? Attribute.xorMapped).or
        (mapped.or (attributes.findSome? Attribute.mapped))) := by
  induction attributes generalizing before off mapped with
  | nil =>
    rw [List.flatMap_nil, List.length_nil] at hlimit
    rw [attributesFrom, if_neg (by omega)]
    simp
  | cons attr attributes ih =>
    rw [List.flatMap_cons, List.length_append] at hlimit
    have hbefore : (before ++ attr.encode).length = off + attr.encode.length := by
      rw [List.length_append, hoff]
    have hrest := @ih (before ++ attr.encode) _ (mapped.or attr.mapped) hbefore (by omega)
    rw [List.append_assoc, ← List.append_assoc attr.encode] at hrest
    rw [List.flatMap_cons, List.append_assoc, attributesFrom_encode hoff (by omega),
      ← List.append_assoc attr.encode, hrest, List.findSome?_cons, List.findSome?_cons]
    cases attr.xorMapped with
    | some ep => rfl
    | none =>
      dsimp only
      cases mapped <;> cases attr.mapped <;> rfl

lemma parseBindingResponse_response
    (hlength : (attributes.flatMap Attribute.encode).length < 65536) :
    parseBindingResponse (response txid attributes ++ behind) txid =
      .ok ((attributes.findSome? Attribute.xorMapped).or
        (attributes.findSome? Attribute.mapped)) := by
  have hpacket : response txid attributes ++ behind = putU16 kStunBindingSuccess ++
      (putU16 (UInt16.ofNat (attributes.flatMap Attribute.encode).length) ++
        (putU32 kMagicCookie ++
          (txid.toList ++ (attributes.flatMap Attribute.encode ++ behind)))) := by
    simp only [response, List.append_assoc]
  have htxid : txid.toList.length = 12 := by simp
  have hsize : (response txid attributes ++ behind).length =
      kStunHeaderLen + (attributes.flatMap Attribute.encode ++ behind).length := by
    rw [hpacket, List.length_append, List.length_append, List.length_append, List.length_append,
      length_putU16, length_putU16, length_putU32, htxid]
    unfold kStunHeaderLen
    omega
  have htotal : (UInt16.ofNat (attributes.flatMap Attribute.encode).length).toNat =
      (attributes.flatMap Attribute.encode).length := UInt16.toNat_ofNat_of_lt' hlength
  generalize hcount : UInt16.ofNat (attributes.flatMap Attribute.encode).length = count
    at hpacket htotal
  have htype : getU16 (response txid attributes ++ behind) 0 = .ok kStunBindingSuccess := by
    rw [hpacket]
    exact @getU16_putU16 [] _ _ rfl _
  have hlengthField : getU16 (response txid attributes ++ behind) 2 = .ok count := by
    rw [hpacket]
    exact getU16_putU16 rfl _
  have hcookie : getU32 (response txid attributes ++ behind) 4 = .ok kMagicCookie := by
    rw [hpacket, ← List.append_assoc]
    exact getU32_putU32 rfl _
  have htransaction : readAt (response txid attributes ++ behind) 8 12 = .ok txid.toList := by
    rw [hpacket, ← List.append_assoc, ← List.append_assoc]
    exact readAt_middle rfl htxid
  have hlooks : looksLikeStun (response txid attributes ++ behind) = .ok true := by
    have hfirst : readAt (response txid attributes ++ behind) 0 1 = .ok [0x01] := by
      rw [hpacket]
      exact readAt_head _ _
    rw [looksLikeStun, if_neg (by omega), hfirst, ok_bind, hcookie]
    rfl
  have hwalk : attributesFrom (response txid attributes ++ behind)
      (kStunHeaderLen + count.toNat) kStunHeaderLen none = .ok
        ((attributes.findSome? Attribute.xorMapped).or
          (attributes.findSome? Attribute.mapped)) := by
    have hheader : (putU16 kStunBindingSuccess ++ (putU16 count ++
        (putU32 kMagicCookie ++ txid.toList))).length = kStunHeaderLen := by
      rw [List.length_append, List.length_append, List.length_append, htxid]
      rfl
    have hread := @attributesFrom_attributes _ behind (kStunHeaderLen + count.toNat) _ none
      attributes hheader (by rw [htotal])
    rw [Option.none_or] at hread
    simpa only [hpacket, List.append_assoc] using hread
  have hfits : ¬(response txid attributes ++ behind).length < kStunHeaderLen + count.toNat := by
    rw [hsize, List.length_append, htotal]
    omega
  rw [parseBindingResponse, hlooks, ok_bind, if_neg (by simp), htype, ok_bind,
    if_neg (not_not.mpr rfl), htransaction, ok_bind, if_neg (not_not.mpr rfl), hlengthField,
    ok_bind, if_neg hfits, hwalk]

end Response

lemma unmask_unmask (ep : IPv4Endpoint) : unmask (unmask ep) = ep := by
  simp only [unmask, UInt32.xor_assoc, UInt16.xor_assoc, UInt32.xor_self, UInt16.xor_self,
    UInt32.xor_zero, UInt16.xor_zero]

/-- An endpoint comes out from under the cookie. -/
lemma xorMapped_ofEndpoint {ep : IPv4Endpoint} (h : ep.valid) :
    (Attribute.ofEndpoint ep).xorMapped = some ep := by
  have hendpoint : (Attribute.ofEndpoint ep).endpoint = some (unmask ep) := by
    show some (IPv4Endpoint.mk _ _) = _
    rw [low32, join32, low16, join16, unmask_eq]
  have htype : (Attribute.ofEndpoint ep).type = kStunAttrXorMappedAddress := rfl
  rw [xorMapped_eq, if_pos htype, hendpoint, Option.map_some, unmask_unmask,
    Option.filter_some, if_pos h]

/-- **A response gives the mapped address.** -/
theorem parseBindingResponse_finds (txid : TxId) :
    (∀ packet, ∃ result, parseBindingResponse packet txid = .ok result ∧
      (result.isSome → IsBindingSuccess packet txid)) ∧
    (∀ attributes : List Attribute, (attributes.flatMap Attribute.encode).length < 65536 →
      ∀ behind, parseBindingResponse (response txid attributes ++ behind) txid =
        .ok ((attributes.findSome? Attribute.xorMapped).or
          (attributes.findSome? Attribute.mapped))) ∧
    ∀ ep : IPv4Endpoint, ep.valid → (Attribute.ofEndpoint ep).xorMapped = some ep := by
  refine ⟨fun packet => ?_, fun attributes hlength behind => parseBindingResponse_response hlength,
    fun ep hvalid => xorMapped_ofEndpoint hvalid⟩
  obtain hnone | ⟨hsuccess, result, hresult⟩ := parseBindingResponse_cases packet txid
  · exact ⟨none, hnone, fun h => absurd h Bool.false_ne_true⟩
  · exact ⟨result, hresult, fun _ => hsuccess⟩

lemma software_lt : (ascii "abc").length < 65536 := by decide

lemma octets_lt (v family p₀ p₁ a₀ a₁ a₂ a₃ : UInt8) :
    [v, family, p₀, p₁, a₀, a₁, a₂, a₃].length < 65536 := by simp

/-- The software of a server, a MAPPED-ADDRESS of 10.0.0.1:80 and, behind it, the
XOR-MAPPED-ADDRESS of 203.0.113.7:41641. -/
def threeAttributes : List Attribute :=
  [⟨0x8022, ascii "abc", software_lt⟩,
    ⟨0x0001, [0x00, 0x01, 0x00, 0x50, 0x0a, 0x00, 0x00, 0x01], octets_lt ..⟩,
    ⟨0x0020, [0x00, 0x01, 0x83, 0xbb, 0xea, 0x12, 0xd5, 0x45], octets_lt ..⟩]

def threePacket : Bytes :=
  [0x01, 0x01, 0x00, 0x20, 0x21, 0x12, 0xa4, 0x42] ++ List.replicate 12 0x30 ++
    [0x80, 0x22, 0x00, 0x03, 0x61, 0x62, 0x63, 0x00] ++
    [0x00, 0x01, 0x00, 0x08, 0x00, 0x01, 0x00, 0x50, 0x0a, 0x00, 0x00, 0x01] ++
    [0x00, 0x20, 0x00, 0x08, 0x00, 0x01, 0x83, 0xbb, 0xea, 0x12, 0xd5, 0x45]

theorem parseBindingResponse_finds_xor :
    response (Vector.replicate 12 0x30) threeAttributes = threePacket ∧
      parseBindingResponse threePacket (Vector.replicate 12 0x30) =
        .ok (some ⟨0xcb007107, 41641⟩) ∧
      (Attribute.ofEndpoint ⟨0xcb007107, 41641⟩).value =
        [0x00, 0x01, 0x83, 0xbb, 0xea, 0x12, 0xd5, 0x45] ∧
      (Attribute.ofEndpoint ⟨0xcb007107, 41641⟩).xorMapped = some ⟨0xcb007107, 41641⟩ := by
  obtain ⟨-, hresponse, hendpoint⟩ := parseBindingResponse_finds (Vector.replicate 12 0x30)
  have hpacket : response (Vector.replicate 12 0x30) threeAttributes = threePacket := by
    decide +kernel
  have hparsed := hresponse threeAttributes (by decide +kernel) []
  rw [hpacket, List.append_nil] at hparsed
  have hfound : (threeAttributes.findSome? Attribute.xorMapped).or
      (threeAttributes.findSome? Attribute.mapped) = some ⟨0xcb007107, 41641⟩ := by
    decide +kernel
  rw [hfound] at hparsed
  exact ⟨hpacket, hparsed, by decide +kernel, hendpoint _ (by decide)⟩

end ArtemisSwitch.Stun

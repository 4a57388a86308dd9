import ArtemisSwitch.Noise
import ArtemisSwitch.Library.ByteLayout

/-!
# The box of disco

XSalsa20 and Poly1305 under a key that both ends derive.  The stream goes 32 octets ahead of the
text, and these octets are the key of the tag.
-/

namespace ArtemisSwitch.Box
open Transport
open Netmap (Key32)
open Noise (zeroKey)

def kBoxNonceLen : ℕ := 24

def kBoxMacLen : ℕ := 16

abbrev BoxNonce := {nonce : Bytes // nonce.length = kBoxNonceLen}

/-- The first 24 octets, copied over zeros. -/
def BoxNonce.copyFrom (bytes : Bytes) : BoxNonce :=
  ⟨bytes.take kBoxNonceLen ++ List.replicate (kBoxNonceLen - (bytes.take kBoxNonceLen).length) 0, by
    have hle := List.length_take_le kBoxNonceLen bytes
    rw [List.length_append, List.length_replicate]
    omega⟩

abbrev BoxMac := {mac : Bytes // mac.length = kBoxMacLen}

/-- What the library does. -/
structure Primitives where
  x25519 : Key32 → Key32 → Key32
  poly1305 : (key data : Bytes) → BoxMac

/-! ## Salsa20 -/

def kSigma : Bytes := ascii "expand 32-byte k"

def rotl (value shift : UInt32) : UInt32 := value <<< shift ||| value >>> (32 - shift)

def load32le (src : Bytes) : UInt32 :=
  (src.getD 0 0).toUInt32 ||| (src.getD 1 0).toUInt32 <<< 8 ||| (src.getD 2 0).toUInt32 <<< 16 |||
    (src.getD 3 0).toUInt32 <<< 24

def store32le (value : UInt32) : Bytes :=
  [value.toUInt8, (value >>> 8).toUInt8, (value >>> 16).toUInt8, (value >>> 24).toUInt8]

abbrev Words := Vector UInt32 16

/-- `BOX_QR`. -/
def quarterRound (x : Words) (a b c d : Fin 16) : Words :=
  let x := x.set b (x[b] ^^^ rotl (x[a] + x[d]) 7)
  let x := x.set c (x[c] ^^^ rotl (x[b] + x[a]) 9)
  let x := x.set d (x[d] ^^^ rotl (x[c] + x[b]) 13)
  x.set a (x[a] ^^^ rotl (x[d] + x[c]) 18)

def doubleRound (x : Words) : Words :=
  let x := quarterRound x 0 4 8 12
  let x := quarterRound x 5 9 13 1
  let x := quarterRound x 10 14 2 6
  let x := quarterRound x 15 3 7 11
  let x := quarterRound x 0 1 2 3
  let x := quarterRound x 5 6 7 4
  let x := quarterRound x 10 11 8 9
  quarterRound x 15 12 13 14

/-- The words before the first round. -/
def initial (input key : Bytes) : Words :=
  #v[load32le kSigma, load32le key, load32le (key.drop 4), load32le (key.drop 8),
    load32le (key.drop 12), load32le (kSigma.drop 4), load32le input, load32le (input.drop 4),
    load32le (input.drop 8), load32le (input.drop 12), load32le (kSigma.drop 8),
    load32le (key.drop 16), load32le (key.drop 20), load32le (key.drop 24), load32le (key.drop 28),
    load32le (kSigma.drop 12)]

def rounds (x : Words) : Words := doubleRound^[10] x

/-- One block of 64 octets. -/
def salsa20Block (input key : Bytes) : Bytes :=
  let original := initial input key
  let x := rounds original
  (List.finRange 16).flatMap fun i => store32le (x[i] + original[i])

def hsalsa20 (nonce key : Bytes) : Bytes :=
  let x := rounds (initial nonce key)
  [0, 5, 10, 15, 6, 7, 8, 9].flatMap fun i : Fin 16 => store32le x[i]

/-! ## XSalsa20 -/

/-- The counter behind the end of the nonce. -/
def counterBlock (nonceTail : Bytes) (block : UInt64) : Bytes :=
  nonceTail ++ (List.range 8).map fun i => (block >>> UInt64.ofNat (8 * i)).toUInt8

/-- The loop of `xsalsa20Keystream`. -/
def keystreamFrom (subkey nonceTail : Bytes) (block : UInt64) (length : ℕ) : Bytes :=
  if length = 0 then []
  else
    let keystream := salsa20Block (counterBlock nonceTail block) subkey
    let take := min length 64
    keystream.take take ++ keystreamFrom subkey nonceTail (block + 1) (length - take)
termination_by length

def xsalsa20Keystream (length : ℕ) (nonce : BoxNonce) (key : Bytes) : Bytes :=
  keystreamFrom (hsalsa20 (nonce.val.take 16) key) (nonce.val.drop 16) 0 length

/-! ## Seal and open -/

section
variable (lib : Primitives)

def boxKey (myPrivate theirPublic : Key32) : Except String Bytes :=
  let shared := lib.x25519 myPrivate theirPublic
  if shared.val.all (· == 0) then .error "crypto_box: weak or invalid X25519 shared secret"
  else .ok (hsalsa20 (List.replicate 16 0) shared.val)

/-- The last argument is `cipherTextOut` before the call. -/
def boxSeal (plainText : Bytes) (myPrivate theirPublic : Key32) (nonce : BoxNonce)
    (cipherTextOut : Bytes) : Except String Unit × Bytes :=
  match boxKey lib myPrivate theirPublic with
  | .error error => (.error error, cipherTextOut)
  | .ok key =>
    let paddedLen := 32 + plainText.length
    let stream := xsalsa20Keystream paddedLen nonce key
    let padded := List.zipWith (· ^^^ ·) (List.replicate 32 0 ++ plainText) stream
    let mac := lib.poly1305 (stream.take 32) (padded.drop 32)
    (.ok (), mac.val ++ padded.drop 32)

/-- The last argument is `plainTextOut` before the call. -/
def boxOpen (cipherText : Bytes) (myPrivate theirPublic : Key32) (nonce : BoxNonce)
    (plainTextOut : Bytes) : Except String Unit × Bytes :=
  if cipherText.length < kBoxMacLen then
    (.error "crypto_box: ciphertext shorter than auth tag", plainTextOut)
  else
    match boxKey lib myPrivate theirPublic with
    | .error error => (.error error, plainTextOut)
    | .ok key =>
      let cipherLen := cipherText.length - kBoxMacLen
      let stream := xsalsa20Keystream (32 + cipherLen) nonce key
      let expectedMac := lib.poly1305 (stream.take 32) (cipherText.drop kBoxMacLen)
      if expectedMac.val ≠ cipherText.take kBoxMacLen then
        (.error "crypto_box: ciphertext authentication failed", [])
      else
        (.ok (), (List.range cipherLen).map fun i =>
          cipherText.getD (i + kBoxMacLen) 0 ^^^ stream.getD (32 + i) 0)

end

/-! ## The stream -/

lemma length_salsa20Block (input key : Bytes) : (salsa20Block input key).length = 64 := by
  simp [salsa20Block, List.length_flatMap, store32le]

lemma length_keystreamFrom (subkey nonceTail : Bytes) (block : UInt64) (length : ℕ) :
    (keystreamFrom subkey nonceTail block length).length = length := by
  fun_induction keystreamFrom subkey nonceTail block length with
  | case1 => rfl
  | case2 block length hpos keystream take ih =>
    have hblock : keystream.length = 64 := length_salsa20Block _ _
    rw [List.length_append, List.length_take, hblock, ih]
    show min (min length 64) 64 + (length - min length 64) = length
    omega

lemma length_xsalsa20Keystream (length : ℕ) (nonce : BoxNonce) (key : Bytes) :
    (xsalsa20Keystream length nonce key).length = length :=
  length_keystreamFrom _ _ _ _

/-- A text under the stream of its own length. -/
def masked (key : Bytes) (nonce : BoxNonce) (text : Bytes) : Bytes :=
  List.zipWith (· ^^^ ·) text ((xsalsa20Keystream (32 + text.length) nonce key).drop 32)

/-- The tag of a text that is already masked. -/
def tag (lib : Primitives) (key : Bytes) (nonce : BoxNonce) (text : Bytes) : BoxMac :=
  lib.poly1305 ((xsalsa20Keystream (32 + text.length) nonce key).take 32) text

section Mask
variable {key : Bytes} {nonce : BoxNonce} {text : Bytes}

lemma length_masked : (masked key nonce text).length = text.length := by
  rw [masked, List.length_zipWith, List.length_drop, length_xsalsa20Keystream]
  omega

lemma zipWith_xor_self (text stream : Bytes) (h : text.length ≤ stream.length) :
    List.zipWith (· ^^^ ·) (List.zipWith (· ^^^ ·) text stream) stream = text := by
  induction text generalizing stream with
  | nil => rfl
  | cons b text ih =>
    cases stream with
    | nil => simp at h
    | cons k stream =>
      have hrest := ih stream (by simpa using h)
      rw [List.zipWith_cons_cons, List.zipWith_cons_cons, hrest, UInt8.xor_assoc, UInt8.xor_self,
        UInt8.xor_zero]

lemma masked_masked : masked key nonce (masked key nonce text) = text := by
  have hlength : text.length ≤
      ((xsalsa20Keystream (32 + text.length) nonce key).drop 32).length := by
    rw [List.length_drop, length_xsalsa20Keystream]
    omega
  conv_lhs => rw [masked, length_masked]
  exact zipWith_xor_self _ _ hlength

/-- The padded buffer of `boxSeal`. -/
lemma drop_padded : (List.zipWith (· ^^^ ·) (List.replicate 32 0 ++ text)
    (xsalsa20Keystream (32 + text.length) nonce key)).drop 32 = masked key nonce text := by
  have hzeros : (List.replicate 32 (0 : UInt8)).length = 32 := List.length_replicate
  rw [List.drop_zipWith, List.drop_left' hzeros, masked]

/-- The index arithmetic of `boxOpen`. -/
lemma map_range_eq_masked {cipherText : Bytes} :
    (List.range (cipherText.length - kBoxMacLen)).map (fun i =>
      cipherText.getD (i + kBoxMacLen) 0 ^^^
        (xsalsa20Keystream (32 + (cipherText.length - kBoxMacLen)) nonce key).getD (32 + i) 0) =
      masked key nonce (cipherText.drop kBoxMacLen) := by
  have hstream := length_xsalsa20Keystream (32 + (cipherText.length - kBoxMacLen)) nonce key
  apply List.ext_getElem
  · rw [length_masked, List.length_map, List.length_range, List.length_drop]
  · intro i hi _
    rw [List.length_map, List.length_range] at hi
    simp only [masked, List.getElem_map, List.getElem_range, List.getElem_zipWith,
      List.getElem_drop, List.length_drop]
    rw [List.getD_eq_getElem?_getD, List.getD_eq_getElem?_getD,
      List.getElem?_eq_getElem (by omega), List.getElem?_eq_getElem (by omega)]
    simp only [Option.getD_some, Nat.add_comm i]

end Mask

/-! ## What the calls return -/

section Calls
variable {lib : Primitives} {a b A B : Key32} {key : Bytes} {nonce : BoxNonce}

lemma boxKey_of_ne (h : lib.x25519 a B ≠ zeroKey) :
    boxKey lib a B = .ok (hsalsa20 (List.replicate 16 0) (lib.x25519 a B).val) := by
  have hall : (lib.x25519 a B).val.all (· == 0) = false := by
    by_contra hzero
    apply h
    apply Subtype.ext
    rw [Bool.not_eq_false, List.all_eq_true] at hzero
    have hreplicate := List.eq_replicate_of_mem fun c hc => eq_of_beq (hzero c hc)
    rw [hreplicate, (lib.x25519 a B).property]
    rfl
  rw [boxKey, hall, if_neg Bool.false_ne_true]

lemma boxKey_congr (h : lib.x25519 a B = lib.x25519 b A) : boxKey lib a B = boxKey lib b A := by
  rw [boxKey, boxKey, h]

lemma boxSeal_eq (hkey : boxKey lib a B = .ok key) (plainText out : Bytes) :
    boxSeal lib plainText a B nonce out =
      (.ok (), (tag lib key nonce (masked key nonce plainText)).val ++
        masked key nonce plainText) := by
  rw [boxSeal, hkey]
  dsimp only
  rw [drop_padded, tag, length_masked]

lemma boxOpen_eq (hkey : boxKey lib a B = .ok key) {cipherText : Bytes}
    (h : kBoxMacLen ≤ cipherText.length) (out : Bytes) :
    boxOpen lib cipherText a B nonce out =
      if (tag lib key nonce (cipherText.drop kBoxMacLen)).val ≠ cipherText.take kBoxMacLen then
        (.error "crypto_box: ciphertext authentication failed", [])
      else (.ok (), masked key nonce (cipherText.drop kBoxMacLen)) := by
  rw [boxOpen, if_neg (Nat.not_lt.mpr h), hkey]
  dsimp only
  rw [map_range_eq_masked, tag, List.length_drop]

lemma boxOpen_sealed (hkey : boxKey lib a B = .ok key) (plainText out : Bytes) :
    boxOpen lib ((tag lib key nonce (masked key nonce plainText)).val ++ masked key nonce plainText)
      a B nonce out = (.ok (), plainText) := by
  have hmac := (tag lib key nonce (masked key nonce plainText)).property
  have hlength : kBoxMacLen ≤ ((tag lib key nonce (masked key nonce plainText)).val ++
      masked key nonce plainText).length := by
    rw [List.length_append, hmac]
    exact Nat.le_add_right _ _
  rw [boxOpen_eq hkey hlength, List.drop_left' hmac, List.take_left' hmac, if_neg (by simp),
    masked_masked]

lemma sealed_of_boxOpen (hkey : boxKey lib a B = .ok key) {cipherText plainText out : Bytes}
    (h : boxOpen lib cipherText a B nonce out = (.ok (), plainText)) :
    (tag lib key nonce (masked key nonce plainText)).val ++ masked key nonce plainText =
      cipherText := by
  have hlength : kBoxMacLen ≤ cipherText.length := by
    by_contra hshort
    rw [boxOpen, if_pos (Nat.lt_of_not_le hshort)] at h
    cases (Prod.mk.inj h).1
  rw [boxOpen_eq hkey hlength] at h
  split_ifs at h with hmac
  · cases (Prod.mk.inj h).1
  · rw [← (Prod.mk.inj h).2, masked_masked, not_not.mp hmac, List.take_append_drop]

end Calls

/-- **Open undoes seal, and seal undoes open.** -/
theorem boxOpen_boxSeal (lib : Primitives) (a b A B : Key32) (nonce : BoxNonce)
    (hagree : lib.x25519 a B = lib.x25519 b A) (hne : lib.x25519 a B ≠ zeroKey) :
    (∀ plainText out out', (boxSeal lib plainText a B nonce out).1 = .ok () ∧
        boxOpen lib (boxSeal lib plainText a B nonce out).2 b A nonce out' =
          (.ok (), plainText)) ∧
      (∀ cipherText plainText out out',
        boxOpen lib cipherText b A nonce out = (.ok (), plainText) →
          boxSeal lib plainText a B nonce out' = (.ok (), cipherText) ∧
            boxSeal lib plainText b A nonce out' = (.ok (), cipherText)) ∧
      ∀ cipherText out, kBoxMacLen ≤ cipherText.length →
        (boxOpen lib cipherText b A nonce out).1 ≠ .ok () →
          (boxOpen lib cipherText b A nonce out).2 = [] := by
  have hseal := boxKey_of_ne hne
  have hopen : boxKey lib b A = .ok (hsalsa20 (List.replicate 16 0) (lib.x25519 a B).val) :=
    (boxKey_congr hagree).symm.trans hseal
  refine ⟨?_, ?_, ?_⟩
  · intro plainText out out'
    rw [boxSeal_eq hseal]
    exact ⟨rfl, boxOpen_sealed hopen plainText out'⟩
  · intro cipherText plainText out out' h
    have hsealed := sealed_of_boxOpen hopen h
    exact ⟨by rw [boxSeal_eq hseal, hsealed], by rw [boxSeal_eq hopen, hsealed]⟩
  · intro cipherText out hlength hfailed
    rw [boxOpen_eq hopen hlength] at hfailed ⊢
    split_ifs at hfailed ⊢
    · rfl
    · exact absurd rfl hfailed

/-! ## Known answers -/

/-- The digits of the number, two for each octet. -/
def octets (width n : ℕ) : Bytes := (ByteLayout.le width n).reverse

lemma length_octets (width n : ℕ) : (octets width n).length = width := by
  rw [octets, List.length_reverse, ByteLayout.length_le]

def aliceSk : Key32 :=
  ⟨octets 32 0x000102030405060708090a0b0c0d0e0f101112131415161718191a1b1c1d1e1f, length_octets _ _⟩

def alicePk : Key32 :=
  ⟨octets 32 0x8f40c5adb68f25624ae5b214ea767a6ec94d829d3d7b5e1ad1ba6f3e2138285f, length_octets _ _⟩

def bobSk : Key32 :=
  ⟨octets 32 0x808182838485868788898a8b8c8d8e8f909192939495969798999a9b9c9d9e9f, length_octets _ _⟩

def bobPk : Key32 :=
  ⟨octets 32 0x493e82fc74464a59268817623d2053c5eb8e2cc4a988b4fee179ec6b010d531d, length_octets _ _⟩

def sharedSecret : Key32 :=
  ⟨octets 32 0x74b43a90417395b74f29f89461d912822d9e7c2e60a899d47504fe4a367fb47f, length_octets _ _⟩

def testNonce : BoxNonce :=
  ⟨octets 24 0x1112131415161718191a1b1c1d1e1f202122232425262728, length_octets _ _⟩

/-- Sixteen octets at a time, modulo `2 ^ 130 - 5`. -/
def poly1305 (key data : Bytes) : BoxMac :=
  let r := ByteLayout.ofLe (key.take 16) &&& 0x0ffffffc0ffffffc0ffffffc0fffffff
  let sum := (ByteLayout.blocks 16 data).foldl (fun n block =>
    (n + ByteLayout.ofLe block + 256 ^ block.length) * r % (2 ^ 130 - 5)) 0
  ⟨ByteLayout.le 16 (sum + ByteLayout.ofLe (key.drop 16)), ByteLayout.length_le _ _⟩

/-- The library, as far as the two key pairs go. -/
def testPrimitives : Primitives where
  x25519 privateKey publicKey :=
    if privateKey = aliceSk ∧ publicKey = bobPk ∨ privateKey = bobSk ∧ publicKey = alicePk then
      sharedSecret
    else zeroKey
  poly1305 := poly1305

/-- The octets of libsodium. -/
example : boxSeal testPrimitives (ascii "\x7b\"version\":2\x7d") aliceSk bobPk testNonce [] =
    (.ok (), octets 29 0x65417c8ca2aeafa531def2b1eee9cb3e7c3f4d533fa01bac338fd4721a) := by
  decide +kernel

lemma vectors_agree :
    testPrimitives.x25519 aliceSk bobPk = testPrimitives.x25519 bobSk alicePk ∧
      testPrimitives.x25519 aliceSk bobPk ≠ zeroKey := by
  decide +kernel

theorem boxOpen_boxSeal_test :
    boxOpen testPrimitives
        (boxSeal testPrimitives (List.replicate 100 7) aliceSk bobPk testNonce []).2
        bobSk alicePk testNonce [] = (.ok (), List.replicate 100 7) :=
  ((boxOpen_boxSeal testPrimitives aliceSk bobSk alicePk bobPk testNonce vectors_agree.1
    vectors_agree.2).1 (List.replicate 100 7) [] []).2

end ArtemisSwitch.Box

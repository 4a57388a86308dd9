import ArtemisSwitch.Library.Framing
import ArtemisSwitch.Transport

/-!
# DERP framing

`DerpCodec` and the receive half of `DerpSession`: a type byte, a big-endian
32-bit length and that many payload bytes, read back from a transport that cuts
the stream wherever it likes.
-/

namespace ArtemisSwitch.Derp
open Framing Transport

def kDerpFrameHeaderLen : ℕ := 5

/-- `1 << 20`. -/
def kMaxFramePayload : ℕ := 1048576

/-- The transport hands over at most this many bytes a read. -/
def readChunk : ℕ := 2048

/-- `DerpFrameType` is an enumeration over all of `std::uint8_t`. -/
structure DerpFrame where
  type : UInt8
  payload : Bytes
  deriving DecidableEq, Repr

def writeBigEndian32 (value : ℕ) : Bytes :=
  [UInt8.ofNat (value / 16777216), UInt8.ofNat (value / 65536), UInt8.ofNat (value / 256),
    UInt8.ofNat value]

def readBigEndian32 : Bytes → Option ℕ
  | a :: b :: c :: d :: _ =>
    some (a.toNat * 16777216 + b.toNat * 65536 + c.toNat * 256 + d.toNat)
  | _ => none

/-! ## DerpCodec -/

def encode (type : UInt8) (payload : Bytes) : Bytes :=
  type :: writeBigEndian32 payload.length ++ payload

def parse (bytes : Bytes) : Option DerpFrame :=
  if bytes.length < kDerpFrameHeaderLen then none
  else match readBigEndian32 ((bytes.drop 1).take 4) with
    | none => none
    | some length =>
      if kMaxFramePayload < length ∨ bytes.length < kDerpFrameHeaderLen + length then none
      else some { type := bytes.headD 0, payload := (bytes.drop kDerpFrameHeaderLen).take length }

/-- `none` is the refusal, after which the buffer is empty. -/
def append (buffer bytes : Bytes) : Option Bytes :=
  let limit := kMaxFramePayload + kDerpFrameHeaderLen
  if limit < bytes.length ∨ limit - bytes.length < buffer.length then none
  else some (buffer ++ bytes)

/-- What `take` returns, the error it sets and the buffer it leaves. -/
structure Taken where
  frame : Option DerpFrame
  error : Option String
  buffer : Bytes
  deriving DecidableEq, Repr

def take (buffer : Bytes) : Taken :=
  if buffer.length < kDerpFrameHeaderLen then ⟨none, none, buffer⟩
  else match readBigEndian32 ((buffer.drop 1).take 4) with
    | none => ⟨none, some "DERP frame oversized", []⟩
    | some length =>
      if kMaxFramePayload < length then ⟨none, some "DERP frame oversized", []⟩
      else if buffer.length < kDerpFrameHeaderLen + length then ⟨none, none, buffer⟩
      else match parse (buffer.take (kDerpFrameHeaderLen + length)) with
        | none => ⟨none, none, buffer⟩
        | some frame => ⟨some frame, none, buffer.drop (kDerpFrameHeaderLen + length)⟩

/-! ## DerpSession -/

/-- The codec's receive buffer and the transport, absent once it is closed. -/
structure DerpSession where
  buffer : Bytes
  transport : Option (List Read)
  deriving DecidableEq, Repr

/-- The reading loop of `recvFrame`, after its first `take` found nothing. -/
def readLoop : Bytes → List Read → Received DerpFrame × DerpSession
  | buffer, [] => (.blocked, ⟨buffer, some []⟩)
  | buffer, .failed error :: reads => (.failed error, ⟨buffer, some reads⟩)
  | buffer, .closed :: reads => (.failed "DERP connection closed", ⟨buffer, some reads⟩)
  | buffer, .data bytes :: reads =>
    match append buffer bytes with
    | none => (.failed "DERP receive buffer limit exceeded", ⟨[], some reads⟩)
    | some appended =>
      match (take appended).frame with
      | some frame => (.got frame, ⟨(take appended).buffer, some reads⟩)
      | none => readLoop (take appended).buffer reads

def recvFrame (session : DerpSession) : Received DerpFrame × DerpSession :=
  match session.transport with
  | none => (.failed "DERP transport is not open", session)
  | some reads =>
    match (take session.buffer).frame with
    | some frame => (.got frame, ⟨(take session.buffer).buffer, some reads⟩)
    | none => readLoop (take session.buffer).buffer reads

/-- The outcomes of `n` successive calls of `recvFrame`. -/
def recvFrames : ℕ → DerpSession → List (Received DerpFrame)
  | 0, _ => []
  | n + 1, session => (recvFrame session).1 :: recvFrames n (recvFrame session).2

/-! ## The codec is a framing -/

lemma readBigEndian32_take (b : Bytes) : readBigEndian32 (b.take 4) = readBigEndian32 b := by
  rcases b with _ | ⟨a, _ | ⟨b, _ | ⟨c, _ | ⟨d, r⟩⟩⟩⟩ <;> rfl

lemma readBigEndian32_write {n : ℕ} (hn : n < 4294967296) (r : Bytes) :
    readBigEndian32 (writeBigEndian32 n ++ r) = some n := by
  simp only [writeBigEndian32, List.cons_append, readBigEndian32, UInt8.toNat_ofNat']
  congr 1
  omega

lemma readBigEndian32_some {b : Bytes} (h : 4 ≤ b.length) : ∃ n, readBigEndian32 b = some n := by
  rcases b with _ | ⟨a, _ | ⟨b, _ | ⟨c, _ | ⟨d, r⟩⟩⟩⟩ <;> simp_all [readBigEndian32]

/-- The length that a DERP header declares. -/
def declaredLength (b : Bytes) : ℕ := (readBigEndian32 (b.drop 1)).getD 0

def format : Format UInt8 where
  header := kDerpFrameHeaderLen
  limit := kMaxFramePayload
  declared := declaredLength
  header_pos := by decide
  declared_append b c h := by
    rcases b with _ | ⟨t, _ | ⟨x, _ | ⟨y, _ | ⟨z, _ | ⟨w, r⟩⟩⟩⟩⟩ <;>
      simp_all [kDerpFrameHeaderLen, declaredLength, readBigEndian32]

/-- The frame that complete frame bytes stand for. -/
def frameOf (u : Bytes) : DerpFrame := ⟨u.headD 0, u.drop kDerpFrameHeaderLen⟩

theorem parse_frame {u : Bytes} (hu : format.IsFrame u) : parse u = some (frameOf u) := by
  have hl : u.length = kDerpFrameHeaderLen + declaredLength u := hu.length_eq
  have hw : declaredLength u ≤ kMaxFramePayload := hu.within
  have h5 : ¬ u.length < kDerpFrameHeaderLen := by omega
  obtain ⟨n, hn⟩ : ∃ n, readBigEndian32 (u.drop 1) = some n :=
    readBigEndian32_some (by simp [kDerpFrameHeaderLen] at *; omega)
  have hd : declaredLength u = n := by simp only [declaredLength, hn, Option.getD_some]
  have hp : (u.drop kDerpFrameHeaderLen).take n = u.drop kDerpFrameHeaderLen :=
    List.take_of_length_le (by simp; omega)
  rw [parse, if_neg h5, readBigEndian32_take, hn]
  simp only [hp, frameOf]
  rw [if_neg (by omega)]

/-- `take` is one scan of the receive buffer. -/
theorem take_eq_scan (b : Bytes) :
    take b = match format.scan b with
      | .short => ⟨none, none, b⟩
      | .oversized => ⟨none, some "DERP frame oversized", []⟩
      | .frame u r => ⟨some (frameOf u), none, r⟩ := by
  rw [take]
  split_ifs with h
  · rw [scan_of_length_lt (F := format) h]
  · have h5 : 4 ≤ (b.drop 1).length := by
      have : ¬ b.length < 5 := h
      rw [List.length_drop]
      omega
    obtain ⟨n, hn⟩ := readBigEndian32_some h5
    have hd : format.declared b = n := by
      simp only [format, declaredLength, hn, Option.getD_some]
    have hs : format.scan b = if kMaxFramePayload < n then .oversized
        else if b.length < kDerpFrameHeaderLen + n then .short
        else .frame (b.take (kDerpFrameHeaderLen + n)) (b.drop (kDerpFrameHeaderLen + n)) :=
      scan_of_header (Nat.not_lt.mp h) hd
    simp only [readBigEndian32_take, hn]
    by_cases h1 : kMaxFramePayload < n
    · rw [hs, if_pos h1, if_pos h1]
    · rw [if_neg h1] at hs ⊢
      by_cases h2 : b.length < kDerpFrameHeaderLen + n
      · rw [hs, if_pos h2, if_pos h2]
      · rw [if_neg h2] at hs ⊢
        rw [hs, parse_frame (scan_eq_frame hs).2]

def DerpFrame.encoded (f : DerpFrame) : Bytes := encode f.type f.payload

/-- The number of bytes a frame takes on the wire. -/
def DerpFrame.size (f : DerpFrame) : ℕ := kDerpFrameHeaderLen + f.payload.length

@[simp] lemma encoded_length (f : DerpFrame) : f.encoded.length = f.size := by
  simp [DerpFrame.encoded, DerpFrame.size, encode, writeBigEndian32, kDerpFrameHeaderLen]
  omega

theorem encoded_isFrame {f : DerpFrame} (hf : f.payload.length ≤ kMaxFramePayload) :
    format.IsFrame f.encoded := by
  have hd : declaredLength f.encoded = f.payload.length := by
    have := readBigEndian32_write (n := f.payload.length)
      (by simp [kMaxFramePayload] at hf; omega) f.payload
    simpa [declaredLength, DerpFrame.encoded, encode] using congrArg (Option.getD · 0) this
  exact ⟨by rw [encoded_length]; simp [DerpFrame.size, format, hd], by simpa [format, hd] using hf⟩

@[simp] lemma frameOf_encoded (f : DerpFrame) : frameOf f.encoded = f := by
  simp [frameOf, DerpFrame.encoded, encode, writeBigEndian32, kDerpFrameHeaderLen]

/-! ## One call of recvFrame -/

variable {buffer : Bytes} {reads : List Read}

lemma recvFrame_frame {u r : Bytes} (h : format.scan buffer = .frame u r) :
    recvFrame ⟨buffer, some reads⟩ = (.got (frameOf u), ⟨r, some reads⟩) := by
  simp [recvFrame, take_eq_scan, h]

lemma recvFrame_read {bytes appended : Bytes} (reads : List Read)
    (h : format.scan buffer = .short)
    (ha : append buffer bytes = some appended) :
    recvFrame ⟨buffer, some (.data bytes :: reads)⟩ = recvFrame ⟨appended, some reads⟩ := by
  simp only [recvFrame, take_eq_scan buffer, h, readLoop, ha]

lemma recvFrame_refused {bytes : Bytes} (reads : List Read) (h : format.scan buffer = .short)
    (ha : append buffer bytes = none) :
    recvFrame ⟨buffer, some (.data bytes :: reads)⟩ =
      (.failed "DERP receive buffer limit exceeded", ⟨[], some reads⟩) := by
  simp only [recvFrame, take_eq_scan buffer, h, readLoop, ha]

/-- Meeting an oversized header is not a failure: the call goes on with the reads
that follow, as on a fresh stream. -/
theorem recvFrame_oversized (h : format.scan buffer = .oversized) :
    recvFrame ⟨buffer, some reads⟩ = recvFrame ⟨[], some reads⟩ := by
  simp only [recvFrame, take_eq_scan, h, scan_nil]

end ArtemisSwitch.Derp

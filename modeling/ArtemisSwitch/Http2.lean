import ArtemisSwitch.Library.Framing
import ArtemisSwitch.Transport

/-!
# HTTP/2 frames

The frames that the control client builds, its receive windows, and the decoder
that cuts a byte stream back into frames.
-/

namespace ArtemisSwitch.Http2
open Framing

def kHttp2HeaderLen : ℕ := 9

def kHttp2DefaultWindow : ℕ := 65535

def kHttp2ClientStreamWindow : ℕ := 4194304

def kHttp2ClientConnectionWindow : ℕ := 16777216

structure Http2Frame where
  length : ℕ
  type : UInt8
  flags : UInt8
  streamId : ℕ
  payload : Bytes
  deriving DecidableEq, Repr

def write24 (value : ℕ) : Bytes :=
  [UInt8.ofNat (value / 65536), UInt8.ofNat (value / 256), UInt8.ofNat value]

def write32 (value : ℕ) : Bytes :=
  [UInt8.ofNat (value / 16777216), UInt8.ofNat (value / 65536), UInt8.ofNat (value / 256),
    UInt8.ofNat value]

def read24 : Bytes → ℕ
  | a :: b :: c :: _ => a.toNat * 65536 + b.toNat * 256 + c.toNat
  | _ => 0

/-- The top bit is reserved. -/
def read32 : Bytes → ℕ
  | a :: b :: c :: d :: _ =>
    a.toNat % 128 * 16777216 + b.toNat * 65536 + c.toNat * 256 + d.toNat
  | _ => 0

/-! ## Frames of the client -/

def buildHttp2WindowUpdate (streamId increment : ℕ) : Bytes :=
  write24 4 ++ [0x08, 0x00] ++ write32 (streamId % 2147483648) ++ write32 (increment % 2147483648)

/-- The connection window is not covered by SETTINGS, so that it is raised explicitly. -/
def buildHttp2ClientPreface : Bytes :=
  ascii "PRI * HTTP/2.0\r\n\r\nSM\r\n\r\n" ++
    (write24 6 ++ [0x04, 0x00] ++ write32 0 ++ [0x00, 0x04] ++ write32 kHttp2ClientStreamWindow) ++
    buildHttp2WindowUpdate 0 (kHttp2ClientConnectionWindow - kHttp2DefaultWindow)

def buildHttp2SettingsAck : Bytes := write24 0 ++ [0x04, 0x01] ++ write32 0

def buildHttp2PingAck (opaqueData : Bytes) : Bytes :=
  write24 opaqueData.length ++ [0x06, 0x01] ++ write32 0 ++ opaqueData

/-- The header block of a request, in the literal forms without indexing. -/
def postHeaderBlock (authority path : Bytes) : Bytes :=
  [0x83, 0x87] ++
    ([0x04, UInt8.ofNat path.length] ++ path) ++
    ([0x01, UInt8.ofNat authority.length] ++ authority) ++
    ([0x0f, 0x10, UInt8.ofNat (ascii "application/json").length] ++ ascii "application/json")

def buildHttp2PostHeaders (streamId : ℕ) (authority path : Bytes) : Bytes :=
  let hpack := postHeaderBlock authority path
  write24 hpack.length ++ [0x01, 0x04] ++ write32 streamId ++ hpack

def buildHttp2DataFrame (streamId : ℕ) (data : Bytes) (endStream : Bool) : Bytes :=
  write24 data.length ++ [0x00, if endStream then 0x01 else 0x00] ++ write32 streamId ++ data

/-! ## Receive windows -/

structure Http2ReceiveWindow where
  size : ℕ
  unacknowledged : ℕ := 0
  deriving DecidableEq, Repr

/-- The increment to be sent, if any. -/
def Http2ReceiveWindow.consume (window : Http2ReceiveWindow) (flowControlledBytes : ℕ) :
    Option ℕ × Http2ReceiveWindow :=
  let unacknowledged := window.unacknowledged + flowControlledBytes
  if unacknowledged = 0 ∨ unacknowledged < window.size / 2 then
    (none, { window with unacknowledged := unacknowledged })
  else
    let increment := min unacknowledged 2147483647
    (some increment, { window with unacknowledged := unacknowledged - increment })

/-! ## Http2FrameDecoder -/

namespace Http2FrameDecoder

/-- `1024 * 1024`. -/
def kMaxFrameSize : ℕ := 1048576

/-- `none` is the refusal, which leaves the buffer as it was. -/
def append (buffer bytes : Bytes) : Option Bytes :=
  if kMaxFrameSize + kHttp2HeaderLen < buffer.length + bytes.length then none
  else some (buffer ++ bytes)

/-- The frame and the buffer that is left. -/
def take (buffer : Bytes) : Option Http2Frame × Bytes :=
  if buffer.length < kHttp2HeaderLen then (none, buffer)
  else
    let len := read24 buffer
    if kMaxFrameSize < len then (none, [])
    else if buffer.length < kHttp2HeaderLen + len then (none, buffer)
    else
      (some
        { length := len
          type := (buffer.drop 3).headD 0
          flags := (buffer.drop 4).headD 0
          streamId := read32 (buffer.drop 5)
          payload := (buffer.drop kHttp2HeaderLen).take len },
        buffer.drop (kHttp2HeaderLen + len))

end Http2FrameDecoder

/-! ## The decoder is a framing -/

def format : Format UInt8 where
  header := kHttp2HeaderLen
  limit := Http2FrameDecoder.kMaxFrameSize
  declared := read24
  header_pos := by decide
  declared_append b c h := by
    match b, h with
    | _ :: _ :: _ :: _, _ => rfl

/-- The frame that complete frame bytes stand for. -/
def frameOf (u : Bytes) : Http2Frame where
  length := read24 u
  type := (u.drop 3).headD 0
  flags := (u.drop 4).headD 0
  streamId := read32 (u.drop 5)
  payload := u.drop kHttp2HeaderLen

/-- Nine bytes are a complete header. -/
lemma exists_header {b : Bytes} (h : kHttp2HeaderLen ≤ b.length) :
    ∃ x y z t f p q r s rest, b = x :: y :: z :: t :: f :: p :: q :: r :: s :: rest := by
  unfold kHttp2HeaderLen at h
  match b, h with
  | x :: y :: z :: t :: f :: p :: q :: r :: s :: rest, _ =>
    exact ⟨x, y, z, t, f, p, q, r, s, rest, rfl⟩

/-- `take` is one scan of the buffer. -/
theorem take_eq_scan (b : Bytes) :
    Http2FrameDecoder.take b = match format.scan b with
      | .short => (none, b)
      | .oversized => (none, [])
      | .frame u r => (some (frameOf u), r) := by
  rw [Http2FrameDecoder.take]
  split_ifs with hheader
  · rw [scan_of_length_lt (F := format) hheader]
  · have hs : format.scan b = if Http2FrameDecoder.kMaxFrameSize < read24 b then .oversized
        else if b.length < kHttp2HeaderLen + read24 b then .short
        else .frame (b.take (kHttp2HeaderLen + read24 b)) (b.drop (kHttp2HeaderLen + read24 b)) :=
      scan_of_header (Nat.not_lt.mp hheader) rfl
    rw [hs]
    simp only
    split_ifs with hlimit hlength
    · rfl
    · rfl
    · obtain ⟨x, y, z, t, f, p, q, r, s, rest, rfl⟩ := exists_header (Nat.not_lt.mp hheader)
      have htake (n : ℕ) : (x :: y :: z :: t :: f :: p :: q :: r :: s :: rest).take
          (kHttp2HeaderLen + n) = x :: y :: z :: t :: f :: p :: q :: r :: s :: rest.take n := by
        rw [Nat.add_comm]
        rfl
      simp only [htake, frameOf]
      simp only [read24, read32, kHttp2HeaderLen, List.drop_succ_cons, List.drop_zero,
        List.headD_cons]

/-! ## Frames on the wire -/

def Http2Frame.encoded (f : Http2Frame) : Bytes :=
  write24 f.length ++ [f.type, f.flags] ++ write32 f.streamId ++ f.payload

/-- The greatest payload that a peer may send without having been allowed more. -/
def defaultMaxFrameSize : ℕ := 16384

/-- A frame that the protocol lets control send. -/
structure Http2Frame.Legal (f : Http2Frame) : Prop where
  length_eq : f.length = f.payload.length
  length_le : f.length ≤ defaultMaxFrameSize
  streamId_lt : f.streamId < 2147483648

variable {f : Http2Frame}

lemma length_encoded : f.encoded.length = kHttp2HeaderLen + f.payload.length := by
  simp [Http2Frame.encoded, write24, write32, kHttp2HeaderLen]
  omega

lemma read24_write24 {n : ℕ} (h : n < 16777216) (rest : Bytes) :
    read24 (write24 n ++ rest) = n := by
  simp only [write24, List.cons_append, read24, UInt8.toNat_ofNat']
  omega

lemma read32_write32 {n : ℕ} (h : n < 2147483648) (rest : Bytes) :
    read32 (write32 n ++ rest) = n := by
  simp only [write32, List.cons_append, read32, UInt8.toNat_ofNat']
  omega

lemma read24_encoded (h : f.Legal) : read24 f.encoded = f.payload.length := by
  have hsmall : f.length < 16777216 := by
    have := h.length_le
    unfold defaultMaxFrameSize at this
    omega
  rw [← h.length_eq]
  simpa only [Http2Frame.encoded, List.append_assoc] using read24_write24 hsmall _

lemma Http2Frame.Legal.isFrame (h : f.Legal) : format.IsFrame f.encoded := by
  have hdeclared : format.declared f.encoded = f.payload.length := read24_encoded h
  constructor
  · rw [hdeclared, length_encoded]
    rfl
  · have hle := h.length_le
    rw [hdeclared, ← h.length_eq]
    simp only [format, Http2FrameDecoder.kMaxFrameSize, defaultMaxFrameSize] at hle ⊢
    omega

lemma frameOf_encoded (h : f.Legal) : frameOf f.encoded = f := by
  have hlength := read24_encoded h
  have hstream := read32_write32 h.streamId_lt f.payload
  obtain ⟨length, type, flags, streamId, payload⟩ := f
  obtain rfl : length = payload.length := h.length_eq
  have hdrop : (Http2Frame.encoded ⟨payload.length, type, flags, streamId, payload⟩).drop 5 =
      write32 streamId ++ payload := by
    simp [Http2Frame.encoded, write24]
  simp only [frameOf, hdrop, hstream, hlength]
  simp [Http2Frame.encoded, write24, write32, kHttp2HeaderLen]

end ArtemisSwitch.Http2

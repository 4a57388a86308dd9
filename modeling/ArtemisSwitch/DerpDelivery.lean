import ArtemisSwitch.Derp

/-!
# What a DERP session receives

The receive buffer is capped at one maximal frame, while a read may bring bytes
of the next frame along.  `FitsReceiveBuffer` says, of the frames and of the cut
into reads alone, that the cap is never met.
-/

namespace ArtemisSwitch.Derp
open Framing Transport

/-- The capacity of the receive buffer: one frame of maximal payload. -/
def receiveCapacity : ℕ := kMaxFramePayload + kDerpFrameHeaderLen

lemma append_of_le {buffer bytes : Bytes} (h : buffer.length + bytes.length ≤ receiveCapacity) :
    append buffer bytes = some (buffer ++ bytes) := by
  unfold receiveCapacity at h
  simp only [append]
  rw [if_neg (by omega)]

lemma append_of_lt {buffer bytes : Bytes} (h : receiveCapacity < buffer.length + bytes.length) :
    append buffer bytes = none := by
  unfold receiveCapacity at h
  simp only [append]
  rw [if_pos (by omega)]

/-- From `n` bytes on, each read fits next to the part of a frame that is still
incomplete when it arrives. -/
def FitsFrom (sizes : List ℕ) (n : ℕ) (chunks : List Bytes) : Prop :=
  ∀ before chunk after, chunks = before ++ chunk :: after →
    residue sizes (n + before.flatten.length) + chunk.length ≤ receiveCapacity

/-- Every read of a cut stream fits next to the incomplete frame before it. -/
def FitsReceiveBuffer (frames : List DerpFrame) (chunks : List Bytes) : Prop :=
  FitsFrom (frames.map DerpFrame.size) 0 chunks

variable {sizes : List ℕ} {n : ℕ} {c : Bytes} {cs : List Bytes}

lemma fitsFrom_nil : FitsFrom sizes n [] := by
  intro before chunk after h
  simp at h

lemma fitsFrom_cons : FitsFrom sizes n (c :: cs) ↔
    residue sizes n + c.length ≤ receiveCapacity ∧ FitsFrom sizes (n + c.length) cs := by
  constructor
  · intro h
    refine ⟨by simpa using h [] c cs rfl, ?_⟩
    rintro before chunk after rfl
    simpa [Nat.add_assoc] using h (c :: before) chunk after rfl
  · rintro ⟨h0, h⟩ before chunk after heq
    rcases before with _ | ⟨b, before⟩
    · obtain ⟨rfl, -⟩ : c = chunk ∧ cs = after := by simpa using heq
      simpa using h0
    · obtain ⟨rfl, hcs⟩ : c = b ∧ cs = before ++ chunk :: after := by simpa using heq
      simpa [Nat.add_assoc] using h before chunk after hcs

/-- A complete frame at the front changes nothing for the reads that follow. -/
lemma fitsFrom_frame (s : ℕ) : FitsFrom (s :: sizes) (s + n) cs ↔ FitsFrom sizes n cs := by
  simp only [FitsFrom, Nat.add_assoc, residue_add]

/-! ## Reading back encoded frames -/

/-- The bytes of a list of frames on the wire. -/
def wire (frames : List DerpFrame) : Bytes := (frames.map DerpFrame.encoded).flatten

/-- From a buffer that holds the start of the stream, the calls return the frames exactly
when every further read fits. -/
theorem recvFrames_eq_iff (chunks : List Bytes) (frames : List DerpFrame) (buffer : Bytes)
    (hp : ∀ f ∈ frames, f.payload.length ≤ kMaxFramePayload) (hc : ∀ c ∈ chunks, c ≠ [])
    (hs : buffer ++ chunks.flatten = wire frames) :
    recvFrames frames.length ⟨buffer, some (chunks.map .data)⟩ = frames.map .got ↔
      FitsFrom (frames.map DerpFrame.size) buffer.length chunks := by
  -- over the reads, and for each over the frames that the buffer may hold already
  induction chunks generalizing frames buffer with
  | nil =>
    have hrun : recvFrames frames.length ⟨buffer, some []⟩ = frames.map .got := by
      induction frames generalizing buffer with
      | nil => rfl
      | cons f fs ih =>
        have hb : buffer = f.encoded ++ wire fs := by simpa [wire] using hs
        have hscan : format.scan buffer = .frame f.encoded (wire fs) := by
          rw [hb]
          exact scan_frame_append (encoded_isFrame (hp f (by simp))) _
        have hrest := ih (wire fs) (fun g hg => hp g (by simp [hg])) (by simp)
        simp only [List.length_cons, recvFrames, recvFrame_frame hscan, frameOf_encoded, hrest,
          List.map_cons]
    simpa using iff_of_true hrun fitsFrom_nil
  | cons c cs ihc =>
    induction frames generalizing buffer with
    | nil =>
      have hempty : buffer ++ (c ++ cs.flatten) = [] := hs
      simp only [List.append_eq_nil_iff] at hempty
      exact absurd hempty.2.1 (hc c (by simp))
    | cons f fs ihf =>
      have hf := encoded_isFrame (hp f (by simp))
      -- the buffer is short of the first frame, or holds it and the start of what follows
      have hpre : buffer <+: f.encoded ++ (fs.map DerpFrame.encoded).flatten :=
        ⟨(c :: cs).flatten, by simpa [wire] using hs⟩
      rcases scan_stream hf hpre with ⟨hlt, hscan⟩ | ⟨r, rfl, -, hscan⟩
      · -- the call has to read
        have hres : residue ((f :: fs).map DerpFrame.size) buffer.length = buffer.length :=
          residue_of_lt (by simpa using hlt)
        rw [fitsFrom_cons, hres]
        rcases Nat.lt_or_ge receiveCapacity (buffer.length + c.length) with hover | hfits
        · have hnone := recvFrame_refused (cs.map .data) hscan (append_of_lt hover)
          refine iff_of_false ?_ (fun h => by omega)
          simp [recvFrames, hnone]
        · have hread := recvFrame_read (cs.map .data) hscan (append_of_le hfits)
          have hstep : recvFrames (f :: fs).length ⟨buffer, some ((c :: cs).map .data)⟩ =
              recvFrames (f :: fs).length ⟨buffer ++ c, some (cs.map .data)⟩ := by
            simp only [List.length_cons, recvFrames, List.map_cons, hread]
          rw [hstep, ihc (f :: fs) (buffer ++ c) hp (fun d hd => hc d (by simp [hd]))
            (by simpa using hs)]
          simp [hfits]
      · -- the frame is already there
        have hrest : r ++ (c :: cs).flatten = wire fs := by simpa [wire] using hs
        have hsize : (f.encoded ++ r).length = f.size + r.length := by simp
        have hfit : FitsFrom ((f :: fs).map DerpFrame.size) (f.size + r.length) (c :: cs) ↔
            FitsFrom (fs.map DerpFrame.size) r.length (c :: cs) := fitsFrom_frame f.size
        rw [hsize, hfit, ← ihf r (fun g hg => hp g (by simp [hg])) hrest]
        simp [recvFrames, recvFrame_frame hscan]

/-- Successive calls return exactly the frames that were encoded if and only if no read
overruns the receive buffer. -/
theorem recvFrames_inverts_encode_iff (frames : List DerpFrame) (chunks : List Bytes)
    (hp : ∀ f ∈ frames, f.payload.length ≤ kMaxFramePayload)
    (hc : ∀ c ∈ chunks, 1 ≤ c.length ∧ c.length ≤ readChunk)
    (hs : chunks.flatten = (frames.map fun f => encode f.type f.payload).flatten) :
    recvFrames frames.length ⟨[], some (chunks.map .data)⟩ = frames.map .got ↔
      FitsReceiveBuffer frames chunks :=
  recvFrames_eq_iff chunks frames [] hp
    (fun c h => List.length_pos_iff.mp (hc c h).1) hs

/-- A ping split over two reads and a keep-alive in the second. -/
theorem recvFrames_inverts_encode_split_ping :
    recvFrames 2 ⟨[], some [.data [0x12, 0, 0], .data [0, 1, 7, 6, 0, 0, 0, 0]]⟩ =
      [.got ⟨0x12, [7]⟩, .got ⟨6, []⟩] ↔
      FitsReceiveBuffer [⟨0x12, [7]⟩, ⟨6, []⟩] [[0x12, 0, 0], [0, 1, 7, 6, 0, 0, 0, 0]] :=
  recvFrames_inverts_encode_iff [⟨0x12, [7]⟩, ⟨6, []⟩] [[0x12, 0, 0], [0, 1, 7, 6, 0, 0, 0, 0]]
    (by simp [kMaxFramePayload]) (by simp [readChunk]) (by decide)

/-- A packet with a payload of `k` bytes and the keep-alive behind it. -/
def packetThenKeepAlive (k : ℕ) : List DerpFrame := [⟨4, List.replicate k 0⟩, ⟨6, []⟩]

/-- Reads of `m + 1` bytes, the last of which completes the packet and brings the keep-alive. -/
def sharedLastRead (a m : ℕ) : List Bytes :=
  (4 :: writeBigEndian32 (a * (m + 1) + m + 1)) ::
    (List.replicate a (List.replicate (m + 1) 0) ++ [List.replicate m 0, 0 :: encode 6 []])

lemma sharedLastRead_flatten (a m : ℕ) :
    (sharedLastRead a m).flatten = wire (packetThenKeepAlive (a * (m + 1) + m + 1)) := by
  have hz : List.replicate (a * (m + 1) + m + 1) (0 : UInt8) =
      List.replicate (a * (m + 1)) 0 ++ (List.replicate m 0 ++ [0]) := by
    rw [Nat.add_assoc, List.replicate_add, List.replicate_add]
    rfl
  simp only [sharedLastRead, wire, packetThenKeepAlive, DerpFrame.encoded, encode,
    List.length_replicate, List.map_cons, List.map_nil]
  rw [hz]
  simp only [List.flatten_cons, List.flatten_append, List.flatten_replicate_replicate,
    List.flatten_nil, List.cons_append, List.append_assoc, List.append_nil, List.nil_append]

lemma sharedLastRead_length {a m : ℕ} (hm : 0 < m) (hmr : m + 1 ≤ readChunk) :
    ∀ c ∈ sharedLastRead a m, 1 ≤ c.length ∧ c.length ≤ readChunk := by
  have hsmall : 6 ≤ readChunk := by decide
  intro c hc
  simp only [sharedLastRead, List.mem_cons, List.mem_append, List.mem_replicate,
    List.not_mem_nil, or_false] at hc
  rcases hc with rfl | ⟨-, rfl⟩ | rfl | rfl
  · simp [writeBigEndian32]
    omega
  · simp [hmr]
  · simp
    omega
  · simp [encode, writeBigEndian32, hsmall]

lemma sharedLastRead_overruns {a m k : ℕ} (hk : a * (m + 1) + m + 1 = k)
    (hcap : receiveCapacity = k + 5) :
    ¬ FitsReceiveBuffer (packetThenKeepAlive k) (sharedLastRead a m) := by
  intro hfits
  have hlast := hfits ((4 :: writeBigEndian32 (a * (m + 1) + m + 1)) ::
    (List.replicate a (List.replicate (m + 1) 0) ++ [List.replicate m 0])) (0 :: encode 6 []) []
    (by simp [sharedLastRead])
  have hlen : ((4 :: writeBigEndian32 (a * (m + 1) + m + 1)) ::
      (List.replicate a (List.replicate (m + 1) (0 : UInt8)) ++
        [List.replicate m 0])).flatten.length = 5 + (a * (m + 1) + m) := by
    simp [writeBigEndian32]
    omega
  have hsizes : (packetThenKeepAlive k).map DerpFrame.size = [5 + k, 5] := by
    simp [packetThenKeepAlive, DerpFrame.size, kDerpFrameHeaderLen]
  rw [hlen, hsizes, residue_of_lt (by omega), hcap] at hlast
  simp [encode, writeBigEndian32] at hlast
  omega

theorem recvFrames_fails_behind_maximal {a m k : ℕ} (hm : 0 < m) (hmr : m + 1 ≤ readChunk)
    (hk : a * (m + 1) + m + 1 = k) (hcap : k = kMaxFramePayload) :
    (∀ f ∈ packetThenKeepAlive k, f.payload.length ≤ kMaxFramePayload) ∧
    (∀ c ∈ sharedLastRead a m, 1 ≤ c.length ∧ c.length ≤ readChunk) ∧
    (sharedLastRead a m).flatten =
      ((packetThenKeepAlive k).map fun f => encode f.type f.payload).flatten ∧
    recvFrames (packetThenKeepAlive k).length ⟨[], some ((sharedLastRead a m).map .data)⟩ ≠
      (packetThenKeepAlive k).map .got := by
  have hp : ∀ f ∈ packetThenKeepAlive k, f.payload.length ≤ kMaxFramePayload := by
    simp [packetThenKeepAlive, hcap]
  have hc := sharedLastRead_length (a := a) hm hmr
  have hs : (sharedLastRead a m).flatten = wire (packetThenKeepAlive k) := by
    rw [← hk]
    exact sharedLastRead_flatten a m
  refine ⟨hp, hc, hs, fun hall => ?_⟩
  have hne : ∀ c ∈ sharedLastRead a m, c ≠ [] := fun c h => List.length_pos_iff.mp (hc c h).1
  have hfits :=
    (recvFrames_eq_iff (sharedLastRead a m) (packetThenKeepAlive k) [] hp hne hs).mp hall
  exact sharedLastRead_overruns hk (by rw [hcap]; rfl) hfits

/-- 511 full reads of a maximal packet, one of 2047 bytes, and one byte with the keep-alive:
the last read is refused although both frames are within the limits. -/
theorem recvFrames_fails_at_maximal_payload :
    (∀ f ∈ packetThenKeepAlive kMaxFramePayload, f.payload.length ≤ kMaxFramePayload) ∧
    (∀ c ∈ sharedLastRead 511 2047, 1 ≤ c.length ∧ c.length ≤ readChunk) ∧
    (sharedLastRead 511 2047).flatten =
      ((packetThenKeepAlive kMaxFramePayload).map fun f => encode f.type f.payload).flatten ∧
    recvFrames (packetThenKeepAlive kMaxFramePayload).length
        ⟨[], some ((sharedLastRead 511 2047).map .data)⟩ ≠
      (packetThenKeepAlive kMaxFramePayload).map .got :=
  recvFrames_fails_behind_maximal (a := 511) (m := 2047) (by decide) (by decide) (by decide) rfl

/-- Frames that leave room for one whole read never meet the cap. -/
theorem fits_of_small_payloads (frames : List DerpFrame) (chunks : List Bytes)
    (hp : ∀ f ∈ frames, f.payload.length + readChunk ≤ kMaxFramePayload + 1)
    (hc : ∀ c ∈ chunks, c.length ≤ readChunk)
    (hs : chunks.flatten.length ≤ (frames.map DerpFrame.size).sum) :
    FitsReceiveBuffer frames chunks := by
  rintro before chunk after rfl
  have hres : ∀ (fs : List DerpFrame) (n : ℕ), n ≤ (fs.map DerpFrame.size).sum →
      (∀ f ∈ fs, f.payload.length + readChunk ≤ kMaxFramePayload + 1) →
      residue (fs.map DerpFrame.size) n + readChunk ≤ receiveCapacity := by
    intro fs
    induction fs with
    | nil =>
      intro n hn _
      simp [residue, readChunk, receiveCapacity, kMaxFramePayload] at hn ⊢
      omega
    | cons f fs ih =>
      intro n hn hfs
      have hf := hfs f (by simp)
      simp only [List.map_cons, List.sum_cons] at hn
      rcases Nat.lt_or_ge n f.size with hlt | hge
      · rw [List.map_cons, residue_of_lt hlt]
        simp only [DerpFrame.size, receiveCapacity] at *
        omega
      · obtain ⟨m, rfl⟩ := Nat.exists_eq_add_of_le hge
        rw [List.map_cons, residue_add]
        exact ih m (by omega) (fun g hg => hfs g (by simp [hg]))
  have hlen := hres frames (0 + before.flatten.length) (by simp at hs ⊢; omega) hp
  have := hc chunk (by simp)
  omega

end ArtemisSwitch.Derp

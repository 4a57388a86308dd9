import ArtemisSwitch.ControlStreaming
import ArtemisSwitch.Library.Pacing

/-!
# What control delivers

Netmaps cut into DATA frames, the frames into Noise records and the records into
reads.  Each DATA frame of the map stream hands out one netmap at most, so the calls
keep up with control only where no frame completes more than there are frames for.
-/

namespace ArtemisSwitch.Noise
open Framing
open Netmap (Key32)

variable {lib : Primitives} {client : NoiseClient}

/-- What is left of a record is shorter than the longest one. -/
lemma Partial.length_lt {key : Key32} {nonce : UInt64} {rest : Bytes} {pieces : List Bytes}
    (h : Partial lib key nonce rest pieces)
    (hpieces : ∀ piece ∈ pieces, piece.length ≤ kMaxPlaintextSize) :
    rest.length < kMaxRecordSize := by
  cases pieces with
  | nil =>
    obtain rfl : rest = [] := h
    decide
  | cons piece pieces =>
    have hle := @sealRecord_length_le lib key nonce piece (hpieces piece (by simp))
    have hlt := h.2
    omega

/-- Reads that leave room for a whole record never overrun the receive buffer. -/
theorem fits_of_small_reads (hlib : lib.Inverts) {chunks pieces : List Bytes}
    (hready : client.ready = true)
    (hpieces : ∀ piece ∈ pieces, piece.length ≤ kMaxPlaintextSize)
    (hchunks : ∀ chunk ∈ chunks, chunk.length + kMaxRecordSize ≤ kMaxBufferedCiphertext)
    (hstart : client.receiveBuffer ++ chunks.flatten <+:
      wire (sealFrom lib client.rxKey client.rxNonce pieces))
    (hpart : Partial lib client.rxKey client.rxNonce client.receiveBuffer pieces) :
    Fits lib client chunks := by
  induction chunks generalizing client pieces with
  | nil =>
    intro before chunk after h
    simp at h
  | cons first chunks ih =>
    -- what is buffered is part of one record, so there is room for the read beside it
    have hroom : client.receiveBuffer.length + first.length ≤ kMaxBufferedCiphertext := by
      have hlt := hpart.length_lt hpieces
      have hle := hchunks first (by simp)
      omega
    have hhead : client.receiveBuffer ++ first <+:
        wire (sealFrom lib client.rxKey client.rxNonce pieces) := by
      refine List.IsPrefix.trans ?_ hstart
      rw [List.flatten_cons, ← List.append_assoc]
      exact List.prefix_append _ _
    obtain ⟨done, todo, rest, rfl, hbuffer, hacc, herr, hclient, hpart'⟩ :=
      consume_stream hlib hready hpieces hroom hhead
    have hstart' : rest ++ chunks.flatten <+:
        wire (sealFrom lib client.rxKey (client.rxNonce + UInt64.ofNat done.length) todo) := by
      rw [List.flatten_cons, ← List.append_assoc, hbuffer, sealFrom_append, wire, wire,
        List.map_append, List.flatten_append, List.append_assoc] at hstart
      exact (List.prefix_append_right_inj _).mp hstart
    have hlater : Fits lib (client.consume lib first true).client chunks := by
      rw [hclient]
      exact @ih { client with
        rxNonce := client.rxNonce + UInt64.ofNat done.length
        receiveBuffer := rest } todo hready (fun piece h => hpieces piece (by simp [h]))
        (fun chunk h => hchunks chunk (by simp [h])) hstart' hpart'
    intro before chunk after h
    cases before with
    | nil =>
      obtain ⟨rfl, -⟩ := List.cons.inj h
      exact hroom
    | cons b before =>
      obtain ⟨rfl, hrest⟩ := List.cons.inj h
      have := hlater before chunk after hrest
      rw [consumeAll]
      simp only [herr]
      rcases hrun : consumeAll lib (client.consume lib first true).client before with
        ⟨error | plaintexts, last⟩
      · simpa [hrun] using this
      · simpa [hrun] using this

lemma length_wire (records : List Record) :
    (wire records).length = (records.map fun record => record.bytes.length).sum := by
  simp [wire, List.length_flatten, Function.comp_def]

/-- The records that so many bytes of ciphertext hold completely. -/
def wholeRecords (lib : Primitives) (key : Key32) (nonce : UInt64) (pieces : List Bytes) (n : ℕ) :
    ℕ :=
  whole ((sealFrom lib key nonce pieces).map fun record => record.bytes.length) n

/-- Calls on a prefix of the stream hand out the pieces whose records are whole. -/
theorem consumeAll_whole (hlib : lib.Inverts) {chunks pieces : List Bytes}
    (hready : client.ready = true)
    (hpieces : ∀ piece ∈ pieces, piece.length ≤ kMaxPlaintextSize)
    (hchunks : ∀ chunk ∈ chunks, chunk.length + kMaxRecordSize ≤ kMaxBufferedCiphertext)
    (hstart : client.receiveBuffer ++ chunks.flatten <+:
      wire (sealFrom lib client.rxKey client.rxNonce pieces))
    (hpart : Partial lib client.rxKey client.rxNonce client.receiveBuffer pieces) :
    ∃ last, consumeAll lib client chunks = (.ok (pieces.take (wholeRecords lib client.rxKey
      client.rxNonce pieces (client.receiveBuffer.length + chunks.flatten.length))), last) := by
  obtain ⟨done, todo, rest, rfl, hbuffer, hrun, hpart'⟩ := consumeAll_stream hlib hready hpieces
    (fits_of_small_reads hlib hready hpieces hchunks hstart hpart) hstart hpart
  have hlength : client.receiveBuffer.length + chunks.flatten.length =
      ((sealFrom lib client.rxKey client.rxNonce done).map
        fun record => record.bytes.length).sum + rest.length := by
    have h := congrArg List.length hbuffer
    rwa [List.length_append, List.length_append, length_wire] at h
  -- the rest is part of the next record, which it therefore does not complete
  have hnone : whole ((sealFrom lib client.rxKey (client.rxNonce + UInt64.ofNat done.length)
      todo).map fun record => record.bytes.length) rest.length = 0 := by
    cases todo with
    | nil => rfl
    | cons piece todo => exact whole_of_lt hpart'.2
  have htake : (done ++ todo).take (wholeRecords lib client.rxKey client.rxNonce (done ++ todo)
      (client.receiveBuffer.length + chunks.flatten.length)) = done := by
    rw [wholeRecords, sealFrom_append, List.map_append, hlength, whole_append, hnone,
      List.length_map, length_sealFrom, Nat.add_zero, List.take_left]
  rw [htake]
  exact ⟨_, hrun⟩

end ArtemisSwitch.Noise

namespace ArtemisSwitch.Control
open Transport Http2 Framing Pacing TailscaleControlSession
open Netmap hiding zeroKey
open Noise (Primitives NoiseClient)

variable {lib : Primitives} {parse : Bytes → Option Json}

/-! ## The map stream -/

/-- The payloads of the DATA frames of the map stream. -/
def mapLoads (mapStreamId : ℕ) (frames : List Http2Frame) : List Bytes :=
  (frames.filter (isMapData mapStreamId)).map Http2Frame.payload

/-- The codec makes these updates of these texts, one after the other. -/
def Accepts (parse : Bytes → Option Json) : StableIds → List Bytes → List MapUpdate → Prop
  | _, [], [] => True
  | ids, json :: messages, update :: updates =>
    (decode parse ids json).1 = .returned update ∧
      Accepts parse (decode parse ids json).2 messages updates
  | _, _, _ => False

/-- The sizes of netmap frames on the map stream. -/
def sizes (messages : List Bytes) : List ℕ :=
  messages.map fun json => (MapFrameDecoder.encoded json).length

lemma sizes_nil : sizes [] = [] := rfl

lemma sizes_cons (json : Bytes) (messages : List Bytes) :
    sizes (json :: messages) = (MapFrameDecoder.encoded json).length :: sizes messages := rfl

lemma mapLoads_cons_of_data {mapStreamId : ℕ} {frame : Http2Frame} {frames : List Http2Frame}
    (h : isMapData mapStreamId frame = true) :
    mapLoads mapStreamId (frame :: frames) = frame.payload :: mapLoads mapStreamId frames := by
  simp [mapLoads, h]

lemma mapLoads_cons_of_other {mapStreamId : ℕ} {frame : Http2Frame} {frames : List Http2Frame}
    (h : ¬ isMapData mapStreamId frame = true) :
    mapLoads mapStreamId (frame :: frames) = mapLoads mapStreamId frames := by
  simp [mapLoads, h]

/-- What the calls return once so many netmaps are complete: those, and then they wait. -/
def expected (updates : List MapUpdate) (n : ℕ) : List Polled :=
  (updates.take n).map (fun update => .returned (pollResult update)) ++ [.blocked]

lemma expected_succ (update : MapUpdate) (updates : List MapUpdate) (n : ℕ) :
    expected (update :: updates) (n + 1) =
      .returned (pollResult update) :: expected updates n := rfl

/-- No list of expected outcomes starts with a failure. -/
lemma expected_ne_failed (updates : List MapUpdate) (n : ℕ) (outcomes : List Polled) :
    .failed :: outcomes ≠ expected updates n := by
  rcases updates with _ | ⟨update, updates⟩
  · simp [expected]
  · cases n with
    | zero => simp [expected]
    | succ n => simp [expected_succ]

section Calls

variable {session session' : TailscaleControlSession} {records : List Bytes}
  {frames : List Http2Frame} {messages : List Bytes} {updates : List MapUpdate}
  {loads loads' : List ℕ}

/-- The number of netmaps that these loads complete. -/
def completed (session : TailscaleControlSession) (loads : List ℕ) (messages : List Bytes) : ℕ :=
  whole (sizes messages) (session.mapFrameDecoder.length + loads.sum)

/-- The calls return all netmaps that these loads complete, and the next one waits. -/
def Delivers (lib : Primitives) (parse : Bytes → Option Json) (session : TailscaleControlSession)
    (loads : List ℕ) (messages : List Bytes) (updates : List MapUpdate) : Prop :=
  session.polls lib parse (completed session loads messages + 1) =
    expected updates (completed session loads messages)

/-- Only the first call looks at the session. -/
lemma delivers_congr (hpoll : session.poll lib parse true = session'.poll lib parse true)
    (hsum : session.mapFrameDecoder.length + loads.sum =
      session'.mapFrameDecoder.length + loads'.sum) :
    Delivers lib parse session loads messages updates ↔
      Delivers lib parse session' loads' messages updates := by
  unfold Delivers completed
  rw [hsum, polls, polls, hpoll]

lemma not_delivers_of_failed (hpoll : (session.poll lib parse true).1 = .failed) :
    ¬ Delivers lib parse session loads messages updates := by
  unfold Delivers
  rw [polls, hpoll]
  exact expected_ne_failed _ _ _

lemma delivers_returned {json : Bytes} {update : MapUpdate}
    (hpoll : session.poll lib parse true = (.returned (pollResult update), session'))
    (hsum : session.mapFrameDecoder.length + loads.sum =
      (MapFrameDecoder.encoded json).length + (session'.mapFrameDecoder.length + loads'.sum)) :
    Delivers lib parse session loads (json :: messages) (update :: updates) ↔
      Delivers lib parse session' loads' messages updates := by
  have hcompleted : completed session loads (json :: messages) =
      completed session' loads' messages + 1 := by
    rw [completed, hsum]
    exact whole_add _ _ _
  unfold Delivers
  rw [hcompleted, polls, hpoll, expected_succ]
  exact List.cons_inj_right _

/-- Without frames ahead nothing is delivered but what is expected of an empty stream. -/
lemma delivers_noFrames (h : Streaming lib session records)
    (hframes : framesAhead session.http2Decoder records = [])
    (haccepts : Accepts parse session.mapCodec messages updates) :
    Delivers lib parse session [] messages updates ↔
      whole (sizes messages) session.mapFrameDecoder.length = 0 := by
  obtain ⟨session', hloop, -⟩ := pollLoop_blocked h hframes
  unfold Delivers completed
  rw [List.sum_nil, Nat.add_zero, polls, poll_streaming h, hloop]
  rcases hcomplete : whole (sizes messages) session.mapFrameDecoder.length with _ | n
  · exact iff_of_true rfl rfl
  · refine iff_of_false ?_ (by omega)
    cases messages with
    | nil => simp [sizes] at hcomplete
    | cons json messages =>
      cases updates with
      | nil => exact haccepts.elim
      | cons update updates => simp [expected_succ, finish]

/-! ## One frame -/

lemma frameStep_refused {mapStreamId : ℕ} {buffer : Bytes} {frame : Http2Frame}
    (hdata : isMapData mapStreamId frame = true)
    (hover : mapCapacity < buffer.length + frame.payload.length) :
    frameStep mapStreamId buffer frame = (.failed, []) := by
  rw [frameStep, if_pos hdata, mapStep, if_pos hover]

lemma frameStep_kept {mapStreamId : ℕ} {buffer : Bytes} {frame : Http2Frame}
    (hdata : isMapData mapStreamId frame = true)
    (hfits : buffer.length + frame.payload.length ≤ mapCapacity)
    (hscan : MapFrameDecoder.format.scan (buffer ++ frame.payload) = .short) :
    frameStep mapStreamId buffer frame = (.next, buffer ++ frame.payload) := by
  rw [frameStep, if_pos hdata, mapStep, if_neg (Nat.not_lt.mpr hfits), hscan]

lemma frameStep_completes {mapStreamId : ℕ} {buffer json rest : Bytes} {frame : Http2Frame}
    (hdata : isMapData mapStreamId frame = true)
    (hfits : buffer.length + frame.payload.length ≤ mapCapacity)
    (hscan : MapFrameDecoder.format.scan (buffer ++ frame.payload) =
      .frame (MapFrameDecoder.encoded json) rest) :
    frameStep mapStreamId buffer frame = (.record json, rest) := by
  rw [frameStep, if_pos hdata, mapStep, if_neg (Nat.not_lt.mpr hfits), hscan]
  simp only [MapFrameDecoder.drop_encoded]

/-- A frame that hands nothing out is as good as gone. -/
lemma poll_next {frame : Http2Frame} {buffer : Bytes} (h : Streaming lib session records)
    (hframes : framesAhead session.http2Decoder records = frame :: frames)
    (hstep : frameStep session.mapStreamId session.mapFrameDecoder frame = (.next, buffer)) :
    ∃ session' records', session.poll lib parse true = session'.poll lib parse true ∧
      Streaming lib session' records' ∧ framesAhead session'.http2Decoder records' = frames ∧
      session'.mapFrameDecoder = buffer ∧ session'.mapCodec = session.mapCodec ∧
      session'.mapStreamId = session.mapStreamId := by
  obtain ⟨session', records', hloop, hstreaming, hahead, hmap, hkept⟩ := pollLoop_frame h hframes
  rw [hstep] at hloop hmap
  refine ⟨session', records', ?_, hstreaming, hahead, hmap, hkept⟩
  rw [poll_streaming h, poll_streaming hstreaming, hloop]
  rfl

lemma poll_refused {frame : Http2Frame} {buffer : Bytes} (h : Streaming lib session records)
    (hframes : framesAhead session.http2Decoder records = frame :: frames)
    (hstep : frameStep session.mapStreamId session.mapFrameDecoder frame = (.failed, buffer)) :
    (session.poll lib parse true).1 = .failed := by
  obtain ⟨session', records', hloop, -⟩ := pollLoop_frame h hframes
  rw [hstep] at hloop
  rw [poll_streaming h, hloop]
  rfl

/-- A frame that completes a netmap ends the call. -/
lemma poll_completes {frame : Http2Frame} {json rest : Bytes} {update : MapUpdate}
    (h : Streaming lib session records)
    (hframes : framesAhead session.http2Decoder records = frame :: frames)
    (hstep : frameStep session.mapStreamId session.mapFrameDecoder frame = (.record json, rest))
    (hdecode : (decode parse session.mapCodec json).1 = .returned update) :
    ∃ session' records',
      session.poll lib parse true = (.returned (pollResult update), session') ∧
      Streaming lib session' records' ∧ framesAhead session'.http2Decoder records' = frames ∧
      session'.mapFrameDecoder = rest ∧
      session'.mapCodec = (decode parse session.mapCodec json).2 ∧
      session'.mapStreamId = session.mapStreamId := by
  obtain ⟨session', records', hloop, hstreaming, hahead, hmap, hcodec, hstream⟩ :=
    pollLoop_frame h hframes
  rw [hstep] at hloop hmap
  refine ⟨{ session' with mapCodec := (decode parse session.mapCodec json).2 }, records', ?_,
    ⟨hstreaming.ready, hstreaming.recordReader, hstreaming.stream⟩, hahead, hmap, rfl, hstream⟩
  rw [poll_streaming h, hloop]
  simp only [afterFrame, finish, deliver, hcodec, hdecode]

/-- The buffer of the map stream holds the start of the netmaps, and the frames go on with it. -/
def Carries (buffer : Bytes) (payloads messages : List Bytes) : Prop :=
  buffer ++ payloads.flatten <+: (messages.map MapFrameDecoder.encoded).flatten

/-- A frame that hands nothing out leaves the calls what they were. -/
lemma delivers_next {frame : Http2Frame} {buffer : Bytes} (h : Streaming lib session records)
    (hframes : framesAhead session.http2Decoder records = frame :: frames)
    (hstep : frameStep session.mapStreamId session.mapFrameDecoder frame = (.next, buffer))
    (hsum : session.mapFrameDecoder.length + loads.sum = buffer.length + loads'.sum) :
    ∃ session' records', Streaming lib session' records' ∧
      framesAhead session'.http2Decoder records' = frames ∧ session'.mapFrameDecoder = buffer ∧
      session'.mapCodec = session.mapCodec ∧ session'.mapStreamId = session.mapStreamId ∧
      (Delivers lib parse session loads messages updates ↔
        Delivers lib parse session' loads' messages updates) := by
  obtain ⟨session', records', hpoll, hstreaming, hahead, hmap, hcodec, hstream⟩ :=
    poll_next h hframes hstep
  refine ⟨session', records', hstreaming, hahead, hmap, hcodec, hstream, ?_⟩
  apply delivers_congr hpoll
  rw [hsum, hmap]

/-- A frame that completes the first netmap: one call returns it, the others go on behind. -/
lemma delivers_completes {frame : Http2Frame} {json rest : Bytes} {update : MapUpdate}
    (h : Streaming lib session records)
    (hframes : framesAhead session.http2Decoder records = frame :: frames)
    (hstep : frameStep session.mapStreamId session.mapFrameDecoder frame = (.record json, rest))
    (hbuffer : session.mapFrameDecoder ++ frame.payload = MapFrameDecoder.encoded json ++ rest)
    (hdecode : (decode parse session.mapCodec json).1 = .returned update) :
    ∃ session' records', Streaming lib session' records' ∧
      framesAhead session'.http2Decoder records' = frames ∧ session'.mapFrameDecoder = rest ∧
      session'.mapCodec = (decode parse session.mapCodec json).2 ∧
      session'.mapStreamId = session.mapStreamId ∧
      (Delivers lib parse session (frame.payload.length :: loads) (json :: messages)
          (update :: updates) ↔
        Delivers lib parse session' loads messages updates) := by
  obtain ⟨session', records', hpoll, hstreaming, hahead, hmap, hcodec, hstream⟩ :=
    poll_completes h hframes hstep hdecode
  refine ⟨session', records', hstreaming, hahead, hmap, hcodec, hstream, ?_⟩
  apply delivers_returned hpoll
  have hlength := congrArg List.length hbuffer
  rw [List.length_append, List.length_append] at hlength
  rw [hmap, List.sum_cons]
  omega

/-- From a buffer that holds the start of the map stream, the calls return what the frames
complete exactly when the buffer serves all of it. -/
theorem delivers_iff_serves (h : Streaming lib session records)
    (hframes : framesAhead session.http2Decoder records = frames)
    (haccepts : Accepts parse session.mapCodec messages updates)
    (hmessages : ∀ json ∈ messages, json.length ≤ MapFrameDecoder.kMaxFrameSize)
    (hcarries : Carries session.mapFrameDecoder (mapLoads session.mapStreamId frames) messages) :
    Delivers lib parse session ((mapLoads session.mapStreamId frames).map List.length) messages
        updates ↔
      Serves mapCapacity ((mapLoads session.mapStreamId frames).map List.length) (sizes messages)
        session.mapFrameDecoder.length := by
  -- over the frames ahead: a call that returns nothing still uses its frame up
  induction frames generalizing session records messages updates with
  | nil => exact delivers_noFrames h hframes haccepts
  | cons frame frames ih =>
    have hnext {buffer : Bytes} {loads : List ℕ}
        (hstep : frameStep session.mapStreamId session.mapFrameDecoder frame = (.next, buffer))
        (hsum : session.mapFrameDecoder.length + loads.sum =
          buffer.length + ((mapLoads session.mapStreamId frames).map List.length).sum)
        (hcarries' : Carries buffer (mapLoads session.mapStreamId frames) messages) :
        Delivers lib parse session loads messages updates ↔
          Serves mapCapacity ((mapLoads session.mapStreamId frames).map List.length)
            (sizes messages) buffer.length := by
      obtain ⟨session', records', hstreaming, hahead, rfl, hcodec, hstream, hdelivers⟩ :=
        delivers_next h hframes hstep hsum
      have hrest := ih hstreaming hahead (by rw [hcodec]; exact haccepts) hmessages
        (by rw [hstream]; exact hcarries')
      rw [hstream] at hrest
      exact hdelivers.trans hrest
    by_cases hdata : isMapData session.mapStreamId frame = true
    · rw [mapLoads_cons_of_data hdata] at hcarries ⊢
      rw [Carries, List.flatten_cons, ← List.append_assoc] at hcarries
      have hpayload : session.mapFrameDecoder ++ frame.payload <+:
          (messages.map MapFrameDecoder.encoded).flatten :=
        (List.prefix_append _ _).trans hcarries
      rw [List.map_cons]
      rcases Nat.lt_or_ge mapCapacity (session.mapFrameDecoder.length + frame.payload.length)
        with hover | hfits
      · have hfailed : (session.poll lib parse true).1 = .failed :=
          poll_refused h hframes (frameStep_refused hdata hover)
        refine iff_of_false (not_delivers_of_failed hfailed) (fun hserves => ?_)
        have := le_of_serves_cons hserves
        omega
      · -- a payload that completes nothing is kept
        have hkept (hscan : MapFrameDecoder.format.scan
            (session.mapFrameDecoder ++ frame.payload) = .short) :=
          @hnext _ (frame.payload.length :: (mapLoads session.mapStreamId frames).map List.length)
            (frameStep_kept hdata hfits hscan) (by simp [Nat.add_assoc]) hcarries
        cases messages with
        | nil =>
          have hnil : session.mapFrameDecoder ++ frame.payload = [] := by simpa using hpayload
          rw [hkept (by rw [hnil, scan_nil]), List.length_append, sizes_nil,
            serves_nil_cons, and_iff_right hfits]
        | cons json messages =>
          have hframe := MapFrameDecoder.encoded_isFrame (hmessages json (by simp))
          rcases scan_stream hframe hpayload with ⟨hlt, hscan⟩ | ⟨r, hbuffer, hr, hscan⟩
          · rw [List.length_append] at hlt
            rw [hkept hscan, List.length_append, sizes_cons, serves_kept hlt, and_iff_right hfits]
          · -- whatever else the payload completes, the call ends with this netmap
            match updates, haccepts with
            | update :: updates, ⟨hdecode, haccepts'⟩ =>
              obtain ⟨session', records', hstreaming, hahead, rfl, hcodec, hstream, hdelivers⟩ :=
                delivers_completes h hframes (frameStep_completes hdata hfits hscan) hbuffer hdecode
              have hlength : session.mapFrameDecoder.length + frame.payload.length =
                  (MapFrameDecoder.encoded json).length + session'.mapFrameDecoder.length := by
                rw [← List.length_append, hbuffer, List.length_append]
              have hcarries' : Carries session'.mapFrameDecoder
                  (mapLoads session'.mapStreamId frames) messages := by
                rw [hbuffer, List.append_assoc] at hcarries
                rw [hstream]
                exact (List.prefix_append_right_inj _).mp hcarries
              have hrest := ih hstreaming hahead (by rw [hcodec]; exact haccepts')
                (fun later hlater => hmessages later (by simp [hlater])) hcarries'
              rw [hstream] at hrest
              rw [hdelivers, hrest, sizes_cons, serves_taken (by omega), and_iff_right hfits,
                hlength, Nat.add_sub_cancel_left]
    · -- a frame of another stream or type, which holds nothing of the netmaps
      rw [mapLoads_cons_of_other hdata] at hcarries ⊢
      exact hnext (if_neg hdata) rfl hcarries

end Calls

/-! ## Four framings -/

/-- One way in which control sends netmaps to an open session: cut into frames, the frames
into records, the records into reads.  Part of it may have arrived before. -/
structure Delivery (lib : Primitives) (parse : Bytes → Option Json) where
  session : TailscaleControlSession
  client : NoiseClient
  connection : Connection
  messages : List Bytes
  updates : List MapUpdate
  frames : List Http2Frame
  pieces : List Bytes
  chunks : List Bytes
  ready : session.ready = true
  recordReader : session.recordReader = none
  noise : session.noise = some client
  clientReady : client.ready = true
  transport : session.transport = some connection
  takesAll : connection.TakesAll
  mapFrameDecoder : session.mapFrameDecoder = []
  accepts : Accepts parse session.mapCodec messages updates
  messages_le : ∀ json ∈ messages, json.length ≤ MapFrameDecoder.kMaxFrameSize
  legal : ∀ frame ∈ frames, frame.Legal
  inFrames : (mapLoads session.mapStreamId frames).flatten =
    (messages.map MapFrameDecoder.encoded).flatten
  inRecords : session.http2Decoder ++ (session.plaintextQueue ++ pieces).flatten =
    (frames.map Http2Frame.encoded).flatten
  pieces_le : ∀ piece ∈ session.plaintextQueue ++ pieces, piece.length ≤ Noise.kMaxPlaintextSize
  inReads : client.receiveBuffer ++ chunks.flatten =
    Noise.wire (Noise.sealFrom lib client.rxKey client.rxNonce pieces)
  receiveBuffer : Noise.Partial lib client.rxKey client.rxNonce client.receiveBuffer pieces
  chunks_le : ∀ chunk ∈ chunks, 0 < chunk.length ∧ chunk.length ≤ kReadChunk

namespace Delivery
variable (d : Delivery lib parse)

/-- The session when these reads are all that has come. -/
def received (before : List Bytes) : TailscaleControlSession :=
  d.session.reading (before.map .data)

/-- The records that are complete by then. -/
def recordsIn (before : List Bytes) : List Bytes :=
  d.session.plaintextQueue ++ d.pieces.take (Noise.wholeRecords lib d.client.rxKey d.client.rxNonce
    d.pieces (d.client.receiveBuffer.length + before.flatten.length))

/-- The frames that are complete in those. -/
def framesIn (before : List Bytes) : List Http2Frame :=
  d.frames.take (whole (d.frames.map fun frame => frame.encoded.length)
    (d.session.http2Decoder.length + (d.recordsIn before).flatten.length))

/-- The sizes of the DATA frames of the map stream among them. -/
def loads (before : List Bytes) : List ℕ :=
  (mapLoads d.session.mapStreamId (d.framesIn before)).map List.length

/-- After every read the DATA frames have kept pace with the netmaps, and have fitted the
buffer of the map stream. -/
def KeepsUp : Prop :=
  ∀ before after, d.chunks = before ++ after →
    KeepsPace (sizes d.messages) (d.loads before) ∧
      FitsBuffer mapCapacity (sizes d.messages) (d.loads before)

variable {d} {before after : List Bytes}

lemma streaming (hlib : lib.Inverts) (h : d.chunks = before ++ after) :
    Streaming lib (d.received before) (d.recordsIn before) := by
  have hstart : d.client.receiveBuffer ++ before.flatten <+:
      Noise.wire (Noise.sealFrom lib d.client.rxKey d.client.rxNonce d.pieces) := by
    rw [← d.inReads, h, List.flatten_append, ← List.append_assoc]
    exact List.prefix_append _ _
  have hroom : ∀ chunk ∈ before,
      chunk.length + Noise.kMaxRecordSize ≤ Noise.kMaxBufferedCiphertext := by
    intro chunk hchunk
    have hle := (d.chunks_le chunk (by rw [h]; exact List.mem_append_left _ hchunk)).2
    simp only [kReadChunk, Noise.kMaxRecordSize, Noise.kMaxBufferedCiphertext] at hle ⊢
    omega
  obtain ⟨last, hconsume⟩ := Noise.consumeAll_whole hlib d.clientReady
    (fun piece hpiece => d.pieces_le piece (List.mem_append_right _ hpiece)) hroom hstart
    d.receiveBuffer
  refine ⟨d.ready, d.recordReader, d.client, { d.connection with reads := before.map .data },
    before, _, last, d.noise, d.clientReady, ?_, d.takesAll, rfl, hconsume, rfl⟩
  simp [received, reading, d.transport]

lemma framesAhead_eq (before : List Bytes) :
    framesAhead (d.received before).http2Decoder (d.recordsIn before) = d.framesIn before := by
  have hframes : ∀ u ∈ d.frames.map Http2Frame.encoded, Http2.format.IsFrame u := by
    intro u hu
    obtain ⟨frame, hframe, rfl⟩ := List.mem_map.mp hu
    exact (d.legal frame hframe).isFrame
  have hrecords : ∀ record ∈ d.recordsIn before, record.length ≤ Noise.kMaxPlaintextSize := by
    intro record hrecord
    apply d.pieces_le
    rcases List.mem_append.mp hrecord with hqueue | hpiece
    · exact List.mem_append_left _ hqueue
    · exact List.mem_append_right _ (List.mem_of_mem_take hpiece)
  -- a legal frame and one more record fit the decoder's buffer
  have hroom : ∀ u ∈ d.frames.map Http2Frame.encoded, ∀ record ∈ d.recordsIn before,
      u.length + record.length ≤ http2Capacity := by
    intro u hu record hrecord
    obtain ⟨frame, hframe, rfl⟩ := List.mem_map.mp hu
    have hlegal := d.legal frame hframe
    have hlength := hlegal.length_le
    have hle := hrecords record hrecord
    rw [length_encoded, ← hlegal.length_eq]
    simp only [defaultMaxFrameSize, Noise.kMaxPlaintextSize, http2Capacity,
      Http2FrameDecoder.kMaxFrameSize] at hlength hle ⊢
    omega
  have hstart : d.session.http2Decoder ++ (d.recordsIn before).flatten <+:
      (d.frames.map Http2Frame.encoded).flatten := by
    rw [← d.inRecords]
    refine (List.prefix_append_right_inj _).mpr ⟨(d.pieces.drop (Noise.wholeRecords lib
      d.client.rxKey d.client.rxNonce d.pieces
      (d.client.receiveBuffer.length + before.flatten.length))).flatten, ?_⟩
    rw [recordsIn, ← List.flatten_append, List.append_assoc, List.take_append_drop]
  have hdecoded : (d.frames.map Http2Frame.encoded).map frameOf = d.frames := by
    rw [List.map_map]
    exact (List.map_congr_left fun frame hframe => frameOf_encoded (d.legal frame hframe)).trans
      (List.map_id _)
  rw [framesAhead, received, reading, found_stream hframes hroom hstart, List.map_take, hdecoded,
    List.map_map]
  rfl

lemma carries (before : List Bytes) :
    Carries (d.received before).mapFrameDecoder
      (mapLoads (d.received before).mapStreamId (d.framesIn before)) d.messages := by
  have hbuffer : (d.received before).mapFrameDecoder = [] := d.mapFrameDecoder
  have hsplit : mapLoads d.session.mapStreamId d.frames =
      mapLoads d.session.mapStreamId (d.framesIn before) ++
        mapLoads d.session.mapStreamId (d.frames.drop (whole (d.frames.map fun frame =>
          frame.encoded.length) (d.session.http2Decoder.length +
            (d.recordsIn before).flatten.length))) := by
    rw [mapLoads, mapLoads, mapLoads, framesIn, ← List.map_append, ← List.filter_append,
      List.take_append_drop]
  rw [Carries, hbuffer, List.nil_append, ← d.inFrames, hsplit, List.flatten_append]
  exact List.prefix_append _ _

lemma sizes_pos : ∀ s ∈ sizes d.messages, 0 < s := by
  intro s hs
  obtain ⟨json, -, rfl⟩ := List.mem_map.mp hs
  rw [MapFrameDecoder.length_encoded]
  omega

/-- In the end everything is complete. -/
lemma completed_all : completed d.session (d.loads d.chunks) d.messages = d.messages.length := by
  have hrecords : d.recordsIn d.chunks = d.session.plaintextQueue ++ d.pieces := by
    have hlength := congrArg List.length d.inReads
    rw [List.length_append, Noise.length_wire] at hlength
    rw [recordsIn, hlength, Noise.wholeRecords, whole_sum, List.length_map, Noise.length_sealFrom,
      List.take_length]
  have hframes : d.framesIn d.chunks = d.frames := by
    have hlength : d.session.http2Decoder.length +
        (d.session.plaintextQueue ++ d.pieces).flatten.length =
          (d.frames.map fun frame => frame.encoded.length).sum := by
      have h := congrArg List.length d.inRecords
      rw [List.length_append] at h
      rw [h, List.length_flatten, List.map_map]
      rfl
    rw [framesIn, hrecords, hlength]
    have hall := whole_sum (d.frames.map fun frame => frame.encoded.length)
    rw [List.length_map] at hall
    exact (congrArg (List.take · d.frames) hall).trans List.take_length
  have hloads : (d.loads d.chunks).sum = (sizes d.messages).sum := by
    rw [loads, hframes, ← List.length_flatten, d.inFrames, List.length_flatten, List.map_map]
    rfl
  rw [completed, d.mapFrameDecoder, hloads, List.length_nil, Nat.zero_add, whole_sum, sizes,
    List.length_map]

end Delivery

/-- After every read the calls return the netmaps whose DATA frames have come in whole, each
once and in order, and then wait, exactly when the DATA frames keep pace with the netmaps and
fit the buffer; behind the last read those are all netmaps. -/
theorem polls_deliver_iff_keepsUp (hlib : lib.Inverts) (d : Delivery lib parse) :
    completed d.session (d.loads d.chunks) d.messages = d.messages.length ∧
    ((∀ before after, d.chunks = before ++ after →
        Delivers lib parse (d.received before) (d.loads before) d.messages d.updates) ↔
      d.KeepsUp) := by
  refine ⟨Delivery.completed_all, forall_congr' fun before => forall_congr' fun after => ?_⟩
  apply imp_congr_right
  intro hchunks
  have hserves := delivers_iff_serves (Delivery.streaming hlib hchunks)
    (Delivery.framesAhead_eq before) d.accepts d.messages_le (Delivery.carries before)
  have hbuffer : (d.received before).mapFrameDecoder = [] := d.mapFrameDecoder
  rw [hbuffer] at hserves
  exact hserves.trans (serves_iff Delivery.sizes_pos)

/-! ## Netmaps that share a frame -/

/-- One DATA frame with `n` keep-alives. -/
def keepAliveFrame (n : ℕ) : Http2Frame :=
  let payload := (List.replicate n (MapFrameDecoder.encoded keepAliveText)).flatten
  ⟨payload.length, 0x00, 0x00, 1, payload⟩

lemma length_keepAliveFrame (n : ℕ) : (keepAliveFrame n).payload.length = n * 22 := by
  have hone : (MapFrameDecoder.encoded keepAliveText).length = 22 := by decide +kernel
  simp [keepAliveFrame, List.length_flatten, hone]

lemma accepts_keepAlives (n : ℕ) : Accepts keepAliveParse ∅ (List.replicate n keepAliveText)
    (List.replicate n { keepAlive := true }) := by
  induction n with
  | zero => trivial
  | succ n ih => exact ⟨rfl, ih⟩

lemma keepAliveText_le : keepAliveText.length ≤ MapFrameDecoder.kMaxFrameSize := by decide +kernel

section
variable {n : ℕ} (hn : n ≤ 90)
include hn

lemma length_keepAliveFrame_le : (keepAliveFrame n).payload.length ≤ 16384 := by
  rw [length_keepAliveFrame]
  omega

lemma length_keepAlivePiece_le : (keepAliveFrame n).encoded.length ≤ Noise.kMaxPlaintextSize := by
  rw [length_encoded, length_keepAliveFrame]
  simp only [kHttp2HeaderLen, Noise.kMaxPlaintextSize]
  omega

lemma length_keepAliveChunk {chunk : Bytes} (hchunk : chunk = Noise.wire
    (Noise.sealFrom Noise.toyLibrary Noise.zeroKey 0 [(keepAliveFrame n).encoded])) :
    0 < chunk.length ∧ chunk.length ≤ kReadChunk := by
  subst hchunk
  have hlength := length_keepAliveFrame n
  simp only [Noise.length_wire, Noise.sealFrom, List.map_cons, List.map_nil, List.sum_cons,
    List.sum_nil, Noise.length_sealRecord, length_encoded, kHttp2HeaderLen, kReadChunk]
  omega

end

/-- The frame in one record, and the record in one read. -/
def keepAlives (n : ℕ) (hn : n ≤ 90) : Delivery Noise.toyLibrary keepAliveParse where
  session := receivingSession []
  client := Noise.readyClient
  connection := { reads := [] }
  messages := List.replicate n keepAliveText
  updates := List.replicate n { keepAlive := true }
  frames := [keepAliveFrame n]
  pieces := [(keepAliveFrame n).encoded]
  chunks := [Noise.wire (Noise.sealFrom Noise.toyLibrary Noise.zeroKey 0
    [(keepAliveFrame n).encoded])]
  ready := rfl
  recordReader := rfl
  noise := rfl
  clientReady := rfl
  transport := rfl
  takesAll := by
    intro answer hanswer
    cases hanswer
  mapFrameDecoder := rfl
  accepts := accepts_keepAlives n
  messages_le := by
    intro json hjson
    rw [List.eq_of_mem_replicate hjson]
    exact keepAliveText_le
  legal := by
    intro frame hframe
    obtain rfl := List.mem_singleton.mp hframe
    exact ⟨rfl, length_keepAliveFrame_le hn, (by decide : 1 < 2147483648)⟩
  inFrames := by
    rw [List.map_replicate]
    exact List.append_nil _
  inRecords := rfl
  pieces_le := by
    intro piece hpiece
    obtain rfl := List.mem_singleton.mp hpiece
    exact length_keepAlivePiece_le hn
  inReads := List.append_nil _
  receiveBuffer := Noise.partial_nil _
  chunks_le := by
    intro chunk hchunk
    exact length_keepAliveChunk hn (List.mem_singleton.mp hchunk)

theorem polls_deliver_keepAlive :
    completed (receivingSession []) ((keepAlives 1 (by decide)).loads
        (keepAlives 1 (by decide)).chunks) [keepAliveText] = 1 ∧
    ((∀ before after, (keepAlives 1 (by decide)).chunks = before ++ after →
        Delivers Noise.toyLibrary keepAliveParse ((keepAlives 1 (by decide)).received before)
          ((keepAlives 1 (by decide)).loads before) [keepAliveText] [{ keepAlive := true }]) ↔
      (keepAlives 1 (by decide)).KeepsUp) :=
  polls_deliver_iff_keepsUp Noise.toyLibrary_inverts (keepAlives 1 (by decide))

/-- Two netmaps in one DATA frame: the first is returned, and the call for the second waits
for the network although all of it is there. -/
theorem second_netmap_waits :
    completed (receivingSession []) ((keepAlives 2 (by decide)).loads
        (keepAlives 2 (by decide)).chunks) [keepAliveText, keepAliveText] = 2 ∧
    ((keepAlives 2 (by decide)).received (keepAlives 2 (by decide)).chunks).polls Noise.toyLibrary
      keepAliveParse 2 = [.returned {}, .blocked] ∧
    ¬ ∀ before after, (keepAlives 2 (by decide)).chunks = before ++ after →
      Delivers Noise.toyLibrary keepAliveParse ((keepAlives 2 (by decide)).received before)
        ((keepAlives 2 (by decide)).loads before) [keepAliveText, keepAliveText]
        [{ keepAlive := true }, { keepAlive := true }] := by
  have hcompleted := (keepAlives 2 (by decide)).completed_all
  have hpolls : ((keepAlives 2 (by decide)).received (keepAlives 2 (by decide)).chunks).polls
      Noise.toyLibrary keepAliveParse 3 = [.returned {}, .blocked, .blocked] :=
    polls_of_within 9 (by decide +kernel)
  refine ⟨hcompleted, polls_of_within 9 (by decide +kernel), fun hall => ?_⟩
  have hdelivers := hall _ [] (List.append_nil _).symm
  have hcompleted' : completed
      ((keepAlives 2 (by decide)).received (keepAlives 2 (by decide)).chunks)
      ((keepAlives 2 (by decide)).loads (keepAlives 2 (by decide)).chunks)
      [keepAliveText, keepAliveText] = 2 := hcompleted
  rw [Delivers, hcompleted', hpolls] at hdelivers
  exact absurd hdelivers (by decide)

end ArtemisSwitch.Control

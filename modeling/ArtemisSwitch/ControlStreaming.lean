import ArtemisSwitch.ControlSession
import ArtemisSwitch.NoiseFailStop

/-!
# A session whose connection holds

Records that authenticate and a transport that takes what is written: then the
rounds of `poll` come down to the HTTP/2 frames that are found in the records, and
each frame to what it does to the buffer of the map stream.
-/

namespace ArtemisSwitch.Control
open Transport Http2 Framing
open Netmap hiding zeroKey
open Noise (Primitives NoiseClient)

variable {lib : Primitives}

/-! ## Sending does not disturb receiving -/

lemma fail_txNonce (client : NoiseClient) (nonce : UInt64) :
    NoiseClient.fail { client with txNonce := nonce } = { client.fail with txNonce := nonce } := by
  unfold NoiseClient.fail
  split_ifs <;> rfl

lemma consume_txNonce (client : NoiseClient) (nonce : UInt64) (bytes : Bytes) :
    NoiseClient.consume lib { client with txNonce := nonce } bytes true =
      { client.consume lib bytes true with
        client := { (client.consume lib bytes true).client with txNonce := nonce } } := by
  simp only [NoiseClient.consume]
  by_cases hrefused : client.ready = false ∨ true = false ∨
      Noise.kMaxBufferedCiphertext < client.receiveBuffer.length + bytes.length
  · rw [if_pos hrefused, if_pos hrefused, fail_txNonce]
  · rw [if_neg hrefused, if_neg hrefused]
    by_cases herror : (NoiseClient.drain lib client.rxKey client.rxNonce
        (client.receiveBuffer ++ bytes)).error.isSome = true
    · rw [if_pos herror, if_pos herror, ← fail_txNonce]
    · rw [if_neg herror, if_neg herror]

lemma consumeAll_txNonce (client : NoiseClient) (nonce : UInt64) (chunks : List Bytes) :
    Noise.consumeAll lib { client with txNonce := nonce } chunks =
      ((Noise.consumeAll lib client chunks).1,
        { (Noise.consumeAll lib client chunks).2 with txNonce := nonce }) := by
  induction chunks generalizing client with
  | nil => rfl
  | cons chunk chunks ih =>
    simp only [Noise.consumeAll, consume_txNonce]
    rcases (client.consume lib chunk true).error with _ | error
    · simp only [ih]
      rcases Noise.consumeAll lib (client.consume lib chunk true).client chunks with
        ⟨_ | _, last⟩ <;> rfl
    · rfl

lemma consumeAll_cons {client last : NoiseClient} {chunk : Bytes} {chunks plaintexts : List Bytes}
    (h : Noise.consumeAll lib client (chunk :: chunks) = (.ok plaintexts, last)) :
    (client.consume lib chunk true).error = none ∧ ∃ more,
      Noise.consumeAll lib (client.consume lib chunk true).client chunks = (.ok more, last) ∧
        plaintexts = (client.consume lib chunk true).accepted.map Prod.snd ++ more := by
  simp only [Noise.consumeAll] at h
  split at h
  · cases (Prod.mk.inj h).1
  · rename_i hnone
    split at h
    · cases (Prod.mk.inj h).1
    · rename_i more last' hmore
      obtain ⟨hplaintexts, rfl⟩ := Prod.mk.inj h
      exact ⟨hnone, more, hmore, (Except.ok.inj hplaintexts).symm⟩

/-- The transport takes whatever is written. -/
def Connection.TakesAll (connection : Connection) : Prop :=
  ∀ answer ∈ connection.writes, answer = none

lemma Connection.TakesAll.write {connection : Connection} (h : connection.TakesAll)
    (bytes : Bytes) :
    ∃ written, connection.write bytes = (none, written) ∧ written.TakesAll ∧
      written.reads = connection.reads := by
  obtain ⟨reads, writes, sent⟩ := connection
  rcases writes with _ | ⟨answer, writes⟩
  · exact ⟨_, rfl, h, rfl⟩
  · obtain rfl : answer = none := h answer (by simp)
    exact ⟨_, rfl, fun later hlater => h later (by simp [hlater]), rfl⟩

namespace TailscaleControlSession

/-- An open session, and the records that are still to come: those in the queue, and those
in the ciphertext that the transport will hand over. -/
structure Streaming (lib : Primitives) (session : TailscaleControlSession)
    (records : List Bytes) : Prop where
  ready : session.ready = true
  recordReader : session.recordReader = none
  stream : ∃ client connection chunks plaintexts last,
    session.noise = some client ∧ client.ready = true ∧
      session.transport = some connection ∧ connection.TakesAll ∧
      connection.reads = chunks.map Read.data ∧
      Noise.consumeAll lib client chunks = (.ok plaintexts, last) ∧
      records = session.plaintextQueue ++ plaintexts

variable {session : TailscaleControlSession} {records : List Bytes}

lemma Streaming.isSome_transport (h : Streaming lib session records) :
    session.transport.isSome := by
  obtain ⟨_, _, _, _, _, -, -, htransport, -⟩ := h.stream
  rw [htransport]
  rfl

lemma Streaming.send (h : Streaming lib session records) (plaintext : Bytes) :
    ∃ session', session.send lib plaintext = (true, session') ∧ Streaming lib session' records := by
  obtain ⟨client, connection, chunks, plaintexts, last, hnoise, hclient, htransport, htakes,
    hreads, hconsume, hrecords⟩ := h.stream
  obtain ⟨written, hwrite, htakes', hreads'⟩ := htakes.write (Noise.wire
    (NoiseClient.frameRecords lib client.txKey client.txNonce plaintext))
  have hsent (nonce : UInt64) : Noise.consumeAll lib { client with txNonce := nonce } chunks =
      (.ok plaintexts, { last with txNonce := nonce }) := by
    rw [consumeAll_txNonce, hconsume]
  refine ⟨{ session with
    noise := some { client with txNonce := client.txNonce + UInt64.ofNat (NoiseClient.frameRecords
      lib client.txKey client.txNonce plaintext).length }
    transport := some written }, ?_, h.ready, h.recordReader, _, written, chunks, plaintexts, _,
    rfl, hclient, rfl, htakes', hreads'.trans hreads, hsent _, hrecords⟩
  simp only [TailscaleControlSession.send, hnoise, htransport, NoiseClient.frame, hclient,
    Bool.true_eq_false, or_self, if_false, hwrite]

lemma Streaming.sendAll (h : Streaming lib session records) (updates : List Bytes) :
    ∃ session', session.sendAll lib updates = (true, session') ∧
      Streaming lib session' records := by
  induction updates generalizing session with
  | nil => exact ⟨session, rfl, h⟩
  | cons update updates ih =>
    obtain ⟨sent, hsend, hsent⟩ := h.send update
    obtain ⟨session', hall, hsession'⟩ := ih hsent
    exact ⟨session', by rw [TailscaleControlSession.sendAll, hsend]; exact hall, hsession'⟩

lemma Streaming.creditData (h : Streaming lib session records) (frame : Http2Frame) :
    ∃ session', session.creditData lib frame = (true, session') ∧
      Streaming lib session' records := by
  unfold TailscaleControlSession.creditData
  split
  · exact ⟨session, rfl, h⟩
  · have hwindows (connection stream : Http2ReceiveWindow) :
        Streaming lib { session with connectionWindow := connection, mapStreamWindow := stream }
          records :=
      ⟨h.ready, h.recordReader, h.stream⟩
    exact (hwindows _ _).sendAll _

lemma poll_streaming {parse : Bytes → Option Json} (h : Streaming lib session records) :
    session.poll lib parse true = finish parse (session.pollLoop lib) :=
  poll_open h.ready h.recordReader h.isSome_transport

/-! ## What a frame does to the map stream -/

/-- DATA on the map stream, which is every stream before there is one. -/
def isMapData (mapStreamId : ℕ) (frame : Http2Frame) : Bool :=
  frame.type = 0x00 && (mapStreamId = 0 || frame.streamId = mapStreamId)

/-- What the buffer of the map stream holds at most. -/
def mapCapacity : ℕ := MapFrameDecoder.kMaxFrameSize + 4

/-- What a payload on the map stream means, and the buffer that it leaves. -/
def mapStep (buffer payload : Bytes) : Handled × Bytes :=
  if mapCapacity < buffer.length + payload.length then (.failed, [])
  else
    match MapFrameDecoder.format.scan (buffer ++ payload) with
    | .short => (.next, buffer ++ payload)
    | .oversized => (.next, [])
    | .frame u r => (.record (u.drop 4), r)

/-- What a frame means, and the buffer of the map stream that it leaves. -/
def frameStep (mapStreamId : ℕ) (buffer : Bytes) (frame : Http2Frame) : Handled × Bytes :=
  if isMapData mapStreamId frame then mapStep buffer frame.payload else (.next, buffer)

lemma receiveMapData_eq (session : TailscaleControlSession) (payload : Bytes) :
    ∃ error, session.receiveMapData payload =
      ((mapStep session.mapFrameDecoder payload).1,
        { session with mapFrameDecoder := (mapStep session.mapFrameDecoder payload).2
                       error := error }) := by
  unfold receiveMapData mapStep MapFrameDecoder.append mapCapacity
  rcases Nat.lt_or_ge (MapFrameDecoder.kMaxFrameSize + 4)
    (session.mapFrameDecoder.length + payload.length) with hover | hfits
  · rw [if_pos (by omega), if_pos hover]
    exact ⟨_, rfl⟩
  · rw [if_neg (by omega), if_neg (by omega)]
    simp only [MapFrameDecoder.take_eq_scan]
    rcases MapFrameDecoder.format.scan (session.mapFrameDecoder ++ payload) with _ | _ | ⟨u, r⟩
    · exact ⟨session.error, rfl⟩
    · exact ⟨_, rfl⟩
    · exact ⟨session.error, rfl⟩

/-- The session behind a frame, on a connection that holds. -/
theorem handleFrame_eq (h : Streaming lib session records) (frame : Http2Frame) :
    ∃ session', session.handleFrame lib frame =
        ((frameStep session.mapStreamId session.mapFrameDecoder frame).1, session') ∧
      Streaming lib session' records ∧
      session'.mapFrameDecoder =
        (frameStep session.mapStreamId session.mapFrameDecoder frame).2 := by
  obtain ⟨credited, hcredit, hstreaming⟩ := h.creditData frame
  have hsame := @creditData_same lib session frame
  rw [hcredit] at hsame
  simp only at hsame
  unfold handleFrame
  rw [hcredit]
  simp only
  by_cases hdata : isMapData session.mapStreamId frame = true
  · obtain ⟨htype, hstream⟩ : frame.type = 0x00 ∧
        (session.mapStreamId = 0 ∨ frame.streamId = session.mapStreamId) := by
      simpa [isMapData] using hdata
    -- data of the map stream: the windows are credited first, then the decoder gets the payload
    have hmapped : ¬ (credited.mapStreamId ≠ 0 ∧ frame.streamId ≠ credited.mapStreamId) := by
      rw [hsame.mapStreamId]
      tauto
    obtain ⟨error, hreceive⟩ := receiveMapData_eq credited frame.payload
    rw [hsame.mapFrameDecoder] at hreceive
    have hstep : frameStep session.mapStreamId session.mapFrameDecoder frame =
        mapStep session.mapFrameDecoder frame.payload := if_pos hdata
    rw [hstep, htype, if_neg (by decide), if_neg (by decide), if_pos rfl, if_neg hmapped, hreceive]
    exact ⟨_, rfl, ⟨hstreaming.ready, hstreaming.recordReader, hstreaming.stream⟩, rfl⟩
  · have hstep : frameStep session.mapStreamId session.mapFrameDecoder frame =
        (.next, session.mapFrameDecoder) := if_neg hdata
    have hplain : ∃ session', (Handled.next, credited) = (.next, session') ∧
        Streaming lib session' records ∧ session'.mapFrameDecoder = session.mapFrameDecoder :=
      ⟨credited, rfl, hstreaming, hsame.mapFrameDecoder⟩
    -- whether it acknowledges or not, the session goes on with the same buffers
    have hack (flag : Prop) [Decidable flag] (ack : Bytes) : ∃ session',
        (Handled.next, if flag then (credited.send lib ack).2 else credited) = (.next, session') ∧
          Streaming lib session' records ∧ session'.mapFrameDecoder = session.mapFrameDecoder := by
      obtain ⟨sent, hsend, hsent⟩ := hstreaming.send ack
      have hkept := @send_same lib credited ack
      rw [hsend] at hkept ⊢
      split_ifs
      · exact ⟨sent, rfl, hsent, hkept.mapFrameDecoder.trans hsame.mapFrameDecoder⟩
      · exact hplain
    rw [hstep]
    by_cases hsettings : frame.type = 0x04
    · rw [if_pos hsettings]
      exact hack _ _
    · rw [if_neg hsettings]
      by_cases hping : frame.type = 0x06
      · rw [if_pos hping]
        exact hack _ _
      · rw [if_neg hping]
        by_cases hbody : frame.type = 0x00
        · have hother : credited.mapStreamId ≠ 0 ∧ frame.streamId ≠ credited.mapStreamId := by
            rw [hsame.mapStreamId]
            simpa [isMapData, hbody] using hdata
          rw [if_pos hbody, if_pos hother]
          exact hplain
        · rw [if_neg hbody]
          exact hplain

/-! ## Reading a record -/

/-- What reading leaves as it was. -/
structure SameBuffers (session session' : TailscaleControlSession) : Prop where
  http2Decoder : session'.http2Decoder = session.http2Decoder
  mapFrameDecoder : session'.mapFrameDecoder = session.mapFrameDecoder
  mapCodec : session'.mapCodec = session.mapCodec
  mapStreamId : session'.mapStreamId = session.mapStreamId

/-- What a call that waits for the next record comes to. -/
def nextRecord : List Bytes → Fetched
  | [] => .blocked
  | record :: _ => .got record

/-- The reading loop, on a connection that holds. -/
lemma readLoop_eq {client last : NoiseClient} {connection : Connection}
    {chunks plaintexts : List Bytes} (hready : session.ready = true)
    (hreader : session.recordReader = none) (hnoise : session.noise = some client)
    (hclient : client.ready = true) (htransport : session.transport = some connection)
    (htakes : connection.TakesAll) (hqueue : session.plaintextQueue = [])
    (hconsume : Noise.consumeAll lib client chunks = (.ok plaintexts, last)) :
    ∃ session', session.readLoop lib (chunks.map Read.data) = (nextRecord plaintexts, session') ∧
      Streaming lib session' plaintexts.tail ∧ SameBuffers session session' := by
  -- over the reads that are left: each ends the loop or leaves the client ready for the next
  induction chunks generalizing session client plaintexts with
  | nil =>
    obtain ⟨hnone, -⟩ := Prod.mk.inj hconsume
    obtain rfl := Except.ok.inj hnone
    refine ⟨session.reading [], rfl, ⟨hready, hreader, client, { connection with reads := [] }, [],
      [], client, hnoise, hclient, ?_, htakes, rfl, rfl, ?_⟩, rfl, rfl, rfl, rfl⟩
    · simp [reading, htransport]
    · simp [reading, hqueue]
  | cons chunk chunks ih =>
    obtain ⟨hnone, more, hmore, rfl⟩ := consumeAll_cons hconsume
    obtain ⟨-, -, -, -, hkept, -⟩ := @NoiseClient.consume_cases lib client chunk true
    have hclient' := (hkept hnone).1.trans hclient
    rw [List.map_cons, readLoop.eq_def]
    simp only [hnoise, hnone, hqueue, List.nil_append]
    rcases (client.consume lib chunk true).accepted.map Prod.snd with _ | ⟨record, queue⟩
    · -- no record is complete yet
      obtain ⟨session', hloop, hstreaming, hsame⟩ := @ih { session with
        noise := some (client.consume lib chunk true).client, plaintextQueue := [] } _ _
        hready hreader rfl hclient' htransport rfl hmore
      exact ⟨session', hloop, hstreaming, hsame.http2Decoder, hsame.mapFrameDecoder,
        hsame.mapCodec, hsame.mapStreamId⟩
    · refine ⟨_, rfl, ⟨hready, hreader, _, { connection with reads := chunks.map Read.data },
        chunks, more, last, rfl, hclient', ?_, htakes, rfl, hmore, rfl⟩, rfl, rfl, rfl, rfl⟩
      simp [reading, htransport]

theorem readNextNoiseRecord_eq (h : Streaming lib session records) :
    ∃ session', session.readNextNoiseRecord lib = (nextRecord records, session') ∧
      Streaming lib session' records.tail ∧ SameBuffers session session' := by
  obtain ⟨client, connection, chunks, plaintexts, last, hnoise, hclient, htransport, htakes,
    hreads, hconsume, rfl⟩ := h.stream
  unfold readNextNoiseRecord
  rcases hqueue : session.plaintextQueue with _ | ⟨record, queue⟩
  · simp only [htransport, hreads, List.nil_append]
    exact readLoop_eq h.ready h.recordReader hnoise hclient htransport htakes hqueue hconsume
  · exact ⟨_, rfl, ⟨h.ready, h.recordReader, client, connection, chunks, plaintexts, last, hnoise,
      hclient, htransport, htakes, hreads, hconsume, rfl⟩, rfl, rfl, rfl, rfl⟩

/-! ## The loop of poll, frame by frame -/

/-- What the buffer of the HTTP/2 decoder holds at most. -/
def http2Capacity : ℕ := Http2FrameDecoder.kMaxFrameSize + kHttp2HeaderLen

/-- The HTTP/2 frames that are found in a buffer and the records behind it. -/
def framesAhead (buffer : Bytes) (records : List Bytes) : List Http2Frame :=
  (Http2.format.found http2Capacity id buffer records).map frameOf

lemma noFrame_of_framesAhead {buffer : Bytes} (h : framesAhead buffer records = []) :
    ∀ u r, Http2.format.scan buffer ≠ .frame u r := by
  intro u r hscan
  rw [framesAhead, found_frame hscan] at h
  cases h

lemma getD_append_eq_offered (buffer bytes : Bytes) :
    (Http2FrameDecoder.append buffer bytes).getD buffer =
      offered http2Capacity id buffer bytes := by
  unfold Http2FrameDecoder.append offered http2Capacity
  split_ifs with h h' h'
  · omega
  · rfl
  · rfl
  · omega

lemma pollRound_frame {u r : Bytes} (h : Http2.format.scan session.http2Decoder = .frame u r) :
    session.pollRound lib =
      match handleFrame lib { session with http2Decoder := r } (frameOf u) with
      | (.next, session) => .again session
      | (.failed, session) => .done .failed session
      | (.record json, session) => .done (.got json) session := by
  rewrite [pollRound, take_eq_scan, h]
  rfl

lemma pollRound_noFrame (h : ∀ u r, Http2.format.scan session.http2Decoder ≠ .frame u r) :
    session.pollRound lib =
      match readNextNoiseRecord lib { session with
        http2Decoder := Http2.format.kept session.http2Decoder } with
      | (.got chunk, session) => .again { session with http2Decoder :=
          (Http2FrameDecoder.append session.http2Decoder chunk).getD session.http2Decoder }
      | (fetched, session) => .done fetched session := by
  rw [pollRound, take_eq_scan]
  rcases hscan : Http2.format.scan session.http2Decoder with _ | _ | ⟨u, r⟩
  · rewrite [kept_of_short hscan]
    rfl
  · rewrite [kept_of_oversized hscan]
    rfl
  · exact absurd hscan (h u r)

/-- A round that finds no frame brings the next record in, or waits. -/
lemma pollRound_read (h : Streaming lib session records)
    (hnone : ∀ u r, Http2.format.scan session.http2Decoder ≠ .frame u r) :
    match records with
    | [] => ∃ session', session.pollRound lib = .done .blocked session' ∧
        Streaming lib session' [] ∧
        session'.http2Decoder = Http2.format.kept session.http2Decoder ∧
        session'.mapFrameDecoder = session.mapFrameDecoder ∧
        session'.mapCodec = session.mapCodec ∧ session'.mapStreamId = session.mapStreamId
    | record :: more => ∃ session', session.pollRound lib = .again session' ∧
        Streaming lib session' more ∧
        session'.http2Decoder =
          offered http2Capacity id (Http2.format.kept session.http2Decoder) record ∧
        session'.mapFrameDecoder = session.mapFrameDecoder ∧
        session'.mapCodec = session.mapCodec ∧ session'.mapStreamId = session.mapStreamId := by
  have hkept : Streaming lib { session with
      http2Decoder := Http2.format.kept session.http2Decoder } records :=
    ⟨h.ready, h.recordReader, h.stream⟩
  obtain ⟨session', hread, hstreaming, hsame⟩ := readNextNoiseRecord_eq hkept
  rw [pollRound_noFrame hnone, hread]
  cases records with
  | nil =>
    exact ⟨session', rfl, hstreaming, hsame.http2Decoder, hsame.mapFrameDecoder, hsame.mapCodec,
      hsame.mapStreamId⟩
  | cons record more =>
    refine ⟨_, rfl, ⟨hstreaming.ready, hstreaming.recordReader, hstreaming.stream⟩, ?_,
      hsame.mapFrameDecoder, hsame.mapCodec, hsame.mapStreamId⟩
    simp only [getD_append_eq_offered, hsame.http2Decoder]

/-- What a call still has to do behind a frame. -/
def afterFrame (lib : Primitives) (session : TailscaleControlSession) :
    Handled → Fetched × TailscaleControlSession
  | .next => session.pollLoop lib
  | .failed => (.failed, session)
  | .record json => (.got json, session)

/-- The call comes to this frame, and is left with those. -/
def ComesTo (lib : Primitives) (session : TailscaleControlSession) (frame : Http2Frame)
    (frames : List Http2Frame) : Prop :=
  ∃ session' records, session.pollLoop lib = afterFrame lib session'
      (frameStep session.mapStreamId session.mapFrameDecoder frame).1 ∧
    Streaming lib session' records ∧
    framesAhead session'.http2Decoder records = frames ∧
    session'.mapFrameDecoder = (frameStep session.mapStreamId session.mapFrameDecoder frame).2 ∧
    session'.mapCodec = session.mapCodec ∧ session'.mapStreamId = session.mapStreamId

/-- A round that finds a frame handles it. -/
lemma pollLoop_found {frame : Http2Frame} {frames : List Http2Frame} {u r : Bytes}
    (h : Streaming lib session records)
    (hframes : framesAhead session.http2Decoder records = frame :: frames)
    (hscan : Http2.format.scan session.http2Decoder = .frame u r) :
    ComesTo lib session frame frames := by
  rw [framesAhead, found_frame hscan, List.map_cons] at hframes
  obtain ⟨rfl, hrest⟩ := List.cons.inj hframes
  have htaken : Streaming lib { session with http2Decoder := r } records :=
    ⟨h.ready, h.recordReader, h.stream⟩
  obtain ⟨session', hhandle, hstreaming, hmap⟩ := handleFrame_eq htaken (frameOf u)
  have hsame := @handleFrame_same lib { session with http2Decoder := r } (frameOf u)
  have hround := @pollRound_frame lib session u r hscan
  rw [hhandle] at hsame hround
  refine ⟨session', records, ?_, hstreaming, ?_, hmap, hsame.mapCodec, hsame.mapStreamId⟩
  · rcases hstep : (frameStep session.mapStreamId session.mapFrameDecoder (frameOf u)).1 with
      _ | _ | json
    all_goals
      simp only [hstep] at hround
    · exact pollLoop_again hround
    · exact pollLoop_done hround
    · exact pollLoop_done hround
  · rw [hsame.http2Decoder]
    exact hrest

/-- The loop takes the frames one after the other: the next one decides. -/
theorem pollLoop_frame {frame : Http2Frame} {frames : List Http2Frame}
    (h : Streaming lib session records)
    (hframes : framesAhead session.http2Decoder records = frame :: frames) :
    ComesTo lib session frame frames := by
  induction records generalizing session with
  | nil =>
    rcases hscan : Http2.format.scan session.http2Decoder with _ | _ | ⟨u, r⟩
    · rw [framesAhead, found_nil (by simp [hscan])] at hframes
      cases hframes
    · rw [framesAhead, found_nil (by simp [hscan])] at hframes
      cases hframes
    · exact pollLoop_found h hframes hscan
  | cons record records ih =>
    by_cases hnone : ∀ u r, Http2.format.scan session.http2Decoder ≠ .frame u r
    -- the round reads a record, which changes neither the frames ahead nor the map stream
    · obtain ⟨session₁, hround, hstreaming, hhttp2, hmap, hcodec, hstream⟩ := pollRound_read h hnone
      rw [framesAhead, found_cons hnone, ← hhttp2] at hframes
      obtain ⟨session', records', hloop, hstreaming', hrest, hmap', hcodec', hstream'⟩ :=
        ih hstreaming hframes
      rw [hmap, hstream] at hloop hmap'
      exact ⟨session', records', (pollLoop_again hround).trans hloop, hstreaming', hrest, hmap',
        hcodec'.trans hcodec, hstream'.trans hstream⟩
    · obtain ⟨u, hu⟩ := not_forall.mp hnone
      obtain ⟨r, hr⟩ := not_forall.mp hu
      have hscan := not_not.mp hr
      exact pollLoop_found h hframes hscan

/-- Without a frame ahead the call waits, and so will the next one. -/
theorem pollLoop_blocked (h : Streaming lib session records)
    (hframes : framesAhead session.http2Decoder records = []) :
    ∃ session', session.pollLoop lib = (.blocked, session') ∧ Streaming lib session' [] ∧
      framesAhead session'.http2Decoder [] = [] := by
  induction records generalizing session with
  | nil =>
    have hnone := noFrame_of_framesAhead hframes
    obtain ⟨session', hround, hstreaming, hhttp2, -⟩ := pollRound_read h hnone
    refine ⟨session', pollLoop_done hround, hstreaming, ?_⟩
    rw [hhttp2, framesAhead, found_nil (by simp [scan_kept hnone])]
    rfl
  | cons record records ih =>
    have hnone := noFrame_of_framesAhead hframes
    obtain ⟨session₁, hround, hstreaming, hhttp2, -⟩ := pollRound_read h hnone
    rw [framesAhead, found_cons hnone, ← hhttp2] at hframes
    obtain ⟨session', hloop, hlast⟩ := ih hstreaming hframes
    exact ⟨session', (pollLoop_again hround).trans hloop, hlast⟩

end TailscaleControlSession

/-! ## A session to evaluate -/

def keepAliveText : Bytes := ascii "\x7b\"KeepAlive\":true\x7d"

/-- A parser that knows one text. -/
def keepAliveParse (json : Bytes) : Option Json :=
  if json = keepAliveText then some (.object [(ascii "KeepAlive", .boolean true)]) else none

/-- An open session with map stream 1; control sends one record for each plaintext, and
the transport hands over one record a read. -/
def receivingSession (plaintexts : List Bytes) : TailscaleControlSession where
  ready := true
  transport := some
    { reads := (Noise.sealFrom Noise.toyLibrary Noise.readyClient.rxKey 0 plaintexts).map
        (fun record => .data record.bytes) }
  noise := some Noise.readyClient
  mapStreamId := 1

end ArtemisSwitch.Control

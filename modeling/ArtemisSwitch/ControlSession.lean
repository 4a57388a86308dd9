import ArtemisSwitch.ControlCodec
import ArtemisSwitch.Http2
import ArtemisSwitch.NoiseRoundTrip

/-!
# The control session

The receive half of `TailscaleControlSession`: transport reads hold Noise records,
the records hold HTTP/2 frames, and the DATA frames of the map stream hold netmap
frames.  Each layer keeps a buffer of its own.
-/

namespace ArtemisSwitch.Control
open Transport Http2
open Netmap hiding zeroKey
open Noise (Primitives NoiseClient)

/-- The transport hands over at most this many bytes a read. -/
def kReadChunk : ℕ := 2048

/-- An open `ITransport`: what its `read` and `write` calls will answer, and what has been
written.  A `write` behind the end of its script succeeds. -/
structure Connection where
  reads : List Read
  writes : List (Option String) := []
  sent : List Bytes := []
  deriving DecidableEq, Repr

/-- The answer is the error, if any. -/
def Connection.write (connection : Connection) (bytes : Bytes) : Option String × Connection :=
  match connection.writes with
  | [] => (none, { connection with sent := connection.sent ++ [bytes] })
  | none :: writes =>
    (none, { connection with writes := writes, sent := connection.sent ++ [bytes] })
  | some error :: writes => (some error, { connection with writes := writes })

/-- What `poll` reads and changes.  `error` is the string that its callers hand in, and
`recordReader` the stand-in for the connection, as the script of its answers. -/
structure TailscaleControlSession where
  ready : Bool := false
  transport : Option Connection := none
  noise : Option NoiseClient := none
  recordReader : Option (List (Except Bytes Bytes)) := none
  plaintextQueue : List Bytes := []
  mapCodec : StableIds := ∅
  mapFrameDecoder : Bytes := []
  http2Decoder : Bytes := []
  mapStreamId : ℕ := 0
  connectionWindow : Http2ReceiveWindow := { size := kHttp2ClientConnectionWindow }
  mapStreamWindow : Http2ReceiveWindow := { size := kHttp2ClientStreamWindow }
  error : Bytes := []

/-- How a call that waits for a piece of the stream ends. -/
inductive Fetched
  | got (bytes : Bytes)
  | failed
  | blocked
  deriving DecidableEq, Repr

/-- What a frame means for the loop of `poll`. -/
inductive Handled
  | next
  | failed
  | record (json : Bytes)
  deriving DecidableEq, Repr

/-- The places that `poll` fills for its caller. -/
structure PollResult where
  delta : PeerDelta := {}
  fullPeers : Option (List Peer) := none
  localAddress : Bytes := []
  derpMap : Option (List DerpRegion) := none
  deriving DecidableEq, Repr

/-- How a call of `poll` ends. -/
inductive Polled
  | returned (result : PollResult)
  | failed
  | threw
  | blocked
  deriving DecidableEq, Repr

namespace TailscaleControlSession
variable (lib : Primitives)

/-! ## Writing -/

/-- `noise_->frame` and `transport_->write`. -/
def send (session : TailscaleControlSession) (plaintext : Bytes) :
    Bool × TailscaleControlSession :=
  match session.noise, session.transport with
  | some noise, some transport =>
    match noise.frame lib plaintext true with
    | (.error error, noise) =>
      (false, { session with noise := some noise, error := ascii error })
    | (.ok records, noise) =>
      match transport.write (Noise.wire records) with
      | (some error, transport) =>
        (false, { session with noise := some noise, transport := some transport
                               error := ascii error })
      | (none, transport) =>
        (true, { session with noise := some noise, transport := some transport })
  | _, _ => (false, session)

/-- The loop over the updates. -/
def sendAll (session : TailscaleControlSession) : List Bytes → Bool × TailscaleControlSession
  | [] => (true, session)
  | update :: updates =>
    match session.send lib update with
    | (false, session) => (false, session)
    | (true, session) => session.sendAll updates

/-- The map stream needs its own window replenished until it has ended. -/
def creditsMapStream (session : TailscaleControlSession) (frame : Http2Frame) : Bool :=
  frame.streamId = session.mapStreamId && session.mapStreamId ≠ 0 && frame.flags &&& 1 = 0

def creditData (session : TailscaleControlSession) (frame : Http2Frame) :
    Bool × TailscaleControlSession :=
  if frame.type ≠ 0x00 ∨ frame.length = 0 ∨ session.noise.isNone ∨ session.transport.isNone then
    (true, session)
  else
    let connection := session.connectionWindow.consume frame.length
    let stream := if session.creditsMapStream frame then
        session.mapStreamWindow.consume frame.length else (none, session.mapStreamWindow)
    let updates := (connection.1.map (buildHttp2WindowUpdate 0)).toList ++
      (stream.1.map (buildHttp2WindowUpdate session.mapStreamId)).toList
    sendAll lib { session with connectionWindow := connection.2, mapStreamWindow := stream.2 }
      updates

/-! ## One frame -/

/-- A DATA frame on the map stream. -/
def receiveMapData (session : TailscaleControlSession) (payload : Bytes) :
    Handled × TailscaleControlSession :=
  match MapFrameDecoder.append session.mapFrameDecoder payload with
  | none => (.failed, { session with mapFrameDecoder := []
                                     error := ascii "netmap receive buffer limit exceeded" })
  | some appended =>
    let taken := MapFrameDecoder.take appended
    let session := { session with mapFrameDecoder := taken.buffer
                                  error := (taken.error.map ascii).getD session.error }
    match taken.json with
    | some json => (.record json, session)
    | none => (.next, session)

/-- The branch of the loop that has taken a frame.  Whether an acknowledgement could be
written makes no difference. -/
def handleFrame (session : TailscaleControlSession) (frame : Http2Frame) :
    Handled × TailscaleControlSession :=
  match session.creditData lib frame with
  | (false, session) => (.failed, session)
  | (true, session) =>
    if frame.type = 0x04 then
      (.next, if frame.flags &&& 1 = 0 then (session.send lib buildHttp2SettingsAck).2 else session)
    else if frame.type = 0x06 then
      (.next, if frame.flags &&& 1 = 0 then
        (session.send lib (buildHttp2PingAck frame.payload)).2 else session)
    else if frame.type = 0x00 then
      if session.mapStreamId ≠ 0 ∧ frame.streamId ≠ session.mapStreamId then (.next, session)
      else session.receiveMapData frame.payload
    else (.next, session)

/-! ## Reading -/

/-- The transport will answer these reads from now on. -/
def reading (session : TailscaleControlSession) (reads : List Read) : TailscaleControlSession :=
  { session with transport := session.transport.map fun connection =>
      { connection with reads := reads } }

/-- The loop of `readNextNoiseRecord`. -/
def readLoop (session : TailscaleControlSession) : List Read → Fetched × TailscaleControlSession
  | [] => (.blocked, session.reading [])
  | .failed error :: reads => (.failed, { session.reading reads with error := ascii error })
  | .closed :: reads =>
    (.failed, { session.reading reads with error := ascii "control connection closed" })
  | .data bytes :: reads =>
    match session.noise with
    | none => (.failed, session.reading reads)
    | some noise =>
      let consumed := noise.consume lib bytes true
      let queue := session.plaintextQueue ++ consumed.accepted.map Prod.snd
      match consumed.error with
      | some error =>
        (.failed, { session.reading reads with noise := some consumed.client
                                               plaintextQueue := queue, error := ascii error })
      | none =>
        match queue with
        | [] => readLoop { session with noise := some consumed.client, plaintextQueue := [] } reads
        | record :: queue =>
          (.got record, { session.reading reads with noise := some consumed.client
                                                     plaintextQueue := queue })

def readNextNoiseRecord (session : TailscaleControlSession) : Fetched × TailscaleControlSession :=
  match session.plaintextQueue, session.transport with
  | record :: queue, _ => (.got record, { session with plaintextQueue := queue })
  | [], none => (.failed, session)
  | [], some connection => session.readLoop lib connection.reads

/-! ## poll -/

/-- One round of the loop of `poll`. -/
inductive Round
  | again (session : TailscaleControlSession)
  | done (fetched : Fetched) (session : TailscaleControlSession)

def pollRound (session : TailscaleControlSession) : Round :=
  match Http2FrameDecoder.take session.http2Decoder with
  | (some frame, buffer) =>
    match handleFrame lib { session with http2Decoder := buffer } frame with
    | (.next, session) => .again session
    | (.failed, session) => .done .failed session
    | (.record json, session) => .done (.got json) session
  | (none, buffer) =>
    match readNextNoiseRecord lib { session with http2Decoder := buffer } with
    | (.got chunk, session) =>
      -- what the decoder refuses is lost
      .again { session with http2Decoder :=
        (Http2FrameDecoder.append session.http2Decoder chunk).getD session.http2Decoder }
    | (fetched, session) => .done fetched session

/-- The answers of `read` that are still to come. -/
def reads (session : TailscaleControlSession) : List Read :=
  match session.transport with
  | some connection => connection.reads
  | none => []

end TailscaleControlSession

/-! ## Every round uses something up -/

/-- What writing leaves as it was. -/
structure SameInput (session session' : TailscaleControlSession) : Prop where
  ready : session'.ready = session.ready
  recordReader : session'.recordReader = session.recordReader
  reads : session'.reads = session.reads
  plaintextQueue : session'.plaintextQueue = session.plaintextQueue
  mapCodec : session'.mapCodec = session.mapCodec
  mapFrameDecoder : session'.mapFrameDecoder = session.mapFrameDecoder
  http2Decoder : session'.http2Decoder = session.http2Decoder
  mapStreamId : session'.mapStreamId = session.mapStreamId

lemma SameInput.refl (session : TailscaleControlSession) : SameInput session session :=
  ⟨rfl, rfl, rfl, rfl, rfl, rfl, rfl, rfl⟩

lemma SameInput.trans {s t u : TailscaleControlSession} (h : SameInput s t) (h' : SameInput t u) :
    SameInput s u :=
  ⟨h'.ready.trans h.ready, h'.recordReader.trans h.recordReader, h'.reads.trans h.reads,
    h'.plaintextQueue.trans h.plaintextQueue, h'.mapCodec.trans h.mapCodec,
    h'.mapFrameDecoder.trans h.mapFrameDecoder, h'.http2Decoder.trans h.http2Decoder,
    h'.mapStreamId.trans h.mapStreamId⟩

lemma Connection.reads_write (connection : Connection) (bytes : Bytes) :
    (connection.write bytes).2.reads = connection.reads := by
  unfold Connection.write
  split <;> rfl

namespace TailscaleControlSession
variable {lib : Primitives}

lemma send_same (session : TailscaleControlSession) (plaintext : Bytes) :
    SameInput session (session.send lib plaintext).2 := by
  unfold send
  split
  · rename_i noise transport hnoise htransport
    rcases noise.frame lib plaintext true with ⟨error | records, noise⟩
    · exact ⟨rfl, rfl, rfl, rfl, rfl, rfl, rfl, rfl⟩
    · have hreads : session.reads = transport.reads := by rw [reads, htransport]
      have hwrite := transport.reads_write (Noise.wire records)
      rcases hanswer : transport.write (Noise.wire records) with ⟨_ | error, written⟩
      all_goals
        rw [hanswer] at hwrite
        simp only [hanswer]
        exact ⟨rfl, rfl, hwrite.trans hreads.symm, rfl, rfl, rfl, rfl, rfl⟩
  · exact .refl session

lemma sendAll_same (session : TailscaleControlSession) (updates : List Bytes) :
    SameInput session (session.sendAll lib updates).2 := by
  induction updates generalizing session with
  | nil => exact .refl session
  | cons update updates ih =>
    have hfirst := @send_same lib session update
    rw [sendAll]
    rcases hsend : session.send lib update with ⟨_ | _, sent⟩
    · rw [hsend] at hfirst
      exact hfirst
    · rw [hsend] at hfirst
      exact hfirst.trans (ih sent)

lemma creditData_same (session : TailscaleControlSession) (frame : Http2Frame) :
    SameInput session (session.creditData lib frame).2 := by
  unfold creditData
  split
  · exact .refl session
  · refine SameInput.trans ?_ (sendAll_same _ _)
    exact ⟨rfl, rfl, rfl, rfl, rfl, rfl, rfl, rfl⟩

lemma receiveMapData_same (session : TailscaleControlSession) (payload : Bytes) :
    SameInput { session with mapFrameDecoder := (session.receiveMapData payload).2.mapFrameDecoder }
      (session.receiveMapData payload).2 := by
  unfold receiveMapData
  split
  · exact ⟨rfl, rfl, rfl, rfl, rfl, rfl, rfl, rfl⟩
  · simp only
    split
    all_goals exact ⟨rfl, rfl, rfl, rfl, rfl, rfl, rfl, rfl⟩

/-- Handling a frame changes no input but the map stream. -/
lemma handleFrame_same (session : TailscaleControlSession) (frame : Http2Frame) :
    SameInput { session with mapFrameDecoder := (session.handleFrame lib frame).2.mapFrameDecoder }
      (session.handleFrame lib frame).2 := by
  have hcredit := @creditData_same lib session frame
  have hkept {s : TailscaleControlSession} (h : SameInput session s) :
      SameInput { session with mapFrameDecoder := s.mapFrameDecoder } s :=
    ⟨h.ready, h.recordReader, h.reads, h.plaintextQueue, h.mapCodec, rfl, h.http2Decoder,
      h.mapStreamId⟩
  unfold handleFrame
  rcases hresult : session.creditData lib frame with ⟨_ | _, credited⟩
  all_goals rw [hresult] at hcredit
  · exact hkept hcredit
  · simp only
    split_ifs
    · exact hkept (hcredit.trans (send_same _ _))
    · exact hkept hcredit
    · exact hkept (hcredit.trans (send_same _ _))
    · exact hkept hcredit
    · exact hkept hcredit
    · have hmap := receiveMapData_same credited frame.payload
      exact ⟨hmap.ready.trans hcredit.ready, hmap.recordReader.trans hcredit.recordReader,
        hmap.reads.trans hcredit.reads, hmap.plaintextQueue.trans hcredit.plaintextQueue,
        hmap.mapCodec.trans hcredit.mapCodec, rfl, hmap.http2Decoder.trans hcredit.http2Decoder,
        hmap.mapStreamId.trans hcredit.mapStreamId⟩
    · exact hkept hcredit

/-- Waiting for a record uses up reads, or the queue. -/
lemma readLoop_got {session session' : TailscaleControlSession} {reads : List Read} {chunk : Bytes}
    (h : session.readLoop lib reads = (.got chunk, session')) (hopen : session.transport.isSome) :
    session'.reads.length < reads.length := by
  induction reads generalizing session with
  | nil => simp [readLoop] at h
  | cons read more ih =>
    rw [readLoop.eq_def] at h
    rcases read with bytes | _ | error
    · simp only at h
      split at h
      · simp at h
      · split at h
        · simp at h
        · split at h
          · exact Nat.lt_succ_of_lt (ih h hopen)
          · obtain ⟨connection, hconnection⟩ := Option.isSome_iff_exists.mp hopen
            obtain ⟨-, rfl⟩ := Prod.mk.inj h
            simp [TailscaleControlSession.reads, reading, hconnection]
    · simp at h
    · simp at h

lemma readNextNoiseRecord_got {session session' : TailscaleControlSession} {chunk : Bytes}
    (h : session.readNextNoiseRecord lib = (.got chunk, session')) :
    session'.reads.length < session.reads.length ∨
      session'.reads = session.reads ∧
        session'.plaintextQueue.length < session.plaintextQueue.length := by
  unfold readNextNoiseRecord at h
  split at h
  · rename_i record queue hqueue
    obtain ⟨-, rfl⟩ := Prod.mk.inj h
    exact .inr ⟨rfl, by simp [hqueue]⟩
  · simp at h
  · rename_i connection hqueue hconnection
    have hreads : session.reads = connection.reads := by
      rw [TailscaleControlSession.reads, hconnection]
    rw [hreads]
    exact .inl (readLoop_got h (by simp [hconnection]))

/-- The order in which rounds descend: reads, then queued records, then buffered bytes. -/
def Below (session' session : TailscaleControlSession) : Prop :=
  session'.reads.length < session.reads.length ∨
    session'.reads.length = session.reads.length ∧
      (session'.plaintextQueue.length < session.plaintextQueue.length ∨
        session'.plaintextQueue.length = session.plaintextQueue.length ∧
          session'.http2Decoder.length < session.http2Decoder.length)

theorem pollRound_below {session session' : TailscaleControlSession}
    (h : session.pollRound lib = .again session') : Below session' session := by
  unfold pollRound at h
  split at h
  · rename_i frame buffer htake
    have hsame := @handleFrame_same lib { session with http2Decoder := buffer } frame
    split at h
    · rename_i handled hhandled
      rw [hhandled] at hsame
      obtain rfl := Round.again.inj h
      have hshorter : buffer.length < session.http2Decoder.length := by
        rw [take_eq_scan] at htake
        split at htake
        · simp at htake
        · simp at htake
        · rename_i u r hscan
          obtain ⟨-, rfl⟩ := Prod.mk.inj htake
          obtain ⟨hbuffer, hframe⟩ := Framing.scan_eq_frame hscan
          have := hframe.length_pos
          rw [hbuffer, List.length_append]
          omega
      refine .inr ⟨by rw [hsame.reads]; rfl, .inr ⟨by rw [hsame.plaintextQueue], ?_⟩⟩
      rw [hsame.http2Decoder]
      exact hshorter
    · cases h
    · cases h
  · split at h
    · rename_i chunk fetched hfetched
      obtain rfl := Round.again.inj h
      rcases readNextNoiseRecord_got hfetched with hreads | ⟨hreads, hqueue⟩
      · exact .inl hreads
      · exact .inr ⟨congrArg List.length hreads, .inl hqueue⟩
    · cases h

/-! ## poll -/

variable (lib)

/-- The loop of `poll`. -/
def pollLoop (session : TailscaleControlSession) : Fetched × TailscaleControlSession :=
  match _h : session.pollRound lib with
  | .done fetched session => (fetched, session)
  | .again session => pollLoop session
termination_by (session.reads.length, session.plaintextQueue.length, session.http2Decoder.length)
decreasing_by
  rcases pollRound_below _h with hreads | ⟨hreads, hqueue | ⟨hqueue, hbuffer⟩⟩
  · exact Prod.Lex.left _ _ hreads
  · rw [hreads]
    exact Prod.Lex.right _ (Prod.Lex.left _ _ hqueue)
  · rw [hreads, hqueue]
    exact Prod.Lex.right _ (Prod.Lex.right _ hbuffer)

/-- What an update puts into the places. -/
def pollResult (update : MapUpdate) : PollResult :=
  if update.keepAlive then {}
  else
    { delta := update.delta
      fullPeers := update.fullPeers
      localAddress := update.localAddress
      derpMap := update.derpMap }

variable (parse : Bytes → Option Json)

/-- What `poll` does with a netmap frame. -/
def deliver (session : TailscaleControlSession) (json : Bytes) : Polled × TailscaleControlSession :=
  let decoded := decode parse session.mapCodec json
  let session := { session with mapCodec := decoded.2 }
  match decoded.1 with
  | .returned update => (.returned (pollResult update), session)
  | .failed error => (.failed, { session with error := error.getD session.error })
  | .threw => (.threw, session)

/-- What `poll` does with what the loop has left. -/
def finish : Fetched × TailscaleControlSession → Polled × TailscaleControlSession
  | (.got json, session) => deliver parse session json
  | (.failed, session) => (.failed, session)
  | (.blocked, session) => (.blocked, session)

/-- `places` says whether the caller gave a place for everything. -/
def poll (session : TailscaleControlSession) (places : Bool) : Polled × TailscaleControlSession :=
  if session.ready = false ∨ session.recordReader.isNone ∧ session.transport.isNone ∨
      places = false then
    (.failed, { session with error := ascii "Tailscale control session is not connected" })
  else
    match session.recordReader with
    | some [] => (.blocked, session)
    | some (.error error :: script) =>
      (.failed, { session with recordReader := some script, error := error })
    | some (.ok json :: script) => deliver parse { session with recordReader := some script } json
    | none => finish parse (session.pollLoop lib)

/-- The outcomes of successive calls. -/
def polls (session : TailscaleControlSession) : ℕ → List Polled
  | 0 => []
  | n + 1 => (session.poll lib parse true).1 :: polls (session.poll lib parse true).2 n

variable {lib parse}

lemma poll_open {session : TailscaleControlSession} (hready : session.ready = true)
    (hreader : session.recordReader = none) (hopen : session.transport.isSome) :
    session.poll lib parse true = finish parse (session.pollLoop lib) := by
  have hclosed : session.transport.isNone = false := by
    rwa [Option.isNone_eq_false_iff]
  simp [poll, hready, hreader, hclosed]

lemma pollLoop_done {session session' : TailscaleControlSession} {fetched : Fetched}
    (h : session.pollRound lib = .done fetched session') :
    session.pollLoop lib = (fetched, session') := by
  rw [pollLoop]
  split
  · rename_i h'
    obtain ⟨rfl, rfl⟩ := Round.done.inj (h.symm.trans h')
    rfl
  · rename_i h'
    cases h.symm.trans h'

lemma pollLoop_again {session session' : TailscaleControlSession}
    (h : session.pollRound lib = .again session') :
    session.pollLoop lib = session'.pollLoop lib := by
  rw [pollLoop]
  split
  · rename_i h'
    cases h.symm.trans h'
  · rename_i h'
    obtain rfl := Round.again.inj (h.symm.trans h')
    rfl

/-! ## Evaluation -/

variable (lib parse)

/-- The loop of `poll`, if it ends within so many rounds. -/
def rounds : ℕ → TailscaleControlSession → Option (Fetched × TailscaleControlSession)
  | 0, _ => none
  | n + 1, session =>
    match session.pollRound lib with
    | .done fetched session => some (fetched, session)
    | .again session => rounds n session

/-- The outcomes of successive calls on an open connection, if none needs more than `fuel`
rounds. -/
def pollsWithin (fuel : ℕ) (session : TailscaleControlSession) : ℕ → Option (List Polled)
  | 0 => some []
  | n + 1 =>
    if session.ready = true ∧ session.recordReader.isNone ∧ session.transport.isSome then
      match rounds lib fuel session with
      | none => none
      | some left =>
        (pollsWithin fuel (finish parse left).2 n).map fun more => (finish parse left).1 :: more
    else none

variable {lib parse}

lemma pollLoop_of_rounds {session : TailscaleControlSession} {n : ℕ}
    {left : Fetched × TailscaleControlSession} (h : rounds lib n session = some left) :
    session.pollLoop lib = left := by
  induction n generalizing session with
  | zero => cases h
  | succ n ih =>
    rw [rounds] at h
    split at h
    · rename_i hround
      rw [pollLoop_done hround]
      exact Option.some.inj h
    · rename_i hround
      rw [pollLoop_again hround]
      exact ih h

theorem polls_of_within {session : TailscaleControlSession} {n : ℕ} {outcomes : List Polled}
    (fuel : ℕ) (h : pollsWithin lib parse fuel session n = some outcomes) :
    session.polls lib parse n = outcomes := by
  induction n generalizing session outcomes with
  | zero => exact Option.some.inj h
  | succ n ih =>
    rw [pollsWithin] at h
    split at h
    · rename_i hopen
      obtain ⟨hready, hreader, htransport⟩ := hopen
      split at h
      · cases h
      · rename_i left hrounds
        obtain ⟨more, hmore, rfl⟩ := Option.map_eq_some_iff.mp h
        rw [polls, poll_open hready (Option.isNone_iff_eq_none.mp hreader) htransport,
          pollLoop_of_rounds hrounds, ih hmore]
    · cases h

end TailscaleControlSession
end ArtemisSwitch.Control

import ArtemisSwitch.ControlStreaming
import ArtemisSwitch.DerpDelivery
import Mathlib.Logic.Relation

/-!
# Behind a header over the limit

A reader that meets a length over its limit drops what it has buffered and goes on
with the bytes that come next.  The theorems say, for each of the three readers, what
those bytes must not hold if nothing is to be returned any more.
-/

namespace ArtemisSwitch.Transport

/-- What reads deliver, one piece a read. -/
def delivered (reads : List Read) : List Bytes :=
  reads.filterMap fun
    | .data bytes => some bytes
    | _ => none

@[simp] lemma delivered_data (bytes : Bytes) (reads : List Read) :
    delivered (.data bytes :: reads) = bytes :: delivered reads := rfl

@[simp] lemma delivered_closed (reads : List Read) :
    delivered (.closed :: reads) = delivered reads := rfl

@[simp] lemma delivered_failed (error : String) (reads : List Read) :
    delivered (.failed error :: reads) = delivered reads := rfl

end ArtemisSwitch.Transport

namespace ArtemisSwitch.Derp
open Framing Transport

/-! ## DERP -/

/-- No call returns a frame. -/
def Silent (session : DerpSession) : Prop :=
  ∀ n, ∀ outcome ∈ recvFrames n session, outcome.isGot = false

/-- The frames that are found in a buffer and the bytes behind it. -/
def framesAhead (buffer : Bytes) (chunks : List Bytes) : List Bytes :=
  format.found receiveCapacity (fun _ => []) buffer chunks

/-- The reads that are left when the call meets a header over the limit, if it does. -/
def metOversized : List Read → Bytes → Option (List Read)
  | [], buffer =>
    match format.scan buffer with
    | .oversized => some []
    | _ => none
  | read :: reads, buffer =>
    match format.scan buffer, read with
    | .oversized, _ => some (read :: reads)
    | .short, .data bytes =>
      match append buffer bytes with
      | some appended => metOversized reads appended
      | none => none
    | _, _ => none

variable {buffer : Bytes} {reads later : List Read}

lemma silent_iff_next (session : DerpSession) :
    Silent session ↔ (recvFrame session).1.isGot = false ∧ Silent (recvFrame session).2 := by
  constructor
  · intro h
    refine ⟨h 1 _ (by simp [recvFrames]), fun n outcome hmem => h (n + 1) outcome ?_⟩
    rw [recvFrames]
    exact List.mem_cons_of_mem _ hmem
  · rintro ⟨hfirst, hlater⟩ n outcome hmem
    cases n with
    | zero => simp [recvFrames] at hmem
    | succ n =>
      rw [recvFrames] at hmem
      rcases List.mem_cons.mp hmem with rfl | hmem
      · exact hfirst
      · exact hlater n outcome hmem

/-- Only the first call looks at the session. -/
lemma silent_congr {session session' : DerpSession} (h : recvFrame session = recvFrame session') :
    Silent session ↔ Silent session' := by
  rw [silent_iff_next, h, ← silent_iff_next]

lemma silent_of_blocked {session : DerpSession} (h : recvFrame session = (.blocked, session)) :
    Silent session := by
  intro n
  induction n with
  | zero => simp [recvFrames]
  | succ n ih =>
    rw [recvFrames, h]
    intro outcome hmem
    rcases List.mem_cons.mp hmem with rfl | hmem
    · rfl
    · exact ih outcome hmem

/-- No call returns a frame exactly when there is none to be found. -/
theorem silent_iff (buffer : Bytes) (reads : List Read) :
    Silent ⟨buffer, some reads⟩ ↔ framesAhead buffer (delivered reads) = [] := by
  have hframe {buffer : Bytes} {reads : List Read} {u r : Bytes}
      (h : format.scan buffer = .frame u r) :
      Silent ⟨buffer, some reads⟩ ↔ framesAhead buffer (delivered reads) = [] := by
    rw [silent_iff_next, recvFrame_frame h, framesAhead, found_frame h]
    simp [Received.isGot]
  -- a buffer that shows no frame may be taken for one that is too short
  have hshort {buffer : Bytes} {reads : List Read}
      (h : ∀ buffer, format.scan buffer = .short →
        (Silent ⟨buffer, some reads⟩ ↔ framesAhead buffer (delivered reads) = [])) :
      Silent ⟨buffer, some reads⟩ ↔ framesAhead buffer (delivered reads) = [] := by
    rcases hscan : format.scan buffer with _ | _ | ⟨u, r⟩
    · exact h buffer hscan
    · rw [silent_congr (recvFrame_oversized hscan), h [] scan_nil, framesAhead, framesAhead,
        found_oversized hscan]
    · exact hframe hscan
  induction reads generalizing buffer with
  | nil =>
    refine hshort fun buffer h => iff_of_true (silent_of_blocked ?_) (found_nil (by simp [h]))
    simp only [recvFrame, take_eq_scan, h, readLoop]
  | cons read reads ih =>
    refine hshort fun buffer h => ?_
    rcases read with bytes | _ | error
    · have hnone : ∀ u r, format.scan buffer ≠ .frame u r := by simp [h]
      rcases Nat.lt_or_ge receiveCapacity (buffer.length + bytes.length) with hover | hfits
      · have hahead : framesAhead buffer (delivered (.data bytes :: reads)) =
            framesAhead [] (delivered reads) := by
          rw [framesAhead, framesAhead, delivered_data, found_cons hnone, kept_of_short h,
            offered_of_lt hover]
        have hlater := ih []
        rw [silent_iff_next, recvFrame_refused reads h (append_of_lt hover), hahead]
        simpa [Received.isGot] using hlater
      · have hahead : framesAhead buffer (delivered (.data bytes :: reads)) =
            framesAhead (buffer ++ bytes) (delivered reads) := by
          rw [framesAhead, framesAhead, delivered_data, found_cons hnone, kept_of_short h,
            offered_of_le hfits]
        rw [silent_congr (recvFrame_read reads h (append_of_le hfits)), hahead]
        exact ih _
    · have hclosed : recvFrame ⟨buffer, some (.closed :: reads)⟩ =
          (.failed "DERP connection closed", ⟨buffer, some reads⟩) := by
        simp only [recvFrame, take_eq_scan, h, readLoop]
      have hlater := ih buffer
      rw [silent_iff_next, hclosed]
      simpa [Received.isGot] using hlater
    · have hfailed : recvFrame ⟨buffer, some (.failed error :: reads)⟩ =
          (.failed error, ⟨buffer, some reads⟩) := by
        simp only [recvFrame, take_eq_scan, h, readLoop]
      have hlater := ih buffer
      rw [silent_iff_next, hfailed]
      simpa [Received.isGot] using hlater

/-- The call goes on behind the header as on a fresh stream. -/
lemma recvFrame_metOversized (h : metOversized reads buffer = some later) :
    recvFrame ⟨buffer, some reads⟩ = recvFrame ⟨[], some later⟩ := by
  induction reads generalizing buffer with
  | nil =>
    rw [metOversized] at h
    split at h
    · rename_i hscan
      obtain rfl := Option.some.inj h
      exact recvFrame_oversized hscan
    · cases h
  | cons read reads ih =>
    unfold metOversized at h
    split at h
    · rename_i hscan
      obtain rfl := Option.some.inj h
      exact recvFrame_oversized hscan
    · rename_i bytes hscan
      split at h
      · rename_i appended happend
        rw [recvFrame_read reads hscan happend]
        exact ih h
      · cases h
    · cases h

end ArtemisSwitch.Derp

namespace ArtemisSwitch.Control
open Framing Transport Http2 TailscaleControlSession
open Netmap hiding zeroKey
open Noise (Primitives)

/-! ## The control session -/

/-- The call returned an update. -/
def Polled.isReturned : Polled → Bool
  | .returned _ => true
  | _ => false

/-- No call returns an update. -/
def Silent (lib : Primitives) (parse : Bytes → Option Json) (session : TailscaleControlSession) :
    Prop :=
  ∀ n, ∀ outcome ∈ session.polls lib parse n, outcome.isReturned = false

/-- The netmap frames that are found in a buffer of the map stream and the frames behind it. -/
def netmapsAhead (mapStreamId : ℕ) : Bytes → List Http2Frame → List Bytes
  | _, [] => []
  | buffer, frame :: frames =>
    match frameStep mapStreamId buffer frame with
    | (.record json, buffer) => json :: netmapsAhead mapStreamId buffer frames
    | (_, buffer) => netmapsAhead mapStreamId buffer frames

/-- The codec makes no update of the text. -/
def Refuses (parse : Bytes → Option Json) (ids : StableIds) (json : Bytes) : Prop :=
  ∀ update, (decode parse ids json).1 ≠ .returned update

variable {lib : Primitives} {parse : Bytes → Option Json}
  {session session' : TailscaleControlSession} {records : List Bytes}

lemma silent_iff_next (session : TailscaleControlSession) :
    Silent lib parse session ↔ (session.poll lib parse true).1.isReturned = false ∧
      Silent lib parse (session.poll lib parse true).2 := by
  constructor
  · intro h
    refine ⟨h 1 _ (by simp [polls]), fun n outcome hmem => h (n + 1) outcome ?_⟩
    rw [polls]
    exact List.mem_cons_of_mem _ hmem
  · rintro ⟨hfirst, hlater⟩ n outcome hmem
    cases n with
    | zero => simp [polls] at hmem
    | succ n =>
      rw [polls] at hmem
      rcases List.mem_cons.mp hmem with rfl | hmem
      · exact hfirst
      · exact hlater n outcome hmem

lemma silent_congr (h : session.poll lib parse true = session'.poll lib parse true) :
    Silent lib parse session ↔ Silent lib parse session' := by
  rw [silent_iff_next, h, ← silent_iff_next]

/-- What is refused leaves the codec as it was. -/
lemma decode_refused {ids : StableIds} {json : Bytes} (h : Refuses parse ids json) :
    (decode parse ids json).2 = ids := by
  unfold Refuses decode at *
  rcases hdecoded : decodeText parse ids json with (_ | error) | ⟨update, nextIdMap⟩
  · rfl
  · rfl
  · rw [hdecoded] at h
    exact absurd rfl (h update)

lemma deliver_refused {json : Bytes} (h : Refuses parse session.mapCodec json)
    (hstreaming : Streaming lib session records) :
    (deliver parse session json).1.isReturned = false ∧
      Streaming lib (deliver parse session json).2 records ∧
      (deliver parse session json).2.http2Decoder = session.http2Decoder ∧
      (deliver parse session json).2.mapFrameDecoder = session.mapFrameDecoder ∧
      (deliver parse session json).2.mapCodec = session.mapCodec ∧
      (deliver parse session json).2.mapStreamId = session.mapStreamId := by
  have hids := decode_refused h
  rcases hdecoded : (decode parse session.mapCodec json).1 with update | error | _
  · exact absurd hdecoded (h update)
  all_goals
    simp only [deliver, hdecoded, hids, Polled.isReturned, and_self, and_true, true_and]
    exact ⟨hstreaming.ready, hstreaming.recordReader, hstreaming.stream⟩

/-- Calls on a session without frames ahead wait. -/
lemma silent_of_noFrames (h : Streaming lib session records)
    (hframes : framesAhead session.http2Decoder records = []) : Silent lib parse session := by
  intro n
  induction n generalizing session records with
  | zero => simp [polls]
  | succ n ih =>
    obtain ⟨session', hloop, hstreaming, hnone⟩ := pollLoop_blocked h hframes
    rw [polls, poll_streaming h, hloop]
    intro outcome hmem
    rcases List.mem_cons.mp hmem with rfl | hmem
    · rfl
    · exact ih hstreaming hnone outcome hmem

/-- On a connection that holds no call returns an update exactly when the codec refuses
every netmap that is to be found. -/
theorem silent_iff (h : Streaming lib session records) :
    Silent lib parse session ↔
      ∀ json ∈ netmapsAhead session.mapStreamId session.mapFrameDecoder
        (framesAhead session.http2Decoder records), Refuses parse session.mapCodec json := by
  generalize hframes : framesAhead session.http2Decoder records = frames
  induction frames generalizing session records with
  | nil => simp [netmapsAhead, silent_of_noFrames h hframes]
  | cons frame frames ih =>
    obtain ⟨session', records', hloop, hstreaming, hahead, hmap, hcodec, hstream⟩ :=
      pollLoop_frame h hframes
    have hlater := ih hstreaming hahead
    rw [netmapsAhead]
    rcases hstep : frameStep session.mapStreamId session.mapFrameDecoder frame with
      ⟨_ | _ | json, buffer⟩
    all_goals
      rw [hstep] at hloop hmap
      simp only at hmap ⊢
    · -- the call goes on
      have hpoll : session.poll lib parse true = session'.poll lib parse true := by
        rw [poll_streaming h, poll_streaming hstreaming, hloop]
        rfl
      rw [silent_congr hpoll, hlater, hmap, hcodec, hstream]
    · -- the payload was refused, and the call failed
      have hpoll : session.poll lib parse true = (.failed, session') := by
        rw [poll_streaming h, hloop]
        rfl
      rw [silent_iff_next, hpoll, hlater, hmap, hcodec, hstream]
      simp [Polled.isReturned]
    · have hpoll : session.poll lib parse true = deliver parse session' json := by
        rw [poll_streaming h, hloop]
        rfl
      rw [List.forall_mem_cons, silent_iff_next, hpoll, ← hcodec]
      constructor
      · rintro ⟨hfirst, hrest⟩
        have hrefuses : Refuses parse session'.mapCodec json := by
          intro update hdecoded
          simp [deliver, hdecoded, Polled.isReturned] at hfirst
        obtain ⟨-, hstreaming', hhttp2', hmap', hcodec', hstream'⟩ :=
          deliver_refused hrefuses hstreaming
        have hafter := (ih hstreaming' (by rw [hhttp2']; exact hahead)).mp hrest
        rw [hmap', hcodec', hstream', hmap, hstream] at hafter
        exact ⟨hrefuses, hafter⟩
      · rintro ⟨hrefuses, hrest⟩
        obtain ⟨hfirst, hstreaming', hhttp2', hmap', hcodec', hstream'⟩ :=
          deliver_refused hrefuses hstreaming
        refine ⟨hfirst, (ih hstreaming' (by rw [hhttp2']; exact hahead)).mpr ?_⟩
        rw [hmap', hcodec', hstream', hmap, hstream]
        exact hrest

/-! ## Behind the header -/

/-- The loop of one call gets from the first state to the second. -/
def Loops (lib : Primitives) : TailscaleControlSession → TailscaleControlSession → Prop :=
  Relation.ReflTransGen fun session session' => session.pollRound lib = .again session'

/-- A session that `connect` has opened. -/
structure Opened (session : TailscaleControlSession) : Prop where
  ready : session.ready = true
  recordReader : session.recordReader = none
  isSome_transport : session.transport.isSome

lemma pollLoop_of_loops (h : Loops lib session session') :
    session.pollLoop lib = session'.pollLoop lib := by
  induction h with
  | refl => rfl
  | tail _ hround ih => exact ih.trans (pollLoop_again hround)

/-- A call in the middle of its loop goes on like one that starts there. -/
lemma silent_of_loops (hopen : Opened session) (hloops : Loops lib session session')
    (hstreaming : Streaming lib session' records) :
    Silent lib parse session ↔ Silent lib parse session' := by
  apply silent_congr
  rw [poll_open hopen.ready hopen.recordReader hopen.isSome_transport, poll_streaming hstreaming,
    pollLoop_of_loops hloops]

lemma framesAhead_oversized (h : Http2.format.scan session.http2Decoder = .oversized) :
    framesAhead session.http2Decoder records = framesAhead [] records := by
  rw [framesAhead, found_oversized h]
  rfl

lemma netmapsAhead_oversized {mapStreamId : ℕ} {buffer : Bytes} {frame : Http2Frame}
    {frames : List Http2Frame} (hdata : isMapData mapStreamId frame = true)
    (hfits : buffer.length + frame.payload.length ≤ mapCapacity)
    (hscan : MapFrameDecoder.format.scan (buffer ++ frame.payload) = .oversized) :
    netmapsAhead mapStreamId buffer (frame :: frames) = netmapsAhead mapStreamId [] frames := by
  have hstep : frameStep mapStreamId buffer frame = (.next, []) := by
    rw [frameStep, if_pos hdata, mapStep, if_neg (by omega), hscan]
  rw [netmapsAhead, hstep]

/-- Once a reader has met a header over its limit, nothing is returned from then on exactly
when what comes behind the dropped buffer, read as a stream of its own, holds no frame of
DERP, or no netmap that the codec accepts. -/
theorem silent_behind_oversized_iff (lib : Primitives) (parse : Bytes → Option Json) :
    (∀ buffer reads later, Derp.metOversized reads buffer = some later →
      (Derp.Silent ⟨buffer, some reads⟩ ↔ Derp.framesAhead [] (delivered later) = [])) ∧
    (∀ session session' records, Opened session → Loops lib session session' →
      Streaming lib session' records →
      Http2.format.scan session'.http2Decoder = .oversized →
      (Silent lib parse session ↔
        ∀ json ∈ netmapsAhead session'.mapStreamId session'.mapFrameDecoder
          (framesAhead [] records), Refuses parse session'.mapCodec json)) ∧
    ∀ session session' records u rest, Opened session → Loops lib session session' →
      Streaming lib session' records →
      Http2.format.scan session'.http2Decoder = .frame u rest →
      isMapData session'.mapStreamId (frameOf u) = true →
      session'.mapFrameDecoder.length + (frameOf u).payload.length ≤ mapCapacity →
      MapFrameDecoder.format.scan (session'.mapFrameDecoder ++ (frameOf u).payload) = .oversized →
      (Silent lib parse session ↔
        ∀ json ∈ netmapsAhead session'.mapStreamId [] (framesAhead rest records),
          Refuses parse session'.mapCodec json) := by
  refine ⟨?_, ?_, ?_⟩
  · intro buffer reads later hmet
    rw [Derp.silent_congr (Derp.recvFrame_metOversized hmet)]
    exact Derp.silent_iff [] later
  · intro session session' records hopen hloops hstreaming hscan
    rw [silent_of_loops hopen hloops hstreaming, silent_iff hstreaming,
      framesAhead_oversized hscan]
  · intro session session' records u rest hopen hloops hstreaming hframe hdata hfits hscan
    have hahead : framesAhead session'.http2Decoder records =
        frameOf u :: framesAhead rest records := by
      rw [framesAhead, found_frame hframe]
      rfl
    rw [silent_of_loops hopen hloops hstreaming, silent_iff hstreaming, hahead,
      netmapsAhead_oversized hdata hfits hscan]

/-! ## What the code does there -/

/-- The header of an HTTP/2 frame with one byte more than the limit. -/
def oversizedHttp2Header : Bytes :=
  write24 (Http2FrameDecoder.kMaxFrameSize + 1) ++ [0, 0] ++ write32 1

/-- The header of a netmap frame with one byte more than the limit. -/
def oversizedMapHeader : Bytes :=
  MapFrameDecoder.writeLittleEndian32 (MapFrameDecoder.kMaxFrameSize + 1)

def keepAliveData : Bytes := buildHttp2DataFrame 1 (MapFrameDecoder.encoded keepAliveText) false

/-- Each reader meets a header over its limit and returns what comes in the next read. -/
theorem returns_behind_oversized :
    (Derp.metOversized [.data [4, 0, 16, 0, 1], .data [6, 0, 0, 0, 0]] [] =
        some [.data [6, 0, 0, 0, 0]] ∧
      Derp.recvFrames 1 ⟨[], some [.data [4, 0, 16, 0, 1], .data [6, 0, 0, 0, 0]]⟩ =
        [.got ⟨6, []⟩]) ∧
    (Http2.format.scan oversizedHttp2Header = .oversized ∧
      (receivingSession [oversizedHttp2Header, keepAliveData]).polls Noise.toyLibrary
        keepAliveParse 1 = [.returned {}]) ∧
    (MapFrameDecoder.format.scan oversizedMapHeader = .oversized ∧
      (receivingSession [buildHttp2DataFrame 1 oversizedMapHeader false, keepAliveData]).polls
        Noise.toyLibrary keepAliveParse 1 = [.returned {}]) := by
  refine ⟨⟨by decide +kernel, by decide +kernel⟩, ⟨?_, ?_⟩, ?_, ?_⟩
  · exact scan_eq_oversized.mpr (by decide +kernel)
  · exact polls_of_within 9 (by decide +kernel)
  · exact scan_eq_oversized.mpr (by decide +kernel)
  · exact polls_of_within 9 (by decide +kernel)

/-- A session whose records are all queued. -/
def queuedSession (http2Decoder : Bytes) (records : List Bytes) : TailscaleControlSession where
  ready := true
  transport := some { reads := [] }
  noise := some Noise.readyClient
  plaintextQueue := records
  http2Decoder := http2Decoder
  mapStreamId := 1

lemma queuedSession_streaming (http2Decoder : Bytes) (records : List Bytes) :
    Streaming Noise.toyLibrary (queuedSession http2Decoder records) records := by
  refine ⟨rfl, rfl, Noise.readyClient, { reads := [] }, [], [], Noise.readyClient, rfl, rfl, rfl,
    ?_, rfl, rfl, ?_⟩
  · intro answer hanswer
    cases hanswer
  · simp [queuedSession]

/-- A keep-alive behind the header, for each of the readers. -/
theorem silent_behind_oversized_keepAlive :
    (Derp.Silent ⟨[], some [.data [4, 0, 16, 0, 1], .data [6, 0, 0, 0, 0]]⟩ ↔
      Derp.framesAhead [] [[6, 0, 0, 0, 0]] = []) ∧
    (Silent Noise.toyLibrary keepAliveParse
        (queuedSession oversizedHttp2Header [keepAliveData]) ↔
      ∀ json ∈ netmapsAhead 1 [] (framesAhead [] [keepAliveData]),
        Refuses keepAliveParse ∅ json) ∧
    (Silent Noise.toyLibrary keepAliveParse
        (queuedSession (buildHttp2DataFrame 1 oversizedMapHeader false) [keepAliveData]) ↔
      ∀ json ∈ netmapsAhead 1 [] (framesAhead [] [keepAliveData]),
        Refuses keepAliveParse ∅ json) := by
  have hopened (http2Decoder : Bytes) (records : List Bytes) :
      Opened (queuedSession http2Decoder records) := ⟨rfl, rfl, rfl⟩
  have hlegal : Http2Frame.Legal ⟨4, 0x00, 0x00, 1, oversizedMapHeader⟩ :=
    ⟨by decide, by decide, by decide⟩
  have hframe : Http2.format.scan (buildHttp2DataFrame 1 oversizedMapHeader false) =
      .frame (buildHttp2DataFrame 1 oversizedMapHeader false) [] := by
    have hscan := scan_frame_append hlegal.isFrame []
    rw [List.append_nil] at hscan
    exact hscan
  obtain ⟨hderp, hhttp2, hmap⟩ := silent_behind_oversized_iff Noise.toyLibrary keepAliveParse
  refine ⟨hderp [] [.data [4, 0, 16, 0, 1], .data [6, 0, 0, 0, 0]] [.data [6, 0, 0, 0, 0]]
      (by decide +kernel),
    hhttp2 _ _ _ (hopened _ _) .refl (queuedSession_streaming _ _)
      (scan_eq_oversized.mpr (by decide +kernel)),
    hmap _ _ _ _ _ (hopened _ _) .refl (queuedSession_streaming _ _) hframe (by decide +kernel)
      (by decide +kernel) (scan_eq_oversized.mpr (by decide +kernel))⟩

end ArtemisSwitch.Control

import ArtemisSwitch.Library.Runs
import Mathlib.Algebra.Order.Ring.Int
import Mathlib.Data.List.Basic
import Mathlib.Tactic.Common

/-!
# Statistics of the video decoder

What `FFmpegVideoDecoder` counts while units are submitted.  The clocks and what FFmpeg does are
given; the rates of the cache, which are only shown, are left out.
-/

namespace ArtemisSwitch.Decoder
open Runs

/-- Nanoseconds of the steady clock. -/
abbrev Time := ℤ

/-! ## The decoder -/

structure VideoDecodeStats where
  currentReceivedFrames : UInt32 := 0
  currentDecodedFrames : UInt32 := 0
  totalFrames : UInt32 := 0
  networkDroppedFrames : UInt32 := 0
  currentReassemblyTime : UInt32 := 0
  currentDecodeTime : UInt32 := 0
  currentDecoderDelayTime : UInt32 := 0
  totalReceivedFrames : UInt32 := 0
  totalDecodedFrames : UInt32 := 0
  totalReassemblyTime : UInt32 := 0
  totalDecodeTime : UInt32 := 0
  totalDecoderDelayTime : UInt32 := 0
  measurementStartTimestamp : UInt64 := 0
  measurementStartUs : UInt64 := 0
  deriving DecidableEq

structure FFmpegVideoDecoder where
  streamFps : Int32 := 0
  framesIn : Int32 := 0
  framesOut : Int32 := 0
  lastFrame : UInt32 := 0
  progress : VideoDecodeStats := {}
  cache : VideoDecodeStats := {}
  statsWindowStart : Time := 0
  statsWindowStarted : Bool := false
  statsWindowBytes : UInt64 := 0
  deriving DecidableEq

structure DecodeUnit where
  frameNumber : Int32
  fullLength : Int32
  receiveTimeUs : UInt64 := 0
  deriving DecidableEq

/-- What the clocks show during a submission: the steady clock, and `LiGetMillis` when it is asked
for the first, the second and the third time. -/
structure Clocks where
  packetArrival : Time := 0
  beforeDecode : Time := 0
  afterDecode : Time := 0
  startMillis : UInt64 := 0
  decodeMillis : UInt64 := 0
  windowMillis : UInt64 := 0
  deriving DecidableEq

/-- The frames that `drain_frames` has pushed, and whether an error ended it. -/
structure Drained where
  frames : ℕ := 0
  failed : Bool := false
  deriving DecidableEq

inductive Sent
  | accepted
  /-- `EAGAIN` -/
  | full
  | failed
  deriving DecidableEq

/-- What FFmpeg does in a submission: whether the decoder is open or can be opened now, what becomes
of the packet and of a second attempt, and the frames that are drained between and after. -/
structure Outcome where
  ready : Bool := true
  sent : Sent := .accepted
  drainedBefore : Drained := {}
  resent : Bool := true
  drained : Drained := {}
  deriving DecidableEq

inductive Status
  | ok
  | needIdr
  deriving DecidableEq

def decoderBufferSize : Int32 := 1024 * 1024

def kStatsWindow : ℤ := 250000000

/-- The frames that `decode` counts, unless it returns an error. -/
def decode (o : Outcome) : Option ℕ :=
  let finish (decodedFrames : ℕ) : Option ℕ :=
    if o.drained.failed then none else some (decodedFrames + o.drained.frames)
  match o.sent with
  | .failed => none
  | .accepted => finish 0
  | .full =>
    if o.drainedBefore.failed then none
    else if o.resent then finish o.drainedBefore.frames
    else none

namespace FFmpegVideoDecoder

variable (d : FFmpegVideoDecoder)

def setup (redrawRate : Int32) : FFmpegVideoDecoder := { d with streamFps := redrawRate }

def cleanup : FFmpegVideoDecoder :=
  { d with
    statsWindowStarted := false
    statsWindowBytes := 0
    progress := {}
    cache := {} }

/-- The first unit starts the window. -/
def startWindow (u : DecodeUnit) (t : Clocks) : FFmpegVideoDecoder :=
  let d :=
    if d.statsWindowStarted then d
    else { d with
      statsWindowStart := t.packetArrival
      statsWindowStarted := true
      progress := { d.progress with
        measurementStartTimestamp := t.startMillis
        measurementStartUs := UInt64.ofInt (t.packetArrival.tdiv 1000) } }
  { d with statsWindowBytes := d.statsWindowBytes + u.fullLength.toInt64.toUInt64 }

/-- The frame numbers since the last unit are those of dropped frames. -/
def noteReceived (u : DecodeUnit) : FFmpegVideoDecoder :=
  let d :=
    if d.lastFrame = 0 then { d with lastFrame := u.frameNumber.toUInt32 }
    else
      let dropped := u.frameNumber.toUInt32 - (d.lastFrame + 1)
      { d with
        lastFrame := u.frameNumber.toUInt32
        progress := { d.progress with
          networkDroppedFrames := d.progress.networkDroppedFrames + dropped
          totalFrames := d.progress.totalFrames + dropped } }
  { d with progress := { d.progress with
      currentReceivedFrames := d.progress.currentReceivedFrames + 1
      totalFrames := d.progress.totalFrames + 1 } }

/-- The unit is put together and handed to FFmpeg. -/
def noteReassembled (u : DecodeUnit) (t : Clocks) : FFmpegVideoDecoder :=
  { d with
    framesIn := d.framesIn + 1
    progress := { d.progress with
      currentReassemblyTime := d.progress.currentReassemblyTime +
        (t.decodeMillis - u.receiveTimeUs / 1000).toUInt32 } }

def noteDecoded (decodedFrames : ℕ) (t : Clocks) : FFmpegVideoDecoder :=
  let framesOut := d.framesOut + Int32.ofNat decodedFrames
  let pendingFrames := if d.framesIn - framesOut < 0 then 0 else d.framesIn - framesOut
  { d with
    framesOut := framesOut
    progress := { d.progress with
      currentDecodeTime := d.progress.currentDecodeTime +
        UInt32.ofNat ((t.afterDecode - t.beforeDecode).toNat / 1000)
      currentDecoderDelayTime := d.progress.currentDecoderDelayTime +
        (pendingFrames * (1000 / d.streamFps)).toUInt32
      currentDecodedFrames := d.progress.currentDecodedFrames + UInt32.ofNat decodedFrames } }

/-- The totals and the dropped frames go on into the next window. -/
def rollWindow (t : Clocks) : FFmpegVideoDecoder :=
  let cache := d.progress
  { d with
    cache := cache
    statsWindowStart := t.afterDecode
    statsWindowBytes := 0
    progress := {
      totalReceivedFrames := cache.totalReceivedFrames + cache.currentReceivedFrames
      totalDecodedFrames := cache.totalDecodedFrames + cache.currentDecodedFrames
      totalReassemblyTime := cache.totalReassemblyTime + cache.currentReassemblyTime
      totalDecodeTime := cache.totalDecodeTime + cache.currentDecodeTime
      totalDecoderDelayTime := cache.totalDecoderDelayTime + cache.currentDecoderDelayTime
      networkDroppedFrames := cache.networkDroppedFrames
      measurementStartTimestamp := t.windowMillis
      measurementStartUs := UInt64.ofInt (t.afterDecode.tdiv 1000) } }

def endsWindow (t : Clocks) : Bool := kStatsWindow ≤ t.afterDecode - d.statsWindowStart

/-- The decoder after the submission, what is returned, and whether the session is restarted. -/
def submitDecodeUnit (u : DecodeUnit) (t : Clocks) (o : Outcome) :
    FFmpegVideoDecoder × Status × Bool :=
  if u.fullLength < decoderBufferSize then
    let d := (d.startWindow u t).noteReceived u
    if !o.ready then (d, .needIdr, false)
    else
      let d := d.noteReassembled u t
      match decode o with
      | none => (d, .ok, true)
      | some decodedFrames =>
        if decodedFrames = 0 then (d, .ok, false)
        else
          let d := d.noteDecoded decodedFrames t
          if d.endsWindow t then (d.rollWindow t, .ok, false) else (d, .ok, false)
  else (d, .ok, false)

end FFmpegVideoDecoder

/-! ## Sessions -/

/-- What has really happened since the last window of the statistics ended. -/
structure Window where
  units : ℕ := 0
  skipped : ℕ := 0
  decoded : ℕ := 0
  deriving DecidableEq

/-- What has really happened in a session: the frame numbers that were submitted, and how many
frames were decoded. -/
structure Session where
  submitted : List Int32 := []
  decoded : ℕ := 0
  window : Window := {}
  deriving DecidableEq

structure State where
  decoder : FFmpegVideoDecoder := {}
  session : Option Session := none
  deriving DecidableEq

inductive Call
  /-- A setup that fails may have cleaned up or not. -/
  | setup (redrawRate : Int32) (ok cleanedUp : Bool)
  | submit (u : DecodeUnit) (t : Clocks) (o : Outcome)
  | cleanup

/-- The frame numbers between a unit and the one before it. -/
def skippedBefore (submitted : List Int32) (frameNumber : Int32) : ℕ :=
  match submitted.getLast? with
  | none => 0
  | some last => (frameNumber.toInt - last.toInt - 1).toNat

/-- All frame numbers that were left out. -/
def skipped : List Int32 → ℕ
  | a :: b :: rest => (b.toInt - a.toInt - 1).toNat + skipped (b :: rest)
  | _ => 0

namespace Outcome

/-- The frames that FFmpeg hands out in a submission. -/
def pushed (o : Outcome) : ℕ :=
  match o.sent with
  | .failed => 0
  | .accepted => o.drained.frames
  | .full =>
    if o.drainedBefore.failed ∨ !o.resent then o.drainedBefore.frames
    else o.drainedBefore.frames + o.drained.frames

end Outcome

/-- The unit is small enough and the decoder is open. -/
def Decodes (u : DecodeUnit) (o : Outcome) : Prop :=
  u.fullLength < decoderBufferSize ∧ o.ready = true

instance (u : DecodeUnit) (o : Outcome) : Decidable (Decodes u o) :=
  inferInstanceAs (Decidable (_ ∧ _))

/-- A window of the statistics ends with a submission that decodes frames. -/
def WindowEnds (d : FFmpegVideoDecoder) (u : DecodeUnit) (t : Clocks) (o : Outcome) : Prop :=
  Decodes u o ∧ decode o ≠ none ∧ decode o ≠ some 0 ∧ (d.startWindow u t).endsWindow t = true

instance (d : FFmpegVideoDecoder) (u : DecodeUnit) (t : Clocks) (o : Outcome) :
    Decidable (WindowEnds d u t o) := inferInstanceAs (Decidable (_ ∧ _ ∧ _ ∧ _))

/-- The session once a unit was submitted that brought `pushed` frames. -/
def Session.note (s : Session) (frameNumber : Int32) (pushed : ℕ) (windowEnds : Bool) : Session :=
  { submitted := s.submitted ++ [frameNumber]
    decoded := s.decoded + pushed
    window :=
      if windowEnds then {}
      else
        { units := s.window.units + 1
          skipped := s.window.skipped + skippedBefore s.submitted frameNumber
          decoded := s.window.decoded + pushed } }

/-- Within a session the frame numbers start at 1 or above and increase. -/
def Session.Accepts (s : Session) (frameNumber : Int32) : Prop :=
  1 ≤ frameNumber ∧ ∀ last ∈ s.submitted.getLast?, last < frameNumber

instance (s : Session) (frameNumber : Int32) : Decidable (s.Accepts frameNumber) :=
  @instDecidableAnd _ _ inferInstance (Option.decidableForallMem _)

namespace State

def step (st : State) : Call → Option State
  | .setup redrawRate ok cleanedUp =>
    if st.session.isSome then none
    else
      let d := st.decoder.setup redrawRate
      if ok then some ⟨d, some {}⟩ else some ⟨if cleanedUp then d.cleanup else d, none⟩
  | .submit u t o =>
    match st.session with
    | none => none
    | some s =>
      if s.Accepts u.frameNumber then
        let pushed := if Decodes u o then o.pushed else 0
        some {
          decoder := (st.decoder.submitDecodeUnit u t o).1
          session := some (s.note u.frameNumber pushed (WindowEnds st.decoder u t o)) }
      else none
  | .cleanup => some ⟨st.decoder.cleanup, none⟩

end State

/-! ## Frame numbers -/

lemma toUInt32_toNat {n : Int32} (h : 1 ≤ n) : (n.toUInt32.toNat : ℤ) = n.toInt ∧ 1 ≤ n.toInt := by
  have hone : 1 ≤ n.toInt := by simpa [Int32.le_iff_toInt_le] using h
  have hnonneg : 0 ≤ n := by
    rw [Int32.le_iff_toInt_le, Int32.toInt_zero]
    omega
  rw [Int32.toNat_toUInt32_of_le hnonneg]
  exact ⟨Int.toNat_of_nonneg (by omega), hone⟩

lemma skipped_concat (submitted : List Int32) (n : Int32) :
    skipped (submitted ++ [n]) = skipped submitted + skippedBefore submitted n := by
  induction submitted with
  | nil => rfl
  | cons a rest ih =>
    cases rest with
    | nil => exact (Nat.zero_add _).symm
    | cons b rest =>
      have hlast : skippedBefore (a :: b :: rest) n = skippedBefore (b :: rest) n := by
        rw [skippedBefore, skippedBefore, List.getLast?_cons_cons]
      rw [hlast, skipped]
      change _ + skipped (b :: rest ++ [n]) = _
      rw [ih]
      omega

/-! ## Exact statistics -/

/-- The statistics are those of the session. -/
structure Counted (p : VideoDecodeStats) (s : Session) : Prop where
  dropped : p.networkDroppedFrames.toNat = skipped s.submitted
  received : p.totalReceivedFrames.toNat + p.currentReceivedFrames.toNat = s.submitted.length
  decoded : p.totalDecodedFrames.toNat + p.currentDecodedFrames.toNat = s.decoded

/-- No counter of the window has wrapped around. -/
structure CountedWindow (p : VideoDecodeStats) (w : Window) : Prop where
  received : p.currentReceivedFrames.toNat = w.units
  decoded : p.currentDecodedFrames.toNat = w.decoded
  total : p.totalFrames.toNat = w.units + w.skipped

/-- The frame numbers of a session leave room for its counters. -/
structure Session.Roomy (s : Session) : Prop where
  last : ∀ last ∈ s.submitted.getLast?, (s.submitted.length + skipped s.submitted : ℤ) ≤ last.toInt
  window : s.window.units + s.window.skipped ≤ s.submitted.length + skipped s.submitted
  decoded : s.decoded < 2 ^ 32

structure Exact (d : FFmpegVideoDecoder) (s : Session) : Prop where
  counted : Counted d.progress s
  window : CountedWindow d.progress s.window
  last : ∀ last ∈ s.submitted.getLast?, (d.lastFrame.toNat : ℤ) = last.toInt
  roomy : s.Roomy

variable {d : FFmpegVideoDecoder} {s : Session} {u : DecodeUnit} {t : Clocks} {o : Outcome}

lemma exact_start (h : d.progress = {}) : Exact d {} := by
  have hnone : ∀ last ∈ ([] : List Int32).getLast?, False := by simp
  refine ⟨?_, ?_, fun last hlast => (hnone last hlast).elim, ?_⟩
  · rw [h]
    exact ⟨rfl, rfl, rfl⟩
  · rw [h]
    exact ⟨rfl, rfl, rfl⟩
  · exact ⟨fun last hlast => (hnone last hlast).elim, le_rfl, by decide⟩

/-- Only the counters of frames and the last frame number matter. -/
lemma Exact.of_same {d' : FFmpegVideoDecoder} (h : Exact d s) (hlast : d'.lastFrame = d.lastFrame)
    (hcounters : (d'.progress.networkDroppedFrames, d'.progress.totalFrames,
        d'.progress.currentReceivedFrames, d'.progress.totalReceivedFrames,
        d'.progress.currentDecodedFrames, d'.progress.totalDecodedFrames) =
      (d.progress.networkDroppedFrames, d.progress.totalFrames, d.progress.currentReceivedFrames,
        d.progress.totalReceivedFrames, d.progress.currentDecodedFrames,
        d.progress.totalDecodedFrames)) : Exact d' s := by
  simp only [Prod.mk.injEq] at hcounters
  obtain ⟨hdropped, htotal, hreceived, hreceived', hdecoded, hdecoded'⟩ := hcounters
  refine ⟨⟨?_, ?_, ?_⟩, ⟨?_, ?_, ?_⟩, ?_, h.roomy⟩
  · rw [hdropped, h.counted.dropped]
  · rw [hreceived, hreceived', h.counted.received]
  · rw [hdecoded, hdecoded', h.counted.decoded]
  · rw [hreceived, h.window.received]
  · rw [hdecoded, h.window.decoded]
  · rw [htotal, h.window.total]
  · rw [hlast]
    exact h.last

lemma Exact.startWindow (h : Exact d s) (u : DecodeUnit) (t : Clocks) :
    Exact (d.startWindow u t) s := by
  unfold FFmpegVideoDecoder.startWindow
  dsimp only
  split_ifs
  · exact h.of_same rfl rfl
  · exact h.of_same rfl rfl

lemma Exact.noteReassembled (h : Exact d s) (u : DecodeUnit) (t : Clocks) :
    Exact (d.noteReassembled u t) s :=
  h.of_same rfl rfl

/-- The session with one more unit, of which nothing is decoded yet. -/
def Session.submit (s : Session) (frameNumber : Int32) : Session := s.note frameNumber 0 false

/-- The session with `n` more frames. -/
def Session.decode (s : Session) (n : ℕ) : Session :=
  { s with decoded := s.decoded + n, window := { s.window with decoded := s.window.decoded + n } }

lemma Session.roomy_submit (h : s.Roomy) {n : Int32} (hn : s.Accepts n) : (s.submit n).Roomy := by
  obtain ⟨-, hone⟩ := toUInt32_toNat hn.1
  have hskipped := skipped_concat s.submitted n
  have hroom : (s.submitted.length + 1 + (skipped s.submitted + skippedBefore s.submitted n) : ℤ) ≤
      n.toInt := by
    unfold skippedBefore
    cases hlast : s.submitted.getLast? with
    | none =>
      rw [List.getLast?_eq_none_iff.mp hlast]
      simpa [skipped] using hone
    | some last =>
      have hless : last.toInt < n.toInt := Int32.lt_iff_toInt_lt.mp (hn.2 last hlast)
      have hroom := h.last last hlast
      dsimp only
      omega
  refine ⟨?_, ?_, h.decoded⟩
  · intro last hlast
    rw [Session.submit, Session.note, List.getLast?_concat, Option.mem_some_iff] at hlast
    rw [← hlast, Session.submit, Session.note, hskipped, List.length_append, List.length_singleton]
    push_cast
    exact hroom
  · have hwindow := h.window
    rw [Session.submit, Session.note, hskipped, List.length_append, List.length_singleton,
      if_neg (by decide)]
    dsimp only
    omega

/-- The frame numbers that the decoder takes for dropped ones are those that were skipped, unless
the first unit follows on another session. -/
lemma noteReceived_eq (h : Exact d s) (hn : s.Accepts u.frameNumber)
    (hfirst : s.submitted = [] → d.lastFrame = 0 ∨ u.frameNumber.toUInt32 = d.lastFrame + 1) :
    ∃ gap : UInt32, gap.toNat = skippedBefore s.submitted u.frameNumber ∧
      d.noteReceived u = { d with
        lastFrame := u.frameNumber.toUInt32
        progress := { d.progress with
          networkDroppedFrames := d.progress.networkDroppedFrames + gap
          totalFrames := d.progress.totalFrames + gap + 1
          currentReceivedFrames := d.progress.currentReceivedFrames + 1 } } := by
  obtain ⟨hnumber, hone⟩ := toUInt32_toNat hn.1
  unfold FFmpegVideoDecoder.noteReceived
  cases hlast : s.submitted.getLast? with
  | none =>
    have hempty := List.getLast?_eq_none_iff.mp hlast
    refine ⟨0, by rw [hempty]; rfl, ?_⟩
    by_cases hzero : d.lastFrame = 0
    · rw [if_pos hzero, UInt32.add_zero, UInt32.add_zero]
    · have hnext := (hfirst hempty).resolve_left hzero
      rw [if_neg hzero, hnext, UInt32.sub_self]
  | some last =>
    have hlastFrame : (d.lastFrame.toNat : ℤ) = last.toInt := h.last last hlast
    have hless : last.toInt < u.frameNumber.toInt := Int32.lt_iff_toInt_lt.mp (hn.2 last hlast)
    have hpos : 1 ≤ last.toInt := by
      have hlength := List.length_pos_of_mem (List.mem_of_getLast? hlast)
      have hroom := h.roomy.last last hlast
      omega
    have hzero : d.lastFrame ≠ 0 := by
      intro hzero
      rw [hzero, UInt32.toNat_zero] at hlastFrame
      omega
    refine ⟨u.frameNumber.toUInt32 - (d.lastFrame + 1), ?_, ?_⟩
    · have hbound := u.frameNumber.toInt_lt
      have hsucc : (d.lastFrame + 1).toNat = d.lastFrame.toNat + 1 := by
        rw [UInt32.toNat_add, UInt32.toNat_one]
        omega
      have hle : d.lastFrame + 1 ≤ u.frameNumber.toUInt32 := by
        rw [UInt32.le_iff_toNat_le, hsucc]
        omega
      rw [UInt32.toNat_sub_of_le _ _ hle, hsucc, skippedBefore, hlast]
      dsimp only
      omega
    · rw [if_neg hzero]

lemma Exact.noteReceived (h : Exact d s) (hn : s.Accepts u.frameNumber)
    (hfirst : s.submitted = [] → d.lastFrame = 0 ∨ u.frameNumber.toUInt32 = d.lastFrame + 1) :
    Exact (d.noteReceived u) (s.submit u.frameNumber) := by
  obtain ⟨gap, hgap, heq⟩ := noteReceived_eq h hn hfirst
  obtain ⟨hnumber, -⟩ := toUInt32_toNat hn.1
  have hroomy := Session.roomy_submit h.roomy hn
  have hskipped := skipped_concat s.submitted u.frameNumber
  -- All counters stay below the frame number.
  have hroom := hroomy.last u.frameNumber (by simp [Session.submit, Session.note])
  have hwindow := hroomy.window
  have hbound := u.frameNumber.toInt_lt
  rw [Session.submit, Session.note, List.length_append, List.length_singleton, hskipped] at hroom
  rw [Session.submit, Session.note, List.length_append, List.length_singleton, hskipped,
    if_neg (by decide)] at hwindow
  dsimp only at hroom hwindow
  have hdropped := h.counted.dropped
  have hreceived := h.counted.received
  have htotal := h.window.total
  rw [heq]
  refine ⟨⟨?_, ?_, h.counted.decoded⟩, ⟨?_, h.window.decoded, ?_⟩, ?_, hroomy⟩
  · rw [Session.submit, Session.note, hskipped]
    dsimp only
    rw [UInt32.toNat_add, hgap, hdropped]
    omega
  · rw [Session.submit, Session.note, List.length_append, List.length_singleton]
    dsimp only
    rw [UInt32.toNat_add, UInt32.toNat_one]
    omega
  · rw [Session.submit, Session.note, if_neg (by decide)]
    dsimp only
    rw [UInt32.toNat_add, UInt32.toNat_one, h.window.received]
    omega
  · rw [Session.submit, Session.note, if_neg (by decide)]
    dsimp only
    rw [UInt32.toNat_add, UInt32.toNat_add, UInt32.toNat_one, hgap, htotal]
    omega
  · intro last hlast
    rw [Session.submit, Session.note, List.getLast?_concat, Option.mem_some_iff] at hlast
    rw [← hlast]
    exact hnumber

lemma Exact.noteDecoded {n : ℕ} (h : Exact d s) (hn : s.decoded + n < 2 ^ 32) (t : Clocks) :
    Exact (d.noteDecoded n t) (s.decode n) := by
  have hdecoded := h.counted.decoded
  have hwindow := h.window.decoded
  have hcount : (d.progress.currentDecodedFrames + UInt32.ofNat n).toNat =
      d.progress.currentDecodedFrames.toNat + n := by
    rw [UInt32.toNat_add, UInt32.toNat_ofNat']
    omega
  refine ⟨⟨h.counted.dropped, h.counted.received, ?_⟩, ⟨h.window.received, ?_, h.window.total⟩,
    h.last, ⟨h.roomy.last, h.roomy.window, hn⟩⟩
  · change d.progress.totalDecodedFrames.toNat +
      (d.progress.currentDecodedFrames + UInt32.ofNat n).toNat = s.decoded + n
    omega
  · change (d.progress.currentDecodedFrames + UInt32.ofNat n).toNat = s.window.decoded + n
    omega

/-- A window ends: its statistics are kept, and the session goes on in an empty one. -/
lemma Exact.rollWindow (h : Exact d s) (t : Clocks) :
    Exact (d.rollWindow t) { s with window := {} } ∧ Counted (d.rollWindow t).cache s := by
  have hreceived := h.counted.received
  have hdecoded := h.counted.decoded
  have hlength : s.submitted.length < 2 ^ 32 := by
    cases hlast : s.submitted.getLast? with
    | none =>
      rw [List.getLast?_eq_none_iff.mp hlast]
      decide
    | some last =>
      have hroom := h.roomy.last last hlast
      have hbound := last.toInt_lt
      omega
  have hroom := h.roomy.decoded
  refine ⟨⟨⟨h.counted.dropped, ?_, ?_⟩, ⟨rfl, rfl, rfl⟩, h.last,
    ⟨h.roomy.last, Nat.zero_le _, hroom⟩⟩, ⟨h.counted.dropped, hreceived, hdecoded⟩⟩
  · change (d.progress.totalReceivedFrames + d.progress.currentReceivedFrames).toNat + 0 =
      s.submitted.length
    rw [UInt32.toNat_add]
    omega
  · change (d.progress.totalDecodedFrames + d.progress.currentDecodedFrames).toNat + 0 = s.decoded
    rw [UInt32.toNat_add]
    omega

/-! ## Submissions -/

/-- The statistics take a unit as it is: a first unit follows on the last frame number that the
decoder knows, the unit fits the buffer, no frame is lost to an error, and the session has decoded
fewer than 2^32 frames. -/
def Counts (d : FFmpegVideoDecoder) (s : Session) (u : DecodeUnit) (o : Outcome) : Prop :=
  (s.submitted = [] → d.lastFrame = 0 ∨ u.frameNumber.toUInt32 = d.lastFrame + 1) ∧
    u.fullLength < decoderBufferSize ∧
    (o.ready = true → decode o = none → o.pushed = 0) ∧
    (o.ready = true → s.decoded + o.pushed < 2 ^ 32)

instance (d : FFmpegVideoDecoder) (s : Session) (u : DecodeUnit) (o : Outcome) :
    Decidable (Counts d s u o) := inferInstanceAs (Decidable (_ ∧ _ ∧ _ ∧ _))

lemma pushed_of_decode {n : ℕ} (h : decode o = some n) : o.pushed = n := by
  unfold decode at h
  unfold Outcome.pushed
  dsimp only at h
  cases hsent : o.sent with
  | failed => simp [hsent] at h
  | accepted =>
    rw [hsent] at h
    dsimp only at h ⊢
    split_ifs at h
    exact (Nat.zero_add _).symm.trans (Option.some.inj h)
  | full =>
    rw [hsent] at h
    dsimp only at h ⊢
    split_ifs at h with hbefore hresent
    rw [if_neg (by simp [hbefore, hresent])]
    exact Option.some.inj h

lemma startWindow_lastFrame (d : FFmpegVideoDecoder) (u : DecodeUnit) (t : Clocks) :
    (d.startWindow u t).lastFrame = d.lastFrame := by
  unfold FFmpegVideoDecoder.startWindow
  dsimp only
  split_ifs
  · rfl
  · rfl

/-- What comes between does not move the start of the window. -/
lemma endsWindow_eq (d : FFmpegVideoDecoder) (u : DecodeUnit) (t : Clocks) (n : ℕ) :
    (((d.noteReceived u).noteReassembled u t).noteDecoded n t).endsWindow t = d.endsWindow t := by
  have hstart : (d.noteReceived u).statsWindowStart = d.statsWindowStart := by
    unfold FFmpegVideoDecoder.noteReceived
    dsimp only
    split_ifs
    · rfl
    · rfl
  unfold FFmpegVideoDecoder.endsWindow
  rw [← hstart]
  rfl

lemma Exact.submit (h : Exact d s) (hn : s.Accepts u.frameNumber) (hcounts : Counts d s u o)
    (t : Clocks) :
    let s' := s.note u.frameNumber (if Decodes u o then o.pushed else 0) (WindowEnds d u t o)
    Exact (d.submitDecodeUnit u t o).1 s' ∧
      (WindowEnds d u t o → Counted (d.submitDecodeUnit u t o).1.cache s') := by
  obtain ⟨hfirst, hfits, herror, hfew⟩ := hcounts
  have hreceived : Exact ((d.startWindow u t).noteReceived u) (s.submit u.frameNumber) := by
    refine (h.startWindow u t).noteReceived hn ?_
    rwa [startWindow_lastFrame]
  rw [FFmpegVideoDecoder.submitDecodeUnit, if_pos hfits]
  dsimp only
  by_cases hready : o.ready = true
  · have hdecodes : Decodes u o := ⟨hfits, hready⟩
    rw [if_neg (by simp [hready]), if_pos hdecodes]
    have hreassembled := hreceived.noteReassembled u t
    cases hdecode : decode o with
    | none =>
      have hno : ¬WindowEnds d u t o := fun hends => hends.2.1 hdecode
      rw [herror hready hdecode, decide_eq_false hno]
      exact ⟨hreassembled, fun hends => absurd hends hno⟩
    | some n =>
      have hpushed := pushed_of_decode hdecode
      dsimp only
      by_cases hzero : n = 0
      · have hno : ¬WindowEnds d u t o := fun hends => hends.2.2.1 (hzero ▸ hdecode)
        rw [if_pos hzero, hpushed, hzero, decide_eq_false hno]
        exact ⟨hreassembled, fun hends => absurd hends hno⟩
      · have hroom : (s.submit u.frameNumber).decoded + n < 2 ^ 32 := hpushed ▸ hfew hready
        have hdecoded := hreassembled.noteDecoded hroom t
        rw [if_neg hzero, endsWindow_eq, hpushed]
        by_cases hend : (d.startWindow u t).endsWindow t = true
        · have hends : WindowEnds d u t o :=
            ⟨hdecodes, by simp [hdecode], by simpa [hdecode] using hzero, hend⟩
          rw [if_pos hend, decide_eq_true hends]
          obtain ⟨hrolled, hcache⟩ := hdecoded.rollWindow t
          exact ⟨hrolled, fun _ => ⟨hcache.dropped, hcache.received, hcache.decoded⟩⟩
        · have hno : ¬WindowEnds d u t o := fun hends => hend hends.2.2.2
          rw [if_neg hend, decide_eq_false hno]
          exact ⟨hdecoded, fun hends => absurd hends hno⟩
  · have hno : ¬WindowEnds d u t o := fun hends => hready hends.1.2
    have hidle : ¬Decodes u o := fun hdecodes => hready hdecodes.2
    rw [if_pos (by simpa using hready), if_neg hidle, decide_eq_false hno]
    exact ⟨hreceived, fun hends => absurd hends hno⟩

/-! ## Runs -/

/-- Outside of a session all counters of frames are at zero. -/
def State.Inv (st : State) : Prop := Exact st.decoder (st.session.getD {})

/-- A submission is one that the statistics take. -/
def CountsAll (st : State) : Call → Prop
  | .submit u _ o => ∀ s ∈ st.session, Counts st.decoder s u o
  | _ => True

instance (st : State) : (call : Call) → Decidable (CountsAll st call)
  | .submit u _ o => inferInstanceAs (Decidable (∀ s ∈ st.session, Counts st.decoder s u o))
  | .setup .. => instDecidableTrue
  | .cleanup => instDecidableTrue

lemma inv_cleanup (st : State) : State.Inv ⟨st.decoder.cleanup, none⟩ := exact_start rfl

/-- A unit that is submitted, with its session before and after. -/
lemma step_submit {st st' : State} (hstep : st.step (.submit u t o) = some st') :
    ∃ s, st.session = some s ∧ s.Accepts u.frameNumber ∧
      st' = ⟨(st.decoder.submitDecodeUnit u t o).1,
        some (s.note u.frameNumber (if Decodes u o then o.pushed else 0)
          (WindowEnds st.decoder u t o))⟩ := by
  unfold State.step at hstep
  cases hsession : st.session with
  | none => simp [hsession] at hstep
  | some s =>
    simp only [hsession] at hstep
    by_cases haccepts : s.Accepts u.frameNumber
    · rw [if_pos haccepts] at hstep
      exact ⟨s, rfl, haccepts, (Option.some.inj hstep).symm⟩
    · rw [if_neg haccepts] at hstep
      exact absurd hstep (by simp)

lemma State.Inv.step {st st' : State} {call : Call} (h : st.Inv) (hcounts : CountsAll st call)
    (hstep : st.step call = some st') : st'.Inv := by
  cases call with
  | setup redrawRate ok cleanedUp =>
    unfold State.step at hstep
    dsimp only at hstep
    have hnone : st.session.isSome = true ∨ st.session = none := by
      cases st.session <;> simp
    split_ifs at hstep with hsome hok hcleaned
    · have hempty := hnone.resolve_left hsome
      obtain rfl := Option.some.inj hstep
      unfold State.Inv at h
      rw [hempty] at h
      exact h.of_same rfl rfl
    · obtain rfl := Option.some.inj hstep
      exact exact_start rfl
    · have hempty := hnone.resolve_left hsome
      obtain rfl := Option.some.inj hstep
      unfold State.Inv at h
      rw [hempty] at h
      exact h.of_same rfl rfl
  | submit u t o =>
    obtain ⟨s, hsession, haccepts, rfl⟩ := step_submit hstep
    unfold State.Inv at h
    rw [hsession] at h
    exact (h.submit haccepts (hcounts s hsession) t).1
  | cleanup =>
    obtain rfl := Option.some.inj hstep
    exact inv_cleanup st

/-- Where the statistics take every unit, they are exact in every state of a session, no counter
has wrapped around, and what a window leaves in the cache is exact when it ends. -/
theorem statistics_exact {st : State} (h : Run State.step CountsAll {} st) :
    (∀ s, st.session = some s →
      Counted st.decoder.progress s ∧ CountedWindow st.decoder.progress s.window) ∧
    ∀ u t o st', CountsAll st (.submit u t o) → st.step (.submit u t o) = some st' →
      WindowEnds st.decoder u t o →
      ∀ s, st'.session = some s → Counted st'.decoder.cache s := by
  have hstart : State.Inv {} := exact_start rfl
  have hinv : st.Inv :=
    Run.invariant hstart (fun _ _ _ hinv hcounts hstep => hinv.step hcounts hstep) h
  constructor
  · intro s hsession
    unfold State.Inv at hinv
    rw [hsession] at hinv
    exact ⟨hinv.counted, hinv.window⟩
  · intro u t o st' hcounts hstep hends s' hsession'
    obtain ⟨s, hsession, haccepts, rfl⟩ := step_submit hstep
    unfold State.Inv at hinv
    rw [hsession] at hinv
    obtain rfl := Option.some.inj hsession'
    exact (hinv.submit haccepts (hcounts s hsession) t).2 hends

/-- A session of two units between which three frames are lost. -/
def oneSession : List Call :=
  [.setup 60 true false, .submit ⟨1, 1000, 0⟩ {} { drained := ⟨1, false⟩ },
    .submit ⟨5, 1000, 0⟩ {} { drained := ⟨1, false⟩ }]

def afterOneSession : State := (exec State.step {} oneSession).get (by decide +kernel)

theorem statistics_exact_oneSession :
    Counted afterOneSession.decoder.progress ⟨[1, 5], 2, ⟨2, 3, 2⟩⟩ :=
  ((statistics_exact (Run.of_exec_guarded
    (show exec (guarded State.step CountsAll) {} oneSession = some afterOneSession by
      decide +kernel))).1 _ (by decide +kernel)).1

/-- Another one after it, whose frame numbers start again. -/
def twoSessions : List Call :=
  oneSession ++ [.cleanup, .setup 60 true false, .submit ⟨1, 1000, 0⟩ {} {}]

/-- One unit was submitted, but 2^32 - 5 frames count as dropped. -/
theorem restart_counts_drops :
    ∃ st, Run State.step (fun _ _ => True) {} st ∧ st.session = some ⟨[1], 0, ⟨1, 0, 0⟩⟩ ∧
      st.decoder.progress.networkDroppedFrames = 4294967291 ∧ skipped [1] = 0 := by
  refine ⟨(exec State.step {} twoSessions).get (by decide +kernel),
    Run.of_exec (Option.some_get _).symm fun _ _ _ => trivial, ?_⟩
  decide +kernel

end ArtemisSwitch.Decoder

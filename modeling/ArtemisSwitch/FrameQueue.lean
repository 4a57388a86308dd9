import ArtemisSwitch.Library.Runs
import Mathlib.Data.Rat.Floor
import Mathlib.Data.List.Perm.Basic

/-!
# AVFrameQueue

The frame queue between the decoder and the renderer, with its two pacing paths.  A frame is
the number of its allocation, a time the nanoseconds of the steady clock.  The telemetry stamps
of a queued frame are left out.
-/

namespace ArtemisSwitch.Frames
open Runs

abbrev Frame := ℕ

abbrev Time := ℤ

/-! ## Floating-point numbers -/

/-- What the code uses of `double`; nothing is said about rounding. -/
class Double (F : Type) extends Add F, Sub F, Mul F, Div F, Neg F where
  ofRat : ℚ → F
  lt : F → F → Bool
  le : F → F → Bool
  abs : F → F
  isfinite : F → Bool
  /-- `static_cast` to an integer. -/
  truncate : F → ℤ

instance : Double ℚ where
  ofRat x := x
  lt x y := decide (x < y)
  le x y := decide (x ≤ y)
  abs x := |x|
  isfinite _ := true
  truncate x := x.num.tdiv x.den

namespace Double

variable {F : Type} [Double F]

/-- `std::max`. -/
def max (x y : F) : F := if lt x y then y else x

/-- `std::min`. -/
def min (x y : F) : F := if lt y x then y else x

/-- `std::clamp`. -/
def clamp (x low high : F) : F := if lt x low then low else if lt high x then high else x

end Double

open Double (ofRat)

/-! ## Frames and their memory -/

/-- The frames that were allocated are the numbers below `allocated`. -/
structure Heap where
  allocated : ℕ := 0
  freed : List Frame := []
  deriving DecidableEq

/-- `av_frame_alloc`, which may fail. -/
def avFrameAlloc (ok : Bool) (heap : Heap) : Option Frame × Heap :=
  if ok then (some heap.allocated, { heap with allocated := heap.allocated + 1 })
  else (none, heap)

/-- `av_frame_free`. -/
def avFrameFree (frames : List Frame) (heap : Heap) : Heap :=
  { heap with freed := heap.freed ++ frames }

structure TimedFrame where
  timeEstimate : Time := 0
  queued : Time := 0
  frame : Frame
  deriving DecidableEq

/-! ## State -/

structure LegacyPacing (F : Type) [Double F] where
  adaptiveFrameInterval : ℤ := 0
  lastDraw : Time := 0
  averageDrawInterval : ℤ := 0
  arrivalWindowStart : Time := 0
  lastArrival : Time := 0
  arrivalWindowFrames : ℕ := 0
  arrivalRateSamples : ℕ := 0
  estimatedSourceFps : F := ofRat 0
  frameCredit : F := ofRat 0
  drawClockStarted : Bool := false
  arrivalClockStarted : Bool := false
  startupBuffering : Bool := true
  playoutResyncNeeded : Bool := true

structure LLFilter (F : Type) [Double F] where
  firstArrival : Bool := true
  smoothedIntervalNs : F := ofRat 0
  intervalVelocityNs : F := ofRat 0
  jitterNs : F := ofRat 0
  lastArrival : Time := 0

structure PresentCost (F : Type) [Double F] where
  renderP95Ms : F := ofRat 0
  gpuSubmitP95Ms : F := ofRat 0
  havePresentCost : Bool := false

structure Statistics where
  fakeFrameUsedStat : ℕ := 0
  framesDroppedStat : ℕ := 0
  emptyQueueStat : ℕ := 0
  rebufferHoldStat : ℕ := 0
  overflowDropStat : ℕ := 0
  pacingSkipStat : ℕ := 0
  scheduledHoldStat : ℕ := 0
  pushesSincePop : ℕ := 0
  maxPushBurstStat : ℕ := 0
  localClockPacedFrameStat : ℕ := 0
  playoutResyncStat : ℕ := 0
  deriving DecidableEq

structure AVFrameQueue (F : Type) [Double F] where
  queue : List TimedFrame := []
  freeQueue : List Frame := []
  bufferFrame : Option Frame := none
  limit : ℕ := 0
  targetBufferedFrames : ℕ := 0
  streamFps : Int32 := 0
  transferOwnership : Bool := false
  lowLatency : Bool := false
  legacy : LegacyPacing F := {}
  ll : LLFilter F := {}
  cost : PresentCost F := {}
  stats : Statistics := {}

variable {F : Type} [Double F]

/-- `static_cast<double>`. -/
def ofInt (n : ℤ) : F := ofRat n

/-! ## The arrival rate of the legacy path -/

def kArrivalRateWindow : ℤ := 250000000
def kArrivalRateResetGap : ℤ := 500000000
def kArrivalRateSmoothing : ℚ := 35 / 100

/-- The rate over a window that has ended. -/
def LegacyPacing.sampleRate (streamFps : Int32) (elapsed : ℤ) (p : LegacyPacing F) :
    LegacyPacing F :=
  let elapsedSeconds : F := ofInt elapsed / ofRat 1000000000
  let maximumFps : F := if 0 < streamFps then ofInt streamFps.toInt else ofRat 240
  let sampleFps : F :=
    Double.clamp (ofInt (p.arrivalWindowFrames - 1) / elapsedSeconds) (ofRat 1) maximumFps
  let estimatedSourceFps : F :=
    if p.arrivalRateSamples = 0 then sampleFps
    else p.estimatedSourceFps * (ofRat 1 - ofRat kArrivalRateSmoothing) +
      sampleFps * ofRat kArrivalRateSmoothing
  { p with
    estimatedSourceFps := estimatedSourceFps
    arrivalRateSamples := p.arrivalRateSamples + 1
    adaptiveFrameInterval := Double.truncate (ofRat 1000000000 / estimatedSourceFps) }

def LegacyPacing.recordArrival (streamFps : Int32) (now : Time) (p : LegacyPacing F) :
    LegacyPacing F :=
  if !p.arrivalClockStarted then
    { p with
      arrivalClockStarted := true
      arrivalWindowStart := now
      lastArrival := now
      arrivalWindowFrames := 1 }
  else if kArrivalRateResetGap < now - p.lastArrival then
    { p with arrivalWindowStart := now, lastArrival := now, arrivalWindowFrames := 1 }
  else
    let p := { p with lastArrival := now, arrivalWindowFrames := p.arrivalWindowFrames + 1 }
    let elapsed := now - p.arrivalWindowStart
    if elapsed < kArrivalRateWindow then p
    else
      let p := if 1 < p.arrivalWindowFrames then p.sampleRate streamFps elapsed else p
      { p with arrivalWindowStart := now, arrivalWindowFrames := 1 }

def LegacyPacing.resetArrivalRateEstimator (p : LegacyPacing F) : LegacyPacing F :=
  { p with
    arrivalClockStarted := false
    arrivalWindowFrames := 0
    arrivalRateSamples := 0
    estimatedSourceFps := ofRat 0
    adaptiveFrameInterval := 0 }

/-- The interval between two draws, averaged. -/
def LegacyPacing.measureDraw (now : Time) (p : LegacyPacing F) : LegacyPacing F :=
  if !p.drawClockStarted then { p with lastDraw := now, drawClockStarted := true }
  else
    let drawInterval := now - p.lastDraw
    let p := { p with lastDraw := now }
    if drawInterval ≤ 0 ∨ 250000000 < drawInterval then
      { p with averageDrawInterval := 0, frameCredit := ofRat 0, playoutResyncNeeded := true }
    else if p.averageDrawInterval = 0 then { p with averageDrawInterval := drawInterval }
    else { p with averageDrawInterval := (p.averageDrawInterval * 15 + drawInterval).tdiv 16 }

/-! ## The filter of the low-latency path -/

def kLLAlpha : ℚ := 1 / 8
def kLLFastAlpha : ℚ := 1 / 4

/-- The filter after an arrival, and the time at which the next one is expected. -/
def LLFilter.update (streamFps : Int32) (now : Time) (f : LLFilter F) : LLFilter F × Time :=
  if f.firstArrival then
    let smoothed : F :=
      if 0 < streamFps then ofRat 1000000000 / ofInt streamFps.toInt
      else ofRat 1000000000 / ofRat 60
    ({ firstArrival := false
       lastArrival := now
       smoothedIntervalNs := smoothed
       intervalVelocityNs := ofRat 0
       jitterNs := smoothed * ofRat (1 / 10) }, now + Double.truncate smoothed)
  else
    let measured : F := ofInt (now - f.lastArrival)
    let predicted : F := f.smoothedIntervalNs + f.intervalVelocityNs
    let predError : F := measured - predicted
    let alpha : F :=
      if Double.lt (predicted * ofRat (1 / 2)) (Double.abs predError) then ofRat kLLFastAlpha
      else ofRat kLLAlpha
    let beta : F := (alpha * alpha) / (ofRat 2 - alpha)
    let smoothed : F := predicted + alpha * predError
    let velocity : F := f.intervalVelocityNs + beta * predError
    let smoothed : F :=
      if 0 < streamFps then
        Double.max smoothed (ofRat 1000000000 / (ofInt streamFps.toInt * ofRat (12 / 10)))
      else smoothed
    let smoothed : F := Double.min smoothed (ofRat 1000000000)
    let velLimit : F := smoothed * ofRat (2 / 10)
    ({ firstArrival := false
       lastArrival := now
       smoothedIntervalNs := smoothed
       intervalVelocityNs := Double.clamp velocity (-velLimit) velLimit
       jitterNs := f.jitterNs * (ofRat 1 - ofRat kLLAlpha) +
         Double.abs predError * ofRat kLLAlpha }, now + Double.truncate smoothed)

/-! ## The lead of the present gate -/

/-- The measured cost between 1.5 and 8 ms, or 3 ms without a measurement. -/
def clampPresentLeadMs (cost : PresentCost F) : F :=
  if !cost.havePresentCost ||
      (!Double.isfinite cost.renderP95Ms && !Double.isfinite cost.gpuSubmitP95Ms) then ofRat 3
  else
    let render : F :=
      if Double.isfinite cost.renderP95Ms then Double.max (ofRat 0) cost.renderP95Ms else ofRat 0
    let gpu : F :=
      if Double.isfinite cost.gpuSubmitP95Ms then Double.max (ofRat 0) cost.gpuSubmitP95Ms
      else ofRat 0
    Double.clamp (render + gpu + ofRat 1) (ofRat (15 / 10)) (ofRat 8)

def presentGateLeadMs (cost : PresentCost F) (jitterMs : F) : F :=
  let jitter : F :=
    Double.clamp (if Double.isfinite jitterMs then Double.max (ofRat 0) jitterMs else ofRat 0)
      (ofRat 0) (ofRat 8)
  clampPresentLeadMs cost + ofRat (15 / 10) * jitter

/-- The lead in nanoseconds. -/
def AVFrameQueue.gateNs (q : AVFrameQueue F) : ℤ :=
  let leadMs := presentGateLeadMs q.cost (q.ll.jitterNs / ofRat 1000000)
  Double.truncate (Double.max (ofRat 0) leadMs * ofRat 1000000)

/-! ## Dropping frames -/

namespace Statistics

def overflowDrop (stats : Statistics) : Statistics :=
  { stats with
    framesDroppedStat := stats.framesDroppedStat + 1
    overflowDropStat := stats.overflowDropStat + 1 }

def pacingSkip (stats : Statistics) : Statistics :=
  { stats with
    framesDroppedStat := stats.framesDroppedStat + 1
    pacingSkipStat := stats.pacingSkipStat + 1 }

/-- The buffered frame is shown once more, and `reason` counts why. -/
def fakeFrame (bufferFrame : Option Frame) (reason : Statistics → Statistics)
    (stats : Statistics) : Statistics :=
  if bufferFrame.isSome then
    reason { stats with fakeFrameUsedStat := stats.fakeFrameUsedStat + 1 }
  else stats

def emptyQueue (stats : Statistics) : Statistics :=
  { stats with emptyQueueStat := stats.emptyQueueStat + 1 }

def rebufferHold (stats : Statistics) : Statistics :=
  { stats with rebufferHoldStat := stats.rebufferHoldStat + 1 }

def scheduledHold (stats : Statistics) : Statistics :=
  { stats with scheduledHoldStat := stats.scheduledHoldStat + 1 }

end Statistics

/-- Frames go to the free queue from the front until `keep` are left; `count` counts each. -/
def dropTo (keep : ℕ) (count : Statistics → Statistics) :
    List TimedFrame → List Frame → Statistics → List TimedFrame × List Frame × Statistics
  | [], freeQueue, stats => ([], freeQueue, stats)
  | front :: queue, freeQueue, stats =>
    if keep < queue.length + 1 then
      dropTo keep count queue (freeQueue ++ [front.frame]) (count stats)
    else (front :: queue, freeQueue, stats)

/-- `recycleFrame`, which leaves a missing frame alone. -/
def recycleFrame (freeQueue : List Frame) (frame : Option Frame) : List Frame :=
  freeQueue ++ frame.toList

namespace AVFrameQueue

variable (q : AVFrameQueue F)

def dropTo (keep : ℕ) (count : Statistics → Statistics) : AVFrameQueue F :=
  let (queue, freeQueue, stats) := Frames.dropTo keep count q.queue q.freeQueue q.stats
  { q with queue := queue, freeQueue := freeQueue, stats := stats }

def trimToPlayoutWindow : AVFrameQueue F :=
  q.dropTo (q.targetBufferedFrames + 1) Statistics.pacingSkip

/-! ## Configuration -/

def kBurstHeadroomFrames : ℕ := 5

/-- In `size_t`. -/
def capacityFor (configuredQueueSize : ℕ) : ℕ :=
  (max configuredQueueSize 1 + kBurstHeadroomFrames) % 2 ^ 64

/-- The depth that is kept, at most one frame in low-latency mode and two otherwise. -/
def targetFor (queueLimit : ℕ) (lowLatency : Bool) : ℕ :=
  let configuredDepth := max queueLimit 1
  if 1 < configuredDepth then min (configuredDepth - 1) (if lowLatency then 1 else 2) else 0

def configure (queueLimit : ℕ) (streamFps : Int32) (transferOwnership lowLatency : Bool) :
    AVFrameQueue F :=
  { q with
    limit := capacityFor (max queueLimit 1)
    lowLatency := lowLatency
    targetBufferedFrames := targetFor queueLimit lowLatency
    transferOwnership := transferOwnership
    streamFps := streamFps
    legacy := { ({} : LegacyPacing F) with
      lastDraw := q.legacy.lastDraw
      arrivalWindowStart := q.legacy.arrivalWindowStart
      lastArrival := q.legacy.lastArrival }
    ll := {} }

/-! ## Pushing -/

/-- The estimator of the path takes note of an arrival. -/
def recordPush (now : Time) : AVFrameQueue F × Time :=
  if q.lowLatency then
    let (ll, timeEstimate) := q.ll.update q.streamFps now
    ({ q with ll := ll }, timeEstimate)
  else ({ q with legacy := q.legacy.recordArrival q.streamFps now }, 0)

/-- More than `limit` frames: only the newest ones stay. -/
def dropOverflow : AVFrameQueue F :=
  let q := q.dropTo (q.targetBufferedFrames + 1) Statistics.overflowDrop
  if q.lowLatency then { q with ll := {} }
  else { q with
    legacy := { q.legacy.resetArrivalRateEstimator with playoutResyncNeeded := true } }

/-- The part that `push` and `pushTransferred` share. -/
def enqueue (now : Time) (frame : Frame) : AVFrameQueue F :=
  let (q, timeEstimate) := q.recordPush now
  let pushesSincePop := q.stats.pushesSincePop + 1
  let q := { q with
    queue := q.queue ++ [{ timeEstimate := timeEstimate, queued := now, frame := frame }]
    stats := { q.stats with
      pushesSincePop := pushesSincePop
      maxPushBurstStat := max q.stats.maxPushBurstStat pushesSincePop } }
  if q.limit < q.queue.length then q.dropOverflow else q

def pushTransferred (now : Time) (item : Option Frame) : Bool × AVFrameQueue F :=
  match item with
  | none => (false, q)
  | some item => (true, q.enqueue now item)

def acquireFrame (allocOk : Bool) (heap : Heap) : Option Frame × Heap × AVFrameQueue F :=
  match q.freeQueue with
  | frame :: freeQueue => (some frame, heap, { q with freeQueue := freeQueue })
  | [] =>
    let (frame, heap) := avFrameAlloc allocOk heap
    (frame, heap, q)

/-- The results of `av_frame_alloc` and `av_frame_ref` are given.  What is returned is the frame
that was queued, if one was. -/
def push (allocOk refOk : Bool) (now : Time) (item : Option Frame) (heap : Heap) :
    Option Frame × Heap × AVFrameQueue F :=
  match item with
  | none => (none, heap, q)
  | some item =>
    if q.transferOwnership then (some item, heap, q.enqueue now item)
    else
      match q.acquireFrame allocOk heap with
      | (none, heap, q) => (none, heap, q)
      | (some queuedFrame, heap, q) =>
        if refOk then (some queuedFrame, heap, q.enqueue now queuedFrame)
        else (none, avFrameFree [queuedFrame] heap, q)

/-! ## Popping -/

/-- The frame that `pop` returns, its `consumed`, and the queue after it. -/
structure Popped (F : Type) [Double F] where
  frame : Option Frame
  consumed : Bool
  queue : AVFrameQueue F

/-- The buffered frame is returned again. -/
def hold (count : Statistics → Statistics) : Popped F :=
  ⟨q.bufferFrame, false, { q with stats := count q.stats }⟩

/-- The oldest deadline decides, unless there is a backlog; then only the newest frame stays. -/
def prepareLatestFrame (now : Time) (lead : ℤ) : Bool × AVFrameQueue F :=
  match q.queue with
  | [] => (false, q)
  | front :: queue =>
    if queue.length ≤ q.targetBufferedFrames ∧ now < front.timeEstimate - lead then (false, q)
    else (true, q.dropTo 1 Statistics.pacingSkip)

def popLowLatency (now : Time) : Popped F :=
  if q.queue = [] then
    q.hold (Statistics.fakeFrame q.bufferFrame Statistics.emptyQueue)
  else
    match q.prepareLatestFrame now q.gateNs with
    | (false, q) => q.hold Statistics.scheduledHold
    | (true, q) =>
      match q.queue with
      | [] => q.hold id
      | selected :: queue =>
        ⟨some selected.frame, true, { q with
          queue := queue
          freeQueue := recycleFrame q.freeQueue q.bufferFrame
          bufferFrame := some selected.frame
          stats := { q.stats with
            localClockPacedFrameStat := q.stats.localClockPacedFrameStat + 1 } }⟩

/-- How many frames the credit of the legacy path is worth, between two draws. -/
def creditFrames : ℕ × AVFrameQueue F :=
  let p := q.legacy
  let baseFramesPerDraw : F := ofInt p.averageDrawInterval / ofInt p.adaptiveFrameInterval
  let desiredDepth : F := ofInt (q.targetBufferedFrames + 1)
  let depthError : F := ofInt q.queue.length - desiredDepth
  let occupancyCorr : F :=
    Double.clamp (depthError * ofRat (1 / 100)) (-ofRat (8 / 100)) (ofRat (8 / 100))
  let framesPerDraw : F := Double.max (ofRat 0) (baseFramesPerDraw + occupancyCorr)
  if Double.le (ofRat (98 / 100)) baseFramesPerDraw ∧
      Double.le baseFramesPerDraw (ofRat (102 / 100)) ∧
      Double.le depthError (ofRat 0) ∧ Double.le (ofRat 0) depthError then
    (1, { q with legacy := { p with frameCredit := ofRat 0 } })
  else
    let frameCredit : F := p.frameCredit + framesPerDraw
    let wholeFrames := (Double.truncate frameCredit).toNat
    (min wholeFrames q.limit,
      { q with legacy := { p with frameCredit := frameCredit - ofInt wholeFrames } })

def dueFrames : ℕ × AVFrameQueue F :=
  let backlogResync := 0 < q.limit ∧ q.limit ≤ q.queue.length
  if (q.legacy.playoutResyncNeeded ∨ backlogResync) ∧ q.queue ≠ [] then
    let trimmed := q.trimToPlayoutWindow
    let p := if backlogResync then q.legacy.resetArrivalRateEstimator else q.legacy
    (1, { trimmed with
      legacy := { p with playoutResyncNeeded := false, frameCredit := ofRat 0 }
      stats := { trimmed.stats with
        playoutResyncStat := trimmed.stats.playoutResyncStat + 1 } })
  else if q.legacy.arrivalRateSamples = 0 ∨ q.legacy.adaptiveFrameInterval ≤ 0 ∨
      q.legacy.averageDrawInterval ≤ 0 then
    (if q.targetBufferedFrames < q.queue.length then 1 else 0, q)
  else q.creditFrames

/-- The last of `n` frames becomes the buffered one, the frames before it are recycled. -/
def takeDue : ℕ → AVFrameQueue F → AVFrameQueue F
  | 0, q => q
  | n + 1, q =>
    match q.queue with
    | [] => q
    | item :: queue =>
      if n = 0 then { q with queue := queue, bufferFrame := some item.frame }
      else takeDue n { q with
        queue := queue
        freeQueue := q.freeQueue ++ [item.frame]
        stats := q.stats.pacingSkip }

def consume (dueFrames : ℕ) : Popped F :=
  let consumeCount := min q.queue.length dueFrames
  let q := { q with freeQueue := recycleFrame q.freeQueue q.bufferFrame, bufferFrame := none }
  let q := takeDue consumeCount q
  ⟨q.bufferFrame, true, { q with
    stats := { q.stats with
      localClockPacedFrameStat := q.stats.localClockPacedFrameStat + 1 } }⟩

/-- The pop of the legacy path once the draw is measured and the start-up is over. -/
def popPaced : Popped F :=
  match q.dueFrames with
  | (due, q) =>
    if due = 0 then q.hold Statistics.scheduledHold
    else if q.queue = [] then
      let q := { q with
        legacy := { q.legacy.resetArrivalRateEstimator with
          frameCredit := ofRat 0
          playoutResyncNeeded := true } }
      q.hold (Statistics.fakeFrame q.bufferFrame Statistics.emptyQueue)
    else q.consume due

def popLegacy (now : Time) : Popped F :=
  let q := { q with legacy := q.legacy.measureDraw now }
  if q.legacy.startupBuffering ∧ q.queue.length ≤ q.targetBufferedFrames then
    q.hold (Statistics.fakeFrame q.bufferFrame Statistics.rebufferHold)
  else if q.legacy.startupBuffering then
    popPaced { q with
      legacy := { q.legacy with
        startupBuffering := false
        frameCredit := ofRat 0
        playoutResyncNeeded := true } }
  else q.popPaced

def pop (now : Time) : Popped F :=
  let q := { q with stats := { q.stats with pushesSincePop := 0 } }
  if q.lowLatency then q.popLowLatency now else q.popLegacy now

/-! ## The other calls -/

def recycleWriteFrame (frame : Option Frame) : AVFrameQueue F :=
  { q with freeQueue := recycleFrame q.freeQueue frame }

def updatePresentCostMs (cost : PresentCost F) : AVFrameQueue F := { q with cost := cost }

/-- The frames that the queue owns. -/
def frames : List Frame := q.queue.map (·.frame) ++ q.freeQueue ++ q.bufferFrame.toList

def cleanup (heap : Heap) : Heap × AVFrameQueue F :=
  (avFrameFree (q.bufferFrame.toList ++ q.queue.map (·.frame) ++ q.freeQueue) heap,
    { q with
      queue := []
      freeQueue := []
      bufferFrame := none
      legacy := { ({} : LegacyPacing F) with
        lastDraw := q.legacy.lastDraw
        arrivalWindowStart := q.legacy.arrivalWindowStart
        lastArrival := q.legacy.lastArrival }
      ll := {}
      cost := {}
      stats := {} })

end AVFrameQueue

/-! ## Runs -/

/-- The queue, the frames that the caller owns, and what has happened: the frames of the
successful pushes, how many there were at the last cleanup, and for each pop that consumed the
frame it returned and the number of the push that this frame came with. -/
structure Player (F : Type) [Double F] where
  queue : AVFrameQueue F := {}
  heap : Heap := {}
  caller : List Frame := []
  pushes : List Frame := []
  pushesAtCleanup : ℕ := 0
  returned : List (Option Frame) := []
  presented : List ℕ := []

inductive Call (F : Type) [Double F]
  /-- The caller allocates a frame of its own. -/
  | allocate
  /-- The caller frees a frame of its own. -/
  | release (frame : Frame)
  | configure (queueLimit : ℕ) (streamFps : Int32) (transferOwnership lowLatency : Bool)
  | push (allocOk refOk : Bool) (now : Time) (item : Option Frame)
  | pushTransferred (now : Time) (item : Option Frame)
  | pop (now : Time)
  | acquireWriteFrame (allocOk : Bool)
  | recycleWriteFrame (item : Option Frame)
  | updatePresentCostMs (cost : PresentCost F)
  | cleanup

namespace Player

/-- A frame that is handed over is one of the caller's. -/
def owns (s : Player F) (item : Option Frame) : Bool := item.all (· ∈ s.caller)

/-- `item` has gone from the caller to the queue. -/
def handOver (s : Player F) (item : Option Frame) : List Frame :=
  item.elim s.caller s.caller.erase

def notePush (s : Player F) (frame : Option Frame) : Player F :=
  { s with pushes := s.pushes ++ frame.toList }

/-- The frame that a consuming pop returns is the one in front of those that are left. -/
def notePop (s : Player F) (r : AVFrameQueue.Popped F) : Player F :=
  if r.consumed then
    { s with
      queue := r.queue
      returned := s.returned ++ [r.frame]
      presented := s.presented ++ [s.pushes.length - (r.queue.queue.length + 1)] }
  else { s with queue := r.queue }

def step (s : Player F) : Call F → Option (Player F)
  | .allocate =>
    let (frame, heap) := avFrameAlloc true s.heap
    some { s with heap := heap, caller := s.caller ++ frame.toList }
  | .release frame =>
    if s.owns frame then
      some { s with heap := avFrameFree [frame] s.heap, caller := s.caller.erase frame }
    else none
  | .configure queueLimit streamFps transferOwnership lowLatency =>
    some { s with
      queue := s.queue.configure queueLimit streamFps transferOwnership lowLatency }
  | .push allocOk refOk now item =>
    if s.owns item then
      let (queued, heap, queue) := s.queue.push allocOk refOk now item s.heap
      let caller := if s.queue.transferOwnership then s.handOver item else s.caller
      some { s.notePush queued with queue := queue, heap := heap, caller := caller }
    else none
  | .pushTransferred now item =>
    if s.owns item then
      let (_, queue) := s.queue.pushTransferred now item
      some { s.notePush item with queue := queue, caller := s.handOver item }
    else none
  | .pop now => some (s.notePop (s.queue.pop now))
  | .acquireWriteFrame allocOk =>
    let (frame, heap, queue) := s.queue.acquireFrame allocOk s.heap
    some { s with queue := queue, heap := heap, caller := s.caller ++ frame.toList }
  | .recycleWriteFrame item =>
    if s.owns item then
      some { s with queue := s.queue.recycleWriteFrame item, caller := s.handOver item }
    else none
  | .updatePresentCostMs cost => some { s with queue := s.queue.updatePresentCostMs cost }
  | .cleanup =>
    let (heap, queue) := s.queue.cleanup s.heap
    some { s with queue := queue, heap := heap, pushesAtCleanup := s.pushes.length }

end Player

end ArtemisSwitch.Frames

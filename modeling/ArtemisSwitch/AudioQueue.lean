import ArtemisSwitch.Library.Regions
import ArtemisSwitch.Library.Runs
import Mathlib.Data.List.Nodup
import Mathlib.Data.List.Perm.Subperm
import Mathlib.Data.Rat.Defs
import Mathlib.Tactic.Linarith

/-!
# The audio queue of the Switch

`AudrenAudioRenderer` fills wave buffers that the audio driver plays in order, and counts what it
has queued.  The results of allocations, of Opus and of the driver are given.
-/

namespace ArtemisSwitch.Audio
open Runs Regions

/-! ## Wave buffers -/

def bufferCount : ℕ := 5

def samplesPerFrame : ℕ := 240

def latency : ℕ := 5

/-- In bytes, two to a sample. -/
def bufferSize : ℕ := latency * samplesPerFrame * 2

/-- The stereo frames of a wave buffer. -/
def samples : ℕ := bufferSize / 2 / 2

/-- The voice of the driver: the wave buffers that are neither free nor done, of which the first
one is played, the frames of this one that were played, and all that were played. -/
structure AudioDriver where
  waveBufs : List ℕ := []
  position : ℕ := 0
  playedSampleCount : ℕ := 0
  deriving DecidableEq

/-- One stereo frame. -/
def AudioDriver.playFrame (driver : AudioDriver) : AudioDriver :=
  match driver.waveBufs with
  | [] => driver
  | _ :: rest =>
    let playedSampleCount := driver.playedSampleCount + 1
    if driver.position + 1 = samples then
      { waveBufs := rest, position := 0, playedSampleCount := playedSampleCount }
    else { driver with
      position := driver.position + 1, playedSampleCount := playedSampleCount }

structure AudrenAudioRenderer where
  decoder : Bool := false
  decodedBuffer : Bool := false
  downmixBuffer : Bool := false
  channelCount : Int32 := 0
  sinkChannelCount : Int32 := 2
  sampleRate : Int32 := 0
  totalQueuedSamples : UInt64 := 0
  currentSize : ℕ := 0
  currentWavebuf : Option ℕ := none
  initedDriver : Bool := false
  mempool : ℕ → UInt8 := fun _ => 0
  driver : AudioDriver := {}

/-- What was allocated and started, and what is in the fresh memory. -/
structure InitOutcome where
  decoder : Bool := true
  decodedBuffer : Bool := true
  downmixBuffer : Bool := true
  mempool : Option (ℕ → UInt8) := some fun _ => 0
  driver : Bool := true

/-! ## Samples -/

/-- `static_cast<s16>` of a value that is brought into its range. -/
def toSample (x : ℤ) : Int16 := Int16.ofInt (min 32767 (max (-32768) x))

def applyVolume (volume : ℤ) (buffer : List Int16) : List Int16 :=
  buffer.map fun sample => toSample ((sample.toInt * volume).tdiv 100)

/-- Left and right, each with the center and its surround channel.  What `float` rounds is left
out. -/
def downmix51ToStereo (input : List Int16) (frames : ℕ) : List Int16 :=
  (List.range frames).flatMap fun i =>
    let frame (channel : ℕ) : ℚ := (input.getD (i * 6 + channel) 0).toInt
    let left := frame 0 + 0.7071 * frame 2 + 0.7071 * frame 4
    let right := frame 1 + 0.7071 * frame 2 + 0.7071 * frame 5
    [toSample (left.num.tdiv left.den), toSample (right.num.tdiv right.den)]

/-- The bytes of samples in memory. -/
def bytesOf (buffer : List Int16) : List UInt8 :=
  buffer.flatMap fun sample => [sample.toUInt16.toUInt8, (sample.toUInt16 >>> (8 : UInt16)).toUInt8]

namespace AudrenAudioRenderer

variable (r : AudrenAudioRenderer)

/-! ## The calls -/

/-- Whether it succeeds, and the renderer after it. -/
def init (channelCount sampleRate : Int32) (outcome : InitOutcome) : Bool × AudrenAudioRenderer :=
  let r := { r with
    channelCount := channelCount
    sinkChannelCount := 2
    sampleRate := sampleRate
    currentSize := 0
    decodedBuffer := outcome.decodedBuffer
    downmixBuffer := outcome.downmixBuffer
    decoder := outcome.decoder
    driver := {} }
  match outcome.mempool with
  | none => (false, r)
  | some mempool =>
    let r := { r with mempool := mempool }
    if !outcome.driver then (false, r)
    else (true, { r with currentWavebuf := none, initedDriver := true })

def cleanup : AudrenAudioRenderer :=
  { r with decoder := false, decodedBuffer := false, downmixBuffer := false, initedDriver := false }

def freeWavebufIndex : Option ℕ :=
  (List.range bufferCount).find? fun index => !r.driver.waveBufs.contains index

/-- The wave buffer that is being filled, or else a free one. -/
def takeWavebuf : Option (ℕ × AudrenAudioRenderer) :=
  match r.currentWavebuf with
  | some index => some (index, r)
  | none => r.freeWavebufIndex.map fun index =>
    (index, { r with currentWavebuf := some index, currentSize := 0 })

/-- How many bytes were taken. -/
def appendAudio (buf : List UInt8) : ℕ × AudrenAudioRenderer :=
  match r.takeWavebuf with
  | none => (0, r)
  | some (index, r) =>
    let size := min buf.length (bufferSize - r.currentSize)
    let r := { r with
      mempool := store r.mempool (index * bufferSize + r.currentSize) (buf.take size)
      currentSize := r.currentSize + size
      totalQueuedSamples := r.totalQueuedSamples +
        UInt64.ofNat size / r.channelCount.toInt64.toUInt64 / 2 }
    if r.currentSize = bufferSize then
      (size, { r with
        driver := { r.driver with waveBufs := r.driver.waveBufs ++ [index] }
        currentWavebuf := none })
    else (size, r)

def queuedSamples : UInt64 :=
  r.totalQueuedSamples - UInt64.ofNat r.driver.playedSampleCount

/-- More than half a second is queued. -/
def drops : Bool := (r.sampleRate / 2).toInt64.toUInt64 < r.queuedSamples

/-- What is played of `frames` decoded frames. -/
def playback (decoded : List Int16) (frames : ℕ) : List Int16 :=
  if 6 ≤ r.channelCount ∧ r.downmixBuffer = true then downmix51ToStereo decoded frames
  else decoded.take (frames * r.channelCount.toInt.toNat)

end AudrenAudioRenderer

/-! ## The renderer and the driver -/

/-- The renderer, the bytes that the driver has played since the last init, and the bytes of the
packets that were not dropped since then. -/
structure World where
  renderer : AudrenAudioRenderer := {}
  heard : List UInt8 := []
  accepted : List UInt8 := []

namespace World

variable (w : World)

/-- The driver reads the frame from the wave buffer when it plays it. -/
def playFrame : World :=
  match w.renderer.driver.waveBufs with
  | [] => w
  | index :: _ =>
    { w with
      renderer := { w.renderer with driver := w.renderer.driver.playFrame }
      heard := w.heard ++
        load w.renderer.mempool ((index * samples + w.renderer.driver.position) * 4) 4 }

def play (frames : ℕ) : World := playFrame^[frames] w

/-- The loop of `write_audio`.  `waits` says how many frames are played in each `audrenWaitFrame`;
`none` when it waits more often. -/
def writeLoop (waits : List ℕ) (buf : List UInt8) (w : World) : Option World :=
  let (written, renderer) := w.renderer.appendAudio buf
  let w := { w with renderer := renderer }
  if buf.drop written = [] then some w
  else
    match waits with
    | [] => none
    | frames :: waits => writeLoop waits (buf.drop written) (w.play frames)

/-- Nothing is written without a driver or when too much is queued. -/
def writeAudio (waits : List ℕ) (buf : List UInt8) : Option World :=
  if !w.renderer.initedDriver then some w
  else if w.renderer.drops then some w
  else if buf = [] then some w
  else w.writeLoop waits buf

/-- The bytes that are handed to `write_audio`. -/
def packet (frames : ℕ) (decoded : List Int16) (volume : ℤ) : List UInt8 :=
  bytesOf (applyVolume volume (w.renderer.playback decoded frames))

def decodeAndPlaySample (frames : ℕ) (decoded : List Int16) (volume : ℤ) (waits : List ℕ) :
    Option World :=
  if w.renderer.decoder ∧ w.renderer.decodedBuffer ∧ 0 < frames then
    w.writeAudio waits (w.packet frames decoded volume)
  else some w

end World

inductive Call
  | init (channelCount sampleRate : Int32) (outcome : InitOutcome)
  /-- Opus decodes `frames` frames, or none of a packet that is missing or wrong. -/
  | decodeAndPlaySample (frames : ℕ) (decoded : List Int16) (volume : ℤ) (waits : List ℕ)
  | play (frames : ℕ)
  | cleanup

namespace World

/-- `write_audio` is reached. -/
def Writes (w : World) (frames : ℕ) : Prop :=
  w.renderer.decoder ∧ w.renderer.decodedBuffer ∧ 0 < frames ∧ w.renderer.initedDriver

instance (w : World) (frames : ℕ) : Decidable (w.Writes frames) :=
  inferInstanceAs (Decidable (_ ∧ _ ∧ _ ∧ _))

/-- Opus makes a decoder for 1 to 255 channels.  An init that fails comes before one that
succeeds or after a cleanup, since it clears the driver. -/
def step (w : World) : Call → Option World
  | .init channelCount sampleRate outcome =>
    if outcome.decoder ∧ ¬(1 ≤ channelCount ∧ channelCount ≤ 255) then none
    else
      match w.renderer.init channelCount sampleRate outcome with
      | (true, renderer) => some ⟨renderer, [], []⟩
      | (false, renderer) =>
        if w.renderer.initedDriver then none else some ⟨renderer, [], []⟩
  | .decodeAndPlaySample frames decoded volume waits =>
    if frames ≤ samplesPerFrame ∧ decoded.length = frames * w.renderer.channelCount.toInt.toNat then
      (w.decodeAndPlaySample frames decoded volume waits).map fun w' =>
        if w.Writes frames ∧ w.renderer.drops = false then
          { w' with accepted := w'.accepted ++ w.packet frames decoded volume }
        else w'
    else none
  | .play frames => if w.renderer.initedDriver then some (w.play frames) else none
  | .cleanup => some { w with renderer := w.renderer.cleanup }

end World

/-! ## What is buffered -/

namespace AudrenAudioRenderer

/-- The bytes of the wave buffers that wait for the driver, from the first that is not played. -/
def waiting (r : AudrenAudioRenderer) : List UInt8 :=
  (r.driver.waveBufs.flatMap fun index => load r.mempool (index * bufferSize) bufferSize).drop
    (r.driver.position * 4)

/-- The bytes of the wave buffer that is being filled. -/
def filling (r : AudrenAudioRenderer) : List UInt8 :=
  match r.currentWavebuf with
  | none => []
  | some index => load r.mempool (index * bufferSize) r.currentSize

/-- The wave buffers are used one at a time. -/
structure Tidy (r : AudrenAudioRenderer) : Prop where
  nodup : r.driver.waveBufs.Nodup
  bound : ∀ index ∈ r.driver.waveBufs, index < bufferCount
  position : r.driver.position < samples
  atStart : r.driver.waveBufs = [] → r.driver.position = 0
  current : ∀ index ∈ r.currentWavebuf, index < bufferCount ∧ index ∉ r.driver.waveBufs ∧
    r.currentSize < bufferSize

variable {r : AudrenAudioRenderer} {index : ℕ} {buf : List UInt8}

lemma free_spec (h : r.freeWavebufIndex = some index) :
    index < bufferCount ∧ index ∉ r.driver.waveBufs := by
  have hmem := List.mem_of_find?_eq_some h
  have hfree := List.find?_some h
  exact ⟨List.mem_range.mp hmem, by simpa using hfree⟩

/-- Without a free wave buffer all of them wait. -/
lemma full_of_none (h : r.freeWavebufIndex = none) : bufferCount ≤ r.driver.waveBufs.length := by
  have hall : List.range bufferCount ⊆ r.driver.waveBufs := by
    intro index hindex
    have hused := List.find?_eq_none.mp h index hindex
    simpa using hused
  have hlength := (List.subperm_of_subset List.nodup_range hall).length_le
  rwa [List.length_range] at hlength

lemma length_regions (mempool : ℕ → UInt8) (indices : List ℕ) :
    (indices.flatMap fun index => load mempool (index * bufferSize) bufferSize).length =
      indices.length * bufferSize := by
  rw [List.length_flatMap]
  simp

lemma Tidy.position_le (h : r.Tidy) (mempool : ℕ → UInt8) :
    r.driver.position * 4 ≤
      (r.driver.waveBufs.flatMap fun i => load mempool (i * bufferSize) bufferSize).length := by
  rw [length_regions]
  cases hbufs : r.driver.waveBufs with
  | nil =>
    rw [h.atStart hbufs]
    exact Nat.zero_le _
  | cons index rest =>
    have hposition : r.driver.position * 4 < samples * 4 :=
      (Nat.mul_lt_mul_right (by decide)).mpr h.position
    have hsamples : samples * 4 = bufferSize := rfl
    rw [List.length_cons, Nat.succ_mul]
    omega

/-- A wave buffer that is submitted waits behind the others. -/
lemma Tidy.waiting_submit (h : r.Tidy) (mempool : ℕ → UInt8) (index : ℕ) :
    ((r.driver.waveBufs ++ [index]).flatMap fun i =>
        load mempool (i * bufferSize) bufferSize).drop (r.driver.position * 4) =
      (r.driver.waveBufs.flatMap fun i => load mempool (i * bufferSize) bufferSize).drop
        (r.driver.position * 4) ++ load mempool (index * bufferSize) bufferSize := by
  rw [List.flatMap_append, List.flatMap_singleton,
    List.drop_append_of_le_length (h.position_le mempool)]

/-- Only what is queued has changed, and nothing was played. -/
structure SameSetup (r r' : AudrenAudioRenderer) : Prop where
  decoder : r'.decoder = r.decoder
  decodedBuffer : r'.decodedBuffer = r.decodedBuffer
  downmixBuffer : r'.downmixBuffer = r.downmixBuffer
  channelCount : r'.channelCount = r.channelCount
  sampleRate : r'.sampleRate = r.sampleRate
  initedDriver : r'.initedDriver = r.initedDriver

lemma SameSetup.refl (r : AudrenAudioRenderer) : SameSetup r r := ⟨rfl, rfl, rfl, rfl, rfl, rfl⟩

lemma SameSetup.trans {r' r'' : AudrenAudioRenderer} (h : SameSetup r r')
    (h' : SameSetup r' r'') : SameSetup r r'' :=
  ⟨h'.decoder.trans h.decoder, h'.decodedBuffer.trans h.decodedBuffer,
    h'.downmixBuffer.trans h.downmixBuffer, h'.channelCount.trans h.channelCount,
    h'.sampleRate.trans h.sampleRate, h'.initedDriver.trans h.initedDriver⟩

/-- The renderer with a wave buffer to fill, to which nothing was added. -/
lemma takeWavebuf_spec {r' : AudrenAudioRenderer} (h : r.Tidy)
    (htake : r.takeWavebuf = some (index, r')) :
    r'.Tidy ∧ r'.currentWavebuf = some index ∧ r'.filling = r.filling ∧
      ∃ currentSize, r' = { r with currentWavebuf := some index, currentSize := currentSize } := by
  unfold takeWavebuf at htake
  cases hcurrent : r.currentWavebuf with
  | some i =>
    rw [hcurrent] at htake
    obtain ⟨rfl, rfl⟩ := Prod.mk.inj (Option.some.inj htake)
    refine ⟨h, hcurrent, rfl, r.currentSize, ?_⟩
    rw [← hcurrent]
  | none =>
    rw [hcurrent] at htake
    obtain ⟨i, hfree, heq⟩ := Option.map_eq_some_iff.mp htake
    obtain ⟨rfl, rfl⟩ := Prod.mk.inj heq
    obtain ⟨hbound, hnot⟩ := free_spec hfree
    refine ⟨⟨h.nodup, h.bound, h.position, h.atStart, ?_⟩, rfl, ?_, 0, rfl⟩
    · intro j hj
      obtain rfl := Option.mem_some_iff.mp hj
      exact ⟨hbound, hnot, (by decide : 0 < bufferSize)⟩
    · rw [filling, filling, hcurrent]
      rfl

/-- The bytes of other wave buffers stay when one is filled. -/
lemma waiting_store (h : index ∉ r.driver.waveBufs) (offset : ℕ) (bytes : List UInt8)
    (hfits : offset + bytes.length ≤ bufferSize) :
    ({ r with mempool := store r.mempool (index * bufferSize + offset) bytes } :
      AudrenAudioRenderer).waiting = r.waiting := by
  unfold waiting
  dsimp only
  congr 1
  apply List.flatMap_congr
  intro i hi
  have hne : i ≠ index := fun heq => h (heq ▸ hi)
  apply load_store_apart
  rcases Nat.lt_or_gt_of_ne hne with hlt | hgt
  · have hmul := Nat.mul_le_mul_right bufferSize (Nat.succ_le_of_lt hlt)
    rw [Nat.succ_mul] at hmul
    omega
  · have hmul := Nat.mul_le_mul_right bufferSize (Nat.succ_le_of_lt hgt)
    rw [Nat.succ_mul] at hmul
    omega

lemma count_zero (total channels : UInt64) :
    total + UInt64.ofNat 0 / channels / 2 = total := by
  have hzero : UInt64.ofNat 0 / channels / 2 = 0 := by
    apply UInt64.toNat_inj.mp
    rw [UInt64.toNat_div, UInt64.toNat_div]
    simp
  rw [hzero, UInt64.add_zero]

/-- The wave buffer that is full goes to the driver. -/
lemma Tidy.submitted {r' : AudrenAudioRenderer} (h : r.Tidy)
    (hcurrent : r.currentWavebuf = some index)
    (hdriver : r'.driver = { r.driver with waveBufs := r.driver.waveBufs ++ [index] })
    (hnone : r'.currentWavebuf = none) : r'.Tidy := by
  obtain ⟨hbound, hnot, -⟩ := h.current index hcurrent
  refine ⟨?_, ?_, ?_, ?_, ?_⟩
  · rw [hdriver]
    exact List.nodup_append'.mpr ⟨h.nodup, List.nodup_singleton _,
      List.disjoint_singleton.mpr hnot⟩
  · rw [hdriver]
    intro i hi
    rcases List.mem_append.mp hi with hi | hi
    · exact h.bound i hi
    · rwa [List.mem_singleton.mp hi]
  · rw [hdriver]
    exact h.position
  · rw [hdriver]
    intro hnil
    exact absurd hnil (List.append_ne_nil_of_right_ne_nil _ (List.cons_ne_nil _ _))
  · rw [hnone]
    intro i hi
    exact absurd hi (Option.not_mem_none i)

/-- What `append_audio` takes is behind all that was buffered. -/
lemma appendAudio_spec (h : r.Tidy) (buf : List UInt8) :
    let (n, r') := r.appendAudio buf
    r'.Tidy ∧ SameSetup r r' ∧ r'.driver.playedSampleCount = r.driver.playedSampleCount ∧
      r'.waiting ++ r'.filling = r.waiting ++ r.filling ++ buf.take n ∧
      r'.totalQueuedSamples = r.totalQueuedSamples +
        UInt64.ofNat n / r.channelCount.toInt64.toUInt64 / 2 := by
  unfold appendAudio
  cases htake : r.takeWavebuf with
  | none =>
    refine ⟨h, SameSetup.refl r, rfl, ?_, ?_⟩
    · rw [List.take_zero, List.append_nil]
    · exact (count_zero _ _).symm
  | some taken =>
    obtain ⟨index, r₁⟩ := taken
    obtain ⟨htidy, hcurrent, hfilling, currentSize, hr₁⟩ := takeWavebuf_spec h htake
    have hwaiting : r₁.waiting = r.waiting := by rw [hr₁]; rfl
    obtain ⟨hbound, hnot, hroom⟩ := htidy.current index hcurrent
    have hsame : SameSetup r r₁ := by rw [hr₁]; exact ⟨rfl, rfl, rfl, rfl, rfl, rfl⟩
    have hplayed : r₁.driver.playedSampleCount = r.driver.playedSampleCount := by rw [hr₁]
    have htotal : r₁.totalQueuedSamples = r.totalQueuedSamples := by rw [hr₁]
    have hchannels : r₁.channelCount = r.channelCount := by rw [hr₁]
    rw [← hwaiting, ← hfilling, ← htotal, ← hchannels, ← hplayed]
    clear hr₁ hwaiting hfilling hplayed htotal hchannels htake
    dsimp only
    generalize hsize : min buf.length (bufferSize - r₁.currentSize) = size
    have hle : size ≤ buf.length := hsize ▸ min_le_left _ _
    have hfits : r₁.currentSize + size ≤ bufferSize := by omega
    have hlength : (buf.take size).length = size := by rw [List.length_take, min_eq_left hle]
    have hfilled : load (store r₁.mempool (index * bufferSize + r₁.currentSize) (buf.take size))
        (index * bufferSize) (r₁.currentSize + size) = r₁.filling ++ buf.take size := by
      have hend := load_store_end r₁.mempool (index * bufferSize) r₁.currentSize (buf.take size)
      rw [hlength] at hend
      rw [hend, filling, hcurrent]
    have hkept := waiting_store hnot r₁.currentSize (buf.take size)
      (by rw [hlength]; exact hfits)
    split_ifs with hfull
    · refine ⟨htidy.submitted hcurrent rfl rfl, ⟨hsame.1, hsame.2, hsame.3, hsame.4, hsame.5,
        hsame.6⟩, rfl, ?_, rfl⟩
      unfold waiting at hkept ⊢
      rw [hfull] at hfilled
      rw [htidy.waiting_submit, hkept, hfilled, ← List.append_assoc]
      exact List.append_nil _
    · refine ⟨⟨htidy.nodup, htidy.bound, htidy.position, htidy.atStart, ?_⟩, ⟨hsame.1, hsame.2,
        hsame.3, hsame.4, hsame.5, hsame.6⟩, rfl, ?_, rfl⟩
      · intro i hi
        obtain rfl : index = i := Option.some.inj (hcurrent.symm.trans hi)
        exact ⟨hbound, hnot, Nat.lt_of_le_of_ne hfits hfull⟩
      · rw [List.append_assoc, ← hfilled, ← hkept]
        unfold waiting filling
        rw [hcurrent]

lemma Tidy.length_waveBufs_le (h : r.Tidy) : r.driver.waveBufs.length ≤ bufferCount := by
  have hsubset : r.driver.waveBufs ⊆ List.range bufferCount := fun index hindex =>
    List.mem_range.mpr (h.bound index hindex)
  have hlength := (List.subperm_of_subset h.nodup hsubset).length_le
  rwa [List.length_range] at hlength

lemma length_waiting (r : AudrenAudioRenderer) :
    r.waiting.length = r.driver.waveBufs.length * bufferSize - r.driver.position * 4 := by
  rw [waiting, List.length_drop, length_regions]

/-- There is room for five wave buffers and the one that is being filled. -/
lemma Tidy.buffered_le (h : r.Tidy) :
    r.waiting.length + r.filling.length ≤ (bufferCount + 1) * bufferSize := by
  have hwaiting := length_waiting r
  have hle := Nat.mul_le_mul_right bufferSize h.length_waveBufs_le
  have hfilling : r.filling.length ≤ bufferSize := by
    unfold filling
    split
    · exact Nat.zero_le _
    · rename_i index hcurrent
      rw [length_load]
      exact (h.current index hcurrent).2.2.le
  rw [Nat.succ_mul]
  omega

/-- Of whole frames whole frames are taken. -/
lemma Tidy.appendAudio_whole (h : r.Tidy) (hbuf : buf.length % 4 = 0)
    (hfilling : r.filling.length % 4 = 0) :
    (r.appendAudio buf).1 % 4 = 0 ∧ (r.appendAudio buf).1 ≤ min buf.length bufferSize := by
  unfold appendAudio
  cases htake : r.takeWavebuf with
  | none => exact ⟨rfl, Nat.zero_le _⟩
  | some taken =>
    obtain ⟨index, r₁⟩ := taken
    obtain ⟨-, hcurrent, hsame, -⟩ := takeWavebuf_spec h htake
    rw [← hsame, filling, hcurrent, length_load] at hfilling
    have hsize : bufferSize = 2400 := rfl
    dsimp only
    split_ifs
    all_goals
      dsimp only
      omega

/-- Nothing is taken only while the driver has something to play. -/
lemma Tidy.waiting_of_refused (h : r.Tidy) (hbuf : buf ≠ []) (hzero : (r.appendAudio buf).1 = 0) :
    0 < (r.appendAudio buf).2.waiting.length := by
  unfold appendAudio at hzero ⊢
  cases htake : r.takeWavebuf with
  | none =>
    have hfull : bufferCount ≤ r.driver.waveBufs.length := by
      unfold takeWavebuf at htake
      split at htake
      · exact absurd htake nofun
      · exact full_of_none (Option.map_eq_none_iff.mp htake)
    have hposition := h.position
    have hmul := Nat.mul_le_mul_right bufferSize hfull
    have hroom : samples * 4 < bufferCount * bufferSize := by decide
    dsimp only
    rw [length_waiting]
    omega
  | some taken =>
    obtain ⟨index, r₁⟩ := taken
    obtain ⟨htidy, hcurrent, -⟩ := takeWavebuf_spec h htake
    have hroom := (htidy.current index hcurrent).2.2
    have hpos : 0 < buf.length := List.length_pos_iff.mpr hbuf
    rw [htake] at hzero
    dsimp only at hzero
    split_ifs at hzero
    all_goals
      dsimp only at hzero
      omega

/-! ## Playing -/

lemma waiting_cons (index : ℕ) (rest : List ℕ) (mempool : ℕ → UInt8) {position : ℕ}
    (h : position < samples) :
    ((index :: rest).flatMap fun i => load mempool (i * bufferSize) bufferSize).drop
        (position * 4) =
      load mempool ((index * samples + position) * 4) 4 ++
        ((index :: rest).flatMap fun i => load mempool (i * bufferSize) bufferSize).drop
          ((position + 1) * 4) := by
  have hsize : bufferSize = samples * 4 := rfl
  have hle : position * 4 ≤ bufferSize := by omega
  have hle' : (position + 1) * 4 ≤ bufferSize := by omega
  have hsplit : bufferSize - position * 4 = 4 + (bufferSize - (position + 1) * 4) := by omega
  have hplace : (index * samples + position) * 4 = index * bufferSize + position * 4 := by
    rw [hsize, Nat.add_mul, Nat.mul_assoc]
  have hnext : index * bufferSize + position * 4 + 4 = index * bufferSize + (position + 1) * 4 := by
    omega
  rw [List.flatMap_cons, List.drop_append_of_le_length (by rwa [length_load]),
    List.drop_append_of_le_length (by rwa [length_load]), load_drop _ _ hle, load_drop _ _ hle',
    hsplit, load_add, hplace, hnext, List.append_assoc]

/-- A frame is played from the front of what waits. -/
lemma Tidy.playFrame (h : r.Tidy) {rest : List ℕ} (hbufs : r.driver.waveBufs = index :: rest) :
    let r' := { r with driver := r.driver.playFrame }
    r'.Tidy ∧ r'.filling = r.filling ∧
      r'.driver.playedSampleCount = r.driver.playedSampleCount + 1 ∧
      r.waiting = load r.mempool ((index * samples + r.driver.position) * 4) 4 ++ r'.waiting := by
  have hnodup := h.nodup
  have hbound := h.bound
  have hcurrent := h.current
  have hposition := h.position
  have hsize : bufferSize = samples * 4 := rfl
  have hfirst := waiting_cons index rest r.mempool hposition
  unfold AudioDriver.playFrame waiting
  rw [hbufs] at hnodup hbound hcurrent ⊢
  dsimp only
  split_ifs with hlast
  · refine ⟨⟨(List.nodup_cons.mp hnodup).2, fun i hi => hbound i (List.mem_cons_of_mem _ hi),
      (by decide : 0 < samples), fun _ => rfl, ?_⟩, rfl, rfl, ?_⟩
    · intro i hi
      obtain ⟨hlt, hnot, hroom⟩ := hcurrent i hi
      exact ⟨hlt, fun hmem => hnot (List.mem_cons_of_mem _ hmem), hroom⟩
    · rw [hfirst, hlast, ← hsize, List.flatMap_cons, List.drop_left' (length_load _ _ _)]
      rfl
  · exact ⟨⟨hnodup, hbound, Nat.lt_of_le_of_ne hposition hlast,
      fun hnil => absurd hnil (List.cons_ne_nil _ _), hcurrent⟩, rfl, rfl, hfirst⟩

end AudrenAudioRenderer

/-! ## What was written -/

namespace World
open AudrenAudioRenderer

/-- The bytes that were written since the last init are played in order, and the rest of them is
buffered. -/
structure Queue (w : World) (bytes : List UInt8) : Prop where
  tidy : w.renderer.Tidy
  kept : w.heard ++ (w.renderer.waiting ++ w.renderer.filling) = bytes
  heard : w.heard.length = 4 * w.renderer.driver.playedSampleCount
  whole : bytes.length % 4 = 0
  total : w.renderer.totalQueuedSamples = UInt64.ofNat (bytes.length / 4)

def buffered (w : World) : ℕ := w.renderer.waiting.length + w.renderer.filling.length

/-- Only playing has gone on. -/
structure Later (w w' : World) : Prop where
  setup : SameSetup w.renderer w'.renderer
  accepted : w'.accepted = w.accepted

lemma Later.refl (w : World) : Later w w := ⟨SameSetup.refl _, rfl⟩

lemma Later.trans {w w' w'' : World} (h : Later w w') (h' : Later w' w'') : Later w w'' :=
  ⟨h.setup.trans h'.setup, h'.accepted.trans h.accepted⟩

variable {w : World} {bytes buf : List UInt8}

lemma Queue.length_eq (h : w.Queue bytes) :
    4 * w.renderer.driver.playedSampleCount + w.buffered = bytes.length := by
  rw [← h.kept, List.length_append, List.length_append, h.heard, buffered]

lemma Queue.filling_whole (h : w.Queue bytes) : w.renderer.filling.length % 4 = 0 := by
  have hlength := h.length_eq
  have hwhole := h.whole
  have hwaiting := length_waiting w.renderer
  have hsize : bufferSize = 600 * 4 := rfl
  rw [hsize, ← Nat.mul_assoc, ← Nat.sub_mul] at hwaiting
  unfold buffered at hlength
  omega

lemma Queue.playFrame (h : w.Queue bytes) :
    w.playFrame.Queue bytes ∧ Later w w.playFrame ∧ w.playFrame.buffered ≤ w.buffered ∧
      (0 < w.renderer.waiting.length → w.playFrame.buffered < w.buffered) := by
  unfold World.playFrame
  cases hbufs : w.renderer.driver.waveBufs with
  | nil =>
    refine ⟨h, Later.refl w, le_rfl, fun hpos => ?_⟩
    rw [length_waiting, hbufs, List.length_nil, Nat.zero_mul, Nat.zero_sub] at hpos
    exact absurd hpos (Nat.lt_irrefl 0)
  | cons index rest =>
    obtain ⟨htidy, hfilling, hplayed, hwaiting⟩ := h.tidy.playFrame hbufs
    have hlength := congrArg List.length hwaiting
    rw [List.length_append, length_load] at hlength
    have hless : ({ w.renderer with driver := w.renderer.driver.playFrame } :
        AudrenAudioRenderer).waiting.length < w.renderer.waiting.length := by
      rw [hlength]
      exact Nat.lt_add_of_pos_left (by decide)
    refine ⟨⟨htidy, ?_, ?_, h.whole, h.total⟩, ⟨⟨rfl, rfl, rfl, rfl, rfl, rfl⟩, rfl⟩, ?_,
      fun _ => ?_⟩
    · rw [← h.kept, hwaiting, ← hfilling, List.append_assoc, List.append_assoc]
    · rw [hplayed, List.length_append, length_load, h.heard, Nat.mul_succ]
    · exact Nat.add_le_add hless.le (congrArg List.length hfilling).le
    · exact Nat.add_lt_add_of_lt_of_le hless (congrArg List.length hfilling).le

lemma Queue.play (h : w.Queue bytes) (frames : ℕ) :
    (w.play frames).Queue bytes ∧ Later w (w.play frames) ∧
      (w.play frames).buffered ≤ w.buffered ∧
      (0 < w.renderer.waiting.length → 0 < frames → (w.play frames).buffered < w.buffered) := by
  induction frames generalizing w with
  | zero => exact ⟨h, Later.refl w, le_rfl, fun _ hpos => absurd hpos (Nat.lt_irrefl 0)⟩
  | succ frames ih =>
    have hsucc : w.play (frames + 1) = w.playFrame.play frames := rfl
    obtain ⟨hqueue, hlater, hle, hlt⟩ := h.playFrame
    obtain ⟨hqueue', hlater', hle', -⟩ := ih hqueue
    rw [hsucc]
    exact ⟨hqueue', hlater.trans hlater', hle'.trans hle,
      fun hpos _ => lt_of_le_of_lt hle' (hlt hpos)⟩

/-! ## Writing -/

lemma count_stereo {n : ℕ} (h : n < 2 ^ 64) :
    UInt64.ofNat n / (2 : Int32).toInt64.toUInt64 / 2 = UInt64.ofNat (n / 4) := by
  have htwo : ((2 : Int32).toInt64.toUInt64).toNat = 2 := by decide
  apply UInt64.toNat_inj.mp
  rw [UInt64.toNat_div, UInt64.toNat_div, htwo, UInt64.toNat_ofNat_of_lt' h,
    UInt64.toNat_ofNat_of_lt' (by omega : n / 4 < 2 ^ 64)]
  exact Nat.div_div_eq_div_mul n 2 2

/-- One turn of the loop, in a session of two channels. -/
lemma Queue.append (h : w.Queue bytes) (hchannels : w.renderer.channelCount = 2)
    (hbuf : buf.length % 4 = 0) :
    let (n, r') := w.renderer.appendAudio buf
    let w' := { w with renderer := r' }
    w'.Queue (bytes ++ buf.take n) ∧ Later w w' ∧ w'.buffered = w.buffered + (buf.take n).length ∧
      (buf.drop n).length % 4 = 0 ∧ (buf ≠ [] → n = 0 → 0 < w'.renderer.waiting.length) := by
  have hspec := appendAudio_spec h.tidy buf
  obtain ⟨hwhole, htaken⟩ := h.tidy.appendAudio_whole hbuf h.filling_whole
  have hrefused (hne : buf ≠ []) := h.tidy.waiting_of_refused hne
  generalize w.renderer.appendAudio buf = result at hspec hwhole htaken hrefused ⊢
  obtain ⟨n, r'⟩ := result
  obtain ⟨htidy, hsame, hplayed, hbytes, htotal⟩ := hspec
  have hsize : bufferSize = 2400 := rfl
  have hold := h.whole
  have hlength := congrArg List.length hbytes
  have htake : (buf.take n).length = n := List.length_take_of_le (le_min_iff.mp htaken).1
  have hsum : (bytes ++ buf.take n).length = bytes.length + n := by
    rw [List.length_append, htake]
  rw [List.length_append, List.length_append, List.length_append, htake] at hlength
  refine ⟨⟨htidy, ?_, ?_, ?_, ?_⟩, ⟨hsame, rfl⟩, ?_, ?_, hrefused⟩
  · rw [← h.kept, hbytes]
    simp only [List.append_assoc]
  · rw [hplayed, h.heard]
  · omega
  · have hquot : (bytes.length + n) / 4 = bytes.length / 4 + n / 4 := by omega
    rw [htotal, hchannels, h.total, count_stereo (by omega), hsum, hquot, UInt64.ofNat_add]
  · rw [buffered, buffered, htake, hlength]
  · rw [List.length_drop]
    omega

/-- Whenever the loop ends, all of the packet was copied. -/
lemma Queue.writeLoop {w' : World} (h : w.Queue bytes) (hchannels : w.renderer.channelCount = 2)
    (hbuf : buf.length % 4 = 0) {waits : List ℕ} (hloop : w.writeLoop waits buf = some w') :
    w'.Queue (bytes ++ buf) ∧ Later w w' := by
  induction waits generalizing w bytes buf with
  | nil =>
    have happend := h.append hchannels hbuf
    unfold World.writeLoop at hloop
    generalize w.renderer.appendAudio buf = result at happend hloop
    obtain ⟨n, r'⟩ := result
    obtain ⟨hqueue, hlater, -⟩ := happend
    dsimp only at hloop
    split_ifs at hloop with hdone
    rw [List.drop_eq_nil_iff] at hdone
    rw [List.take_of_length_le hdone] at hqueue
    exact Option.some.inj hloop ▸ ⟨hqueue, hlater⟩
  | cons frames waits ih =>
    have happend := h.append hchannels hbuf
    unfold World.writeLoop at hloop
    generalize w.renderer.appendAudio buf = result at happend hloop
    obtain ⟨n, r'⟩ := result
    obtain ⟨hqueue, hlater, -, hrest, -⟩ := happend
    dsimp only at hloop
    split_ifs at hloop with hdone
    · rw [List.drop_eq_nil_iff] at hdone
      rw [List.take_of_length_le hdone] at hqueue
      exact Option.some.inj hloop ▸ ⟨hqueue, hlater⟩
    · obtain ⟨hplayed, hlater', -⟩ := hqueue.play frames
      have hlater := hlater.trans hlater'
      have hnext := ih hplayed (hlater.setup.channelCount.trans hchannels) hrest hloop
      rw [List.append_assoc, List.take_append_drop] at hnext
      exact ⟨hnext.1, hlater.trans hnext.2⟩

/-- While the driver plays on, each wait leaves less to copy or less to play. -/
lemma Queue.writeLoop_ends (h : w.Queue bytes) (hchannels : w.renderer.channelCount = 2)
    (hbuf : buf.length % 4 = 0) {waits : List ℕ} (hprogress : ∀ frames ∈ waits, 0 < frames)
    (henough : 2 * buf.length + w.buffered ≤ waits.length) : w.writeLoop waits buf ≠ none := by
  induction waits generalizing w bytes buf with
  | nil =>
    have hnil : buf = [] := List.length_eq_zero_iff.mp (by rw [List.length_nil] at henough; omega)
    unfold World.writeLoop
    rw [hnil, List.drop_nil, if_pos rfl]
    exact Option.some_ne_none _
  | cons frames waits ih =>
    have happend := h.append hchannels hbuf
    unfold World.writeLoop
    generalize w.renderer.appendAudio buf = result at happend ⊢
    obtain ⟨n, r'⟩ := result
    obtain ⟨hqueue, hlater, hbuffered, hrest, hrefused⟩ := happend
    dsimp only
    split_ifs with hdone
    · exact Option.some_ne_none _
    · obtain ⟨hplayed, hlater', hle, hlt⟩ := hqueue.play frames
      have hchannels' := (hlater.trans hlater').setup.channelCount.trans hchannels
      have hpositive := hprogress frames List.mem_cons_self
      have hdrop : n < buf.length := by rwa [List.drop_eq_nil_iff, Nat.not_le] at hdone
      refine ih hplayed hchannels' hrest (fun k hk => hprogress k (List.mem_cons_of_mem _ hk)) ?_
      rw [List.length_take_of_le hdrop.le] at hbuffered
      rw [List.length_cons] at henough
      rw [List.length_drop]
      rcases Nat.eq_zero_or_pos n with hzero | hsome
      · have hne : buf ≠ [] := List.ne_nil_of_length_pos (Nat.zero_lt_of_lt hdrop)
        have hless := hlt (hrefused hne hzero) hpositive
        omega
      · omega

/-! ## Runs -/

/-- The counter is zero when a session starts, and its packets are stereo. -/
def Accounted (w : World) : Call → Prop
  | .init _ _ _ => w.renderer.totalQueuedSamples = 0
  | .decodeAndPlaySample frames _ _ _ => w.Writes frames → w.renderer.channelCount = 2
  | _ => True

instance (w : World) (call : Call) : Decidable (w.Accounted call) := by
  cases call <;> unfold Accounted <;> infer_instance

/-- The stereo frames that were written since the last init and are not played yet. -/
def queuedFrames (w : World) : ℕ :=
  w.accepted.length / 4 - w.renderer.driver.playedSampleCount

lemma packet_eq_stereo (hchannels : w.renderer.channelCount = 2) (frames : ℕ)
    {decoded : List Int16} (hdecoded : decoded.length = frames * 2) (volume : ℤ) :
    (w.packet frames decoded volume).length = frames * 4 := by
  have hfew : ¬(6 ≤ w.renderer.channelCount ∧ w.renderer.downmixBuffer = true) := by
    rw [hchannels]
    exact fun h => absurd h.1 (by decide)
  have htwo : w.renderer.channelCount.toInt.toNat = 2 := by rw [hchannels]; rfl
  have hbytes (buffer : List Int16) : (bytesOf buffer).length = buffer.length * 2 := by
    rw [bytesOf, List.length_flatMap]
    simp
  rw [packet, hbytes, applyVolume, List.length_map, playback, if_neg hfew, htwo,
    List.length_take, hdecoded, min_self, Nat.mul_assoc]

lemma decodeAndPlaySample_eq (frames : ℕ) (decoded : List Int16) (volume : ℤ) (waits : List ℕ) :
    w.decodeAndPlaySample frames decoded volume waits =
      if w.Writes frames ∧ w.renderer.drops = false ∧ w.packet frames decoded volume ≠ [] then
        w.writeLoop waits (w.packet frames decoded volume)
      else some w := by
  unfold decodeAndPlaySample writeAudio
  by_cases hreached : w.renderer.decoder ∧ w.renderer.decodedBuffer ∧ 0 < frames
  · have hwrites : w.Writes frames ↔ w.renderer.initedDriver = true :=
      ⟨fun h => h.2.2.2, fun h => ⟨hreached.1, hreached.2.1, hreached.2.2, h⟩⟩
    rw [if_pos hreached]
    split_ifs <;> simp_all
  · have hnot : ¬(w.Writes frames ∧ w.renderer.drops = false ∧
        w.packet frames decoded volume ≠ []) := fun h => hreached ⟨h.1.1, h.1.2.1, h.1.2.2.1⟩
    rw [if_neg hreached, if_neg hnot]

/-- What is counted is what is buffered. -/
lemma Queue.queuedSamples (h : w.Queue bytes) :
    w.renderer.driver.playedSampleCount ≤ bytes.length / 4 ∧
      w.renderer.queuedSamples.toNat =
        bytes.length / 4 - w.renderer.driver.playedSampleCount := by
  have hlength := h.length_eq
  have hle : w.renderer.driver.playedSampleCount ≤ bytes.length / 4 := by omega
  have hbuffered := h.tidy.buffered_le
  have hroom : (bufferCount + 1) * bufferSize = 14400 := rfl
  have hfits : bytes.length / 4 - w.renderer.driver.playedSampleCount < 2 ^ 64 := by
    rw [buffered] at hlength
    omega
  refine ⟨hle, ?_⟩
  rw [AudrenAudioRenderer.queuedSamples, h.total, ← UInt64.ofNat_sub hle,
    UInt64.toNat_ofNat_of_lt' hfits]

lemma drops_imp (h : w.renderer.drops = true) :
    w.renderer.sampleRate.toInt < 2 * w.renderer.queuedSamples.toNat := by
  have hlt := UInt64.lt_iff_toNat_lt.mp (of_decide_eq_true h)
  have hdiv := Int32.toInt_div_of_ne_right w.renderer.sampleRate 2 (by decide)
  by_cases hpos : 0 < w.renderer.sampleRate.toInt
  · have htwo : (2 : Int32).toInt = 2 := rfl
    rw [htwo, Int.tdiv_eq_ediv_of_nonneg hpos.le] at hdiv
    have hnonneg : 0 ≤ (w.renderer.sampleRate / 2).toInt64 := by
      rw [Int64.le_iff_toInt_le, Int32.toInt_toInt64, Int64.toInt_zero]
      omega
    rw [Int64.toNat_toUInt64_of_le hnonneg, Int64.toNatClampNeg, Int32.toInt_toInt64, hdiv] at hlt
    omega
  · omega

lemma queue_start (r : AudrenAudioRenderer) (hdriver : r.driver = {})
    (hcurrent : r.currentWavebuf = none) (htotal : r.totalQueuedSamples = 0) :
    Queue ⟨r, [], []⟩ [] := by
  refine ⟨⟨?_, ?_, ?_, ?_, ?_⟩, ?_, ?_, rfl, htotal⟩
  · rw [hdriver]
    exact List.nodup_nil
  · rw [hdriver]
    exact fun index hindex => absurd hindex List.not_mem_nil
  · rw [hdriver]
    decide
  · rw [hdriver]
    exact fun _ => rfl
  · rw [hcurrent]
    exact fun index hindex => absurd hindex (Option.not_mem_none index)
  · rw [waiting, filling, hdriver, hcurrent]
    rfl
  · rw [hdriver]
    rfl

lemma step_decode (frames : ℕ) (decoded : List Int16) (volume : ℤ) (waits : List ℕ) :
    w.step (.decodeAndPlaySample frames decoded volume waits) =
      if frames ≤ samplesPerFrame ∧
          decoded.length = frames * w.renderer.channelCount.toInt.toNat then
        (w.decodeAndPlaySample frames decoded volume waits).map fun w' =>
          if w.Writes frames ∧ w.renderer.drops = false then
            { w' with accepted := w'.accepted ++ w.packet frames decoded volume }
          else w'
      else none := rfl

variable {w' : World} {frames : ℕ} {decoded : List Int16} {volume : ℤ} {waits : List ℕ}

/-- Either the packet is written or nothing changes. -/
lemma decode_cases (hstep : w.step (.decodeAndPlaySample frames decoded volume waits) = some w') :
    decoded.length = frames * w.renderer.channelCount.toInt.toNat ∧
      (w.Writes frames ∧ w.renderer.drops = false ∧
          (∃ w₁, w.decodeAndPlaySample frames decoded volume waits = some w₁ ∧
            w' = { w₁ with accepted := w₁.accepted ++ w.packet frames decoded volume }) ∨
        ¬(w.Writes frames ∧ w.renderer.drops = false) ∧ w' = w) := by
  rw [step_decode] at hstep
  by_cases hsize : frames ≤ samplesPerFrame ∧
      decoded.length = frames * w.renderer.channelCount.toInt.toNat
  · rw [if_pos hsize] at hstep
    obtain ⟨w₁, hdecode, hw'⟩ := Option.map_eq_some_iff.mp hstep
    refine ⟨hsize.2, ?_⟩
    by_cases hwrites : w.Writes frames ∧ w.renderer.drops = false
    · rw [if_pos hwrites] at hw'
      exact .inl ⟨hwrites.1, hwrites.2, w₁, hdecode, hw'.symm⟩
    · rw [if_neg hwrites] at hw'
      rw [decodeAndPlaySample_eq, if_neg fun hall => hwrites ⟨hall.1, hall.2.1⟩] at hdecode
      exact .inr ⟨hwrites, (Option.some.inj hdecode).trans hw' |>.symm⟩
  · rw [if_neg hsize] at hstep
    exact absurd hstep nofun

/-- A packet is added to what was written, unless it is dropped. -/
lemma Queue.decode (h : w.Queue w.accepted) (hwrites : w.Writes frames)
    (hdrops : w.renderer.drops = false) (hchannels : w.renderer.channelCount = 2)
    (hdecoded : decoded.length = frames * w.renderer.channelCount.toInt.toNat)
    (hdecode : w.decodeAndPlaySample frames decoded volume waits = some w') :
    w'.Queue (w.accepted ++ w.packet frames decoded volume) ∧ Later w w' := by
  have htwo : w.renderer.channelCount.toInt.toNat = 2 := by rw [hchannels]; rfl
  have hlength := packet_eq_stereo hchannels frames (htwo ▸ hdecoded) volume
  have hne : w.packet frames decoded volume ≠ [] := by
    have hpos := hwrites.2.2.1
    exact List.ne_nil_of_length_pos (by omega)
  rw [decodeAndPlaySample_eq, if_pos ⟨hwrites, hdrops, hne⟩] at hdecode
  exact h.writeLoop hchannels (by omega) hdecode

lemma Queue.decode_ends (h : w.Queue w.accepted)
    (hok : w.Accounted (.decodeAndPlaySample frames decoded volume waits))
    (hframes : frames ≤ samplesPerFrame)
    (hdecoded : decoded.length = frames * w.renderer.channelCount.toInt.toNat)
    (hprogress : ∀ k ∈ waits, 0 < k)
    (henough : 2 * (w.packet frames decoded volume).length + w.buffered ≤ waits.length) :
    w.step (.decodeAndPlaySample frames decoded volume waits) ≠ none := by
  rw [step_decode, if_pos ⟨hframes, hdecoded⟩, Ne, Option.map_eq_none_iff, decodeAndPlaySample_eq]
  split_ifs with hwrites
  · have hchannels := hok hwrites.1
    have htwo : w.renderer.channelCount.toInt.toNat = 2 := by rw [hchannels]; rfl
    have hlength := packet_eq_stereo hchannels frames (htwo ▸ hdecoded) volume
    exact h.writeLoop_ends hchannels (by omega) hprogress henough
  · exact not_false

lemma init_spec (r : AudrenAudioRenderer) (channelCount sampleRate : Int32)
    (outcome : InitOutcome) :
    let (ok, r') := r.init channelCount sampleRate outcome
    r'.driver = {} ∧ r'.totalQueuedSamples = r.totalQueuedSamples ∧
      (ok = true → r'.currentWavebuf = none) ∧
      (ok = false → r'.initedDriver = r.initedDriver) := by
  unfold AudrenAudioRenderer.init
  cases outcome.mempool with
  | none => exact ⟨rfl, rfl, fun h => absurd h Bool.false_ne_true, fun _ => rfl⟩
  | some mempool =>
    cases outcome.driver with
    | false => exact ⟨rfl, rfl, fun h => absurd h Bool.false_ne_true, fun _ => rfl⟩
    | true => exact ⟨rfl, rfl, fun _ => rfl, fun h => absurd h.symm Bool.false_ne_true⟩

lemma init_cases {channelCount sampleRate : Int32} {outcome : InitOutcome}
    (hstep : w.step (.init channelCount sampleRate outcome) = some w')
    (hinit : w'.renderer.initedDriver = true) :
    ∃ r, w' = ⟨r, [], []⟩ ∧ r.driver = {} ∧ r.currentWavebuf = none ∧
      r.totalQueuedSamples = w.renderer.totalQueuedSamples := by
  have hspec := init_spec w.renderer channelCount sampleRate outcome
  unfold step at hstep
  dsimp only at hstep
  generalize w.renderer.init channelCount sampleRate outcome = result at hspec hstep
  obtain ⟨ok, r⟩ := result
  obtain ⟨hdriver, htotal, hcurrent, hinited⟩ := hspec
  cases ok with
  | true =>
    dsimp only at hstep
    split_ifs at hstep
    exact ⟨r, (Option.some.inj hstep).symm, hdriver, hcurrent rfl, htotal⟩
  | false =>
    dsimp only at hstep
    split_ifs at hstep with _ hbefore
    obtain rfl := Option.some.inj hstep
    exact absurd ((hinited rfl).symm.trans hinit) hbefore

/-- In every session, what is counted as queued is what was written. -/
lemma queue_step (call : Call) (h : w.renderer.initedDriver = true → w.Queue w.accepted)
    (hok : w.Accounted call) (hstep : w.step call = some w')
    (hinit : w'.renderer.initedDriver = true) : w'.Queue w'.accepted := by
  cases call with
  | init channelCount sampleRate outcome =>
    obtain ⟨r, rfl, hdriver, hcurrent, htotal⟩ := init_cases hstep hinit
    exact queue_start r hdriver hcurrent (htotal.trans hok)
  | decodeAndPlaySample frames decoded volume waits =>
    obtain ⟨hdecoded, ⟨hwrites, hdrops, w₁, hdecode, rfl⟩ | ⟨-, rfl⟩⟩ := decode_cases hstep
    · obtain ⟨hqueue, hlater⟩ :=
        (h hwrites.2.2.2).decode hwrites hdrops (hok hwrites) hdecoded hdecode
      rw [hlater.accepted]
      exact ⟨hqueue.tidy, hqueue.kept, hqueue.heard, hqueue.whole, hqueue.total⟩
    · exact h hinit
  | play frames =>
    unfold step at hstep
    dsimp only at hstep
    split_ifs at hstep with hinited
    obtain rfl := Option.some.inj hstep
    obtain ⟨hqueue, hlater, -⟩ := (h hinited).play frames
    rwa [hlater.accepted]
  | cleanup =>
    obtain rfl := Option.some.inj hstep
    exact absurd hinit Bool.false_ne_true

lemma queue_run (h : Run step Accounted {} w) (hinit : w.renderer.initedDriver = true) :
    w.Queue w.accepted := by
  have hstart : (({} : World).renderer.initedDriver = true → Queue {} []) :=
    fun hinit => absurd hinit Bool.false_ne_true
  have hinvariant := h.invariant (I := fun w => w.renderer.initedDriver = true →
    w.Queue w.accepted) hstart fun t call u ht hok hstep => queue_step call ht hok hstep
  exact hinvariant hinit

theorem queue_accounted (h : Run step Accounted {} w) (hinit : w.renderer.initedDriver = true) :
    w.heard ++ (w.renderer.waiting ++ w.renderer.filling) = w.accepted ∧
      w.heard.length = 4 * w.renderer.driver.playedSampleCount ∧
      w.renderer.driver.playedSampleCount ≤ w.accepted.length / 4 ∧
      w.renderer.queuedSamples.toNat = w.queuedFrames ∧
      (w.renderer.drops = true → w.renderer.sampleRate.toInt < 2 * w.queuedFrames) ∧
      ∀ frames decoded volume waits,
        w.Accounted (.decodeAndPlaySample frames decoded volume waits) → w.Writes frames →
        w.renderer.drops = false →
        (∀ w', w.step (.decodeAndPlaySample frames decoded volume waits) = some w' →
          w'.accepted = w.accepted ++ w.packet frames decoded volume ∧
            w'.heard ++ (w'.renderer.waiting ++ w'.renderer.filling) = w'.accepted) ∧
        (frames ≤ samplesPerFrame →
          decoded.length = frames * w.renderer.channelCount.toInt.toNat →
          (∀ k ∈ waits, 0 < k) →
          2 * (w.packet frames decoded volume).length + w.buffered ≤ waits.length →
          w.step (.decodeAndPlaySample frames decoded volume waits) ≠ none) := by
  have hqueue := queue_run h hinit
  obtain ⟨hplayed, hqueued⟩ := hqueue.queuedSamples
  refine ⟨hqueue.kept, hqueue.heard, hplayed, hqueued, fun hdrops => ?_, ?_⟩
  · have hlt := drops_imp hdrops
    rwa [hqueued] at hlt
  · intro frames decoded volume waits hok hwrites hdrops
    refine ⟨fun w' hstep => ?_, fun hframes hdecoded => hqueue.decode_ends hok hframes hdecoded⟩
    obtain ⟨hdecoded, ⟨-, -, w₁, hdecode, rfl⟩ | ⟨hnot, -⟩⟩ := decode_cases hstep
    · obtain ⟨hqueue', hlater⟩ := hqueue.decode hwrites hdrops (hok hwrites) hdecoded hdecode
      rw [hlater.accepted]
      exact ⟨rfl, hqueue'.kept⟩
    · exact absurd ⟨hwrites, hdrops⟩ hnot

theorem queue_accounted_onePacket :
    ∃ w, exec (guarded step Accounted) {}
        [.init 2 48000 {}, .decodeAndPlaySample 1 [5, -6] 100 []] = some w ∧
      w.renderer.queuedSamples.toNat = w.queuedFrames ∧ w.queuedFrames = 1 := by
  have hshown : (exec (guarded step Accounted) {}
      [.init 2 48000 {}, .decodeAndPlaySample 1 [5, -6] 100 []]).map
      (fun w => (w.renderer.initedDriver, w.queuedFrames)) = some (true, 1) := by decide +kernel
  obtain ⟨w, hexec, hw⟩ := Option.map_eq_some_iff.mp hshown
  obtain ⟨hinit, hqueued⟩ := Prod.mk.inj hw
  exact ⟨w, hexec, (queue_accounted (Run.of_exec_guarded hexec) hinit).2.2.2.1, hqueued⟩

/-- A second session on the same renderer starts with what the first one has counted, and frames
of six channels are counted by thirds. -/
theorem queue_miscounted :
    (∃ w, exec step {} [.init 2 48000 {}, .decodeAndPlaySample 1 [5, -6] 100 [], .cleanup,
        .init 2 48000 {}] = some w ∧
      w.renderer.initedDriver = true ∧ w.renderer.queuedSamples.toNat = 1 ∧ w.queuedFrames = 0) ∧
    (∃ w, exec step {} [.init 6 48000 {}, .decodeAndPlaySample 1 [1, 2, 3, 4, 5, 6] 100 []] =
        some w ∧
      w.renderer.initedDriver = true ∧ w.renderer.queuedSamples.toNat = 0 ∧
        w.queuedFrames = 1) := by
  have hsecond : (exec step {} [.init 2 48000 {}, .decodeAndPlaySample 1 [5, -6] 100 [], .cleanup,
      .init 2 48000 {}]).map
      (fun w => (w.renderer.initedDriver, w.renderer.queuedSamples.toNat, w.queuedFrames)) =
      some (true, 1, 0) := by decide +kernel
  have hsix : (exec step {} [.init 6 48000 {},
      .decodeAndPlaySample 1 [1, 2, 3, 4, 5, 6] 100 []]).map
      (fun w => (w.renderer.initedDriver, w.renderer.queuedSamples.toNat, w.queuedFrames)) =
      some (true, 0, 1) := by decide +kernel
  obtain ⟨w, hexec, hw⟩ := Option.map_eq_some_iff.mp hsecond
  obtain ⟨w', hexec', hw'⟩ := Option.map_eq_some_iff.mp hsix
  simp only [Prod.mk.injEq] at hw hw'
  exact ⟨⟨w, hexec, hw⟩, ⟨w', hexec', hw'⟩⟩

end World

end ArtemisSwitch.Audio

import ArtemisSwitch.BenchmarkSummary
import ArtemisSwitch.DecimalText
import ArtemisSwitch.Library.Csv
import ArtemisSwitch.Library.JsonGrammar

/-!
# Exports of a benchmark

A summary is written as JSON and as a line of CSV.  The clock is given as `gmtime_r` returns it.  A
finite `double` is the rational that it stands for, so a negative zero has no sign.
-/

namespace ArtemisSwitch.Benchmark
open DecimalText JsonGrammar
open HostAddress (decimal isdigit)

structure ExportProfile where
  width : Int32 := 1280
  height : Int32 := 720
  fps : Int32 := 60
  bitrateKbps : Int32 := 15000
  decoderThreads : Int32 := 2
  codec : Bytes := ascii "HEVC"

structure ExportSummary where
  durationSeconds : ℚ := 0
  renderedFpsMean : ℚ := 0
  renderedFpsP99 : ℚ := 0
  networkDropPercent : ℚ := 0
  receiveMsP99 : ℚ := 0
  decodeMsP99 : ℚ := 0
  clientProcessingMsP99 : ℚ := 0
  stabilityScore : ℚ := 0
  stats : BenchmarkSummary := {}
  capturedAtIso : Bytes := []
  hostName : Bytes := []
  appName : Bytes := []

structure SwitchRuntimeMetadata where
  platform : Bytes := ascii "unknown"
  operationMode : Bytes := ascii "unknown"
  batteryPercent : Int32 := -1
  batteryChargingKnown : Bool := false
  batteryCharging : Bool := false
  cpuClockHz : UInt32 := 0
  gpuClockHz : UInt32 := 0
  memoryClockHz : UInt32 := 0

/-- A time of the calendar, in UTC. -/
structure Tm where
  year : ℕ
  month : ℕ
  day : ℕ
  hour : ℕ
  minute : ℕ
  second : ℕ

/-! ## Numbers -/

/-- At least `width` digits. -/
def padded (width n : ℕ) : Bytes := List.replicate (width - (decimal n).length) 48 ++ decimal n

/-- To the nearest integer, and to the even one of two. -/
def roundHalfEven (x : ℚ) : ℕ :=
  let n := ⌊x⌋₊
  if x - n < 1 / 2 then n
  else if 1 / 2 < x - n then n + 1
  else if n % 2 = 0 then n
  else n + 1

/-- `std::fixed` with four digits behind the point. -/
def fixed (x : ℚ) : Bytes :=
  let n := roundHalfEven (|x| * 10000)
  (if x < 0 then ascii "-" else []) ++ decimal (n / 10000) ++ ascii "." ++ padded 4 (n % 10000)

def isoUtcNow (now : Tm) : Bytes :=
  padded 4 now.year ++ ascii "-" ++ padded 2 now.month ++ ascii "-" ++ padded 2 now.day ++
    ascii "T" ++ padded 2 now.hour ++ ascii ":" ++ padded 2 now.minute ++ ascii ":" ++
    padded 2 now.second ++ ascii "Z"

/-- When the run was captured, or else the time of the export. -/
def ExportSummary.captured (s : ExportSummary) (now : Tm) : Bytes :=
  if s.capturedAtIso = [] then isoUtcNow now else s.capturedAtIso

/-! ## JSON -/

/-- A digit of `std::hex`. -/
def hexDigit (n : ℕ) : UInt8 := if n < 10 then UInt8.ofNat (48 + n) else UInt8.ofNat (87 + n)

def escapeByte (c : UInt8) : Bytes :=
  if c = 34 then ascii "\\\""
  else if c = 92 then ascii "\\\\"
  else if c = 8 then ascii "\\b"
  else if c = 12 then ascii "\\f"
  else if c = 10 then ascii "\\n"
  else if c = 13 then ascii "\\r"
  else if c = 9 then ascii "\\t"
  else if c < 0x20 then
    ascii "\\u" ++ [48, 48, hexDigit (c.toNat / 16), hexDigit (c.toNat % 16)]
  else [c]

def jsonEscape (value : Bytes) : Bytes := value.flatMap escapeByte

def boolJson (value : Bool) : Bytes := if value then ascii "true" else ascii "false"

/-- What stands in front of the value of a member. -/
def named (lead name : String) : Bytes := ascii lead ++ ascii "\"" ++ ascii name ++ ascii "\": "

def writeDistJson (key : String) (d : DistributionSummary) : Bytes :=
  named "    " key ++ ascii "\x7b" ++ named "" "mean" ++ fixed d.mean ++
    named ", " "median" ++ fixed d.median ++
    named ", " "p95" ++ fixed d.p95 ++
    named ", " "p99" ++ fixed d.p99 ++
    named ", " "min" ++ fixed d.min ++
    named ", " "max" ++ fixed d.max ++ ascii "\x7d"

def profileJson (p : ExportProfile) : Bytes :=
  named "  " "profile" ++ ascii "\x7b" ++ named "" "width" ++ toText p.width ++
    named ", " "height" ++ toText p.height ++
    named ", " "fps" ++ toText p.fps ++
    named ", " "bitrate_kbps" ++ toText p.bitrateKbps ++
    named ", " "decoder_threads" ++ toText p.decoderThreads ++
    named ", " "codec" ++ ascii "\"" ++ jsonEscape p.codec ++ ascii "\"\x7d"

def runtimeJson (r : SwitchRuntimeMetadata) : Bytes :=
  named "  " "runtime" ++ ascii "\x7b" ++
    named "" "platform" ++ ascii "\"" ++ jsonEscape r.platform ++ ascii "\"" ++
    named ", " "operation_mode" ++ ascii "\"" ++ jsonEscape r.operationMode ++
    ascii "\"" ++ named ", " "battery_percent" ++ toText r.batteryPercent ++
    named ", " "battery_charging_enabled" ++
    (if r.batteryChargingKnown then boolJson r.batteryCharging else ascii "null") ++
    named ", " "cpu_clock_hz" ++ decimal r.cpuClockHz.toNat ++
    named ", " "gpu_clock_hz" ++ decimal r.gpuClockHz.toNat ++
    named ", " "memory_clock_hz" ++ decimal r.memoryClockHz.toNat ++ ascii "\x7d"

def summaryJson (s : ExportSummary) : Bytes :=
  named "  " "summary" ++ ascii "\x7b" ++ named "" "duration_seconds" ++ fixed s.durationSeconds ++
    named ", " "rendered_fps_mean" ++ fixed s.renderedFpsMean ++
    named ", " "rendered_fps_p99" ++ fixed s.renderedFpsP99 ++
    named ", " "network_drop_percent" ++ fixed s.networkDropPercent ++
    named ", " "receive_ms_p99" ++ fixed s.receiveMsP99 ++
    named ", " "decode_ms_p99" ++ fixed s.decodeMsP99 ++
    named ", " "client_processing_ms_p99" ++ fixed s.clientProcessingMsP99 ++
    named ", " "stability_score" ++ fixed s.stabilityScore ++ ascii "\x7d"

def statsJson (captured : Bytes) (s : ExportSummary) : Bytes :=
  let st := s.stats
  named "  " "stats" ++ ascii "\x7b\n" ++
    named "    " "captured_at" ++ ascii "\"" ++ jsonEscape captured ++ ascii "\",\n" ++
    named "    " "host" ++ ascii "\"" ++ jsonEscape s.hostName ++ ascii "\",\n" ++
    named "    " "app" ++ ascii "\"" ++ jsonEscape s.appName ++ ascii "\",\n" ++
    named "    " "sample_count" ++ decimal st.sampleCount ++ ascii ",\n" ++
    named "    " "duration_seconds" ++ fixed st.durationSeconds ++ ascii ",\n" ++
    writeDistJson "host_fps" st.hostFps ++ ascii ",\n" ++
    writeDistJson "received_fps" st.receivedFps ++ ascii ",\n" ++
    writeDistJson "decoded_fps" st.decodedFps ++ ascii ",\n" ++
    writeDistJson "rendered_fps" st.renderedFps ++ ascii ",\n" ++
    writeDistJson "receive_ms" st.receiveMs ++ ascii ",\n" ++
    writeDistJson "decode_ms" st.decodeMs ++ ascii ",\n" ++
    writeDistJson "decoder_delay_ms" st.decoderDelayMs ++ ascii ",\n" ++
    writeDistJson "render_ms" st.renderMs ++ ascii ",\n" ++
    writeDistJson "gpu_render_ms" st.gpuRenderMs ++ ascii ",\n" ++
    writeDistJson "client_processing_ms" st.clientProcessingMs ++ ascii ",\n" ++
    writeDistJson "queue_depth" st.queueDepth ++ ascii ",\n" ++
    writeDistJson "queue_jitter_ms" st.queueJitterMs ++ ascii ",\n" ++
    writeDistJson "queue_wait_ms" st.queueWaitMs ++ ascii ",\n" ++
    writeDistJson "client_pipeline_ms" st.clientPipelineMs ++ ascii ",\n" ++
    writeDistJson "present_interval_ms" st.presentIntervalMs ++ ascii ",\n" ++
    writeDistJson "actual_video_mbps" st.actualVideoMbps ++ ascii ",\n" ++
    named "    " "received_frames" ++ decimal st.receivedFrames.toNat ++ ascii ",\n" ++
    named "    " "network_dropped_frames" ++ decimal st.networkDroppedFrames.toNat ++
    ascii ",\n" ++
    named "    " "network_drop_percent" ++ fixed st.networkDropPercent ++ ascii ",\n" ++
    named "    " "queue_underflows" ++ decimal st.queueUnderflows.toNat ++ ascii ",\n" ++
    named "    " "queue_skipped_frames" ++ decimal st.queueSkippedFrames.toNat ++
    ascii ",\n" ++
    named "    " "queue_overflow_drops" ++ decimal st.queueOverflowDrops.toNat ++
    ascii ",\n" ++
    named "    " "queue_pacing_skips" ++ decimal st.queuePacingSkips.toNat ++ ascii ",\n" ++
    named "    " "queue_resyncs" ++ decimal st.queueResyncs.toNat ++ ascii ",\n" ++
    named "    " "time_to_first_packet_ms" ++ fixed st.timeToFirstPacketMs ++ ascii ",\n" ++
    named "    " "time_to_first_decode_ms" ++ fixed st.timeToFirstDecodeMs ++ ascii ",\n" ++
    named "    " "time_to_first_present_ms" ++ fixed st.timeToFirstPresentMs ++
    ascii ",\n" ++
    named "    " "stability_score" ++ fixed st.stabilityScore ++ ascii "\n" ++
    ascii "  \x7d"

def toJson (p : ExportProfile) (s : ExportSummary) (r : SwitchRuntimeMetadata) (now : Tm) :
    Bytes :=
  ascii "\x7b\n" ++ profileJson p ++ ascii ",\n" ++ runtimeJson r ++ ascii ",\n" ++ summaryJson s ++
    ascii ",\n" ++ statsJson (s.captured now) s ++ ascii "\n" ++ ascii "\x7d\n"

/-! ## CSV -/

def csvEscape (value : Bytes) : Bytes :=
  if value.all fun c => c ≠ 44 && c ≠ 34 && c ≠ 13 && c ≠ 10 then value
  else 34 :: (value.flatMap fun c => if c = 34 then [34, c] else [c]) ++ [34]

def writeDistCsv (d : DistributionSummary) : List Bytes :=
  [fixed d.mean, fixed d.median, fixed d.p95, fixed d.p99, fixed d.min, fixed d.max]

/-- The columns of a distribution. -/
def distNames (key : String) : List Bytes :=
  [ascii "mean", ascii "median", ascii "p95", ascii "p99", ascii "min", ascii "max"].map
    fun figure => ascii "stats_" ++ ascii key ++ ascii "_" ++ figure

def csvNames : List Bytes :=
  [ascii "width", ascii "height", ascii "fps", ascii "bitrate_kbps", ascii "decoder_threads",
    ascii "codec", ascii "duration_seconds", ascii "rendered_fps_mean", ascii "rendered_fps_p99",
    ascii "network_drop_percent", ascii "receive_ms_p99", ascii "decode_ms_p99",
    ascii "client_processing_ms_p99", ascii "stability_score", ascii "platform",
    ascii "operation_mode", ascii "battery_percent", ascii "battery_charging_enabled",
    ascii "cpu_clock_hz", ascii "gpu_clock_hz", ascii "memory_clock_hz", ascii "captured_at",
    ascii "host", ascii "app", ascii "sample_count", ascii "received_frames",
    ascii "network_dropped_frames", ascii "queue_underflows", ascii "queue_skipped_frames",
    ascii "queue_overflow_drops", ascii "queue_pacing_skips", ascii "queue_resyncs"] ++
  ["host_fps", "received_fps", "decoded_fps", "rendered_fps", "receive_ms", "decode_ms",
    "decoder_delay_ms", "render_ms", "gpu_render_ms", "client_processing_ms"].flatMap distNames

def csvHeader : Bytes := (ascii ",").intercalate csvNames ++ ascii "\n"

/-- The columns of a row, with `escape` for those that hold a string. -/
def csvColumns (escape : Bytes → Bytes) (p : ExportProfile) (s : ExportSummary)
    (r : SwitchRuntimeMetadata) (now : Tm) : List Bytes :=
  let st := s.stats
  [toText p.width, toText p.height, toText p.fps, toText p.bitrateKbps, toText p.decoderThreads,
    escape p.codec, fixed s.durationSeconds, fixed s.renderedFpsMean, fixed s.renderedFpsP99,
    fixed s.networkDropPercent, fixed s.receiveMsP99, fixed s.decodeMsP99,
    fixed s.clientProcessingMsP99, fixed s.stabilityScore, escape r.platform,
    escape r.operationMode, toText r.batteryPercent,
    if r.batteryChargingKnown then boolJson r.batteryCharging else [],
    decimal r.cpuClockHz.toNat, decimal r.gpuClockHz.toNat, decimal r.memoryClockHz.toNat,
    escape (s.captured now), escape s.hostName, escape s.appName,
    decimal st.sampleCount, decimal st.receivedFrames.toNat,
    decimal st.networkDroppedFrames.toNat, decimal st.queueUnderflows.toNat,
    decimal st.queueSkippedFrames.toNat, decimal st.queueOverflowDrops.toNat,
    decimal st.queuePacingSkips.toNat, decimal st.queueResyncs.toNat] ++
  [st.hostFps, st.receivedFps, st.decodedFps, st.renderedFps, st.receiveMs, st.decodeMs,
    st.decoderDelayMs, st.renderMs, st.gpuRenderMs, st.clientProcessingMs].flatMap writeDistCsv

def toCsvRow (p : ExportProfile) (s : ExportSummary) (r : SwitchRuntimeMetadata) (now : Tm) :
    Bytes :=
  (ascii ",").intercalate (csvColumns csvEscape p s r now) ++ ascii "\n"

/-! ## Reading the CSV -/

lemma not_special_of_isdigit {c : UInt8} (h : isdigit c = true) : Csv.special c = false := by
  simp only [isdigit, Bool.and_eq_true, decide_eq_true_eq, UInt8.le_iff_toNat_le] at h
  have hfar {d : UInt8} (hd : d.toNat < 48) : decide (c = d) = false := by
    refine decide_eq_false fun heq => ?_
    rw [heq] at h
    exact absurd h.1 (Nat.not_le.mpr hd)
  unfold Csv.special
  rw [hfar (by decide), hfar (by decide), hfar (by decide), hfar (by decide)]
  rfl

/-- Nothing in the text has to be quoted. -/
def Unquoted (text : Bytes) : Prop := text.all (!Csv.special ·) = true

instance (text : Bytes) : Decidable (Unquoted text) := inferInstanceAs (Decidable (_ = true))

lemma Unquoted.append {a b : Bytes} (ha : Unquoted a) (hb : Unquoted b) : Unquoted (a ++ b) := by
  unfold Unquoted
  rw [List.all_append, ha, hb]
  rfl

lemma unquoted_of_digits {text : Bytes} (h : text.all isdigit = true) : Unquoted text := by
  refine List.all_eq_true.mpr fun c hc => ?_
  rw [not_special_of_isdigit (List.all_eq_true.mp h c hc)]
  rfl

@[simp] lemma unquoted_decimal (n : ℕ) : Unquoted (decimal n) :=
  unquoted_of_digits (all_isdigit_decimal n)

lemma all_isdigit_padded (width n : ℕ) : (padded width n).all isdigit = true := by
  rw [padded, List.all_append, all_isdigit_decimal, Bool.and_true]
  refine List.all_eq_true.mpr fun c hc => ?_
  rw [List.eq_of_mem_replicate hc]
  rfl

@[simp] lemma unquoted_toText (n : Int32) : Unquoted (toText n) := by
  unfold toText
  split_ifs
  · exact Unquoted.append (a := [minus]) rfl (unquoted_decimal _)
  · exact unquoted_decimal _

@[simp] lemma unquoted_fixed (x : ℚ) : Unquoted (fixed x) := by
  have hsign : Unquoted (if x < 0 then ascii "-" else []) := by
    split_ifs
    · exact rfl
    · exact rfl
  have hpoint : Unquoted (ascii ".") := rfl
  unfold fixed
  exact ((hsign.append (unquoted_decimal _)).append hpoint).append
    (unquoted_of_digits (all_isdigit_padded 4 _))

@[simp] lemma unquoted_charging (known charging : Bool) :
    Unquoted (if known then boolJson charging else []) := by
  cases known <;> cases charging <;> rfl

/-- What is escaped is read as it was. -/
lemma isField_csvEscape (value : Bytes) : Csv.IsField (csvEscape value) value := by
  unfold csvEscape
  split_ifs with hplain
  · refine .inl ⟨rfl, ?_⟩
    refine List.all_eq_true.mpr fun c hc => ?_
    have hall := List.all_eq_true.mp hplain c hc
    simp only [Bool.and_eq_true, decide_eq_true_eq] at hall
    obtain ⟨⟨⟨hcomma, hquote⟩, hreturn⟩, hfeed⟩ := hall
    simp [Csv.special, Csv.comma, Csv.quote, Csv.lineFeed, Csv.carriageReturn, hcomma, hquote,
      hreturn, hfeed]
  · exact Csv.isField_quoted value

lemma isField_self {text : Bytes} (h : Unquoted text) : Csv.IsField text text :=
  Csv.isField_self h

variable (p : ExportProfile) (s : ExportSummary) (r : SwitchRuntimeMetadata) (now : Tm)

lemma isField_csvColumns :
    List.Forall₂ Csv.IsField (csvColumns csvEscape p s r now) (csvColumns id p s r now) := by
  have hdist (d : DistributionSummary) : ∀ text ∈ writeDistCsv d, Unquoted text := by
    simp [writeDistCsv]
  apply List.rel_append
  · simp only [List.forall₂_cons, List.forall₂_nil_left_iff, and_true, isField_csvEscape, id,
      isField_self, unquoted_decimal, unquoted_toText, unquoted_fixed, unquoted_charging]
  · rw [List.forall₂_same]
    intro text htext
    obtain ⟨d, -, hd⟩ := List.mem_flatMap.mp htext
    exact isField_self (hdist d text hd)

lemma unquoted_distNames {key : String} (h : Unquoted (ascii key)) :
    ∀ name ∈ distNames key, Unquoted name := by
  have hfigures : ∀ figure ∈ [ascii "mean", ascii "median", ascii "p95", ascii "p99",
      ascii "min", ascii "max"], Unquoted figure := by decide +kernel
  have hlead : Unquoted (ascii "stats_") := by decide +kernel
  have hbetween : Unquoted (ascii "_") := rfl
  intro name hname
  obtain ⟨figure, hfigure, rfl⟩ := List.mem_map.mp hname
  exact ((hlead.append h).append hbetween).append (hfigures figure hfigure)

lemma isField_csvNames : List.Forall₂ Csv.IsField csvNames csvNames := by
  rw [List.forall₂_same]
  intro name hname
  apply isField_self
  rcases List.mem_append.mp hname with hname | hname
  · revert name
    decide +kernel
  · obtain ⟨key, hkey, hname⟩ := List.mem_flatMap.mp hname
    refine unquoted_distNames ?_ name hname
    clear hname
    revert key
    decide +kernel

/-- The header and the row are written by hand, column by column. -/
lemma length_csvNames : csvNames.length = (csvColumns id p s r now).length := by
  unfold csvNames csvColumns distNames writeDistCsv
  simp only [List.length_append, List.flatMap_cons, List.flatMap_nil, List.length_map,
    List.length_cons, List.length_nil]

lemma read_csv :
    Csv.read (csvHeader ++ toCsvRow p s r now) = some [csvNames, csvColumns id p s r now] := by
  have hlines : csvHeader ++ toCsvRow p s r now =
      [csvNames, csvColumns csvEscape p s r now].flatMap Csv.line := by
    have hcomma : ascii "," = [Csv.comma] := rfl
    have hfeed : ascii "\n" = [Csv.lineFeed] := rfl
    rw [List.flatMap_cons, List.flatMap_singleton, Csv.line, Csv.line, csvHeader, toCsvRow, hcomma,
      hfeed]
  rw [hlines]
  apply Csv.read_lines
  exact .cons ⟨List.cons_ne_nil _ _, isField_csvNames⟩ (.cons ⟨List.cons_ne_nil _ _,
    isField_csvColumns p s r now⟩ .nil)

/-! ## Values of the JSON -/

lemma head_decimal {n : ℕ} (h : n ≠ 0) : (decimal n).head? ≠ some 48 := by
  induction n using Nat.strong_induction_on with
  | _ n ih =>
    by_cases hsmall : n < 10
    · have hall : ∀ n < 10, n ≠ 0 → (decimal n).head? ≠ some 48 := by decide
      exact hall n hsmall h
    · have hsplit : decimal n = decimal (n / 10) ++
          [UInt8.ofNat (Nat.digitChar (n % 10)).toNat] := by
        rw [decimal, Nat.toDigits_of_base_le (by decide) (Nat.not_lt.mp hsmall), List.map_append]
        rfl
      obtain ⟨c, rest, hcons, -⟩ := decimal_cons (n / 10)
      have hrest := ih (n / 10) (by omega) (by omega)
      rw [hcons] at hrest
      rw [hsplit, hcons]
      exact hrest

lemma isInteger_decimal (n : ℕ) : IsInteger (decimal n) := by
  by_cases h : n = 0
  · rw [h]
    exact .inl rfl
  · obtain ⟨c, rest, hcons, -⟩ := decimal_cons n
    exact .inr ⟨hcons ▸ List.cons_ne_nil _ _, all_isdigit_decimal n, head_decimal h⟩

lemma isNumber_decimal (n : ℕ) : IsNumber (decimal n) :=
  ⟨[], decimal n, [], [], by simp, .inl rfl, isInteger_decimal n, .inl rfl, .inl rfl⟩

lemma isNumber_toText (n : Int32) : IsNumber (toText n) := by
  unfold toText
  split_ifs
  · exact ⟨[45], decimal n.toInt.natAbs, [], [], by simp [minus], .inr rfl, isInteger_decimal _,
      .inl rfl, .inl rfl⟩
  · exact isNumber_decimal _

lemma isNumber_fixed (x : ℚ) : IsNumber (fixed x) := by
  unfold fixed
  generalize roundHalfEven (|x| * 10000) = n
  have hne : padded 4 (n % 10000) ≠ [] := by
    obtain ⟨c, rest, hcons, -⟩ := decimal_cons (n % 10000)
    rw [padded, hcons]
    exact List.append_ne_nil_of_right_ne_nil _ (List.cons_ne_nil _ _)
  refine ⟨if x < 0 then ascii "-" else [], decimal (n / 10000), 46 :: padded 4 (n % 10000), [], ?_,
    ?_, isInteger_decimal _, .inr ⟨_, hne, all_isdigit_padded 4 _, rfl⟩, .inl rfl⟩
  · rw [List.append_nil, List.append_assoc _ (ascii ".")]
    rfl
  · split_ifs
    · exact .inr rfl
    · exact .inl rfl

lemma eq_of_toNat {c d : Char} (h : c.toNat = d.toNat) : c = d := by
  rw [← Char.ofNat_toNat c, h, Char.ofNat_toNat]

lemma hexValue_control {n : ℕ} (h : n < 32) :
    hexValue [48, 48, hexDigit (n / 16), hexDigit (n % 16)] = some n := by
  have hall : ∀ n < 32, hexValue [48, 48, hexDigit (n / 16), hexDigit (n % 16)] = some n := by
    decide
  exact hall n h

/-- A character is escaped as one of JSON's ways to write it. -/
lemma isItem_jsonEscape (c : Char) : IsItem c (jsonEscape (String.utf8EncodeChar c)) := by
  by_cases hascii : c.toNat < 128
  · have hescape : jsonEscape (String.utf8EncodeChar c) = escapeByte (UInt8.ofNat c.toNat) := by
      rw [encode_ascii hascii]
      exact List.flatMap_singleton ..
    have hbyte : (UInt8.ofNat c.toNat).toNat = c.toNat :=
      UInt8.toNat_ofNat_of_lt' (lt_trans hascii (by decide))
    have hchar {b : UInt8} (d : Char) (hd : b.toNat = d.toNat) (h : UInt8.ofNat c.toNat = b) :
        c = d := eq_of_toNat (by rw [← hd, ← h, hbyte])
    rw [hescape]
    unfold escapeByte
    split_ifs with hquote hbackslash hb hf hn hr ht hcontrol
    · exact hchar '"' rfl hquote ▸ .short (by decide)
    · exact hchar '\\' rfl hbackslash ▸ .short (by decide)
    · exact hchar '\x08' rfl hb ▸ .short (by decide)
    · exact hchar '\x0c' rfl hf ▸ .short (by decide)
    · exact hchar '\n' rfl hn ▸ .short (by decide)
    · exact hchar '\r' rfl hr ▸ .short (by decide)
    · exact hchar '\t' rfl ht ▸ .short (by decide)
    · rw [UInt8.lt_iff_toNat_lt, hbyte] at hcontrol
      rw [hbyte]
      exact .unicode rfl (hexValue_control hcontrol)
    · rw [UInt8.lt_iff_toNat_lt, hbyte, Nat.not_lt] at hcontrol
      rw [← encode_ascii hascii]
      refine .plain hcontrol (fun heq => hquote ?_) fun heq => hbackslash ?_
      · rw [heq]
        rfl
      · rw [heq]
        rfl
  · have hhigh : ∀ b ∈ String.utf8EncodeChar c, escapeByte b = [b] := by
      intro b hb
      have hle := UInt8.le_iff_toNat_le.mp (encode_high (Nat.not_lt.mp hascii) hb)
      have hfar {d : UInt8} (hd : d.toNat < 128) : b ≠ d := fun heq =>
        absurd (heq ▸ hle) (Nat.not_le.mpr hd)
      have hhigh : ¬b < 0x20 := fun hlt =>
        absurd (lt_of_le_of_lt hle (UInt8.lt_iff_toNat_lt.mp hlt)) (by decide)
      unfold escapeByte
      rw [if_neg (hfar (by decide)), if_neg (hfar (by decide)), if_neg (hfar (by decide)),
        if_neg (hfar (by decide)), if_neg (hfar (by decide)), if_neg (hfar (by decide)),
        if_neg (hfar (by decide)), if_neg hhigh]
    have hescape : jsonEscape (String.utf8EncodeChar c) = String.utf8EncodeChar c := by
      rw [jsonEscape, List.flatMap_congr hhigh, List.flatMap_singleton']
    have hfar {d : Char} (hd : d.toNat < 128) : c ≠ d := fun heq => hascii (heq ▸ hd)
    rw [hescape]
    exact .plain (by omega) (hfar (by decide)) (hfar (by decide))

lemma isString_jsonEscape (chars : List Char) :
    IsString chars (quote :: jsonEscape (utf8 chars) ++ [quote]) := by
  refine ⟨chars.map fun c => jsonEscape (String.utf8EncodeChar c), ?_, ?_⟩
  · rw [List.forall₂_map_right_iff, List.forall₂_same]
    exact fun c _ => isItem_jsonEscape c
  · rw [jsonEscape, utf8, List.flatMap_assoc, List.flatMap_def]
    rfl

/-! ## The document -/

def stringValue (chars : List Char) : Printed :=
  ⟨.string chars, quote :: jsonEscape (utf8 chars) ++ [quote], .string (isString_jsonEscape chars)⟩

def intValue (n : Int32) : Printed := ⟨.number (toText n), toText n, .number (isNumber_toText n)⟩

def countValue (n : ℕ) : Printed := ⟨.number (decimal n), decimal n, .number (isNumber_decimal n)⟩

def fixedValue (x : ℚ) : Printed := ⟨.number (fixed x), fixed x, .number (isNumber_fixed x)⟩

def chargingValue (known charging : Bool) : Printed where
  value := if known then .boolean charging else .null
  text := if known then boolJson charging else ascii "null"
  valid := by
    cases known
    · exact .null
    · cases charging
      · exact .false
      · exact .true

/-- The first member of an object. -/
def first (name : String) (v : Printed) (h : plainName name = true := by decide +kernel) :
    PrintedMember := { name := name, printed := v, plain := h }

/-- Another one on the same line. -/
def next (name : String) (v : Printed) (h : plainName name = true := by decide +kernel) :
    PrintedMember :=
  { name := name, printed := v, before := [32], plain := h, blank_before := rfl }

/-- One on a line of its own. -/
def line (name : String) (v : Printed) (h : plainName name = true := by decide +kernel) :
    PrintedMember :=
  { name := name, printed := v, before := [10, 32, 32, 32, 32], plain := h, blank_before := rfl }

/-- The last one, in front of the end of the object. -/
def lastLine (name : String) (v : Printed) (h : plainName name = true := by decide +kernel) :
    PrintedMember :=
  { name := name, printed := v, before := [10, 32, 32, 32, 32], after := [10, 32, 32], plain := h,
    blank_before := rfl, blank_after := rfl }

def distValue (d : DistributionSummary) : Printed :=
  .object [first "mean" (fixedValue d.mean), next "median" (fixedValue d.median),
    next "p95" (fixedValue d.p95), next "p99" (fixedValue d.p99), next "min" (fixedValue d.min),
    next "max" (fixedValue d.max)]

/-- The strings of an export as characters. -/
structure Strings where
  codec : List Char
  platform : List Char
  operationMode : List Char
  captured : List Char
  host : List Char
  app : List Char

def profileValue (texts : Strings) (p : ExportProfile) : Printed :=
  .object [first "width" (intValue p.width), next "height" (intValue p.height),
    next "fps" (intValue p.fps), next "bitrate_kbps" (intValue p.bitrateKbps),
    next "decoder_threads" (intValue p.decoderThreads), next "codec" (stringValue texts.codec)]

def runtimeValue (texts : Strings) (r : SwitchRuntimeMetadata) : Printed :=
  .object [first "platform" (stringValue texts.platform),
    next "operation_mode" (stringValue texts.operationMode),
    next "battery_percent" (intValue r.batteryPercent),
    next "battery_charging_enabled" (chargingValue r.batteryChargingKnown r.batteryCharging),
    next "cpu_clock_hz" (countValue r.cpuClockHz.toNat),
    next "gpu_clock_hz" (countValue r.gpuClockHz.toNat),
    next "memory_clock_hz" (countValue r.memoryClockHz.toNat)]

def summaryValue (s : ExportSummary) : Printed :=
  .object [first "duration_seconds" (fixedValue s.durationSeconds),
    next "rendered_fps_mean" (fixedValue s.renderedFpsMean),
    next "rendered_fps_p99" (fixedValue s.renderedFpsP99),
    next "network_drop_percent" (fixedValue s.networkDropPercent),
    next "receive_ms_p99" (fixedValue s.receiveMsP99),
    next "decode_ms_p99" (fixedValue s.decodeMsP99),
    next "client_processing_ms_p99" (fixedValue s.clientProcessingMsP99),
    next "stability_score" (fixedValue s.stabilityScore)]

def statsValue (texts : Strings) (st : BenchmarkSummary) : Printed :=
  .object [line "captured_at" (stringValue texts.captured), line "host" (stringValue texts.host),
    line "app" (stringValue texts.app), line "sample_count" (countValue st.sampleCount),
    line "duration_seconds" (fixedValue st.durationSeconds),
    line "host_fps" (distValue st.hostFps),
    line "received_fps" (distValue st.receivedFps),
    line "decoded_fps" (distValue st.decodedFps),
    line "rendered_fps" (distValue st.renderedFps),
    line "receive_ms" (distValue st.receiveMs),
    line "decode_ms" (distValue st.decodeMs),
    line "decoder_delay_ms" (distValue st.decoderDelayMs),
    line "render_ms" (distValue st.renderMs),
    line "gpu_render_ms" (distValue st.gpuRenderMs),
    line "client_processing_ms" (distValue st.clientProcessingMs),
    line "queue_depth" (distValue st.queueDepth),
    line "queue_jitter_ms" (distValue st.queueJitterMs),
    line "queue_wait_ms" (distValue st.queueWaitMs),
    line "client_pipeline_ms" (distValue st.clientPipelineMs),
    line "present_interval_ms" (distValue st.presentIntervalMs),
    line "actual_video_mbps" (distValue st.actualVideoMbps),
    line "received_frames" (countValue st.receivedFrames.toNat),
    line "network_dropped_frames" (countValue st.networkDroppedFrames.toNat),
    line "network_drop_percent" (fixedValue st.networkDropPercent),
    line "queue_underflows" (countValue st.queueUnderflows.toNat),
    line "queue_skipped_frames" (countValue st.queueSkippedFrames.toNat),
    line "queue_overflow_drops" (countValue st.queueOverflowDrops.toNat),
    line "queue_pacing_skips" (countValue st.queuePacingSkips.toNat),
    line "queue_resyncs" (countValue st.queueResyncs.toNat),
    line "time_to_first_packet_ms" (fixedValue st.timeToFirstPacketMs),
    line "time_to_first_decode_ms" (fixedValue st.timeToFirstDecodeMs),
    line "time_to_first_present_ms" (fixedValue st.timeToFirstPresentMs),
    lastLine "stability_score" (fixedValue st.stabilityScore)]

/-- What `toJson` writes, up to the last line break. -/
def document (texts : Strings) (p : ExportProfile) (s : ExportSummary)
    (r : SwitchRuntimeMetadata) : Printed :=
  .object [{ name := "profile", printed := profileValue texts p, before := [10, 32, 32] },
    { name := "runtime", printed := runtimeValue texts r, before := [10, 32, 32] },
    { name := "summary", printed := summaryValue s, before := [10, 32, 32] },
    { name := "stats", printed := statsValue texts s.stats, before := [10, 32, 32],
      after := [10] }]

/-! ## The text of the document -/

/-- What stands between names and values. -/
lemma punctuation : ascii "" = [] ∧ ascii ", " = [comma, 32] ∧ ascii "  " = [32, 32] ∧
    ascii "    " = [32, 32, 32, 32] ∧ ascii "\x7b" = [123] ∧ ascii "\x7d" = [125] ∧
    ascii "\"" = [quote] ∧ ascii "\"\x7d" = [quote, 125] ∧ ascii "\n" = [10] ∧
    ascii ",\n" = [comma, 10] ∧ ascii "\",\n" = [quote, comma, 10] ∧ ascii "\x7b\n" = [123, 10] ∧
    ascii "  \x7d" = [32, 32, 125] ∧ ascii "\x7d\n" = [125, 10] := by decide

lemma named_eq (lead name : String) :
    named lead name = ascii lead ++ quote :: (ascii name ++ [quote, colon, 32]) := by
  have hquote : ascii "\"" = [quote] := rfl
  have hcolon : ascii "\": " = [quote, colon, 32] := rfl
  rw [named, hquote, hcolon, List.append_assoc, List.append_assoc]
  rfl

lemma entry_text (m : PrintedMember) :
    m.entry.text = m.before ++ quote :: (ascii m.name ++ quote :: colon :: 32 ::
      (m.printed.text ++ m.after)) := by
  have hname : nameBytes m.name = ascii m.name := rfl
  simp [Entry.text, Entry.front, Entry.back, PrintedMember.entry, hname]

lemma text_object (m : PrintedMember) (members : List PrintedMember) :
    (Printed.object (m :: members)).text =
      123 :: (m.entry.text ++ (members.flatMap fun m => comma :: m.entry.text) ++ [125]) := by
  have hjoin (text : Bytes) (texts : List Bytes) :
      [comma].intercalate (text :: texts) = text ++ texts.flatMap (comma :: ·) := by
    induction texts generalizing text with
    | nil => simp
    | cons text' texts ih =>
      rw [List.intercalate_cons_cons, ih, List.flatMap_cons, List.append_assoc]
      rfl
  change 123 :: [comma].intercalate ((m :: members).map fun m => m.entry.text) ++ [125] = _
  rw [List.map_cons, hjoin, List.flatMap_map]
  rfl

variable (texts : Strings)

lemma line_text (name : String) (v : Printed) (h : plainName name = true) :
    (line name v h).entry.text = 10 :: (named "    " name ++ v.text) := by
  simp only [entry_text, named_eq, line, punctuation, List.append_assoc, List.cons_append,
    List.nil_append, List.append_nil]

lemma lastLine_text (name : String) (v : Printed) (h : plainName name = true) :
    (lastLine name v h).entry.text = 10 :: (named "    " name ++ (v.text ++ [10, 32, 32])) := by
  simp only [entry_text, named_eq, lastLine, punctuation, List.append_assoc, List.cons_append,
    List.nil_append]

lemma writeDistJson_eq (key : String) (d : DistributionSummary) :
    writeDistJson key d = named "    " key ++ (distValue d).text := by
  unfold writeDistJson distValue
  simp only [text_object, entry_text, named_eq, first, next, fixedValue,
    punctuation, List.flatMap_cons, List.flatMap_nil, List.append_assoc, List.cons_append,
    List.nil_append, List.append_nil]

lemma profileJson_eq (hcodec : p.codec = utf8 texts.codec) :
    profileJson p = named "  " "profile" ++ (profileValue texts p).text := by
  unfold profileJson profileValue
  simp only [text_object, entry_text, named_eq, first, next, intValue,
    stringValue, hcodec, punctuation, List.flatMap_cons, List.flatMap_nil, List.append_assoc,
    List.cons_append, List.nil_append, List.append_nil]

lemma runtimeJson_eq (hplatform : r.platform = utf8 texts.platform)
    (hmode : r.operationMode = utf8 texts.operationMode) :
    runtimeJson r = named "  " "runtime" ++ (runtimeValue texts r).text := by
  unfold runtimeJson runtimeValue
  simp only [text_object, entry_text, named_eq, first, next, intValue,
    countValue, stringValue, chargingValue, hplatform, hmode, punctuation, List.flatMap_cons,
    List.flatMap_nil, List.append_assoc, List.cons_append, List.nil_append, List.append_nil]

lemma summaryJson_eq : summaryJson s = named "  " "summary" ++ (summaryValue s).text := by
  unfold summaryJson summaryValue
  simp only [text_object, entry_text, named_eq, first, next, fixedValue,
    punctuation, List.flatMap_cons, List.flatMap_nil, List.append_assoc, List.cons_append,
    List.nil_append, List.append_nil]

lemma statsJson_eq (hhost : s.hostName = utf8 texts.host) (happ : s.appName = utf8 texts.app) :
    statsJson (utf8 texts.captured) s =
      named "  " "stats" ++ (statsValue texts s.stats).text := by
  unfold statsJson statsValue
  simp only [text_object, line_text, lastLine_text, writeDistJson_eq, fixedValue, countValue,
    stringValue, hhost, happ, punctuation, List.flatMap_cons, List.flatMap_nil, List.append_assoc,
    List.cons_append, List.nil_append]

/-- The characters of the strings, where they are valid UTF-8. -/
structure Strings.Of (texts : Strings) (p : ExportProfile) (s : ExportSummary)
    (r : SwitchRuntimeMetadata) (now : Tm) : Prop where
  codec : p.codec = utf8 texts.codec
  platform : r.platform = utf8 texts.platform
  operationMode : r.operationMode = utf8 texts.operationMode
  captured : s.captured now = utf8 texts.captured
  host : s.hostName = utf8 texts.host
  app : s.appName = utf8 texts.app

lemma toJson_eq (h : texts.Of p s r now) :
    toJson p s r now = (document texts p s r).text ++ [10] := by
  have hstats : statsJson (s.captured now) s = named "  " "stats" ++
      (statsValue texts s.stats).text := by
    rw [h.captured]
    exact statsJson_eq s texts h.host h.app
  unfold toJson document
  rw [profileJson_eq p texts h.codec, runtimeJson_eq r texts h.platform h.operationMode,
    summaryJson_eq, hstats]
  simp only [text_object, entry_text, named_eq, punctuation, List.flatMap_cons, List.flatMap_nil,
    List.append_assoc, List.cons_append, List.nil_append, List.append_nil]

/-! ## What is decoded -/

lemma isUtf8_isoUtcNow : IsUtf8 (isoUtcNow now) := by
  have hdigits (width n : ℕ) : ∀ b ∈ padded width n, b < 128 := by
    intro b hb
    have hdigit := List.all_eq_true.mp (all_isdigit_padded width n) b hb
    simp only [isdigit, Bool.and_eq_true, decide_eq_true_eq, UInt8.le_iff_toNat_le] at hdigit
    exact UInt8.lt_iff_toNat_lt.mpr (Nat.lt_of_le_of_lt hdigit.2 (by decide))
  have hmarks : (∀ b ∈ ascii "-", b < 128) ∧ (∀ b ∈ ascii "T", b < 128) ∧
      (∀ b ∈ ascii ":", b < 128) ∧ ∀ b ∈ ascii "Z", b < 128 := by decide +kernel
  apply isUtf8_of_ascii
  unfold isoUtcNow
  obtain ⟨hdash, ht, hcolon, hz⟩ := hmarks
  simp only [List.forall_mem_append]
  exact ⟨⟨⟨⟨⟨⟨⟨⟨⟨⟨⟨hdigits _ _, hdash⟩, hdigits _ _⟩, hdash⟩, hdigits _ _⟩, ht⟩, hdigits _ _⟩,
    hcolon⟩, hdigits _ _⟩, hcolon⟩, hdigits _ _⟩, hz⟩

lemma isUtf8_captured (h : IsUtf8 s.capturedAtIso) : IsUtf8 (s.captured now) := by
  unfold ExportSummary.captured
  split_ifs
  · exact isUtf8_isoUtcNow now
  · exact h

/-- The string of a member of a member of the document. -/
def textAt (group name : String) (value : Value) : Option Bytes :=
  ((value.member group).bind (Value.member name)).bind Value.bytes

lemma textAt_group {group name : String} {value v : Value} (hgroup : value.member group = some v) :
    textAt group name value = (v.member name).bind Value.bytes := by
  rw [textAt, hgroup]
  rfl

lemma textAt_document :
    textAt "profile" "codec" (document texts p s r).value = some (utf8 texts.codec) ∧
      textAt "runtime" "platform" (document texts p s r).value = some (utf8 texts.platform) ∧
      textAt "runtime" "operation_mode" (document texts p s r).value =
        some (utf8 texts.operationMode) ∧
      textAt "stats" "captured_at" (document texts p s r).value = some (utf8 texts.captured) ∧
      textAt "stats" "host" (document texts p s r).value = some (utf8 texts.host) ∧
      textAt "stats" "app" (document texts p s r).value = some (utf8 texts.app) := by
  have hprofile : (document texts p s r).value.member "profile" =
      some (profileValue texts p).value := member_object 0 rfl rfl rfl List.not_mem_nil
  have hruntime : (document texts p s r).value.member "runtime" =
      some (runtimeValue texts r).value := member_object 1 rfl rfl rfl (by simp)
  have hstats : (document texts p s r).value.member "stats" =
      some (statsValue texts s.stats).value := member_object 3 rfl rfl rfl (by simp)
  have hcodec : (profileValue texts p).value.member "codec" = some (.string texts.codec) :=
    member_object 5 rfl rfl rfl (by simp [first, next])
  have hplatform : (runtimeValue texts r).value.member "platform" =
      some (.string texts.platform) := member_object 0 rfl rfl rfl List.not_mem_nil
  have hmode : (runtimeValue texts r).value.member "operation_mode" =
      some (.string texts.operationMode) := member_object 1 rfl rfl rfl (by simp [first, next])
  have hcaptured : (statsValue texts s.stats).value.member "captured_at" =
      some (.string texts.captured) := member_object 0 rfl rfl rfl List.not_mem_nil
  have hhost : (statsValue texts s.stats).value.member "host" = some (.string texts.host) :=
    member_object 1 rfl rfl rfl (by simp [line])
  have happ : (statsValue texts s.stats).value.member "app" = some (.string texts.app) :=
    member_object 2 rfl rfl rfl (by simp [line])
  rw [textAt_group hprofile, textAt_group hruntime, textAt_group hruntime, textAt_group hstats,
    textAt_group hstats, textAt_group hstats, hcodec, hplatform, hmode, hcaptured, hhost, happ]
  exact ⟨rfl, rfl, rfl, rfl, rfl, rfl⟩

/-- What is written is read as it was, but for an empty time of the capture, in whose place stands
the time of the export. -/
theorem export_decodes :
    (∃ header row, Csv.read (csvHeader ++ toCsvRow p s r now) = some [header, row] ∧
      header.length = row.length ∧
      ∀ column ∈ [("codec", p.codec), ("platform", r.platform),
          ("operation_mode", r.operationMode), ("captured_at", s.captured now),
          ("host", s.hostName), ("app", s.appName)],
        (header.zip row).lookup (ascii column.1) = some column.2) ∧
    (IsUtf8 p.codec → IsUtf8 r.platform → IsUtf8 r.operationMode → IsUtf8 s.capturedAtIso →
      IsUtf8 s.hostName → IsUtf8 s.appName →
      ∃ value, IsText value (toJson p s r now) ∧
        textAt "profile" "codec" value = some p.codec ∧
        textAt "runtime" "platform" value = some r.platform ∧
        textAt "runtime" "operation_mode" value = some r.operationMode ∧
        textAt "stats" "captured_at" value = some (s.captured now) ∧
        textAt "stats" "host" value = some s.hostName ∧
        textAt "stats" "app" value = some s.appName) := by
  constructor
  · refine ⟨csvNames, csvColumns id p s r now, read_csv p s r now, length_csvNames p s r now, ?_⟩
    simp only [List.forall_mem_cons, List.not_mem_nil, false_implies, implies_true, and_true]
    refine ⟨?_, ?_, ?_, ?_, ?_, ?_⟩
    · exact Csv.lookup_zip 5 rfl rfl (by decide +kernel)
    · exact Csv.lookup_zip 14 rfl rfl (by decide +kernel)
    · exact Csv.lookup_zip 15 rfl rfl (by decide +kernel)
    · exact Csv.lookup_zip 21 rfl rfl (by decide +kernel)
    · exact Csv.lookup_zip 22 rfl rfl (by decide +kernel)
    · exact Csv.lookup_zip 23 rfl rfl (by decide +kernel)
  · rintro ⟨codec, hcodec⟩ ⟨platform, hplatform⟩ ⟨mode, hmode⟩ hcaptured ⟨host, hhost⟩ ⟨app, happ⟩
    obtain ⟨captured, hcaptured⟩ := isUtf8_captured s now hcaptured
    have htext := toJson_eq p s r now ⟨codec, platform, mode, captured, host, app⟩
      ⟨hcodec, hplatform, hmode, hcaptured, hhost, happ⟩
    refine ⟨_, ⟨[], _, [10], rfl, (document _ p s r).valid, rfl, htext⟩, ?_⟩
    rw [hcodec, hplatform, hmode, hcaptured, hhost, happ]
    exact textAt_document p s r _

/-- A host name with quotes, and an application with a letter beyond ASCII. -/
def quotedNames : ExportSummary :=
  { hostName := ascii "PC \"7\"", appName := [0xc3, 0x9c] }

theorem export_decodes_quoted :
    ∃ value, IsText value (toJson {} quotedNames {} ⟨2026, 1, 2, 3, 4, 5⟩) ∧
      textAt "stats" "host" value = some (ascii "PC \"7\"") ∧
      textAt "stats" "app" value = some [0xc3, 0x9c] := by
  obtain ⟨value, htext, -, -, -, -, hhost, happ⟩ :=
    (export_decodes {} quotedNames {} ⟨2026, 1, 2, 3, 4, 5⟩).2 (isUtf8_of_ascii (by decide +kernel))
      (isUtf8_of_ascii (by decide +kernel)) (isUtf8_of_ascii (by decide +kernel))
      (isUtf8_of_ascii (by decide +kernel)) (isUtf8_of_ascii (by decide +kernel))
      ⟨[Char.ofNat 0xdc], by decide +kernel⟩
  exact ⟨value, htext, hhost, happ⟩

/-- The empty time of the capture is not what is read. -/
theorem empty_time_is_replaced :
    ∃ header row, Csv.read (csvHeader ++ toCsvRow {} {} {} ⟨2026, 1, 2, 3, 4, 5⟩) =
        some [header, row] ∧
      ({} : ExportSummary).capturedAtIso = [] ∧
      (header.zip row).lookup (ascii "captured_at") = some (ascii "2026-01-02T03:04:05Z") := by
  have htime : isoUtcNow ⟨2026, 1, 2, 3, 4, 5⟩ = ascii "2026-01-02T03:04:05Z" := by decide +kernel
  refine ⟨csvNames, _, read_csv {} {} {} _, rfl, ?_⟩
  rw [← htime]
  exact Csv.lookup_zip 21 rfl rfl (by decide +kernel)

end ArtemisSwitch.Benchmark

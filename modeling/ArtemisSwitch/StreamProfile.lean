import ArtemisSwitch.Jansson
import Mathlib.Algebra.Order.Ring.Rat

/-!
# Stream profiles

`StreamConfigProfile` of the Switch build, its normalisation, and the JSON that it is stored as.
A `float` is the rational that it stands for.
-/

namespace ArtemisSwitch.StreamProfile
open Jansson

/-! ## The profile -/

inductive StreamAspectRatio | ratio16x9 | ratio4x3
  deriving DecidableEq

inductive VideoCodec | h264 | h265 | av1
  deriving DecidableEq

inductive ScaleMode | fit | fill | stretch
  deriving DecidableEq

inductive PointerMode
  | multiTouch | absolute | absoluteSwapped | trackpadNatural | trackpadGaming | disabled
  deriving DecidableEq

-- these enumerations have `int` under them, and the reader casts any number to them
abbrev UpscalingMode := Int32
abbrev StreamAudioConfiguration := Int32
abbrev KeyboardType := Int32
abbrev AudioBackend := Int32

def UPSCALING_OFF : UpscalingMode := 0
def STREAM_AUDIO_STEREO : StreamAudioConfiguration := 0
def COMPACT : KeyboardType := 0
def SDL : AudioBackend := 0
def AUDREN : AudioBackend := 1

structure StreamConfigProfile where
  id : Bytes := []
  name : Bytes := []
  resolutionHeight : Int32 := 720
  aspectRatio : StreamAspectRatio := .ratio16x9
  fps : Int32 := 60
  clientRefreshRateX100 : Int32 := 0
  bitrateKbps : Int32 := 10000
  videoCodec : VideoCodec := .h264
  requestHdr : Bool := false
  decoderThreads : Int32 := 4
  nativeResolutionScale : Int32 := 100
  useHwDecoding : Bool := true
  forceFullRangeVideo : Bool := false
  preventPacketLoss : Bool := false
  lowLatencyPacing : Bool := false
  framesQueueSize : Int32 := 3
  packetSize : Int32 := 0
  customResolutionEnabled : Bool := false
  customWidth : Int32 := 1920
  customHeight : Int32 := 1080
  scaleMode : ScaleMode := .fill
  rememberZoomPan : Bool := false
  upscalingMode : UpscalingMode := UPSCALING_OFF
  dithering : Bool := false
  ditheringStrength : ℚ := 3
  rcas : Bool := true
  -- 0.2f
  rcasStrength : ℚ := 13421773 / 67108864
  fsrPreset : Int32 := 0
  forwardMotion : Bool := true
  consoleMotionFallback : Bool := false
  hidden : Bool := false
  streamAudioConfiguration : StreamAudioConfiguration := STREAM_AUDIO_STEREO
  playAudioOnPc : Bool := false
  audioBackend : AudioBackend := AUDREN
  volumeAmplification : Bool := false
  volume : Int32 := 100
  sops : Bool := false
  terminateAppOnDisconnect : Bool := false
  keyboardType : KeyboardType := COMPACT
  keyboardLocale : Int32 := 0
  keyboardFingers : Int32 := 3
  touchscreenMouseMode : Bool := false
  pointerMode : PointerMode := .trackpadNatural
  swapMouseKeys : Bool := false
  swapMouseScroll : Bool := false
  swapMouseSticks : Bool := false
  mouseSpeedMultiplier : Int32 := 47
  swapUiAb : Bool := false
  swapUiXy : Bool := false
  deadzoneLeft : ℚ := 0
  deadzoneRight : ℚ := 0
  rumbleForce : ℚ := 1
  swapStickToDpad : Bool := false
  mappingLayoutTitle : Bytes := []

/-! ## Normalisation -/

/-- `std::clamp`. -/
def clamp {α : Type} [LT α] [DecidableLT α] (x low high : α) : α :=
  if x < low then low else if high < x then high else x

lemma clamp_clamp {α : Type} [LT α] [DecidableLT α] [Std.Irrefl (LT.lt : α → α → Prop)]
    {low high : α} (h : ¬high < low) (x : α) :
    clamp (clamp x low high) low high = clamp x low high := by
  have hlow : ¬low < low := irrefl low
  have hhigh : ¬high < high := irrefl high
  by_cases h₁ : x < low
  · simp [clamp, h₁, hlow, h]
  · by_cases h₂ : high < x <;> simp [clamp, h₁, h₂, hhigh, h]

/-- What is in the range stays, and nothing else does. -/
lemma clamp_eq_self {α : Type} [LT α] [DecidableLT α] [Std.Irrefl (LT.lt : α → α → Prop)]
    {low high x : α} : clamp x low high = x ↔ ¬x < low ∧ ¬high < x := by
  have hlow : low = x → ¬x < low := by
    rintro rfl
    exact irrefl _
  have hhigh : high = x → ¬high < x := by
    rintro rfl
    exact irrefl _
  unfold clamp
  split_ifs with h₁ h₂
  · exact iff_of_false (fun h => hlow h h₁) fun h => h.1 h₁
  · exact iff_of_false (fun h => hhigh h h₂) fun h => h.2 h₂
  · exact iff_of_true rfl ⟨h₁, h₂⟩

def allowedHeights : List Int32 := [360, 480, 540, 720, 1080, 1440]

/-- The better one of the best value so far, with its distance, and the next. -/
def nearer (height : Int32) (best : Int32 × Int32) (value : Int32) : Int32 × Int32 :=
  let distance := (height - value).abs
  if distance < best.2 then (value, distance) else best

def normalizeProfileHeight (height : Int32) : Int32 :=
  if height = -1 then -1
  else (allowedHeights.foldl (nearer height) (720, (height - 720).abs)).1

def normalizeNativeResolutionScale (scale : Int32) : Int32 :=
  if scale = 50 ∨ scale = 75 ∨ scale = 100 ∨ scale = 200 then scale else 100

def normalizeCustomDimension (value fallback : Int32) : Int32 :=
  if value < 160 then fallback else if 7680 < value then 7680 else value

def normalizeVolume (volume : Int32) : Int32 := clamp volume 0 100

def normalizeFsrPreset (value : Int32) : Int32 :=
  if value = 1 ∨ value = 2 ∨ value = 3 then value else 0

def normalizeAspectRatio : StreamAspectRatio → StreamAspectRatio
  | .ratio4x3 => .ratio4x3
  | _ => .ratio16x9

def kPacketSizeAuto : Int32 := 0
def kPacketSizeMin : Int32 := 200
def kPacketSizeMax : Int32 := 65535

def clampPacketSize (packetSize : Int32) : Int32 :=
  if packetSize ≤ kPacketSizeAuto then kPacketSizeAuto
  else clamp packetSize kPacketSizeMin kPacketSizeMax

def legacyTouchscreenFromPointerMode (mode : PointerMode) : Bool := mode = .multiTouch

def normalizeProfile (profile : StreamConfigProfile) : StreamConfigProfile :=
  { profile with
    resolutionHeight := normalizeProfileHeight profile.resolutionHeight
    aspectRatio := normalizeAspectRatio profile.aspectRatio
    fps := if profile.fps ≤ 0 then 60 else profile.fps
    clientRefreshRateX100 :=
      if profile.clientRefreshRateX100 < 0 then 0 else profile.clientRefreshRateX100
    bitrateKbps := if profile.bitrateKbps ≤ 0 then 10000 else profile.bitrateKbps
    decoderThreads := if profile.decoderThreads < 0 then 4 else profile.decoderThreads
    name := if profile.name = [] then ascii "Profile" else profile.name
    nativeResolutionScale := normalizeNativeResolutionScale profile.nativeResolutionScale
    customWidth := normalizeCustomDimension profile.customWidth 1920
    customHeight := normalizeCustomDimension profile.customHeight 1080
    ditheringStrength := clamp profile.ditheringStrength 1 10
    rcasStrength := clamp profile.rcasStrength 0 1
    fsrPreset := normalizeFsrPreset profile.fsrPreset
    deadzoneLeft := clamp profile.deadzoneLeft 0 1
    deadzoneRight := clamp profile.deadzoneRight 0 1
    rumbleForce := clamp profile.rumbleForce 0 1
    mouseSpeedMultiplier := clamp profile.mouseSpeedMultiplier 0 100
    packetSize := clampPacketSize profile.packetSize
    keyboardFingers := clamp profile.keyboardFingers 0 10
    keyboardLocale := if profile.keyboardLocale < 0 then 0 else profile.keyboardLocale
    touchscreenMouseMode := legacyTouchscreenFromPointerMode profile.pointerMode }

lemma nearest_mem (height : Int32) (values : List Int32) (best : Int32 × Int32) :
    (values.foldl (nearer height) best).1 ∈ best.1 :: values := by
  induction values generalizing best with
  | nil => simp
  | cons value values ih =>
    have hnext : (nearer height best value).1 = value ∨ (nearer height best value).1 = best.1 := by
      dsimp only [nearer]
      split_ifs
      · exact .inl rfl
      · exact .inr rfl
    have hmem := ih (nearer height best value)
    rw [List.foldl_cons]
    cases hnext with
    | inl hvalue =>
      rw [hvalue] at hmem
      exact List.mem_cons_of_mem _ hmem
    | inr hbest =>
      rw [hbest] at hmem
      exact List.mem_cons.mpr ((List.mem_cons.mp hmem).imp id (List.mem_cons_of_mem _))

lemma normalizeProfileHeight_mem (height : Int32) :
    normalizeProfileHeight height ∈ -1 :: allowedHeights := by
  unfold normalizeProfileHeight
  split_ifs with hnative
  · exact List.mem_cons_self
  · have hmem := nearest_mem height allowedHeights (720, (height - 720).abs)
    have hnormal : (720 : Int32) ∈ allowedHeights := by decide
    refine List.mem_cons_of_mem _ ?_
    rcases List.mem_cons.mp hmem with heq | hallowed
    · rwa [heq]
    · exact hallowed

lemma normalizeProfileHeight_of_mem :
    ∀ height ∈ -1 :: allowedHeights, normalizeProfileHeight height = height := by
  have hall : ((-1 :: allowedHeights).all
      fun height => normalizeProfileHeight height == height) = true := by decide
  intro height hmem
  simpa using List.all_eq_true.mp hall height hmem

lemma normalizeCustomDimension_twice (value fallback : Int32) (h₁ : ¬fallback < 160)
    (h₂ : ¬7680 < fallback) :
    normalizeCustomDimension (normalizeCustomDimension value fallback) fallback =
      normalizeCustomDimension value fallback := by
  by_cases hsmall : value < 160
  · simp [normalizeCustomDimension, hsmall, h₁, h₂]
  · by_cases hlarge : 7680 < value <;> simp [normalizeCustomDimension, hsmall, hlarge]

lemma clampPacketSize_twice (packetSize : Int32) :
    clampPacketSize (clampPacketSize packetSize) = clampPacketSize packetSize := by
  by_cases hauto : packetSize ≤ kPacketSizeAuto
  · simp [clampPacketSize, hauto]
  · have hclamped : ¬clamp packetSize kPacketSizeMin kPacketSizeMax ≤ kPacketSizeAuto := by
      unfold clamp
      split_ifs
      · decide
      · decide
      · exact hauto
    simp only [clampPacketSize, hauto, if_false, hclamped]
    exact clamp_clamp (by decide) packetSize

lemma normalizeAspectRatio_eq (aspect : StreamAspectRatio) :
    normalizeAspectRatio aspect = aspect := by
  cases aspect <;> rfl

lemma ite_twice {α : Type} {p : α → Prop} [DecidablePred p] {d : α} (hd : ¬p d) (x : α) :
    (if p (if p x then d else x) then d else if p x then d else x) = if p x then d else x := by
  by_cases hx : p x <;> simp [hx, hd]

/-- Normalising again changes nothing. -/
theorem normalizeProfile_twice (p : StreamConfigProfile) :
    normalizeProfile (normalizeProfile p) = normalizeProfile p := by
  have hname : ascii "Profile" ≠ [] := by decide +kernel
  have hscale : ∀ scale, normalizeNativeResolutionScale (normalizeNativeResolutionScale scale) =
      normalizeNativeResolutionScale scale := by
    intro scale
    unfold normalizeNativeResolutionScale
    split_ifs <;> simp_all
  have hpreset : ∀ value, normalizeFsrPreset (normalizeFsrPreset value) =
      normalizeFsrPreset value := by
    intro value
    unfold normalizeFsrPreset
    split_ifs <;> simp_all
  have hheight := normalizeProfileHeight_of_mem _ (normalizeProfileHeight_mem p.resolutionHeight)
  have hstrength : ∀ x : ℚ, clamp (clamp x 1 10) 1 10 = clamp x 1 10 :=
    clamp_clamp (by decide)
  have hunit : ∀ x : ℚ, clamp (clamp x 0 1) 0 1 = clamp x 0 1 := clamp_clamp (by decide)
  have hspeed : ∀ x : Int32, clamp (clamp x 0 100) 0 100 = clamp x 0 100 :=
    clamp_clamp (by decide)
  have hfingers : ∀ x : Int32, clamp (clamp x 0 10) 0 10 = clamp x 0 10 :=
    clamp_clamp (by decide)
  have hwidth := normalizeCustomDimension_twice p.customWidth 1920 (by decide) (by decide)
  have hcheight := normalizeCustomDimension_twice p.customHeight 1080 (by decide) (by decide)
  simp only [normalizeProfile, hheight, normalizeAspectRatio_eq, hscale, hpreset, hstrength,
    hunit, hspeed, hfingers, hwidth, hcheight, clampPacketSize_twice, StreamConfigProfile.mk.injEq,
    and_true, true_and]
  refine ⟨?_, ?_, ?_, ?_, ?_, ?_⟩
  · exact ite_twice (p := (· = [])) hname p.name
  · exact ite_twice (p := (· ≤ 0)) (by decide) p.fps
  · exact ite_twice (p := (· < 0)) (by decide) p.clientRefreshRateX100
  · exact ite_twice (p := (· ≤ 0)) (by decide) p.bitrateKbps
  · exact ite_twice (p := (· < 0)) (by decide) p.decoderThreads
  · exact ite_twice (p := (· < 0)) (by decide) p.keyboardLocale

/-! ## JSON -/

def aspectRatioToString (aspect : StreamAspectRatio) : Bytes :=
  match normalizeAspectRatio aspect with
  | .ratio4x3 => ascii "4:3"
  | .ratio16x9 => ascii "16:9"

def aspectRatioFromString (value : Bytes) : StreamAspectRatio :=
  if value = ascii "4:3" ∨ value = ascii "4x3" then .ratio4x3 else .ratio16x9

def aspectRatioFromInt (value : Int32) : StreamAspectRatio :=
  if value = 1 then .ratio4x3 else .ratio16x9

def codecToString : VideoCodec → Bytes
  | .h264 => ascii "H264"
  | .av1 => ascii "AV1"
  | .h265 => ascii "H265"

def codecFromString (value : Bytes) : VideoCodec :=
  if value = ascii "H264" ∨ value = ascii "h264" then .h264
  else if value = ascii "AV1" ∨ value = ascii "av1" then .av1
  else .h265

def scaleModeToString : ScaleMode → Bytes
  | .fit => ascii "fit"
  | .stretch => ascii "stretch"
  | .fill => ascii "fill"

def scaleModeFromString (value : Bytes) : ScaleMode :=
  if value = ascii "fit" then .fit else if value = ascii "stretch" then .stretch else .fill

def audioBackendToString (backend : AudioBackend) : Bytes :=
  if backend = AUDREN then ascii "audren" else ascii "sdl"

def audioBackendFromString (value : Bytes) : AudioBackend :=
  if value = ascii "audren" then AUDREN else SDL

def pointerModeName : PointerMode → Bytes
  | .multiTouch => ascii "multitouch"
  | .absolute => ascii "absolute"
  | .absoluteSwapped => ascii "absolute-swapped"
  | .trackpadNatural => ascii "natural-trackpad"
  | .trackpadGaming => ascii "gaming-trackpad"
  | .disabled => ascii "disabled"

def pointerModeFromName (name : Bytes) : Option PointerMode :=
  [.multiTouch, .absolute, .absoluteSwapped, .trackpadNatural, .trackpadGaming, .disabled].find?
    fun candidate => name = pointerModeName candidate

def pointerModeFromLegacyTouchscreen (touchscreenMouseMode : Bool) : PointerMode :=
  if touchscreenMouseMode then .multiTouch else .trackpadNatural

/-- The members of a stored profile, in the groups of the source. -/
def identityFields (p : StreamConfigProfile) : List (Bytes × Option Value) :=
  [(ascii "id", jsonString p.id), (ascii "name", jsonString p.name)]

def videoFields (p : StreamConfigProfile) : List (Bytes × Option Value) :=
  [(ascii "resolution_height", jsonInteger p.resolutionHeight),
    (ascii "aspect_ratio", jsonString (aspectRatioToString p.aspectRatio)),
    (ascii "fps", jsonInteger p.fps),
    (ascii "client_refresh_rate_x100", jsonInteger p.clientRefreshRateX100),
    (ascii "bitrate_kbps", jsonInteger p.bitrateKbps),
    (ascii "video_codec", jsonString (codecToString p.videoCodec)),
    (ascii "request_hdr", jsonBoolean p.requestHdr),
    (ascii "decoder_threads", jsonInteger p.decoderThreads),
    (ascii "native_resolution_scale", jsonInteger p.nativeResolutionScale),
    (ascii "use_hw_decoding", jsonBoolean p.useHwDecoding),
    (ascii "force_full_range_video", jsonBoolean p.forceFullRangeVideo),
    (ascii "prevent_packet_loss", jsonBoolean p.preventPacketLoss),
    (ascii "low_latency_pacing", jsonBoolean p.lowLatencyPacing),
    (ascii "frames_queue_size", jsonInteger p.framesQueueSize),
    (ascii "packet_size", jsonInteger (clampPacketSize p.packetSize)),
    (ascii "custom_resolution_enabled", jsonBoolean p.customResolutionEnabled),
    (ascii "custom_width", jsonInteger p.customWidth),
    (ascii "custom_height", jsonInteger p.customHeight)]

def presentationFields (p : StreamConfigProfile) : List (Bytes × Option Value) :=
  [(ascii "scale_mode", jsonString (scaleModeToString p.scaleMode)),
    (ascii "remember_zoom_pan", jsonBoolean p.rememberZoomPan),
    (ascii "forward_motion", jsonBoolean p.forwardMotion),
    (ascii "console_motion_fallback", jsonBoolean p.consoleMotionFallback),
    (ascii "upscaling_mode", jsonInteger p.upscalingMode),
    (ascii "dithering", jsonBoolean p.dithering),
    (ascii "dithering_strength", jsonReal p.ditheringStrength),
    (ascii "rcas", jsonBoolean p.rcas),
    (ascii "rcas_strength", jsonReal p.rcasStrength),
    (ascii "fsr_preset", jsonInteger p.fsrPreset)]

def audioFields (p : StreamConfigProfile) : List (Bytes × Option Value) :=
  [(ascii "stream_audio_configuration", jsonInteger p.streamAudioConfiguration),
    (ascii "play_audio_on_pc", jsonBoolean p.playAudioOnPc),
    (ascii "sops", jsonBoolean p.sops),
    (ascii "terminate_app_on_disconnect", jsonBoolean p.terminateAppOnDisconnect),
    (ascii "audio_backend", jsonString (audioBackendToString p.audioBackend)),
    (ascii "volume_amplification", jsonBoolean p.volumeAmplification),
    (ascii "volume", jsonInteger p.volume),
    (ascii "hidden", jsonBoolean p.hidden)]

def keyboardFields (p : StreamConfigProfile) : List (Bytes × Option Value) :=
  [(ascii "keyboard_type", jsonInteger p.keyboardType),
    (ascii "keyboard_locale", jsonInteger p.keyboardLocale),
    (ascii "keyboard_fingers", jsonInteger p.keyboardFingers)]

def pointerFields (p : StreamConfigProfile) : List (Bytes × Option Value) :=
  [(ascii "touchscreen_mouse_mode", jsonBoolean p.touchscreenMouseMode),
    (ascii "pointer_mode", jsonString (pointerModeName p.pointerMode)),
    (ascii "swap_mouse_keys", jsonBoolean p.swapMouseKeys),
    (ascii "swap_mouse_scroll", jsonBoolean p.swapMouseScroll),
    (ascii "swap_mouse_sticks", jsonBoolean p.swapMouseSticks),
    (ascii "mouse_speed_multiplier", jsonInteger p.mouseSpeedMultiplier)]

def controllerFields (p : StreamConfigProfile) : List (Bytes × Option Value) :=
  [(ascii "swap_ui_ab", jsonBoolean p.swapUiAb),
    (ascii "swap_ui_xy", jsonBoolean p.swapUiXy),
    (ascii "swap_ui_keys", jsonBoolean (p.swapUiAb || p.swapUiXy)),
    (ascii "deadzone_left", jsonReal p.deadzoneLeft),
    (ascii "deadzone_right", jsonReal p.deadzoneRight),
    (ascii "rumble_force", jsonReal p.rumbleForce),
    (ascii "swap_stick_to_dpad", jsonBoolean p.swapStickToDpad),
    (ascii "mapping_layout_title", jsonString p.mappingLayoutTitle)]

def profileFields (p : StreamConfigProfile) : List (Bytes × Option Value) :=
  identityFields p ++ videoFields p ++ presentationFields p ++ audioFields p ++
    keyboardFields p ++ pointerFields p ++ controllerFields p

def profileToJson (profile : StreamConfigProfile) : Value := makeObject (profileFields profile)

/-! A member that is missing or of another type leaves the field as it is. -/

def readText (object : Value) (key : String) (kept : Bytes) : Bytes :=
  (object.read Value.text key).getD kept

def readInt (object : Value) (key : String) (kept : Int32) : Int32 :=
  (object.read Value.int key).getD kept

def jsonToBool : Value → Bool
  | .boolean value => value
  | _ => false

/-- A member of another type is `false`. -/
def readBool (object : Value) (key : String) (kept : Bool) : Bool :=
  ((object.get (ascii key)).map jsonToBool).getD kept

def jsonToFloat (value : Option Value) (defaultValue : ℚ) : ℚ :=
  match value with
  | some (.real x) => x
  | some (.integer n) => n.toInt
  | _ => defaultValue

def readFloat (object : Value) (key : String) (kept : ℚ) : ℚ :=
  jsonToFloat (object.get (ascii key)) kept

/-- A name that `parse` turns into a value of an enumeration. -/
def readName {α : Type} (parse : Bytes → α) (object : Value) (key : String) (kept : α) : α :=
  ((object.read Value.text key).map parse).getD kept

/-- The name, or the number of an earlier schema. -/
def readNameOrInt {α : Type} (parse : Bytes → α) (cast : Int32 → α) (object : Value) (key : String)
    (kept : α) : α :=
  match object.get (ascii key) with
  | some (.string name) => parse name
  | some (.integer n) => cast n.toInt32
  | _ => kept

def clampQueueSize (size : Int32) : Int32 :=
  let size := if size < 1 then 1 else size
  if 5 < size then 5 else size

def readIdentity (object : Value) (profile : StreamConfigProfile) : StreamConfigProfile :=
  { profile with
    id := readText object "id" profile.id
    name := readText object "name" profile.name }

def readVideo (object : Value) (profile : StreamConfigProfile) : StreamConfigProfile :=
  { profile with
    resolutionHeight := readInt object "resolution_height" profile.resolutionHeight
    aspectRatio := readNameOrInt aspectRatioFromString aspectRatioFromInt object "aspect_ratio"
      profile.aspectRatio
    fps := readInt object "fps" profile.fps
    clientRefreshRateX100 :=
      readInt object "client_refresh_rate_x100" profile.clientRefreshRateX100
    bitrateKbps := readInt object "bitrate_kbps" profile.bitrateKbps
    videoCodec := readName codecFromString object "video_codec" profile.videoCodec
    requestHdr := readBool object "request_hdr" profile.requestHdr
    decoderThreads := readInt object "decoder_threads" profile.decoderThreads
    nativeResolutionScale :=
      readInt object "native_resolution_scale" profile.nativeResolutionScale
    useHwDecoding := readBool object "use_hw_decoding" profile.useHwDecoding
    forceFullRangeVideo := readBool object "force_full_range_video" profile.forceFullRangeVideo
    preventPacketLoss := readBool object "prevent_packet_loss" profile.preventPacketLoss
    lowLatencyPacing := readBool object "low_latency_pacing" profile.lowLatencyPacing
    framesQueueSize :=
      ((object.read Value.int "frames_queue_size").map clampQueueSize).getD
        profile.framesQueueSize
    packetSize :=
      ((object.read Value.int "packet_size").map clampPacketSize).getD profile.packetSize
    customResolutionEnabled :=
      readBool object "custom_resolution_enabled" profile.customResolutionEnabled
    customWidth := readInt object "custom_width" profile.customWidth
    customHeight := readInt object "custom_height" profile.customHeight }

def readPresentation (object : Value) (profile : StreamConfigProfile) : StreamConfigProfile :=
  { profile with
    scaleMode := readName scaleModeFromString object "scale_mode" profile.scaleMode
    rememberZoomPan := readBool object "remember_zoom_pan" profile.rememberZoomPan
    forwardMotion := readBool object "forward_motion" profile.forwardMotion
    consoleMotionFallback :=
      readBool object "console_motion_fallback" profile.consoleMotionFallback
    upscalingMode := readInt object "upscaling_mode" profile.upscalingMode
    dithering := readBool object "dithering" profile.dithering
    ditheringStrength := readFloat object "dithering_strength" profile.ditheringStrength
    rcas := readBool object "rcas" profile.rcas
    rcasStrength := readFloat object "rcas_strength" profile.rcasStrength
    fsrPreset := readInt object "fsr_preset" profile.fsrPreset }

def readAudio (object : Value) (profile : StreamConfigProfile) : StreamConfigProfile :=
  { profile with
    streamAudioConfiguration :=
      readInt object "stream_audio_configuration" profile.streamAudioConfiguration
    playAudioOnPc := readBool object "play_audio_on_pc" profile.playAudioOnPc
    sops := readBool object "sops" profile.sops
    terminateAppOnDisconnect :=
      readBool object "terminate_app_on_disconnect" profile.terminateAppOnDisconnect
    audioBackend := readNameOrInt audioBackendFromString id object "audio_backend"
      profile.audioBackend
    volumeAmplification := readBool object "volume_amplification" profile.volumeAmplification
    volume := ((object.read Value.int "volume").map normalizeVolume).getD profile.volume
    hidden := readBool object "hidden" profile.hidden }

def readKeyboard (object : Value) (profile : StreamConfigProfile) : StreamConfigProfile :=
  { profile with
    keyboardType := readInt object "keyboard_type" profile.keyboardType
    keyboardLocale := readInt object "keyboard_locale" profile.keyboardLocale
    keyboardFingers := readInt object "keyboard_fingers" profile.keyboardFingers }

/-- Without a known pointer mode the older flag decides. -/
def readPointerMode (object : Value) (touchscreenMouseMode : Bool) : PointerMode :=
  ((object.read Value.text "pointer_mode").bind pointerModeFromName).getD
    (pointerModeFromLegacyTouchscreen touchscreenMouseMode)

def readPointer (object : Value) (profile : StreamConfigProfile) : StreamConfigProfile :=
  let touchMouse := readBool object "touchscreen_mouse_mode" profile.touchscreenMouseMode
  let pointerMode := readPointerMode object touchMouse
  { profile with
    pointerMode := pointerMode
    touchscreenMouseMode := legacyTouchscreenFromPointerMode pointerMode
    swapMouseKeys := readBool object "swap_mouse_keys" profile.swapMouseKeys
    swapMouseScroll := readBool object "swap_mouse_scroll" profile.swapMouseScroll
    swapMouseSticks := readBool object "swap_mouse_sticks" profile.swapMouseSticks
    mouseSpeedMultiplier := readInt object "mouse_speed_multiplier" profile.mouseSpeedMultiplier }

/-- The combined key of an earlier schema sets both swaps, and the two newer keys override it. -/
def readController (object : Value) (profile : StreamConfigProfile) : StreamConfigProfile :=
  let swapUiAb := readBool object "swap_ui_keys" profile.swapUiAb
  let swapUiXy := readBool object "swap_ui_keys" profile.swapUiXy
  { profile with
    swapUiAb := readBool object "swap_ui_ab" swapUiAb
    swapUiXy := readBool object "swap_ui_xy" swapUiXy
    deadzoneLeft := readFloat object "deadzone_left" profile.deadzoneLeft
    deadzoneRight := readFloat object "deadzone_right" profile.deadzoneRight
    rumbleForce := readFloat object "rumble_force" profile.rumbleForce
    swapStickToDpad := readBool object "swap_stick_to_dpad" profile.swapStickToDpad
    mappingLayoutTitle := readText object "mapping_layout_title" profile.mappingLayoutTitle }

def readFields (object : Value) (profile : StreamConfigProfile) : StreamConfigProfile :=
  readController object (readPointer object (readKeyboard object (readAudio object
    (readPresentation object (readVideo object (readIdentity object profile))))))

def profileFromJson (object : Value) : StreamConfigProfile :=
  if object.isObject then normalizeProfile (readFields object {}) else {}

/-! Only `readIdentity` reads the id and the name. -/

lemma readFields_id (object : Value) (profile : StreamConfigProfile) :
    (readFields object profile).id = readText object "id" profile.id := rfl

lemma readFields_name (object : Value) (profile : StreamConfigProfile) :
    (readFields object profile).name = readText object "name" profile.name := rfl

/-! ## What is written is read back -/

def profileKeys : List Bytes := (profileFields {}).map Prod.fst

lemma profileKeys_ok : keysOk profileKeys = true := by decide +kernel

lemma profileFields_keys (p : StreamConfigProfile) : (profileFields p).map Prod.fst = profileKeys :=
  rfl

/-- What the `n`-th member was set to is found under its key. -/
lemma get_written (p : StreamConfigProfile) (n : ℕ) {key : String} {value : Option Value}
    (h : (profileFields p)[n]? = some (ascii key, value)) :
    (profileToJson p).get (ascii key) = value :=
  get_makeObject_at n profileKeys_ok (profileFields_keys p) h

lemma readText_written (p : StreamConfigProfile) (n : ℕ) {key : String} {s : Bytes}
    (hs : Storable s) (h : (profileFields p)[n]? = some (ascii key, jsonString s)) (kept : Bytes) :
    readText (profileToJson p) key kept = s := by
  rw [readText, Value.read, get_written p n h, jsonString_bind hs, Option.getD_some]

lemma readInt_written (p : StreamConfigProfile) (n : ℕ) {key : String} {x : Int32}
    (h : (profileFields p)[n]? = some (ascii key, jsonInteger x)) (kept : Int32) :
    readInt (profileToJson p) key kept = x := by
  rw [readInt, Value.read, get_written p n h, jsonInteger_bind, Option.getD_some]

lemma readBool_written (p : StreamConfigProfile) (n : ℕ) {key : String} {b : Bool}
    (h : (profileFields p)[n]? = some (ascii key, jsonBoolean b)) (kept : Bool) :
    readBool (profileToJson p) key kept = b := by
  rw [readBool, get_written p n h]
  rfl

lemma readFloat_written (p : StreamConfigProfile) (n : ℕ) {key : String} {x : ℚ}
    (h : (profileFields p)[n]? = some (ascii key, jsonReal x)) (kept : ℚ) :
    readFloat (profileToJson p) key kept = x := by
  rw [readFloat, get_written p n h]
  rfl

lemma readName_written {α : Type} (p : StreamConfigProfile) (n : ℕ) {key : String} {s : Bytes}
    (parse : Bytes → α) (hs : Storable s)
    (h : (profileFields p)[n]? = some (ascii key, jsonString s)) (kept : α) :
    readName parse (profileToJson p) key kept = parse s := by
  rw [readName, Value.read, get_written p n h, jsonString_bind hs]
  rfl

lemma readNameOrInt_written {α : Type} (p : StreamConfigProfile) (n : ℕ) {key : String} {s : Bytes}
    (parse : Bytes → α) (cast : Int32 → α) (hs : Storable s)
    (h : (profileFields p)[n]? = some (ascii key, jsonString s)) (kept : α) :
    readNameOrInt parse cast (profileToJson p) key kept = parse s := by
  rw [readNameOrInt, get_written p n h, jsonString_of_storable hs]

lemma readClamped_written (p : StreamConfigProfile) (n : ℕ) {key : String} {x : Int32}
    (f : Int32 → Int32) (h : (profileFields p)[n]? = some (ascii key, jsonInteger x))
    (kept : Int32) : (((profileToJson p).read Value.int key).map f).getD kept = f x := by
  rw [Value.read, get_written p n h, jsonInteger_bind]
  rfl

/-- What a profile needs to be written: texts that JSON can hold, and a named backend. -/
structure StreamConfigProfile.Storable (p : StreamConfigProfile) : Prop where
  id : Jansson.Storable p.id
  name : Jansson.Storable p.name
  mappingLayoutTitle : Jansson.Storable p.mappingLayoutTitle
  audioBackend : p.audioBackend = SDL ∨ p.audioBackend = AUDREN

variable {p : StreamConfigProfile} (q : StreamConfigProfile)

lemma readIdentity_written (hs : p.Storable) :
    readIdentity (profileToJson p) q = { q with id := p.id, name := p.name } := by
  simp only [readIdentity, readText_written p 0 hs.id rfl, readText_written p 1 hs.name rfl]

lemma readVideo_written : readVideo (profileToJson p) q =
    { q with
      resolutionHeight := p.resolutionHeight
      aspectRatio := p.aspectRatio
      fps := p.fps
      clientRefreshRateX100 := p.clientRefreshRateX100
      bitrateKbps := p.bitrateKbps
      videoCodec := p.videoCodec
      requestHdr := p.requestHdr
      decoderThreads := p.decoderThreads
      nativeResolutionScale := p.nativeResolutionScale
      useHwDecoding := p.useHwDecoding
      forceFullRangeVideo := p.forceFullRangeVideo
      preventPacketLoss := p.preventPacketLoss
      lowLatencyPacing := p.lowLatencyPacing
      framesQueueSize := clampQueueSize p.framesQueueSize
      packetSize := clampPacketSize p.packetSize
      customResolutionEnabled := p.customResolutionEnabled
      customWidth := p.customWidth
      customHeight := p.customHeight } := by
  have haspect : ∀ aspect, Storable (aspectRatioToString aspect) ∧
      aspectRatioFromString (aspectRatioToString aspect) = aspect := by
    intro aspect
    cases aspect <;> decide +kernel
  have hcodec : ∀ codec, Storable (codecToString codec) ∧
      codecFromString (codecToString codec) = codec := by
    intro codec
    cases codec <;> decide +kernel
  simp only [readVideo, readInt_written p 2 rfl,
    readNameOrInt_written p 3 _ _ (haspect p.aspectRatio).1 rfl, readInt_written p 4 rfl,
    readInt_written p 5 rfl, readInt_written p 6 rfl,
    readName_written p 7 _ (hcodec p.videoCodec).1 rfl, readBool_written p 8 rfl,
    readInt_written p 9 rfl, readInt_written p 10 rfl, readBool_written p 11 rfl,
    readBool_written p 12 rfl, readBool_written p 13 rfl, readBool_written p 14 rfl,
    readClamped_written p 15 _ rfl, readClamped_written p 16 _ rfl, readBool_written p 17 rfl,
    readInt_written p 18 rfl, readInt_written p 19 rfl, (haspect p.aspectRatio).2,
    (hcodec p.videoCodec).2, clampPacketSize_twice]

lemma readPresentation_written : readPresentation (profileToJson p) q =
    { q with
      scaleMode := p.scaleMode
      rememberZoomPan := p.rememberZoomPan
      forwardMotion := p.forwardMotion
      consoleMotionFallback := p.consoleMotionFallback
      upscalingMode := p.upscalingMode
      dithering := p.dithering
      ditheringStrength := p.ditheringStrength
      rcas := p.rcas
      rcasStrength := p.rcasStrength
      fsrPreset := p.fsrPreset } := by
  have hscale : ∀ mode, Storable (scaleModeToString mode) ∧
      scaleModeFromString (scaleModeToString mode) = mode := by
    intro mode
    cases mode <;> decide +kernel
  simp only [readPresentation, readName_written p 20 _ (hscale p.scaleMode).1 rfl,
    readBool_written p 21 rfl, readBool_written p 22 rfl, readBool_written p 23 rfl,
    readInt_written p 24 rfl, readBool_written p 25 rfl, readFloat_written p 26 rfl,
    readBool_written p 27 rfl, readFloat_written p 28 rfl, readInt_written p 29 rfl,
    (hscale p.scaleMode).2]

lemma readAudio_written (hs : p.Storable) : readAudio (profileToJson p) q =
    { q with
      streamAudioConfiguration := p.streamAudioConfiguration
      playAudioOnPc := p.playAudioOnPc
      sops := p.sops
      terminateAppOnDisconnect := p.terminateAppOnDisconnect
      audioBackend := p.audioBackend
      volumeAmplification := p.volumeAmplification
      volume := normalizeVolume p.volume
      hidden := p.hidden } := by
  have hbackend : Storable (audioBackendToString p.audioBackend) ∧
      audioBackendFromString (audioBackendToString p.audioBackend) = p.audioBackend := by
    obtain h | h := hs.audioBackend
    · rw [h]
      decide +kernel
    · rw [h]
      decide +kernel
  simp only [readAudio, readInt_written p 30 rfl, readBool_written p 31 rfl,
    readBool_written p 32 rfl, readBool_written p 33 rfl,
    readNameOrInt_written p 34 _ _ hbackend.1 rfl, readBool_written p 35 rfl,
    readClamped_written p 36 _ rfl, readBool_written p 37 rfl, hbackend.2]

lemma readKeyboard_written : readKeyboard (profileToJson p) q =
    { q with
      keyboardType := p.keyboardType
      keyboardLocale := p.keyboardLocale
      keyboardFingers := p.keyboardFingers } := by
  simp only [readKeyboard, readInt_written p 38 rfl, readInt_written p 39 rfl,
    readInt_written p 40 rfl]

lemma readPointerMode_written (touchscreenMouseMode : Bool) :
    readPointerMode (profileToJson p) touchscreenMouseMode = p.pointerMode := by
  have hname : ∀ mode, Storable (pointerModeName mode) ∧
      pointerModeFromName (pointerModeName mode) = some mode := by
    intro mode
    cases mode <;> decide +kernel
  rw [readPointerMode, Value.read, get_written p 42 rfl, jsonString_bind (hname p.pointerMode).1,
    Option.bind_some, (hname p.pointerMode).2, Option.getD_some]

lemma readPointer_written : readPointer (profileToJson p) q =
    { q with
      pointerMode := p.pointerMode
      touchscreenMouseMode := legacyTouchscreenFromPointerMode p.pointerMode
      swapMouseKeys := p.swapMouseKeys
      swapMouseScroll := p.swapMouseScroll
      swapMouseSticks := p.swapMouseSticks
      mouseSpeedMultiplier := p.mouseSpeedMultiplier } := by
  simp only [readPointer, readPointerMode_written, readBool_written p 43 rfl,
    readBool_written p 44 rfl, readBool_written p 45 rfl, readInt_written p 46 rfl]

lemma readController_written (hs : p.Storable) : readController (profileToJson p) q =
    { q with
      swapUiAb := p.swapUiAb
      swapUiXy := p.swapUiXy
      deadzoneLeft := p.deadzoneLeft
      deadzoneRight := p.deadzoneRight
      rumbleForce := p.rumbleForce
      swapStickToDpad := p.swapStickToDpad
      mappingLayoutTitle := p.mappingLayoutTitle } := by
  simp only [readController, readBool_written p 47 rfl, readBool_written p 48 rfl,
    readFloat_written p 50 rfl, readFloat_written p 51 rfl, readFloat_written p 52 rfl,
    readBool_written p 53 rfl, readText_written p 54 hs.mappingLayoutTitle rfl]

/-- What the reader makes of a written profile: two fields are clamped that nothing clamps
elsewhere. -/
theorem profileFromJson_profileToJson (hs : p.Storable) :
    profileFromJson (profileToJson p) =
      { normalizeProfile p with
        framesQueueSize := clampQueueSize p.framesQueueSize
        volume := normalizeVolume p.volume } := by
  have hobject : (profileToJson p).isObject = true := rfl
  have hfields : readFields (profileToJson p) {} =
      { p with
        framesQueueSize := clampQueueSize p.framesQueueSize
        packetSize := clampPacketSize p.packetSize
        volume := normalizeVolume p.volume
        touchscreenMouseMode := legacyTouchscreenFromPointerMode p.pointerMode } := by
    rw [readFields, readIdentity_written _ hs, readVideo_written, readPresentation_written,
      readAudio_written _ hs, readKeyboard_written, readPointer_written,
      readController_written _ hs]
  rw [profileFromJson, if_pos hobject, hfields]
  simp only [normalizeProfile, clampPacketSize_twice]

/-- The two fields are in the range that the reader clamps them to. -/
def StreamConfigProfile.InRange (p : StreamConfigProfile) : Prop :=
  (1 ≤ p.framesQueueSize ∧ p.framesQueueSize ≤ 5) ∧ 0 ≤ p.volume ∧ p.volume ≤ 100

instance (p : StreamConfigProfile) : Decidable p.InRange := inferInstanceAs (Decidable (_ ∧ _))

lemma clampQueueSize_eq_self {size : Int32} : clampQueueSize size = size ↔ 1 ≤ size ∧ size ≤ 5 := by
  have hclamp : clampQueueSize size = clamp size 1 5 := by
    unfold clampQueueSize clamp
    by_cases h : size < 1 <;> simp [h]
  rw [hclamp, clamp_eq_self, Int32.not_lt, Int32.not_lt]

lemma normalizeVolume_eq_self {volume : Int32} :
    normalizeVolume volume = volume ↔ 0 ≤ volume ∧ volume ≤ 100 := by
  rw [normalizeVolume, clamp_eq_self, Int32.not_lt, Int32.not_lt]

/-- A profile comes back normalised exactly when both fields are in range. -/
theorem reads_normalized_iff (hs : p.Storable) :
    profileFromJson (profileToJson p) = normalizeProfile p ↔ p.InRange := by
  rw [profileFromJson_profileToJson hs, StreamConfigProfile.InRange, ← clampQueueSize_eq_self,
    ← normalizeVolume_eq_self]
  constructor
  · intro h
    exact ⟨congrArg StreamConfigProfile.framesQueueSize h, congrArg StreamConfigProfile.volume h⟩
  · rintro ⟨hqueue, hvolume⟩
    rw [hqueue, hvolume]
    rfl

end ArtemisSwitch.StreamProfile

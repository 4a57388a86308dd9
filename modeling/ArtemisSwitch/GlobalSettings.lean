import ArtemisSwitch.HostDuplicates
import ArtemisSwitch.StreamProfile
import Mathlib.Data.Int.Log
import Mathlib.Data.Rat.Floor

/-!
# Global settings under a host's profile

A profile that belongs to one host is put over the global settings for one stream.  The files of
the settings are copied before, and copied back and loaded again afterwards.
-/

namespace ArtemisSwitch.GlobalSettings
open Jansson StreamProfile HostStore

/-! ## Numbers of type `float` -/

def roundHalfEven (x : ℚ) : ℤ :=
  let low := ⌊x⌋
  if x - low < 1 / 2 then low
  else if 1 / 2 < x - low then low + 1
  else if low % 2 = 0 then low else low + 1

/-- The nearest `float`. -/
def toFloat (x : ℚ) : ℚ :=
  let ulp : ℚ := 2 ^ max (Int.log 2 |x| - 23) (-149)
  roundHalfEven (x / ulp) * ulp

-- 0.2f
example : toFloat (1 / 5) = 13421773 / 67108864 := by decide +kernel

/-- `static_cast<int>`. -/
def truncate (x : ℚ) : Int32 := Int32.ofInt (x.num.tdiv x.den)

/-! ## The settings that a profile writes -/

/-- The fields of `Settings` that `applyProfileToSettings` writes. -/
inductive Field
  | resolution | aspectRatio | nativeResolutionScale | fps | clientRefreshRateX100 | videoCodec
  | audioBackend | bitrate | enableHdr | upscalingMode | enableDithering | ditheringStrength
  | enableRcas | rcasStrength | decoderThreads | framesQueueSize | lowLatencyPacing | useHwDecoding
  | sops | playAudio | streamAudioConfiguration | terminateAppOnDisconnect | swapUiAb | swapUiXy
  | swapJoyconStickToDpad | touchscreenMouseMode | swapMouseKeys | swapMouseScroll
  | swapMouseSticks | volumeAmplification | volume | mouseSpeedMultiplier | deadzoneStickLeft
  | deadzoneStickRight | rumbleForce | currentMappingLayout | keyboardType | keyboardFingers
  | keyboardLocale
  deriving DecidableEq

abbrev Field.Carrier : Field → Type
  | .aspectRatio => StreamAspectRatio
  | .deadzoneStickLeft | .deadzoneStickRight => ℚ
  | .enableHdr | .enableDithering | .enableRcas | .lowLatencyPacing | .useHwDecoding | .sops
  | .playAudio | .terminateAppOnDisconnect | .swapUiAb | .swapUiXy | .swapJoyconStickToDpad
  | .touchscreenMouseMode | .swapMouseKeys | .swapMouseScroll | .swapMouseSticks
  | .volumeAmplification => Bool
  | _ => Int32

abbrev Preferences := (f : Field) → f.Carrier

def H265 : Int32 := 1

def UPSCALING_FSR1 : UpscalingMode := 2
def UPSCALING_SGSR1 : UpscalingMode := 3
def UPSCALING_NIS : UpscalingMode := 4

def NUMPAD : KeyboardType := 2

/-- The initializers of the fields. -/
def defaults : Preferences
  | .resolution => (720 : Int32)
  | .aspectRatio => StreamAspectRatio.ratio16x9
  | .nativeResolutionScale => (100 : Int32)
  | .fps => (60 : Int32)
  | .clientRefreshRateX100 => (0 : Int32)
  | .videoCodec => H265
  | .audioBackend => AUDREN
  | .bitrate => (10000 : Int32)
  | .enableHdr => false
  | .upscalingMode => UPSCALING_OFF
  | .enableDithering => false
  | .ditheringStrength => (3 : Int32)
  | .enableRcas => true
  | .rcasStrength => (20 : Int32)
  | .decoderThreads => (4 : Int32)
  | .framesQueueSize => (3 : Int32)
  | .lowLatencyPacing => false
  | .useHwDecoding => true
  | .sops => false
  | .playAudio => false
  | .streamAudioConfiguration => STREAM_AUDIO_STEREO
  | .terminateAppOnDisconnect => false
  | .swapUiAb => false
  | .swapUiXy => false
  | .swapJoyconStickToDpad => false
  | .touchscreenMouseMode => false
  | .swapMouseKeys => false
  | .swapMouseScroll => false
  | .swapMouseSticks => false
  | .volumeAmplification => false
  | .volume => (100 : Int32)
  | .mouseSpeedMultiplier => (47 : Int32)
  | .deadzoneStickLeft => (0 : ℚ)
  | .deadzoneStickRight => (0 : ℚ)
  | .rumbleForce => (100 : Int32)
  | .currentMappingLayout => (0 : Int32)
  | .keyboardType => COMPACT
  | .keyboardFingers => (3 : Int32)
  | .keyboardLocale => (0 : Int32)

/-! ## Setters -/

def set_native_resolution_scale (scale : Int32) : Int32 :=
  if scale = 50 ∨ scale = 75 ∨ scale = 100 ∨ scale = 200 then scale else 100

def set_client_refresh_rate_x100 (value : Int32) : Int32 := if value < 0 then 0 else value

def set_upscaling (upscaling : Bool) : UpscalingMode :=
  if upscaling then UPSCALING_FSR1 else UPSCALING_OFF

/-- The modes of the Switch. -/
def set_upscaling_mode (mode : UpscalingMode) : UpscalingMode :=
  if mode = UPSCALING_FSR1 ∨ mode = UPSCALING_SGSR1 ∨ mode = UPSCALING_NIS then mode
  else UPSCALING_OFF

def set_dithering_strength (strength : ℚ) : Int32 :=
  truncate (toFloat (clamp strength 1 10 + 1 / 2))

def set_rcas_strength (strength : ℚ) : Int32 := truncate (toFloat (clamp strength 0 1 * 100))

def set_rumble_force (rumbleForce : ℚ) : Int32 := truncate (toFloat (rumbleForce * 100))

/-! ## Reading settings.json -/

/-- A flag is set by any value, to whether the value is `true`. -/
def flag (key : String) (settings : Value) : Option Bool :=
  (settings.get (ascii key)).map jsonToBool

def aspectRatioFromJson : Value → Option StreamAspectRatio
  | .string name => some (normalizeAspectRatio (aspectRatioFromString name))
  | .integer n => some (normalizeAspectRatio (aspectRatioFromInt n.toInt32))
  | _ => none

/-- `(float)json_integer_value(value) / 100.f`. -/
def hundredths : Value → Option ℚ
  | .integer n => some (toFloat (toFloat n.toInt / 100))
  | _ => none

/-- What `Settings::load` finds for a field.  Of two keys the later one decides. -/
def stored (settings : Value) : (f : Field) → Option f.Carrier
  | .resolution => settings.read Value.int "resolution"
  | .aspectRatio => settings.read aspectRatioFromJson "aspect_ratio"
  | .nativeResolutionScale =>
    (settings.read Value.int "native_resolution_scale").map set_native_resolution_scale
  | .fps => settings.read Value.int "fps"
  | .clientRefreshRateX100 =>
    (settings.read Value.int "client_refresh_rate_x100").map set_client_refresh_rate_x100
  | .videoCodec => settings.read Value.int "video_codec"
  -- there is only one backend on the Switch
  | .audioBackend => some AUDREN
  | .bitrate => settings.read Value.int "bitrate"
  | .enableHdr => flag "enable_hdr" settings
  | .upscalingMode =>
    ((settings.read Value.int "upscaling_mode").map set_upscaling_mode).or
      ((flag "enable_upscaling" settings).map set_upscaling)
  | .enableDithering => flag "enable_dithering" settings
  | .ditheringStrength => (settings.read Value.int "dithering_strength").map (clamp · 1 10)
  | .enableRcas => flag "enable_rcas" settings
  | .rcasStrength => (settings.read Value.int "rcas_strength").map (clamp · 0 100)
  | .decoderThreads => settings.read Value.int "decoder_threads"
  | .framesQueueSize =>
    (settings.read Value.int "frames_queue_size").map fun size => if size < 1 then 1 else size
  | .lowLatencyPacing => flag "low_latency_pacing" settings
  | .useHwDecoding => flag "use_hw_decoding" settings
  | .sops => flag "sops" settings
  | .playAudio => flag "play_audio" settings
  | .streamAudioConfiguration => settings.read Value.int "stream_audio_configuration"
  | .terminateAppOnDisconnect => flag "terminate_app_on_disconnect" settings
  | .swapUiAb => (flag "swap_ui_ab" settings).or (flag "swap_ui_keys" settings)
  | .swapUiXy => (flag "swap_ui_xy" settings).or (flag "swap_ui_keys" settings)
  | .swapJoyconStickToDpad => flag "swap_joycon_stick_to_dpad" settings
  | .touchscreenMouseMode => flag "touchscreen_mouse_mode" settings
  | .swapMouseKeys => flag "swap_mouse_keys" settings
  | .swapMouseScroll => flag "swap_mouse_scroll" settings
  | .swapMouseSticks => flag "swap_mouse_sticks" settings
  | .volumeAmplification => flag "volume_amplification" settings
  | .volume => settings.read Value.int "stream_volume"
  | .mouseSpeedMultiplier => settings.read Value.int "mouse_speed_multiplier"
  | .deadzoneStickLeft => settings.read hundredths "deadzone_stick_left"
  | .deadzoneStickRight => settings.read hundredths "deadzone_stick_right"
  | .rumbleForce => settings.read Value.int "rumble_force"
  | .currentMappingLayout => settings.read Value.int "current_mapping_layout"
  | .keyboardType =>
    (settings.read Value.int "keyboard_type").map fun type =>
      if COMPACT ≤ type ∧ type ≤ NUMPAD then type else COMPACT
  | .keyboardFingers => settings.read Value.int "keyboard_fingers"
  | .keyboardLocale =>
    (settings.read Value.int "keyboard_locale").map fun locale => if locale < 0 then 0 else locale

/-- What a file holds for a field, if there is one and it holds any settings. -/
def storedIn (file : Option Value) (f : Field) : Option f.Carrier :=
  file.bind fun root => (root.get (ascii "settings")).bind (stored · f)

/-- A field that the file says nothing about keeps its value. -/
def loadPreferences (file : Option Value) (preferences : Preferences) : Preferences :=
  fun f => (storedIn file f).getD (preferences f)

/-! ## Writing a profile -/

def codecNumber : VideoCodec → Int32
  | .h264 => 0
  | .h265 => H265
  | .av1 => 2

/-- What `applyProfileToSettings` writes to a field.  A layout is looked up by its title. -/
def applied (profile : StreamConfigProfile) (layouts : List KeyMappingLayout) :
    (f : Field) → Option f.Carrier
  | .resolution => some profile.resolutionHeight
  | .aspectRatio => some (normalizeAspectRatio profile.aspectRatio)
  | .fps => some profile.fps
  | .clientRefreshRateX100 => some (set_client_refresh_rate_x100 profile.clientRefreshRateX100)
  | .bitrate => some profile.bitrateKbps
  | .videoCodec => some (codecNumber profile.videoCodec)
  | .enableHdr => some profile.requestHdr
  | .decoderThreads => some profile.decoderThreads
  | .nativeResolutionScale => some (set_native_resolution_scale profile.nativeResolutionScale)
  | .useHwDecoding => some profile.useHwDecoding
  | .upscalingMode => some (set_upscaling_mode profile.upscalingMode)
  | .enableDithering => some profile.dithering
  | .ditheringStrength => some (set_dithering_strength profile.ditheringStrength)
  | .enableRcas => some profile.rcas
  | .rcasStrength => some (set_rcas_strength profile.rcasStrength)
  | .streamAudioConfiguration => some profile.streamAudioConfiguration
  | .playAudio => some profile.playAudioOnPc
  | .sops => some profile.sops
  | .terminateAppOnDisconnect => some profile.terminateAppOnDisconnect
  | .audioBackend => some profile.audioBackend
  | .volumeAmplification => some profile.volumeAmplification
  | .volume => some profile.volume
  | .keyboardType => some profile.keyboardType
  | .keyboardLocale => some profile.keyboardLocale
  | .keyboardFingers => some profile.keyboardFingers
  | .touchscreenMouseMode => some profile.touchscreenMouseMode
  | .swapMouseKeys => some profile.swapMouseKeys
  | .swapMouseScroll => some profile.swapMouseScroll
  | .swapMouseSticks => some profile.swapMouseSticks
  | .mouseSpeedMultiplier => some profile.mouseSpeedMultiplier
  | .swapUiAb => some profile.swapUiAb
  | .swapUiXy => some profile.swapUiXy
  | .deadzoneStickLeft => some profile.deadzoneLeft
  | .deadzoneStickRight => some profile.deadzoneRight
  | .rumbleForce => some (set_rumble_force profile.rumbleForce)
  | .swapJoyconStickToDpad => some profile.swapStickToDpad
  | .lowLatencyPacing => some profile.lowLatencyPacing
  | .framesQueueSize => some (clampQueueSize profile.framesQueueSize)
  | .currentMappingLayout =>
    if profile.mappingLayoutTitle = [] then none
    else (layouts.findIdx? (·.title = profile.mappingLayoutTitle)).map Int32.ofNat

def applyProfileToSettings (profile : StreamConfigProfile) (layouts : List KeyMappingLayout)
    (preferences : Preferences) : Preferences :=
  fun f => (applied profile layouts f).getD (preferences f)

/-! ## The files -/

/-- The files of the settings and of the stores, in the working directory. -/
inductive GlobalFile
  | settings | artemisAdvancedStream | artemisVideoScale | artemisStream | artemisInput
  | artemisZoomPan | artemisMotion
  deriving DecidableEq

def globalSettingsFiles : List GlobalFile :=
  [.settings, .artemisAdvancedStream, .artemisVideoScale, .artemisStream, .artemisInput,
    .artemisZoomPan, .artemisMotion]

/-- The settings in memory, and the files with the copies beside them. -/
structure World where
  hosts : List Host
  layouts : List KeyMappingLayout
  preferences : Preferences
  files : GlobalFile → Option Value
  backups : GlobalFile → Option Value

namespace World

/-- A copy that an earlier session has left is removed. -/
def backupFile (w : World) (path : GlobalFile) : World :=
  let removed := Function.update w.backups path none
  match w.files path with
  | some content => { w with backups := Function.update removed path (some content) }
  | none => { w with backups := removed }

def restoreFile (w : World) (path : GlobalFile) : World :=
  match w.backups path with
  | some content =>
    { w with
      files := Function.update w.files path (some content)
      backups := Function.update w.backups path none }
  | none => w

def backupGlobalSettingsFiles (w : World) : World := globalSettingsFiles.foldl backupFile w

def restoreGlobalSettingsFiles (w : World) : World := globalSettingsFiles.foldl restoreFile w

/-- `applyToSettings` without `persist`.  The profile has its own file. -/
def applyToSettings (profile : StreamConfigProfile) (w : World) : World :=
  { w with
    preferences := applyProfileToSettings (normalizeProfile profile) w.layouts w.preferences }

/-- `Settings::save`, or the `save` of a store. -/
def save (w : World) (saved : GlobalFile × Value) : World :=
  { w with files := Function.update w.files saved.1 (some saved.2) }

variable (button : ControllerButtons) (dump : Preferences → Value)

/-- `Settings::load`; `dump` gives what a save writes for the settings. -/
def load (w : World) : World :=
  let preferences := loadPreferences (w.files .settings) w.preferences
  let s := Settings.load button (dump preferences) ⟨w.hosts, w.layouts, w.files .settings⟩
  { w with
    hosts := s.hosts
    layouts := s.layouts
    preferences := preferences
    files := Function.update w.files .settings s.file }

/-- The stores load their files and write none. -/
def restoreGlobalSettingsIfNeeded (w : World) : World :=
  w.restoreGlobalSettingsFiles.load button dump

/-- One stream under a profile, with what is saved while it runs. -/
def stream (profile : StreamConfigProfile) (saves : List (GlobalFile × Value)) (w : World) :
    World :=
  let w := w.backupGlobalSettingsFiles.applyToSettings profile
  (saves.foldl save w).restoreGlobalSettingsIfNeeded button dump

end World

end ArtemisSwitch.GlobalSettings

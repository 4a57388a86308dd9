import Mathlib.Data.Rat.Defs
import Mathlib.Data.List.Sort
import Mathlib.Logic.Function.Basic

/-!
# Input of a stream

`MoonlightInputManager` of the Switch build: what it sends to the host for the controllers, the
mouse and the touch screen, and what it remembers.  Rumble, which stays on the console, is left
out.
-/

namespace ArtemisSwitch.Input

/-! ## What comes from elsewhere -/

/-- What is done with `float`. -/
class FloatOps (F : Type) extends Add F, Sub F, Mul F, Div F, Neg F, LT F, LE F, BEq F where
  decidableLT : DecidableLT F
  decidableLE : DecidableLE F
  /-- A literal, or the value of an integer. -/
  lit : ℚ → F
  trunc : F → ℤ
  /-- The square root that works on the bits. -/
  fsqrt_ : F → F

attribute [reducible, instance] FloatOps.decidableLT FloatOps.decidableLE

export FloatOps (lit trunc fsqrt_)

/-- Constants of the headers of Limelight and borealis. -/
class Headers where
  UP_FLAG : UInt16
  DOWN_FLAG : UInt16
  LEFT_FLAG : UInt16
  RIGHT_FLAG : UInt16
  A_FLAG : UInt16
  B_FLAG : UInt16
  X_FLAG : UInt16
  Y_FLAG : UInt16
  BACK_FLAG : UInt16
  PLAY_FLAG : UInt16
  LB_FLAG : UInt16
  RB_FLAG : UInt16
  LS_CLK_FLAG : UInt16
  RS_CLK_FLAG : UInt16
  SPECIAL_FLAG : UInt16
  LI_ERR_UNSUPPORTED : Int32
  /-- It is an error. -/
  unsupported_ne_zero : LI_ERR_UNSUPPORTED ≠ 0
  BRLS_KBD_KEY_SPACE : ℕ
  BRLS_KBD_KEY_LAST : ℕ
  glfwKeyToVKKey : ℕ → Int16

export Headers (LI_ERR_UNSUPPORTED SPECIAL_FLAG glfwKeyToVKKey)

/-- The buttons that the code names, and all others. -/
inductive ControllerButton
  | BUTTON_LT | BUTTON_LB | BUTTON_LSB | BUTTON_UP | BUTTON_RIGHT | BUTTON_DOWN | BUTTON_LEFT
  | BUTTON_BACK | BUTTON_GUIDE | BUTTON_START | BUTTON_RSB | BUTTON_Y | BUTTON_B | BUTTON_A
  | BUTTON_X | BUTTON_RB | BUTTON_RT
  | other (n : ℕ)
  deriving DecidableEq

inductive Axis
  | LEFT_X | LEFT_Y | RIGHT_X | RIGHT_Y | LEFT_Z | RIGHT_Z
  deriving DecidableEq

structure ControllerState (F : Type) where
  buttons : ControllerButton → Bool
  axes : Axis → F

structure Point (F : Type) where
  x : F
  y : F

inductive TouchPhase | NONE | START | STAY | END
  deriving DecidableEq

/-- A touch; `foreign` when it is on a view with another parent than the stream's. -/
structure TouchState (F : Type) where
  fingerId : UInt32
  phase : TouchPhase
  position : Point F
  foreign : Bool

structure HidPowerInfo where
  batteryLevel : UInt32
  isPowered : Bool
  isCharging : Bool

/-- The power of a controller; a pair of Joy-Cons has two. -/
structure NpadPower where
  single : HidPowerInfo
  split : Option (HidPowerInfo × HidPowerInfo)

inductive PointerMode
  | MultiTouch | Absolute | AbsoluteSwapped | TrackpadNatural | TrackpadGaming | Disabled
  deriving DecidableEq

def isTrackpadMode (mode : PointerMode) : Bool := mode = .TrackpadNatural || mode = .TrackpadGaming

def isAbsoluteMode (mode : PointerMode) : Bool := mode = .Absolute || mode = .AbsoluteSwapped

structure NormalizedRegion (F : Type) where
  left : F
  top : F
  right : F
  bottom : F

structure PointerSettings (F : Type) where
  mode : PointerMode
  tapToClick : Bool
  sensitivityX : F
  sensitivityY : F
  region : NormalizedRegion F

inductive Rotation | Deg0 | Deg90 | Deg180 | Deg270
  deriving DecidableEq

/-- What one call of `handleInput` finds on the devices, in the settings and on the clocks, whose
times are nanoseconds. -/
structure Frame (F : Type) where
  reportedControllers : ℤ
  controllers : ℕ → ControllerState F
  unified : ControllerState F
  power : ℕ → NpadPower
  steadyNowMs : ℕ → UInt64
  leftButton : Bool
  middleButton : Bool
  rightButton : Bool
  rawTouches : ℕ
  touches : List (TouchState F)
  timeNow : ℤ
  pointer : PointerSettings F
  swapMouseSticks : Bool
  swapMouseScroll : Bool
  swapMouseKeys : Bool
  deadzoneStickLeft : F
  deadzoneStickRight : F
  guideKeys : List ControllerButton
  mouseSpeedScale : F
  rotation : Rotation
  localToStream : Point F → Option (Point F)
  contentWidth : ℕ
  contentHeight : ℕ

/-! ## What is sent and remembered -/

structure GamepadState where
  buttonFlags : UInt16 := 0
  leftTrigger : UInt8 := 0
  rightTrigger : UInt8 := 0
  leftStickX : Int16 := 0
  leftStickY : Int16 := 0
  rightStickX : Int16 := 0
  rightStickY : Int16 := 0
  deriving DecidableEq

structure MouseStateS (F : Type) where
  scrollY : F
  lPressed : Bool
  mPressed : Bool
  rPressed : Bool

structure BatteryReading where
  state : UInt8 := 0
  percentage : UInt8 := 0xFF
  deriving DecidableEq

inductive MouseButton | left | middle | right
  deriving DecidableEq

inductive ButtonAction | press | release
  deriving DecidableEq

inductive TouchEvent | DOWN | MOVE | UP | CANCEL
  deriving DecidableEq

/-- A call of Limelight. -/
inductive Send (F : Type)
  | controllerArrival (slot : ℕ) (mask : UInt16)
  | multiController (slot : ℕ) (mask : UInt16) (state : GamepadState)
  | controllerBattery (slot : ℕ) (state percentage : UInt8)
  | controllerMotion (controller : UInt8) (gyro : Bool) (x y z : F)
  | mouseButton (action : ButtonAction) (button : MouseButton)
  | mouseMove (deltaX deltaY : Int16)
  | mousePosition (x y width height : Int16)
  | scroll (clicks : ℤ)
  | highResScroll (amount : Int16)
  | highResHScroll (amount : Int16)
  | touch (event : TouchEvent) (id : UInt32) (x y : F)
  | keyboard (key : Int16) (pressed : Bool) (modifiers : UInt8)

inductive DesktopScrollAxis | None | Horizontal | Vertical
  deriving DecidableEq

structure MotionFallbackGate where
  lastControllerSampleMs : UInt64 := 0
  observationStartMs : UInt64 := 0
  hasControllerSample : Bool := false
  hasObservationStart : Bool := false

/-- The fields of `MoonlightInputManager`.  The arrays are read below `GAMEPADS_MAX` only. -/
structure Manager (F : Type) where
  lastGamepadStates : ℕ → GamepadState
  lastBatteryReadings : ℕ → BatteryReading
  lastBatterySendMs : ℕ → UInt64
  mappingButtons : List (ControllerButton × ControllerButton)
  panStatus : Option (Point F)
  activeTouchIDs : List UInt32
  desktopMouseRemainder : Point F
  desktopScrollRemainder : Point F
  pendingHorizontalScroll : F
  pendingHorizontalScrollEvents : UInt32
  desktopScrollAxis : DesktopScrollAxis
  lastDesktopScrollEvent : ℤ
  inputDropped : Bool
  inputEnabled : Bool
  lastControllerCount : ℕ
  lastMouseState : MouseStateS F
  lastScrollSentAt : ℤ
  motionFallbackGate : MotionFallbackGate

/-- The manager and the calls of Limelight so far, with their results. -/
structure World (F : Type) where
  manager : Manager F
  sent : List (Send F × Int32) := []

variable {F : Type}

/-- The next call of Limelight; the calls of a run give the `results` in turn. -/
def World.send (results : ℕ → Int32) (e : Send F) (w : World F) : World F :=
  { w with sent := w.sent ++ [(e, results w.sent.length)] }

@[simp] lemma send_manager (results : ℕ → Int32) (e : Send F) (w : World F) :
    (w.send results e).manager = w.manager := rfl

@[simp] lemma send_sent (results : ℕ → Int32) (e : Send F) (w : World F) :
    (w.send results e).sent = w.sent ++ [(e, results w.sent.length)] := rfl

/-- What the next call of Limelight gives. -/
def World.result (results : ℕ → Int32) (w : World F) : Int32 := results w.sent.length

/-- `fabs`. -/
def fabs [FloatOps F] (x : F) : F := if x < lit 0 then -x else x

/-! ## The state of a controller -/

/-- A button is down when one of those mapped to it is. -/
def mapController (mappingButtons : List (ControllerButton × ControllerButton))
    (controller : ControllerState F) : ControllerState F where
  buttons := fun button => mappingButtons.any fun key => key.2 = button && controller.buttons key.1
  axes := controller.axes

def applyRadialDeadzone [FloatOps F] (x y magnitude deadzone : F) : Point F :=
  if deadzone ≤ lit 0 then ⟨x, y⟩
  else
    let limit := if lit (19 / 20) < deadzone then lit (19 / 20) else deadzone
    if magnitude ≤ limit ∨ magnitude ≤ lit 0 then ⟨lit 0, lit 0⟩
    else
      let full := (magnitude - limit) / (lit 1 - limit)
      let rescaled := if lit 1 < full then lit 1 else full
      let scale := rescaled / magnitude
      ⟨x * scale, y * scale⟩

/-- A stick with its dead zone cut out. -/
def stick [FloatOps F] (x y deadzone : F) : Point F :=
  if lit 0 < deadzone then applyRadialDeadzone x y (fsqrt_ (x * x + y * y)) deadzone else ⟨x, y⟩

/-- The axis, or the button where the axis gives nothing. -/
def trigger [FloatOps F] (axis : F) (button : Bool) : F :=
  if lit 0 < axis then axis else if button then lit 1 else lit 0

/-- The flags of the buttons.  A and B, and X and Y, change places on the Switch. -/
def gamePadFlags [Headers] : List (UInt16 × ControllerButton) :=
  [(Headers.UP_FLAG, .BUTTON_UP), (Headers.DOWN_FLAG, .BUTTON_DOWN),
    (Headers.LEFT_FLAG, .BUTTON_LEFT), (Headers.RIGHT_FLAG, .BUTTON_RIGHT),
    (Headers.A_FLAG, .BUTTON_B), (Headers.B_FLAG, .BUTTON_A), (Headers.X_FLAG, .BUTTON_Y),
    (Headers.Y_FLAG, .BUTTON_X), (Headers.BACK_FLAG, .BUTTON_BACK),
    (Headers.PLAY_FLAG, .BUTTON_START), (Headers.LB_FLAG, .BUTTON_LB),
    (Headers.RB_FLAG, .BUTTON_RB), (Headers.LS_CLK_FLAG, .BUTTON_LSB),
    (Headers.RS_CLK_FLAG, .BUTTON_RSB)]

/-- `SET_GAME_PAD_STATE`. -/
def setFlag (pressed : Bool) (flag flags : UInt16) : UInt16 :=
  if pressed then flags ||| flag else flags &&& ~~~flag

/-- While the guide combination is held, and in the frame after it, no other button counts. -/
def getControllerState [FloatOps F] [Headers] (m : Manager F) (frame : Frame F)
    (controllerNum : ℕ) (specialKey : Bool) : GamepadState :=
  let controller := mapController m.mappingButtons (frame.controllers controllerNum)
  let lzAxis := trigger (controller.axes .LEFT_Z) (controller.buttons .BUTTON_LT)
  let rzAxis := trigger (controller.axes .RIGHT_Z) (controller.buttons .BUTTON_RT)
  let left := stick (controller.axes .LEFT_X) (controller.axes .LEFT_Y) frame.deadzoneStickLeft
  let right := stick (controller.axes .RIGHT_X) (controller.axes .RIGHT_Y) frame.deadzoneStickRight
  let axis := fun x : F => if specialKey then lit 0 else x
  let flags := gamePadFlags.foldl (fun flags key =>
    setFlag (controller.buttons key.2) key.1 flags) 0
  let guideCombo := !frame.guideKeys.isEmpty && frame.guideKeys.all controller.buttons
  let flags :=
    if guideCombo ∨ (m.lastGamepadStates controllerNum).buttonFlags &&& SPECIAL_FLAG ≠ 0 then 0
    else flags
  { buttonFlags := setFlag (guideCombo || controller.buttons .BUTTON_GUIDE) SPECIAL_FLAG flags
    leftTrigger := UInt8.ofInt (trunc (lit 0xFF * axis lzAxis))
    rightTrigger := UInt8.ofInt (trunc (lit 0xFF * axis rzAxis))
    leftStickX := Int16.ofInt (trunc (lit 0x7FFF * axis left.x))
    leftStickY := Int16.ofInt (trunc (lit (-0x7FFF) * axis left.y))
    rightStickX := Int16.ofInt (trunc (lit 0x7FFF * axis right.x))
    rightStickY := Int16.ofInt (trunc (lit (-0x7FFF) * axis right.y)) }

/-! ## Batteries -/

def BatteryStateUnknown : UInt8 := 0
def BatteryStateNotPresent : UInt8 := 1
def BatteryStateDischarging : UInt8 := 2
def BatteryStateCharging : UInt8 := 3
def BatteryStateNotCharging : UInt8 := 4
def BatteryStateFull : UInt8 := 5
def BatteryPercentageUnknown : UInt8 := 0xFF

def BatteryResendIntervalMs : UInt64 := 30000

def fromNpad (batteryLevel : UInt32) (powered charging connected : Bool) : BatteryReading :=
  if connected = false then ⟨BatteryStateNotPresent, BatteryPercentageUnknown⟩
  else
    let clamped := if 4 < batteryLevel then 4 else batteryLevel
    { percentage := (clamped * 25).toUInt8
      state :=
        if charging then BatteryStateCharging
        else if powered then if 4 ≤ clamped then BatteryStateFull else BatteryStateNotCharging
        else BatteryStateDischarging }

def shouldResend (last next : BatteryReading) (lastSendMs nowMs : UInt64) : Bool :=
  if next.state = BatteryStateUnknown then false
  else if lastSendMs = 0 then true
  else if last ≠ next then true
  else if nowMs < lastSendMs then false
  else BatteryResendIntervalMs ≤ nowMs - lastSendMs

/-- Of a pair the lower one. -/
def NpadPower.info (power : NpadPower) : HidPowerInfo :=
  match power.split with
  | some (left, right) => if left.batteryLevel ≤ right.batteryLevel then left else right
  | none => power.single

variable (results : ℕ → Int32)

def handleControllerBattery (frame : Frame F) (slot : ℕ) (w : World F) : World F :=
  let info := (frame.power slot).info
  let reading := fromNpad info.batteryLevel info.isPowered info.isCharging true
  let m := w.manager
  let nowMs := frame.steadyNowMs slot
  if shouldResend (m.lastBatteryReadings slot) reading (m.lastBatterySendMs slot) nowMs then
    { w with
      manager := { m with
        lastBatteryReadings := Function.update m.lastBatteryReadings slot reading
        lastBatterySendMs := Function.update m.lastBatterySendMs slot nowMs } }.send results
      (.controllerBattery slot reading.state reading.percentage)
  else w

/-! ## Controllers -/

def MaxSupportedControllers : ℤ := 5

def clampControllerCount (reportedCount : ℤ) : ℕ :=
  (max 0 (min reportedCount MaxSupportedControllers)).toNat

def connectedControllerMask (reportedCount : ℤ) : UInt16 :=
  1 <<< (clampControllerCount reportedCount).toUInt16 - 1

structure ControllerTopologyDelta where
  releaseFirst : ℕ
  releaseEnd : ℕ
  arriveFirst : ℕ
  arriveEnd : ℕ
  changed : Bool

def controllerTopologyDelta (announced connected : ℕ) : ControllerTopologyDelta where
  changed := announced ≠ connected
  releaseFirst := connected
  releaseEnd := max announced connected
  arriveFirst := announced
  arriveEnd := max connected announced

/-- The slots of a loop. -/
def slots (first last : ℕ) : List ℕ := List.range' first (last - first)

/-- What is remembered of a slot's battery is forgotten. -/
def Manager.forgetBattery (m : Manager F) (slot : ℕ) : Manager F :=
  { m with
    lastBatteryReadings := Function.update m.lastBatteryReadings slot {}
    lastBatterySendMs := Function.update m.lastBatterySendMs slot 0 }

def Manager.setGamepadState (m : Manager F) (slot : ℕ) (state : GamepadState) : Manager F :=
  { m with lastGamepadStates := Function.update m.lastGamepadStates slot state }

/-- A controller that is gone gets a neutral state. -/
def releaseController (mask : UInt16) (w : World F) (slot : ℕ) : World F :=
  let w := w.send results (.multiController slot mask {})
  { w with manager := (w.manager.setGamepadState slot {}).forgetBattery slot }

def announceController (mask : UInt16) (w : World F) (slot : ℕ) : World F :=
  let w := w.send results (.controllerArrival slot mask)
  { w with manager := w.manager.forgetBattery slot }

/-- The state is remembered before it is sent. -/
def updateController [FloatOps F] [Headers] (frame : Frame F) (specialKey changed : Bool)
    (mask : UInt16) (w : World F) (slot : ℕ) : World F :=
  let gamepadState := getControllerState w.manager frame slot (specialKey && slot = 0)
  let w :=
    if changed ∨ gamepadState ≠ w.manager.lastGamepadStates slot then
      { w with manager := w.manager.setGamepadState slot gamepadState }.send results
        (.multiController slot mask gamepadState)
    else w
  handleControllerBattery results frame slot w

def handleControllers [FloatOps F] [Headers] (frame : Frame F) (specialKey : Bool)
    (w : World F) : World F :=
  let controllersCount := clampControllerCount frame.reportedControllers
  let mask := connectedControllerMask controllersCount
  let topology := controllerTopologyDelta w.manager.lastControllerCount controllersCount
  let w := (slots topology.releaseFirst topology.releaseEnd).foldl
    (releaseController results mask) w
  let w := (slots topology.arriveFirst topology.arriveEnd).foldl
    (announceController results mask) w
  let w := (List.range controllersCount).foldl
    (updateController results frame specialKey topology.changed mask) w
  { w with manager := { w.manager with lastControllerCount := controllersCount } }

/-! ## Mouse -/

def localVectorToStream [FloatOps F] (p : Point F) : Rotation → Point F
  | .Deg90 => ⟨p.y, -p.x⟩
  | .Deg180 => ⟨-p.x, -p.y⟩
  | .Deg270 => ⟨-p.y, p.x⟩
  | .Deg0 => p

/-- Whole steps are sent, the rest is kept for the next move. -/
def sendRelativeMouseMove [FloatOps F] (offset : Point F) (rotation : Rotation)
    (w : World F) : World F :=
  let transformed := localVectorToStream offset rotation
  let m := w.manager
  let x := m.desktopMouseRemainder.x + transformed.x
  let y := m.desktopMouseRemainder.y + transformed.y
  let deltaX := Int16.ofInt (trunc x)
  let deltaY := Int16.ofInt (trunc y)
  if deltaX = 0 ∧ deltaY = 0 then { w with manager := { m with desktopMouseRemainder := ⟨x, y⟩ } }
  else
    { w with
      manager := { m with
        desktopMouseRemainder := ⟨x - lit deltaX.toInt, y - lit deltaY.toInt⟩ } }.send results
      (.mouseMove deltaX deltaY)

def STICK_SCROLL_DEADZONE : ℚ := 1 / 5

def applyStickScrollDeadzone [FloatOps F] (axis configuredDeadzone : F) : F :=
  let deadzone : F :=
    if lit STICK_SCROLL_DEADZONE < configuredDeadzone then configuredDeadzone
    else lit STICK_SCROLL_DEADZONE
  if fabs axis < deadzone then lit 0 else axis

/-- Controller mouse assist: one finger on the touchpad. -/
def Frame.specialKey (frame : Frame F) (ignoreTouch : Bool) : Bool :=
  !ignoreTouch && isTrackpadMode frame.pointer.mode && frame.rawTouches = 1

def Frame.stickScrolling [FloatOps F] (frame : Frame F) (ignoreTouch : Bool) : F :=
  if frame.specialKey ignoreTouch then
    let left := applyStickScrollDeadzone (frame.unified.axes .LEFT_Y) frame.deadzoneStickLeft
    if frame.swapMouseSticks then left
    else left + applyStickScrollDeadzone (frame.unified.axes .RIGHT_Y) frame.deadzoneStickRight
  else lit 0

/-- The buttons of the mouse, with the triggers for the outer ones. -/
def Frame.mouseState [FloatOps F] (frame : Frame F) (ignoreTouch : Bool)
    (mappingButtons : List (ControllerButton × ControllerButton)) : MouseStateS F :=
  let controller := mapController mappingButtons frame.unified
  let specialKey := frame.specialKey ignoreTouch
  let scrollY :=
    if isTrackpadMode frame.pointer.mode then frame.stickScrolling ignoreTouch else lit 0
  { scrollY := if frame.swapMouseScroll then scrollY * lit (-1) else scrollY
    lPressed := (specialKey && controller.buttons .BUTTON_RT) || frame.leftButton
    mPressed := frame.middleButton
    rPressed := (specialKey && controller.buttons .BUTTON_LT) || frame.rightButton }

def sendMouseButton (pressed : Bool) (button : MouseButton) (w : World F) : World F :=
  w.send results (.mouseButton (if pressed then .press else .release) button)

/-- A button that is not as it was is told, under the name that it has now. -/
def sendMouseButtons (frame : Frame F) (mouseState : MouseStateS F) (w : World F) : World F :=
  let last := w.manager.lastMouseState
  let w := { w with
    manager := { w.manager with
      lastMouseState := { mouseState with scrollY := last.scrollY } } }
  let w :=
    if mouseState.lPressed ≠ last.lPressed then
      sendMouseButton results mouseState.lPressed (if frame.swapMouseKeys then .right else .left) w
    else w
  let w :=
    if mouseState.mPressed ≠ last.mPressed then
      sendMouseButton results mouseState.mPressed .middle w
    else w
  if mouseState.rPressed ≠ last.rPressed then
    sendMouseButton results mouseState.rPressed (if frame.swapMouseKeys then .left else .right) w
  else w

/-- The farther the stick, the sooner the next step. -/
def sendScroll [FloatOps F] (frame : Frame F) (scrollY : F) (w : World F) : World F :=
  let duration := (frame.timeNow - w.manager.lastScrollSentAt).tdiv 1000000
  if scrollY != lit 0 ∧ lit 550 - fabs scrollY * lit 500 < lit duration then
    { w with
      manager := { w.manager with
        lastScrollSentAt := frame.timeNow
        lastMouseState := { w.manager.lastMouseState with scrollY := scrollY } } }.send results
      (.scroll (if lit 0 < scrollY then 1 else -1))
  else w

/-! ## Touch -/

def TouchPhase.event : TouchPhase → TouchEvent
  | .START => .DOWN
  | .STAY => .MOVE
  | .END => .UP
  | .NONE => .CANCEL

/-- `std::map::insert`, its keys in order. -/
def insertId (id : UInt32) (ids : List UInt32) : List UInt32 :=
  if id ∈ ids then ids else ids.orderedInsert (· ≤ ·) id

def Frame.mapped [FloatOps F] (frame : Frame F) (touch : TouchState F) : Option (Point F) :=
  frame.localToStream
    ⟨touch.position.x / lit frame.contentWidth, touch.position.y / lit frame.contentHeight⟩

/-- `LiSendMousePositionEvent` for a point of the stream. -/
def sendMousePosition [FloatOps F] (frame : Frame F) (point : Point F) (w : World F) : World F :=
  w.send results (.mousePosition (Int16.ofInt (trunc (point.x * lit frame.contentWidth)))
    (Int16.ofInt (trunc (point.y * lit frame.contentHeight))) (Int16.ofInt frame.contentWidth)
    (Int16.ofInt frame.contentHeight))

/-- Where the host takes no touches, the first one moves the cursor and clicks. -/
def touchFallback [FloatOps F] (frame : Frame F) (touch : TouchState F) (point : Point F)
    (w : World F) : World F :=
  let w := if touch.phase ≠ .NONE then sendMousePosition results frame point w else w
  let w := if touch.phase = .START then sendMouseButton results true .left w else w
  if touch.phase = .END then sendMouseButton results false .left w else w

/-- An ended touch stays among the active ones until its phase is `NONE`. -/
def Manager.trackTouch (touch : TouchState F) (m : Manager F) : Manager F :=
  { m with
    activeTouchIDs :=
      if touch.phase ≠ .NONE then insertId touch.fingerId m.activeTouchIDs
      else m.activeTouchIDs.filter (· ≠ touch.fingerId) }

def sendTouch [FloatOps F] [Headers] (frame : Frame F) (index : ℕ) (touch : TouchState F)
    (point : Point F) (w : World F) : World F :=
  let result := w.result results
  let w := w.send results (.touch touch.phase.event touch.fingerId point.x point.y)
  if result = LI_ERR_UNSUPPORTED ∧ index = 0 then touchFallback results frame touch point w else w

def multiTouch [FloatOps F] [Headers] (frame : Frame F) (w : World F)
    (entry : TouchState F × ℕ) : World F :=
  if entry.1.foreign then w
  else
    let w := { w with manager := w.manager.trackTouch entry.1 }
    match frame.mapped entry.1 with
    | none => w
    | some point => sendTouch results frame entry.2 entry.1 point w

def NormalizedRegion.misses [FloatOps F] (region : NormalizedRegion F) (p : Point F) : Bool :=
  p.x < region.left || region.right < p.x || p.y < region.top || region.bottom < p.y

def PointerMode.tapButton (mode : PointerMode) : MouseButton :=
  if mode = .AbsoluteSwapped then .right else .left

def sendTap (frame : Frame F) (touch : TouchState F) (w : World F) : World F :=
  if touch.phase = .START ∧ frame.pointer.tapToClick then
    sendMouseButton results true frame.pointer.mode.tapButton w
  else if touch.phase = .END ∧ frame.pointer.tapToClick then
    sendMouseButton results false frame.pointer.mode.tapButton w
  else w

def absoluteTouch [FloatOps F] (frame : Frame F) (w : World F) (touch : TouchState F) : World F :=
  let n : Point F :=
    ⟨touch.position.x / lit frame.contentWidth, touch.position.y / lit frame.contentHeight⟩
  if touch.foreign ∨ frame.pointer.region.misses n then w
  else if touch.phase = .NONE then sendTap results frame touch w
  else
    match frame.localToStream n with
    | none => w
    | some point => sendTap results frame touch (sendMousePosition results frame point w)

/-- What a pan on the touchpad has left is sent once. -/
def sendPan [FloatOps F] (frame : Frame F) (w : World F) : World F :=
  match w.manager.panStatus with
  | none => w
  | some delta =>
    let w := sendRelativeMouseMove results
      ⟨-delta.x * frame.mouseSpeedScale * frame.pointer.sensitivityX,
        -delta.y * frame.mouseSpeedScale * frame.pointer.sensitivityY⟩ frame.rotation w
    { w with manager := { w.manager with panStatus := none } }

def handleTouches [FloatOps F] [Headers] (ignoreTouch : Bool) (frame : Frame F)
    (w : World F) : World F :=
  if ignoreTouch then w
  else if isTrackpadMode frame.pointer.mode then sendPan results frame w
  else if frame.pointer.mode = .MultiTouch then
    frame.touches.zipIdx.foldl (multiTouch results frame) w
  else if isAbsoluteMode frame.pointer.mode then
    frame.touches.foldl (absoluteTouch results frame) w
  else w

def handleInput [FloatOps F] [Headers] (ignoreTouch : Bool) (frame : Frame F) (w : World F) :
    World F :=
  let w := { w with manager := { w.manager with inputDropped := false } }
  let w := handleControllers results frame (frame.specialKey ignoreTouch) w
  let mouseState := frame.mouseState ignoreTouch w.manager.mappingButtons
  let w := sendMouseButtons results frame mouseState w
  let w := sendScroll results frame mouseState.scrollY w
  handleTouches results ignoreTouch frame w

/-! ## The end of a stream and the start of the next -/

def dropController (mask : UInt16) (acc : World F × Bool) (slot : ℕ) : World F × Bool :=
  let sent := acc.1.result results = 0
  let w := acc.1.send results (.multiController slot mask {})
  ({ w with manager := w.manager.setGamepadState slot {} }, acc.2 && sent)

def Manager.forgetDesktop [FloatOps F] (m : Manager F) : Manager F :=
  { m with
    desktopMouseRemainder := ⟨lit 0, lit 0⟩
    desktopScrollRemainder := ⟨lit 0, lit 0⟩
    pendingHorizontalScroll := lit 0
    pendingHorizontalScrollEvents := 0
    desktopScrollAxis := .None
    lastDesktopScrollEvent := 0
    motionFallbackGate := {} }

def cancelTouch [FloatOps F] (w : World F) (id : UInt32) : World F :=
  w.send results (.touch .CANCEL id (lit 0) (lit 0))

def releaseKey [Headers] (w : World F) (key : ℕ) : World F :=
  w.send results (.keyboard (glfwKeyToVKKey key) false 0)

/-- Of the mouse only the left button is released. -/
def dropInput [FloatOps F] [Headers] (reportedControllers : ℤ) (w : World F) : World F :=
  if w.manager.inputDropped then w
  else
    let w := { w with manager := w.manager.forgetDesktop }
    let controllersCount :=
      max (clampControllerCount reportedControllers) w.manager.lastControllerCount
    let activeMask := connectedControllerMask reportedControllers
    let dropped := (List.range controllersCount).foldl (dropController results activeMask) (w, true)
    let w := sendMouseButton results false .left dropped.1
    let w := w.manager.activeTouchIDs.foldl (cancelTouch results) w
    let w := { w with manager := { w.manager with activeTouchIDs := [] } }
    let w := (slots Headers.BRLS_KBD_KEY_SPACE Headers.BRLS_KBD_KEY_LAST).foldl
      (releaseKey results) w
    { w with manager := { w.manager with inputDropped := dropped.2 } }

def announcedCountForNewSession : ℕ := 0

def MouseStateS.initial [FloatOps F] : MouseStateS F := ⟨lit 0, false, false, false⟩

def Manager.resetForNewSession [FloatOps F] (now : ℤ) (m : Manager F) : Manager F :=
  { m.forgetDesktop with
    lastControllerCount := announcedCountForNewSession
    lastGamepadStates := fun _ => {}
    lastBatteryReadings := fun _ => {}
    lastBatterySendMs := fun _ => 0
    lastMouseState := .initial
    lastScrollSentAt := now }

/-- The manager as it is constructed. -/
def Manager.initial [FloatOps F] (mappingButtons : List (ControllerButton × ControllerButton))
    (now : ℤ) : Manager F where
  lastGamepadStates := fun _ => {}
  lastBatteryReadings := fun _ => {}
  lastBatterySendMs := fun _ => 0
  mappingButtons := mappingButtons
  panStatus := none
  activeTouchIDs := []
  desktopMouseRemainder := ⟨lit 0, lit 0⟩
  desktopScrollRemainder := ⟨lit 0, lit 0⟩
  pendingHorizontalScroll := lit 0
  pendingHorizontalScrollEvents := 0
  desktopScrollAxis := .None
  lastDesktopScrollEvent := 0
  inputDropped := false
  inputEnabled := true
  lastControllerCount := 0
  lastMouseState := .initial
  lastScrollSentAt := now
  motionFallbackGate := {}

/-! ## Callbacks -/

/-- 600 ms. -/
def DESKTOP_SCROLL_GESTURE_TIMEOUT : ℤ := 600000000

def MOONLIGHT_WHEEL_DELTA : ℚ := 120

def clampShort (x : ℤ) : ℤ := max (-32768) (min x 32767)

def sendDesktopMouseScroll [FloatOps F] (scroll : Point F) (w : World F) : World F :=
  let m := w.manager
  let x := m.desktopScrollRemainder.x + scroll.x * lit MOONLIGHT_WHEEL_DELTA
  let y := m.desktopScrollRemainder.y + scroll.y * lit MOONLIGHT_WHEEL_DELTA
  let horizontal := clampShort (trunc x)
  let vertical := clampShort (trunc y)
  let w := { w with
    manager := { m with
      desktopScrollRemainder :=
        ⟨if horizontal ≠ 0 then x - lit horizontal else x,
          if vertical ≠ 0 then y - lit vertical else y⟩ } }
  let w :=
    if horizontal ≠ 0 then w.send results (.highResHScroll (Int16.ofInt horizontal)) else w
  if vertical ≠ 0 then w.send results (.highResScroll (Int16.ofInt vertical)) else w

/-- A gesture that has rested starts anew, without an axis. -/
def Manager.desktopGesture [FloatOps F] (now : ℤ) (m : Manager F) : Manager F :=
  let m :=
    if m.lastDesktopScrollEvent = 0 ∨
        DESKTOP_SCROLL_GESTURE_TIMEOUT < now - m.lastDesktopScrollEvent then
      { m with
        desktopScrollAxis := .None
        pendingHorizontalScroll := lit 0
        pendingHorizontalScrollEvents := 0 }
    else m
  { m with lastDesktopScrollEvent := now }

def handleDesktopMouseScroll [FloatOps F] (now : ℤ) (scroll : Point F) (w : World F) : World F :=
  let m := w.manager.desktopGesture now
  if scroll.y != lit 0 ∧ (scroll.x == lit 0 ∨ fabs scroll.x ≤ fabs scroll.y) then
    sendDesktopMouseScroll results ⟨lit 0, scroll.y⟩ { w with
      manager := { m with
        desktopScrollAxis := .Vertical
        pendingHorizontalScroll := lit 0
        pendingHorizontalScrollEvents := 0 } }
  else if scroll.x == lit 0 ∨ m.desktopScrollAxis = .Vertical then { w with manager := m }
  else if m.desktopScrollAxis = .None then
    let pending := m.pendingHorizontalScroll + scroll.x
    let events := m.pendingHorizontalScrollEvents + 1
    -- one tick alone is taken for jitter
    if events < 2 then
      { w with
        manager := { m with
          pendingHorizontalScroll := pending
          pendingHorizontalScrollEvents := events } }
    else
      sendDesktopMouseScroll results ⟨pending, lit 0⟩ { w with
        manager := { m with
          desktopScrollAxis := .Horizontal
          pendingHorizontalScroll := lit 0
          pendingHorizontalScrollEvents := 0 } }
  else sendDesktopMouseScroll results ⟨scroll.x, lit 0⟩ { w with manager := m }

/-- A sample of the console itself has the controller number 255. -/
structure MotionSample (F : Type) where
  controller : UInt8
  gyro : Bool
  x : F
  y : F
  z : F

structure SwitchMotionOptions where
  allowGamepadMotionSensors : Bool
  allowConsoleMotionFallback : Bool

def FALLBACK_DELAY_MS : UInt64 := 500

def MotionFallbackGate.controllerRecentlyActive (gate : MotionFallbackGate) (nowMs : UInt64) :
    Bool :=
  gate.hasControllerSample && (nowMs < gate.lastControllerSampleMs ||
    nowMs - gate.lastControllerSampleMs < FALLBACK_DELAY_MS)

def MotionFallbackGate.shouldForward (gate : MotionFallbackGate) (console : Bool) (nowMs : UInt64)
    (options : SwitchMotionOptions) : MotionFallbackGate × Bool :=
  if options.allowGamepadMotionSensors = false then (gate, false)
  else if console = false then
    ({ gate with lastControllerSampleMs := nowMs, hasControllerSample := true }, true)
  else if options.allowConsoleMotionFallback = false then (gate, false)
  else if gate.hasObservationStart = false then
    ({ gate with observationStartMs := nowMs, hasObservationStart := true }, false)
  else if nowMs < gate.observationStartMs ∨ nowMs - gate.observationStartMs < FALLBACK_DELAY_MS then
    (gate, false)
  else (gate, !gate.controllerRecentlyActive nowMs)

def sendControllerMotion [FloatOps F] (options : SwitchMotionOptions) (nowMs : UInt64)
    (sample : MotionSample F) (w : World F) : World F :=
  let handheldFallback : Bool := sample.controller = 255
  -- rad/s to deg/s
  let value := fun x : F => if sample.gyro then x * lit (572957795 / 10000000) else x
  let gate := w.manager.motionFallbackGate.shouldForward handheldFallback nowMs options
  let w := { w with manager := { w.manager with motionFallbackGate := gate.1 } }
  if gate.2 then
    w.send results (.controllerMotion (if handheldFallback then 0 else sample.controller)
      sample.gyro (value sample.x) (value sample.y) (value sample.z))
  else w

/-- What calls the manager during a stream. -/
inductive Call (F : Type)
  | handleInput (ignoreTouch : Bool) (frame : Frame F)
  | dropInput (reportedControllers : ℤ)
  | updateTouchScreenPanDelta (delta : Point F)
  | mouseCursorOffset (offset : Point F) (mouseSpeedScale : F) (rotation : Rotation)
  | mouseScroll (now : ℤ) (scroll : Point F)
  | keyboardKey (key : ℕ) (pressed : Bool) (modifiers : UInt8)
  | controllerSensor (options : SwitchMotionOptions) (nowMs : UInt64) (sample : MotionSample F)
  | setInputEnabled (enabled : Bool)
  | reloadButtonMappingLayout (mappingButtons : List (ControllerButton × ControllerButton))

def mouseCursorOffset [FloatOps F] (offset : Point F) (mouseSpeedScale : F) (rotation : Rotation)
    (w : World F) : World F :=
  if (offset.x != lit 0 || offset.y != lit 0) ∧ w.manager.inputDropped = false then
    sendRelativeMouseMove results ⟨offset.x * mouseSpeedScale, offset.y * mouseSpeedScale⟩
      rotation w
  else w

/-- The callbacks of the devices do nothing while the input is not enabled. -/
def World.callback (w : World F) (handler : World F → World F) : World F :=
  if w.manager.inputEnabled then handler w else w

def World.call [FloatOps F] [Headers] (w : World F) : Call F → World F
  | .handleInput ignoreTouch frame => handleInput results ignoreTouch frame w
  | .dropInput reportedControllers => dropInput results reportedControllers w
  | .updateTouchScreenPanDelta delta =>
    { w with manager := { w.manager with panStatus := some delta } }
  | .mouseCursorOffset offset mouseSpeedScale rotation =>
    w.callback (mouseCursorOffset results offset mouseSpeedScale rotation)
  | .mouseScroll now scroll => w.callback (handleDesktopMouseScroll results now scroll)
  | .keyboardKey key pressed modifiers =>
    w.callback (World.send results (.keyboard (glfwKeyToVKKey key) pressed modifiers))
  | .controllerSensor options nowMs sample =>
    w.callback (sendControllerMotion results options nowMs sample)
  | .setInputEnabled enabled => { w with manager := { w.manager with inputEnabled := enabled } }
  | .reloadButtonMappingLayout mappingButtons =>
    { w with manager := { w.manager with mappingButtons := mappingButtons } }

/-! ## Numbers and constants with which runs are evaluated -/

/-- Numbers without rounding. -/
structure Exact where
  val : ℚ
  deriving DecidableEq

instance : FloatOps Exact where
  add x y := ⟨x.val + y.val⟩
  sub x y := ⟨x.val - y.val⟩
  mul x y := ⟨x.val * y.val⟩
  div x y := ⟨x.val / y.val⟩
  neg x := ⟨-x.val⟩
  lt x y := x.val < y.val
  le x y := x.val ≤ y.val
  beq x y := x.val = y.val
  decidableLT x y := inferInstanceAs (Decidable (x.val < y.val))
  decidableLE x y := inferInstanceAs (Decidable (x.val ≤ y.val))
  lit x := ⟨x⟩
  trunc x := x.val.num.tdiv x.val.den
  fsqrt_ x := x

/-- The keys of `glfwKeyToVKKey` that do not keep their number. -/
def virtualKeys : List (ℕ × Int16) :=
  [(259, 0x08), (59, 0xBA), (61, 0xBB), (44, 0xBC), (45, 0xBD), (46, 0xBE), (161, 0xE2),
    (47, 0xBF), (96, 0xC0), (91, 0xDB), (92, 0xDC), (93, 0xDD), (39, 0xDE), (258, 0x09),
    (280, 0x14), (340, 0xA0), (344, 0xA1), (341, 0xA2), (345, 0xA3), (342, 0xA4), (346, 0xA5),
    (257, 0x0D), (343, 0x5B), (347, 0x5C), (256, 0x1B), (334, 0x6B), (330, 0x6E), (331, 0x6F),
    (332, 0x6A), (335, 0x0D), (282, 0x90), (281, 0x91), (266, 0x21), (267, 0x22), (269, 0x23),
    (268, 0x24), (263, 0x25), (265, 0x26), (262, 0x27), (264, 0x28), (283, 0x2C), (260, 0x2D),
    (261, 0x2E)]

instance : Headers where
  UP_FLAG := 0x0001
  DOWN_FLAG := 0x0002
  LEFT_FLAG := 0x0004
  RIGHT_FLAG := 0x0008
  PLAY_FLAG := 0x0010
  BACK_FLAG := 0x0020
  LS_CLK_FLAG := 0x0040
  RS_CLK_FLAG := 0x0080
  LB_FLAG := 0x0100
  RB_FLAG := 0x0200
  SPECIAL_FLAG := 0x0400
  A_FLAG := 0x1000
  B_FLAG := 0x2000
  X_FLAG := 0x4000
  Y_FLAG := 0x8000
  LI_ERR_UNSUPPORTED := -5501
  unsupported_ne_zero := by decide
  BRLS_KBD_KEY_SPACE := 32
  BRLS_KBD_KEY_LAST := 348
  glfwKeyToVKKey key :=
    if 290 ≤ key ∧ key ≤ 301 then Int16.ofNat (key - 290 + 0x70)
    else if 320 ≤ key ∧ key ≤ 329 then Int16.ofNat (key - 320 + 0x60)
    else (virtualKeys.lookup key).getD (Int16.ofNat key)

/-- A frame in which nothing is pressed and nothing is touched. -/
def Frame.quiet [FloatOps F] : Frame F where
  reportedControllers := 0
  controllers := fun _ => ⟨fun _ => false, fun _ => lit 0⟩
  unified := ⟨fun _ => false, fun _ => lit 0⟩
  power := fun _ => ⟨⟨0, false, false⟩, none⟩
  steadyNowMs := fun _ => 0
  leftButton := false
  middleButton := false
  rightButton := false
  rawTouches := 0
  touches := []
  timeNow := 0
  pointer := ⟨.Disabled, true, lit 1, lit 1, ⟨lit 0, lit 0, lit 1, lit 1⟩⟩
  swapMouseSticks := false
  swapMouseScroll := false
  swapMouseKeys := false
  deadzoneStickLeft := lit 0
  deadzoneStickRight := lit 0
  guideKeys := []
  mouseSpeedScale := lit 1
  rotation := .Deg0
  localToStream := some
  contentWidth := 1280
  contentHeight := 720

end ArtemisSwitch.Input

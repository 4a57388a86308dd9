import ArtemisSwitch.HostKeyboardShortcuts
import ArtemisSwitch.InputIsolation
import ArtemisSwitch.Library.Brackets

/-!
# The keys that the host holds

A key is pressed by a shortcut, by one of the two on-screen keyboards or by a real keyboard.
Shortcuts are released by a delayed callback, on-screen keys by a later frame with their keyboard,
and the callbacks of several shortcuts overlap.
-/

namespace ArtemisSwitch.Input
open Runs Brackets HostKeyboardShortcuts

/-! ## The calls about keys -/

structure KeyCall where
  key : Int16
  pressed : Bool
  result : Int32
  deriving DecidableEq

section Log

variable {F : Type} {results : ℕ → Int32}

def Send.keyCall : Send F → Int32 → Option KeyCall
  | .keyboard key pressed _, result => some ⟨key, pressed, result⟩
  | _, _ => none

/-- The calls of `LiSendKeyboardEvent` so far. -/
def World.keyLog (w : World F) : List KeyCall := w.sent.filterMap fun e => e.1.keyCall e.2

lemma send_keyLog (e : Send F) (w : World F) :
    (w.send results e).keyLog = w.keyLog ++ (e.keyCall (w.result results)).toList := by
  unfold World.keyLog World.result
  rw [send_sent, List.filterMap_append]
  cases hcall : e.keyCall (results w.sent.length) <;> simp [hcall]

lemma send_keyLog_other {e : Send F} (h : ∀ r, e.keyCall r = none) (w : World F) :
    (w.send results e).keyLog = w.keyLog := by
  rw [send_keyLog, h, Option.toList_none, List.append_nil]

lemma send_keyLog_key (key : Int16) (pressed : Bool) (modifiers : UInt8) (w : World F) :
    (w.send results (.keyboard key pressed modifiers)).keyLog =
      w.keyLog ++ [⟨key, pressed, w.result results⟩] := send_keyLog _ w

end Log

/-- The host hears only calls that succeed. -/
def hearKey (held : Int16 → Bool) (call : KeyCall) : Int16 → Bool :=
  if call.result = 0 then Function.update held call.key call.pressed else held

def keysHeld (calls : List KeyCall) : Int16 → Bool := calls.foldl hearKey fun _ => false

/-- A release of the key has failed. -/
def ReleaseLost (calls : List KeyCall) (key : Int16) : Prop :=
  ∃ call ∈ calls, call.key = key ∧ call.pressed = false ∧ call.result ≠ 0

/-- Every key that is held is one of `owners`, or its release has been lost. -/
def HeldBy (calls : List KeyCall) (owners : Int16 → Prop) : Prop :=
  ∀ key, keysHeld calls key = true → owners key ∨ ReleaseLost calls key

section Owners

variable {calls : List KeyCall} {owners owners' : Int16 → Prop} {key other : Int16} {r : Int32}

lemma keysHeld_concat (calls : List KeyCall) (call : KeyCall) :
    keysHeld (calls ++ [call]) = hearKey (keysHeld calls) call := by
  rw [keysHeld, List.foldl_append]
  rfl

lemma ReleaseLost.append (h : ReleaseLost calls key) (more : List KeyCall) :
    ReleaseLost (calls ++ more) key := by
  obtain ⟨call, hmem, hrest⟩ := h
  exact ⟨call, List.mem_append_left _ hmem, hrest⟩

lemma HeldBy.mono (h : HeldBy calls owners) (hsub : ∀ key, owners key → owners' key) :
    HeldBy calls owners' := fun key hkey => (h key hkey).imp_left (hsub key)

/-- Whoever presses a key owns it. -/
lemma HeldBy.press (h : HeldBy calls owners) (key : Int16) (r : Int32) :
    HeldBy (calls ++ [⟨key, true, r⟩]) fun other => owners other ∨ other = key := by
  intro other hheld
  by_cases hsame : other = key
  · exact .inl (.inr hsame)
  · rw [keysHeld_concat, hearKey] at hheld
    have hbefore : keysHeld calls other = true := by
      split_ifs at hheld
      · rwa [Function.update_of_ne hsame] at hheld
      · exact hheld
    exact (h other hbefore).imp .inl fun hlost => hlost.append _

lemma HeldBy.press_failed (h : HeldBy calls owners) (key : Int16) (hr : r ≠ 0) :
    HeldBy (calls ++ [⟨key, true, r⟩]) owners := by
  intro other hheld
  rw [keysHeld_concat, hearKey, if_neg hr] at hheld
  exact (h other hheld).imp_right fun hlost => hlost.append _

/-- A key that has been released needs no owner. -/
lemma HeldBy.release (h : HeldBy calls owners) (key : Int16) (r : Int32) :
    HeldBy (calls ++ [⟨key, false, r⟩]) fun other => owners other ∧ other ≠ key := by
  intro other hheld
  by_cases hsame : other = key
  · subst hsame
    by_cases hr : r = 0
    · rw [keysHeld_concat, hearKey, if_pos hr, Function.update_self] at hheld
      cases hheld
    · exact .inr ⟨⟨other, false, r⟩, List.mem_concat_self, rfl, rfl, hr⟩
  · rw [keysHeld_concat, hearKey] at hheld
    have hbefore : keysHeld calls other = true := by
      split_ifs at hheld
      · rwa [Function.update_of_ne hsame] at hheld
      · exact hheld
    exact (h other hbefore).imp (fun how => ⟨how, hsame⟩) fun hlost => hlost.append _

end Owners

/-! ## Calls that are not about keys -/

section Others

variable {F : Type} {results : ℕ → Int32}

lemma sendMouseButton_keyLog (pressed : Bool) (button : MouseButton) (w : World F) :
    (sendMouseButton results pressed button w).keyLog = w.keyLog :=
  send_keyLog_other (fun _ => rfl) w

lemma sendMouseButtons_keyLog (frame : Frame F) (mouseState : MouseStateS F) (w : World F) :
    (sendMouseButtons results frame mouseState w).keyLog = w.keyLog := by
  have hwhen : ∀ (now last : Bool) (button : MouseButton) (u : World F),
      (if now ≠ last then sendMouseButton results now button u else u).keyLog = u.keyLog := by
    intro now last button u
    split_ifs
    · exact sendMouseButton_keyLog now button u
    · rfl
  unfold sendMouseButtons
  dsimp only
  rw [hwhen, hwhen, hwhen]
  rfl

lemma sendTap_keyLog (frame : Frame F) (touch : TouchState F) (w : World F) :
    (sendTap results frame touch w).keyLog = w.keyLog := by
  unfold sendTap
  split_ifs
  · exact sendMouseButton_keyLog true _ w
  · exact sendMouseButton_keyLog false _ w
  · rfl

lemma handleControllerBattery_keyLog (frame : Frame F) (slot : ℕ) (w : World F) :
    (handleControllerBattery results frame slot w).keyLog = w.keyLog := by
  unfold handleControllerBattery
  dsimp only
  split_ifs
  · exact send_keyLog_other (fun _ => rfl) _
  · rfl

lemma callback_keyLog {handler : World F → World F} (h : ∀ w, (handler w).keyLog = w.keyLog)
    (w : World F) : (w.callback handler).keyLog = w.keyLog := by
  unfold World.callback
  split_ifs
  · exact h w
  · rfl

variable [FloatOps F]

lemma sendRelativeMouseMove_keyLog (offset : Point F) (rotation : Rotation) (w : World F) :
    (sendRelativeMouseMove results offset rotation w).keyLog = w.keyLog := by
  unfold sendRelativeMouseMove
  dsimp only
  split_ifs
  · rfl
  · exact send_keyLog_other (fun _ => rfl) _

lemma sendScroll_keyLog (frame : Frame F) (scrollY : F) (w : World F) :
    (sendScroll results frame scrollY w).keyLog = w.keyLog := by
  unfold sendScroll
  dsimp only
  by_cases hdue : (scrollY != lit 0) = true ∧ lit 550 - fabs scrollY * lit 500 <
      lit ((frame.timeNow - w.manager.lastScrollSentAt).tdiv 1000000 : ℤ)
  · rw [if_pos hdue]
    exact send_keyLog_other (fun _ => rfl) _
  · rw [if_neg hdue]

lemma sendMousePosition_keyLog (frame : Frame F) (point : Point F) (w : World F) :
    (sendMousePosition results frame point w).keyLog = w.keyLog :=
  send_keyLog_other (fun _ => rfl) w

lemma touchFallback_keyLog (frame : Frame F) (touch : TouchState F) (point : Point F)
    (w : World F) : (touchFallback results frame touch point w).keyLog = w.keyLog := by
  unfold touchFallback
  dsimp only
  split_ifs <;> simp only [sendMouseButton_keyLog, sendMousePosition_keyLog]

lemma absoluteTouch_keyLog (frame : Frame F) (w : World F) (touch : TouchState F) :
    (absoluteTouch results frame w touch).keyLog = w.keyLog := by
  unfold absoluteTouch
  dsimp only
  split_ifs
  · rfl
  · exact sendTap_keyLog frame touch w
  · cases frame.localToStream _ with
    | none => rfl
    | some point =>
      exact (sendTap_keyLog frame touch _).trans (sendMousePosition_keyLog frame point w)

lemma sendPan_keyLog (frame : Frame F) (w : World F) :
    (sendPan results frame w).keyLog = w.keyLog := by
  unfold sendPan
  cases w.manager.panStatus with
  | none => rfl
  | some delta => exact sendRelativeMouseMove_keyLog _ frame.rotation w

lemma sendDesktopMouseScroll_keyLog (scroll : Point F) (w : World F) :
    (sendDesktopMouseScroll results scroll w).keyLog = w.keyLog := by
  have hsend (p : Prop) [Decidable p] {e : Send F} (he : ∀ r, e.keyCall r = none) (u : World F) :
      (if p then u.send results e else u).keyLog = u.keyLog := by
    split_ifs
    · exact send_keyLog_other he u
    · rfl
  unfold sendDesktopMouseScroll
  dsimp only
  rw [hsend _ fun _ => rfl, hsend _ fun _ => rfl]
  rfl

lemma handleDesktopMouseScroll_keyLog (now : ℤ) (scroll : Point F) (w : World F) :
    (handleDesktopMouseScroll results now scroll w).keyLog = w.keyLog := by
  unfold handleDesktopMouseScroll
  dsimp only
  split_ifs
  · exact sendDesktopMouseScroll_keyLog _ _
  · rfl
  · rfl
  · exact sendDesktopMouseScroll_keyLog _ _
  · exact sendDesktopMouseScroll_keyLog _ _

lemma mouseCursorOffset_keyLog (offset : Point F) (mouseSpeedScale : F) (rotation : Rotation)
    (w : World F) :
    (mouseCursorOffset results offset mouseSpeedScale rotation w).keyLog = w.keyLog := by
  unfold mouseCursorOffset
  split_ifs
  · exact sendRelativeMouseMove_keyLog _ rotation w
  · rfl

lemma sendControllerMotion_keyLog (options : SwitchMotionOptions) (nowMs : UInt64)
    (sample : MotionSample F) (w : World F) :
    (sendControllerMotion results options nowMs sample w).keyLog = w.keyLog := by
  unfold sendControllerMotion
  dsimp only
  split_ifs <;> first | exact send_keyLog_other (fun _ => rfl) _ | rfl

variable [Headers]

lemma sendTouch_keyLog (frame : Frame F) (index : ℕ) (touch : TouchState F) (point : Point F)
    (w : World F) : (sendTouch results frame index touch point w).keyLog = w.keyLog := by
  have htold := @send_keyLog_other _ results
    (.touch touch.phase.event touch.fingerId point.x point.y) (fun _ => rfl) w
  unfold sendTouch
  dsimp only
  split_ifs
  · exact (touchFallback_keyLog frame touch point _).trans htold
  · exact htold

lemma multiTouch_keyLog (frame : Frame F) (w : World F) (entry : TouchState F × ℕ) :
    (multiTouch results frame w entry).keyLog = w.keyLog := by
  unfold multiTouch
  dsimp only
  split_ifs
  · rfl
  · cases frame.mapped entry.1 with
    | none => rfl
    | some point => exact sendTouch_keyLog frame entry.2 entry.1 point _

lemma handleTouches_keyLog (ignoreTouch : Bool) (frame : Frame F) (w : World F) :
    (handleTouches results ignoreTouch frame w).keyLog = w.keyLog := by
  unfold handleTouches
  split_ifs
  · rfl
  · exact sendPan_keyLog frame w
  · exact foldl_keeps (multiTouch_keyLog frame) _ w
  · exact foldl_keeps (absoluteTouch_keyLog frame) _ w
  · rfl

lemma updateController_keyLog (frame : Frame F) (specialKey changed : Bool) (mask : UInt16)
    (w : World F) (slot : ℕ) :
    (updateController results frame specialKey changed mask w slot).keyLog = w.keyLog := by
  unfold updateController
  dsimp only
  rw [handleControllerBattery_keyLog]
  split_ifs
  · exact send_keyLog_other (fun _ => rfl) _
  · rfl

lemma handleControllers_keyLog (frame : Frame F) (specialKey : Bool) (w : World F) :
    (handleControllers results frame specialKey w).keyLog = w.keyLog := by
  show ((List.range _).foldl (updateController results frame specialKey _ _) _).keyLog = w.keyLog
  rw [foldl_keeps fun w slot => updateController_keyLog frame specialKey _ _ w slot,
    foldl_keeps (g := World.keyLog) (f := announceController results _) fun w slot =>
      send_keyLog_other (fun _ => rfl) w,
    foldl_keeps (g := World.keyLog) (f := releaseController results _) fun w slot =>
      send_keyLog_other (fun _ => rfl) w]

lemma handleInput_keyLog (ignoreTouch : Bool) (frame : Frame F) (w : World F) :
    (handleInput results ignoreTouch frame w).keyLog = w.keyLog := by
  unfold handleInput
  dsimp only
  rw [handleTouches_keyLog, sendScroll_keyLog, sendMouseButtons_keyLog, handleControllers_keyLog]
  rfl

end Others

/-! ## Shortcuts -/

structure HostKeyEvent where
  virtualKey : Int16 := 0
  pressed : Bool := false
  deriving DecidableEq

def shortcutEvents (keys : List Int16) : List HostKeyEvent :=
  if keys = [] ∨ MaxShortcutKeys < keys.length then []
  else keys.map (⟨·, true⟩) ++ keys.reverse.map (⟨·, false⟩)

inductive DisplayDirection | Left | Right
  deriving DecidableEq

def VirtualKeyLeftWindows : Int16 := 0x5B
def VirtualKeyLeftShift : Int16 := 0xA0
def VirtualKeyLeftArrow : Int16 := 0x25
def VirtualKeyRightArrow : Int16 := 0x27

def moveActiveWindowShortcut (direction : DisplayDirection) : List HostKeyEvent :=
  let arrow := if direction = .Right then VirtualKeyRightArrow else VirtualKeyLeftArrow
  [⟨VirtualKeyLeftWindows, true⟩, ⟨VirtualKeyLeftShift, true⟩, ⟨arrow, true⟩, ⟨arrow, false⟩,
    ⟨VirtualKeyLeftShift, false⟩, ⟨VirtualKeyLeftWindows, false⟩]

def KeyboardCodes : Vector Int16 75 := #v[
  0x08, 0x1B, 0x30, 0x31, 0x32, 0x33, 0x34, 0x35, 0x36, 0x37,
  0x38, 0x39, 0x41, 0x42, 0x43, 0x44, 0x45, 0x46, 0x47, 0x48,
  0x49, 0x4A, 0x4B, 0x4C, 0x4D, 0x4E, 0x4F, 0x50, 0x51, 0x52,
  0x53, 0x54, 0x55, 0x56, 0x57, 0x58, 0x59, 0x5A, 0x0D, 0x20,
  0xA3, 0xA5, 0xA1, 0x5B, 0xBE, 0xBC, 0x70, 0x71, 0x72, 0x73,
  0x74, 0x75, 0x76, 0x77, 0x78, 0x79, 0x7A, 0x7B, 0x09, 0x2E,
  0xBA, 0xBF, 0xC0, 0xDB, 0xDC, 0xDD, 0xDE, 0xBD, 0xBB, 0x28,
  0x25, 0x27, 0x26, 0x14,
  0xE2]

/-- Below `_VK_KEY_MAX`. -/
abbrev KeyboardKeys := Fin 75

/-- The keys of an on-screen keyboard that are down. -/
abbrev KeyboardState := KeyboardKeys → Bool

def getKeyCode (key : KeyboardKeys) : Int16 := KeyboardCodes[key]

/-- The manager with the two `oldKeyboardState`s and the callbacks that wait. -/
structure Desk (F : Type) where
  world : World F
  /-- That of `StreamingView::handleInput`. -/
  viewKeys : KeyboardState := fun _ => false
  /-- That of `StreamingInputOverlay::draw`. -/
  overlayKeys : KeyboardState := fun _ => false
  /-- What each callback releases, in its order. -/
  delayed : List (List Int16) := []
  /-- Not in the source: the keys of the real keyboard that were last told pressed. -/
  deviceKeys : Int16 → Bool := fun _ => false

section Sends

variable {F : Type} (results : ℕ → Int32)

def sendKey (pressed : Bool) (w : World F) (key : Int16) : World F :=
  w.send results (.keyboard key pressed 0)

/-- The first loop of `sendKeyboardShortcut`: whether all keys went through, and those that did. -/
def pressKeys (pressed : List Int16) : List Int16 → World F → Bool × List Int16 × World F
  | [], w => (true, pressed, w)
  | key :: keys, w =>
    if w.result results ≠ 0 then (false, pressed, sendKey results true w key)
    else pressKeys (pressed ++ [key]) keys (sendKey results true w key)

def releaseKeys (keys : List Int16) (w : World F) : World F :=
  keys.foldl (sendKey results false) w

def sendKeyboardShortcut (keys : List Int16) (d : Desk F) : Bool × Desk F :=
  if shortcutEvents keys = [] then (false, d)
  else
    match pressKeys results [] keys d.world with
    | (false, pressed, w) => (false, { d with world := releaseKeys results pressed.reverse w })
    | (true, pressed, w) => (true, { d with world := w, delayed := d.delayed ++ [pressed.reverse] })

def moveActiveWindowToDisplay (moveRight : Bool) (d : Desk F) : Bool × Desk F :=
  let direction := if moveRight then DisplayDirection.Right else .Left
  let events := (moveActiveWindowShortcut direction).filter (·.pressed)
  sendKeyboardShortcut results (events.map (·.virtualKey)) d

/-- The key is released even where its press has failed. -/
def sendClick (key : Int8) (d : Desk F) : Desk F :=
  { d with
    world := sendKey results true d.world key.toInt16
    delayed := d.delayed ++ [[key.toInt16]] }

/-- The callback at a place among those that wait. -/
def runDelayed (i : ℕ) (d : Desk F) : Desk F :=
  { d with
    world := releaseKeys results (d.delayed.getD i []) d.world
    delayed := d.delayed.eraseIdx i }

/-- One turn of the loop over the keys of an on-screen keyboard. -/
def sendChange (keyboardState : KeyboardState) (acc : World F × KeyboardState)
    (i : KeyboardKeys) : World F × KeyboardState :=
  if keyboardState i ≠ acc.2 i then
    (sendKey results (keyboardState i) acc.1 (getKeyCode i),
      Function.update acc.2 i (keyboardState i))
  else acc

def sendChanges (keyboardState oldKeyboardState : KeyboardState) (w : World F) :
    World F × KeyboardState :=
  (List.finRange 75).foldl (sendChange results keyboardState) (w, oldKeyboardState)

/-- What happens to the keys during a stream. -/
inductive DeskStep (F : Type)
  | call (call : Call F)
  | shortcut (keys : List Int16)
  | moveActiveWindow (moveRight : Bool)
  | click (key : Int8)
  | delayed (i : ℕ)
  /-- `StreamingView::handleInput`, with the keyboard if one is shown. -/
  | viewFrame (focused : Bool) (keyboard : Option KeyboardState) (reportedControllers : ℤ)
      (frame : Frame F)
  /-- `StreamingInputOverlay::draw` with its keyboard. -/
  | overlayFrame (keyboardState : KeyboardState)

variable [FloatOps F] [Headers]

/-- What the real keyboard was last told to hold. -/
def Desk.track (d : Desk F) : Call F → Int16 → Bool
  | .keyboardKey key pressed _ =>
    if d.world.manager.inputEnabled then
      Function.update d.deviceKeys (glfwKeyToVKKey key) pressed
    else d.deviceKeys
  | _ => d.deviceKeys

def viewInput (focused : Bool) (keyboard : Option KeyboardState) (reportedControllers : ℤ)
    (frame : Frame F) (d : Desk F) : Desk F :=
  if focused = false then { d with world := dropInput results reportedControllers d.world }
  else
    match keyboard with
    | none => { d with world := handleInput results false frame d.world }
    | some keyboardState =>
      let sent := sendChanges results keyboardState d.viewKeys d.world
      { d with world := handleInput results true frame sent.1, viewKeys := sent.2 }

def Desk.step (d : Desk F) : DeskStep F → Desk F
  | .call call => { d with world := d.world.call results call, deviceKeys := d.track call }
  | .shortcut keys => (sendKeyboardShortcut results keys d).2
  | .moveActiveWindow moveRight => (moveActiveWindowToDisplay results moveRight d).2
  | .click key => sendClick results key d
  | .delayed i => runDelayed results i d
  | .viewFrame focused keyboard reportedControllers frame =>
    viewInput results focused keyboard reportedControllers frame d
  | .overlayFrame keyboardState =>
    let sent := sendChanges results keyboardState d.overlayKeys d.world
    { d with world := sent.1, overlayKeys := sent.2 }

end Sends

/-! ## What the loops send -/

section Loops

variable {F : Type} {results : ℕ → Int32} {owners : Int16 → Prop} {w : World F}

lemma sendKey_keyLog (pressed : Bool) (w : World F) (key : Int16) :
    (sendKey results pressed w key).keyLog = w.keyLog ++ [⟨key, pressed, w.result results⟩] :=
  send_keyLog_key key pressed 0 w

def KeyCall.told (call : KeyCall) : HostKeyEvent := ⟨call.key, call.pressed⟩

/-- The first loop stops at the first key that does not go through. -/
lemma pressKeys_spec (keys pressed : List Int16) (w : World F) :
    ∃ taken failed, (pressKeys results pressed keys w).2.1 = pressed ++ taken ∧
      (pressKeys results pressed keys w).2.2.keyLog =
        w.keyLog ++ taken.map (⟨·, true, 0⟩) ++ failed ∧
      ((pressKeys results pressed keys w).1 = true → keys = taken ∧ failed = []) ∧
      ((pressKeys results pressed keys w).1 = false → ∃ key rest result,
        keys = taken ++ key :: rest ∧ failed = [⟨key, true, result⟩] ∧ result ≠ 0) := by
  induction keys generalizing pressed w with
  | nil => exact ⟨[], [], by simp [pressKeys]⟩
  | cons key keys ih =>
    by_cases hr : w.result results = 0
    · obtain ⟨taken, failed, hpressed, hlog, hdone, hfailed⟩ :=
        ih (pressed ++ [key]) (sendKey results true w key)
      have hstep : pressKeys results pressed (key :: keys) w =
          pressKeys results (pressed ++ [key]) keys (sendKey results true w key) := by
        rw [pressKeys, if_neg (not_not.mpr hr)]
      refine ⟨key :: taken, failed, ?_, ?_, fun h => ?_, fun h => ?_⟩
      · rw [hstep, hpressed, List.append_assoc, List.singleton_append]
      · rw [hstep, hlog, sendKey_keyLog, hr]
        simp
      · rw [hstep] at h
        exact ⟨congrArg (key :: ·) (hdone h).1, (hdone h).2⟩
      · rw [hstep] at h
        obtain ⟨next, rest, result, hkeys, hnext⟩ := hfailed h
        exact ⟨next, rest, result, congrArg (key :: ·) hkeys, hnext⟩
    · have hstep : pressKeys results pressed (key :: keys) w =
          (false, pressed, sendKey results true w key) := by
        rw [pressKeys, if_pos hr]
      refine ⟨[], [⟨key, true, w.result results⟩], ?_, ?_, fun h => ?_, fun _ => ?_⟩
      · rw [hstep, List.append_nil]
      · rw [hstep, sendKey_keyLog, List.map_nil, List.append_nil]
      · rw [hstep] at h
        cases h
      · exact ⟨key, keys, w.result results, rfl, rfl, hr⟩

/-- Whatever goes wrong in the first loop is a press that was refused. -/
lemma pressKeys_log (keys : List Int16) (w : World F) :
    ∃ failed, (pressKeys results [] keys w).2.2.keyLog =
        w.keyLog ++ (pressKeys results [] keys w).2.1.map (⟨·, true, 0⟩) ++ failed ∧
      ∀ call ∈ failed, call.pressed = true ∧ call.result ≠ 0 := by
  obtain ⟨taken, failed, hpressed, hlog, hdone, hfailed⟩ := @pressKeys_spec _ results keys [] w
  rw [List.nil_append] at hpressed
  refine ⟨failed, by rw [hlog, hpressed], ?_⟩
  cases hsent : (pressKeys results [] keys w).1 with
  | true => simp [(hdone hsent).2]
  | false =>
    obtain ⟨key, -, result, -, rfl, hresult⟩ := hfailed hsent
    simpa using hresult

lemma releaseKeys_keyLog (keys : List Int16) (w : World F) :
    ∃ log, (releaseKeys results keys w).keyLog = w.keyLog ++ log ∧
      log.map KeyCall.told = keys.map (⟨·, false⟩) := by
  induction keys generalizing w with
  | nil => exact ⟨[], (List.append_nil _).symm, rfl⟩
  | cons key keys ih =>
    obtain ⟨log, hlog, htold⟩ := ih (sendKey results false w key)
    refine ⟨⟨key, false, w.result results⟩ :: log, ?_, ?_⟩
    · show (releaseKeys results keys (sendKey results false w key)).keyLog = _
      rw [hlog, sendKey_keyLog, List.append_assoc, List.singleton_append]
    · rw [List.map_cons, htold]
      rfl

/-! ## Who owns a key -/

lemma HeldBy.presses {calls : List KeyCall} (h : HeldBy calls owners) (keys : List Int16) :
    HeldBy (calls ++ keys.map (⟨·, true, 0⟩)) fun key => owners key ∨ key ∈ keys := by
  induction keys generalizing calls owners with
  | nil =>
    rw [List.map_nil, List.append_nil]
    exact h.mono fun _ how => .inl how
  | cons key keys ih =>
    have hrest := ih (h.press key 0)
    rw [← List.append_cons] at hrest
    refine hrest.mono fun other how => ?_
    rcases how with (how | rfl) | hmem
    · exact .inl how
    · exact .inr List.mem_cons_self
    · exact .inr (List.mem_cons_of_mem _ hmem)

lemma HeldBy.presses_failed {calls failed : List KeyCall} (h : HeldBy calls owners)
    (hfailed : ∀ call ∈ failed, call.pressed = true ∧ call.result ≠ 0) :
    HeldBy (calls ++ failed) owners := by
  induction failed generalizing calls with
  | nil => rwa [List.append_nil]
  | cons call failed ih =>
    obtain ⟨hpressed, hresult⟩ := hfailed call List.mem_cons_self
    have hfirst := h.press_failed call.key hresult
    rw [← hpressed] at hfirst
    rw [List.append_cons]
    exact ih hfirst fun other hmem => hfailed other (List.mem_cons_of_mem _ hmem)

lemma HeldBy.releaseKeys (h : HeldBy w.keyLog owners) (keys : List Int16) :
    HeldBy (releaseKeys results keys w).keyLog fun key => owners key ∧ key ∉ keys := by
  induction keys generalizing w owners with
  | nil => exact h.mono fun key how => ⟨how, List.not_mem_nil⟩
  | cons key keys ih =>
    have hfirst := h.release key (w.result results)
    rw [← sendKey_keyLog] at hfirst
    refine (ih hfirst).mono fun other how => ⟨how.1.1, fun hmem => ?_⟩
    rcases List.mem_cons.mp hmem with rfl | hmem
    · exact how.1.2 rfl
    · exact how.2 hmem

/-- A memory of an on-screen keyboard owns the keys that it has told pressed. -/
lemma HeldBy.sendChanges {keyboardState oldKeyboardState : KeyboardState}
    (h : HeldBy w.keyLog fun key =>
      (∃ i, getKeyCode i = key ∧ oldKeyboardState i = true) ∨ owners key) :
    HeldBy (sendChanges results keyboardState oldKeyboardState w).1.keyLog fun key =>
      (∃ i, getKeyCode i = key ∧
        (sendChanges results keyboardState oldKeyboardState w).2 i = true) ∨ owners key := by
  refine foldl_invariant (f := sendChange results keyboardState)
    (I := fun acc => HeldBy acc.1.keyLog fun key =>
      (∃ i, getKeyCode i = key ∧ acc.2 i = true) ∨ owners key) ?_ (List.finRange 75) h
  intro acc i hacc
  unfold sendChange
  split_ifs with hchanged
  · dsimp only
    rw [sendKey_keyLog]
    cases hstate : keyboardState i with
    | true =>
      refine (hacc.press _ _).mono fun key how => ?_
      rcases how with (⟨j, hj, hold⟩ | how) | hkey
      · exact .inl ⟨j, hj, by by_cases hji : j = i <;> simp [hji, hold]⟩
      · exact .inr how
      · exact .inl ⟨i, hkey.symm, Function.update_self ..⟩
    | false =>
      refine (hacc.release _ _).mono fun key how => ?_
      refine how.1.imp_left fun ⟨j, hj, hold⟩ => ⟨j, hj, ?_⟩
      -- another key of the keyboard, as its code is another
      have hji : j ≠ i := fun hsame => how.2 (hsame ▸ hj.symm)
      rwa [Function.update_of_ne hji]
  · exact hacc

end Loops

/-- Who will release a key: the memory of an on-screen keyboard, a callback that waits, or the
real keyboard. -/
def Desk.Owns {F : Type} (d : Desk F) (key : Int16) : Prop :=
  (∃ i, getKeyCode i = key ∧ (d.viewKeys i = true ∨ d.overlayKeys i = true)) ∨
    (∃ keys ∈ d.delayed, key ∈ keys) ∨ d.deviceKeys key = true

section Steps

variable {F : Type} {results : ℕ → Int32} {d : Desk F}

def Desk.Held (d : Desk F) : Prop := HeldBy d.world.keyLog d.Owns

lemma sendKeyboardShortcut_held (h : d.Held) (keys : List Int16) :
    (sendKeyboardShortcut results keys d).2.Held := by
  obtain ⟨failed, hlog, hfailed⟩ := @pressKeys_log _ results keys d.world
  have hheld : HeldBy (pressKeys results [] keys d.world).2.2.keyLog fun key =>
      d.Owns key ∨ key ∈ (pressKeys results [] keys d.world).2.1 := by
    rw [hlog]
    exact (HeldBy.presses h _).presses_failed hfailed
  unfold sendKeyboardShortcut
  split_ifs
  · exact h
  · generalize pressKeys results [] keys d.world = r at hheld
    obtain ⟨_ | _, pressed, w⟩ := r
    · refine (hheld.releaseKeys pressed.reverse).mono fun key how => ?_
      exact how.1.resolve_right fun hmem => how.2 (List.mem_reverse.mpr hmem)
    · refine hheld.mono fun key how => ?_
      rcases how with (how | ⟨waiting, hmem, hkey⟩ | how) | how
      · exact .inl how
      · exact .inr (.inl ⟨waiting, List.mem_append_left _ hmem, hkey⟩)
      · exact .inr (.inr how)
      · exact .inr (.inl ⟨pressed.reverse, List.mem_concat_self, List.mem_reverse.mpr how⟩)

lemma sendClick_held (h : d.Held) (key : Int8) : (sendClick results key d).Held := by
  have hheld := h.press key.toInt16 (d.world.result results)
  rw [← sendKey_keyLog] at hheld
  refine hheld.mono fun other how => ?_
  rcases how with (how | ⟨waiting, hmem, hkey⟩ | how) | rfl
  · exact .inl how
  · exact .inr (.inl ⟨waiting, List.mem_append_left _ hmem, hkey⟩)
  · exact .inr (.inr how)
  · exact .inr (.inl ⟨[key.toInt16], List.mem_concat_self, List.mem_singleton_self _⟩)

/-- A callback releases all that it owns. -/
lemma runDelayed_held (h : d.Held) (i : ℕ) : (runDelayed results i d).Held := by
  refine (h.releaseKeys (d.delayed.getD i [])).mono fun key how => ?_
  obtain ⟨how | ⟨waiting, hmem, hkey⟩ | how, hnot⟩ := how
  · exact .inl how
  · refine .inr (.inl ⟨waiting, ?_, hkey⟩)
    obtain ⟨j, hj⟩ := List.mem_iff_getElem?.mp hmem
    refine List.mem_eraseIdx_iff_getElem?.mpr ⟨j, fun hij => hnot ?_, hj⟩
    rw [List.getD_eq_getElem?_getD, ← hij, hj]
    exact hkey
  · exact .inr (.inr how)

lemma sendChanges_held_view (h : d.Held) (keyboardState : KeyboardState) :
    Desk.Held { d with
      world := (sendChanges results keyboardState d.viewKeys d.world).1
      viewKeys := (sendChanges results keyboardState d.viewKeys d.world).2 } := by
  have hheld : HeldBy d.world.keyLog fun key =>
      (∃ i, getKeyCode i = key ∧ d.viewKeys i = true) ∨
        Desk.Owns { d with viewKeys := fun _ => false } key := by
    refine h.mono fun key how => ?_
    obtain ⟨i, hi, hview | hoverlay⟩ | how := how
    · exact .inl ⟨i, hi, hview⟩
    · exact .inr (.inl ⟨i, hi, .inr hoverlay⟩)
    · exact .inr (.inr how)
  refine hheld.sendChanges.mono fun key how => ?_
  obtain ⟨i, hi, hview⟩ | ⟨i, hi, hnone | hoverlay⟩ | how := how
  · exact .inl ⟨i, hi, .inl hview⟩
  · cases hnone
  · exact .inl ⟨i, hi, .inr hoverlay⟩
  · exact .inr how

lemma sendChanges_held_overlay (h : d.Held) (keyboardState : KeyboardState) :
    Desk.Held { d with
      world := (sendChanges results keyboardState d.overlayKeys d.world).1
      overlayKeys := (sendChanges results keyboardState d.overlayKeys d.world).2 } := by
  have hheld : HeldBy d.world.keyLog fun key =>
      (∃ i, getKeyCode i = key ∧ d.overlayKeys i = true) ∨
        Desk.Owns { d with overlayKeys := fun _ => false } key := by
    refine h.mono fun key how => ?_
    obtain ⟨i, hi, hview | hoverlay⟩ | how := how
    · exact .inr (.inl ⟨i, hi, .inl hview⟩)
    · exact .inl ⟨i, hi, hoverlay⟩
    · exact .inr (.inr how)
  refine hheld.sendChanges.mono fun key how => ?_
  obtain ⟨i, hi, hoverlay⟩ | ⟨i, hi, hview | hnone⟩ | how := how
  · exact .inl ⟨i, hi, .inr hoverlay⟩
  · exact .inl ⟨i, hi, .inl hview⟩
  · cases hnone
  · exact .inr how

lemma Desk.Held.of_keyLog {w : World F} (h : d.Held) (hlog : w.keyLog = d.world.keyLog) :
    Desk.Held { d with world := w } := by
  unfold Desk.Held
  rw [hlog]
  exact h

variable [FloatOps F] [Headers]

/-- What is dropped is released. -/
lemma dropInput_held (h : d.Held) (reportedControllers : ℤ) :
    Desk.Held { d with world := dropInput results reportedControllers d.world } := by
  have hrelease (w : World F) (key : ℕ) (hw : HeldBy w.keyLog d.Owns) :
      HeldBy (releaseKey results w key).keyLog d.Owns := by
    unfold releaseKey
    rw [send_keyLog_key]
    exact (hw.release _ _).mono fun _ how => how.1
  unfold dropInput
  split_ifs
  · exact h
  · refine foldl_invariant (f := releaseKey results) (I := fun w => HeldBy w.keyLog d.Owns)
      hrelease (slots _ _) ?_
    show HeldBy (List.foldl (cancelTouch results) _ _).keyLog d.Owns
    rw [foldl_keeps (g := World.keyLog) (f := cancelTouch results) fun w id =>
      send_keyLog_other (fun _ => rfl) w, sendMouseButton_keyLog]
    rw [foldl_keeps (g := fun acc : World F × Bool => acc.1.keyLog)
      (f := dropController results _) fun acc slot => send_keyLog_other (fun _ => rfl) acc.1]
    exact h

lemma keyboardKey_held (h : d.Held) (key : ℕ) (pressed : Bool) (modifiers : UInt8) :
    (d.step results (.call (.keyboardKey key pressed modifiers))).Held := by
  have hstep : d.step results (.call (.keyboardKey key pressed modifiers)) =
      if d.world.manager.inputEnabled then
        { d with
          world := d.world.send results (.keyboard (glfwKeyToVKKey key) pressed modifiers)
          deviceKeys := Function.update d.deviceKeys (glfwKeyToVKKey key) pressed }
      else d := by
    simp only [Desk.step, World.call, World.callback, Desk.track]
    split_ifs <;> rfl
  rw [hstep]
  split_ifs
  · unfold Desk.Held
    rw [send_keyLog_key]
    cases pressed with
    | true =>
      refine (h.press _ _).mono fun other how => ?_
      rcases how with (how | how | how) | rfl
      · exact .inl how
      · exact .inr (.inl how)
      · refine .inr (.inr ?_)
        by_cases hsame : other = glfwKeyToVKKey key <;> simp [hsame, how]
      · exact .inr (.inr (Function.update_self ..))
    | false =>
      refine (h.release _ _).mono fun other how => ?_
      refine how.1.imp_right (Or.imp_right fun hdevice => ?_)
      show Function.update d.deviceKeys _ _ other = true
      rwa [Function.update_of_ne how.2]
  · exact h

lemma step_held (h : d.Held) (step : DeskStep F) : (d.step results step).Held := by
  cases step with
  | shortcut keys => exact sendKeyboardShortcut_held h keys
  | moveActiveWindow moveRight => exact sendKeyboardShortcut_held h _
  | click key => exact sendClick_held h key
  | delayed i => exact runDelayed_held h i
  | overlayFrame keyboardState => exact sendChanges_held_overlay h keyboardState
  | viewFrame focused keyboard reportedControllers frame =>
    show (viewInput results focused keyboard reportedControllers frame d).Held
    unfold viewInput
    split_ifs
    · exact dropInput_held h reportedControllers
    · cases keyboard with
      | none => exact h.of_keyLog (handleInput_keyLog false frame d.world)
      | some keyboardState =>
        exact (sendChanges_held_view h keyboardState).of_keyLog (handleInput_keyLog true frame _)
  | call call =>
    cases call with
    | handleInput ignoreTouch frame => exact h.of_keyLog (handleInput_keyLog ignoreTouch frame _)
    | dropInput reportedControllers => exact dropInput_held h reportedControllers
    | updateTouchScreenPanDelta delta => exact h
    | mouseCursorOffset offset mouseSpeedScale rotation =>
      exact h.of_keyLog
        (callback_keyLog (mouseCursorOffset_keyLog offset mouseSpeedScale rotation) _)
    | mouseScroll now scroll =>
      exact h.of_keyLog (callback_keyLog (handleDesktopMouseScroll_keyLog now scroll) _)
    | keyboardKey key pressed modifiers => exact keyboardKey_held h key pressed modifiers
    | controllerSensor options nowMs sample =>
      exact h.of_keyLog (callback_keyLog (sendControllerMotion_keyLog options nowMs sample) _)
    | setInputEnabled enabled => exact h
    | reloadButtonMappingLayout mappingButtons => exact h

/-- **No key is left held by nobody.**  From the start of a stream, with whatever the keyboards and
the callbacks remember of earlier ones, a key that the host holds will be released by one of
its owners, or one of its releases has been lost. -/
theorem held_keys_have_owners (m : Manager F) (viewKeys overlayKeys : KeyboardState)
    (delayed : List (List Int16)) (steps : List (DeskStep F)) (key : Int16) :
    let d := steps.foldl (Desk.step results)
      { world := ⟨m, []⟩, viewKeys := viewKeys, overlayKeys := overlayKeys, delayed := delayed }
    keysHeld d.world.keyLog key = true → d.Owns key ∨ ReleaseLost d.world.keyLog key := by
  intro d
  have hd : d.Held := foldl_invariant (I := Desk.Held) (fun _ step h => step_held h step) steps
    fun _ hnone => nomatch hnone
  exact hd key

end Steps

/-! ## Shortcuts are nested -/

/-- A press that has failed is none. -/
def KeyCall.event (call : KeyCall) : Option (Event Int16) :=
  if call.pressed = false then some (.released call.key)
  else if call.result = 0 then some (.acquired call.key)
  else none

section Shortcuts

variable {F : Type} {results : ℕ → Int32}

lemma events_presses (keys : List Int16) :
    (keys.map fun key => (⟨key, true, 0⟩ : KeyCall)).filterMap KeyCall.event =
      keys.map .acquired := by
  induction keys with
  | nil => rfl
  | cons key keys ih =>
    have hevent : (⟨key, true, 0⟩ : KeyCall).event = some (.acquired key) := rfl
    rw [List.map_cons, List.filterMap_cons_some hevent, ih]
    rfl

lemma event_failed {key : Int16} {result : Int32} (h : result ≠ 0) :
    (⟨key, true, result⟩ : KeyCall).event = none := by
  rw [KeyCall.event, if_neg (by simp), if_neg h]

lemma events_releases {keys : List Int16} {log : List KeyCall}
    (h : log.map KeyCall.told = keys.map (⟨·, false⟩)) :
    log.filterMap KeyCall.event = keys.map .released := by
  induction log generalizing keys with
  | nil =>
    rw [List.map_nil, eq_comm, List.map_eq_nil_iff] at h
    rw [h]
    rfl
  | cons call log ih =>
    cases keys with
    | nil => cases h
    | cons key keys =>
      rw [List.map_cons, List.map_cons, List.cons.injEq] at h
      obtain ⟨hkey, hpressed⟩ := HostKeyEvent.mk.inj h.1
      have hevent : call.event = some (.released key) := by
        rw [KeyCall.event, if_pos hpressed, hkey]
      rw [List.filterMap_cons_some hevent, ih h.2]
      rfl

lemma heldFrom_acquire_all (keys stack : List Int16) :
    heldFrom stack (keys.map .acquired) = some (keys.reverse ++ stack) := by
  induction keys generalizing stack with
  | nil => rfl
  | cons key keys ih => rw [List.map_cons, heldFrom_acquired, ih]; simp

lemma shortcutEvents_eq {keys : List Int16} (h : shortcutEvents keys ≠ []) :
    shortcutEvents keys = keys.map (⟨·, true⟩) ++ keys.reverse.map (⟨·, false⟩) := by
  unfold shortcutEvents at h ⊢
  split_ifs at h ⊢
  · exact absurd rfl h
  · rfl

/-- Keys are pressed up to one whose press is refused, and those in front of it are released again,
the last one first. -/
def TakenBack (keys : List Int16) (log : List KeyCall) : Prop :=
  ∃ taken key rest result released, keys = taken ++ key :: rest ∧ result ≠ 0 ∧
    log = taken.map (⟨·, true, 0⟩) ++ ⟨key, true, result⟩ :: released ∧
    released.map KeyCall.told = taken.reverse.map (⟨·, false⟩)

/-- Nothing that the calls have pressed is held behind them. -/
def LeavesNone (before log : List KeyCall) : Prop :=
  ∀ call ∈ log, call.pressed = true → call.result = 0 →
    keysHeld (before ++ log) call.key = false

lemma keysHeld_of_released {calls released : List KeyCall}
    (h : ∀ call ∈ released, call.pressed = false ∧ call.result = 0) {call : KeyCall}
    (hmem : call ∈ released) : keysHeld (calls ++ released) call.key = false := by
  induction released using List.reverseRecOn with
  | nil => cases hmem
  | append_singleton released last ih =>
    obtain ⟨hpressed, hresult⟩ := h last List.mem_concat_self
    rw [← List.append_assoc, keysHeld_concat, hearKey, if_pos hresult, hpressed]
    by_cases hkey : call.key = last.key
    · rw [hkey, Function.update_self]
    · rw [Function.update_of_ne hkey]
      refine ih (fun other hother => h other (List.mem_append_left _ hother)) ?_
      rcases List.mem_append.mp hmem with hmem | hmem
      · exact hmem
      · exact absurd (congrArg KeyCall.key (List.mem_singleton.mp hmem)) hkey

lemma TakenBack.leavesNone {keys : List Int16} {before log : List KeyCall}
    (h : TakenBack keys log) (haccepted : ∀ call ∈ log, call.pressed = false → call.result = 0) :
    LeavesNone before log := by
  obtain ⟨taken, key, rest, result, released, -, hresult, rfl, htold⟩ := h
  have hreleases : ∀ call ∈ released, call.pressed = false ∧ call.result = 0 := by
    intro call hcall
    have hmem : call.told ∈ taken.reverse.map (⟨·, false⟩) :=
      htold ▸ List.mem_map_of_mem hcall
    obtain ⟨_, -, heq⟩ := List.mem_map.mp hmem
    have hpressed := (congrArg HostKeyEvent.pressed heq).symm
    exact ⟨hpressed, haccepted call (by simp [hcall]) hpressed⟩
  intro call hcall hpressed hok
  rcases List.mem_append.mp hcall with hcall | hcall
  · -- a key in front of the refused one is among the releases
    obtain ⟨pressedKey, hkey, rfl⟩ := List.mem_map.mp hcall
    have hmem : (⟨pressedKey, false⟩ : HostKeyEvent) ∈ released.map KeyCall.told := by
      rw [htold]
      exact List.mem_map_of_mem (List.mem_reverse.mpr hkey)
    obtain ⟨release, hrelease, heq⟩ := List.mem_map.mp hmem
    have hsame : release.key = pressedKey := congrArg HostKeyEvent.virtualKey heq
    have hoff : ∀ calls, keysHeld (calls ++ released) release.key = false :=
      fun _ => keysHeld_of_released hreleases hrelease
    rw [List.append_cons, ← List.append_assoc]
    rw [hsame] at hoff
    exact hoff _
  · rcases List.mem_cons.mp hcall with rfl | hcall
    · exact absurd hok hresult
    · rw [(hreleases call hcall).1] at hpressed
      cases hpressed

/-- **A shortcut is released in reverse order, whichever press fails.**  Where one is refused, those
before it are taken back, and none of them stays held if their releases are accepted.  Else the
calls, with those of the callback that waits, are the events of the shortcut. -/
theorem shortcut_is_nested (keys : List Int16) (d : Desk F) :
    let r := sendKeyboardShortcut results keys d
    ∃ log, r.2.world.keyLog = d.world.keyLog ++ log ∧
      (r.1 = false → r.2.delayed = d.delayed ∧ held (log.filterMap KeyCall.event) = some [] ∧
        (shortcutEvents keys = [] ∧ log = [] ∨ TakenBack keys log) ∧
        ((∀ call ∈ log, call.pressed = false → call.result = 0) →
          LeavesNone d.world.keyLog log)) ∧
      (r.1 = true → r.2.delayed = d.delayed ++ [keys.reverse] ∧
        held (log.filterMap KeyCall.event) = some keys.reverse ∧
        log.map KeyCall.told ++ keys.reverse.map (⟨·, false⟩) = shortcutEvents keys) := by
  intro r
  by_cases hnone : shortcutEvents keys = []
  · have hr : r = (false, d) := if_pos hnone
    rw [hr]
    exact ⟨[], (List.append_nil _).symm, fun _ => ⟨rfl, rfl, .inl ⟨hnone, rfl⟩, nofun⟩,
      fun hsent => nomatch hsent⟩
  · obtain ⟨taken, failed, hpressed, hlog, hdone, hfailed⟩ :=
      @pressKeys_spec _ results keys [] d.world
    have hr : r = _ := if_neg hnone
    rw [hr]
    generalize pressKeys results [] keys d.world = p at hpressed hlog hdone hfailed
    obtain ⟨_ | _, pressed, w⟩ := p
    · obtain rfl : pressed = taken := hpressed
      obtain ⟨key, rest, result, hkeys, rfl, hresult⟩ := hfailed rfl
      obtain ⟨released, hreleased, htold⟩ := @releaseKeys_keyLog _ results pressed.reverse w
      have hback : TakenBack keys
          (pressed.map (⟨·, true, 0⟩) ++ ⟨key, true, result⟩ :: released) :=
        ⟨pressed, key, rest, result, released, hkeys, hresult, rfl, htold⟩
      refine ⟨pressed.map (⟨·, true, 0⟩) ++ ⟨key, true, result⟩ :: released, ?_,
        fun _ => ⟨rfl, ?_, .inr hback, hback.leavesNone⟩, fun hsent => nomatch hsent⟩
      · show (releaseKeys results pressed.reverse w).keyLog = _
        rw [hreleased, hlog]
        simp only [List.append_assoc, List.singleton_append]
      · rw [List.filterMap_append, List.filterMap_cons_none (event_failed hresult),
          events_presses, events_releases htold, held_append (heldFrom_acquire_all pressed []),
          heldFrom_release_all]
    · obtain ⟨rfl, rfl⟩ := hdone rfl
      obtain rfl : pressed = keys := hpressed
      refine ⟨pressed.map (⟨·, true, 0⟩), ?_, (fun hfailed => nomatch hfailed),
        fun _ => ⟨rfl, ?_, ?_⟩⟩
      · show w.keyLog = _
        rw [hlog, List.append_nil]
      · rw [events_presses, held, heldFrom_acquire_all, List.append_nil]
      · rw [shortcutEvents_eq hnone, List.map_map]
        rfl

end Shortcuts
end ArtemisSwitch.Input

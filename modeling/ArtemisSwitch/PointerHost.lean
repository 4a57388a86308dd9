import ArtemisSwitch.InputHost
import ArtemisSwitch.Library.Writes

/-!
# Mouse buttons and touches of the host

What one call of `handleInput` makes of the buttons and the contacts of the host when all calls of
Limelight succeed, as a function of its inputs.
-/

namespace ArtemisSwitch.Input
open Runs Writes

/-- All calls of Limelight succeed. -/
def succeeds : ℕ → Int32 := fun _ => 0

structure Pressed where
  l : Bool
  m : Bool
  r : Bool
  deriving DecidableEq

/-- The contacts of the host, and the touches that the manager remembers. -/
structure Contacts where
  down : UInt32 → Bool
  ids : List UInt32

/-- The buttons and contacts of the host, and what the manager remembers of them. -/
structure View where
  buttons : MouseButton → Bool
  contacts : Contacts
  pressed : Pressed
  mapping : List (ControllerButton × ControllerButton)
  dropped : Bool

/-- A button that goes down or up, and whether it goes down. -/
abbrev ButtonEvent := MouseButton × Bool

/-- A touch that is handled. -/
structure ContactEvent where
  id : UInt32
  phase : TouchPhase
  /-- It has a point on the stream, so that the host is told. -/
  told : Bool
  deriving DecidableEq

/-- The contact goes down or up. -/
def ContactEvent.changes (e : ContactEvent) : Bool := e.told && e.phase ≠ .STAY

def Contacts.touch (c : Contacts) (e : ContactEvent) : Contacts where
  down := if e.changes then write c.down (e.id, decide (e.phase = .START)) else c.down
  ids := if e.phase ≠ .NONE then insertId e.id c.ids else c.ids.filter (· ≠ e.id)

namespace View

def press (v : View) (e : ButtonEvent) : View := { v with buttons := write v.buttons e }

def touch (v : View) (e : ContactEvent) : View := { v with contacts := v.contacts.touch e }

lemma foldl_press (events : List ButtonEvent) (v : View) :
    events.foldl press v = { v with buttons := events.foldl write v.buttons } := by
  induction events generalizing v with
  | nil => rfl
  | cons e events ih => exact ih (v.press e)

lemma foldl_touch (events : List ContactEvent) (v : View) :
    events.foldl touch v = { v with contacts := events.foldl Contacts.touch v.contacts } := by
  induction events generalizing v with
  | nil => rfl
  | cons e events ih => exact ih (v.touch e)

end View

section Events

variable {F : Type} [FloatOps F]

/-- The buttons that are not as they were, under the names that they have in this frame. -/
def Frame.edges (frame : Frame F) (last now : Pressed) : List ButtonEvent :=
  (if now.l ≠ last.l then [(if frame.swapMouseKeys then .right else .left, now.l)] else []) ++
    (if now.m ≠ last.m then [(.middle, now.m)] else []) ++
    if now.r ≠ last.r then [(if frame.swapMouseKeys then .left else .right, now.r)] else []

/-- The click of a touch in the absolute modes. -/
def Frame.tap (frame : Frame F) (touch : TouchState F) : List ButtonEvent :=
  if touch.phase = .START ∧ frame.pointer.tapToClick then [(frame.pointer.mode.tapButton, true)]
  else if touch.phase = .END ∧ frame.pointer.tapToClick then
    [(frame.pointer.mode.tapButton, false)]
  else []

/-- A click needs a point on the region and on the stream. -/
def Frame.absoluteTap (frame : Frame F) (touch : TouchState F) : List ButtonEvent :=
  if touch.foreign ∨ frame.pointer.region.misses
      ⟨touch.position.x / lit frame.contentWidth, touch.position.y / lit frame.contentHeight⟩ then
    []
  else if (frame.mapped touch).isSome then frame.tap touch
  else []

/-- One call of `handleInput`, and the mapping of the buttons that is loaded by then. -/
structure Poll (F : Type) where
  mappingButtons : List (ControllerButton × ControllerButton)
  ignoreTouch : Bool
  frame : Frame F

namespace Poll

variable (poll : Poll F)

/-- The buttons as the devices have them. -/
def pressed : Pressed :=
  let mouseState := poll.frame.mouseState poll.ignoreTouch poll.mappingButtons
  ⟨mouseState.lPressed, mouseState.mPressed, mouseState.rPressed⟩

def taps : List ButtonEvent :=
  if !poll.ignoreTouch && isAbsoluteMode poll.frame.pointer.mode then
    poll.frame.touches.flatMap poll.frame.absoluteTap
  else []

def buttonEvents (last : Pressed) : List ButtonEvent :=
  poll.frame.edges last poll.pressed ++ poll.taps

def contactEvents : List ContactEvent :=
  if !poll.ignoreTouch && poll.frame.pointer.mode = .MultiTouch then
    (poll.frame.touches.filter (!·.foreign)).map fun touch =>
      ⟨touch.fingerId, touch.phase, (poll.frame.mapped touch).isSome⟩
  else []

end Poll

/-- What a call makes of the view. -/
def View.next (v : View) (poll : Poll F) : View where
  buttons := (poll.buttonEvents v.pressed).foldl write v.buttons
  contacts := poll.contactEvents.foldl Contacts.touch v.contacts
  pressed := poll.pressed
  mapping := poll.mappingButtons
  dropped := false

end Events

/-! ## The calls that leave the view alone -/

section Frames

variable {F : Type} {results : ℕ → Int32}

def World.view (w : World F) : View where
  buttons := w.host.buttons
  contacts := ⟨w.host.contacts, w.manager.activeTouchIDs⟩
  pressed := ⟨w.manager.lastMouseState.lPressed, w.manager.lastMouseState.mPressed,
    w.manager.lastMouseState.rPressed⟩
  mapping := w.manager.mappingButtons
  dropped := w.manager.inputDropped

/-- A call that is about no button and no contact. -/
lemma send_view {e : Send F} (h : ∀ host : Host,
    (host.receive e).buttons = host.buttons ∧ (host.receive e).contacts = host.contacts)
    (w : World F) : (w.send results e).view = w.view := by
  have hhear : (w.host.hear (e, w.result results)).buttons = w.host.buttons ∧
      (w.host.hear (e, w.result results)).contacts = w.host.contacts := by
    unfold Host.hear
    split_ifs
    · exact h w.host
    · exact ⟨rfl, rfl⟩
  unfold World.view
  rw [send_host, hhear.1, hhear.2, send_manager]

lemma handleControllerBattery_view (frame : Frame F) (slot : ℕ) (w : World F) :
    (handleControllerBattery results frame slot w).view = w.view := by
  unfold handleControllerBattery
  dsimp only
  split_ifs
  · exact send_view (fun _ => ⟨rfl, rfl⟩) _
  · rfl

lemma releaseController_view (mask : UInt16) (w : World F) (slot : ℕ) :
    (releaseController results mask w slot).view = w.view :=
  send_view (e := .multiController slot mask {}) (fun _ => ⟨rfl, rfl⟩) w

lemma announceController_view (mask : UInt16) (w : World F) (slot : ℕ) :
    (announceController results mask w slot).view = w.view :=
  send_view (e := .controllerArrival slot mask) (fun _ => ⟨rfl, rfl⟩) w

variable [FloatOps F]

lemma sendRelativeMouseMove_view (offset : Point F) (rotation : Rotation) (w : World F) :
    (sendRelativeMouseMove results offset rotation w).view = w.view := by
  unfold sendRelativeMouseMove
  dsimp only
  split_ifs
  · rfl
  · exact send_view (fun _ => ⟨rfl, rfl⟩) _

lemma sendScroll_view (frame : Frame F) (scrollY : F) (w : World F) :
    (sendScroll results frame scrollY w).view = w.view := by
  unfold sendScroll
  dsimp only
  by_cases hdue : (scrollY != lit 0) = true ∧ lit 550 - fabs scrollY * lit 500 <
      lit ((frame.timeNow - w.manager.lastScrollSentAt).tdiv 1000000 : ℤ)
  · rw [if_pos hdue]
    exact send_view (fun _ => ⟨rfl, rfl⟩) _
  · rw [if_neg hdue]

lemma sendMousePosition_view (frame : Frame F) (point : Point F) (w : World F) :
    (sendMousePosition results frame point w).view = w.view :=
  send_view (fun _ => ⟨rfl, rfl⟩) w

lemma sendPan_view (frame : Frame F) (w : World F) :
    (sendPan results frame w).view = w.view := by
  unfold sendPan
  cases w.manager.panStatus with
  | none => rfl
  | some delta => exact sendRelativeMouseMove_view _ frame.rotation w

variable [Headers]

lemma updateController_view (frame : Frame F) (specialKey changed : Bool) (mask : UInt16)
    (w : World F) (slot : ℕ) :
    (updateController results frame specialKey changed mask w slot).view = w.view := by
  unfold updateController
  dsimp only
  rw [handleControllerBattery_view]
  split_ifs
  · exact send_view (fun _ => ⟨rfl, rfl⟩) _
  · rfl

lemma handleControllers_view (frame : Frame F) (specialKey : Bool) (w : World F) :
    (handleControllers results frame specialKey w).view = w.view := by
  show ((List.range _).foldl (updateController results frame specialKey _ _) _).view = w.view
  rw [foldl_keeps (updateController_view frame specialKey _ _),
    foldl_keeps (announceController_view _), foldl_keeps (releaseController_view _)]

end Frames

/-! ## The calls that it is about -/

section Told

variable {F : Type}

lemma send_host_succeeds (e : Send F) (w : World F) :
    (w.send succeeds e).host = w.host.receive e := by
  rw [send_host, hear_zero rfl]

lemma sendMouseButton_view (pressed : Bool) (button : MouseButton) (w : World F) :
    (sendMouseButton succeeds pressed button w).view = w.view.press (button, pressed) := by
  unfold sendMouseButton World.view View.press
  rw [send_host_succeeds]
  cases pressed <;> rfl

lemma touch_view (touch : TouchState F) (point : Point F) (w : World F) :
    (World.send succeeds (.touch touch.phase.event touch.fingerId point.x point.y)
        { w with manager := w.manager.trackTouch touch }).view =
      w.view.touch ⟨touch.fingerId, touch.phase, true⟩ := by
  unfold World.view View.touch Manager.trackTouch
  rw [send_host_succeeds]
  cases touch.phase <;> rfl

lemma trackTouch_view (touch : TouchState F) (w : World F) :
    ({ w with manager := w.manager.trackTouch touch } : World F).view =
      w.view.touch ⟨touch.fingerId, touch.phase, false⟩ := rfl

lemma sendTap_view (frame : Frame F) (touch : TouchState F) (w : World F) :
    (sendTap succeeds frame touch w).view = (frame.tap touch).foldl View.press w.view := by
  unfold sendTap Frame.tap
  split_ifs
  · exact sendMouseButton_view true _ w
  · exact sendMouseButton_view false _ w
  · rfl

lemma pressWhen_view (now last : Bool) (button : MouseButton) (w : World F) :
    (if now ≠ last then sendMouseButton succeeds now button w else w).view =
      (if now ≠ last then [(button, now)] else []).foldl View.press w.view := by
  split_ifs
  · exact sendMouseButton_view now button w
  · rfl

lemma sendMouseButtons_view (frame : Frame F) (mouseState : MouseStateS F) (w : World F) :
    (sendMouseButtons succeeds frame mouseState w).view =
      (frame.edges w.view.pressed ⟨mouseState.lPressed, mouseState.mPressed,
        mouseState.rPressed⟩).foldl View.press
        { w.view with
          pressed := ⟨mouseState.lPressed, mouseState.mPressed, mouseState.rPressed⟩ } := by
  unfold sendMouseButtons Frame.edges
  dsimp only
  rw [List.foldl_append, List.foldl_append, pressWhen_view, pressWhen_view, pressWhen_view]
  rfl

variable [FloatOps F]

lemma absoluteTouch_view (frame : Frame F) (w : World F) (touch : TouchState F) :
    (absoluteTouch succeeds frame w touch).view =
      (frame.absoluteTap touch).foldl View.press w.view := by
  unfold absoluteTouch Frame.absoluteTap
  dsimp only
  split_ifs with hskip hnone hsome hsome
  · rfl
  · exact sendTap_view frame touch w
  · -- a phase that neither starts nor ends a touch is no click
    have htap : frame.tap touch = [] := by simp [Frame.tap, hnone]
    rw [sendTap_view, htap]
  · obtain ⟨point, hpoint⟩ := Option.isSome_iff_exists.mp hsome
    unfold Frame.mapped at hpoint
    rw [hpoint]
    exact (sendTap_view frame touch _).trans (by rw [sendMousePosition_view])
  · rw [Option.not_isSome_iff_eq_none] at hsome
    unfold Frame.mapped at hsome
    rw [hsome]
    rfl

lemma absoluteTouches_view (frame : Frame F) (touches : List (TouchState F)) (w : World F) :
    (touches.foldl (absoluteTouch succeeds frame) w).view =
      (touches.flatMap frame.absoluteTap).foldl View.press w.view := by
  rw [List.foldl_flatMap]
  exact (List.foldl_hom World.view fun w touch => (absoluteTouch_view frame w touch).symm).symm

variable [Headers]

lemma multiTouch_view (frame : Frame F) (w : World F) (entry : TouchState F × ℕ) :
    (multiTouch succeeds frame w entry).view =
      if entry.1.foreign then w.view
      else w.view.touch ⟨entry.1.fingerId, entry.1.phase, (frame.mapped entry.1).isSome⟩ := by
  unfold multiTouch
  dsimp only
  split_ifs
  · rfl
  · cases frame.mapped entry.1 with
    | none => exact trackTouch_view entry.1 w
    | some point =>
      have hsupported : ¬(World.result succeeds ⟨w.manager.trackTouch entry.1, w.sent⟩ =
          LI_ERR_UNSUPPORTED ∧ entry.2 = 0) := fun h => Headers.unsupported_ne_zero h.1.symm
      show (sendTouch succeeds frame entry.2 entry.1 point _).view = _
      rw [sendTouch, if_neg hsupported]
      exact touch_view entry.1 point w

/-! ## A whole call -/

lemma multiTouches_view (frame : Frame F) (touches : List (TouchState F)) (w : World F) :
    (touches.zipIdx.foldl (multiTouch succeeds frame) w).view =
      ((touches.filter (!·.foreign)).map fun touch =>
        ⟨touch.fingerId, touch.phase, (frame.mapped touch).isSome⟩).foldl View.touch w.view := by
  let tell : View → TouchState F → View := fun v touch =>
    if !touch.foreign then
      v.touch ⟨touch.fingerId, touch.phase, (frame.mapped touch).isSome⟩
    else v
  have htouch : ∀ (v : World F) (entry : TouchState F × ℕ),
      tell v.view entry.1 = (multiTouch succeeds frame v entry).view := by
    intro v entry
    rw [multiTouch_view]
    unfold tell
    cases entry.1.foreign <;> rfl
  calc (touches.zipIdx.foldl (multiTouch succeeds frame) w).view
      = touches.zipIdx.foldl (fun v entry => tell v entry.1) w.view :=
        (List.foldl_hom World.view htouch).symm
    _ = touches.foldl tell w.view := by
        rw [← List.foldl_map (f := Prod.fst), List.zipIdx_map_fst]
    _ = _ := by rw [List.foldl_map, List.foldl_filter]

lemma handleTouches_view (poll : Poll F) (w : World F) :
    (handleTouches succeeds poll.ignoreTouch poll.frame w).view =
      poll.contactEvents.foldl View.touch (poll.taps.foldl View.press w.view) := by
  unfold handleTouches Poll.contactEvents Poll.taps
  cases hignore : poll.ignoreTouch with
  | true => rfl
  | false =>
    cases hmode : poll.frame.pointer.mode with
    | MultiTouch => exact multiTouches_view poll.frame poll.frame.touches w
    | Absolute => exact absoluteTouches_view poll.frame poll.frame.touches w
    | AbsoluteSwapped => exact absoluteTouches_view poll.frame poll.frame.touches w
    | TrackpadNatural => exact sendPan_view poll.frame w
    | TrackpadGaming => exact sendPan_view poll.frame w
    | Disabled => rfl

/-- The calls of a session: the mapping is loaded, then the devices are read. -/
def World.poll (w : World F) (poll : Poll F) : World F :=
  (w.call succeeds (.reloadButtonMappingLayout poll.mappingButtons)).call succeeds
    (.handleInput poll.ignoreTouch poll.frame)

theorem poll_view (w : World F) (poll : Poll F) : (w.poll poll).view = w.view.next poll := by
  obtain ⟨mapping, ignoreTouch, frame⟩ := poll
  let start : World F :=
    { w with manager := { w.manager with mappingButtons := mapping, inputDropped := false } }
  let controlled := handleControllers succeeds frame (frame.specialKey ignoreTouch) start
  have hcontrolled : controlled.view = start.view := handleControllers_view frame _ start
  have hmapping : controlled.manager.mappingButtons = mapping :=
    congrArg View.mapping hcontrolled
  show (handleTouches succeeds ignoreTouch frame (sendScroll succeeds frame _
    (sendMouseButtons succeeds frame
      (frame.mouseState ignoreTouch controlled.manager.mappingButtons) controlled))).view = _
  rw [handleTouches_view ⟨mapping, ignoreTouch, frame⟩, sendScroll_view, sendMouseButtons_view,
    hcontrolled, hmapping, ← List.foldl_append, View.foldl_touch, View.foldl_press]
  rfl

end Told

end ArtemisSwitch.Input

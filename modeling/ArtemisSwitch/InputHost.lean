import ArtemisSwitch.InputManager
import ArtemisSwitch.Library.Runs

/-!
# What the host has been told

The state of the host as the calls of Limelight that have succeeded give it, and what one call of
`handleControllers` makes of it and of the memory, slot by slot.
-/

namespace ArtemisSwitch.Input
open Runs

/-- What the host holds. -/
structure Host where
  /-- The last state of every controller. -/
  pads : ℕ → Option GamepadState := fun _ => none
  arrived : ℕ → Bool := fun _ => false
  /-- The controller had arrived when its last state came. -/
  introduced : ℕ → Bool := fun _ => false
  buttons : MouseButton → Bool := fun _ => false
  contacts : UInt32 → Bool := fun _ => false

section Memory

variable {F : Type} {results : ℕ → Int32} {w : World F}

/-- A contact is down from `DOWN` to `UP` or `CANCEL`. -/
def Host.receive (host : Host) : Send F → Host
  | .controllerArrival slot _ => { host with arrived := Function.update host.arrived slot true }
  | .multiController slot _ state =>
    { host with
      pads := Function.update host.pads slot (some state)
      introduced := Function.update host.introduced slot (host.arrived slot) }
  | .mouseButton action button =>
    { host with buttons := Function.update host.buttons button (action = .press) }
  | .touch .DOWN id _ _ => { host with contacts := Function.update host.contacts id true }
  | .touch .UP id _ _ => { host with contacts := Function.update host.contacts id false }
  | .touch .CANCEL id _ _ => { host with contacts := Function.update host.contacts id false }
  | _ => host

def Host.hear (host : Host) (entry : Send F × Int32) : Host :=
  if entry.2 = 0 then host.receive entry.1 else host

def World.host (w : World F) : Host := w.sent.foldl Host.hear {}

lemma send_host (e : Send F) (w : World F) :
    (w.send results e).host = w.host.hear (e, w.result results) := by
  rw [World.host, send_sent, List.foldl_append]
  rfl

lemma hear_zero {host : Host} {entry : Send F × Int32} (h : entry.2 = 0) :
    host.hear entry = host.receive entry.1 := if_pos h

/-- The slot that an arrival or a state is about. -/
def Send.about : Send F → Option ℕ
  | .controllerArrival slot _ => some slot
  | .multiController slot _ _ => some slot
  | _ => none

/-- No arrival and no state of a controller has been lost so far. -/
def World.Delivered (w : World F) : Prop :=
  ∀ entry ∈ w.sent, entry.1.about ≠ none → entry.2 = 0

instance (w : World F) : Decidable w.Delivered :=
  inferInstanceAs (Decidable (∀ entry ∈ w.sent, entry.1.about ≠ none → entry.2 = 0))

/-- The log only grows. -/
lemma Delivered.of_extends {w' : World F} (hfront : w.sent <+: w'.sent) (h : w'.Delivered) :
    w.Delivered := fun entry hmem => h entry (hfront.subset hmem)

lemma send_extends (e : Send F) (w : World F) : w.sent <+: (w.send results e).sent :=
  List.prefix_append _ _

lemma result_of_delivered {e : Send F} (h : (w.send results e).Delivered)
    (he : e.about ≠ none) : w.result results = 0 :=
  h (e, w.result results) (List.mem_append_right _ List.mem_cons_self) he

/-! ## Slots -/

/-- What the host and the manager hold for one slot. -/
structure Slot where
  received : Option GamepadState
  arrived : Bool
  introduced : Bool
  remembered : GamepadState

namespace Slot

/-- A state is remembered and received. -/
def tell (s : Slot) (state : GamepadState) : Slot :=
  { s with received := some state, introduced := s.arrived, remembered := state }

def announce (s : Slot) : Slot := { s with arrived := true }

def update (s : Slot) (changed : Bool) (state : GamepadState) : Slot :=
  if changed ∨ state ≠ s.remembered then s.tell state else s

end Slot

def World.slot (w : World F) (j : ℕ) : Slot where
  received := w.host.pads j
  arrived := w.host.arrived j
  introduced := w.host.introduced j
  remembered := w.manager.lastGamepadStates j

/-- Only calls about the slot itself change what the host holds for it. -/
lemma send_slot_other {e : Send F} {j : ℕ} (h : e.about ≠ some j) (w : World F) :
    (w.send results e).slot j = w.slot j := by
  have hhear : (w.host.hear (e, w.result results)).pads j = w.host.pads j ∧
      (w.host.hear (e, w.result results)).arrived j = w.host.arrived j ∧
      (w.host.hear (e, w.result results)).introduced j = w.host.introduced j := by
    unfold Host.hear
    split_ifs
    · cases e with
      | controllerArrival slot mask =>
        have hne : j ≠ slot := fun heq => h (congrArg some heq.symm)
        exact ⟨rfl, Function.update_of_ne hne _ _, rfl⟩
      | multiController slot mask state =>
        have hne : j ≠ slot := fun heq => h (congrArg some heq.symm)
        exact ⟨Function.update_of_ne hne _ _, rfl, Function.update_of_ne hne _ _⟩
      | touch event id x y => cases event <;> exact ⟨rfl, rfl, rfl⟩
      | _ => exact ⟨rfl, rfl, rfl⟩
    · exact ⟨rfl, rfl, rfl⟩
  unfold World.slot
  rw [send_host, hhear.1, hhear.2.1, hhear.2.2, send_manager]

lemma send_state_slot {slot : ℕ} {mask : UInt16} {state : GamepadState}
    (h : w.result results = 0) (hremembered : w.manager.lastGamepadStates slot = state) :
    (w.send results (.multiController slot mask state)).slot slot = (w.slot slot).tell state := by
  unfold World.slot Slot.tell
  rw [send_host, hear_zero h, send_manager, hremembered]
  simp [Host.receive]

lemma send_arrival_slot {slot : ℕ} {mask : UInt16} (h : w.result results = 0) :
    (w.send results (.controllerArrival slot mask)).slot slot = (w.slot slot).announce := by
  unfold World.slot Slot.announce
  rw [send_host, hear_zero h, send_manager]
  simp [Host.receive]

/-! ## The steps of `handleControllers` -/

/-- The battery is no part of a slot. -/
lemma handleControllerBattery_slot (frame : Frame F) (slot : ℕ) (w : World F) (j : ℕ) :
    (handleControllerBattery results frame slot w).slot j = w.slot j := by
  unfold handleControllerBattery
  dsimp only
  split_ifs
  · exact send_slot_other (by simp [Send.about]) _
  · rfl

lemma handleControllerBattery_extends (frame : Frame F) (slot : ℕ) (w : World F) :
    w.sent <+: (handleControllerBattery results frame slot w).sent := by
  unfold handleControllerBattery
  dsimp only
  split_ifs
  · exact send_extends _ _
  · exact List.prefix_refl _

/-- A memory that has changed at another slot. -/
lemma setGamepadState_slot_other (w : World F) (state : GamepadState) {slot j : ℕ} (h : slot ≠ j) :
    (⟨w.manager.setGamepadState slot state, w.sent⟩ : World F).slot j = w.slot j := by
  show ({ w.slot j with
    remembered := Function.update w.manager.lastGamepadStates slot state j } : Slot) = w.slot j
  rw [Function.update_of_ne h.symm]
  rfl

lemma releaseController_other (mask : UInt16) (w : World F) {slot j : ℕ} (h : slot ≠ j) :
    (releaseController results mask w slot).slot j = w.slot j := by
  have hsend : (w.send results (.multiController slot mask {})).slot j = w.slot j :=
    send_slot_other (by simpa [Send.about] using h) w
  rw [← hsend]
  exact setGamepadState_slot_other _ {} h

lemma releaseController_own (mask : UInt16) (w : World F) (slot : ℕ)
    (h : (releaseController results mask w slot).Delivered) :
    (releaseController results mask w slot).slot slot = (w.slot slot).tell {} := by
  have hresult : w.result results = 0 :=
    result_of_delivered (e := .multiController slot mask {}) h (by simp [Send.about])
  have hremembered : (w.manager.setGamepadState slot {}).lastGamepadStates slot = {} :=
    Function.update_self slot _ w.manager.lastGamepadStates
  exact send_state_slot (w := ⟨w.manager.setGamepadState slot {}, w.sent⟩) hresult hremembered

lemma announceController_other (mask : UInt16) (w : World F) {slot j : ℕ} (h : slot ≠ j) :
    (announceController results mask w slot).slot j = w.slot j := by
  have hsend : (w.send results (.controllerArrival slot mask)).slot j = w.slot j :=
    send_slot_other (by simpa [Send.about] using h) w
  exact hsend

lemma announceController_own (mask : UInt16) (w : World F) (slot : ℕ)
    (h : (announceController results mask w slot).Delivered) :
    (announceController results mask w slot).slot slot = (w.slot slot).announce := by
  have hresult : w.result results = 0 :=
    result_of_delivered (e := .controllerArrival slot mask) h (by simp [Send.about])
  exact @send_arrival_slot _ _ _ slot mask hresult

variable [FloatOps F] [Headers]

/-- The state of a controller depends on the mapping and on what is remembered of its slot. -/
lemma getControllerState_congr {m m' : Manager F} {slot : ℕ}
    (hmapping : m.mappingButtons = m'.mappingButtons)
    (hlast : m.lastGamepadStates slot = m'.lastGamepadStates slot) (frame : Frame F)
    (specialKey : Bool) :
    getControllerState m frame slot specialKey = getControllerState m' frame slot specialKey := by
  unfold getControllerState
  rw [hmapping, hlast]

variable {frame : Frame F} {specialKey changed : Bool} {mask : UInt16}

lemma updateController_other (w : World F) {slot j : ℕ} (h : slot ≠ j) :
    (updateController results frame specialKey changed mask w slot).slot j = w.slot j := by
  unfold updateController
  dsimp only
  rw [handleControllerBattery_slot]
  split_ifs
  · rw [send_slot_other (by simpa [Send.about] using h)]
    exact setGamepadState_slot_other w _ h
  · rfl

lemma updateController_own (w : World F) (slot : ℕ)
    (h : (updateController results frame specialKey changed mask w slot).Delivered) :
    (updateController results frame specialKey changed mask w slot).slot slot =
      (w.slot slot).update changed
        (getControllerState w.manager frame slot (specialKey && slot = 0)) := by
  unfold updateController at h ⊢
  dsimp only at h ⊢
  rw [handleControllerBattery_slot]
  have hsent := Delivered.of_extends (handleControllerBattery_extends frame slot _) h
  unfold Slot.update
  split_ifs at hsent ⊢ with hsend hupdate hupdate
  · have hremembered := fun state =>
      Function.update_self slot state w.manager.lastGamepadStates
    exact send_state_slot (result_of_delivered hsent (by simp [Send.about])) (hremembered _)
  · exact absurd hsend hupdate
  · exact absurd hupdate hsend
  · rfl

/-! ## The loops -/

omit [FloatOps F] [Headers] in
/-- A step of a loop over the slots: it is about one slot, and the mapping stays. -/
structure SlotStep (step : World F → ℕ → World F) : Prop where
  other : ∀ w {slot j}, slot ≠ j → (step w slot).slot j = w.slot j
  grows : ∀ w slot, w.sent <+: (step w slot).sent
  mapping : ∀ w slot, (step w slot).manager.mappingButtons = w.manager.mappingButtons

omit [FloatOps F] [Headers] in
lemma SlotStep.foldl_grows {step : World F → ℕ → World F} (hs : SlotStep step) (l : List ℕ)
    (w : World F) : w.sent <+: (l.foldl step w).sent := by
  induction l generalizing w with
  | nil => exact List.prefix_refl _
  | cons slot l ih => exact (hs.grows w slot).trans (ih (step w slot))

omit [FloatOps F] [Headers] in
/-- What a loop makes of a slot is what the slot's own step makes of it. -/
lemma SlotStep.foldl_slot {step : World F → ℕ → World F} (hs : SlotStep step) {l : List ℕ}
    (hnodup : l.Nodup) {j : ℕ} {next : Slot → Slot}
    (hown : ∀ u : World F, u.manager.mappingButtons = w.manager.mappingButtons →
      u.slot j = w.slot j → (step u j).Delivered → (step u j).slot j = next (w.slot j))
    (h : (l.foldl step w).Delivered) :
    (l.foldl step w).slot j = if j ∈ l then next (w.slot j) else w.slot j := by
  have hkeeps : ∀ (v : Slot) u slot, slot ≠ j →
      (u.manager.mappingButtons = w.manager.mappingButtons ∧ (u.Delivered → u.slot j = v)) →
      (step u slot).manager.mappingButtons = w.manager.mappingButtons ∧
        ((step u slot).Delivered → (step u slot).slot j = v) := by
    intro v u slot hne hu
    refine ⟨(hs.mapping u slot).trans hu.1, fun hdelivered => ?_⟩
    rw [hs.other u hne]
    exact hu.2 (Delivered.of_extends (hs.grows u slot) hdelivered)
  split_ifs with hmem
  · refine (foldl_at (hkeeps (w.slot j)) (fun u hu => ?_) (hkeeps (next (w.slot j))) hmem hnodup
      ⟨rfl, fun _ => rfl⟩).2 h
    refine ⟨(hs.mapping u j).trans hu.1, fun hdelivered => ?_⟩
    exact hown u hu.1 (hu.2 (Delivered.of_extends (hs.grows u j) hdelivered)) hdelivered
  · exact (foldl_other (hkeeps (w.slot j)) hmem ⟨rfl, fun _ => rfl⟩).2 h

omit [FloatOps F] [Headers] in
lemma releaseController_step (results : ℕ → Int32) (mask : UInt16) :
    SlotStep (releaseController (F := F) results mask) where
  other w _ _ h := releaseController_other mask w h
  grows w slot := send_extends (.multiController slot mask {}) w
  mapping _ _ := rfl

omit [FloatOps F] [Headers] in
lemma announceController_step (results : ℕ → Int32) (mask : UInt16) :
    SlotStep (announceController (F := F) results mask) where
  other w _ _ h := announceController_other mask w h
  grows w slot := send_extends (.controllerArrival slot mask) w
  mapping _ _ := rfl

omit [FloatOps F] [Headers] in
lemma handleControllerBattery_mapping (frame : Frame F) (slot : ℕ) (w : World F) :
    (handleControllerBattery results frame slot w).manager.mappingButtons =
      w.manager.mappingButtons := by
  unfold handleControllerBattery
  dsimp only
  split_ifs <;> rfl

lemma updateController_step (results : ℕ → Int32) (frame : Frame F) (specialKey changed : Bool)
    (mask : UInt16) : SlotStep (updateController results frame specialKey changed mask) where
  other w _ _ h := updateController_other w h
  grows w slot := by
    refine List.IsPrefix.trans ?_ (handleControllerBattery_extends frame slot _)
    split_ifs
    · exact send_extends (.multiController slot mask _) _
    · exact List.prefix_refl _
  mapping w slot := by
    unfold updateController
    dsimp only
    rw [handleControllerBattery_mapping]
    split_ifs <;> rfl

omit [FloatOps F] [Headers] in
lemma mem_slots {first last j : ℕ} : j ∈ slots first last ↔ first ≤ j ∧ j < last := by
  unfold slots
  rw [List.mem_range'_1]
  omega

/-- What a frame makes of a slot. -/
def Slot.next (s : Slot) (old count j : ℕ) (state : GamepadState) : Slot :=
  if j < count then
    if old ≤ j then s.announce.update (old ≠ count) state else s.update (old ≠ count) state
  else if j < old then s.tell {}
  else s

/-- The state of a controller at the start of a frame. -/
def currentState (m : Manager F) (frame : Frame F) (specialKey : Bool) (j : ℕ) : GamepadState :=
  getControllerState m frame j (specialKey && j = 0)

lemma currentState_congr {m m' : Manager F} {j : ℕ}
    (hmapping : m.mappingButtons = m'.mappingButtons)
    (hlast : m.lastGamepadStates j = m'.lastGamepadStates j) (frame : Frame F)
    (specialKey : Bool) : currentState m frame specialKey j = currentState m' frame specialKey j :=
  getControllerState_congr hmapping hlast frame (specialKey && j = 0)

lemma handleControllers_extends (frame : Frame F) (specialKey : Bool) (w : World F) :
    w.sent <+: (handleControllers results frame specialKey w).sent :=
  ((releaseController_step results _).foldl_grows _ w).trans
    (((announceController_step results _).foldl_grows _ _).trans
      ((updateController_step results frame specialKey _ _).foldl_grows _ _))

/-- A slot after a frame whose calls about controllers have succeeded. -/
theorem handleControllers_slot (w : World F) (j : ℕ)
    (h : (handleControllers results frame specialKey w).Delivered) :
    (handleControllers results frame specialKey w).slot j =
      (w.slot j).next w.manager.lastControllerCount (clampControllerCount frame.reportedControllers)
        j (currentState w.manager frame specialKey j) := by
  let old := w.manager.lastControllerCount
  let count := clampControllerCount frame.reportedControllers
  let mask := connectedControllerMask count
  let released := (slots count (max old count)).foldl (releaseController results mask) w
  let announced := (slots old (max count old)).foldl (announceController results mask) released
  have hrelease := releaseController_step (F := F) results mask
  have hannounce := announceController_step (F := F) results mask
  have hupdate := updateController_step results frame specialKey (decide (old ≠ count)) mask
  have hdelivered : announced.Delivered :=
    Delivered.of_extends (hupdate.foldl_grows (List.range count) announced) h
  have hdelivered' : released.Delivered :=
    Delivered.of_extends (hannounce.foldl_grows _ released) hdelivered
  have hreleased : released.slot j =
      if j ∈ slots count (max old count) then (w.slot j).tell {} else w.slot j :=
    @SlotStep.foldl_slot _ _ _ hrelease _ List.nodup_range' _ (fun s => s.tell {})
      (fun u _ hu hok => hu ▸ releaseController_own mask u j hok) hdelivered'
  have hannounced : announced.slot j =
      if j ∈ slots old (max count old) then (released.slot j).announce else released.slot j :=
    @SlotStep.foldl_slot _ _ _ hannounce _ List.nodup_range' _ Slot.announce
      (fun u _ hu hok => hu ▸ announceController_own mask u j hok) hdelivered
  have hupdated : (handleControllers results frame specialKey w).slot j =
      if j ∈ List.range count then (announced.slot j).update (decide (old ≠ count))
        (currentState announced.manager frame specialKey j) else announced.slot j := by
    refine @SlotStep.foldl_slot _ _ _ hupdate _ List.nodup_range _
      (fun s => s.update _ (currentState announced.manager frame specialKey j))
      (fun u hmapping hu hok => ?_) h
    have hcurrent := currentState_congr hmapping (congrArg Slot.remembered hu) frame specialKey
    rw [updateController_own u j hok, hu]
    exact congrArg _ hcurrent
  have hmapping : announced.manager.mappingButtons = w.manager.mappingButtons := by
    rw [foldl_keeps (g := fun u : World F => u.manager.mappingButtons) hannounce.mapping,
      foldl_keeps (g := fun u : World F => u.manager.mappingButtons) hrelease.mapping]
  rw [hupdated, hannounced, hreleased]
  simp only [mem_slots, List.mem_range, Slot.next]
  by_cases hcount : j < count
  · have hnot : ¬(count ≤ j ∧ j < max old count) := by omega
    have hlast : announced.manager.lastGamepadStates j = w.manager.lastGamepadStates j := by
      show (announced.slot j).remembered = (w.slot j).remembered
      simp only [hannounced, hreleased, mem_slots, if_neg hnot]
      split_ifs <;> rfl
    rw [if_pos hcount, if_pos hcount, if_neg hnot, currentState_congr hmapping hlast]
    by_cases hold : old ≤ j
    · rw [if_pos hold, if_pos ⟨hold, by omega⟩]
    · rw [if_neg hold, if_neg fun hand => hold hand.1]
  · rw [if_neg hcount, if_neg hcount, if_neg (by omega)]
    by_cases hold : j < old
    · rw [if_pos hold, if_pos ⟨by omega, by omega⟩]
    · rw [if_neg hold, if_neg (by omega)]

end Memory

/-! ## The mouse and the touch screen -/

section Rest

variable {F : Type} {results : ℕ → Int32}

/-- What the calls for the mouse and the touch screen leave as it is. -/
structure Rest where
  slots : ℕ → Slot
  delivered : Prop
  lastControllerCount : ℕ
  inputEnabled : Bool
  mappingButtons : List (ControllerButton × ControllerButton)

def World.rest (w : World F) : Rest where
  slots := w.slot
  delivered := w.Delivered
  lastControllerCount := w.manager.lastControllerCount
  inputEnabled := w.manager.inputEnabled
  mappingButtons := w.manager.mappingButtons

lemma send_rest {e : Send F} (h : e.about = none) (w : World F) :
    (w.send results e).rest = w.rest := by
  have hslot : (w.send results e).slot = w.slot :=
    funext fun j => send_slot_other (by simp [h]) w
  have hdelivered : (w.send results e).Delivered ↔ w.Delivered := by
    refine ⟨Delivered.of_extends (send_extends e w), fun hw entry hmem habout => ?_⟩
    cases List.mem_append.mp hmem with
    | inl hold => exact hw entry hold habout
    | inr hnew => exact absurd (List.mem_singleton.mp hnew ▸ h) habout
  unfold World.rest
  rw [hslot, propext hdelivered, send_manager]

lemma sendMouseButton_rest (pressed : Bool) (button : MouseButton) (w : World F) :
    (sendMouseButton results pressed button w).rest = w.rest := send_rest rfl w

lemma sendMouseButtons_rest (frame : Frame F) (mouseState : MouseStateS F) (w : World F) :
    (sendMouseButtons results frame mouseState w).rest = w.rest := by
  have hwhen : ∀ (now last : Bool) (button : MouseButton) (u : World F),
      (if now ≠ last then sendMouseButton results now button u else u).rest = u.rest := by
    intro now last button u
    split_ifs
    · exact sendMouseButton_rest now button u
    · rfl
  unfold sendMouseButtons
  dsimp only
  rw [hwhen, hwhen, hwhen]
  rfl

lemma sendTap_rest (frame : Frame F) (touch : TouchState F) (w : World F) :
    (sendTap results frame touch w).rest = w.rest := by
  unfold sendTap
  split_ifs
  · exact sendMouseButton_rest true _ w
  · exact sendMouseButton_rest false _ w
  · rfl

variable [FloatOps F]

lemma sendRelativeMouseMove_rest (offset : Point F) (rotation : Rotation) (w : World F) :
    (sendRelativeMouseMove results offset rotation w).rest = w.rest := by
  unfold sendRelativeMouseMove
  dsimp only
  split_ifs
  · rfl
  · exact send_rest rfl _

lemma sendScroll_rest (frame : Frame F) (scrollY : F) (w : World F) :
    (sendScroll results frame scrollY w).rest = w.rest := by
  unfold sendScroll
  dsimp only
  by_cases hdue : (scrollY != lit 0) = true ∧ lit 550 - fabs scrollY * lit 500 <
      lit ((frame.timeNow - w.manager.lastScrollSentAt).tdiv 1000000 : ℤ)
  · rw [if_pos hdue]
    exact send_rest rfl _
  · rw [if_neg hdue]

lemma sendMousePosition_rest (frame : Frame F) (point : Point F) (w : World F) :
    (sendMousePosition results frame point w).rest = w.rest := send_rest rfl w

lemma touchFallback_rest (frame : Frame F) (touch : TouchState F) (point : Point F)
    (w : World F) : (touchFallback results frame touch point w).rest = w.rest := by
  unfold touchFallback
  dsimp only
  split_ifs <;> simp only [sendMouseButton_rest, sendMousePosition_rest]

lemma absoluteTouch_rest (frame : Frame F) (w : World F) (touch : TouchState F) :
    (absoluteTouch results frame w touch).rest = w.rest := by
  unfold absoluteTouch
  dsimp only
  split_ifs
  · rfl
  · exact sendTap_rest frame touch w
  · cases frame.localToStream _ with
    | none => rfl
    | some point => exact (sendTap_rest frame touch _).trans (sendMousePosition_rest frame point w)

lemma sendPan_rest (frame : Frame F) (w : World F) :
    (sendPan results frame w).rest = w.rest := by
  unfold sendPan
  cases w.manager.panStatus with
  | none => rfl
  | some delta => exact sendRelativeMouseMove_rest _ frame.rotation w

variable [Headers]

lemma sendTouch_rest (frame : Frame F) (index : ℕ) (touch : TouchState F) (point : Point F)
    (w : World F) : (sendTouch results frame index touch point w).rest = w.rest := by
  have htold : (w.send results (.touch touch.phase.event touch.fingerId point.x point.y)).rest =
      w.rest := send_rest rfl w
  unfold sendTouch
  dsimp only
  split_ifs
  · exact (touchFallback_rest frame touch point _).trans htold
  · exact htold

lemma multiTouch_rest (frame : Frame F) (w : World F) (entry : TouchState F × ℕ) :
    (multiTouch results frame w entry).rest = w.rest := by
  unfold multiTouch
  dsimp only
  split_ifs
  · rfl
  · cases frame.mapped entry.1 with
    | none => rfl
    | some point => exact sendTouch_rest frame entry.2 entry.1 point _

lemma handleTouches_rest (ignoreTouch : Bool) (frame : Frame F) (w : World F) :
    (handleTouches results ignoreTouch frame w).rest = w.rest := by
  unfold handleTouches
  split_ifs
  · rfl
  · exact sendPan_rest frame w
  · exact foldl_keeps (multiTouch_rest frame) _ w
  · exact foldl_keeps (absoluteTouch_rest frame) _ w
  · rfl

/-- Only `handleControllers` is about the controllers. -/
theorem handleInput_rest (ignoreTouch : Bool) (frame : Frame F) (w : World F) :
    (handleInput results ignoreTouch frame w).rest =
      (handleControllers results frame (frame.specialKey ignoreTouch)
        { w with manager := { w.manager with inputDropped := false } }).rest := by
  unfold handleInput
  dsimp only
  rw [handleTouches_rest, sendScroll_rest, sendMouseButtons_rest]

end Rest

end ArtemisSwitch.Input

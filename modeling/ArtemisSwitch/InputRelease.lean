import ArtemisSwitch.ControllerSync
import ArtemisSwitch.Library.Writes
import ArtemisSwitch.PointerHost

/-!
# What a dropped input leaves pressed

`dropInput` after any calls of `handleInput` leaves the controllers neutral and the left button
up.  The other buttons stay as they were, and so does a contact that the manager has forgotten.
-/

namespace ArtemisSwitch.Input
open Runs Writes

section Host

/-- Nothing is pressed and nothing is touched. -/
structure Host.Neutral (host : Host) : Prop where
  pads : ∀ j, (host.pads j).getD {} = {}
  buttons : ∀ button, host.buttons button = false
  contacts : ∀ id, host.contacts id = false

variable {F : Type}

def Host.releasePad (F : Type) (mask : UInt16) (host : Host) (slot : ℕ) : Host :=
  host.receive (.multiController slot mask {} : Send F)

def Host.cancel (host : Host) (id : UInt32) : Host :=
  { host with contacts := Function.update host.contacts id false }

lemma releasePads_pads (mask : UInt16) (count : ℕ) (host : Host) (j : ℕ) :
    ((List.range count).foldl (Host.releasePad F mask) host).pads j =
      if j < count then some {} else host.pads j := by
  have hwrite := @foldl_hom_write _ _ _ _ _ (Host.releasePad F mask) Host.pads
    (fun slot => (slot, some {})) (fun _ _ => rfl) (List.range count) host j
  rw [hwrite, last_const]
  split_ifs with hmem hlt hlt <;> rw [List.mem_range] at hmem
  · rfl
  · exact absurd hmem hlt
  · exact absurd hlt hmem
  · rfl

lemma cancel_contacts (ids : List UInt32) (host : Host) (id : UInt32) :
    (ids.foldl Host.cancel host).contacts id = if id ∈ ids then false else host.contacts id := by
  have hwrite := @foldl_hom_write _ _ _ _ _ Host.cancel Host.contacts (fun id => (id, false))
    (fun _ _ => rfl) ids host id
  rw [hwrite, last_const]
  split_ifs <;> rfl

end Host

/-! ## What is dropped -/

section Drop

variable {F : Type}

lemma dropControllers_host (mask : UInt16) (l : List ℕ) (acc : World F × Bool) :
    (l.foldl (dropController succeeds mask) acc).1.host =
      l.foldl (Host.releasePad F mask) acc.1.host := by
  refine (List.foldl_hom (fun acc : World F × Bool => acc.1.host) fun acc slot => ?_).symm
  exact (send_host_succeeds (.multiController slot mask {}) acc.1).symm

variable [FloatOps F]

lemma cancelTouches_host (ids : List UInt32) (w : World F) :
    (ids.foldl (cancelTouch succeeds) w).host = ids.foldl Host.cancel w.host :=
  (List.foldl_hom World.host fun w id =>
    (send_host_succeeds (.touch .CANCEL id (lit 0) (lit 0)) w).symm).symm

variable [Headers]

lemma dropInput_host (reportedControllers : ℤ) {w : World F}
    (h : w.manager.inputDropped = false) :
    (dropInput succeeds reportedControllers w).host =
      w.manager.activeTouchIDs.foldl Host.cancel
        (((List.range (max (clampControllerCount reportedControllers)
          w.manager.lastControllerCount)).foldl
            (Host.releasePad F (connectedControllerMask reportedControllers)) w.host).receive
          (.mouseButton .release .left : Send F)) := by
  let mask := connectedControllerMask reportedControllers
  let dropped := (List.range (max (clampControllerCount reportedControllers)
    w.manager.lastControllerCount)).foldl (dropController succeeds mask)
      ({ w with manager := w.manager.forgetDesktop }, true)
  have hkeys : ∀ (l : List ℕ) (w : World F), (l.foldl (releaseKey succeeds) w).host = w.host :=
    foldl_keeps fun w key => send_host_succeeds (.keyboard (glfwKeyToVKKey key) false 0) w
  have hids : dropped.1.manager.activeTouchIDs = w.manager.activeTouchIDs :=
    foldl_keeps (f := dropController succeeds mask)
      (g := fun acc : World F × Bool => acc.1.manager.activeTouchIDs) (fun _ _ => rfl) _ _
  unfold dropInput
  rw [if_neg (by simp [h])]
  refine (hkeys _ _).trans ((cancelTouches_host _ _).trans ?_)
  show dropped.1.manager.activeTouchIDs.foldl Host.cancel
    (dropped.1.send succeeds (.mouseButton .release .left)).host = _
  rw [hids, send_host_succeeds, dropControllers_host]
  rfl

lemma dropInput_pads (reportedControllers : ℤ) {w : World F}
    (h : w.manager.inputDropped = false) (j : ℕ) :
    (dropInput succeeds reportedControllers w).host.pads j =
      if j < max (clampControllerCount reportedControllers) w.manager.lastControllerCount then
        some {}
      else w.host.pads j := by
  rw [dropInput_host reportedControllers h,
    foldl_keeps (f := Host.cancel) (g := Host.pads) fun _ _ => rfl]
  exact releasePads_pads _ _ _ j

lemma dropInput_buttons (reportedControllers : ℤ) {w : World F}
    (h : w.manager.inputDropped = false) :
    (dropInput succeeds reportedControllers w).host.buttons =
      Function.update w.host.buttons .left false := by
  have hpads := foldl_keeps (f := Host.releasePad F (connectedControllerMask reportedControllers))
    (g := Host.buttons) fun _ _ => rfl
  rw [dropInput_host reportedControllers h,
    foldl_keeps (f := Host.cancel) (g := Host.buttons) fun _ _ => rfl, ← hpads _ w.host]
  rfl

lemma dropInput_contacts (reportedControllers : ℤ) {w : World F}
    (h : w.manager.inputDropped = false) (id : UInt32) :
    (dropInput succeeds reportedControllers w).host.contacts id =
      if id ∈ w.manager.activeTouchIDs then false else w.host.contacts id := by
  have hpads := foldl_keeps (f := Host.releasePad F (connectedControllerMask reportedControllers))
    (g := Host.contacts) fun _ _ => rfl
  rw [dropInput_host reportedControllers h, cancel_contacts, ← hpads _ w.host]
  rfl

end Drop

/-! ## What is pressed over the calls -/

/-- The phase of the last touch with an identifier. -/
def lastPhase (id : UInt32) (events : List ContactEvent) : Option TouchPhase :=
  last id (events.map fun e => (e.id, e.phase))

lemma lastPhase_filter {id : UInt32} {events : List ContactEvent} (p : ContactEvent → Bool)
    (h : lastPhase id events = none) : lastPhase id (events.filter p) = none := by
  rw [lastPhase, last_eq_none, List.forall_mem_map] at h ⊢
  exact fun e he => h e (List.mem_of_mem_filter he)

lemma mem_insertId {id id' : UInt32} {ids : List UInt32} :
    id' ∈ insertId id ids ↔ id' = id ∨ id' ∈ ids := by
  unfold insertId
  split_ifs with h
  · exact ⟨.inr, fun hor => hor.elim (fun heq => heq ▸ h) fun hmem => hmem⟩
  · exact List.mem_orderedInsert (· ≤ ·)

namespace Contacts

/-- The touches that the manager remembers. -/
def held (c : Contacts) : UInt32 → Bool := fun id => id ∈ c.ids

lemma touch_held (c : Contacts) (e : ContactEvent) :
    (c.touch e).held = write c.held (e.id, decide (e.phase ≠ .NONE)) := by
  funext id
  show decide (id ∈ if e.phase ≠ .NONE then insertId e.id c.ids else c.ids.filter (· ≠ e.id)) =
    Function.update c.held e.id (decide (e.phase ≠ .NONE)) id
  by_cases hid : id = e.id
  · rw [hid, Function.update_self]
    split_ifs with hphase <;> simp [mem_insertId, hphase]
  · rw [Function.update_of_ne hid]
    unfold held
    split_ifs <;> simp [mem_insertId, hid]

lemma foldl_held (events : List ContactEvent) (c : Contacts) (id : UInt32) :
    (events.foldl touch c).held id =
      ((lastPhase id events).map fun phase => decide (phase ≠ .NONE)).getD (c.held id) := by
  rw [foldl_hom_write touch_held, lastPhase, ← last_map, List.map_map]
  rfl

lemma foldl_down (events : List ContactEvent) (c : Contacts) (id : UInt32) :
    (events.foldl touch c).down id =
      ((lastPhase id (events.filter ContactEvent.changes)).map
        fun phase => decide (phase = .START)).getD (c.down id) := by
  have hdown : (events.foldl touch c).down =
      events.foldl (fun down e =>
        if e.changes then write down (e.id, decide (e.phase = .START)) else down) c.down :=
    (List.foldl_hom down fun _ _ => rfl).symm
  rw [hdown, ← List.foldl_filter, lastPhase, ← last_map, List.map_map, ← foldl_write,
    List.foldl_map]
  rfl

/-- A contact that stays down although the touch is not remembered any more. -/
lemma forgotten_iff (events : List ContactEvent) {c : Contacts} {id : UInt32}
    (hup : c.down id = false) :
    (events.foldl touch c).held id = false ∧ (events.foldl touch c).down id = true ↔
      lastPhase id events = some .NONE ∧
        lastPhase id (events.filter ContactEvent.changes) = some .START := by
  rw [foldl_held, foldl_down, hup]
  cases hlast : lastPhase id events with
  | none =>
    rw [lastPhase_filter _ hlast]
    simp
  | some phase =>
    cases lastPhase id (events.filter ContactEvent.changes) with
    | none => simp
    | some changed => simp

end Contacts

/-! ## Controllers over the calls -/

section Controllers

variable {F : Type}

lemma Delivered.send {w : World F} (h : w.Delivered) (e : Send F) :
    (w.send succeeds e).Delivered := by
  intro entry hmem habout
  cases List.mem_append.mp hmem with
  | inl hold => exact h entry hold habout
  | inr hnew => rw [List.mem_singleton.mp hnew]; rfl

lemma handleControllerBattery_delivered (frame : Frame F) (slot : ℕ) {w : World F}
    (h : w.Delivered) : (handleControllerBattery succeeds frame slot w).Delivered := by
  unfold handleControllerBattery
  dsimp only
  split_ifs
  · exact Delivered.send (w := { w with manager := _ }) h _
  · exact h

lemma Synced.of_rest {w w' : World F} (hrest : w'.rest = w.rest) (hs : Synced w) :
    Synced w' := by
  have hslot : ∀ j, w'.slot j = w.slot j := congrFun (congrArg Rest.slots hrest)
  have hcount : w'.manager.lastControllerCount = w.manager.lastControllerCount :=
    congrArg Rest.lastControllerCount hrest
  refine ⟨fun j hj => ?_, fun j hj => ?_⟩
  · rw [hslot]
    exact hs.here j (hcount ▸ hj)
  · rw [hslot]
    exact hs.away j (hcount ▸ hj)

variable [FloatOps F] [Headers]

lemma updateController_delivered (frame : Frame F) (specialKey changed : Bool) (mask : UInt16)
    {w : World F} (h : w.Delivered) (slot : ℕ) :
    (updateController succeeds frame specialKey changed mask w slot).Delivered := by
  unfold updateController
  dsimp only
  apply handleControllerBattery_delivered
  split_ifs
  · exact Delivered.send (w := { w with manager := _ }) h _
  · exact h

lemma handleControllers_delivered (frame : Frame F) (specialKey : Bool) {w : World F}
    (h : w.Delivered) : (handleControllers succeeds frame specialKey w).Delivered := by
  have hrelease : ∀ (mask : UInt16) (l : List ℕ),
      (l.foldl (releaseController succeeds mask) w).Delivered := fun mask l =>
    l.foldlRecOn (motive := World.Delivered) _ h fun u hu slot _ => Delivered.send hu _
  have hannounce : ∀ (mask : UInt16) (l : List ℕ) {u : World F}, u.Delivered →
      (l.foldl (announceController succeeds mask) u).Delivered := fun mask l _ hu =>
    l.foldlRecOn (motive := World.Delivered) _ hu fun u hu slot _ => Delivered.send hu _
  exact List.foldlRecOn (motive := World.Delivered) _ _ (hannounce _ _ (hrelease _ _))
    fun u hu slot _ => updateController_delivered frame specialKey _ _ hu slot

lemma poll_synced {w : World F} (poll : Poll F) (h : Synced w ∧ w.Delivered) :
    Synced (w.poll poll) ∧ (w.poll poll).Delivered := by
  let start : World F := { w with
    manager := { w.manager with mappingButtons := poll.mappingButtons, inputDropped := false } }
  have hstart : Synced start := ⟨h.1.here, h.1.away⟩
  have hdelivered := handleControllers_delivered poll.frame
    (poll.frame.specialKey poll.ignoreTouch) (w := start) h.2
  have hsynced := (handleControllers_synced hstart hdelivered).1
  have hrest : (w.poll poll).rest = _ := handleInput_rest poll.ignoreTouch poll.frame _
  refine ⟨Synced.of_rest hrest hsynced, ?_⟩
  have heq : (w.poll poll).Delivered = _ := congrArg Rest.delivered hrest
  rw [heq]
  exact hdelivered

end Controllers

/-! ## Sessions -/

section Polls

variable {F : Type} [FloatOps F]

/-- The presses and releases over the calls, the buttons being as `last` says before. -/
def buttonEvents : Pressed → List (Poll F) → List ButtonEvent
  | _, [] => []
  | last, poll :: polls => poll.buttonEvents last ++ buttonEvents poll.pressed polls

def contactEvents (polls : List (Poll F)) : List ContactEvent := polls.flatMap Poll.contactEvents

lemma polls_buttons (polls : List (Poll F)) (v : View) :
    (polls.foldl View.next v).buttons = (buttonEvents v.pressed polls).foldl write v.buttons := by
  induction polls generalizing v with
  | nil => rfl
  | cons poll polls ih => rw [List.foldl_cons, ih, buttonEvents, List.foldl_append]; rfl

lemma polls_contacts (polls : List (Poll F)) (v : View) :
    (polls.foldl View.next v).contacts =
      (contactEvents polls).foldl Contacts.touch v.contacts := by
  rw [contactEvents, List.foldl_flatMap]
  exact (List.foldl_hom View.contacts fun _ _ => rfl).symm

lemma tap_button {frame : Frame F} {touch : TouchState F} {e : ButtonEvent}
    (h : e ∈ frame.absoluteTap touch) : e.1 = frame.pointer.mode.tapButton := by
  unfold Frame.absoluteTap Frame.tap at h
  split_ifs at h
  · cases h
  · rw [List.mem_singleton.mp h]
  · rw [List.mem_singleton.mp h]
  · cases h
  · cases h

lemma taps_middle (poll : Poll F) : last .middle poll.taps = none := by
  rw [last_eq_none]
  intro e he
  unfold Poll.taps at he
  split_ifs at he
  · obtain ⟨touch, _, htap⟩ := List.mem_flatMap.mp he
    rw [tap_button htap, PointerMode.tapButton]
    split_ifs <;> decide
  · cases he

omit [FloatOps F] in
lemma edges_middle (frame : Frame F) (before now : Pressed) :
    (last .middle (frame.edges before now)).getD before.m = now.m := by
  have houter : ∀ (now before : Bool) (button : MouseButton), button ≠ .middle →
      last .middle (if now ≠ before then [(button, now)] else []) = none := by
    intro now before button hbutton
    split_ifs
    · exact last_eq_none.mpr fun e he => List.mem_singleton.mp he ▸ hbutton
    · rfl
  have hl := houter now.l before.l (if frame.swapMouseKeys then .right else .left)
    (by split_ifs <;> decide)
  have hr := houter now.r before.r (if frame.swapMouseKeys then .left else .right)
    (by split_ifs <;> decide)
  unfold Frame.edges
  rw [last_append, last_append, hl, hr, Option.none_or, Option.or_none]
  split_ifs with hchanged
  · rfl
  · exact (not_not.mp hchanged).symm

/-- The middle button is on the host as the manager remembers it. -/
lemma next_middle (v : View) (poll : Poll F) (h : v.buttons .middle = v.pressed.m) :
    (v.next poll).buttons .middle = poll.pressed.m := by
  show (poll.buttonEvents v.pressed).foldl write v.buttons .middle = _
  rw [foldl_write, Poll.buttonEvents, last_append, taps_middle, Option.none_or, h, edges_middle]

lemma polls_middle (polls : List (Poll F)) {v : View} (h : v.buttons .middle = v.pressed.m) :
    (polls.foldl View.next v).buttons .middle =
      (polls.getLast?.map fun poll => poll.frame.middleButton).getD v.pressed.m := by
  induction polls generalizing v with
  | nil => exact h
  | cons poll polls ih =>
    rw [List.foldl_cons, ih (next_middle v poll h), List.getLast?_cons]
    cases polls.getLast? <;> rfl

lemma polls_dropped {polls : List (Poll F)} (hpolls : polls ≠ []) (v : View) :
    (polls.foldl View.next v).dropped = false := by
  rw [← List.dropLast_append_getLast hpolls, List.foldl_concat]
  rfl

variable [Headers]

/-- A session of some calls. -/
def session (m : Manager F) (now : ℤ) (polls : List (Poll F)) : World F :=
  polls.foldl World.poll (newSession m now)

lemma session_view (m : Manager F) (now : ℤ) (polls : List (Poll F)) :
    (session m now polls).view = polls.foldl View.next (newSession m now).view :=
  (List.foldl_hom World.view fun w poll => (poll_view w poll).symm).symm

lemma session_synced (m : Manager F) (now : ℤ) (polls : List (Poll F)) :
    Synced (session m now polls) :=
  (List.foldlRecOn (motive := fun w => Synced w ∧ w.Delivered) polls World.poll
    ⟨newSession_synced m now, by simp [World.Delivered, newSession]⟩
    fun w h poll _ => poll_synced poll h).1

/-- Nothing that `dropInput` does not release is pressed at the end. -/
structure Released (polls : List (Poll F)) : Prop where
  middle : ∀ poll ∈ polls.getLast?, poll.frame.middleButton = false
  /-- The last press or release of the right button is no press. -/
  right : last .right (buttonEvents ⟨false, false, false⟩ polls) ≠ some true
  /-- No touch ends with the phase `NONE` off the stream while the host has it down. -/
  contacts : ∀ id, lastPhase id (contactEvents polls) = some .NONE →
    lastPhase id ((contactEvents polls).filter ContactEvent.changes) ≠ some .START

lemma session_middle (m : Manager F) (now : ℤ) (polls : List (Poll F)) :
    (session m now polls).host.buttons .middle = false ↔
      ∀ poll ∈ polls.getLast?, poll.frame.middleButton = false := by
  have hbuttons := congrArg View.buttons (session_view m now polls)
  have hmiddle : (session m now polls).host.buttons .middle =
      (polls.getLast?.map fun poll => poll.frame.middleButton).getD false :=
    (congrFun hbuttons .middle).trans (polls_middle polls rfl)
  rw [hmiddle]
  cases polls.getLast? <;> simp

lemma session_right (m : Manager F) (now : ℤ) (polls : List (Poll F)) :
    (session m now polls).host.buttons .right = false ↔
      last .right (buttonEvents ⟨false, false, false⟩ polls) ≠ some true := by
  have hbuttons := congrArg View.buttons (session_view m now polls)
  rw [polls_buttons] at hbuttons
  have hright : (session m now polls).host.buttons .right =
      (last .right (buttonEvents ⟨false, false, false⟩ polls)).getD false :=
    (congrFun hbuttons .right).trans (foldl_write _ _ _)
  rw [hright]
  cases last .right (buttonEvents ⟨false, false, false⟩ polls) <;> simp

lemma session_contacts (m : Manager F) (now : ℤ) (polls : List (Poll F)) (id : UInt32) :
    (id ∉ (session m now polls).manager.activeTouchIDs ∧
        (session m now polls).host.contacts id = true) ↔
      lastPhase id (contactEvents polls) = some .NONE ∧
        lastPhase id ((contactEvents polls).filter ContactEvent.changes) = some .START := by
  have hcontacts := congrArg View.contacts (session_view m now polls)
  rw [polls_contacts] at hcontacts
  have hforgotten := Contacts.forgotten_iff (contactEvents polls)
    (rfl : (newSession m now).view.contacts.down id = false)
  rw [← hcontacts] at hforgotten
  rw [← hforgotten]
  exact and_congr_left fun _ => decide_eq_false_iff_not.symm

/-- `dropInput` releases the controllers, the left button and the touches that are remembered. -/
theorem dropInput_neutral_of_synced (reportedControllers : ℤ) {w : World F}
    (hdropped : w.manager.inputDropped = false) (hs : Synced w) :
    (dropInput succeeds reportedControllers w).host.Neutral ↔
      w.host.buttons .middle = false ∧ w.host.buttons .right = false ∧
        ∀ id, ¬(id ∉ w.manager.activeTouchIDs ∧ w.host.contacts id = true) := by
  have hbuttons := dropInput_buttons reportedControllers hdropped
  have hcontacts := dropInput_contacts reportedControllers hdropped
  constructor
  · intro h
    refine ⟨?_, ?_, fun id hid => ?_⟩
    · exact (congrFun hbuttons .middle).symm.trans (h.buttons .middle)
    · exact (congrFun hbuttons .right).symm.trans (h.buttons .right)
    · have hup := h.contacts id
      rw [hcontacts, if_neg hid.1, hid.2] at hup
      cases hup
  · rintro ⟨hmiddle, hright, hforgotten⟩
    refine ⟨fun j => ?_, fun button => ?_, fun id => ?_⟩
    · rw [dropInput_pads reportedControllers hdropped]
      split_ifs with hj
      · rfl
      · exact (hs.away j (by omega)).received
    · rw [hbuttons]
      cases button with
      | left => rfl
      | middle => exact hmiddle
      | right => exact hright
    · rw [hcontacts]
      split_ifs with hid
      · rfl
      · exact Bool.eq_false_iff.mpr fun hdown => hforgotten id ⟨hid, hdown⟩

/-- The host is neutral after `dropInput` exactly when nothing else was pressed. -/
theorem dropInput_neutral_iff (m : Manager F) (now : ℤ) (polls : List (Poll F))
    (reportedControllers : ℤ) :
    (dropInput succeeds reportedControllers (session m now polls)).host.Neutral ↔
      Released polls := by
  by_cases hdropped : (session m now polls).manager.inputDropped = false
  · rw [dropInput_neutral_of_synced reportedControllers hdropped (session_synced m now polls),
      session_middle, session_right]
    simp only [session_contacts]
    exact ⟨fun h => ⟨h.1, h.2.1, fun id hnone hstart => h.2.2 id ⟨hnone, hstart⟩⟩,
      fun h => ⟨h.middle, h.right, fun id hid => h.contacts id hid.1 hid.2⟩⟩
  · -- only the flag of an earlier stream, which the first frame clears
    have hnil : polls = [] := by
      by_contra hne
      exact hdropped ((congrArg View.dropped (session_view m now polls)).trans
        (polls_dropped hne _))
    subst hnil
    have hkept : dropInput succeeds reportedControllers (session m now []) = newSession m now :=
      if_pos (Bool.not_eq_false _ ▸ hdropped)
    rw [hkept]
    refine ⟨fun _ => ⟨by simp, by simp [buttonEvents, last], fun id h => ?_⟩,
      fun _ => ⟨fun _ => rfl, fun _ => rfl, fun _ => rfl⟩⟩
    cases h

end Polls

/-- The right button of a mouse is held. -/
def rightHeld : Poll Exact := ⟨[], false, { Frame.quiet with rightButton := true }⟩

theorem rightHeld_stays :
    ¬(dropInput succeeds 0 (session (.initial [] 0) 0 [rightHeld])).host.Neutral := by
  intro h
  exact absurd (h.buttons .right) (by decide +kernel)

end ArtemisSwitch.Input

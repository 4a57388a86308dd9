import ArtemisSwitch.InputHost

/-!
# One input session after another

What a stream sends depends on earlier streams only through the fields that `resetForNewSession`
leaves as they are.
-/

namespace ArtemisSwitch.Input
open Runs

section Sessions

variable {F : Type} {results : ℕ → Int32}

/-! ## What no call of a stream changes -/

/-- The fields that only `setInputEnabled` and `reloadButtonMappingLayout` write. -/
def World.setup (w : World F) : Bool × List (ControllerButton × ControllerButton) :=
  (w.manager.inputEnabled, w.manager.mappingButtons)

@[simp] lemma send_setup (e : Send F) (w : World F) : (w.send results e).setup = w.setup := rfl

lemma setup_of_rest {w w' : World F} (h : w.rest = w'.rest) : w.setup = w'.setup :=
  Prod.ext (congrArg Rest.inputEnabled h) (congrArg Rest.mappingButtons h)

lemma handleControllerBattery_setup (frame : Frame F) (slot : ℕ) (w : World F) :
    (handleControllerBattery results frame slot w).setup = w.setup := by
  unfold handleControllerBattery
  dsimp only
  split_ifs <;> rfl

lemma callback_setup {handler : World F → World F} (h : ∀ w, (handler w).setup = w.setup)
    (w : World F) : (w.callback handler).setup = w.setup := by
  unfold World.callback
  split_ifs
  · exact h w
  · rfl

variable [FloatOps F]

lemma sendDesktopMouseScroll_setup (scroll : Point F) (w : World F) :
    (sendDesktopMouseScroll results scroll w).setup = w.setup := by
  unfold sendDesktopMouseScroll
  dsimp only
  split_ifs <;> rfl

lemma desktopGesture_setup (now : ℤ) (m : Manager F) :
    (m.desktopGesture now).inputEnabled = m.inputEnabled ∧
      (m.desktopGesture now).mappingButtons = m.mappingButtons := by
  unfold Manager.desktopGesture
  dsimp only
  split_ifs <;> exact ⟨rfl, rfl⟩

lemma handleDesktopMouseScroll_setup (now : ℤ) (scroll : Point F) (w : World F) :
    (handleDesktopMouseScroll results now scroll w).setup = w.setup := by
  obtain ⟨henabled, hmapping⟩ := desktopGesture_setup now w.manager
  have hsetup : (⟨w.manager.desktopGesture now, w.sent⟩ : World F).setup = w.setup :=
    Prod.ext henabled hmapping
  unfold handleDesktopMouseScroll
  dsimp only
  split_ifs
  · exact (sendDesktopMouseScroll_setup _ _).trans hsetup
  · exact hsetup
  · exact hsetup
  · exact (sendDesktopMouseScroll_setup _ _).trans hsetup
  · exact (sendDesktopMouseScroll_setup _ _).trans hsetup

lemma mouseCursorOffset_setup (offset : Point F) (mouseSpeedScale : F) (rotation : Rotation)
    (w : World F) :
    (mouseCursorOffset results offset mouseSpeedScale rotation w).setup = w.setup := by
  unfold mouseCursorOffset
  split_ifs
  · exact setup_of_rest (sendRelativeMouseMove_rest _ rotation w)
  · rfl

lemma sendControllerMotion_setup (options : SwitchMotionOptions) (nowMs : UInt64)
    (sample : MotionSample F) (w : World F) :
    (sendControllerMotion results options nowMs sample w).setup = w.setup := by
  unfold sendControllerMotion
  dsimp only
  split_ifs <;> rfl

variable [Headers]

lemma updateController_setup (frame : Frame F) (specialKey changed : Bool) (mask : UInt16)
    (w : World F) (slot : ℕ) :
    (updateController results frame specialKey changed mask w slot).setup = w.setup := by
  unfold updateController
  dsimp only
  rw [handleControllerBattery_setup]
  split_ifs <;> rfl

lemma handleControllers_setup (frame : Frame F) (specialKey : Bool) (w : World F) :
    (handleControllers results frame specialKey w).setup = w.setup := by
  show ((List.range _).foldl (updateController results frame specialKey _ _) _).setup = w.setup
  rw [foldl_keeps fun w slot => updateController_setup frame specialKey _ _ w slot,
    foldl_keeps (g := World.setup) (f := announceController results _) fun _ _ => rfl,
    foldl_keeps (g := World.setup) (f := releaseController results _) fun _ _ => rfl]

lemma handleInput_setup (ignoreTouch : Bool) (frame : Frame F) (w : World F) :
    (handleInput results ignoreTouch frame w).setup = w.setup := by
  rw [setup_of_rest (handleInput_rest ignoreTouch frame w), handleControllers_setup]
  rfl

lemma dropInput_setup (reportedControllers : ℤ) (w : World F) :
    (dropInput results reportedControllers w).setup = w.setup := by
  unfold dropInput
  split_ifs
  · rfl
  · show ((slots _ _).foldl (releaseKey results) _).setup = w.setup
    rw [foldl_keeps (g := World.setup) (f := releaseKey results) fun _ _ => rfl]
    show (List.foldl (cancelTouch results) _ _).setup = w.setup
    rw [foldl_keeps (g := World.setup) (f := cancelTouch results) fun _ _ => rfl]
    show ((List.range _).foldl (dropController results _) _).1.setup = w.setup
    rw [foldl_keeps (g := fun acc : World F × Bool => acc.1.setup)
      (f := dropController results _) fun _ _ => rfl]
    rfl

/-! ## Histories -/

/-- A call, or the start of the next stream. -/
inductive Step (F : Type)
  | call (call : Call F)
  | resetForNewSession (now : ℤ)

/-- The calls of a stream: all but those of the settings. -/
def Step.ofStream : Step F → Bool
  | .call (.setInputEnabled _) => false
  | .call (.reloadButtonMappingLayout _) => false
  | _ => true

def World.step (results : ℕ → Int32) (w : World F) : Step F → World F
  | .call call => w.call results call
  | .resetForNewSession now => { w with manager := w.manager.resetForNewSession now }

theorem step_setup (w : World F) {step : Step F} (h : step.ofStream = true) :
    (w.step results step).setup = w.setup := by
  cases step with
  | resetForNewSession now => rfl
  | call call =>
    cases call with
    | handleInput ignoreTouch frame => exact handleInput_setup ignoreTouch frame w
    | dropInput reportedControllers => exact dropInput_setup reportedControllers w
    | updateTouchScreenPanDelta delta => rfl
    | mouseCursorOffset offset mouseSpeedScale rotation =>
      exact callback_setup (mouseCursorOffset_setup offset mouseSpeedScale rotation) w
    | mouseScroll now scroll => exact callback_setup (handleDesktopMouseScroll_setup now scroll) w
    | keyboardKey key pressed modifiers =>
      exact callback_setup (send_setup (.keyboard (glfwKeyToVKKey key) pressed modifiers)) w
    | controllerSensor options nowMs sample =>
      exact callback_setup (sendControllerMotion_setup options nowMs sample) w
    | setInputEnabled enabled => cases h
    | reloadButtonMappingLayout mappingButtons => cases h

def World.run (results : ℕ → Int32) (w : World F) (steps : List (Step F)) : World F :=
  steps.foldl (World.step results) w

theorem run_setup {steps : List (Step F)} (h : steps.all Step.ofStream = true) (w : World F) :
    (w.run results steps).setup = w.setup := by
  induction steps generalizing w with
  | nil => rfl
  | cons step steps ih =>
    rw [List.all_cons, Bool.and_eq_true] at h
    exact (ih h.2 (w.step results step)).trans (step_setup w h.1)

/-! ## The next stream -/

/-- The calls of Limelight after `resetForNewSession`. -/
def sends (results : ℕ → Int32) (now : ℤ) (m : Manager F) (steps : List (Step F)) :
    List (Send F) :=
  ((⟨m.resetForNewSession now, []⟩ : World F).run results steps).sent.map Prod.fst

/-- No continuation tells one manager from the other. -/
def Isolated (m m' : Manager F) : Prop :=
  ∀ results now steps, sends results now m steps = sends results now m' steps

/-- What `resetForNewSession` leaves. -/
structure SameRest (m m' : Manager F) : Prop where
  inputEnabled : m.inputEnabled = m'.inputEnabled
  mappingButtons : m.mappingButtons = m'.mappingButtons
  panStatus : m.panStatus = m'.panStatus
  inputDropped : m.inputDropped = m'.inputDropped
  activeTouchIDs : m.activeTouchIDs = m'.activeTouchIDs

variable {m m' : Manager F}

omit [Headers] in
/-- All other fields are set anew. -/
theorem resetForNewSession_eq (h : SameRest m m') (now : ℤ) :
    m.resetForNewSession now = m'.resetForNewSession now := by
  unfold Manager.resetForNewSession Manager.forgetDesktop
  rw [h.inputEnabled, h.mappingButtons, h.panStatus, h.inputDropped, h.activeTouchIDs]

theorem isolated_of_sameRest (h : SameRest m m') : Isolated m m' := by
  intro results now steps
  unfold sends
  rw [resetForNewSession_eq h now]

/-! ## Continuations that show what is left -/

omit [FloatOps F] [Headers] in
/-- Calls in a loop are made one after the other. -/
lemma foldl_send {α : Type} {step : World F → α → World F} {call : α → Send F}
    (h : ∀ w a, step w a = w.send results (call a)) (l : List α) (w : World F) :
    (l.foldl step w).sent.map Prod.fst = w.sent.map Prod.fst ++ l.map call := by
  induction l generalizing w with
  | nil => simp
  | cons a l ih => rw [List.foldl_cons, ih, h]; simp

/-- What is sent to drop the input without controllers. -/
lemma dropInput_sends {w : World F} (hcount : w.manager.lastControllerCount = 0)
    (hdropped : w.manager.inputDropped = false) :
    (dropInput results 0 w).sent.map Prod.fst =
      w.sent.map Prod.fst ++ [.mouseButton .release .left] ++
        w.manager.activeTouchIDs.map (fun id => .touch .CANCEL id (lit 0) (lit 0)) ++
        (slots Headers.BRLS_KBD_KEY_SPACE Headers.BRLS_KBD_KEY_LAST).map fun key =>
          .keyboard (glfwKeyToVKKey key) false 0 := by
  unfold dropInput
  rw [if_neg (by simp [hdropped])]
  have hnone : max (clampControllerCount 0) w.manager.forgetDesktop.lastControllerCount = 0 :=
    (congrArg (max 0) hcount).trans rfl
  dsimp only
  rw [hnone, @foldl_send _ _ _ (releaseKey results) _ fun _ _ => rfl]
  show List.map Prod.fst (List.foldl (cancelTouch results) _ _).sent ++ _ = _
  rw [@foldl_send _ _ _ (cancelTouch results) _ fun _ _ => rfl]
  simp [sendMouseButton, Manager.forgetDesktop]

lemma handleControllers_quiet {w : World F} (specialKey : Bool)
    (hcount : w.manager.lastControllerCount = 0) :
    handleControllers results .quiet specialKey w = w := by
  have htopology : controllerTopologyDelta w.manager.lastControllerCount 0 =
      ⟨0, 0, 0, 0, false⟩ := by
    rw [hcount]
    rfl
  have hnone : clampControllerCount (Frame.quiet : Frame F).reportedControllers = 0 := rfl
  unfold handleControllers
  dsimp only
  rw [hnone, htopology]
  show (⟨{ w.manager with lastControllerCount := 0 }, w.sent⟩ : World F) = w
  rw [← hcount]

omit [Headers] in
lemma mouseState_quiet (mappingButtons : List (ControllerButton × ControllerButton)) :
    (Frame.quiet : Frame F).mouseState false mappingButtons = .initial := rfl

omit [FloatOps F] [Headers] in
/-- Buttons that are as they were are not told. -/
lemma sendMouseButtons_same (frame : Frame F) {mouseState : MouseStateS F} {w : World F}
    (h : w.manager.lastMouseState = mouseState) :
    sendMouseButtons results frame mouseState w = w := by
  unfold sendMouseButtons
  subst h
  simp

/-- A frame without input sends at most a step of the wheel. -/
lemma handleInput_quiet {w : World F} (hcount : w.manager.lastControllerCount = 0)
    (hmouse : w.manager.lastMouseState = .initial) :
    handleInput results false .quiet w =
      sendScroll results .quiet (lit 0)
        { w with manager := { w.manager with inputDropped := false } } := by
  unfold handleInput
  dsimp only
  rw [handleControllers_quiet _ (by exact hcount), mouseState_quiet,
    sendMouseButtons_same _ (by exact hmouse)]
  rfl

omit [Headers] in
lemma sendScroll_unmoved (frame : Frame F) (scrollY : F) (w : World F) :
    (sendScroll results frame scrollY w).manager.activeTouchIDs = w.manager.activeTouchIDs ∧
      (sendScroll results frame scrollY w).manager.inputDropped = w.manager.inputDropped ∧
      (sendScroll results frame scrollY w).manager.lastControllerCount =
        w.manager.lastControllerCount := by
  unfold sendScroll
  dsimp only
  split_ifs <;> exact ⟨rfl, rfl, rfl⟩

omit [Headers] in
/-- Whether the wheel is due depends on the time of the last step only. -/
lemma sendScroll_sent (frame : Frame F) (scrollY : F) {w w' : World F} (hsent : w.sent = w'.sent)
    (htime : w.manager.lastScrollSentAt = w'.manager.lastScrollSentAt) :
    (sendScroll results frame scrollY w).sent = (sendScroll results frame scrollY w').sent := by
  unfold sendScroll
  dsimp only
  rw [htime]
  split_ifs <;> simp only [send_sent, hsent]

/-- The frame after a reset, and what it leaves for the drop. -/
lemma reset_quiet (now : ℤ) (m : Manager F) :
    let w := handleInput results false .quiet ⟨m.resetForNewSession now, []⟩
    w.manager.activeTouchIDs = m.activeTouchIDs ∧ w.manager.inputDropped = false ∧
      w.manager.lastControllerCount = 0 := by
  dsimp only
  rw [handleInput_quiet (by rfl) (by rfl)]
  exact sendScroll_unmoved .quiet (lit 0) _

lemma reset_quiet_sent (now : ℤ) (m m' : Manager F) :
    (handleInput results false .quiet ⟨m.resetForNewSession now, []⟩).sent =
      (handleInput results false .quiet ⟨m'.resetForNewSession now, []⟩).sent := by
  rw [handleInput_quiet (by rfl) (by rfl), handleInput_quiet (by rfl) (by rfl)]
  exact sendScroll_sent .quiet (lit 0) rfl rfl

/-- After a frame the drop cancels the touches that an earlier stream has left. -/
theorem activeTouchIDs_of_isolated (h : Isolated m m') : m.activeTouchIDs = m'.activeTouchIDs := by
  have hsends := h (fun _ => 0) 0 [.call (.handleInput false .quiet), .call (.dropInput 0)]
  obtain ⟨hids, hdropped, hcount⟩ := @reset_quiet _ (fun _ => 0) _ _ 0 m
  obtain ⟨hids', hdropped', hcount'⟩ := @reset_quiet _ (fun _ => 0) _ _ 0 m'
  have hdrop := @dropInput_sends _ (fun _ => 0) _ _ _ hcount hdropped
  have hdrop' := @dropInput_sends _ (fun _ => 0) _ _ _ hcount' hdropped'
  simp only [sends, World.run, List.foldl_cons, List.foldl_nil, World.step, World.call] at hsends
  have hequal := hdrop.symm.trans (hsends.trans hdrop')
  rw [reset_quiet_sent 0 m m', hids, hids', List.append_left_inj, List.append_right_inj]
    at hequal
  refine List.map_injective_iff.mpr (fun id id' heq => ?_) hequal
  exact (Send.touch.inj heq).2.1

/-- A drop right after the start is made, unless the last stream has already dropped. -/
theorem inputDropped_of_isolated (h : Isolated m m') : m.inputDropped = m'.inputDropped := by
  have hdrops : ∀ m : Manager F,
      sends (fun _ => 0) 0 m [.call (.dropInput 0)] = [] ↔ m.inputDropped = true := by
    intro m
    show ((dropInput (fun _ => 0) 0 ⟨m.resetForNewSession 0, []⟩).sent.map Prod.fst) = [] ↔ _
    cases hdropped : m.inputDropped with
    | true =>
      rw [dropInput, if_pos (by exact hdropped)]
      simp
    | false =>
      rw [dropInput_sends rfl (by exact hdropped)]
      simp
  have hsame := h (fun _ => 0) 0 [.call (.dropInput 0)]
  rw [Bool.eq_iff_iff, ← hdrops m, ← hdrops m', hsame]

/-! ## Two histories of one manager -/

/-- Two histories cannot be told apart by the next stream when they leave the same pan, the same
touches and the same flag of the drop.  The touches and the flag can always be told. -/
theorem streams_isolated {results results' : ℕ → Int32} {earlier earlier' : List (Step F)}
    (w : World F) (h : earlier.all Step.ofStream = true) (h' : earlier'.all Step.ofStream = true) :
    let m := (w.run results earlier).manager
    let m' := (w.run results' earlier').manager
    (m.panStatus = m'.panStatus → m.inputDropped = m'.inputDropped →
        m.activeTouchIDs = m'.activeTouchIDs → Isolated m m') ∧
      (Isolated m m' →
        m.inputDropped = m'.inputDropped ∧ m.activeTouchIDs = m'.activeTouchIDs) := by
  have hsetup := (@run_setup _ results _ _ _ h w).trans
    (@run_setup _ results' _ _ _ h' w).symm
  refine ⟨fun hpan hdropped hids => ?_, fun hisolated => ?_⟩
  · exact isolated_of_sameRest
      ⟨congrArg Prod.fst hsetup, congrArg Prod.snd hsetup, hpan, hdropped, hids⟩
  · exact ⟨inputDropped_of_isolated hisolated, activeTouchIDs_of_isolated hisolated⟩

end Sessions

/-- The manager at the start of the program. -/
def freshWorld : World Exact where
  manager := .initial [] 0

theorem dropped_streams_isolated :
    Isolated (freshWorld.run (fun _ => 0) [.call (.handleInput false .quiet),
        .call (.updateTouchScreenPanDelta ⟨⟨3⟩, ⟨4⟩⟩), .call (.dropInput 1)]).manager
      (freshWorld.run (fun _ => 0) [.call (.dropInput 0), .resetForNewSession 7,
        .call (.updateTouchScreenPanDelta ⟨⟨3⟩, ⟨4⟩⟩)]).manager :=
  (streams_isolated freshWorld rfl rfl).1 rfl (by decide +kernel) (by decide +kernel)

/-- After a stream that has dropped its input the mouse of the next one is not heard. -/
theorem dropped_stream_heard :
    ¬Isolated (freshWorld.run (fun _ => 0) []).manager
      (freshWorld.run (fun _ => 0) [.call (.dropInput 0)]).manager := by
  intro h
  have hmove := h (fun _ => 0) 0 [.call (.mouseCursorOffset ⟨⟨10⟩, ⟨0⟩⟩ ⟨1⟩ .Deg0)]
  have hcount := congrArg List.length hmove
  exact absurd hcount (by decide +kernel)

end ArtemisSwitch.Input

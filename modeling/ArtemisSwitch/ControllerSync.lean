import ArtemisSwitch.InputHost
import Mathlib.Data.List.Induction

/-!
# Controllers of the host and of the console

As long as no call about a controller is lost, the host holds what the console holds after every
frame.
-/

namespace ArtemisSwitch.Input
open Runs

namespace Slot

/-- The host knows the controller and has the state that is remembered. -/
structure Here (s : Slot) : Prop where
  arrived : s.arrived = true
  introduced : s.introduced = true
  received : s.received = some s.remembered

/-- There is no controller, and the host has it neutral if at all. -/
structure Away (s : Slot) : Prop where
  received : s.received.getD {} = {}
  remembered : s.remembered = {}

variable {s : Slot} {old count j : ℕ} {state : GamepadState}

lemma tell_here (h : s.arrived = true) (state : GamepadState) : (s.tell state).Here :=
  ⟨h, h, rfl⟩

lemma update_here (h : s.Here) (changed : Bool) (state : GamepadState) :
    (s.update changed state).Here ∧ (s.update changed state).remembered = state := by
  unfold update
  split_ifs with hsend
  · exact ⟨tell_here h.arrived state, rfl⟩
  · rw [not_or, not_not] at hsend
    exact ⟨h, hsend.2.symm⟩

/-- A connected slot after a frame. -/
lemma next_here (hcount : j < count) (hold : j < old → s.Here) :
    (s.next old count j state).Here ∧ (s.next old count j state).remembered = state := by
  unfold next
  rw [if_pos hcount]
  split_ifs with hle
  · have hchanged : decide (old ≠ count) = true := decide_eq_true (by omega)
    rw [hchanged, update, if_pos (.inl rfl)]
    exact ⟨tell_here rfl state, rfl⟩
  · exact update_here (hold (Nat.lt_of_not_le hle)) _ state

/-- A slot without a controller after a frame. -/
lemma next_away (hcount : count ≤ j) (hgone : old ≤ j → s.Away) :
    (s.next old count j state).Away := by
  unfold next
  rw [if_neg (Nat.not_lt.mpr hcount)]
  split_ifs with hlt
  · exact ⟨rfl, rfl⟩
  · exact hgone (Nat.le_of_not_lt hlt)

end Slot

section Frames

variable {F : Type} [FloatOps F] [Headers] {results : ℕ → Int32} {w : World F}
  {frame : Frame F} {specialKey : Bool}

/-- The host and the memory of the manager agree. -/
structure Synced (w : World F) : Prop where
  here : ∀ j, j < w.manager.lastControllerCount → (w.slot j).Here
  away : ∀ j, w.manager.lastControllerCount ≤ j → (w.slot j).Away

/-- A host that has been told nothing, and a manager that has forgotten the last one. -/
def newSession (m : Manager F) (now : ℤ) : World F where
  manager := m.resetForNewSession now

omit [Headers] in
theorem newSession_synced (m : Manager F) (now : ℤ) : Synced (newSession m now) := by
  refine ⟨fun j hj => absurd hj (Nat.not_lt_zero j), fun j _ => ⟨rfl, rfl⟩⟩

theorem handleControllers_synced (hs : Synced w)
    (h : (handleControllers results frame specialKey w).Delivered) :
    Synced (handleControllers results frame specialKey w) ∧
      ∀ j < clampControllerCount frame.reportedControllers,
        ((handleControllers results frame specialKey w).slot j).remembered =
          currentState w.manager frame specialKey j := by
  refine ⟨⟨fun j hj => ?_, fun j hj => ?_⟩, fun j hj => ?_⟩
  · rw [handleControllers_slot w j h]
    exact (Slot.next_here hj (hs.here j)).1
  · rw [handleControllers_slot w j h]
    exact Slot.next_away hj (hs.away j)
  · rw [handleControllers_slot w j h]
    exact (Slot.next_here hj (hs.here j)).2

/-- The frames of a session, one after the other. -/
def runFrames (results : ℕ → Int32) (frames : List (Frame F × Bool)) (w : World F) : World F :=
  frames.foldl (fun w frame => handleControllers results frame.1 frame.2 w) w

theorem runFrames_synced (frames : List (Frame F × Bool)) (hs : Synced w)
    (h : (runFrames results frames w).Delivered) : Synced (runFrames results frames w) := by
  induction frames using List.reverseRecOn with
  | nil => exact hs
  | append_singleton frames last ih =>
    rw [runFrames, List.foldl_concat] at h ⊢
    have hbefore := Delivered.of_extends (handleControllers_extends last.1 last.2 _) h
    exact (handleControllers_synced (ih hbefore) h).1

/-- The host's view of the controllers is that of the console in a frame. -/
structure Converged (host : Host) (m : Manager F) (frame : Frame F) (specialKey : Bool) :
    Prop where
  arrived : ∀ j < clampControllerCount frame.reportedControllers, host.introduced j = true
  current : ∀ j < clampControllerCount frame.reportedControllers,
    host.pads j = some (currentState m frame specialKey j)
  gone : ∀ j ≥ clampControllerCount frame.reportedControllers, (host.pads j).getD {} = {}

/-- The calls of one frame. -/
def frameCalls (before after : World F) : List (Send F × Int32) :=
  after.sent.drop before.sent.length

/-- After a frame without a failure the host and the console agree, provided that no arrival and
no state was lost before. -/
theorem controllers_converge (m : Manager F) (now : ℤ) (frames : List (Frame F × Bool))
    (hdelivered : (runFrames results frames (newSession m now)).Delivered)
    (hframe : ∀ entry ∈ frameCalls (runFrames results frames (newSession m now))
      (handleControllers results frame specialKey (runFrames results frames (newSession m now))),
      entry.2 = 0) :
    Converged (handleControllers results frame specialKey
        (runFrames results frames (newSession m now))).host
      (runFrames results frames (newSession m now)).manager frame specialKey := by
  have hs := runFrames_synced frames (newSession_synced m now) hdelivered
  generalize runFrames results frames (newSession m now) = w at hdelivered hframe hs ⊢
  have hafter : (handleControllers results frame specialKey w).Delivered := by
    intro entry hmem habout
    obtain ⟨calls, hcalls⟩ := @handleControllers_extends _ results _ _ frame specialKey w
    rw [frameCalls, ← hcalls, List.drop_left] at hframe
    rw [← hcalls] at hmem
    cases List.mem_append.mp hmem with
    | inl hold => exact hdelivered entry hold habout
    | inr hnew => exact hframe entry hnew
  obtain ⟨hsynced, hcurrent⟩ := handleControllers_synced hs hafter
  refine ⟨fun j hj => (hsynced.here j hj).introduced, fun j hj => ?_,
    fun j hj => (hsynced.away j hj).received⟩
  exact (hsynced.here j hj).received.trans (congrArg some (hcurrent j hj))

end Frames

/-- One controller with the button A held. -/
def onePad : Frame Exact :=
  { Frame.quiet with
    reportedControllers := 1
    controllers := fun _ => ⟨fun button => button = .BUTTON_A, fun _ => ⟨0⟩⟩
    steadyNowMs := fun _ => 5 }

/-- All buttons keep their names. -/
def plainMapping : List (ControllerButton × ControllerButton) :=
  [(.BUTTON_A, .BUTTON_A), (.BUTTON_B, .BUTTON_B)]

theorem onePad_converges :
    Converged (handleControllers (fun _ => 0) onePad false
        (runFrames (fun _ => 0) [(onePad, false)] (newSession (.initial plainMapping 0) 0))).host
      (runFrames (fun _ => 0) [(onePad, false)]
        (newSession (.initial plainMapping 0) 0)).manager onePad false :=
  controllers_converge (.initial plainMapping 0) 0 [(onePad, false)] (by decide +kernel)
    (by decide +kernel)

/-- A state that is lost is not sent again while the button is held. -/
theorem lostState_differs :
    (∀ entry ∈ frameCalls
        (runFrames (fun n => if n = 1 then -1 else 0) [(onePad, false)]
          (newSession (.initial plainMapping 0) 0))
        (handleControllers (fun n => if n = 1 then -1 else 0) onePad false
          (runFrames (fun n => if n = 1 then -1 else 0) [(onePad, false)]
            (newSession (.initial plainMapping 0) 0))), entry.2 = 0) ∧
      ¬Converged (handleControllers (fun n => if n = 1 then -1 else 0) onePad false
          (runFrames (fun n => if n = 1 then -1 else 0) [(onePad, false)]
            (newSession (.initial plainMapping 0) 0))).host
        (runFrames (fun n => if n = 1 then -1 else 0) [(onePad, false)]
          (newSession (.initial plainMapping 0) 0)).manager onePad false := by
  refine ⟨by decide +kernel, fun h => ?_⟩
  have hstate := h.current 0 (by decide +kernel)
  exact absurd hstate (by decide +kernel)

end ArtemisSwitch.Input

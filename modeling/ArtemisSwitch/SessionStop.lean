import ArtemisSwitch.MoonlightSession
import Mathlib.Tactic.Common

/-!
# Connections that outlive their session

A stop waits for no start that is under way, and no start asks whether a stop has come.
-/

namespace ArtemisSwitch.Session
open Runs

variable {cfg : Config} {c : Component} {w w' u : World} {a : Attempt}

/-! ## What Limelight changes -/

/-- Only what is set up, and the calls that the objects got, differ. -/
def Quiet (w w' : World) : Prop := ∃ up calls, w' = { w with up := up, calls := calls }

lemma Quiet.refl (w : World) : Quiet w w := ⟨w.up, w.calls, rfl⟩

lemma Quiet.trans (h : Quiet w w') (h' : Quiet w' u) : Quiet w u := by
  obtain ⟨up, calls, rfl⟩ := h
  obtain ⟨up', calls', rfl⟩ := h'
  exact ⟨up', calls', rfl⟩

@[simp] lemma callbacks_setup : (callbacks cfg c).setup = setupCallback cfg c := by
  cases c <;> rfl

@[simp] lemma callbacks_start : (callbacks cfg c).start = callback cfg c .start := by
  cases c <;> rfl

@[simp] lemma callbacks_stop : (callbacks cfg c).stop = callback cfg c .stop := by
  cases c <;> rfl

@[simp] lemma callbacks_cleanup : (callbacks cfg c).cleanup = callback cfg c .cleanup := by
  cases c <;> rfl

lemma quiet_callback (call : Call) : Quiet w (callback cfg c call w) := by
  unfold callback
  split_ifs
  · exact ⟨_, _, rfl⟩
  · exact .refl w

lemma quiet_setupCallback (result : Int) : Quiet w (setupCallback cfg c result w).1 := by
  unfold setupCallback
  split_ifs
  · exact ⟨_, _, rfl⟩
  · exact .refl w

lemma quiet_release : Quiet w (release cfg c w) := by
  unfold release
  simp only [callbacks_stop, callbacks_cleanup]
  split_ifs
  · exact (quiet_callback .stop).trans ((quiet_callback .cleanup).trans ⟨_, _, rfl⟩)
  · exact .refl w

lemma quiet_releaseAll : Quiet w (releaseAll cfg w) := quiet_release.trans quiet_release

lemma quiet_bringUp (result : Int) : Quiet w (bringUp cfg c result w).1 := by
  unfold bringUp
  simp only [callbacks_setup, callbacks_start]
  split_ifs
  · exact (quiet_setupCallback result).trans (Quiet.trans ⟨_, _, rfl⟩ (quiet_callback .start))
  · exact quiet_setupCallback result

/-! ## Which starts get through -/

lemma Component.forall_iff {P : Component → Prop} :
    (∀ c, P c) ↔ P .videoDecoder ∧ P .audioRenderer := by
  refine ⟨fun h => ⟨h _, h _⟩, fun h c => ?_⟩
  cases c with
  | videoDecoder => exact h.1
  | audioRenderer => exact h.2

instance {P : Component → Prop} [DecidablePred P] : Decidable (∀ c, P c) :=
  decidable_of_iff _ Component.forall_iff.symm

/-- Whether the setup callbacks reach the object. -/
def Config.reaches (cfg : Config) (w : World) (c : Component) : Bool :=
  w.activeSession && !cfg.inputOnly && cfg.has c

/-- The setup callback returns success. -/
def Attempt.setsUp (a : Attempt) (cfg : Config) (w : World) (c : Component) : Prop :=
  cfg.reaches w c = true → a.setup c = DR_OK

instance (a : Attempt) (cfg : Config) (w : World) (c : Component) :
    Decidable (a.setsUp cfg w c) :=
  inferInstanceAs (Decidable (_ → _))

/-- Nothing breaks, and no callback refuses. -/
def Attempt.Connects (a : Attempt) (cfg : Config) (w : World) : Prop :=
  a.breaks = none ∧ ∀ c, a.setsUp cfg w c

instance (a : Attempt) (cfg : Config) (w : World) : Decidable (a.Connects cfg w) :=
  inferInstanceAs (Decidable (_ ∧ _))

lemma Quiet.reaches (h : Quiet w w') : cfg.reaches w' c = cfg.reaches w c := by
  obtain ⟨up, calls, rfl⟩ := h
  rfl

lemma Quiet.setsUp (h : Quiet w w') : a.setsUp cfg w' c ↔ a.setsUp cfg w c := by
  unfold Attempt.setsUp
  rw [h.reaches]

lemma setupCallback_snd (result : Int) :
    (setupCallback cfg c result w).2 = if cfg.reaches w c then result else DR_OK := by
  unfold setupCallback Config.reaches
  split_ifs <;> rfl

lemma bringUp_snd : (bringUp cfg c (a.setup c) w).2 = true ↔ a.setsUp cfg w c := by
  have hresult : (setupCallback cfg c (a.setup c) w).2 = DR_OK ↔ a.setsUp cfg w c := by
    rw [setupCallback_snd]
    unfold Attempt.setsUp
    split_ifs with hreach <;> simp [hreach]
  unfold bringUp
  simp only [callbacks_setup, ← hresult]
  split_ifs with h <;> simp [h]

/-- A start that gets through makes the connection live, any other one leaves it as it is. -/
lemma liStartConnection_cases (a : Attempt) (w : World) :
    (a.Connects cfg w ∧ ∃ t, Quiet w t ∧
        liStartConnection cfg a w = (connectionStarted { t with live := true }, true)) ∨
      (¬ a.Connects cfg w ∧ ∃ t, Quiet w t ∧ liStartConnection cfg a w = (t, false)) := by
  have hvideo := @bringUp_snd cfg .videoDecoder w a
  have hquiet := @quiet_bringUp cfg .videoDecoder w (a.setup .videoDecoder)
  unfold liStartConnection
  dsimp only
  generalize bringUp cfg .videoDecoder (a.setup .videoDecoder) w = v at hvideo hquiet ⊢
  have haudio := @bringUp_snd cfg .audioRenderer v.1 a
  have hquiet' := hquiet.trans
    (@quiet_bringUp cfg .audioRenderer v.1 (a.setup .audioRenderer))
  rw [hquiet.setsUp] at haudio
  generalize bringUp cfg .audioRenderer (a.setup .audioRenderer) v.1 = s at haudio hquiet' ⊢
  split_ifs with h1 h2 h3
  · refine .inr ⟨fun h => ?_, _, quiet_releaseAll, rfl⟩
    rw [h.1] at h1
    exact absurd h1 (by simp)
  · refine .inr ⟨fun h => ?_, _, hquiet.trans quiet_releaseAll, rfl⟩
    simp [hvideo.mpr (h.2 _), h.1] at h2
  · refine .inr ⟨fun h => ?_, _, hquiet'.trans quiet_releaseAll, rfl⟩
    simp [haudio.mpr (h.2 _), h.1] at h3
  · have hv : v.2 = true ∧ a.breaks ≠ some .beforeAudio := by simpa using h2
    have hs : s.2 = true ∧ a.breaks ≠ some .atTheEnd := by simpa using h3
    refine .inl ⟨⟨?_, ?_⟩, _, hquiet', rfl⟩
    · cases hbreak : a.breaks with
      | none => rfl
      | some b =>
        cases b with
        | beforeVideo => exact absurd hbreak h1
        | beforeAudio => exact absurd hbreak hv.2
        | atTheEnd => exact absurd hbreak hs.2
    · intro c
      cases c with
      | videoDecoder => exact hvideo.mp hv.1
      | audioRenderer => exact haudio.mp hs.1

/-! ## Stops and starts -/

/-- A stop that is not the first since the last start does nothing. -/
structure Stopped (w : World) : Prop where
  requested : w.flags.stopRequested = true → w.stopCalled = true
  notLive : w.stopCalled = true → w.live = false

/-- Flags other than this one, and tasks, do not matter. -/
lemma Stopped.of_eq (h : Stopped w) (hr : w'.flags.stopRequested = w.flags.stopRequested)
    (hs : w'.stopCalled = w.stopCalled) (hl : w'.live = w.live) : Stopped w' :=
  ⟨fun hreq => hs.trans (h.requested (hr ▸ hreq)), fun hcalled =>
    hl.trans (h.notLive (hs ▸ hcalled))⟩

lemma Stopped.quiet (h : Stopped w) (hq : Quiet w w') : Stopped w' := by
  obtain ⟨up, calls, rfl⟩ := hq
  exact ⟨h.requested, h.notLive⟩

lemma quiet_liStopConnection (w : World) :
    ∃ t, Quiet w t ∧ liStopConnection cfg w = { t with live := false } :=
  ⟨_, quiet_releaseAll, rfl⟩

lemma Stopped.liStopConnection (h : Stopped w) : Stopped (liStopConnection cfg w) := by
  obtain ⟨t, hquiet, heq⟩ := @quiet_liStopConnection cfg w
  rw [heq]
  exact ⟨(h.quiet hquiet).requested, fun _ => rfl⟩

lemma stop_spec (terminateApp syncHostQuit : Bool) (h : Stopped w) :
    Stopped (stop cfg terminateApp syncHostQuit w) := by
  unfold stop
  dsimp only
  split_ifs with hrequested hquit
  · exact ⟨fun _ => rfl, fun _ => h.notLive (h.requested hrequested)⟩
  all_goals
    obtain ⟨t, hquiet, heq⟩ := @quiet_liStopConnection cfg _
    rw [heq]
    refine ⟨fun _ => ?_, fun _ => rfl⟩
    obtain ⟨up, calls, rfl⟩ := hquiet
    rfl

/-- After a stop no start gets through: those under way fail, and so do those made later. -/
def NoStartGetsThrough (cfg : Config) (w : World) : Label → Prop
  | .connect _ a => w.stopCalled = true → ¬ a.Connects cfg w
  | _ => True

lemma Stopped.start (h : Stopped w) (callback : Callback) (isSunshine : Bool) :
    Stopped (start callback isSunshine w) :=
  ⟨fun hreq => absurd hreq Bool.false_ne_true, h.notLive⟩

/-- A callback changes flags, and never the request to stop. -/
lemma run_flags (callback : Callback) (ok : Bool) (w : World) :
    ∃ flags, callback.run ok w = { w with flags := flags } ∧
      flags.stopRequested = w.flags.stopRequested := by
  unfold Callback.run
  cases callback with
  | view => exact ⟨_, rfl, rfl⟩
  | restart =>
    dsimp only
    split_ifs
    · exact ⟨_, rfl, rfl⟩
    · exact ⟨_, rfl, rfl⟩
  | restartWithApolloOptions =>
    dsimp only
    split_ifs
    · exact ⟨_, rfl, rfl⟩
    · exact ⟨_, rfl, rfl⟩

lemma Stopped.run (h : Stopped w) (callback : Callback) (ok : Bool) :
    Stopped (callback.run ok w) := by
  obtain ⟨flags, heq, hsame⟩ := run_flags callback ok w
  rw [heq]
  exact h.of_eq hsame rfl rfl

lemma Stopped.clientDone (h : Stopped w) (callback : Callback) (ok : Bool) :
    Stopped (clientDone callback ok w) := by
  unfold Session.clientDone
  split_ifs
  · exact h.of_eq rfl rfl rfl
  · exact h.run callback false

lemma Stopped.resultDone (h : Stopped w) (callback : Callback) (ok : Bool) :
    Stopped (resultDone callback ok w) := by
  unfold Session.resultDone
  refine Stopped.run ?_ callback ok
  split_ifs
  · exact h
  · unfold markTerminated
    split_ifs
    · exact h.of_eq rfl rfl rfl
    · exact h

lemma Stopped.connect (h : Stopped w) (callback : Callback)
    (hok : w.stopCalled = true → ¬ a.Connects cfg w) : Stopped (connect cfg callback a w) := by
  unfold Session.connect
  obtain ⟨hconnects, t, hquiet, heq⟩ | ⟨_, t, hquiet, heq⟩ :=
    @liStartConnection_cases cfg a w
  · rw [heq]
    have ht := h.quiet hquiet
    obtain ⟨up, calls, rfl⟩ := hquiet
    unfold connectionStarted
    split_ifs
    · exact ⟨fun hreq => absurd hreq Bool.false_ne_true, fun hcalled =>
        absurd hconnects (hok hcalled)⟩
    · exact ⟨ht.requested, fun hcalled => absurd hconnects (hok hcalled)⟩
  · rw [heq]
    exact (h.quiet hquiet).of_eq rfl rfl rfl

lemma Stopped.connectionTerminated (h : Stopped w) : Stopped (connectionTerminated w) := by
  unfold Session.connectionTerminated
  split_ifs
  · exact h.of_eq rfl rfl rfl
  · exact h

lemma step_stopped {label : Label} (h : Stopped w) (hok : NoStartGetsThrough cfg w label)
    (hstep : step cfg w label = some w') : Stopped w' := by
  have hwithout : ∀ i, Stopped (w.without i) := fun i => h.of_eq rfl rfl rfl
  have hmarked : Stopped (liStopConnection cfg (markRestarting w)) :=
    (h.of_eq rfl rfl rfl : Stopped (markRestarting w)).liStopConnection
  cases label with
  | start isSunshine =>
    obtain ⟨_, heq⟩ := Option.ite_none_left_eq_some.mp hstep
    obtain rfl := Option.some.inj heq
    exact h.start _ _
  | stop terminateApp syncHostQuit =>
    obtain ⟨_, heq⟩ := Option.ite_none_left_eq_some.mp hstep
    obtain rfl := Option.some.inj heq
    exact stop_spec _ _ h
  | restart =>
    obtain ⟨_, heq⟩ := Option.ite_none_left_eq_some.mp hstep
    unfold restart at heq
    dsimp only at heq
    split_ifs at heq
    obtain rfl := Option.some.inj heq
    exact hmarked.start _ _
  | restartWithApolloOptions =>
    obtain ⟨_, heq⟩ := Option.ite_none_left_eq_some.mp hstep
    obtain rfl := Option.some.inj heq
    exact hmarked.start _ _
  | delete =>
    obtain ⟨_, heq⟩ := Option.ite_none_left_eq_some.mp hstep
    obtain rfl := Option.some.inj heq
    exact h.of_eq rfl rfl rfl
  | client i ok =>
    unfold step at hstep
    dsimp only at hstep
    split at hstep
    · obtain rfl := Option.some.inj hstep
      exact (hwithout i).clientDone _ _
    · cases hstep
  | connect i a =>
    unfold step at hstep
    dsimp only at hstep
    split at hstep
    · obtain rfl := Option.some.inj hstep
      exact (hwithout i).connect _ hok
    · cases hstep
  | result i =>
    unfold step at hstep
    dsimp only at hstep
    split at hstep
    · obtain rfl := Option.some.inj hstep
      exact (hwithout i).resultDone _ _
    · cases hstep
  | terminated =>
    unfold step at hstep
    dsimp only at hstep
    split_ifs at hstep
    obtain rfl := Option.some.inj hstep
    exact h.connectionTerminated

/-- No live connection once a stop has been called and no step of a start is pending. -/
def NoLiveAfterStop (w : World) : Prop := w.stopCalled = true → w.tasks = [] → w.live = false

lemma connect_live {callback : Callback} (htasks : w.tasks = []) (h : a.Connects cfg w) :
    (connect cfg callback a w).live = true ∧
      (connect cfg callback a w).stopCalled = w.stopCalled ∧
      (connect cfg callback a w).tasks = [.result callback true] := by
  unfold connect
  obtain ⟨_, t, ⟨up, calls, rfl⟩, heq⟩ | ⟨hnot, _⟩ := @liStartConnection_cases cfg a w
  · rw [heq]
    unfold connectionStarted
    dsimp only
    rw [htasks]
    split_ifs <;> exact ⟨rfl, rfl, rfl⟩
  · exact absurd h hnot

/-- The connection stays down in every run in which no start gets through after a stop; and
after the last start that does, it stays up. -/
theorem stop_ends_connection (cfg : Config) :
    (∀ w, Run (step cfg) (NoStartGetsThrough cfg) {} w → NoLiveAfterStop w) ∧
      ∀ w callback a, w.stopCalled = true → w.tasks = [.connect callback] → a.Connects cfg w →
        ∃ t u, step cfg w (.connect 0 a) = some t ∧ step cfg t (.result 0) = some u ∧
          ¬ NoLiveAfterStop u := by
  refine ⟨fun w hrun => ?_, fun w callback a hcalled htasks hconnects => ?_⟩
  · have hstopped : Stopped w := hrun.invariant
      ⟨fun hreq => absurd hreq Bool.false_ne_true, fun _ => rfl⟩
      fun _ _ _ ht hok hstep => step_stopped ht hok hstep
    exact fun hcalled _ => hstopped.notLive hcalled
  · have hrest : (w.without 0).tasks = [] := by
      show w.tasks.eraseIdx 0 = []
      rw [htasks]
      rfl
    obtain ⟨hconnected, hcalled', htasks'⟩ := @connect_live _ _ _ callback hrest hconnects
    have hfirst : step cfg w (.connect 0 a) = some (connect cfg callback a (w.without 0)) := by
      unfold step
      rw [htasks]
      rfl
    refine ⟨_, resultDone callback true ((connect cfg callback a (w.without 0)).without 0),
      hfirst, ?_, fun hno => ?_⟩
    · unfold step
      rw [htasks']
      rfl
    · have hdone : ((connect cfg callback a (w.without 0)).without 0).tasks = [] := by
        show (connect cfg callback a (w.without 0)).tasks.eraseIdx 0 = []
        rw [htasks']
        rfl
      obtain ⟨flags, heq, _⟩ := run_flags callback true
        ((connect cfg callback a (w.without 0)).without 0)
      have hdown : (connect cfg callback a (w.without 0)).live = false := by
        unfold resultDone at hno
        rw [if_pos rfl, heq] at hno
        exact hno (hcalled'.trans hcalled) hdone
      exact absurd (hdown.symm.trans hconnected) Bool.false_ne_true

/-- The user leaves while the start is under way. -/
def leaveWhileStarting : List Label :=
  [.start false, .client 0 true, .stop false false, .connect 0 {}, .result 0]

/-- The start gets through after the stop, and the view is closed with the connection live. -/
theorem leaveWhileStarting_live :
    ∃ w, exec (step {}) {} leaveWhileStarting = some w ∧ w.stopCalled = true ∧ w.tasks = [] ∧
      w.live = true ∧
      ∃ u, exec (step {}) w (viewDestructor true) = some u ∧ u.deleted = true ∧
        u.tasks = [] ∧ u.live = true :=
  ⟨_, rfl, rfl, rfl, rfl, _, rfl, rfl, rfl, rfl⟩

instance (cfg : Config) (w : World) (label : Label) :
    Decidable (NoStartGetsThrough cfg w label) := by
  unfold NoStartGetsThrough
  cases label <;> infer_instance

/-- The user leaves a stream that has been started. -/
def leaveAfterStart : List Label :=
  [.start false, .client 0 true, .connect 0 {}, .result 0, .stop false false]

/-- The usual order of the steps, and the two directions on it. -/
theorem leaveAfterStart_notLive :
    ∃ w, exec (step {}) {} leaveAfterStart = some w ∧ w.stopCalled = true ∧ NoLiveAfterStop w := by
  have hrun : exec (guarded (step {}) (NoStartGetsThrough {})) {} leaveAfterStart = some _ := rfl
  exact ⟨_, rfl, rfl, (stop_ends_connection {}).1 _ (Run.of_exec_guarded hrun)⟩

end ArtemisSwitch.Session

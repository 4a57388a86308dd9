import ArtemisSwitch.SessionStop

/-!
# What Limelight does to one object

The calls that the decoder, or the audio renderer, gets from a start and a stop, and the phases in
which they leave it.
-/

namespace ArtemisSwitch.Session

/-! ## Setups and their cleanups -/

/-- A setup, whatever it returns, and the end of the object end what came before. -/
def Call.ends : Call → Bool
  | .setup _ => true
  | .delete => true
  | _ => false

/-- The calls up to the next setup, or the end of the object. -/
def span (after : List Call) : List Call := after.takeWhile fun call => !call.ends

/-- One cleanup, which must have come before the next setup and the end of the object. -/
structure CleanedUp (after : List Call) : Prop where
  atMostOnce : (span after).count .cleanup ≤ 1
  once : span after ≠ after → (span after).count .cleanup = 1

/-- Every setup that succeeds is cleaned up. -/
def Paired (calls : List Call) : Prop :=
  ∀ before after, calls = before ++ .setup DR_OK :: after → CleanedUp after

/-! ## Phases of an object -/

inductive Phase where
  | fresh
  | opened
  | closed
  | broken
  deriving DecidableEq

namespace Phase

/-- A setup that is refused leaves nothing to clean up. -/
def next : Phase → Call → Phase
  | .broken, _ => .broken
  | .opened, .setup _ => .broken
  | _, .setup result => if result = DR_OK then .opened else .fresh
  | .opened, .cleanup => .closed
  | .closed, .cleanup => .broken
  | .opened, .delete => .broken
  | _, .delete => .fresh
  | p, _ => p

/-- Where the calls lead. -/
def after (p : Phase) (calls : List Call) : Phase := calls.foldl next p

@[simp] lemma after_nil (p : Phase) : p.after [] = p := rfl

@[simp] lemma after_cons (p : Phase) (call : Call) (calls : List Call) :
    p.after (call :: calls) = (p.next call).after calls := rfl

lemma after_append (p : Phase) (calls more : List Call) :
    p.after (calls ++ more) = (p.after calls).after more := List.foldl_append

@[simp] lemma after_broken (calls : List Call) : after .broken calls = .broken := by
  induction calls with
  | nil => rfl
  | cons call calls ih => exact ih

end Phase

lemma paired_cons {call : Call} {calls : List Call} :
    Paired (call :: calls) ↔ (call = .setup DR_OK → CleanedUp calls) ∧ Paired calls := by
  constructor
  · intro h
    refine ⟨fun hcall => h [] calls (by rw [hcall, List.nil_append]), fun before after heq => ?_⟩
    exact h (call :: before) after (by rw [heq, List.cons_append])
  · rintro ⟨hhead, htail⟩ before after heq
    cases before with
    | nil =>
      obtain ⟨hcall, rfl⟩ := List.cons.inj heq
      exact hhead hcall
    | cons first before => exact htail before after (List.cons.inj heq).2

lemma cleanedUp_nil : CleanedUp [] := ⟨Nat.zero_le _, fun h => absurd rfl h⟩

lemma span_cons_of_ends {call : Call} {calls : List Call} (h : call.ends = true) :
    span (call :: calls) = [] := by
  rw [span, List.takeWhile_cons_of_neg (by rw [h]; exact Bool.false_ne_true)]

lemma span_cons {call : Call} {calls : List Call} (h : call.ends = false) :
    span (call :: calls) = call :: span calls := by
  rw [span, List.takeWhile_cons_of_pos (by rw [h]; rfl)]
  rfl

lemma not_cleanedUp_cons {call : Call} {calls : List Call} (h : call.ends = true) :
    ¬ CleanedUp (call :: calls) := by
  intro hclean
  have honce := hclean.once (by rw [span_cons_of_ends h]; exact (List.cons_ne_nil _ _).symm)
  rw [span_cons_of_ends h] at honce
  exact absurd honce (by decide)

lemma cleanedUp_cons {call : Call} {calls : List Call} (h : call.ends = false)
    (hne : call ≠ .cleanup) : CleanedUp (call :: calls) ↔ CleanedUp calls := by
  have hcount : (span (call :: calls)).count .cleanup = (span calls).count .cleanup := by
    rw [span_cons h, List.count_cons_of_ne hne]
  have hspan : span (call :: calls) ≠ call :: calls ↔ span calls ≠ calls := by
    rw [span_cons h, Ne, List.cons_inj_right]
  constructor
  · intro hclean
    exact ⟨hcount ▸ hclean.atMostOnce, fun hs => hcount ▸ hclean.once (hspan.mpr hs)⟩
  · intro hclean
    exact ⟨hcount ▸ hclean.atMostOnce, fun hs => hcount.trans (hclean.once (hspan.mp hs))⟩

lemma cleanedUp_cons_cleanup {calls : List Call} :
    CleanedUp (.cleanup :: calls) ↔ (span calls).count .cleanup = 0 := by
  have hcount : (span (.cleanup :: calls)).count .cleanup = (span calls).count .cleanup + 1 := by
    rw [span_cons rfl, List.count_cons_self]
  constructor
  · intro hclean
    have hle := hclean.atMostOnce
    omega
  · intro hzero
    exact ⟨by omega, fun _ => by omega⟩

/-- What the calls must do, seen from each phase. -/
lemma after_ne_broken (calls : List Call) :
    (Phase.fresh.after calls ≠ .broken ↔ Paired calls) ∧
      (Phase.opened.after calls ≠ .broken ↔ CleanedUp calls ∧ Paired calls) ∧
      (Phase.closed.after calls ≠ .broken ↔
        (span calls).count .cleanup = 0 ∧ Paired calls) := by
  have hnil : Paired [] := fun before after heq => by simp at heq
  induction calls with
  | nil => simp [cleanedUp_nil, hnil, span]
  | cons call calls ih =>
    obtain ⟨hfresh, hopened, hclosed⟩ := ih
    simp only [Phase.after_cons, paired_cons]
    cases call with
    | setup result =>
      have hends : (Call.setup result).ends = true := rfl
      by_cases hok : result = DR_OK
      · subst hok
        simp [Phase.next, hopened, not_cleanedUp_cons hends, span_cons_of_ends hends]
      · simp [Phase.next, hok, hfresh, not_cleanedUp_cons hends, span_cons_of_ends hends]
    | start =>
      have hends : Call.start.ends = false := rfl
      have hcount : (span (.start :: calls)).count .cleanup = (span calls).count .cleanup := by
        rw [span_cons hends, List.count_cons_of_ne (by decide)]
      simp [Phase.next, hfresh, hopened, hclosed, cleanedUp_cons hends, hcount]
    | stop =>
      have hends : Call.stop.ends = false := rfl
      have hcount : (span (.stop :: calls)).count .cleanup = (span calls).count .cleanup := by
        rw [span_cons hends, List.count_cons_of_ne (by decide)]
      simp [Phase.next, hfresh, hopened, hclosed, cleanedUp_cons hends, hcount]
    | cleanup =>
      have hcount : (span (.cleanup :: calls)).count .cleanup ≠ 0 := by
        rw [span_cons rfl, List.count_cons_self]
        omega
      simp [Phase.next, hfresh, hclosed, cleanedUp_cons_cleanup, hcount]
    | delete =>
      have hends : Call.delete.ends = true := rfl
      simp [Phase.next, hfresh, not_cleanedUp_cons hends, span_cons_of_ends hends]

/-! ## What Limelight does to one object -/

variable {cfg : Config} {c c' : Component} {w w' : World} {a : Attempt} {p q : Phase}

/-- The setup callback reaches the object of an active session. -/
def Config.real (cfg : Config) (c : Component) : Bool := !cfg.inputOnly && cfg.has c

/-- While the session is active, an object is in this phase. -/
structure Tracks (cfg : Config) (c : Component) (w : World) (p : Phase) : Prop where
  active : w.activeSession = true
  phase : Phase.fresh.after (w.calls c) = p
  up : cfg.real c = true → p ≠ .broken → (w.up c = true ↔ p = .opened)
  untouched : cfg.real c = false → p = .fresh

lemma Tracks.congr (h : Tracks cfg c w p) (hp : p = q) : Tracks cfg c w q := hp ▸ h

lemma Tracks.of_eq (h : Tracks cfg c w p) (ha : w'.activeSession = w.activeSession)
    (hc : w'.calls c = w.calls c) (hu : w'.up c = w.up c) : Tracks cfg c w' p :=
  ⟨ha.trans h.active, by rw [hc, h.phase], by rw [hu]; exact h.up, h.untouched⟩

lemma callback_self (call : Call) (hactive : w.activeSession = true) :
    (callback cfg c call w).calls c = w.calls c ++ if cfg.has c then [call] else [] := by
  unfold callback
  rw [hactive, Bool.true_and]
  split_ifs
  · exact Function.update_self ..
  · exact (List.append_nil _).symm

lemma callback_other (call : Call) (hne : c ≠ c') :
    (callback cfg c' call w).calls c = w.calls c := by
  unfold callback
  split_ifs
  · exact Function.update_of_ne hne ..
  · rfl

lemma callback_rest (call : Call) :
    (callback cfg c' call w).activeSession = w.activeSession ∧
      (callback cfg c' call w).up = w.up := by
  unfold callback
  split_ifs <;> exact ⟨rfl, rfl⟩

/-- The cleanup of what is set up. -/
def Phase.released : Phase → Phase
  | .opened => .closed
  | p => p

lemma release_of_up (h : w.up c' = true) :
    release cfg c' w =
      { callback cfg c' .cleanup (callback cfg c' .stop w) with
        up := Function.update w.up c' false } := by
  unfold release
  simp only [callbacks_stop, callbacks_cleanup]
  rw [if_pos h, (callback_rest .cleanup).2, (callback_rest .stop).2]

lemma release_of_down (h : w.up c' = false) : release cfg c' w = w := by
  unfold release
  rw [if_neg (by rw [h]; exact Bool.false_ne_true)]

lemma Tracks.release_self (h : Tracks cfg c w p) : Tracks cfg c (release cfg c w) p.released := by
  by_cases hup : w.up c = true
  · rw [release_of_up hup]
    have hstop := (@callback_rest cfg c w .stop).1
    have hcalls : (callback cfg c .cleanup (callback cfg c .stop w)).calls c =
        w.calls c ++ if cfg.has c then [.stop, .cleanup] else [] := by
      rw [callback_self _ (hstop.trans h.active), callback_self _ h.active]
      cases cfg.has c <;> simp
    refine ⟨(callback_rest _).1.trans (hstop.trans h.active), ?_, fun _ _ => ?_, fun hreal => ?_⟩
    · show Phase.fresh.after ((callback cfg c .cleanup (callback cfg c .stop w)).calls c) = _
      rw [hcalls, Phase.after_append, h.phase]
      cases hreal : cfg.real c with
      | false =>
        rw [h.untouched hreal]
        cases cfg.has c <;> rfl
      | true =>
        have hhas : cfg.has c = true := (Bool.and_eq_true_iff.mp hreal).2
        rw [hhas, if_pos rfl]
        by_cases hp : p = .broken
        · rw [hp]
          rfl
        · rw [(h.up hreal hp).mp hup]
          rfl
    · show Function.update w.up c false c = true ↔ _
      rw [Function.update_self]
      cases p <;> simp [Phase.released]
    · rw [h.untouched hreal]
      rfl
  · have hdown : w.up c = false := by simpa using hup
    rw [release_of_down hdown]
    refine h.congr ?_
    cases hreal : cfg.real c with
    | false =>
      rw [h.untouched hreal]
      rfl
    | true =>
      cases p with
      | opened => exact absurd ((h.up hreal (by decide)).mpr rfl) hup
      | _ => rfl

lemma Tracks.release_other (h : Tracks cfg c w p) (hne : c ≠ c') :
    Tracks cfg c (release cfg c' w) p := by
  by_cases hup : w.up c' = true
  · rw [release_of_up hup]
    refine h.of_eq ((callback_rest _).1.trans (callback_rest _).1) ?_ ?_
    · exact (callback_other _ hne).trans (callback_other _ hne)
    · exact Function.update_of_ne hne ..
  · rw [release_of_down (by simpa using hup)]
    exact h

lemma Tracks.releaseAll (h : Tracks cfg c w p) : Tracks cfg c (releaseAll cfg w) p.released := by
  cases c with
  | videoDecoder =>
    exact (@Tracks.release_other _ _ .audioRenderer _ _ h (by decide)).release_self
  | audioRenderer =>
    exact @Tracks.release_other _ _ .videoDecoder _ _ h.release_self (by decide)

lemma Tracks.liStopConnection (h : Tracks cfg c w p) :
    Tracks cfg c (liStopConnection cfg w) p.released :=
  h.releaseAll.of_eq rfl rfl rfl

lemma setupCallback_of_real (ha : w.activeSession = true) (hr : cfg.real c = true)
    (result : Int) : setupCallback cfg c result w =
      ({ w with calls := Function.update w.calls c (w.calls c ++ [.setup result]) }, result) := by
  obtain ⟨hinput, hhas⟩ := Bool.and_eq_true_iff.mp hr
  unfold setupCallback
  rw [ha, hinput, hhas]
  rfl

lemma setupCallback_of_not_real (hr : cfg.real c = false) (result : Int) :
    setupCallback cfg c result w = (w, DR_OK) := by
  unfold setupCallback
  rw [Bool.and_assoc, show (!cfg.inputOnly && cfg.has c) = false from hr, Bool.and_false]
  rfl

/-- An object in place of which the callbacks answer is not touched by its setup. -/
lemma bringUp_of_not_real (hr : cfg.real c = false) (result : Int) :
    bringUp cfg c result w =
      (callback cfg c .start { w with up := Function.update w.up c true }, true) := by
  unfold bringUp
  simp only [callbacks_setup, callbacks_start]
  rw [setupCallback_of_not_real hr]
  exact if_pos rfl

lemma bringUp_accepted (ha : w.activeSession = true) (hr : cfg.real c = true) :
    bringUp cfg c DR_OK w =
      (callback cfg c .start { w with
        calls := Function.update w.calls c (w.calls c ++ [.setup DR_OK])
        up := Function.update w.up c true }, true) := by
  unfold bringUp
  simp only [callbacks_setup, callbacks_start]
  rw [setupCallback_of_real ha hr]
  exact if_pos rfl

lemma bringUp_refused (ha : w.activeSession = true) (hr : cfg.real c = true) {result : Int}
    (hresult : result ≠ DR_OK) : bringUp cfg c result w =
      ({ w with calls := Function.update w.calls c (w.calls c ++ [.setup result]) }, false) := by
  unfold bringUp
  simp only [callbacks_setup, callbacks_start]
  rw [setupCallback_of_real ha hr]
  exact if_neg hresult

lemma Tracks.bringUp_self (h : Tracks cfg c w p) (result : Int) :
    Tracks cfg c (bringUp cfg c result w).1
      (if cfg.real c = true then p.next (.setup result) else p) := by
  cases hreal : cfg.real c with
  | false =>
    have hp := h.untouched hreal
    rw [bringUp_of_not_real hreal, if_neg Bool.false_ne_true]
    refine ⟨(callback_rest _).1.trans h.active, ?_, fun hr => absurd hr (by simp [hreal]),
      h.untouched⟩
    dsimp only
    rw [callback_self .start (by exact h.active), Phase.after_append, h.phase, hp]
    cases cfg.has c <;> rfl
  | true =>
    have hhas : cfg.has c = true := (Bool.and_eq_true_iff.mp hreal).2
    by_cases hok : result = DR_OK
    · subst hok
      rw [bringUp_accepted h.active hreal, if_pos rfl]
      refine ⟨(callback_rest _).1.trans h.active, ?_, fun _ hne => ?_, fun hr => ?_⟩
      · dsimp only
        rw [callback_self .start (by exact h.active), hhas]
        show Phase.fresh.after (Function.update w.calls c _ c ++ [.start]) = _
        rw [Function.update_self, Phase.after_append, Phase.after_append, h.phase]
        cases p <;> rfl
      · dsimp only
        rw [(callback_rest .start).2]
        show Function.update w.up c true c = true ↔ _
        rw [Function.update_self]
        cases p <;> simp_all [Phase.next]
      · exact absurd hr (by simp [hreal])
    · rw [bringUp_refused h.active hreal hok, if_pos rfl]
      refine ⟨h.active, ?_, fun _ hne => ?_, fun hr => absurd hr (by simp [hreal])⟩
      · show Phase.fresh.after (Function.update w.calls c _ c) = p.next (.setup result)
        rw [Function.update_self, Phase.after_append, h.phase]
        rfl
      · -- an object that is set up is not asked again, or else its calls are broken
        have hup := h.up hreal
        cases p <;> simp_all [Phase.next]

lemma Tracks.bringUp_other (h : Tracks cfg c w p) (hne : c ≠ c') (result : Int) :
    Tracks cfg c (bringUp cfg c' result w).1 p := by
  have hsetup : Tracks cfg c (setupCallback cfg c' result w).1 p := by
    unfold setupCallback
    split_ifs
    · exact h.of_eq rfl (Function.update_of_ne hne ..) rfl
    · exact h
  unfold bringUp
  simp only [callbacks_setup, callbacks_start]
  split_ifs
  · refine hsetup.of_eq (callback_rest _).1 (callback_other _ hne) ?_
    rw [(callback_rest _).2]
    exact Function.update_of_ne hne ..
  · exact hsetup

/-- The start reaches the setup of the object, whether that accepts or not. -/
def Attempt.asks (a : Attempt) (cfg : Config) : Component → Prop
  | .videoDecoder => cfg.real .videoDecoder = true ∧ a.breaks ≠ some .beforeVideo
  | .audioRenderer =>
    cfg.real .audioRenderer = true ∧
      (cfg.real .videoDecoder = true → a.setup .videoDecoder = DR_OK) ∧
      a.breaks ≠ some .beforeVideo ∧ a.breaks ≠ some .beforeAudio

/-- Nothing breaks, and every object accepts. -/
def Attempt.Succeeds (a : Attempt) (cfg : Config) : Prop :=
  a.breaks = none ∧ ∀ c, cfg.real c = true → a.setup c = DR_OK

instance (a : Attempt) (cfg : Config) (c : Component) : Decidable (a.asks cfg c) := by
  cases c <;> exact inferInstanceAs (Decidable (_ ∧ _))

instance (a : Attempt) (cfg : Config) : Decidable (a.Succeeds cfg) :=
  inferInstanceAs (Decidable (_ ∧ _))

/-- The phase when the setups of a start are over. -/
def Attempt.asked (a : Attempt) (cfg : Config) (c : Component) (p : Phase) : Phase :=
  if a.asks cfg c then p.next (.setup (a.setup c)) else p

/-- What a start does to the phase of an object: what it has set up before it fails is cleaned
up. -/
def Attempt.next (a : Attempt) (cfg : Config) (c : Component) (p : Phase) : Phase :=
  if a.Succeeds cfg then a.asked cfg c p else (a.asked cfg c p).released

lemma asks_of_succeeds (h : a.Succeeds cfg) (hreal : cfg.real c = true) : a.asks cfg c := by
  obtain ⟨hbreaks, hsetup⟩ := h
  cases c with
  | videoDecoder => exact ⟨hreal, by simp [hbreaks]⟩
  | audioRenderer => exact ⟨hreal, hsetup _, by simp [hbreaks], by simp [hbreaks]⟩

lemma real_of_asks (h : a.asks cfg c) : cfg.real c = true := by
  cases c with
  | videoDecoder => exact h.1
  | audioRenderer => exact h.1

lemma asks_iff (hvideo : cfg.real .videoDecoder = true → a.setup .videoDecoder = DR_OK)
    (hfirst : a.breaks ≠ some .beforeVideo) (hsecond : a.breaks ≠ some .beforeAudio) :
    a.asks cfg c ↔ cfg.real c = true := by
  cases c with
  | videoDecoder => exact ⟨fun h => h.1, fun h => ⟨h, hfirst⟩⟩
  | audioRenderer => exact ⟨fun h => h.1, fun h => ⟨h, hvideo, hfirst, hsecond⟩⟩

/-- A connection that breaks early sets up no more than its video. -/
lemma Tracks.early_end (h : Tracks cfg c w p) (hfirst : a.breaks ≠ some .beforeVideo)
    (hend : (cfg.real .videoDecoder = true → a.setup .videoDecoder = DR_OK) →
      a.breaks = some .beforeAudio) :
    Tracks cfg c (bringUp cfg .videoDecoder (a.setup .videoDecoder) w).1 (a.asked cfg c p) := by
  unfold Attempt.asked
  cases c with
  | videoDecoder => exact (h.bringUp_self _).congr (by simp [Attempt.asks, hfirst])
  | audioRenderer =>
    have hnone : ¬ a.asks cfg .audioRenderer := fun hs => hs.2.2.2 (hend hs.2.1)
    exact (h.bringUp_other (by decide) _).congr (if_neg hnone).symm

/-- Both streams of a connection are reached. -/
lemma Tracks.late_end (h : Tracks cfg c w p) (hfirst : a.breaks ≠ some .beforeVideo)
    (hvideo : cfg.real .videoDecoder = true → a.setup .videoDecoder = DR_OK)
    (hsecond : a.breaks ≠ some .beforeAudio) :
    Tracks cfg c (bringUp cfg .audioRenderer (a.setup .audioRenderer)
        (bringUp cfg .videoDecoder (a.setup .videoDecoder) w).1).1 (a.asked cfg c p) := by
  unfold Attempt.asked
  simp only [asks_iff hvideo hfirst hsecond]
  cases c with
  | videoDecoder => exact (h.bringUp_self _).bringUp_other (by decide) _
  | audioRenderer => exact (h.bringUp_other (by decide) _).bringUp_self _

/-- Whether a callback of an active session accepts. -/
lemma bringUp_snd_of_active (hactive : w.activeSession = true) :
    (bringUp cfg c (a.setup c) w).2 = true ↔ (cfg.real c = true → a.setup c = DR_OK) := by
  rw [bringUp_snd, Attempt.setsUp, Config.reaches, hactive, Bool.true_and]
  exact Iff.rfl

lemma Tracks.connectionStarted (h : Tracks cfg c w p) :
    Tracks cfg c (connectionStarted w) p := by
  unfold Session.connectionStarted
  rw [if_pos h.active]
  exact h.of_eq rfl rfl rfl

lemma Tracks.liStartConnection (h : Tracks cfg c w p) :
    Tracks cfg c (liStartConnection cfg a w).1 (a.next cfg c p) := by
  have hvideo := @bringUp_snd_of_active cfg .videoDecoder _ a h.active
  have hactive : (bringUp cfg .videoDecoder (a.setup .videoDecoder) w).1.activeSession = true := by
    obtain ⟨up, calls, heq⟩ :=
      @quiet_bringUp cfg .videoDecoder w (a.setup .videoDecoder)
    rw [heq]
    exact h.active
  have haudio := @bringUp_snd_of_active cfg .audioRenderer _ a hactive
  unfold Session.liStartConnection
  dsimp only
  split_ifs with h1 h2 h3
  · have hfails : ¬ a.Succeeds cfg := fun hs => by simp [hs.1] at h1
    have hnone : ¬ a.asks cfg c := by
      cases c with
      | videoDecoder => exact fun hs => hs.2 h1
      | audioRenderer => exact fun hs => hs.2.2.1 h1
    rw [Attempt.next, if_neg hfails, Attempt.asked, if_neg hnone]
    exact h.releaseAll
  · have hend : (cfg.real .videoDecoder = true → a.setup .videoDecoder = DR_OK) →
        a.breaks = some .beforeAudio := by
      intro haccepts
      simpa [hvideo.mpr haccepts] using h2
    have hfails : ¬ a.Succeeds cfg := fun hs => by simpa [hs.1] using hend (hs.2 _)
    rw [Attempt.next, if_neg hfails]
    exact (h.early_end h1 hend).releaseAll
  all_goals
    have hok : (bringUp cfg .videoDecoder (a.setup .videoDecoder) w).2 = true ∧
        a.breaks ≠ some .beforeAudio := by simpa using h2
    have hlate := h.late_end h1 (hvideo.mp hok.1) hok.2
  · have hfails : ¬ a.Succeeds cfg := by
      intro hs
      simp [haudio.mpr (hs.2 _), hs.1] at h3
    rw [Attempt.next, if_neg hfails]
    exact hlate.releaseAll
  · have hend : (cfg.real .audioRenderer = true → a.setup .audioRenderer = DR_OK) ∧
        a.breaks ≠ some .atTheEnd := by
      rw [← haudio]
      simpa using h3
    have hsucceeds : a.Succeeds cfg := by
      refine ⟨?_, fun c => ?_⟩
      · cases hbreak : a.breaks with
        | none => rfl
        | some b =>
          cases b with
          | beforeVideo => exact absurd hbreak h1
          | beforeAudio => exact absurd hbreak hok.2
          | atTheEnd => exact absurd hbreak hend.2
      · cases c with
        | videoDecoder => exact hvideo.mp hok.1
        | audioRenderer => exact hend.1
    rw [Attempt.next, if_pos hsucceeds]
    exact Tracks.connectionStarted (hlate.of_eq rfl rfl rfl)

end ArtemisSwitch.Session

import ArtemisSwitch.SessionSetup

/-!
# What is set up and cleaned up

Starts, restarts, stops and the destruction of a session, each of them completed before the next
begins.
-/

namespace ArtemisSwitch.Session
open Runs

variable {cfg : Config} {c : Component} {w w' : World} {a : Attempt} {p : Phase}

/-! ## Completed operations -/

/-- How a start goes on: the host refuses it, or Limelight tries to connect. -/
inductive Outcome where
  | clientFails
  | connection (a : Attempt)

/-- The steps that complete the only start under way. -/
def Outcome.labels : Outcome → List Label
  | .clientFails => [.client 0 false]
  | .connection a => [.client 0 true, .connect 0 a, .result 0]

inductive Op where
  | start (isSunshine : Bool) (o : Outcome)
  | restart (o : Outcome)
  | restartWithApolloOptions (o : Outcome)
  | stop (terminateApp syncHostQuit : Bool)
  | delete

def Op.isDelete : Op → Bool
  | .delete => true
  | _ => false

def Op.labels : Op → List Label
  | .start isSunshine o => .start isSunshine :: o.labels
  | .restart o => .restart :: o.labels
  | .restartWithApolloOptions o => .restartWithApolloOptions :: o.labels
  | .stop terminateApp syncHostQuit => [.stop terminateApp syncHostQuit]
  | .delete => [.delete]

def Op.run (cfg : Config) (w : World) (op : Op) : Option World := exec (step cfg) w op.labels

/-- Whether the setup of the object is called. -/
def Outcome.asks (o : Outcome) (cfg : Config) (c : Component) : Prop :=
  match o with
  | .clientFails => False
  | .connection a => a.asks cfg c

/-- Whether the object is left set up. -/
def Outcome.connects (o : Outcome) (cfg : Config) (c : Component) (connected : Bool) : Bool :=
  match o with
  | .clientFails => connected
  | .connection a => cfg.real c && decide (a.Succeeds cfg)

/-- `connected` says that the last start before connected.  No start without a stop may then get
as far as the setup of the object, whatever that returns, and the session may not be deleted,
whether it is stopped before or not. -/
def Orderly (cfg : Config) (c : Component) : Bool → List Op → Prop
  | _, [] => True
  | connected, .start _ o :: ops =>
    (connected = true → ¬ o.asks cfg c) ∧ Orderly cfg c (o.connects cfg c connected) ops
  | _, .restart o :: ops => Orderly cfg c (o.connects cfg c false) ops
  | _, .restartWithApolloOptions o :: ops => Orderly cfg c (o.connects cfg c false) ops
  | connected, .stop _ _ :: ops => connected = true → ops.any Op.isDelete = false
  | connected, .delete :: _ => connected = false

/-- What a start does to the phase of an object. -/
def Outcome.next (o : Outcome) (cfg : Config) (c : Component) (p : Phase) : Phase :=
  match o with
  | .clientFails => p
  | .connection a => a.next cfg c p

/-- The result of a start changes flags only. -/
lemma resultDone_flags (callback : Callback) (ok : Bool) (w : World) :
    ∃ flags, resultDone callback ok w = { w with flags := flags } ∧
      flags.stopRequested = w.flags.stopRequested := by
  have hmarked : ∃ flags, (if ok then w else markTerminated w) = { w with flags := flags } ∧
      flags.stopRequested = w.flags.stopRequested := by
    unfold markTerminated
    split_ifs
    · exact ⟨_, rfl, rfl⟩
    · exact ⟨_, rfl, rfl⟩
    · exact ⟨_, rfl, rfl⟩
  obtain ⟨marked, hmarked, hsame⟩ := hmarked
  obtain ⟨flags, heq, hflags⟩ := run_flags callback ok { w with flags := marked }
  refine ⟨flags, ?_, hflags.trans hsame⟩
  unfold resultDone
  rw [hmarked, heq]

lemma liStartConnection_rest (a : Attempt) (w : World) :
    (liStartConnection cfg a w).1.tasks = w.tasks ∧
      (liStartConnection cfg a w).1.deleted = w.deleted := by
  obtain ⟨_, t, ⟨up, calls, rfl⟩, heq⟩ | ⟨_, t, ⟨up, calls, rfl⟩, heq⟩ :=
    @liStartConnection_cases cfg a w
  · rw [heq]
    unfold connectionStarted
    dsimp only
    split_ifs <;> exact ⟨rfl, rfl⟩
  · rw [heq]
    exact ⟨rfl, rfl⟩

/-- What is left of a start that has been completed. -/
def Outcome.finish (o : Outcome) (cfg : Config) (callback : Callback) (w : World) : World :=
  match o with
  | .clientFails => callback.run false w
  | .connection a =>
    resultDone callback (liStartConnection cfg a w).2 (liStartConnection cfg a w).1

lemma with_no_tasks (h : w.tasks = []) : { w with tasks := [] } = w := by
  rw [← h]

lemma exec_outcome {callback : Callback} (htasks : w.tasks = []) (o : Outcome) :
    exec (step cfg) { w with tasks := [.client callback] } o.labels =
      some (o.finish cfg callback w) := by
  have hw : { w with tasks := [] } = w := with_no_tasks htasks
  cases o with
  | clientFails =>
    refine congrArg some ?_
    show callback.run false { w with tasks := [] } = _
    rw [hw]
    rfl
  | connection a =>
    have hrest := (@liStartConnection_rest cfg a w).1
    have hconnected : step cfg { w with tasks := [.connect callback] } (.connect 0 a) =
        some { (liStartConnection cfg a w).1 with
          tasks := [.result callback (liStartConnection cfg a w).2] } := by
      show some (connect cfg callback a { w with tasks := [] }) = _
      rw [hw]
      unfold connect
      dsimp only
      rw [hrest, htasks]
      rfl
    show (some { w with tasks := [.connect callback] }).bind _ = _
    rw [Option.bind_some, exec, hconnected, Option.bind_some]
    refine congrArg some ?_
    show resultDone callback _ { (liStartConnection cfg a w).1 with tasks := [] } = _
    have hsame : { (liStartConnection cfg a w).1 with tasks := [] } =
        (liStartConnection cfg a w).1 := with_no_tasks (hrest.trans htasks)
    rw [hsame]
    rfl

/-- What Limelight has done at the end of a start. -/
def Outcome.limelight (o : Outcome) (cfg : Config) (w : World) : World :=
  match o with
  | .clientFails => w
  | .connection a => (liStartConnection cfg a w).1

lemma finish_flags (callback : Callback) (o : Outcome) (w : World) :
    ∃ flags, o.finish cfg callback w = { o.limelight cfg w with flags := flags } := by
  cases o with
  | clientFails =>
    obtain ⟨flags, heq, _⟩ := run_flags callback false w
    exact ⟨flags, heq⟩
  | connection a =>
    obtain ⟨flags, heq, _⟩ := resultDone_flags callback (liStartConnection cfg a w).2
      (liStartConnection cfg a w).1
    exact ⟨flags, heq⟩

lemma limelight_rest (o : Outcome) (w : World) :
    (o.limelight cfg w).tasks = w.tasks ∧ (o.limelight cfg w).deleted = w.deleted := by
  cases o with
  | clientFails => exact ⟨rfl, rfl⟩
  | connection a => exact liStartConnection_rest a w

lemma finish_rest (callback : Callback) (o : Outcome) (w : World) :
    (o.finish cfg callback w).tasks = w.tasks ∧
      (o.finish cfg callback w).deleted = w.deleted := by
  obtain ⟨flags, heq⟩ := @finish_flags cfg callback o w
  rw [heq]
  exact limelight_rest o w

lemma Tracks.finish (h : Tracks cfg c w p) (callback : Callback) (o : Outcome) :
    Tracks cfg c (o.finish cfg callback w) (o.next cfg c p) := by
  obtain ⟨flags, heq⟩ := @finish_flags cfg callback o w
  have hlimelight : Tracks cfg c (o.limelight cfg w) (o.next cfg c p) := by
    cases o with
    | clientFails => exact h
    | connection a => exact Tracks.liStartConnection h
  rw [heq]
  exact hlimelight.of_eq rfl rfl rfl

/-! ## Without an active session -/

/-- The callbacks reach no object. -/
structure Silent (w w' : World) : Prop where
  inactive : w'.activeSession = false
  calls : w'.calls = w.calls

lemma Silent.trans {u : World} (h : Silent w w') (h' : Silent w' u) : Silent w u :=
  ⟨h'.inactive, h'.calls.trans h.calls⟩

lemma Silent.of_eq {u : World} (h : Silent w w') (ha : u.activeSession = w'.activeSession)
    (hc : u.calls = w'.calls) : Silent w u := ⟨ha.trans h.inactive, hc.trans h.calls⟩

lemma callback_inactive (h : w.activeSession = false) (call : Call) :
    callback cfg c call w = w := by
  unfold callback
  rw [h]
  rfl

lemma silent_release (h : w.activeSession = false) : Silent w (release cfg c w) := by
  unfold release
  simp only [callbacks_stop, callbacks_cleanup]
  rw [callback_inactive h, callback_inactive h]
  split_ifs
  · exact ⟨h, rfl⟩
  · exact ⟨h, rfl⟩

lemma silent_releaseAll (h : w.activeSession = false) : Silent w (releaseAll cfg w) := by
  have hfirst := @silent_release cfg .audioRenderer _ h
  exact hfirst.trans (silent_release hfirst.inactive)

lemma silent_liStopConnection (h : w.activeSession = false) :
    Silent w (liStopConnection cfg w) := (silent_releaseAll h).of_eq rfl rfl

lemma silent_bringUp (h : w.activeSession = false) (result : Int) :
    Silent w (bringUp cfg c result w).1 := by
  have hsetup : setupCallback cfg c result w = (w, DR_OK) := by
    unfold setupCallback
    rw [h]
    rfl
  unfold bringUp
  simp only [callbacks_setup, callbacks_start]
  rw [hsetup, callback_inactive (by exact h)]
  exact ⟨h, rfl⟩

lemma silent_liStartConnection (h : w.activeSession = false) :
    Silent w (liStartConnection cfg a w).1 := by
  have hvideo := @silent_bringUp cfg .videoDecoder _ h (a.setup .videoDecoder)
  have haudio := hvideo.trans
    (@silent_bringUp cfg .audioRenderer _ hvideo.inactive (a.setup .audioRenderer))
  unfold liStartConnection
  dsimp only
  split_ifs
  · exact silent_releaseAll h
  · exact hvideo.trans (silent_releaseAll hvideo.inactive)
  · exact haudio.trans (silent_releaseAll haudio.inactive)
  · unfold connectionStarted
    rw [if_neg (by rw [haudio.inactive]; exact Bool.false_ne_true)]
    exact haudio.of_eq rfl rfl

lemma silent_finish (h : w.activeSession = false) (callback : Callback) (o : Outcome) :
    Silent w (o.finish cfg callback w) := by
  have hlimelight : Silent w (o.limelight cfg w) := by
    cases o with
    | clientFails => exact ⟨h, rfl⟩
    | connection a => exact silent_liStartConnection h
  obtain ⟨flags, heq⟩ := @finish_flags cfg callback o w
  rw [heq]
  exact hlimelight.of_eq rfl rfl

/-! ## What a run of operations does -/

/-- Nothing is under way, and the session exists. -/
structure Idle (w : World) : Prop where
  tasks : w.tasks = []
  present : w.deleted = false

lemma Idle.not_deleted (h : Idle w) : ¬ w.deleted = true := by
  rw [h.present]
  exact Bool.false_ne_true

lemma Idle.finish (h : Idle w) (callback : Callback) (o : Outcome) :
    Idle (o.finish cfg callback w) := by
  obtain ⟨htasks, hdeleted⟩ := @finish_rest cfg callback o w
  exact ⟨htasks.trans h.tasks, hdeleted.trans h.present⟩

lemma idle_liStopConnection (h : Idle w) : Idle (liStopConnection cfg w) := by
  obtain ⟨t, ⟨up, calls, rfl⟩, heq⟩ := @quiet_liStopConnection cfg w
  rw [heq]
  exact ⟨h.tasks, h.present⟩

/-- A session whose start has been asked for. -/
def asked (isSunshine : Bool) (w : World) : World :=
  { w with flags := { w.flags with isSunshine, stopRequested := false, isTerminated := false } }

lemma Idle.asked (h : Idle w) (isSunshine : Bool) : Idle (asked isSunshine w) :=
  ⟨h.tasks, h.present⟩

lemma exec_start (h : Idle w) (callback : Callback) (isSunshine : Bool) (o : Outcome) :
    exec (step cfg) (start callback isSunshine w) o.labels =
      some (o.finish cfg callback (asked isSunshine w)) := by
  have hstart : start callback isSunshine w =
      { asked isSunshine w with tasks := [.client callback] } := by
    unfold start
    rw [h.tasks]
    rfl
  rw [hstart]
  exact exec_outcome (w := asked isSunshine w) h.tasks o

lemma run_start (h : Idle w) (isSunshine : Bool) (o : Outcome) :
    Op.run cfg w (.start isSunshine o) = some (o.finish cfg .view (asked isSunshine w)) := by
  have hstep : step cfg w (.start isSunshine) = some (start .view isSunshine w) :=
    if_neg h.not_deleted
  unfold Op.run Op.labels
  rw [exec, hstep, Option.bind_some]
  exact exec_start h _ _ o

/-- The state in which a restart asks for its start. -/
def stoppedForRestart (cfg : Config) (w : World) : World := liStopConnection cfg (markRestarting w)

lemma idle_stoppedForRestart (h : Idle w) : Idle (stoppedForRestart cfg w) :=
  idle_liStopConnection (w := markRestarting w) ⟨h.tasks, h.present⟩

/-- A session whose restart has asked for its start. -/
def restarted (cfg : Config) (w : World) : World :=
  asked (stoppedForRestart cfg w).flags.isSunshine (stoppedForRestart cfg w)

lemma idle_restarted (h : Idle w) : Idle (restarted cfg w) := (idle_stoppedForRestart h).asked _

lemma Tracks.restarted (h : Tracks cfg c w p) : Tracks cfg c (restarted cfg w) p.released := by
  have hstopped : Tracks cfg c (stoppedForRestart cfg w) p.released :=
    Tracks.liStopConnection (w := markRestarting w) (h.of_eq rfl rfl rfl)
  exact hstopped.of_eq rfl rfl rfl

lemma run_restartWithApolloOptions (h : Idle w) (o : Outcome) :
    Op.run cfg w (.restartWithApolloOptions o) =
      some (o.finish cfg .restartWithApolloOptions (restarted cfg w)) := by
  have hstep : step cfg w .restartWithApolloOptions = some (start .restartWithApolloOptions
      (stoppedForRestart cfg w).flags.isSunshine (stoppedForRestart cfg w)) :=
    if_neg h.not_deleted
  have hidle := @idle_stoppedForRestart cfg _ h
  unfold Op.run Op.labels
  rw [exec, hstep, Option.bind_some]
  exact exec_start hidle _ _ o

/-- A restart of a session that is not active ends in a null pointer. -/
lemma run_restart (h : Idle w) (o : Outcome) :
    Op.run cfg w (.restart o) =
      if (stoppedForRestart cfg w).activeSession then
        some (o.finish cfg .restart (restarted cfg w))
      else none := by
  have hstep : step cfg w .restart = restart cfg w :=
    if_neg h.not_deleted
  have hidle := @idle_stoppedForRestart cfg _ h
  unfold Op.run Op.labels
  rw [exec, hstep]
  unfold restart
  dsimp only
  change (if (stoppedForRestart cfg w).activeSession then _ else none).bind _ = _
  split_ifs
  · rw [Option.bind_some]
    exact exec_start hidle _ _ o
  · rfl

lemma run_stop (h : Idle w) (terminateApp syncHostQuit : Bool) :
    Op.run cfg w (.stop terminateApp syncHostQuit) =
      some (stop cfg terminateApp syncHostQuit w) := by
  have hstep : step cfg w (.stop terminateApp syncHostQuit) =
      some (stop cfg terminateApp syncHostQuit w) :=
    if_neg h.not_deleted
  unfold Op.run Op.labels
  rw [exec, hstep]
  rfl

lemma run_delete (h : Idle w) : Op.run cfg w .delete = some (deleteSession cfg w) := by
  have hstep : step cfg w .delete = some (deleteSession cfg w) :=
    if_neg h.not_deleted
  unfold Op.run Op.labels
  rw [exec, hstep]
  rfl

/-- Nothing is called on a session that has been deleted. -/
lemma run_deleted (h : w.deleted = true) (op : Op) : Op.run cfg w op = none := by
  unfold Op.run Op.labels
  cases op <;> simp [exec, step, h]

lemma exec_deleted {ops : List Op} (h : w.deleted = true)
    (hrun : exec (Op.run cfg) w ops = some w') : ops = [] ∧ w' = w := by
  cases ops with
  | nil => exact ⟨rfl, (Option.some.inj hrun).symm⟩
  | cons op ops =>
    rw [exec, run_deleted h] at hrun
    cases hrun

lemma calls_deleteSession :
    (deleteSession cfg w).calls c = w.calls c ++ if cfg.has c then [.delete] else [] := by
  show (if cfg.has c then w.calls c ++ [.delete] else w.calls c) = _
  split_ifs
  · rfl
  · exact (List.append_nil _).symm

/-- A stop of an active session reaches no object, and ends its activity. -/
lemma silent_stop (terminateApp syncHostQuit : Bool)
    (h : w.activeSession = false ∨ w.flags.stopRequested = false) :
    Silent w (stop cfg terminateApp syncHostQuit w) := by
  unfold stop
  dsimp only
  split_ifs with hrequested hquit
  · obtain hinactive | hnot := h
    · exact ⟨hinactive, rfl⟩
    · exact absurd hrequested (by simp [hnot])
  · exact ⟨(silent_liStopConnection rfl).inactive, (silent_liStopConnection rfl).calls⟩
  · exact ⟨(silent_liStopConnection rfl).inactive, (silent_liStopConnection rfl).calls⟩

lemma idle_stop (h : Idle w) (terminateApp syncHostQuit : Bool) :
    Idle (stop cfg terminateApp syncHostQuit w) := by
  unfold stop
  dsimp only
  split_ifs
  · exact ⟨h.tasks, h.present⟩
  · exact idle_liStopConnection ⟨h.tasks, h.present⟩
  · exact idle_liStopConnection ⟨h.tasks, h.present⟩

/-- After the first stop, only the end of the object is left for it. -/
lemma calls_of_inactive (ops : List Op) {w w' : World} (hidle : Idle w)
    (hinactive : w.activeSession = false) (h : exec (Op.run cfg) w ops = some w') :
    w'.calls c = w.calls c ++
      if ops.any Op.isDelete = true ∧ cfg.has c = true then [.delete] else [] := by
  induction ops generalizing w with
  | nil =>
    obtain rfl : w = w' := Option.some.inj h
    simp
  | cons op ops ih =>
    rw [exec] at h
    obtain ⟨u, hu, hrest⟩ := Option.bind_eq_some_iff.mp h
    cases op with
    | start isSunshine o =>
      rw [run_start hidle] at hu
      obtain rfl := Option.some.inj hu
      have hsilent := @silent_finish cfg (asked isSunshine w) hinactive .view o
      rw [ih ((hidle.asked _).finish _ _) hsilent.inactive hrest, hsilent.calls]
      rfl
    | restart o =>
      rw [run_restart hidle] at hu
      have hsilent : (stoppedForRestart cfg w).activeSession = false :=
        (silent_liStopConnection (w := markRestarting w) hinactive).inactive
      rw [hsilent] at hu
      cases hu
    | restartWithApolloOptions o =>
      rw [run_restartWithApolloOptions hidle] at hu
      obtain rfl := Option.some.inj hu
      have hstopped := @silent_liStopConnection cfg (markRestarting w) hinactive
      have hsilent := @silent_finish cfg (restarted cfg w) hstopped.inactive
        .restartWithApolloOptions o
      rw [ih ((idle_restarted hidle).finish _ _) hsilent.inactive hrest, hsilent.calls]
      exact congrArg (fun calls : Component → List Call => calls c ++ _) hstopped.calls
    | stop terminateApp syncHostQuit =>
      rw [run_stop hidle] at hu
      obtain rfl := Option.some.inj hu
      have hsilent := @silent_stop cfg _ terminateApp syncHostQuit (.inl hinactive)
      rw [ih (idle_stop hidle _ _) hsilent.inactive hrest, hsilent.calls]
      rfl
    | delete =>
      rw [run_delete hidle] at hu
      obtain rfl := Option.some.inj hu
      obtain ⟨rfl, rfl⟩ := exec_deleted rfl hrest
      rw [calls_deleteSession]
      simp [Op.isDelete]

/-- A start withdraws the request to stop, and nothing in it asks again. -/
lemma finish_requested (h : w.flags.stopRequested = false) (callback : Callback) (o : Outcome) :
    (o.finish cfg callback w).flags.stopRequested = false := by
  cases o with
  | clientFails =>
    obtain ⟨flags, heq, hsame⟩ := run_flags callback false w
    show (callback.run false w).flags.stopRequested = false
    rw [heq]
    exact hsame.trans h
  | connection a =>
    have hlimelight : (liStartConnection cfg a w).1.flags.stopRequested = false := by
      obtain ⟨_, t, ⟨up, calls, rfl⟩, heq⟩ | ⟨_, t, ⟨up, calls, rfl⟩, heq⟩ :=
        @liStartConnection_cases cfg a w
      · rw [heq]
        unfold connectionStarted
        dsimp only
        split_ifs
        · rfl
        · exact h
      · rw [heq]
        exact h
    obtain ⟨flags, heq, hsame⟩ := resultDone_flags callback (liStartConnection cfg a w).2
      (liStartConnection cfg a w).1
    show (resultDone _ _ _).flags.stopRequested = false
    rw [heq]
    exact hsame.trans hlimelight

lemma released_ne_opened : p.released ≠ .opened := by
  cases p <;> decide

lemma released_ne_broken : p.released ≠ .broken ↔ p ≠ .broken := by
  cases p <;> decide

/-- A start keeps the object paired if it does not ask what is set up for a setup. -/
lemma next_ne_broken (o : Outcome) :
    o.next cfg c p ≠ .broken ↔ p ≠ .broken ∧ (p = .opened → ¬ o.asks cfg c) := by
  cases o with
  | clientFails => simp [Outcome.next, Outcome.asks]
  | connection a =>
    have hasked : a.asked cfg c p ≠ .broken ↔ p ≠ .broken ∧ (p = .opened → ¬ a.asks cfg c) := by
      unfold Attempt.asked
      split_ifs with hasks
      · cases p with
        | fresh | closed => by_cases hok : a.setup c = DR_OK <;> simp [Phase.next, hok]
        | opened | broken => simp [Phase.next, hasks]
      · simp [hasks]
    refine Iff.trans ?_ hasked
    simp only [Outcome.next, Attempt.next]
    split_ifs
    · exact Iff.rfl
    · exact released_ne_broken

lemma next_opened (o : Outcome) (hp : cfg.real c = false → p = .fresh)
    (hne : o.next cfg c p ≠ .broken) :
    decide (o.next cfg c p = .opened) = o.connects cfg c (decide (p = .opened)) := by
  cases o with
  | clientFails => rfl
  | connection a =>
    show decide (a.next cfg c p = .opened) = (cfg.real c && decide (a.Succeeds cfg))
    by_cases hsucceeds : a.Succeeds cfg
    · have hnext : a.next cfg c p ≠ .broken := hne
      rw [Attempt.next, if_pos hsucceeds, Attempt.asked] at hnext ⊢
      cases hreal : cfg.real c with
      | false =>
        have hnone : ¬ a.asks cfg c := fun hasks => by simp [real_of_asks hasks] at hreal
        rw [if_neg hnone, hp hreal]
        rfl
      | true =>
        rw [if_pos (asks_of_succeeds hsucceeds hreal), hsucceeds.2 c hreal] at hnext ⊢
        cases p <;> simp_all [Phase.next]
    · rw [Attempt.next, if_neg hsucceeds, decide_eq_false released_ne_opened,
        decide_eq_false hsucceeds, Bool.and_false]

lemma orderly_start (o : Outcome) (hp : cfg.real c = false → p = .fresh) (ops : List Op) :
    (o.next cfg c p ≠ .broken ∧ Orderly cfg c (decide (o.next cfg c p = .opened)) ops) ↔
      p ≠ .broken ∧ (p = .opened → ¬ o.asks cfg c) ∧
        Orderly cfg c (o.connects cfg c (decide (p = .opened))) ops := by
  rw [← and_assoc, ← next_ne_broken o]
  exact and_congr_right fun hne => by rw [next_opened o hp hne]

/-- A restart stops the connection first. -/
lemma orderly_restart (o : Outcome) (hp : cfg.real c = false → p = .fresh) (ops : List Op) :
    (o.next cfg c p.released ≠ .broken ∧
        Orderly cfg c (decide (o.next cfg c p.released = .opened)) ops) ↔
      p ≠ .broken ∧ Orderly cfg c (o.connects cfg c false) ops := by
  have hreleased : cfg.real c = false → p.released = .fresh := fun hreal => by rw [hp hreal]; rfl
  rw [orderly_start o hreleased, decide_eq_false released_ne_opened, released_ne_broken]
  exact and_congr_right fun _ => and_iff_right fun hopened => absurd hopened released_ne_opened

lemma Tracks.has_of_opened (h : Tracks cfg c w p) (hp : p = .opened) : cfg.has c = true := by
  by_contra hne
  have hreal : cfg.real c = false := by
    unfold Config.real
    rw [Bool.not_eq_true] at hne
    rw [hne, Bool.and_false]
  rw [h.untouched hreal] at hp
  cases hp

/-- The end of an object that is set up comes without a cleanup. -/
lemma deleted_later {any : Bool} (hhas : p = .opened → cfg.has c = true) :
    p.after (if any = true ∧ cfg.has c = true then [.delete] else []) ≠ .broken ↔
      p ≠ .broken ∧ (p = .opened → any = false) := by
  cases any with
  | false => simp
  | true =>
    cases hc : cfg.has c with
    | false =>
      have hne : p ≠ .opened := fun hp => by simp [hhas hp] at hc
      simp [hne]
    | true => cases p <;> simp [Phase.next]

/-- The calls of an object stay paired exactly in the orderly runs. -/
lemma unbroken_iff (ops : List Op) {w w' : World} {p : Phase} (hidle : Idle w)
    (hrequested : w.flags.stopRequested = false) (h : Tracks cfg c w p)
    (hrun : exec (Op.run cfg) w ops = some w') :
    Phase.fresh.after (w'.calls c) ≠ .broken ↔
      p ≠ .broken ∧ Orderly cfg c (decide (p = .opened)) ops := by
  induction ops generalizing w p with
  | nil =>
    obtain rfl : w = w' := Option.some.inj hrun
    rw [h.phase]
    exact (and_iff_left trivial).symm
  | cons op ops ih =>
    rw [exec] at hrun
    obtain ⟨u, hu, hrest⟩ := Option.bind_eq_some_iff.mp hrun
    cases op with
    | start isSunshine o =>
      rw [run_start hidle] at hu
      obtain rfl := Option.some.inj hu
      have htracks : Tracks cfg c (asked isSunshine w) p := h.of_eq rfl rfl rfl
      rw [ih ((hidle.asked _).finish _ _) (finish_requested rfl _ _) (htracks.finish _ o) hrest,
        orderly_start o h.untouched]
      simp only [Orderly, decide_eq_true_eq]
    | restart o =>
      -- the session that a restart finds is active, so its start is asked for
      have hactive : (stoppedForRestart cfg w).activeSession = true := h.restarted.active
      rw [run_restart hidle, if_pos hactive] at hu
      obtain rfl := Option.some.inj hu
      rw [ih ((idle_restarted hidle).finish _ _) (finish_requested rfl _ _)
        (h.restarted.finish _ o) hrest, orderly_restart o h.untouched]
      rfl
    | restartWithApolloOptions o =>
      rw [run_restartWithApolloOptions hidle] at hu
      obtain rfl := Option.some.inj hu
      rw [ih ((idle_restarted hidle).finish _ _) (finish_requested rfl _ _)
        (h.restarted.finish _ o) hrest, orderly_restart o h.untouched]
      rfl
    | stop terminateApp syncHostQuit =>
      rw [run_stop hidle] at hu
      obtain rfl := Option.some.inj hu
      have hsilent := @silent_stop cfg _ terminateApp syncHostQuit (.inr hrequested)
      rw [calls_of_inactive ops (idle_stop hidle _ _) hsilent.inactive hrest, hsilent.calls,
        Phase.after_append, h.phase]
      simp only [Orderly, decide_eq_true_eq]
      exact deleted_later h.has_of_opened
    | delete =>
      rw [run_delete hidle] at hu
      obtain rfl := Option.some.inj hu
      obtain ⟨rfl, rfl⟩ := exec_deleted rfl hrest
      rw [calls_deleteSession, Phase.after_append, h.phase]
      have hlast := @deleted_later _ _ _ true h.has_of_opened
      simpa [Orderly] using hlast

/-- In a run of completed operations, every setup has its one cleanup exactly if the run is
orderly. -/
theorem setup_paired_iff (cfg : Config) (ops : List Op) (w : World)
    (hrun : exec (Op.run cfg) {} ops = some w) (c : Component) :
    Paired (w.calls c) ↔ Orderly cfg c false ops := by
  have hstart : Tracks cfg c {} .fresh :=
    ⟨rfl, rfl, fun _ _ => iff_of_false Bool.false_ne_true (by decide), fun _ => rfl⟩
  have hunbroken := unbroken_iff ops ⟨rfl, rfl⟩ rfl hstart hrun
  rw [(after_ne_broken _).1] at hunbroken
  exact hunbroken.trans (and_iff_right (by decide))

/-- A stream is restarted in vain before it is left. -/
def leaveAfterFailedRestart : List Op :=
  [.start false (.connection {}), .restart .clientFails, .stop false false, .delete]

theorem leaveAfterFailedRestart_paired :
    ∃ w, exec (Op.run {}) {} leaveAfterFailedRestart = some w ∧
      w.calls .videoDecoder = [.setup 0, .start, .stop, .cleanup, .delete] ∧
      Paired (w.calls .videoDecoder) ∧ Paired (w.calls .audioRenderer) := by
  refine ⟨_, rfl, rfl, ?_, ?_⟩
  · refine (setup_paired_iff {} leaveAfterFailedRestart _ rfl .videoDecoder).mpr ?_
    simp [leaveAfterFailedRestart, Orderly, Outcome.connects]
  · refine (setup_paired_iff {} leaveAfterFailedRestart _ rfl .audioRenderer).mpr ?_
    simp [leaveAfterFailedRestart, Orderly, Outcome.connects]

/-- A stream is left the usual way. -/
def leave : List Op := [.start false (.connection {}), .stop false false, .delete]

/-- The decoder is deleted with what its setup has made. -/
theorem leave_without_cleanup :
    ∃ w, exec (Op.run {}) {} leave = some w ∧
      w.calls .videoDecoder = [.setup DR_OK, .start, .delete] ∧
      w.calls .audioRenderer = [.setup DR_OK, .start, .delete] ∧
      ¬ Paired (w.calls .videoDecoder) ∧ ¬ Paired (w.calls .audioRenderer) := by
  have hunpaired : ¬ Paired [.setup DR_OK, .start, .delete] := by
    intro h
    have hclean := h [] _ rfl
    exact absurd (hclean.once (by decide)) (by decide)
  exact ⟨_, rfl, rfl, rfl, hunpaired, hunpaired⟩

end ArtemisSwitch.Session

import ArtemisSwitch.Library.Runs
import Mathlib.Data.Nat.Notation
import Mathlib.Logic.Function.Basic

/-!
# A streaming session over Limelight

`MoonlightSession`: its flags, the static pointer through which callbacks reach it, the tasks that
its starts leave on other threads, and what Limelight does at a start and a stop.
-/

namespace ArtemisSwitch.Session

/-! ## Limelight and its callbacks -/

/-- The objects that Limelight drives through callbacks. -/
inductive Component where
  | videoDecoder
  | audioRenderer
  deriving DecidableEq

/-- `setup` is the `init` of the audio renderer. -/
inductive Call where
  | setup (result : Int)
  | start
  | stop
  | cleanup
  | delete
  deriving DecidableEq

def DR_OK : Int := 0

/-- What the constructor fixes. -/
structure Config where
  inputOnly : Bool := false
  has : Component → Bool := fun _ => true

structure Flags where
  isSunshine : Bool := false
  stopRequested : Bool := false
  isActive : Bool := false
  isTerminated : Bool := false
  restartInProgress : Bool := false
  deriving DecidableEq

/-- Who asked for a start, as far as its callback touches the session. -/
inductive Callback where
  | view
  | restart
  | restartWithApolloOptions
  deriving DecidableEq

/-- A step of a start that another thread, or a later turn of the UI thread, will do. -/
inductive Task where
  /-- `GameStreamClient::start` is under way. -/
  | client (callback : Callback)
  /-- `LiStartConnection` is to be called. -/
  | connect (callback : Callback)
  /-- The result is on its way to the UI thread. -/
  | result (callback : Callback) (ok : Bool)
  deriving DecidableEq

structure World where
  /-- `m_active_session` points to the session. -/
  activeSession : Bool := true
  deleted : Bool := false
  flags : Flags := {}
  tasks : List Task := []
  live : Bool := false
  /-- Set up by a callback that returned success, and not cleaned up since. -/
  up : Component → Bool := fun _ => false
  calls : Component → List Call := fun _ => []
  /-- The host was told to quit; with or without waiting. -/
  quits : List Bool := []
  /-- Whether `stop` has been called. -/
  stopCalled : Bool := false

/-- When a connection breaks that no callback refused. -/
inductive Break where
  | beforeVideo
  | beforeAudio
  | atTheEnd
  deriving DecidableEq

/-- What the network and the two objects answer to one `LiStartConnection`. -/
structure Attempt where
  setup : Component → Int := fun _ => DR_OK
  breaks : Option Break := none

variable (cfg : Config)

/-- The body that `start`, `stop` and `cleanup` of both objects share. -/
def callback (c : Component) (call : Call) (w : World) : World :=
  if w.activeSession && cfg.has c then
    { w with calls := Function.update w.calls c (w.calls c ++ [call]) }
  else w

/-- Without a session, or for input alone, nothing is set up, and that is a success. -/
def setupCallback (c : Component) (result : Int) (w : World) : World × Int :=
  if w.activeSession && !cfg.inputOnly && cfg.has c then
    ({ w with calls := Function.update w.calls c (w.calls c ++ [.setup result]) }, result)
  else (w, DR_OK)

def videoDecoderSetup := setupCallback cfg .videoDecoder
def videoDecoderStart := callback cfg .videoDecoder .start
def videoDecoderStop := callback cfg .videoDecoder .stop
def videoDecoderCleanup := callback cfg .videoDecoder .cleanup
def audioRendererInit := setupCallback cfg .audioRenderer
def audioRendererStart := callback cfg .audioRenderer .start
def audioRendererStop := callback cfg .audioRenderer .stop
def audioRendererCleanup := callback cfg .audioRenderer .cleanup

/-- What `start` hands to Limelight for one of the objects. -/
structure Callbacks where
  setup : Int → World → World × Int
  start : World → World
  stop : World → World
  cleanup : World → World

def callbacks : Component → Callbacks
  | .videoDecoder =>
    { setup := videoDecoderSetup cfg
      start := videoDecoderStart cfg
      stop := videoDecoderStop cfg
      cleanup := videoDecoderCleanup cfg }
  | .audioRenderer =>
    { setup := audioRendererInit cfg
      start := audioRendererStart cfg
      stop := audioRendererStop cfg
      cleanup := audioRendererCleanup cfg }

def connectionStarted (w : World) : World :=
  if w.activeSession then
    { w with flags := { w.flags with
        stopRequested := false, isActive := true, restartInProgress := false } }
  else w

/-- `connectionTerminatedAction` keeps a session that is being restarted. -/
def connectionTerminated (w : World) : World :=
  if w.activeSession then
    { w with flags := { w.flags with
        isActive := false
        isTerminated := w.flags.isTerminated ||
          !(!w.flags.stopRequested && w.flags.restartInProgress) } }
  else w

/-- Limelight stops and cleans up what it holds as set up. -/
def release (c : Component) (w : World) : World :=
  if w.up c then
    let w := (callbacks cfg c).cleanup ((callbacks cfg c).stop w)
    { w with up := Function.update w.up c false }
  else w

def releaseAll (w : World) : World := release cfg .videoDecoder (release cfg .audioRenderer w)

def liStopConnection (w : World) : World := { releaseAll cfg w with live := false }

/-- One stream of a connection; a refused setup ends the start. -/
def bringUp (c : Component) (result : Int) (w : World) : World × Bool :=
  let (w, rc) := (callbacks cfg c).setup result w
  if rc = DR_OK then
    ((callbacks cfg c).start { w with up := Function.update w.up c true }, true)
  else (w, false)

/-- A start that fails leaves nothing set up. -/
def liStartConnection (a : Attempt) (w : World) : World × Bool :=
  if a.breaks = some .beforeVideo then (releaseAll cfg w, false)
  else
    let (w, video) := bringUp cfg .videoDecoder (a.setup .videoDecoder) w
    if !video || a.breaks = some .beforeAudio then (releaseAll cfg w, false)
    else
      let (w, audio) := bringUp cfg .audioRenderer (a.setup .audioRenderer) w
      if !audio || a.breaks = some .atTheEnd then (releaseAll cfg w, false)
      else (connectionStarted { w with live := true }, true)

/-! ## The session -/

/-- The flags after a start that failed. -/
def markTerminated (w : World) : World :=
  if w.activeSession then
    { w with flags := { w.flags with isActive := false, isTerminated := true } }
  else w

/-- What the callback given to `start` does to the session. -/
def Callback.run (callback : Callback) (ok : Bool) (w : World) : World :=
  match callback with
  | .view => w
  | .restart =>
    if w.activeSession && !ok then
      { w with flags := { w.flags with
          restartInProgress := false, isActive := false, isTerminated := true } }
    else w
  | .restartWithApolloOptions =>
    if w.activeSession then { w with flags := { w.flags with restartInProgress := false } }
    else w

def start (callback : Callback) (isSunshine : Bool) (w : World) : World :=
  { w with
    flags := { w.flags with isSunshine, stopRequested := false, isTerminated := false }
    tasks := w.tasks ++ [.client callback] }

/-- The callback of `GameStreamClient::start`. -/
def clientDone (callback : Callback) (ok : Bool) (w : World) : World :=
  if ok then { w with tasks := w.tasks ++ [.connect callback] } else callback.run false w

/-- The task on the worker thread. -/
def connect (callback : Callback) (a : Attempt) (w : World) : World :=
  let (w, ok) := liStartConnection cfg a w
  { w with tasks := w.tasks ++ [.result callback ok] }

/-- The result on the UI thread. -/
def resultDone (callback : Callback) (ok : Bool) (w : World) : World :=
  callback.run ok (if ok then w else markTerminated w)

def stop (terminateApp syncHostQuit : Bool) (w : World) : World :=
  let w := { w with stopCalled := true }
  if w.flags.stopRequested then w
  else
    let w := { w with
      flags := { w.flags with stopRequested := true, restartInProgress := false }
      activeSession := false }
    liStopConnection cfg
      (if terminateApp || w.flags.isSunshine then { w with quits := w.quits ++ [syncHostQuit] }
       else w)

/-- The flags before the connection of a restart is stopped. -/
def markRestarting (w : World) : World :=
  { w with flags := { w.flags with
      isActive := false, isTerminated := false, restartInProgress := true } }

/-- `restart` asks the active session for `m_is_sunshine`; without one that is a null pointer. -/
def restart (w : World) : Option World :=
  let w := liStopConnection cfg (markRestarting w)
  if w.activeSession then some (start .restart w.flags.isSunshine w) else none

def restartWithApolloOptions (w : World) : World :=
  let w := liStopConnection cfg (markRestarting w)
  start .restartWithApolloOptions w.flags.isSunshine w

/-- `~MoonlightSession`. -/
def deleteSession (w : World) : World :=
  { w with
    calls := fun c => if cfg.has c then w.calls c ++ [.delete] else w.calls c
    activeSession := false
    deleted := true }

/-! ## Steps -/

inductive Label where
  | start (isSunshine : Bool)
  | stop (terminateApp syncHostQuit : Bool)
  | restart
  | restartWithApolloOptions
  | delete
  | client (i : ℕ) (ok : Bool)
  | connect (i : ℕ) (a : Attempt)
  | result (i : ℕ)
  | terminated

/-- Takes the `i`-th task off the list. -/
def World.without (w : World) (i : ℕ) : World := { w with tasks := w.tasks.eraseIdx i }

/-- Calls need the object; a task that is under way goes on without it. -/
def step (w : World) : Label → Option World
  | .start isSunshine => if w.deleted then none else some (start .view isSunshine w)
  | .stop terminateApp syncHostQuit =>
    if w.deleted then none else some (stop cfg terminateApp syncHostQuit w)
  | .restart => if w.deleted then none else restart cfg w
  | .restartWithApolloOptions =>
    if w.deleted then none else some (restartWithApolloOptions cfg w)
  | .delete => if w.deleted then none else some (deleteSession cfg w)
  | .client i ok =>
    match w.tasks[i]? with
    | some (.client callback) => some (clientDone callback ok (w.without i))
    | _ => none
  | .connect i a =>
    match w.tasks[i]? with
    | some (.connect callback) => some (connect cfg callback a (w.without i))
    | _ => none
  | .result i =>
    match w.tasks[i]? with
    | some (.result callback ok) => some (resultDone callback ok (w.without i))
    | _ => none
  | .terminated => if w.live then some (connectionTerminated w) else none

/-- `~StreamingView` stops the session and deletes it. -/
def viewDestructor (terminateHost : Bool) : List Label :=
  [.stop terminateHost terminateHost, .delete]

end ArtemisSwitch.Session

import ArtemisSwitch.ControlSession
import ArtemisSwitch.CoreRoutes
import ArtemisSwitch.Library.Brackets

/-!
# The worker of TailscaleCore

`workerMain` runs one control session after the other.  It waits longer after every one that
fails, and gives up only where none has ever worked.  Other threads activate and stop routes
meanwhile, and ask the worker to stop.
-/

namespace ArtemisSwitch.ControlWorker
open Wgx Netmap Runs Brackets
open Control (PollResult)
open RemoteAccess (RemoteRouteTarget)

/-! ## The loops -/

inductive SessionResult
  | Stopped
  | Fatal
  | ConnectFailed
  | DroppedEarly
  | DroppedAfterData
  deriving DecidableEq

/-- Where the worker is. -/
inductive Phase
  /-- At the loop of `workerMain`. -/
  | head
  /-- In `control_->connect`. -/
  | connecting
  /-- At the loop of `runControlSession`, after so many messages. -/
  | handled (messages : ℕ)
  /-- In `control_->poll`. -/
  | polling (messages : ℕ)
  | finished (result : SessionResult)
  /-- In `waitBeforeReconnect`. -/
  | waiting
  | ended
  deriving DecidableEq

/-- What the worker does and learns, in order. -/
inductive Call
  | connect (authKey : Bytes)
  | connected
  | message
  | rejected
  | close
  | wait (attempt seconds : ℕ)
  deriving DecidableEq

def kInitialBackoff : ℕ := 1

def kMaxBackoff : ℕ := 30

def Call.key : Call → Option Bytes
  | .connect authKey => some authKey
  | _ => none

def Call.session : Call → Option (Event Unit)
  | .connected => some (.acquired ())
  | .close => some (.released ())
  | _ => none

/-- How long the worker waits before an attempt. -/
def seconds (attempt : ℕ) : ℕ := min (2 ^ (attempt - 1)) kMaxBackoff

/-- The waits since the last message. -/
def countWait (n : ℕ) : Call → ℕ
  | .message => 0
  | .wait _ _ => n + 1
  | _ => n

def waitsSince (calls : List Call) : ℕ := calls.foldl countWait 0

structure Worker (β : Type) where
  core : TailscaleCore β
  authKey : Bytes
  stopRequested : Bool := false
  phase : Phase := .head
  firstSession : Bool := true
  everProductive : Bool := false
  backoff : ℕ := kInitialBackoff
  attempt : ℕ := 0
  calls : List Call := []

/-- The error of `replacePeers`. -/
def replaceError (peers : List Peer) (localAddress : Bytes) : Option Bytes :=
  if isLiteralIPv4 localAddress = false then some (ascii "control map has no usable IPv4 address")
  else
    match PeerDirectory.replace peers with
    | .error error => some error
    | .ok _ => none

namespace Worker

variable {β ω : Type}

/-- `start`. -/
def start (core : TailscaleCore β) (authKey : Bytes) : Worker β where
  core := core.setState .starting (ascii "Starting") []
  authKey := authKey

def setState (w : Worker β) (state : SnapshotState) (status error : Bytes) : Worker β :=
  { w with core := w.core.setState state status error }

def note (w : Worker β) (call : Call) : Worker β := { w with calls := w.calls ++ [call] }

def close (w : Worker β) (result : SessionResult) : Worker β :=
  { w.note .close with phase := .finished result }

/-- `while (!stopRequested_)`, and the start of `runControlSession`. -/
def enter (w : Worker β) : Worker β :=
  if w.stopRequested then { w with phase := .ended }
  else
    { w.setState .connectingControl
        (ascii (if w.firstSession then "Connecting control" else "Reconnecting to control")) [] with
      phase := .connecting
      calls := w.calls ++ [.connect w.authKey] }

/-- `connect` has failed.  Only the first session takes the key away and says that it failed. -/
def connectFailed (w : Worker β) (error : Bytes) : Worker β :=
  let result := if w.stopRequested then SessionResult.Stopped else .ConnectFailed
  if w.firstSession then
    { w.setState (if w.authKey = [] then .needsAuthentication else .error)
        (ascii "Authentication failed") error with
      authKey := []
      phase := .finished result }
  else
    { w.setState .connectingControl (ascii "Reconnecting to control") error with
      phase := .finished result }

def connected (w : Worker β) : Worker β :=
  { w.setState .connectedControl (ascii "Control connected") [] with
    authKey := []
    phase := .handled 0
    calls := w.calls ++ [.connected] }

/-- The loop of `runControlSession` goes on unless a stop was requested. -/
def check (w : Worker β) (messages : ℕ) : Worker β :=
  if w.stopRequested then w.close .Stopped else { w with phase := .polling messages }

def pollFailed (w : Worker β) (messages : ℕ) (error : Bytes) : Worker β :=
  if w.stopRequested then w.close .Stopped
  else if 0 < messages then
    (w.setState .connectingControl (ascii "Reconnecting to control") error).close .DroppedAfterData
  else (w.setState .error (ascii "Control disconnected") error).close .DroppedEarly

def updateDerpMap (core : TailscaleCore β) : Option (List DerpRegion) → TailscaleCore β
  | none => core
  | some derpMap => { core with snapshot := { core.snapshot with derpMap := derpMap } }

/-- A message without a full list of the peers. -/
def applyUpdate (core : TailscaleCore β) (update : PollResult) : TailscaleCore β :=
  let core :=
    if update.delta.changed ≠ [] ∨ update.delta.removedStableIds ≠ [] ∨
        update.delta.onlineChanges ≠ [] then
      core.applyPeerDelta update.delta
    else core
  let core := updateDerpMap core update.derpMap
  if update.localAddress = [] then core
  else
    { core with
      snapshot := { core.snapshot with
        localAddress := update.localAddress
        state := .ready
        status := ascii "Ready"
        lastError := [] } }

def polled (w : Worker β) (messages : ℕ) (update : PollResult) : Worker β :=
  let w := w.note .message
  match update.fullPeers with
  | none =>
    { w with core := applyUpdate w.core update, phase := .handled (messages + 1) }
  | some peers =>
    match replaceError peers update.localAddress with
    | some error =>
      let w := w.note .rejected
      if w.stopRequested then w.close .Stopped
      else (w.setState .error (ascii "Netmap rejected") error).close .Fatal
    | none =>
      { w with
        core := updateDerpMap (w.core.replacePeers peers update.localAddress) update.derpMap
        phase := .handled (messages + 1) }

/-- The rest of a turn of the loop of `workerMain`. -/
def finish (w : Worker β) (result : SessionResult) : Worker β :=
  if result = .Stopped ∨ w.stopRequested ∨ result = .Fatal then { w with phase := .ended }
  else
    let w :=
      if result = .DroppedAfterData then
        { w with everProductive := true, backoff := kInitialBackoff, attempt := 0 }
      else w
    if w.everProductive = false then { w with phase := .ended }
    else
      { w with
        firstSession := false
        attempt := w.attempt + 1
        phase := .waiting
        calls := w.calls ++ [.wait (w.attempt + 1) w.backoff] }

/-- The wait is over, as its time has passed or as a stop was requested. -/
def wake (w : Worker β) : Worker β :=
  if w.stopRequested then { w with phase := .ended }
  else { w with backoff := min (w.backoff * 2) kMaxBackoff, phase := .head }

/-- What may happen: the worker goes on, with the answers of the control session, or another
thread calls the core. -/
inductive Step (ω : Type)
  | enter
  | connectFailed (error : Bytes)
  | connected
  | check
  | pollFailed (error : Bytes)
  | polled (update : PollResult)
  | finish
  | wake
  | requestStop
  | activateRoute (answers : ω) (target : RemoteRouteTarget)
  | prepareRouteForStreaming (answers : ω) (target : RemoteRouteTarget)
  | deactivateRoute (answers : ω) (target : RemoteRouteTarget)
  | background (answers : ω)

/-- The steps of the worker itself, each at its place. -/
def next (w : Worker β) (step : Step ω) : Option (Worker β) :=
  match step, w.phase with
  | .enter, .head => some w.enter
  | .connectFailed error, .connecting => some (w.connectFailed error)
  | .connected, .connecting => some w.connected
  | .check, .handled messages => some (w.check messages)
  | .pollFailed error, .polling messages => some (w.pollFailed messages error)
  | .polled update, .polling messages => some (w.polled messages update)
  | .finish, .finished result => some (w.finish result)
  | .wake, .waiting => some w.wake
  | _, _ => none

section Step

variable (api : ω → IWgxBackend β) (background : ω → β → β) (hash : Bytes → UInt64)

def withCore (w : Worker β) (event : TailscaleCore.Event ω) : Worker β :=
  { w with core := w.core.step api background hash event }

def step (w : Worker β) : Step ω → Option (Worker β)
  | .requestStop => some { w with stopRequested := true }
  | .activateRoute answers target =>
    some (w.withCore api background hash (.activateRoute answers target))
  | .prepareRouteForStreaming answers target =>
    some (w.withCore api background hash (.prepareRouteForStreaming answers target))
  | .deactivateRoute answers target =>
    some (w.withCore api background hash (.deactivateRoute answers target))
  | .background answers => some (w.withCore api background hash (.background answers))
  | own => w.next own

end Step

/-! ## What a step can do -/

/-- The snapshot shows a failure. -/
def Failed (core : TailscaleCore β) : Prop :=
  core.snapshot.state = .error ∨ core.snapshot.state = .needsAuthentication

/-- The branches of the loops; what they leave in the core matters where a session has failed. -/
inductive Moves (w : Worker β) : Worker β → Prop
  | stop (h : w.phase = .head ∨ w.phase = .waiting) (hstop : w.stopRequested = true) :
    Moves w { w with phase := .ended }
  | enter (h : w.phase = .head) (core : TailscaleCore β) :
    Moves w { w with core := core, phase := .connecting, calls := w.calls ++ [.connect w.authKey] }
  | firstFailed (h : w.phase = .connecting) (hfirst : w.firstSession = true)
    {core : TailscaleCore β} (hcore : Failed core) {result : SessionResult}
    (hresult : result = .ConnectFailed ∨ result = .Stopped ∧ w.stopRequested = true) :
    Moves w { w with core := core, authKey := [], phase := .finished result }
  | laterFailed (h : w.phase = .connecting) (hlater : w.firstSession = false)
    (core : TailscaleCore β) {result : SessionResult}
    (hresult : result = .ConnectFailed ∨ result = .Stopped ∧ w.stopRequested = true) :
    Moves w { w with core := core, phase := .finished result }
  | connected (h : w.phase = .connecting) (core : TailscaleCore β) :
    Moves w { w with
      core := core, authKey := [], phase := .handled 0, calls := w.calls ++ [.connected] }
  | poll {messages : ℕ} (h : w.phase = .handled messages) :
    Moves w { w with phase := .polling messages }
  | close {messages : ℕ} (h : w.phase = .handled messages ∨ w.phase = .polling messages)
    {core : TailscaleCore β} {result : SessionResult}
    (hresult : result = .Stopped ∧ w.stopRequested = true ∨
      result = .DroppedAfterData ∧ 0 < messages ∨
      result = .DroppedEarly ∧ messages = 0 ∧ Failed core) :
    Moves w { w with
      core := core, phase := .finished result, calls := w.calls ++ [.close] }
  | message {messages : ℕ} (h : w.phase = .polling messages) (core : TailscaleCore β) :
    Moves w { w with
      core := core, phase := .handled (messages + 1), calls := w.calls ++ [.message] }
  | reject {messages : ℕ} (h : w.phase = .polling messages) {core : TailscaleCore β}
    {result : SessionResult}
    (hresult : result = .Stopped ∧ w.stopRequested = true ∨ result = .Fatal ∧ Failed core) :
    Moves w { w with
      core := core, phase := .finished result
      calls := w.calls ++ [.message, .rejected, .close] }
  | giveUp {result : SessionResult} (h : w.phase = .finished result)
    (hresult : result = .Stopped ∨ w.stopRequested = true ∨ result = .Fatal ∨
      result ≠ .DroppedAfterData ∧ w.everProductive = false) :
    Moves w { w with phase := .ended }
  | restart (h : w.phase = .finished .DroppedAfterData) :
    Moves w { w with
      everProductive := true, firstSession := false, backoff := kInitialBackoff, attempt := 1
      phase := .waiting, calls := w.calls ++ [.wait 1 kInitialBackoff] }
  | retry {result : SessionResult} (h : w.phase = .finished result)
    (hresult : result = .ConnectFailed ∨ result = .DroppedEarly) (hever : w.everProductive = true) :
    Moves w { w with
      firstSession := false, attempt := w.attempt + 1
      phase := .waiting, calls := w.calls ++ [.wait (w.attempt + 1) w.backoff] }
  | wake (h : w.phase = .waiting) :
    Moves w { w with backoff := min (w.backoff * 2) kMaxBackoff, phase := .head }
  | requestStop : Moves w { w with stopRequested := true }
  | route {core : TailscaleCore β} (h : core.snapshot = w.core.snapshot ∨ Failed core) :
    Moves w { w with core := core }

variable {api : ω → IWgxBackend β} {background : ω → β → β} {hash : Bytes → UInt64}
variable {w after : Worker β} {s : Step ω}

lemma moves_enter (h : w.phase = .head) : Moves w w.enter := by
  unfold enter
  by_cases hstop : w.stopRequested = true
  · rw [if_pos hstop]
    exact .stop (.inl h) hstop
  · rw [if_neg hstop]
    exact .enter h _

lemma moves_connectFailed (h : w.phase = .connecting) (error : Bytes) :
    Moves w (w.connectFailed error) := by
  have hresult : ∀ b : Bool, (if b then SessionResult.Stopped else .ConnectFailed) =
      .ConnectFailed ∨ (if b then SessionResult.Stopped else .ConnectFailed) = .Stopped ∧
        b = true := by decide
  unfold connectFailed
  by_cases hfirst : w.firstSession = true
  · rw [if_pos hfirst]
    refine .firstFailed h hfirst ?_ (hresult w.stopRequested)
    by_cases hkey : w.authKey = []
    · exact .inr (if_pos hkey)
    · exact .inl (if_neg hkey)
  · rw [if_neg hfirst]
    exact .laterFailed h (by simpa using hfirst) _ (hresult w.stopRequested)

lemma moves_check {messages : ℕ} (h : w.phase = .handled messages) :
    Moves w (w.check messages) := by
  unfold check
  split_ifs with hstop
  · exact .close (.inl h) (.inl ⟨rfl, hstop⟩)
  · exact .poll h

lemma moves_pollFailed {messages : ℕ} (h : w.phase = .polling messages) (error : Bytes) :
    Moves w (w.pollFailed messages error) := by
  unfold pollFailed
  split_ifs with hstop hdata
  · exact .close (.inr h) (.inl ⟨rfl, hstop⟩)
  · exact .close (.inr h) (.inr (.inl ⟨rfl, hdata⟩))
  · exact .close (.inr h) (.inr (.inr ⟨rfl, Nat.eq_zero_of_not_pos hdata, .inl rfl⟩))

lemma moves_polled {messages : ℕ} (h : w.phase = .polling messages) (update : PollResult) :
    Moves w (w.polled messages update) := by
  unfold polled
  cases update.fullPeers with
  | none => exact .message h _
  | some peers =>
    dsimp only
    cases replaceError peers update.localAddress with
    | none => exact .message h _
    | some error =>
      have hcalls : w.calls ++ [.message] ++ [.rejected] ++ [.close] =
          w.calls ++ [.message, .rejected, .close] := by simp
      dsimp only
      split_ifs with hstop
      · have hmove := @Moves.reject _ w _ h w.core .Stopped (.inl ⟨rfl, hstop⟩)
        rwa [← hcalls] at hmove
      · have hmove := @Moves.reject _ w _ h
          (w.core.setState .error (ascii "Netmap rejected") error) .Fatal (.inr ⟨rfl, .inl rfl⟩)
        rwa [← hcalls] at hmove

lemma moves_finish {result : SessionResult} (h : w.phase = .finished result) :
    Moves w (w.finish result) := by
  unfold finish
  by_cases hend : result = .Stopped ∨ w.stopRequested = true ∨ result = .Fatal
  · rw [if_pos hend]
    exact .giveUp h (hend.imp_right (Or.imp_right Or.inl))
  · rw [if_neg hend]
    by_cases hdata : result = .DroppedAfterData
    · subst hdata
      exact .restart h
    · dsimp only
      rw [if_neg hdata]
      by_cases hever : w.everProductive = false
      · rw [if_pos hever]
        exact .giveUp h (.inr (.inr (.inr ⟨hdata, hever⟩)))
      · rw [if_neg hever]
        refine .retry h ?_ (by simpa using hever)
        cases result <;> simp_all

lemma moves_next (h : w.next s = some after) : Moves w after := by
  unfold next at h
  split at h
  · obtain rfl := Option.some.inj h
    exact moves_enter ‹_›
  · obtain rfl := Option.some.inj h
    exact moves_connectFailed ‹_› _
  · obtain rfl := Option.some.inj h
    exact .connected ‹_› _
  · obtain rfl := Option.some.inj h
    exact moves_check ‹_›
  · obtain rfl := Option.some.inj h
    exact moves_pollFailed ‹_› _
  · obtain rfl := Option.some.inj h
    exact moves_polled ‹_› _
  · obtain rfl := Option.some.inj h
    exact moves_finish ‹_›
  · obtain rfl := Option.some.inj h
    rename_i hphase
    unfold wake
    split_ifs with hstop
    · exact .stop (.inr hphase) hstop
    · exact .wake hphase
  · cases h

/-! ### Other threads -/

lemma moves_activateRoute (answers : ω) (target : RemoteRouteTarget) :
    Moves w (w.withCore api background hash (.activateRoute answers target)) := by
  refine .route ?_
  show (w.core.activateRoute (api answers) hash target).2.snapshot = _ ∨
    Failed (w.core.activateRoute (api answers) hash target).2
  unfold TailscaleCore.activateRoute
  split_ifs
  · exact .inl rfl
  · split
    · exact .inr (.inl rfl)
    · exact .inl rfl

lemma moves_prepareRouteForStreaming (answers : ω) (target : RemoteRouteTarget) :
    Moves w (w.withCore api background hash (.prepareRouteForStreaming answers target)) := by
  refine .route ?_
  show (w.core.prepareRouteForStreaming (api answers) target).2.snapshot = _ ∨
    Failed (w.core.prepareRouteForStreaming (api answers) target).2
  unfold TailscaleCore.prepareRouteForStreaming
  split_ifs
  · exact .inl rfl
  · split
    · exact .inr (.inl rfl)
    · exact .inl rfl

lemma moves_deactivateRoute (answers : ω) (target : RemoteRouteTarget) :
    Moves w (w.withCore api background hash (.deactivateRoute answers target)) := by
  refine .route (.inl ?_)
  show (w.core.deactivateRoute (api answers) target).snapshot = _
  unfold TailscaleCore.deactivateRoute
  split_ifs <;> rfl

lemma moves_step (h : w.step api background hash s = some after) : Moves w after := by
  cases s with
  | requestStop =>
    obtain rfl := Option.some.inj h
    exact .requestStop
  | activateRoute answers target =>
    obtain rfl := Option.some.inj h
    exact moves_activateRoute answers target
  | prepareRouteForStreaming answers target =>
    obtain rfl := Option.some.inj h
    exact moves_prepareRouteForStreaming answers target
  | deactivateRoute answers target =>
    obtain rfl := Option.some.inj h
    exact moves_deactivateRoute answers target
  | background answers =>
    obtain rfl := Option.some.inj h
    exact .route (.inl rfl)
  | enter => exact moves_next h
  | connectFailed error => exact moves_next h
  | connected => exact moves_next h
  | check => exact moves_next h
  | pollFailed error => exact moves_next h
  | polled update => exact moves_next h
  | finish => exact moves_next h
  | wake => exact moves_next h

/-! ## The key, the sessions and the waits -/

/-- The keys with which control has been called. -/
def keys (w : Worker β) : List Bytes := w.calls.filterMap Call.key

/-- Every wait counts those before it since the last message, and is as long as its number says. -/
def Counted (calls : List Call) : Prop :=
  ∀ i attempt s, calls[i]? = some (.wait attempt s) →
    attempt = waitsSince (calls.take i) + 1 ∧ s = seconds attempt

lemma Counted.append {calls more : List Call} (h : Counted calls)
    (hmore : ∀ attempt s, .wait attempt s ∉ more) : Counted (calls ++ more) := by
  intro i attempt s hget
  rcases Nat.lt_or_ge i calls.length with hlt | hge
  · rw [List.getElem?_append_left hlt] at hget
    rw [List.take_append_of_le_length hlt.le]
    exact h i attempt s hget
  · rw [List.getElem?_append_right hge] at hget
    exact absurd (List.mem_of_getElem? hget) (hmore attempt s)

lemma Counted.wait {calls : List Call} (h : Counted calls) :
    Counted (calls ++ [.wait (waitsSince calls + 1) (seconds (waitsSince calls + 1))]) := by
  intro i attempt s hget
  rcases Nat.lt_or_ge i calls.length with hlt | hge
  · rw [List.getElem?_append_left hlt] at hget
    rw [List.take_append_of_le_length hlt.le]
    exact h i attempt s hget
  · rw [List.getElem?_append_right hge, List.getElem?_singleton] at hget
    split_ifs at hget with hlast
    have hi : i = calls.length := by omega
    obtain ⟨rfl, rfl⟩ := Call.wait.inj (Option.some.inj hget)
    rw [hi, List.take_left]
    exact ⟨rfl, rfl⟩

/-- How many waits there were since the last message, where that is the number of the attempt or
the session has had a message itself. -/
def sinceMessage (w : Worker β) : Option ℕ :=
  match w.phase with
  | .handled (_ + 1) => some 0
  | .polling (_ + 1) => some 0
  | .finished .DroppedAfterData => some 0
  | .finished .Stopped => none
  | .finished .Fatal => none
  | .ended => none
  | _ => some w.attempt

/-- The waits so far, and the length of the next one. -/
structure Waits (w : Worker β) : Prop where
  past : Counted w.calls
  since : ∀ n, w.sinceMessage = some n → waitsSince w.calls = n
  next : w.phase ≠ .waiting ∧ w.phase ≠ .ended → w.backoff = seconds (w.attempt + 1)
  now : w.phase = .waiting → 1 ≤ w.attempt ∧ w.backoff = seconds w.attempt

lemma waitsSince_append (calls more : List Call) :
    waitsSince (calls ++ more) = more.foldl countWait (waitsSince calls) := List.foldl_append

/-- Calls between two waits. -/
lemma Waits.of_calls {w w' : Worker β} (h : Waits w) {more : List Call}
    (hcalls : w'.calls = w.calls ++ more) (hmore : ∀ attempt s, .wait attempt s ∉ more)
    (hsince : ∀ n, w'.sinceMessage = some n →
      more.foldl countWait (waitsSince w.calls) = n)
    (hbackoff : w'.backoff = w.backoff) (hattempt : w'.attempt = w.attempt)
    (hphase : w.phase ≠ .waiting ∧ w.phase ≠ .ended) (hphase' : w'.phase ≠ .waiting) :
    Waits w' where
  past := hcalls ▸ h.past.append hmore
  since n hn := by
    rw [hcalls, waitsSince_append]
    exact hsince n hn
  next _ := by
    rw [hbackoff, hattempt]
    exact h.next hphase
  now hwaiting := absurd hwaiting hphase'

/-- After a message the worker goes on, unless a netmap is rejected or a stop is requested. -/
def GoesOn (w : Worker β) : Prop :=
  .message ∈ w.calls → .rejected ∈ w.calls ∨ w.stopRequested = true ∨ w.everProductive = true ∨
    w.phase = .finished .DroppedAfterData ∨
      ∃ n, w.phase = .handled (n + 1) ∨ w.phase = .polling (n + 1)

/-- What is known of a session by its result. -/
structure Outcome (w : Worker β) : Prop where
  stopped : w.phase = .finished .Stopped → w.stopRequested = true
  fatal : w.phase = .finished .Fatal → .rejected ∈ w.calls ∧ Failed w.core
  early : w.phase = .finished .DroppedEarly → Failed w.core
  unconnected : w.phase = .finished .ConnectFailed → w.firstSession = true → Failed w.core
  later : w.firstSession = false → w.everProductive = true
  message : GoesOn w
  ended : w.phase = .ended → w.stopRequested = true ∨
    Failed w.core ∧ (.rejected ∈ w.calls ∨ .message ∉ w.calls)

/-- Where no message has just been handled, the phase does not matter. -/
lemma GoesOn.of_calls {w w' : Worker β} (h : GoesOn w) {more : List Call}
    (hcalls : w'.calls = w.calls ++ more) (hmore : .message ∉ more)
    (hstop : w'.stopRequested = w.stopRequested) (hever : w'.everProductive = w.everProductive)
    (hdropped : w.phase = .finished .DroppedAfterData → w.stopRequested = true)
    (hplace : ∀ n, w.phase ≠ .handled (n + 1) ∧ w.phase ≠ .polling (n + 1)) : GoesOn w' := by
  intro hmem
  rw [hcalls] at hmem ⊢
  rw [hstop, hever]
  rcases h ((List.mem_append.mp hmem).resolve_right hmore) with
    hrejected | hstopped | hproductive | hphase | ⟨n, hphase | hphase⟩
  · exact .inl (List.mem_append_left _ hrejected)
  · exact .inr (.inl hstopped)
  · exact .inr (.inr (.inl hproductive))
  · exact .inr (.inl (hdropped hphase))
  · exact absurd hphase (hplace n).1
  · exact absurd hphase (hplace n).2

/-- Inside and between the sessions. -/
lemma Outcome.of_open {w : Worker β} (hphase : ∀ result, w.phase ≠ .finished result)
    (hended : w.phase ≠ .ended) (hlater : w.firstSession = false → w.everProductive = true)
    (hmessage : GoesOn w) : Outcome w where
  stopped h := absurd h (hphase _)
  fatal h := absurd h (hphase _)
  early h := absurd h (hphase _)
  unconnected h := absurd h (hphase _)
  later := hlater
  message := hmessage
  ended h := absurd h hended

/-- What a session may end with. -/
inductive Warranted (w : Worker β) : SessionResult → Prop
  | stopped (hstop : w.stopRequested = true) : Warranted w .Stopped
  | fatal (hrejected : .rejected ∈ w.calls) (hcore : Failed w.core) : Warranted w .Fatal
  | early (hcore : Failed w.core) : Warranted w .DroppedEarly
  | unconnected (hcore : w.firstSession = true → Failed w.core) : Warranted w .ConnectFailed
  | dropped : Warranted w .DroppedAfterData

/-- Behind a session. -/
lemma Outcome.of_finished {w : Worker β} {result : SessionResult}
    (hphase : w.phase = .finished result) (hresult : Warranted w result)
    (hlater : w.firstSession = false → w.everProductive = true) (hmessage : GoesOn w) :
    Outcome w := by
  have hended : w.phase ≠ .ended := by simp [hphase]
  cases hresult with
  | stopped hstop =>
    exact ⟨fun _ => hstop, by simp [hphase], by simp [hphase], by simp [hphase], hlater, hmessage,
      fun h => absurd h hended⟩
  | fatal hrejected hcore =>
    exact ⟨by simp [hphase], fun _ => ⟨hrejected, hcore⟩, by simp [hphase], by simp [hphase],
      hlater, hmessage, fun h => absurd h hended⟩
  | early hcore =>
    exact ⟨by simp [hphase], by simp [hphase], fun _ => hcore, by simp [hphase], hlater, hmessage,
      fun h => absurd h hended⟩
  | unconnected hcore =>
    exact ⟨by simp [hphase], by simp [hphase], by simp [hphase], fun _ => hcore, hlater, hmessage,
      fun h => absurd h hended⟩
  | dropped =>
    exact ⟨by simp [hphase], by simp [hphase], by simp [hphase], by simp [hphase], hlater,
      hmessage, fun h => absurd h hended⟩

lemma outcome_giveUp {result : SessionResult} (h : Outcome w) (hphase : w.phase = .finished result)
    (hresult : result = .Stopped ∨ w.stopRequested = true ∨ result = .Fatal ∨
      result ≠ .DroppedAfterData ∧ w.everProductive = false) :
    w.stopRequested = true ∨ Failed w.core ∧ (.rejected ∈ w.calls ∨ .message ∉ w.calls) := by
  by_cases hstop : w.stopRequested = true
  · exact .inl hstop
  rcases hresult with rfl | hstopped | rfl | ⟨hother, hnever⟩
  · exact .inl (h.stopped hphase)
  · exact .inl hstopped
  · exact .inr ⟨(h.fatal hphase).2, .inl (h.fatal hphase).1⟩
  · have hfirst : w.firstSession = true := by
      by_contra hlater
      rw [h.later (by simpa using hlater)] at hnever
      cases hnever
    have hquiet : .rejected ∈ w.calls ∨ .message ∉ w.calls := by
      by_cases hmem : .message ∈ w.calls
      · rcases h.message hmem with hrejected | hstopped | hproductive | hdropped | ⟨n, hn | hn⟩
        · exact .inl hrejected
        · exact absurd hstopped hstop
        · rw [hproductive] at hnever
          cases hnever
        · exact absurd (Phase.finished.inj (hphase.symm.trans hdropped)) hother
        · cases hphase.symm.trans hn
        · cases hphase.symm.trans hn
      · exact .inr hmem
    cases result with
    | Stopped => exact .inl (h.stopped hphase)
    | Fatal => exact .inr ⟨(h.fatal hphase).2, hquiet⟩
    | ConnectFailed => exact .inr ⟨h.unconnected hphase hfirst, hquiet⟩
    | DroppedEarly => exact .inr ⟨h.early hphase, hquiet⟩
    | DroppedAfterData => exact absurd rfl hother

lemma outcome_moves (hmove : Moves w after) (h : Outcome w) : Outcome after := by
  cases hmove with
  | stop hphase hstop =>
    exact ⟨(fun hplace => nomatch hplace), (fun hplace => nomatch hplace),
      (fun hplace => nomatch hplace), (fun hplace => nomatch hplace), h.later,
      fun _ => .inr (.inl hstop), fun _ => .inl hstop⟩
  | enter hphase =>
    exact .of_open (by simp) (by simp) h.later
      (h.message.of_calls rfl (by simp) rfl rfl (by simp [hphase]) (by simp [hphase]))
  | firstFailed hphase hfirst hcore hresult =>
    refine .of_finished rfl ?_ h.later (h.message.of_calls (List.append_nil _).symm (by simp) rfl
      rfl (by simp [hphase]) (by simp [hphase]))
    rcases hresult with rfl | ⟨rfl, hstop⟩
    · exact .unconnected fun _ => hcore
    · exact .stopped hstop
  | laterFailed hphase hlater core hresult =>
    refine .of_finished rfl ?_ h.later (h.message.of_calls (List.append_nil _).symm (by simp) rfl
      rfl (by simp [hphase]) (by simp [hphase]))
    rcases hresult with rfl | ⟨rfl, hstop⟩
    · exact .unconnected fun hfirst => absurd (hlater.symm.trans hfirst) Bool.false_ne_true
    · exact .stopped hstop
  | connected hphase =>
    exact .of_open (by simp) (by simp) h.later
      (h.message.of_calls rfl (by simp) rfl rfl (by simp [hphase]) (by simp [hphase]))
  | poll hphase =>
    refine .of_open (by simp) (by simp) h.later fun hmem => ?_
    rcases h.message hmem with hrejected | hstopped | hproductive | hdropped | ⟨n, hn | hn⟩
    · exact .inl hrejected
    · exact .inr (.inl hstopped)
    · exact .inr (.inr (.inl hproductive))
    · cases hphase.symm.trans hdropped
    · refine .inr (.inr (.inr (.inr ⟨n, .inr ?_⟩)))
      rw [Phase.handled.inj (hphase.symm.trans hn)]
    · cases hphase.symm.trans hn
  | close hphase hresult =>
    refine .of_finished rfl ?_ h.later fun hmem => ?_
    · rcases hresult with ⟨rfl, hstop⟩ | ⟨rfl, -⟩ | ⟨rfl, -, hcore⟩
      · exact .stopped hstop
      · exact .dropped
      · exact .early hcore
    · rcases hresult with ⟨-, hstop⟩ | ⟨rfl, -⟩ | ⟨rfl, rfl, -⟩
      · exact .inr (.inl hstop)
      · exact .inr (.inr (.inr (.inl rfl)))
      · have hgoes : GoesOn { w with
            phase := .finished .DroppedEarly, calls := w.calls ++ [.close] } := by
          refine h.message.of_calls rfl (by simp) rfl rfl ?_ ?_ <;>
            rcases hphase with hphase | hphase <;> simp [hphase]
        exact hgoes hmem
  | message hphase =>
    exact .of_open (by simp) (by simp) h.later
      fun _ => .inr (.inr (.inr (.inr ⟨_, .inl rfl⟩)))
  | reject hphase hresult =>
    refine .of_finished rfl ?_ h.later fun hmem => .inl (by simp)
    rcases hresult with ⟨rfl, hstop⟩ | ⟨rfl, hcore⟩
    · exact .stopped hstop
    · exact .fatal (by simp) hcore
  | giveUp hphase hresult =>
    have hend := outcome_giveUp h hphase hresult
    refine ⟨(fun hplace => nomatch hplace), (fun hplace => nomatch hplace),
      (fun hplace => nomatch hplace), (fun hplace => nomatch hplace), h.later,
      fun hmem => ?_, fun _ => hend⟩
    rcases hend with hstop | ⟨-, hrejected | hnone⟩
    · exact .inr (.inl hstop)
    · exact .inl hrejected
    · exact absurd hmem hnone
  | restart hphase =>
    exact .of_open (by simp) (by simp) (fun _ => rfl) fun _ => .inr (.inr (.inl rfl))
  | retry hphase hresult hever =>
    exact .of_open (by simp) (by simp) (fun _ => hever) fun _ => .inr (.inr (.inl hever))
  | wake hphase =>
    exact .of_open (by simp) (by simp) h.later
      (h.message.of_calls (List.append_nil _).symm (by simp) rfl rfl (by simp [hphase])
        (by simp [hphase]))
  | requestStop =>
    exact ⟨fun _ => rfl, h.fatal, h.early, h.unconnected, h.later, fun _ => .inr (.inl rfl),
      fun _ => .inl rfl⟩
  | route hcore =>
    have hkeeps (hfailed : Failed w.core) : Failed _ := hcore.elim (fun hsame => ?_) id
    · exact ⟨h.stopped, fun hplace => (h.fatal hplace).imp_right hkeeps,
        fun hplace => hkeeps (h.early hplace),
        fun hplace hfirst => hkeeps (h.unconnected hplace hfirst), h.later, h.message,
        fun hplace => (h.ended hplace).imp_right (And.imp_left hkeeps)⟩
    · unfold Failed
      rw [hsame]
      exact hfailed

/-! ## All runs -/

variable (api background hash) in
/-- The worker after some steps from its start. -/
def Reached (core : TailscaleCore β) (authKey : Bytes) (w : Worker β) : Prop :=
  Run (step api background hash) (fun _ _ => True) (start core authKey) w

/-- **The worker gives up only where control has never worked.**  Once a message has come, it goes
on until it is told to stop or a netmap is rejected; and where it ends by itself, the snapshot
shows a failure. -/
theorem gives_up_without_data (core : TailscaleCore β) (authKey : Bytes)
    (h : Reached api background hash core authKey w) (hended : w.phase = .ended)
    (hstop : w.stopRequested = false) :
    Failed w.core ∧ (.message ∈ w.calls → .rejected ∈ w.calls) := by
  have hinv : Outcome w := by
    refine h.invariant ?_ fun w s after hw _ hstep => outcome_moves (moves_step hstep) hw
    exact .of_open (fun _ hplace => nomatch hplace) (fun hplace => nomatch hplace)
      (fun hlater => nomatch hlater) fun hmem => nomatch hmem
  rcases hinv.ended hended with hstopped | ⟨hfailed, hquiet⟩
  · rw [hstop] at hstopped
    cases hstopped
  · exact ⟨hfailed, fun hmem => hquiet.resolve_right fun hnone => hnone hmem⟩

/-! ## Two runs -/

def realStep (w : Worker RealWgxBackend) (s : Step Libraries) : Option (Worker RealWgxBackend) :=
  w.step Wgx.RealWgxBackend.api TailscaleCore.sessionEnds Wgx.Streaming.lengthHash s

def fresh : TailscaleCore RealWgxBackend := { overlay := { backend := some {} } }

/-- Control refuses the key. -/
def refused : Worker RealWgxBackend :=
  (exec realStep (start fresh (ascii "key"))
    [.enter, .connectFailed (ascii "bad key"), .finish]).get (by decide +kernel)

/-- Control sends a full list of the peers without an address for this node. -/
def rejected : Worker RealWgxBackend :=
  (exec realStep (start fresh (ascii "key"))
    [.enter, .connected, .check, .polled { fullPeers := some [] }, .finish]).get
      (by decide +kernel)

theorem gives_up_without_data_refused :
    (Failed refused.core ∧ (.message ∈ refused.calls → .rejected ∈ refused.calls)) ∧
      Failed rejected.core ∧ .message ∈ rejected.calls ∧ .rejected ∈ rejected.calls := by
  have hrefused := gives_up_without_data fresh (ascii "key")
    (.of_exec (Option.some_get _).symm (by simp)) (by decide +kernel : refused.phase = .ended)
    (by decide +kernel)
  obtain ⟨hfailed, hmessage⟩ := gives_up_without_data fresh (ascii "key")
    (.of_exec (Option.some_get _).symm (by simp)) (by decide +kernel : rejected.phase = .ended)
    (by decide +kernel)
  have hmem : .message ∈ rejected.calls := by decide +kernel
  exact ⟨hrefused, hfailed, hmem, hmessage hmem⟩

end Worker
end ArtemisSwitch.ControlWorker

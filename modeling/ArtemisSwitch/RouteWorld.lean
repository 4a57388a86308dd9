import ArtemisSwitch.Library.Runs
import ArtemisSwitch.RemoteAccessManager

/-!
# Interleavings of the manager's calls

Any number of threads call `activateRoute`, `deactivateRoute`,
`prepareRouteForStreaming`, `selectAndStartProvider` and `stopActiveProvider`.
One step is one section under `mutex_`, or one stay with the provider under its
slot's `operations` mutex.
-/

namespace ArtemisSwitch.RemoteAccess

/-- A call that has left its first section.  A waiter sleeps on its entry; the others queue
for the provider's `operations` mutex. -/
inductive Call
  | waiting (key : RouteKey) (entry : EntryId)
  | activating (providerId : Bytes) (target : RemoteRouteTarget) (entry : EntryId)
      (retired : List RemoteRouteTarget)
  | releasing (providerId : Bytes) (target : RemoteRouteTarget)
  | preparing (providerId : Bytes) (target : RemoteRouteTarget) (generation : UInt64)
  deriving DecidableEq, Repr

/-- Where the call is that holds an `operations` mutex. -/
inductive Holder
  | activated (target : RemoteRouteTarget) (entry : EntryId) (result : Bool)
  | undoing (target : RemoteRouteTarget)
  | prepared (generation : UInt64) (result : Bool)
  deriving DecidableEq, Repr

structure RemoteAccessSelectionResult where
  providerId : Bytes
  found : Bool := false
  available : Bool := false
  started : Bool := false
  status : Bytes := []
  deriving DecidableEq, Repr

/-- Where the call is that holds `lifecycleMutex_`; `next` is the selection after the stop. -/
inductive Lifecycle
  | stopping (providerId : Bytes) (next : Option Bytes)
  | selecting (id : Bytes)
  | started (result : RemoteAccessSelectionResult)
  deriving DecidableEq, Repr

/-- The manager, what each exclusive provider holds, and the calls in flight in the order of
their first sections. -/
structure World where
  manager : Manager
  live : Bytes → Option RemoteRouteTarget
  operations : AList fun _ : Bytes => Holder
  pending : List Call
  lifecycle : Option Lifecycle

def World.initial (providers : List Provider) : World :=
  ⟨Manager.initial providers, fun _ => none, ∅, [], none⟩

/-- No call is in flight. -/
def World.Quiet (w : World) : Prop :=
  w.operations.entries = [] ∧ w.pending = [] ∧ w.lifecycle = none

instance (w : World) : Decidable w.Quiet := inferInstanceAs (Decidable (_ ∧ _ ∧ _))

/-! ## What the provider does -/

/-- `IRemoteAccessProvider::activateRoute` of an exclusive provider: the new target or none,
whatever it held. -/
def providerActivate (answer : Bool) (target : RemoteRouteTarget) : Option RemoteRouteTarget :=
  if answer then some target else none

/-- `IRemoteAccessProvider::deactivateRoute` of an exclusive provider. -/
def providerDeactivate (live : Option RemoteRouteTarget) (target : RemoteRouteTarget) :
    Option RemoteRouteTarget :=
  if live = some target then none else live

/-- What `available`, `start` and `status` answer. -/
structure Startup where
  available : Bool
  started : Bool
  status : Bytes := []
  deriving DecidableEq, Repr

/-! ## Steps -/

inductive Action
  | activate (providerId : Bytes) (target : RemoteRouteTarget)
  | deactivate (providerId peerId targetAddress : Bytes) (hint : RouteKey)
  | prepare (providerId peerId targetAddress : Bytes) (hint : RouteKey)
  | select (id : Bytes)
  | stop
  | proceed (index : ℕ) (answer : Bool)
  | finish (providerId : Bytes)
  | turn (answer : Startup)
  deriving DecidableEq, Repr

/-- What the step returns to the caller, if its call ends with it. -/
inductive Reply
  | inFlight
  | done
  | counted (key : RouteKey) (entry : EntryId)
  | activated (key : RouteKey) (entry : EntryId)
  | refused
  | prepared (result : Bool)
  | selected (result : RemoteAccessSelectionResult)
  deriving DecidableEq, Repr

namespace World

def activate (w : World) (providerId : Bytes) (target : RemoteRouteTarget) : World × Reply :=
  match w.manager.beginActivate providerId target with
  | .refused => (w, .refused)
  | .counted entry m => ({ w with manager := m }, .counted (routeKey providerId target) entry)
  | .waits entry =>
    ({ w with pending := w.pending ++ [.waiting (routeKey providerId target) entry] }, .inFlight)
  | .proceeds entry retired m =>
    ({ w with manager := m, pending := w.pending ++ [.activating providerId target entry retired] },
      .inFlight)

def deactivate (w : World) (providerId peerId targetAddress : Bytes) (hint : RouteKey) :
    World × Reply :=
  match w.manager.beginDeactivate providerId peerId targetAddress hint with
  | (m, none) => ({ w with manager := m }, .done)
  | (m, some target) =>
    ({ w with manager := m, pending := w.pending ++ [.releasing providerId target] }, .inFlight)

def prepare (w : World) (providerId peerId targetAddress : Bytes) (hint : RouteKey) :
    World × Reply :=
  match w.manager.beginPrepare providerId peerId targetAddress hint with
  | none => (w, .prepared false)
  | some (target, generation) =>
    ({ w with pending := w.pending ++ [.preparing providerId target generation] }, .inFlight)

/-- Where a stop goes on after its first section. -/
def afterBeginStop (next : Option Bytes) : Option Bytes → Option Lifecycle
  | some providerId => some (.stopping providerId next)
  | none => next.map .selecting

/-- `stopActiveProvider`, and the stop that `selectAndStartProvider` begins with. -/
def stop (w : World) (next : Option Bytes) : Option (World × Reply) :=
  if w.lifecycle.isSome then none
  else
    let lifecycle := afterBeginStop next w.manager.beginStop.2
    some ({ w with manager := w.manager.beginStop.1, lifecycle := lifecycle },
      if lifecycle.isSome then .inFlight else .done)

/-- The next section of a pending call. -/
def continueCall (w : World) (answer : Bool) : Call → Option (World × Reply)
  | .waiting key entry =>
    if (w.manager.heap entry).state = .activating then none
    else match w.manager.countReference entry with
      | none => some (w, .refused)
      | some m => some ({ w with manager := m }, .counted key entry)
  | .activating providerId target entry _ =>
    -- the retired targets are deactivated first, which the activation makes invisible
    if providerId ∈ w.operations then none
    else some ({ w with
      live := Function.update w.live providerId (providerActivate answer target)
      operations := w.operations.insert providerId (.activated target entry answer) }, .inFlight)
  | .releasing providerId target =>
    if providerId ∈ w.operations then none
    else some ({ w with
      live := Function.update w.live providerId
        (providerDeactivate (w.live providerId) target) }, .done)
  | .preparing providerId _ generation =>
    if providerId ∈ w.operations then none
    else some ({ w with
      operations := w.operations.insert providerId (.prepared generation answer) }, .inFlight)

def proceed (w : World) (index : ℕ) (answer : Bool) : Option (World × Reply) :=
  match w.pending[index]? with
  | none => none
  | some call => { w with pending := w.pending.eraseIdx index }.continueCall answer call

/-- The next section of the call that holds the provider. -/
def finish (w : World) (providerId : Bytes) : Option (World × Reply) :=
  match w.operations.lookup providerId with
  | none => none
  | some (.activated target entry result) =>
    match w.manager.commitActivate providerId target entry result with
    | (m, true) =>
      some ({ w with
        manager := m
        operations := w.operations.insert providerId (.undoing target) }, .inFlight)
    | (m, false) =>
      some ({ w with manager := m, operations := w.operations.erase providerId },
        if result then .activated (routeKey providerId target) entry else .refused)
  | some (.undoing target) =>
    some ({ w with
      live := Function.update w.live providerId (providerDeactivate (w.live providerId) target)
      operations := w.operations.erase providerId }, .refused)
  | some (.prepared generation result) =>
    some ({ w with operations := w.operations.erase providerId },
      .prepared (w.manager.endPrepare providerId generation result))

/-- The next section of the call that holds `lifecycleMutex_`. -/
def turn (w : World) (answer : Startup) : Option (World × Reply) :=
  match w.lifecycle with
  | none => none
  | some (.stopping providerId next) =>
    if providerId ∈ w.operations then none
    else some ({ w with
      live := Function.update w.live providerId none
      lifecycle := next.map .selecting }, .done)
  | some (.selecting id) =>
    if id = [] then
      some ({ w with lifecycle := none }, .selected
        { providerId := id, found := true, available := true, status := ascii "Off" })
    else match w.manager.providerSlot id with
      | none =>
        some ({ w with lifecycle := none }, .selected
          { providerId := id, status := ascii "Provider not found" })
      | some _ =>
        if id ∈ w.operations then none
        else
          let result : RemoteAccessSelectionResult :=
            { providerId := id, found := true, available := answer.available,
              started := answer.available && answer.started, status := answer.status }
          if result.started then some ({ w with lifecycle := some (.started result) }, .inFlight)
          else some ({ w with lifecycle := none }, .selected result)
  | some (.started result) =>
    some ({ w with manager := w.manager.setStarted result.providerId, lifecycle := none },
      .selected result)

def transition (w : World) : Action → Option (World × Reply)
  | .activate providerId target => some (w.activate providerId target)
  | .deactivate providerId peerId targetAddress hint =>
    some (w.deactivate providerId peerId targetAddress hint)
  | .prepare providerId peerId targetAddress hint =>
    some (w.prepare providerId peerId targetAddress hint)
  | .select id => w.stop (some id)
  | .stop => w.stop none
  | .proceed index answer => w.proceed index answer
  | .finish providerId => w.finish providerId
  | .turn answer => w.turn answer

def step (w : World) (action : Action) : Option World := (w.transition action).map Prod.fst

end World

/-- An exclusive provider and a host behind it, for runs on fixed inputs. -/
def tailscale : Provider := ⟨ascii "tailscale", true, by decide⟩

def desktop : RemoteRouteTarget := ⟨ascii "n1", ascii "100.64.0.7", ascii "100.64.0.7", [], .proxy⟩

def started : Startup := { available := true, started := true }

/-- Selecting a provider and activating a route, without any overlap. -/
def selectAndActivate : List Action :=
  [.select tailscale.id, .turn started, .turn started, .activate tailscale.id desktop,
    .proceed 0 true, .finish tailscale.id]

end ArtemisSwitch.RemoteAccess

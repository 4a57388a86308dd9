import ArtemisSwitch.RemoteAccessManager

/-!
# RemoteRouteLease

A lease asks the manager for its route when it is constructed and gives it back
when it is released, assigned to or destroyed.  `answer` is what `activateRoute`
returns to the constructor.
-/

namespace ArtemisSwitch.RemoteAccess

structure RemoteRouteLease where
  managed : Bool := false
  providerId : Bytes := []
  peerId : Bytes := []
  targetAddress : Bytes := []
  connectAddress : Bytes := []
  active : Bool := false
  refused : Bool := false
  deriving DecidableEq, Repr

namespace RemoteRouteLease

/-- An empty provider id means a route that needs no provider. -/
def construct (providerId : Bytes) (target : RemoteRouteTarget) (answer : Bool) :
    RemoteRouteLease where
  managed := true
  providerId := providerId
  peerId := target.peerId
  targetAddress := target.targetAddress
  connectAddress := target.connectAddress
  active := decide (providerId = []) || answer
  refused := decide (providerId ≠ []) && !answer

/-- `release` calls the manager's `deactivateRoute`. -/
def releases (lease : RemoteRouteLease) : Bool :=
  lease.active && lease.managed && decide (lease.providerId ≠ [])

def release (lease : RemoteRouteLease) : RemoteRouteLease :=
  if lease.releases then { lease with active := false } else lease

/-- What a lease that was moved from still says about itself. -/
def movedFrom (lease : RemoteRouteLease) : RemoteRouteLease :=
  { lease with managed := false, active := false, refused := false }

def key (lease : RemoteRouteLease) : RouteKey :=
  ⟨lease.providerId, lease.peerId, lease.targetAddress⟩

/-- The route under this key is one that a release of the lease may find. -/
def Names (lease : RemoteRouteLease) (key : RouteKey) : Prop :=
  key = lease.key ∨ lease.targetAddress = [] ∧
    key.providerId = lease.providerId ∧ key.peerId = lease.peerId

variable {lease : RemoteRouteLease} {providerId : Bytes} {target : RemoteRouteTarget}

@[simp] lemma construct_key (answer : Bool) :
    (construct providerId target answer).key = routeKey providerId target := rfl

/-- A release is given back once. -/
lemma releases_release : lease.release.releases = false := by
  unfold release
  split_ifs with h
  · simp [releases]
  · simpa using h

lemma releases_construct {answer : Bool} :
    (construct providerId target answer).releases = (answer && decide (providerId ≠ [])) := by
  by_cases h : providerId = [] <;> simp [construct, releases, h]

end RemoteRouteLease
end ArtemisSwitch.RemoteAccess

import Mathlib.Data.Int.Basic
import Mathlib.Data.List.Nodup
import ArtemisSwitch.Transport

/-!
# The direct path to a peer

`DirectPath` collects candidate endpoints, remembers the pings it sent and trusts
the endpoint with the best recent pong for a short while.
-/

namespace ArtemisSwitch.Disco

/-- The address is in host byte order. -/
structure IPv4Endpoint where
  address : UInt32 := 0
  port : UInt16 := 0
  deriving DecidableEq, Repr

def IPv4Endpoint.valid (endpoint : IPv4Endpoint) : Bool :=
  endpoint.address ≠ 0 && endpoint.port ≠ 0

abbrev TxId := Vector UInt8 12

/-- Nanoseconds of the steady clock. -/
abbrev Time := ℤ

/-- 6500 ms. -/
def kTrustDuration : Time := 6500000000

/-- 3 s. -/
def kHeartbeat : Time := 3000000000

/-- 5 s. -/
def kPingTimeout : Time := 5000000000

def kMaxCandidates : ℕ := 16

/-- `duration_cast<milliseconds>`. -/
def milliseconds (duration : Time) : ℤ := duration.tdiv 1000000

structure Candidate where
  endpoint : IPv4Endpoint
  lastPing : Time := 0
  pinged : Bool := false
  deriving DecidableEq, Repr

structure Pending where
  txid : TxId
  endpoint : IPv4Endpoint
  sent : Time
  deriving DecidableEq, Repr

structure DirectPath where
  candidates : List Candidate := []
  pending : List Pending := []
  bestEndpoint : IPv4Endpoint := {}
  bestPong : Time := 0
  bestRttMs : ℤ := -1
  deriving DecidableEq, Repr

namespace DirectPath

def isCandidate (path : DirectPath) (endpoint : IPv4Endpoint) : Bool :=
  path.candidates.any fun c => c.endpoint = endpoint

/-- A full list gives up its oldest entry. -/
def addCandidate (path : DirectPath) (endpoint : IPv4Endpoint) : DirectPath :=
  if endpoint.valid = false ∨ path.isCandidate endpoint = true then path
  else
    let kept := if kMaxCandidates ≤ path.candidates.length then path.candidates.tail
      else path.candidates
    { path with candidates := kept ++ [{ endpoint := endpoint }] }

/-- Pings that timed out are forgotten; the result is whom to ping now. -/
def due (path : DirectPath) (now : Time) : List IPv4Endpoint × DirectPath :=
  ((path.candidates.filter fun c => !c.pinged || decide (kHeartbeat ≤ now - c.lastPing)).map
      Candidate.endpoint,
    { path with pending := path.pending.filter fun p => now - p.sent ≤ kPingTimeout })

def notePingSent (path : DirectPath) (txid : TxId) (endpoint : IPv4Endpoint) (now : Time) :
    DirectPath :=
  { path with
    candidates := path.candidates.map fun c =>
      if c.endpoint = endpoint then { c with lastPing := now, pinged := true } else c
    pending := (if kMaxCandidates * 4 ≤ path.pending.length then path.pending.tail
      else path.pending) ++ [⟨txid, endpoint, now⟩] }

def best (path : DirectPath) (now : Time) : Option IPv4Endpoint :=
  if path.bestEndpoint.valid = false ∨ kTrustDuration < now - path.bestPong then none
  else some path.bestEndpoint

/-- The outstanding ping with this transaction ID. -/
def findPending (path : DirectPath) (txid : TxId) : Option Pending :=
  path.pending.find? fun p => p.txid = txid

/-- `erase` of the entry that `findPending` found. -/
def erasePending (path : DirectPath) (txid : TxId) : DirectPath :=
  { path with pending := path.pending.eraseP fun p => p.txid = txid }

/-- A switch of endpoints wants a clearly better path. -/
def takesOver (path : DirectPath) (endpoint : IPv4Endpoint) (rtt : ℤ) (now : Time) : Bool :=
  path.best now = none || endpoint = path.bestEndpoint || rtt * 10 < path.bestRttMs * 9

def notePong (path : DirectPath) (txid : TxId) (sender : IPv4Endpoint) (now : Time) :
    Option ℤ × DirectPath :=
  match path.findPending txid with
  | none => (none, path)
  | some found =>
    if found.endpoint ≠ sender ∨ kPingTimeout < now - found.sent then (none, path.erasePending txid)
    else
      let rtt := milliseconds (now - found.sent)
      let erased := path.erasePending txid
      (some rtt,
        if erased.takesOver sender rtt now then
          { erased with bestEndpoint := sender, bestRttMs := rtt, bestPong := now }
        else erased)

def reset (_ : DirectPath) : DirectPath := {}

end DirectPath

/-! ## Calls -/

inductive Op
  | addCandidate (endpoint : IPv4Endpoint)
  | due (now : Time)
  | pingSent (txid : TxId) (endpoint : IPv4Endpoint) (now : Time)
  | pong (txid : TxId) (sender : IPv4Endpoint) (now : Time)
  | reset
  deriving DecidableEq, Repr

/-- The time that a call is given. -/
def Op.time : Op → Option Time
  | .addCandidate _ => none
  | .due now => some now
  | .pingSent _ _ now => some now
  | .pong _ _ now => some now
  | .reset => none

def Op.txid : Op → Option TxId
  | .pingSent txid _ _ => some txid
  | _ => none

namespace DirectPath

def step (path : DirectPath) : Op → DirectPath
  | .addCandidate endpoint => path.addCandidate endpoint
  | .due now => (path.due now).2
  | .pingSent txid endpoint now => path.notePingSent txid endpoint now
  | .pong txid sender now => (path.notePong txid sender now).2
  | .reset => path.reset

/-- The path after some calls on a new one. -/
def after (ops : List Op) : DirectPath := ops.foldl step {}

lemma after_snoc (ops : List Op) (op : Op) : after (ops ++ [op]) = (after ops).step op := by
  simp [after]

variable {path : DirectPath} {txid : TxId} {sender e e' : IPv4Endpoint} {now : Time} {rtt : ℤ}
variable {ops : List Op} {op : Op}

/-! ### What a pong does -/

lemma erasePending_best : (path.erasePending txid).best now = path.best now := rfl

lemma findPending_mem {found : Pending} (h : path.findPending txid = some found) :
    found ∈ path.pending ∧ found.txid = txid :=
  ⟨List.mem_of_find?_eq_some h, by simpa using List.find?_some h⟩

/-- An answer names the ping that it answers. -/
lemma notePong_some (h : (path.notePong txid sender now).1 = some rtt) :
    ∃ found, path.findPending txid = some found ∧ found.endpoint = sender ∧
      now - found.sent ≤ kPingTimeout ∧ rtt = milliseconds (now - found.sent) ∧
      (path.notePong txid sender now).2 =
        if path.takesOver sender rtt now then
          { path.erasePending txid with bestEndpoint := sender, bestRttMs := rtt, bestPong := now }
        else path.erasePending txid := by
  unfold notePong at h ⊢
  split at h
  · cases h
  · rename_i found hfound
    split_ifs at h with hstale
    obtain ⟨hsender, hfresh⟩ := not_or.mp hstale
    obtain rfl := Option.some.inj h
    refine ⟨found, hfound, not_not.mp hsender, Int.not_lt.mp hfresh, rfl, ?_⟩
    rw [if_neg hstale]
    rfl

/-- The pong of an outstanding ping, from where it was sent and in time, answers it. -/
lemma notePong_answers {found : Pending} (hfound : path.findPending txid = some found)
    (hsender : found.endpoint = sender) (hfresh : now - found.sent ≤ kPingTimeout) :
    (path.notePong txid sender now).1 = some (milliseconds (now - found.sent)) := by
  have hok : ¬(found.endpoint ≠ sender ∨ kPingTimeout < now - found.sent) :=
    not_or.mpr ⟨not_not.mpr hsender, Int.not_lt.mpr hfresh⟩
  unfold notePong
  rw [hfound]
  simp only [if_neg hok]

/-- A pong that answers nothing at most drops the ping it names. -/
lemma notePong_none (h : (path.notePong txid sender now).1 = none) :
    (path.notePong txid sender now).2 = path.erasePending txid := by
  unfold notePong at h ⊢
  split at h
  · rename_i hnone
    have hkeep : path.pending.eraseP (fun p => p.txid = txid) = path.pending := by
      rw [List.eraseP_of_forall_not]
      simpa [findPending] using hnone
    simp only [erasePending, hkeep]
  · rename_i found hfound
    split_ifs at h ⊢
    rfl

/-- Answered or not, the ping is no longer outstanding. -/
lemma notePong_pending : (path.notePong txid sender now).2.pending =
    (path.erasePending txid).pending := by
  rcases h : (path.notePong txid sender now).1 with _ | rtt
  · rw [notePong_none h]
  · obtain ⟨found, -, -, -, -, hpath⟩ := notePong_some h
    rw [hpath]
    split_ifs <;> rfl

lemma notePong_candidates : (path.notePong txid sender now).2.candidates = path.candidates := by
  rcases h : (path.notePong txid sender now).1 with _ | rtt
  · rw [notePong_none h]
    rfl
  · obtain ⟨found, -, -, -, -, hpath⟩ := notePong_some h
    rw [hpath]
    split_ifs <;> rfl

end DirectPath
end ArtemisSwitch.Disco

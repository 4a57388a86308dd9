import ArtemisSwitch.Library.Runs
import ArtemisSwitch.Transport

/-!
# One TCP connection of the relay

A client on a loopback socket and the host behind lwIP.  Bytes that lwIP refuses and
bytes that the client's socket does not take are not kept.  Next to the fields of the
connection stand the bytes that have passed so far in each direction.
-/

namespace ArtemisSwitch.Relay
open Runs

/-- What one call of `send` on the client's socket answers. -/
inductive Sent
  | bytes (n : ℕ)
  | again
  | failed
  deriving DecidableEq, Repr

/-- How `sendAll` ends: what the socket took, whether that is all, and the answers that are
left for the calls that follow. -/
structure SendResult where
  written : Bytes
  ok : Bool
  answers : List Sent
  deriving DecidableEq, Repr

/-- The loop of `sendAll`, with the number of stalls so far. -/
def sendLoop : Bytes → ℕ → List Sent → SendResult
  | [], _, answers => ⟨[], true, answers⟩
  | _, _, [] => ⟨[], false, []⟩
  | buf, _, .bytes n :: answers =>
    if n = 0 then ⟨[], false, answers⟩
    else
      let rest := sendLoop (buf.drop n) 0 answers
      { rest with written := buf.take n ++ rest.written }
  | buf, stalls, .again :: answers =>
    if stalls + 1 < 200 then sendLoop buf (stalls + 1) answers else ⟨[], false, answers⟩
  | _, _, .failed :: answers => ⟨[], false, answers⟩

def sendAll (buf : Bytes) (answers : List Sent) : SendResult := sendLoop buf 0 answers

/-- The segments of a pbuf chain, up to the first that the socket does not take whole. -/
def sendChain : List Bytes → List Sent → SendResult
  | [], answers => ⟨[], true, answers⟩
  | segment :: segments, answers =>
    let first := sendAll segment answers
    if first.ok then
      let rest := sendChain segments first.answers
      { rest with written := first.written ++ rest.written }
    else first

structure TcpConnection where
  connected : Bool := false
  hostDone : Bool := false
  pcb : Bool := true
  removed : Bool := false
  fromClient : Bytes := []
  toHost : Bytes := []
  fromHost : Bytes := []
  toClient : Bytes := []
  deriving DecidableEq, Repr

/-- What `poll` and `recv` on the client's socket say; `hungUp` is `POLLERR` or `POLLHUP`. -/
inductive ClientSocket
  | pollFailed
  | quiet (hungUp : Bool)
  | data (bytes : Bytes) (hungUp : Bool)
  | wouldBlock
  | closed
  deriving DecidableEq, Repr

/-- What lwIP hands to `onTcpRecv`. -/
inductive HostData
  | chain (segments : List Bytes)
  | broken (segments : List Bytes)
  | closed
  deriving DecidableEq, Repr

namespace TcpConnection

def remove (conn : TcpConnection) : TcpConnection := { conn with removed := true }

/-- `accepted` says that `tcp_write` returns `ERR_OK`.  A refusal is logged. -/
def forwardToHost (conn : TcpConnection) (bytes : Bytes) (accepted : Bool) : TcpConnection :=
  let conn := { conn with fromClient := conn.fromClient ++ bytes }
  if conn.pcb && accepted then { conn with toHost := conn.toHost ++ bytes } else conn

def pollTcpConnection (conn : TcpConnection) (socket : ClientSocket) (accepted : Bool) :
    TcpConnection :=
  if conn.hostDone then conn.remove
  else if conn.connected = false then conn
  else
    match socket with
    | .pollFailed => conn.remove
    | .quiet hungUp => if hungUp then conn.remove else conn
    | .data bytes hungUp =>
      let conn := conn.forwardToHost bytes accepted
      if hungUp then conn.remove else conn
    | .wouldBlock => conn
    | .closed => { conn with pcb := false }.remove

/-- A client socket that does not take the whole chain is logged. -/
def onTcpRecv (conn : TcpConnection) (data : HostData) (answers : List Sent) : TcpConnection :=
  match data with
  | .closed => { conn with hostDone := true }
  | .broken segments =>
    { conn with hostDone := true, fromHost := conn.fromHost ++ segments.flatten }
  | .chain segments =>
    { conn with
      fromHost := conn.fromHost ++ segments.flatten
      toClient := conn.toClient ++ (sendChain segments answers).written }

def onTcpError (conn : TcpConnection) : TcpConnection :=
  { conn with pcb := false, hostDone := true }

inductive Event
  | connected (ok : Bool)
  | poll (socket : ClientSocket) (accepted : Bool)
  | recv (data : HostData) (answers : List Sent)
  | error
  deriving DecidableEq, Repr

/-- What happens to the entry while it exists.  One `recv` brings 1 to 2048 bytes. -/
def step (conn : TcpConnection) (event : Event) : Option TcpConnection :=
  if conn.removed then none
  else
    match event with
    | .connected ok =>
      if conn.pcb then some { conn with connected := conn.connected || ok } else none
    | .poll socket accepted =>
      match socket with
      | .data bytes _ =>
        if 0 < bytes.length ∧ bytes.length ≤ 2048 then some (conn.pollTcpConnection socket accepted)
        else none
      | _ => some (conn.pollTcpConnection socket accepted)
    | .recv data answers =>
      if conn.connected && conn.pcb then some (conn.onTcpRecv data answers) else none
    | .error => if conn.pcb then some conn.onTcpError else none

/-- What went on is the start of what came in, in both directions. -/
structure Intact (conn : TcpConnection) : Prop where
  up : conn.toHost <+: conn.fromClient
  down : conn.toClient <+: conn.fromHost

/-- Nothing goes on after something was lost: lwIP accepts only while it has refused
nothing, and the client's socket takes bytes only while it has taken all. -/
def NothingMissing (conn : TcpConnection) : Event → Prop
  | .poll (.data _ _) accepted => accepted = true → conn.toHost = conn.fromClient
  | .recv (.chain segments) answers =>
    (sendChain segments answers).written ≠ [] → conn.toClient = conn.fromHost
  | _ => True

instance (conn : TcpConnection) (event : Event) : Decidable (conn.NothingMissing event) :=
  match event with
  | .poll (.data _ _) _ => inferInstanceAs (Decidable (_ → conn.toHost = conn.fromClient))
  | .recv (.chain _) _ => inferInstanceAs (Decidable (_ → conn.toClient = conn.fromHost))
  | .poll .pollFailed _ | .poll (.quiet _) _ | .poll .wouldBlock _ | .poll .closed _
  | .recv (.broken _) _ | .recv .closed _ | .connected _ | .error =>
    inferInstanceAs (Decidable True)

/-! ## What the client's socket takes -/

lemma sendLoop_written (buf : Bytes) (stalls : ℕ) (answers : List Sent) :
    (sendLoop buf stalls answers).written <+: buf ∧
      ((sendLoop buf stalls answers).ok = true → (sendLoop buf stalls answers).written = buf) := by
  fun_induction sendLoop buf stalls answers with
  | case1 => simp
  | case2 => simp
  | case3 => simp
  | case4 buf stalls n answers _ hn rest ih =>
    constructor
    · have hstart := (List.prefix_append_right_inj (buf.take n)).mpr ih.1
      rwa [List.take_append_drop] at hstart
    · intro hok
      show buf.take n ++ rest.written = buf
      rw [ih.2 hok, List.take_append_drop]
  | case5 buf stalls answers _ hstalls ih => exact ih
  | case6 => simp
  | case7 => simp

/-- The socket takes the start of the chain, and all of it when nothing fails. -/
lemma sendChain_written (segments : List Bytes) (answers : List Sent) :
    (sendChain segments answers).written <+: segments.flatten := by
  induction segments generalizing answers with
  | nil => exact List.nil_prefix
  | cons segment segments ih =>
    obtain ⟨hstart, hall⟩ := sendLoop_written segment 0 answers
    rw [sendChain, List.flatten_cons]
    split_ifs with hok
    · have hwhole : (sendAll segment answers).written = segment := hall hok
      simp only [hwhole]
      exact (List.prefix_append_right_inj segment).mpr (ih _)
    · exact hstart.trans (List.prefix_append _ _)

/-! ## Runs -/

variable {conn next : TcpConnection} {event : Event} {bytes came went : Bytes} {accepted : Bool}

lemma intact_remove (h : Intact conn) : Intact conn.remove := ⟨h.up, h.down⟩

lemma intact_forwardToHost (h : Intact conn)
    (hok : accepted = true → conn.toHost = conn.fromClient) :
    Intact (conn.forwardToHost bytes accepted) := by
  simp only [forwardToHost]
  split_ifs with hw
  · have heq := hok (Bool.and_eq_true_iff.mp hw).2
    refine ⟨?_, h.down⟩
    simp only [heq]
    exact List.prefix_rfl
  · exact ⟨h.up.trans (List.prefix_append _ _), h.down⟩

lemma intact_poll {socket : ClientSocket} (h : Intact conn)
    (hok : NothingMissing conn (.poll socket accepted)) :
    Intact (conn.pollTcpConnection socket accepted) := by
  unfold pollTcpConnection
  split_ifs
  · exact intact_remove h
  · exact h
  · cases socket with
    | pollFailed => exact intact_remove h
    | quiet hungUp =>
      simp only
      split_ifs
      · exact intact_remove h
      · exact h
    | data bytes hungUp =>
      simp only
      split_ifs
      · exact intact_remove (intact_forwardToHost h hok)
      · exact intact_forwardToHost h hok
    | wouldBlock => exact h
    | closed => exact ⟨h.up, h.down⟩

lemma intact_recv {data : HostData} {answers : List Sent} (h : Intact conn)
    (hok : NothingMissing conn (.recv data answers)) : Intact (conn.onTcpRecv data answers) := by
  cases data with
  | chain segments =>
    refine ⟨h.up, ?_⟩
    simp only [onTcpRecv]
    by_cases hw : (sendChain segments answers).written = []
    · rw [hw, List.append_nil]
      exact h.down.trans (List.prefix_append _ _)
    · rw [hok hw]
      exact (List.prefix_append_right_inj _).mpr (sendChain_written segments answers)
  | broken segments => exact ⟨h.up, h.down.trans (List.prefix_append _ _)⟩
  | closed => exact ⟨h.up, h.down⟩

lemma intact_step (h : Intact conn) (hok : NothingMissing conn event)
    (hs : conn.step event = some next) : Intact next := by
  unfold step at hs
  -- a removed connection takes no further step
  by_cases hremoved : conn.removed = true
  · rw [if_pos hremoved] at hs
    cases hs
  rw [if_neg hremoved] at hs
  cases event with
  | connected ok =>
    simp only at hs
    split_ifs at hs
    obtain rfl := Option.some.inj hs
    exact ⟨h.up, h.down⟩
  | poll socket accepted =>
    obtain rfl : conn.pollTcpConnection socket accepted = next := by
      cases socket with
      | data bytes hungUp =>
        simp only at hs
        split_ifs at hs
        exact Option.some.inj hs
      | _ => exact Option.some.inj hs
    exact intact_poll h hok
  | recv data answers =>
    simp only at hs
    split_ifs at hs
    obtain rfl := Option.some.inj hs
    exact intact_recv h hok
  | error =>
    simp only at hs
    split_ifs at hs
    obtain rfl := Option.some.inj hs
    exact ⟨h.up, h.down⟩

/-- Runs in which nothing goes on after a loss keep both byte streams intact. -/
theorem intact_of_nothingMissing (conn : TcpConnection)
    (hrun : Run step NothingMissing {} conn) : Intact conn :=
  hrun.invariant ⟨List.prefix_rfl, List.prefix_rfl⟩ fun _ _ _ h hok hs => intact_step h hok hs

/-- A request, an answer in two segments that the socket takes in three pieces, and a
refusal at the end. -/
def exchange : TcpConnection :=
  (exec (guarded step NothingMissing) {}
    [.connected true, .poll (.data (ascii "GET /applist") false) true,
      .recv (.chain [ascii "<xml>", ascii "</xml>"]) [.bytes 2, .again, .bytes 3, .bytes 6],
      .poll (.data (ascii "GET /launch") false) false]).get (by decide +kernel)

theorem intact_exchange : Intact exchange :=
  intact_of_nothingMissing exchange (.of_exec_guarded (Option.some_get _).symm)

/-- lwIP refuses the first half of a request and accepts the second. -/
theorem request_loses_its_start :
    ∃ conn, Run step (fun _ _ => True) {} conn ∧ conn.removed = false ∧
      conn.fromClient = ascii "GET /applist" ∧ conn.toHost = ascii "applist" :=
  ⟨(exec step {} [.connected true, .poll (.data (ascii "GET /") false) false,
      .poll (.data (ascii "applist") false) true]).get (by decide +kernel),
    .of_exec (Option.some_get _).symm (by simp), by decide +kernel, by decide +kernel,
    by decide +kernel⟩

/-- The client's socket fails on the first segment and takes the next chain. -/
theorem answer_loses_its_start :
    ∃ conn, Run step (fun _ _ => True) {} conn ∧ conn.removed = false ∧
      conn.fromHost = ascii "<xml></xml>" ∧ conn.toClient = ascii "</xml>" :=
  ⟨(exec step {} [.connected true, .recv (.chain [ascii "<xml>"]) [.failed],
      .recv (.chain [ascii "</xml>"]) [.bytes 6]]).get (by decide +kernel),
    .of_exec (Option.some_get _).symm (by simp), by decide +kernel, by decide +kernel,
    by decide +kernel⟩

end TcpConnection
end ArtemisSwitch.Relay

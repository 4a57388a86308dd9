import ArtemisSwitch.Library.Brackets
import ArtemisSwitch.Library.Runs
import ArtemisSwitch.Transport

/-!
# The TLS transport of the Switch

`SwitchTlsTransport` over the calls that it makes to the socket layer and to the SSL service.
The calls are recorded in the order in which they are made, and what they answer is chosen by
the platform.
-/

namespace ArtemisSwitch.Tls
open Brackets Runs

inductive Resource
  | socket (descriptor : ℕ)
  | ssl
  | context
  | connection
  deriving DecidableEq

/-- What the transport does to the platform. -/
inductive Call
  | resource (event : Brackets.Event Resource)
  | setHostName (host : Bytes)
  | setVerifyOption
  | handshake
  | received (length : ℕ)
  | wrote (bytes : Bytes)
  | shutdown (descriptor : ℕ)
  deriving DecidableEq

/-! ## The source -/

/-- `Impl`, and the calls that were made. -/
structure SwitchTlsTransport where
  socket : Option ℕ := none
  sslInitialized : Bool := false
  contextOpen : Bool := false
  connectionOpen : Bool := false
  calls : List Call := []
  deriving DecidableEq

/-- A libnx result: `R_FAILED` is what is not zero. -/
abbrev Result := UInt32

/-- What `socketSslConnectionSetSocketDescriptor` leaves. -/
inductive Registration
  | duplicate
  | notFound
  | failed
  deriving DecidableEq

/-- The answers of the platform to one `connect`. -/
structure Answers where
  lookup : Bool := true
  socket : Option ℕ := some 3
  tcpConnect : Bool := true
  sslInitialize : Result := 0
  sslCreateContext : Result := 0
  sslContextCreateConnection : Result := 0
  sslConnectionSetOption : Result := 0
  setSocketDescriptor : Registration := .notFound
  sslConnectionSetHostName : Result := 0
  sslConnectionSetVerifyOption : Result := 0
  sslConnectionDoHandshake : Result := 0

def hex8 (result : Result) : String :=
  String.ofList (((List.range 8).reverse.map fun i =>
    Nat.digitChar (result.toNat / 16 ^ i % 16)))

def sslError (operation : String) (result : Result) : String :=
  operation ++ " failed (0x" ++ hex8 result ++ ")"

/-- Carriage return and newline. -/
def lineBreaks : Bytes := [13, 10]

def invalidHost (host : Bytes) : Bool :=
  host = [] || 254 < host.length || host.any (· ∈ lineBreaks)

namespace SwitchTlsTransport

def record (t : SwitchTlsTransport) (call : Call) : SwitchTlsTransport :=
  { t with calls := t.calls ++ [call] }

/-- What is open, in the order in which `close` goes through it. -/
def resources (t : SwitchTlsTransport) : List Resource :=
  (if t.connectionOpen then [.connection] else []) ++ (if t.contextOpen then [.context] else []) ++
    (if t.sslInitialized then [.ssl] else []) ++ t.socket.toList.map .socket

def close (t : SwitchTlsTransport) : SwitchTlsTransport where
  calls := t.calls ++ t.resources.map fun r => .resource (.released r)

def opened (t : SwitchTlsTransport) (r : Resource) : SwitchTlsTransport :=
  t.record (.resource (.acquired r))

/-- From the name on, once the connection has its socket. -/
def secure (t : SwitchTlsTransport) (host : Bytes) (a : Answers) : Result × SwitchTlsTransport :=
  if a.sslConnectionSetHostName ≠ 0 then (a.sslConnectionSetHostName, t)
  else
    let t := t.record (.setHostName host)
    if a.sslConnectionSetVerifyOption ≠ 0 then (a.sslConnectionSetVerifyOption, t)
    else
      let t := t.record .setVerifyOption
      if a.sslConnectionDoHandshake ≠ 0 then (a.sslConnectionDoHandshake, t)
      else (0, t.record .handshake)

/-- From `sslInitialize` on, with the socket connected. -/
def startTls (t : SwitchTlsTransport) (host : Bytes) (a : Answers) :
    Except String Unit × SwitchTlsTransport :=
  if a.sslInitialize ≠ 0 then
    (.error (sslError "Tailscale SSL initialization" a.sslInitialize), t.close)
  else
    let t := { t.opened .ssl with sslInitialized := true }
    if a.sslCreateContext ≠ 0 then
      (.error (sslError "Tailscale TLS context" a.sslCreateContext), t.close)
    else
      let t := { t.opened .context with contextOpen := true }
      if a.sslContextCreateConnection ≠ 0 then
        (.error (sslError "Tailscale TLS connection" a.sslContextCreateConnection), t.close)
      else
        let t := { t.opened .connection with connectionOpen := true }
        if a.sslConnectionSetOption ≠ 0 then
          (.error (sslError "Tailscale TLS socket ownership" a.sslConnectionSetOption), t.close)
        else if a.setSocketDescriptor = .failed then
          (.error "Tailscale TLS socket registration failed", t.close)
        else
          let (result, t) := t.secure host a
          if result ≠ 0 then
            (.error (sslError "verified Tailscale TLS handshake" result), t.close)
          else (.ok (), t)

def connect (t : SwitchTlsTransport) (host : Bytes) (a : Answers) :
    Except String Unit × SwitchTlsTransport :=
  let t := t.close
  if invalidHost host then (.error "invalid Tailscale TLS hostname", t)
  else if a.lookup = false then (.error "cannot resolve Tailscale TLS host", t)
  else
    match a.socket with
    | none => (.error "cannot connect to Tailscale TLS endpoint", t.close)
    | some descriptor =>
      let t := { t.opened (.socket descriptor) with socket := some descriptor }
      if a.tcpConnect = false then (.error "cannot connect to Tailscale TLS endpoint", t.close)
      else t.startTls host a

/-- The most that one call is offered. -/
def maxTransfer : ℕ := 0xFFFFFFFF

/-- How much of an offer the service takes, or why it takes none. -/
abbrev Takes := ℕ → (amount : ℕ) → Except Result (Fin (amount + 1))

/-- The loop of `write`; the service is asked for the `call`th time. -/
def writeLoop (takes : Takes) (call : ℕ) (t : SwitchTlsTransport) (rest : Bytes) :
    Except String Unit × SwitchTlsTransport :=
  if _h : rest = [] then (.ok (), t)
  else
    let amount := min rest.length maxTransfer
    match takes call amount with
    | .error result => (.error (sslError "Tailscale TLS write" result), t)
    | .ok transferred =>
      if h : transferred.val = 0 then (.error "Tailscale TLS write made no progress", t)
      else
        let t := t.record (.wrote (rest.take transferred))
        writeLoop takes (call + 1) t (rest.drop transferred)
termination_by rest.length
decreasing_by
  have hpos := List.length_pos_iff.mpr _h
  rw [List.length_drop]
  omega

def write (t : SwitchTlsTransport) (takes : Takes) (bytes : Bytes) :
    Except String Unit × SwitchTlsTransport :=
  if t.connectionOpen = false then (.error "Tailscale TLS transport is not connected", t)
  else t.writeLoop takes 0 bytes

/-- One call to the service, which may give fewer bytes than there is room for. -/
def read (t : SwitchTlsTransport) (gives : Takes) (length : ℕ) :
    Except String Int32 × SwitchTlsTransport :=
  if t.connectionOpen = false ∨ length = 0 then (.error "invalid Tailscale TLS read", t)
  else
    match gives 0 (min length maxTransfer) with
    | .error result => (.error (sslError "Tailscale TLS read" result), t)
    | .ok transferred => (.ok (.ofNat transferred), t.record (.received transferred))

/-- On another thread: the SSL state is left to the thread that reads. -/
def interrupt (t : SwitchTlsTransport) : SwitchTlsTransport :=
  match t.socket with
  | none => t
  | some descriptor => t.record (.shutdown descriptor)

end SwitchTlsTransport

/-! ## What the calls come to -/

def Call.resource? : Call → Option (Event Resource)
  | .resource event => some event
  | _ => none

/-- The acquisitions and releases among the calls. -/
def events (calls : List Call) : List (Event Resource) := calls.filterMap Call.resource?

lemma events_append (calls more : List Call) :
    events (calls ++ more) = events calls ++ events more := List.filterMap_append

/-- What the SSL service knows of an open connection. -/
structure Session where
  hostName : Option Bytes := none
  verify : Bool := false
  /-- The name against which the certificate was checked in the handshake. -/
  checked : Option Bytes := none
  deriving DecidableEq

def Session.next : Option Session → Call → Option Session
  | _, .resource (.acquired .connection) => some {}
  | _, .resource (.released .connection) => none
  | some s, .setHostName host => some { s with hostName := some host }
  | some s, .setVerifyOption => some { s with verify := true }
  | some s, .handshake => some { s with checked := if s.verify then s.hostName else none }
  | s, _ => s

def sessionAfter (calls : List Call) : Option Session := calls.foldl Session.next none

lemma sessionAfter_append (calls more : List Call) :
    sessionAfter (calls ++ more) = more.foldl Session.next (sessionAfter calls) :=
  List.foldl_append

/-- The host whose certificate the open connection has passed. -/
def Session.peer (s : Option Session) : Option Bytes := s.bind Session.checked

/-- Bytes go in or out. -/
def Call.transfers : Call → Bool
  | .received _ => true
  | .wrote _ => true
  | _ => false

/-- Bytes are moved only behind a handshake that has checked the name of the host. -/
def Guarded (s : Option Session) : List Call → Prop
  | [] => True
  | call :: calls =>
    (call.transfers = true → (Session.peer s).isSome) ∧ Guarded (Session.next s call) calls

lemma guarded_append {s : Option Session} {calls more : List Call} :
    Guarded s (calls ++ more) ↔ Guarded s calls ∧ Guarded (calls.foldl Session.next s) more := by
  induction calls generalizing s with
  | nil => simp [Guarded]
  | cons call calls ih => rw [List.cons_append, Guarded, Guarded, ih, and_assoc, List.foldl_cons]

/-- Calls that move nothing. -/
lemma guarded_of_silent {s : Option Session} {calls : List Call}
    (h : ∀ call ∈ calls, call.transfers = false) : Guarded s calls := by
  induction calls generalizing s with
  | nil => trivial
  | cons call calls ih =>
    refine ⟨fun htransfers => ?_, ih fun other hother => h other (List.mem_cons_of_mem _ hother)⟩
    rw [h call List.mem_cons_self] at htransfers
    cases htransfers

namespace SwitchTlsTransport

/-- The fields say what the calls have left open. -/
structure Tracked (t : SwitchTlsTransport) : Prop where
  held : held (events t.calls) = some t.resources
  session : (sessionAfter t.calls).isSome = t.connectionOpen
  guarded : Guarded none t.calls

variable {t next : SwitchTlsTransport} {host : Bytes} {a : Answers}

@[simp] lemma resources_close : t.close.resources = [] := rfl

/-- Releases of everything but the connection leave the session alone. -/
lemma foldl_released {s : Option Session} {rs : List Resource} (h : .connection ∉ rs) :
    (rs.map fun r => Call.resource (.released r)).foldl Session.next s = s := by
  induction rs generalizing s with
  | nil => rfl
  | cons r rs ih =>
    rw [List.mem_cons, not_or] at h
    rw [List.map_cons, List.foldl_cons, ih h.2]
    cases r <;> first | rfl | exact absurd rfl h.1

lemma sessionAfter_close (h : t.Tracked) : sessionAfter t.close.calls = none := by
  have hsession := h.session
  have hrest : Resource.connection ∉ (if t.contextOpen then [Resource.context] else []) ++
      (if t.sslInitialized then [.ssl] else []) ++ t.socket.toList.map .socket := by
    split_ifs <;> simp
  rw [close, sessionAfter_append, resources, List.append_assoc, List.append_assoc,
    ← List.append_assoc (if t.contextOpen then [Resource.context] else [])]
  by_cases hopen : t.connectionOpen = true
  · rw [if_pos hopen, List.singleton_append, List.map_cons, List.foldl_cons]
    exact foldl_released hrest
  · rw [if_neg hopen, List.nil_append, foldl_released hrest]
    rw [Bool.not_eq_true] at hopen
    rwa [hopen, Option.isSome_eq_false_iff, Option.isNone_iff_eq_none] at hsession

lemma Tracked.close (h : t.Tracked) : t.close.Tracked := by
  refine ⟨?_, ?_, ?_⟩
  · rw [SwitchTlsTransport.close, events_append, held_append h.held]
    have hevents : events (t.resources.map fun r => .resource (.released r)) =
        t.resources.map .released := by
      rw [events, List.filterMap_map, ← List.filterMap_eq_map]
      rfl
    have hall := heldFrom_release_all t.resources []
    rw [List.append_nil] at hall
    rw [hevents]
    exact hall
  · rw [sessionAfter_close h]
    rfl
  · refine guarded_append.mpr ⟨h.guarded, guarded_of_silent ?_⟩
    intro call hcall
    obtain ⟨r, -, rfl⟩ := List.mem_map.mp hcall
    rfl

lemma Tracked.acquire {r : Resource} (h : t.Tracked)
    (hcalls : next.calls = t.calls ++ [.resource (.acquired r)])
    (hresources : next.resources = r :: t.resources)
    (hopen : next.connectionOpen = (t.connectionOpen || decide (r = .connection))) :
    next.Tracked := by
  refine ⟨?_, ?_, ?_⟩
  · rw [hcalls, events_append, held_append h.held, hresources]
    rfl
  · have hsession := h.session
    rw [hcalls, sessionAfter_append, hopen]
    cases r with
    | connection => exact (Bool.or_true _).symm
    | _ => simpa [Session.next] using hsession
  · rw [hcalls]
    exact guarded_append.mpr ⟨h.guarded, guarded_of_silent (by simp [Call.transfers])⟩

lemma isSome_next {s : Option Session} {call : Call} (h : call.resource? = none) :
    (Session.next s call).isSome = s.isSome := by
  cases s <;> cases call <;> first | rfl | cases h

/-- A call that acquires and releases nothing; one that moves bytes needs a checked name. -/
lemma Tracked.record {call : Call} (h : t.Tracked) (hcall : call.resource? = none)
    (hchecked : call.transfers = true → (Session.peer (sessionAfter t.calls)).isSome) :
    (t.record call).Tracked := by
  refine ⟨?_, ?_, ?_⟩
  · have hevents : events [call] = [] := by
      rw [events, List.filterMap_cons_none hcall]
      rfl
    rw [SwitchTlsTransport.record, events_append, hevents, List.append_nil]
    exact h.held
  · rw [SwitchTlsTransport.record, sessionAfter_append]
    exact (isSome_next hcall).trans h.session
  · exact guarded_append.mpr ⟨h.guarded, hchecked, trivial⟩

/-- How `connect` may end: closed, or with a peer whose name was checked. -/
def Connected (host : Bytes) : Except String Unit × SwitchTlsTransport → Prop
  | (.error _, t) => t.Tracked ∧ t.resources = []
  | (.ok _, t) => t.Tracked ∧ Session.peer (sessionAfter t.calls) = some host

lemma connected_close {error : String} (h : t.Tracked) : Connected host (.error error, t.close) :=
  ⟨h.close, rfl⟩

/-- The three calls on a fresh connection check the name. -/
lemma secure_tracked (h : t.Tracked) (hfresh : sessionAfter t.calls = some {}) :
    (t.secure host a).2.Tracked ∧ ((t.secure host a).1 = 0 →
      Session.peer (sessionAfter (t.secure host a).2.calls) = some host) := by
  have hname : (t.record (.setHostName host)).Tracked :=
    h.record rfl fun htransfers => nomatch htransfers
  have hverify : ((t.record (.setHostName host)).record .setVerifyOption).Tracked :=
    hname.record rfl fun htransfers => nomatch htransfers
  have hshaken : (((t.record (.setHostName host)).record .setVerifyOption).record
      .handshake).Tracked := hverify.record rfl fun htransfers => nomatch htransfers
  unfold secure
  split_ifs with h1 h2 h3
  · exact ⟨h, fun hzero => absurd hzero h1⟩
  · exact ⟨hname, fun hzero => absurd hzero h2⟩
  · exact ⟨hverify, fun hzero => absurd hzero h3⟩
  · refine ⟨hshaken, fun _ => ?_⟩
    simp only [SwitchTlsTransport.record, sessionAfter_append, hfresh, List.foldl_cons,
      List.foldl_nil]
    rfl

lemma startTls_connected {descriptor : ℕ} {calls : List Call}
    (h : Tracked { socket := some descriptor, calls := calls }) :
    Connected host (startTls { socket := some descriptor, calls := calls } host a) := by
  have hssl : Tracked
      { socket := some descriptor
        sslInitialized := true
        calls := calls ++ [.resource (.acquired .ssl)] } := h.acquire rfl rfl rfl
  have hcontext : Tracked
      { socket := some descriptor
        sslInitialized := true
        contextOpen := true
        calls := calls ++ [.resource (.acquired .ssl)] ++ [.resource (.acquired .context)] } :=
    hssl.acquire rfl rfl rfl
  have hconnection : Tracked
      { socket := some descriptor
        sslInitialized := true
        contextOpen := true
        connectionOpen := true
        calls := calls ++ [.resource (.acquired .ssl)] ++ [.resource (.acquired .context)] ++
          [.resource (.acquired .connection)] } := hcontext.acquire rfl rfl rfl
  have hfresh : sessionAfter (calls ++ [.resource (.acquired .ssl)] ++
      [.resource (.acquired .context)] ++ [.resource (.acquired .connection)]) = some {} := by
    rw [sessionAfter_append]
    rfl
  have hsecure := @secure_tracked _ host a hconnection hfresh
  unfold startTls
  split_ifs with h1 h2 h3 h4 h5
  · exact connected_close h
  · exact connected_close hssl
  · exact connected_close hcontext
  · exact connected_close hconnection
  · exact connected_close hconnection
  · dsimp only
    split_ifs with hresult
    · exact connected_close hsecure.1
    · exact ⟨hsecure.1, hsecure.2 (not_not.mp hresult)⟩

lemma connect_connected (h : t.Tracked) : Connected host (t.connect host a) := by
  have hclosed := h.close
  have hrefused {error : String} : Connected host (.error error, t.close) := ⟨hclosed, rfl⟩
  unfold connect
  dsimp only
  by_cases hhost : invalidHost host = true
  · rw [if_pos hhost]
    exact hrefused
  rw [if_neg hhost]
  by_cases hlookup : a.lookup = false
  · rw [if_pos hlookup]
    exact hrefused
  rw [if_neg hlookup]
  cases a.socket with
  | none => exact connected_close hclosed
  | some descriptor =>
    have hopened : Tracked
        { socket := some descriptor
          calls := t.close.calls ++ [.resource (.acquired (.socket descriptor))] } :=
      hclosed.acquire rfl rfl rfl
    dsimp only
    by_cases htcp : a.tcpConnect = false
    · rw [if_pos htcp]
      exact connected_close hopened
    · rw [if_neg htcp]
      exact startTls_connected hopened

/-! ## Moving bytes -/

/-- A call hands over all it is given when it succeeds, and a part of it otherwise. -/
def Delivered : Except String Unit → Bytes → Bytes → Prop
  | .ok _, handed, given => handed = given
  | .error _, handed, given => handed <+: given ∧ handed ≠ given

lemma Delivered.behind {outcome : Except String Unit} {handed given : Bytes}
    (h : Delivered outcome handed given) (before : Bytes) :
    Delivered outcome (before ++ handed) (before ++ given) := by
  cases outcome with
  | ok _ => exact congrArg (before ++ ·) h
  | error _ =>
    exact ⟨(List.prefix_append_right_inj before).mpr h.1,
      fun heq => h.2 (List.append_cancel_left heq)⟩

/-- The calls that a loop adds are writes of consecutive pieces. -/
lemma writeLoop_calls (takes : Takes) (call : ℕ) (t : SwitchTlsTransport) (rest : Bytes) :
    ∃ pieces : List Bytes,
      (t.writeLoop takes call rest).2 = { t with calls := t.calls ++ pieces.map .wrote } ∧
        Delivered (t.writeLoop takes call rest).1 pieces.flatten rest := by
  induction hlength : rest.length using Nat.strong_induction_on generalizing call t rest with
  | _ n ih =>
    subst hlength
    rw [writeLoop]
    by_cases hrest : rest = []
    · rw [dif_pos hrest]
      exact ⟨[], by simp, hrest.symm⟩
    rw [dif_neg hrest]
    have hstopped (error : String) : ∃ pieces : List Bytes,
        t = { t with calls := t.calls ++ pieces.map .wrote } ∧
          Delivered (.error error) pieces.flatten rest :=
      ⟨[], by simp, List.nil_prefix, Ne.symm hrest⟩
    dsimp only
    cases takes call (min rest.length maxTransfer) with
    | error result => exact hstopped _
    | ok transferred =>
      by_cases hzero : transferred.val = 0
      · simp only [hzero, dite_true]
        exact hstopped _
      · simp only [hzero, dite_false]
        have hpos := List.length_pos_iff.mpr hrest
        obtain ⟨pieces, hcalls, hpieces⟩ := ih (rest.drop transferred).length
          (by rw [List.length_drop]; omega) (call + 1)
          (t.record (.wrote (rest.take transferred))) (rest.drop transferred) rfl
        refine ⟨rest.take transferred :: pieces, ?_, ?_⟩
        · rw [hcalls, SwitchTlsTransport.record, List.map_cons, List.append_assoc]
          rfl
        · have hall := hpieces.behind (rest.take transferred)
          rwa [List.take_append_drop] at hall

/-- The pieces go to the peer that was checked. -/
lemma Tracked.wrote (h : t.Tracked) (hpeer : (Session.peer (sessionAfter t.calls)).isSome)
    (pieces : List Bytes) :
    Tracked { t with calls := t.calls ++ pieces.map .wrote } ∧
      sessionAfter (t.calls ++ pieces.map .wrote) = sessionAfter t.calls := by
  induction pieces generalizing t with
  | nil =>
    rw [List.map_nil, List.append_nil]
    exact ⟨h, rfl⟩
  | cons piece pieces ih =>
    have hone : (t.record (.wrote piece)).Tracked := h.record rfl fun _ => hpeer
    have hsession : sessionAfter (t.record (.wrote piece)).calls = sessionAfter t.calls := by
      rw [SwitchTlsTransport.record, sessionAfter_append]
      cases sessionAfter t.calls <;> rfl
    have hrest := ih hone (hsession ▸ hpeer)
    rw [hsession] at hrest
    rw [List.map_cons, List.append_cons]
    exact hrest

end SwitchTlsTransport

/-! ## Runs -/

/-- The transport, and the host of the last `connect` that succeeded. -/
structure Client where
  transport : SwitchTlsTransport := {}
  host : Option Bytes := none

inductive Operation
  | connect (host : Bytes) (answers : Answers)
  | write (takes : SwitchTlsTransport.Takes) (bytes : Bytes)
  | read (gives : SwitchTlsTransport.Takes) (length : ℕ)
  | interrupt
  | close

def Client.step (c : Client) : Operation → Client
  | .connect host answers =>
    let (outcome, t) := c.transport.connect host answers
    ⟨t, outcome.toOption.map fun _ => host⟩
  | .write takes bytes => { c with transport := (c.transport.write takes bytes).2 }
  | .read gives length => { c with transport := (c.transport.read gives length).2 }
  | .interrupt => { c with transport := c.transport.interrupt }
  | .close => ⟨c.transport.close, none⟩

/-- The transport is open exactly for a host, and its peer is that host. -/
structure Client.Sound (c : Client) : Prop where
  tracked : c.transport.Tracked
  peer : Session.peer (sessionAfter c.transport.calls) = c.host
  closed : c.host = none → c.transport.resources = []

namespace Client
open SwitchTlsTransport

variable {c : Client}

lemma Sound.peer_of_open (h : c.Sound) (hopen : c.transport.connectionOpen = true) :
    (Session.peer (sessionAfter c.transport.calls)).isSome := by
  rw [h.peer, Option.isSome_iff_ne_none]
  intro hnone
  have hclosed := h.closed hnone
  rw [resources, if_pos hopen] at hclosed
  cases hclosed

/-- With nothing open there is no session. -/
lemma sound_closed {t : SwitchTlsTransport} (h : t.Tracked) (hclosed : t.resources = []) :
    Sound ⟨t, none⟩ := by
  have hopen : t.connectionOpen = false := by
    by_contra hopen
    rw [Bool.not_eq_false] at hopen
    rw [resources, if_pos hopen] at hclosed
    cases hclosed
  have hsession := h.session
  rw [hopen, Option.isSome_eq_false_iff, Option.isNone_iff_eq_none] at hsession
  exact ⟨h, congrArg Session.peer hsession, fun _ => hclosed⟩

lemma sound_connect (h : c.Sound) (host : Bytes) (a : Answers) :
    (c.step (.connect host a)).Sound := by
  have hconnected := @connect_connected _ host a h.tracked
  unfold Client.step
  dsimp only
  generalize c.transport.connect host a = result at hconnected ⊢
  obtain ⟨outcome, t⟩ := result
  cases outcome with
  | error _ => exact sound_closed hconnected.1 hconnected.2
  | ok _ => exact ⟨hconnected.1, hconnected.2, fun hnone => nomatch hnone⟩

lemma sound_write (h : c.Sound) (takes : Takes) (bytes : Bytes) :
    (c.step (.write takes bytes)).Sound := by
  by_cases hopen : c.transport.connectionOpen = false
  · simp only [Client.step, write, if_pos hopen]
    exact h
  · obtain ⟨pieces, hcalls, -⟩ := writeLoop_calls takes 0 c.transport bytes
    have hwrote := h.tracked.wrote (h.peer_of_open (Bool.not_eq_false _ ▸ hopen)) pieces
    simp only [Client.step, write, if_neg hopen, hcalls]
    refine ⟨hwrote.1, ?_, h.closed⟩
    rw [hwrote.2]
    exact h.peer

/-- Calls that leave the session and the fields as they are. -/
lemma sound_record {call : Call} (h : c.Sound) (hcall : call.resource? = none)
    (hnext : ∀ s, Session.next s call = s)
    (hpeer : call.transfers = true → c.transport.connectionOpen = true) :
    Sound { c with transport := c.transport.record call } := by
  refine ⟨h.tracked.record hcall fun htransfers => h.peer_of_open (hpeer htransfers), ?_, h.closed⟩
  rw [SwitchTlsTransport.record, sessionAfter_append, List.foldl_cons, hnext]
  exact h.peer

lemma sound_read (h : c.Sound) (gives : Takes) (length : ℕ) :
    (c.step (.read gives length)).Sound := by
  by_cases hrefused : c.transport.connectionOpen = false ∨ length = 0
  · simp only [Client.step, SwitchTlsTransport.read, if_pos hrefused]
    exact h
  · simp only [Client.step, SwitchTlsTransport.read, if_neg hrefused]
    rw [not_or, Bool.not_eq_false] at hrefused
    cases gives 0 (min length maxTransfer) with
    | error _ => exact h
    | ok transferred =>
      exact @sound_record _ (.received transferred) h rfl (fun s => by cases s <;> rfl)
        fun _ => hrefused.1

/-- The step: every operation keeps what the fields say of the calls. -/
lemma sound_step (c : Client) (operation : Operation) (h : c.Sound) :
    (c.step operation).Sound := by
  cases operation with
  | connect host a => exact sound_connect h host a
  | write takes bytes => exact sound_write h takes bytes
  | read gives length => exact sound_read h gives length
  | close => exact sound_closed h.tracked.close rfl
  | interrupt =>
    unfold Client.step SwitchTlsTransport.interrupt
    dsimp only
    cases c.transport.socket with
    | none => exact h
    | some descriptor =>
      exact @sound_record _ (.shutdown descriptor) h rfl (fun s => by cases s <;> rfl)
        fun htransfers => nomatch htransfers

lemma sound_run (operations : List Operation) : (operations.foldl step {}).Sound :=
  foldl_invariant sound_step operations
    ⟨⟨rfl, rfl, trivial⟩, rfl, fun _ => rfl⟩

/-- **Whatever fails, everything is given back once and in reverse order.** -/
theorem resources_are_nested (operations : List Operation) :
    let t := (operations.foldl step {}).transport
    held (events t.calls) = some t.resources ∧
      ∀ r ∉ t.resources,
        (events t.calls).count (.acquired r) = (events t.calls).count (.released r) := by
  intro t
  have h := (sound_run operations).tracked.held
  exact ⟨h, fun r hr => count_eq_of_held h hr⟩

/-- **Bytes are moved only behind a handshake that checked the name of the host**, and the open
connection leads to the host that was asked for. -/
theorem bytes_go_to_checked_host (operations : List Operation) :
    let c := operations.foldl step {}
    Guarded none c.transport.calls ∧
      Session.peer (sessionAfter c.transport.calls) = c.host ∧
      (c.host = none → c.transport.resources = []) := by
  intro c
  have h := sound_run operations
  exact ⟨h.tracked.guarded, h.peer, h.closed⟩

/-- A write moves all bytes in their order when it succeeds, a part from the start otherwise, and
nothing else. -/
theorem write_delivers (operations : List Operation) (takes : Takes) (bytes : Bytes) :
    let t := (operations.foldl step {}).transport
    ∃ pieces : List Bytes, (t.write takes bytes).2.calls = t.calls ++ pieces.map .wrote ∧
      (bytes ≠ [] → Delivered (t.write takes bytes).1 pieces.flatten bytes) ∧
      (pieces ≠ [] → ((operations.foldl step {}).host).isSome) := by
  intro t
  have h := sound_run operations
  by_cases hopen : t.connectionOpen = false
  · refine ⟨[], ?_, fun hne => ?_, fun hne => absurd rfl hne⟩
    · rw [write, if_pos hopen, List.map_nil, List.append_nil]
    · rw [write, if_pos hopen]
      exact ⟨List.nil_prefix, hne.symm⟩
  · obtain ⟨pieces, hcalls, hpieces⟩ := writeLoop_calls takes 0 t bytes
    rw [write, if_neg hopen]
    refine ⟨pieces, by rw [hcalls], fun _ => hpieces, fun _ => ?_⟩
    rw [← h.peer]
    exact h.peer_of_open (Bool.not_eq_false _ ▸ hopen)

end Client

end ArtemisSwitch.Tls

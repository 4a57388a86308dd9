import ArtemisSwitch.Library.Runs
import ArtemisSwitch.Transport
import Mathlib.Data.List.Sort

/-!
# The UDP ports of the relay

A datagram that a client sends to a loopback port goes on to the host, from the same port, and
what the host sends back goes to the client that was heard last.  The relay keeps nothing else
between the two.
-/

namespace ArtemisSwitch.Relay
open Runs

/-- A datagram and the client that it comes from or goes to. -/
structure Datagram (α : Type) where
  client : α
  bytes : Bytes
  deriving DecidableEq

/-- What happens on one port, in order. -/
inductive Traffic (α : Type)
  | opened
  | fromClient (d : Datagram α)
  | taken (d : Datagram α)
  | toHost (bytes : Bytes)
  | fromHost (bytes : Bytes)
  | toClient (d : Datagram α)
  | closed
  deriving DecidableEq

namespace Traffic
variable {α : Type}

@[simp] def sent : Traffic α → Option (Datagram α)
  | .fromClient d => some d
  | _ => none

@[simp] def relayed : Traffic α → Option Bytes
  | .toHost bytes => some bytes
  | _ => none

@[simp] def answered : Traffic α → Option Bytes
  | .fromHost bytes => some bytes
  | _ => none

@[simp] def delivered : Traffic α → Option (Datagram α)
  | .toClient d => some d
  | _ => none

/-- The client that was heard last, since the port was opened. -/
def lastClient (traffic : List (Traffic α)) : Option α :=
  traffic.foldl (fun client t =>
    match t with
    | .opened => none
    | .taken d => some d.client
    | _ => client) none

end Traffic

/-- A `UdpBinding`, the queue of its local socket, and the traffic so far. -/
structure UdpBinding (α : Type) where
  clientAddr : Option α := none
  waiting : List (Datagram α) := []
  traffic : List (Traffic α) := []

/-- How the calls for one port end in `pollUdpSockets`. -/
structure Polled where
  readable : Bool
  received : Bool
  allocated : Bool
  sent : Bool

def kDatagramBuffer : ℕ := 2048

namespace UdpBinding

variable {α : Type}

@[simp] def note (b : UdpBinding α) (t : Traffic α) : UdpBinding α :=
  { b with traffic := b.traffic ++ [t] }

/-- What clients have sent to the port. -/
@[simp] def sent (b : UdpBinding α) : List (Datagram α) := b.traffic.filterMap Traffic.sent

/-- What has gone on to the host. -/
@[simp] def relayed (b : UdpBinding α) : List Bytes := b.traffic.filterMap Traffic.relayed

/-- What the host has sent back. -/
@[simp] def answered (b : UdpBinding α) : List Bytes := b.traffic.filterMap Traffic.answered

/-- What has gone back to clients. -/
@[simp] def delivered (b : UdpBinding α) : List (Datagram α) :=
  b.traffic.filterMap Traffic.delivered

/-- A turn of the loop in `pollUdpSockets`.  The buffer takes the front of a datagram, and an
empty one goes no further. -/
def poll (answer : Polled) (b : UdpBinding α) : UdpBinding α :=
  match b.waiting with
  | [] => b
  | d :: waiting =>
    if answer.readable = false ∨ answer.received = false then b
    else
      let b := { b with waiting := waiting }
      let bytes := d.bytes.take kDatagramBuffer
      if bytes = [] then b
      else
        let b := { b with clientAddr := some d.client }.note (.taken d)
        if answer.allocated && answer.sent then b.note (.toHost bytes) else b

/-- `onUdpRecv` on the segments of a chain; `taken` says that `sendto` succeeds. -/
def onUdpRecv (segments : List Bytes) (taken : Bool) (b : UdpBinding α) : UdpBinding α :=
  let bytes := segments.flatten
  let b := b.note (.fromHost bytes)
  match b.clientAddr with
  | none => b
  | some client =>
    if kDatagramBuffer < bytes.length then b
    else if taken then b.note (.toClient ⟨client, bytes⟩)
    else b

/-- A client sends; the socket may have no room. -/
def arrive (d : Datagram α) (room : Bool) (b : UdpBinding α) : UdpBinding α :=
  let b := b.note (.fromClient d)
  if room then { b with waiting := b.waiting ++ [d] } else b

/-- Nothing waits, and no client is known. -/
def reset (t : Traffic α) (b : UdpBinding α) : UdpBinding α :=
  { clientAddr := none, waiting := [], traffic := b.traffic ++ [t] }

def openPort (b : UdpBinding α) : UdpBinding α := b.reset .opened

def closePort (b : UdpBinding α) : UdpBinding α := b.reset .closed

end UdpBinding

/-- The keys of `udpBindings_`. -/
structure Ports where
  keys : List ℕ
  nodup : keys.Nodup

/-- The map is in the order of its keys. -/
def Ports.insert (ports : Ports) (port : ℕ) (h : port ∉ ports.keys) : Ports where
  keys := ports.keys.orderedInsert (· ≤ ·) port
  nodup := ((List.perm_orderedInsert (· ≤ ·) port ports.keys).nodup_iff).mpr
    (List.nodup_cons.mpr ⟨h, ports.nodup⟩)

/-- The bound ports, and what is known of every port. -/
structure UdpRelay (α : Type) where
  ports : Ports := ⟨[], .nil⟩
  binding : ℕ → UdpBinding α := fun _ => {}

/-- How the calls of `addUdp` end. -/
structure Bound where
  listener : Bool
  pcb : Bool
  bind : Bool

namespace UdpRelay

variable {α : Type}

def update (w : UdpRelay α) (port : ℕ) (f : UdpBinding α → UdpBinding α) : UdpRelay α :=
  { w with binding := Function.update w.binding port (f (w.binding port)) }

def addUdp (w : UdpRelay α) (port : ℕ) (answer : Bound) : Bool × UdpRelay α :=
  if h : port ∈ w.ports.keys then (true, w)
  else if answer.listener && answer.pcb && answer.bind then
    (true, { w.update port UdpBinding.openPort with ports := w.ports.insert port h })
  else (false, w)

def pollUdpSockets (w : UdpRelay α) (answers : ℕ → Polled) : UdpRelay α :=
  w.ports.keys.foldl (fun w port => w.update port (UdpBinding.poll (answers port))) w

/-- The part of `stop` that closes the ports. -/
def stop (w : UdpRelay α) : UdpRelay α :=
  { w.ports.keys.foldl (fun w port => w.update port UdpBinding.closePort) w with
    ports := ⟨[], .nil⟩ }

inductive Step (α : Type)
  | addUdp (port : ℕ) (answer : Bound)
  | client (port : ℕ) (d : Datagram α) (room : Bool)
  | pollUdpSockets (answers : ℕ → Polled)
  | onUdpRecv (port : ℕ) (segments : List Bytes) (taken : Bool)
  | stop

/-- A datagram arrives only at a port that is bound. -/
def step (w : UdpRelay α) : Step α → Option (UdpRelay α)
  | .addUdp port answer => some (w.addUdp port answer).2
  | .client port d room =>
    if port ∈ w.ports.keys then some (w.update port (UdpBinding.arrive d room)) else none
  | .pollUdpSockets answers => some (w.pollUdpSockets answers)
  | .onUdpRecv port segments taken =>
    if port ∈ w.ports.keys then some (w.update port (UdpBinding.onUdpRecv segments taken)) else none
  | .stop => some w.stop


/-! ## What a step does on one port -/

/-- The ways in which a step changes a port. -/
inductive Moves (w : UdpRelay α) (p : ℕ) : Step α → UdpBinding α → Prop
  | same (s : Step α) : Moves w p s (w.binding p)
  | opens (answer : Bound) (h : p ∉ w.ports.keys) :
    Moves w p (.addUdp p answer) (w.binding p).openPort
  | closes : Moves w p .stop (w.binding p).closePort
  | arrives (d : Datagram α) (room : Bool) (h : p ∈ w.ports.keys) :
    Moves w p (.client p d room) ((w.binding p).arrive d room)
  | polls (answers : ℕ → Polled) :
    Moves w p (.pollUdpSockets answers) ((w.binding p).poll (answers p))
  | receives (segments : List Bytes) (taken : Bool) :
    Moves w p (.onUdpRecv p segments taken) ((w.binding p).onUdpRecv segments taken)

variable {w u : UdpRelay α} {s : Step α} {b after : UdpBinding α}

lemma binding_update (port p : ℕ) (f : UdpBinding α → UdpBinding α) :
    (w.update port f).binding p = if p = port then f (w.binding p) else w.binding p := by
  by_cases hp : p = port
  · rw [if_pos hp, hp]
    exact Function.update_self ..
  · rw [if_neg hp]
    exact Function.update_of_ne hp ..

/-- A loop over the map treats every bound port once. -/
lemma binding_foldl (f : ℕ → UdpBinding α → UdpBinding α) (p : ℕ) :
    (w.ports.keys.foldl (fun w port => w.update port (f port)) w).binding p =
      if p ∈ w.ports.keys then f p (w.binding p) else w.binding p := by
  have hother (w' : UdpRelay α) (port : ℕ) (hne : port ≠ p) (b : UdpBinding α)
      (hb : w'.binding p = b) : (w'.update port (f port)).binding p = b := by
    rw [binding_update, if_neg hne.symm, hb]
  split_ifs with hp
  · refine foldl_at (P := fun w' => w'.binding p = w.binding p)
      (fun w' port hne => hother w' port hne _) (fun w' hw' => ?_)
      (fun w' port hne => hother w' port hne _) hp w.ports.nodup rfl
    rw [binding_update, if_pos rfl, hw']
  · exact foldl_other (P := fun w' => w'.binding p = w.binding p)
      (fun w' port hne => hother w' port hne _) hp rfl

lemma ports_foldl (f : ℕ → UdpBinding α → UdpBinding α) (ports : List ℕ) :
    (ports.foldl (fun w port => w.update port (f port)) w).ports = w.ports :=
  foldl_keeps (f := fun w port => w.update port (f port)) (g := UdpRelay.ports) (fun _ _ => rfl)
    ports w

lemma moves_update {port p : ℕ} {f : UdpBinding α → UdpBinding α}
    (h : p = port → Moves w p s (f (w.binding p))) : Moves w p s ((w.update port f).binding p) := by
  rw [binding_update]
  split_ifs with hp
  · exact h hp
  · exact .same s

lemma moves_foldl {p : ℕ} {f : ℕ → UdpBinding α → UdpBinding α}
    (h : Moves w p s (f p (w.binding p))) :
    Moves w p s ((w.ports.keys.foldl (fun w port => w.update port (f port)) w).binding p) := by
  rw [binding_foldl]
  split_ifs
  · exact h
  · exact .same s

lemma moves_step (h : w.step s = some u) (p : ℕ) : Moves w p s (u.binding p) := by
  cases s with
  | addUdp port answer =>
    obtain rfl := Option.some.inj h
    unfold addUdp
    split_ifs with hbound hok
    · exact .same _
    · have hopens : Moves w p (.addUdp port answer)
          ((w.update port UdpBinding.openPort).binding p) := by
        refine moves_update fun hp => ?_
        subst hp
        exact .opens answer hbound
      exact hopens
    · exact .same _
  | client port d room =>
    simp only [step] at h
    split_ifs at h with hbound
    obtain rfl := Option.some.inj h
    refine moves_update fun hp => ?_
    subst hp
    exact .arrives d room hbound
  | pollUdpSockets answers =>
    obtain rfl := Option.some.inj h
    exact moves_foldl (.polls answers)
  | onUdpRecv port segments taken =>
    simp only [step] at h
    split_ifs at h
    obtain rfl := Option.some.inj h
    refine moves_update fun hp => ?_
    subst hp
    exact .receives segments taken
  | stop =>
    obtain rfl := Option.some.inj h
    exact moves_foldl .closes

/-! ## Order -/

/-- What the buffer takes of a datagram. -/
def cut (d : Datagram α) : Bytes := d.bytes.take kDatagramBuffer

/-- Nothing comes twice, and nothing overtakes. -/
structure Ordered (b : UdpBinding α) : Prop where
  up : (b.relayed ++ b.waiting.map cut).Sublist (b.sent.map cut)
  down : (b.delivered.map Datagram.bytes).Sublist b.answered

/-- Steps that only drop what waits. -/
lemma Ordered.of_less (h : Ordered b) (hsent : after.sent = b.sent)
    (hrelayed : after.relayed = b.relayed) (hwaiting : after.waiting.Sublist b.waiting)
    (hanswered : after.answered = b.answered) (hdelivered : after.delivered = b.delivered) :
    Ordered after := by
  refine ⟨?_, ?_⟩
  · rw [hsent, hrelayed]
    exact ((hwaiting.map cut).append_left _).trans h.up
  · rw [hanswered, hdelivered]
    exact h.down

lemma ordered_poll (answer : Polled) (h : Ordered b) : Ordered (b.poll answer) := by
  unfold UdpBinding.poll
  split
  · exact h
  rename_i d waiting hb
  have hrest : waiting.Sublist b.waiting := hb ▸ List.sublist_cons_self d waiting
  dsimp only
  split_ifs with hquiet hempty hgone
  · exact h
  · exact h.of_less rfl rfl hrest rfl rfl
  · -- what was first in the queue is now last of what went on
    have hup := h.up
    rw [hb] at hup
    refine ⟨?_, ?_⟩
    · simpa [List.filterMap_cons, cut] using hup
    · simpa [List.filterMap_cons] using h.down
  · exact h.of_less (by simp [List.filterMap_cons]) (by simp [List.filterMap_cons]) hrest
      (by simp [List.filterMap_cons]) (by simp [List.filterMap_cons])

lemma ordered_arrive (d : Datagram α) (room : Bool) (h : Ordered b) :
    Ordered (b.arrive d room) := by
  unfold UdpBinding.arrive
  dsimp only
  split_ifs
  · refine ⟨?_, by simpa [List.filterMap_cons] using h.down⟩
    have hup := h.up.append_right [cut d]
    simpa [List.filterMap_cons] using hup
  · refine ⟨?_, by simpa [List.filterMap_cons] using h.down⟩
    have hup := h.up.trans (List.sublist_append_left _ [cut d])
    simpa [List.filterMap_cons] using hup

lemma ordered_onUdpRecv (segments : List Bytes) (taken : Bool) (h : Ordered b) :
    Ordered (b.onUdpRecv segments taken) := by
  have hheard : Ordered (b.note (.fromHost segments.flatten)) := by
    refine ⟨by simpa [List.filterMap_cons] using h.up, ?_⟩
    have hdown := h.down.trans (List.sublist_append_left _ [segments.flatten])
    simpa [List.filterMap_cons] using hdown
  unfold UdpBinding.onUdpRecv
  dsimp only
  split
  · exact hheard
  split_ifs
  · exact hheard
  · refine ⟨by simpa [List.filterMap_cons] using h.up, ?_⟩
    have hdown := h.down.append_right [segments.flatten]
    simpa [List.filterMap_cons] using hdown
  · exact hheard

lemma ordered_reset {t : Traffic α} (ht : t = .opened ∨ t = .closed) (h : Ordered b) :
    Ordered (b.reset t) := by
  have hup := ((List.nil_sublist (b.waiting.map cut)).append_left _).trans h.up
  rcases ht with rfl | rfl
  · exact ⟨by simpa [UdpBinding.reset, List.filterMap_cons] using hup,
      by simpa [UdpBinding.reset, List.filterMap_cons] using h.down⟩
  · exact ⟨by simpa [UdpBinding.reset, List.filterMap_cons] using hup,
      by simpa [UdpBinding.reset, List.filterMap_cons] using h.down⟩

lemma ordered_moves {p : ℕ} (hmove : Moves w p s after) (h : Ordered (w.binding p)) :
    Ordered after := by
  cases hmove with
  | same => exact h
  | opens => exact ordered_reset (.inl rfl) h
  | closes => exact ordered_reset (.inr rfl) h
  | arrives d room => exact ordered_arrive d room h
  | polls answers => exact ordered_poll (answers p) h
  | receives segments taken => exact ordered_onUdpRecv segments taken h

/-! ## Who gets an answer -/

/-- Every datagram for a client was for the one that was heard last. -/
structure Addressed (b : UdpBinding α) : Prop where
  client : ∀ client, b.clientAddr = some client → Traffic.lastClient b.traffic = some client
  past : ∀ before d behind, b.traffic = before ++ .toClient d :: behind →
    Traffic.lastClient before = some d.client

/-- The last entry of the traffic is the only new one. -/
lemma past_concat {traffic : List (Traffic α)} {t : Traffic α}
    (h : ∀ before d behind, traffic = before ++ .toClient d :: behind →
      Traffic.lastClient before = some d.client)
    (hnew : ∀ d, t = .toClient d → Traffic.lastClient traffic = some d.client) :
    ∀ before d behind, traffic ++ [t] = before ++ .toClient d :: behind →
      Traffic.lastClient before = some d.client := by
  intro before d behind heq
  rcases List.eq_nil_or_concat' behind with rfl | ⟨front, last, rfl⟩
  · obtain ⟨rfl, hlast⟩ := List.append_inj' heq rfl
    exact hnew d (List.singleton_inj.mp hlast)
  · rw [← List.cons_append, ← List.append_assoc] at heq
    obtain ⟨hfront, -⟩ := List.append_inj' heq rfl
    exact h before d front hfront

lemma lastClient_concat (traffic : List (Traffic α)) (t : Traffic α) :
    Traffic.lastClient (traffic ++ [t]) =
      match t with
      | .opened => none
      | .taken d => some d.client
      | _ => Traffic.lastClient traffic := by
  rw [Traffic.lastClient, List.foldl_concat]
  rfl

/-- An entry that is not for a client, and that leaves the last one known. -/
lemma Addressed.note {t : Traffic α} (h : Addressed b)
    (hlast : Traffic.lastClient (b.traffic ++ [t]) = Traffic.lastClient b.traffic)
    (hnone : ∀ d, t ≠ .toClient d) : Addressed (b.note t) where
  client client hclient := hlast.trans (h.client client hclient)
  past := past_concat h.past fun d hd => absurd hd (hnone d)

lemma addressed_poll (answer : Polled) (h : Addressed b) : Addressed (b.poll answer) := by
  unfold UdpBinding.poll
  split
  · exact h
  rename_i d waiting hb
  have hheard : Addressed ({ b with clientAddr := some d.client, waiting := waiting }.note
      (.taken d)) := by
    refine ⟨fun client hclient => ?_, past_concat h.past fun e he => nomatch he⟩
    obtain rfl := Option.some.inj hclient
    exact lastClient_concat b.traffic (.taken d)
  dsimp only
  split_ifs
  · exact h
  · exact ⟨h.client, h.past⟩
  · exact hheard.note (lastClient_concat _ _) nofun
  · exact hheard

lemma addressed_onUdpRecv (segments : List Bytes) (taken : Bool) (h : Addressed b) :
    Addressed (b.onUdpRecv segments taken) := by
  have hheard : Addressed (b.note (.fromHost segments.flatten)) :=
    h.note (lastClient_concat _ _) nofun
  unfold UdpBinding.onUdpRecv
  dsimp only
  split
  · exact hheard
  rename_i client hclient
  split_ifs
  · exact hheard
  · refine ⟨fun other hother => ?_, past_concat hheard.past fun d hd => ?_⟩
    · exact (lastClient_concat _ _).trans (hheard.client other hother)
    · obtain rfl := Traffic.toClient.inj hd
      exact hheard.client client hclient
  · exact hheard

lemma addressed_reset {t : Traffic α} (ht : ∀ d, t ≠ .toClient d) (h : Addressed b) :
    Addressed (b.reset t) :=
  ⟨(fun _ hclient => nomatch hclient), past_concat h.past fun d hd => absurd hd (ht d)⟩

lemma addressed_arrive (d : Datagram α) (room : Bool) (h : Addressed b) :
    Addressed (b.arrive d room) := by
  have hheard : Addressed (b.note (.fromClient d)) := h.note (lastClient_concat _ _) nofun
  unfold UdpBinding.arrive
  dsimp only
  split_ifs
  · exact ⟨hheard.client, hheard.past⟩
  · exact hheard

lemma addressed_moves {p : ℕ} (hmove : Moves w p s after) (h : Addressed (w.binding p)) :
    Addressed after := by
  cases hmove with
  | same => exact h
  | opens => exact addressed_reset nofun h
  | closes => exact addressed_reset nofun h
  | arrives d room => exact addressed_arrive d room h
  | polls answers => exact addressed_poll (answers p) h
  | receives segments taken => exact addressed_onUdpRecv segments taken h

/-! ## All runs -/

/-- **In every run**, on every port, what goes on to the host is what clients have sent, cut to
the buffer, in order and each at most once; what goes back is what the host has sent, whole, in
order and each at most once; and it goes to the client that was heard last on this port. -/
theorem datagrams_keep_their_way (h : Run step (fun _ _ => True) {} w) (port : ℕ) :
    ((w.binding port).relayed.Sublist ((w.binding port).sent.map cut)) ∧
      ((w.binding port).delivered.map Datagram.bytes).Sublist (w.binding port).answered ∧
      ∀ before d behind, (w.binding port).traffic = before ++ .toClient d :: behind →
        Traffic.lastClient before = some d.client := by
  have hinv : Ordered (w.binding port) ∧ Addressed (w.binding port) := by
    refine h.invariant (I := fun w => Ordered (w.binding port) ∧ Addressed (w.binding port)) ?_ ?_
    · refine ⟨⟨.slnil, .slnil⟩, (fun _ hclient => nomatch hclient), fun before d behind hnil => ?_⟩
      cases before <;> cases hnil
    · intro w s u ⟨hordered, haddressed⟩ _ hstep
      have hmove := moves_step hstep port
      exact ⟨ordered_moves hmove hordered, addressed_moves hmove haddressed⟩
  exact ⟨(List.sublist_append_left ..).trans hinv.1.up, hinv.1.down, hinv.2.past⟩

/-! ## Where nothing fails -/

/-- The datagrams fit, every call succeeds, and the host speaks after a client. -/
def Reliable (w : UdpRelay α) : Step α → Prop
  | .addUdp _ _ => True
  | .client _ d room => room = true ∧ d.bytes ≠ [] ∧ d.bytes.length ≤ kDatagramBuffer
  | .pollUdpSockets answers =>
    ∀ port, (answers port).allocated = true ∧ (answers port).sent = true
  | .onUdpRecv port segments taken =>
    taken = true ∧ segments.flatten.length ≤ kDatagramBuffer ∧ (w.binding port).clientAddr ≠ none
  | .stop => False

/-- Nothing is missing but what waits. -/
structure Whole (b : UdpBinding α) : Prop where
  up : b.relayed ++ b.waiting.map Datagram.bytes = b.sent.map Datagram.bytes
  fits : ∀ d ∈ b.waiting, d.bytes ≠ [] ∧ d.bytes.length ≤ kDatagramBuffer
  down : b.delivered.map Datagram.bytes = b.answered

lemma whole_poll {answer : Polled} (hanswer : answer.allocated = true ∧ answer.sent = true)
    (h : Whole b) : Whole (b.poll answer) := by
  unfold UdpBinding.poll
  split
  · exact h
  rename_i d waiting hb
  obtain ⟨hne, hle⟩ := h.fits d (by simp [hb])
  have hcut : d.bytes.take kDatagramBuffer = d.bytes := List.take_of_length_le hle
  dsimp only
  split_ifs with hquiet hempty hgone
  · exact h
  · exact absurd (hcut ▸ hempty) hne
  · have hup := h.up
    rw [hb] at hup
    refine ⟨?_, fun e he => h.fits e (by rw [hb]; exact List.mem_cons_of_mem d he), ?_⟩
    · simpa [List.filterMap_cons, hcut] using hup
    · simpa [List.filterMap_cons] using h.down
  · exact absurd (by rw [hanswer.1, hanswer.2]; rfl) hgone

lemma whole_arrive {d : Datagram α} (hd : d.bytes ≠ [] ∧ d.bytes.length ≤ kDatagramBuffer)
    (h : Whole b) : Whole (b.arrive d true) := by
  have hup := congrArg (· ++ [d.bytes]) h.up
  refine ⟨?_, fun e he => ?_, ?_⟩
  · simpa [UdpBinding.arrive, List.filterMap_cons] using hup
  · rcases List.mem_append.mp he with hold | hnew
    · exact h.fits e hold
    · rw [List.mem_singleton.mp hnew]
      exact hd
  · simpa [UdpBinding.arrive, List.filterMap_cons] using h.down

lemma whole_onUdpRecv {segments : List Bytes} (hfits : segments.flatten.length ≤ kDatagramBuffer)
    (hclient : b.clientAddr ≠ none) (h : Whole b) : Whole (b.onUdpRecv segments true) := by
  obtain ⟨client, hclient⟩ := Option.ne_none_iff_exists'.mp hclient
  have hdown := congrArg (· ++ [segments.flatten]) h.down
  have hrecv : b.onUdpRecv segments true =
      (b.note (.fromHost segments.flatten)).note (.toClient ⟨client, segments.flatten⟩) := by
    unfold UdpBinding.onUdpRecv
    dsimp only [UdpBinding.note]
    rw [hclient]
    exact if_neg (Nat.not_lt.mpr hfits)
  rw [hrecv]
  refine ⟨?_, h.fits, ?_⟩
  · simpa [List.filterMap_cons] using h.up
  · simpa [List.filterMap_cons] using hdown

lemma whole_openPort (hempty : b.waiting = []) (h : Whole b) : Whole b.openPort := by
  have hup := h.up
  rw [hempty] at hup
  refine ⟨?_, fun d hd => by simp [UdpBinding.openPort, UdpBinding.reset] at hd, ?_⟩
  · simpa [UdpBinding.openPort, UdpBinding.reset, List.filterMap_cons] using hup
  · simpa [UdpBinding.openPort, UdpBinding.reset, List.filterMap_cons] using h.down

/-- No port is missing anything, and nothing waits where no port is bound. -/
def Sound (w : UdpRelay α) : Prop :=
  ∀ port, Whole (w.binding port) ∧ (port ∉ w.ports.keys → (w.binding port).waiting = [])

lemma mem_insert {ports : Ports} {port p : ℕ} (h : port ∉ ports.keys) :
    p ∈ (ports.insert port h).keys ↔ p = port ∨ p ∈ ports.keys :=
  (List.perm_orderedInsert (· ≤ ·) port ports.keys).mem_iff.trans List.mem_cons

/-- Only `stop` takes ports away. -/
lemma keys_step (h : w.step s = some u) (hs : s ≠ .stop) {p : ℕ} (hp : p ∈ w.ports.keys) :
    p ∈ u.ports.keys := by
  cases s with
  | addUdp port answer =>
    obtain rfl := Option.some.inj h
    unfold addUdp
    split_ifs with hbound
    · exact hp
    · exact (mem_insert hbound).mpr (.inr hp)
    · exact hp
  | client port d room =>
    simp only [step] at h
    split_ifs at h
    obtain rfl := Option.some.inj h
    exact hp
  | pollUdpSockets answers =>
    obtain rfl := Option.some.inj h
    show p ∈ (w.pollUdpSockets answers).ports.keys
    rw [pollUdpSockets, ports_foldl]
    exact hp
  | onUdpRecv port segments taken =>
    simp only [step] at h
    split_ifs at h
    obtain rfl := Option.some.inj h
    exact hp
  | stop => exact absurd rfl hs

lemma waiting_poll_nil {answer : Polled} (h : b.waiting = []) : (b.poll answer).waiting = [] := by
  unfold UdpBinding.poll
  rw [h]
  exact h

lemma sound_step (h : w.step s = some u) (hok : Reliable w s) (hsound : Sound w) : Sound u := by
  intro port
  obtain ⟨hwhole, hempty⟩ := hsound port
  have hkeys (hs : s ≠ .stop) (hport : port ∉ u.ports.keys) : port ∉ w.ports.keys :=
    fun hp => hport (keys_step h hs hp)
  have hmove := moves_step h port
  generalize u.binding port = after at hmove ⊢
  cases hmove with
  | same =>
    refine ⟨hwhole, fun hport => hempty (hkeys ?_ hport)⟩
    rintro rfl
    exact hok
  | opens answer hfree => exact ⟨whole_openPort (hempty hfree) hwhole, fun _ => rfl⟩
  | closes => exact hok.elim
  | arrives d room hbound =>
    obtain ⟨rfl, hd⟩ := hok
    exact ⟨whole_arrive hd hwhole, fun hport => absurd hbound (hkeys nofun hport)⟩
  | polls answers =>
    exact ⟨whole_poll (hok port) hwhole, fun hport => waiting_poll_nil (hempty (hkeys nofun hport))⟩
  | receives segments taken =>
    obtain ⟨rfl, hfits, hclient⟩ := hok
    refine ⟨whole_onUdpRecv hfits hclient hwhole, fun hport => ?_⟩
    have hwaiting := hempty (hkeys nofun hport)
    unfold UdpBinding.onUdpRecv
    dsimp only
    split
    · exact hwaiting
    · split_ifs <;> exact hwaiting

/-- Every call succeeds. -/
def ready : Polled := ⟨true, true, true, true⟩

/-- A poll takes the first of what waits. -/
lemma waiting_poll_ready (b : UdpBinding α) : (b.poll ready).waiting = b.waiting.tail := by
  unfold UdpBinding.poll
  split
  · rename_i hb
    rw [hb]
    rfl
  · rename_i d waiting hb
    dsimp only
    rw [if_neg (by simp [ready]), hb]
    split_ifs <;> rfl

lemma sent_poll (answer : Polled) (b : UdpBinding α) : (b.poll answer).sent = b.sent := by
  unfold UdpBinding.poll
  split
  · rfl
  · dsimp only
    split_ifs <;> simp [List.filterMap_cons]

lemma pollUdpSockets_ready (h : Sound w) (port : ℕ) :
    ((w.pollUdpSockets fun _ => ready).binding port).waiting = (w.binding port).waiting.tail ∧
      ((w.pollUdpSockets fun _ => ready).binding port).sent = (w.binding port).sent := by
  rw [pollUdpSockets, binding_foldl]
  split_ifs with hbound
  · exact ⟨waiting_poll_ready _, sent_poll _ _⟩
  · rw [(h port).2 hbound]
    exact ⟨rfl, rfl⟩

/-- After some polls as many datagrams have gone from every port. -/
lemma exec_polls (n : ℕ) (h : Sound w) :
    ∃ u, exec step w (List.replicate n (.pollUdpSockets fun _ => ready)) = some u ∧ Sound u ∧
      ∀ port, (u.binding port).waiting = (w.binding port).waiting.drop n ∧
        (u.binding port).sent = (w.binding port).sent := by
  induction n generalizing w with
  | zero => exact ⟨w, rfl, h, fun port => ⟨rfl, rfl⟩⟩
  | succ n ih =>
    have hstep : w.step (.pollUdpSockets fun _ => ready) =
        some (w.pollUdpSockets fun _ => ready) := rfl
    obtain ⟨u, hexec, hsound, hu⟩ := ih (sound_step hstep (fun _ => ⟨rfl, rfl⟩) h)
    refine ⟨u, by rw [List.replicate_succ, exec, hstep]; exact hexec, hsound, fun port => ?_⟩
    obtain ⟨hwaiting, hsent⟩ := pollUdpSockets_ready h port
    rw [(hu port).1, (hu port).2, hwaiting, hsent, List.drop_tail]
    exact ⟨rfl, rfl⟩

/-- **Where nothing fails nothing is lost**: after enough polls the host has got, port by port and
in order, all that clients have sent, and clients have got all that the host has sent back. -/
theorem polls_deliver (h : Run step Reliable {} w) (n : ℕ)
    (hn : ∀ port ∈ w.ports.keys, (w.binding port).waiting.length ≤ n) :
    ∃ u, exec step w (List.replicate n (.pollUdpSockets fun _ => ready)) = some u ∧
      ∀ port, (u.binding port).relayed = (w.binding port).sent.map Datagram.bytes ∧
        (u.binding port).delivered.map Datagram.bytes = (u.binding port).answered := by
  have hsound : Sound w := by
    refine h.invariant ?_ fun w s u hw hok hstep => sound_step hstep hok hw
    exact fun port => ⟨⟨rfl, (fun _ hd => nomatch hd), rfl⟩, fun _ => rfl⟩
  have hlength (port : ℕ) : (w.binding port).waiting.length ≤ n := by
    by_cases hbound : port ∈ w.ports.keys
    · exact hn port hbound
    · rw [(hsound port).2 hbound]
      exact Nat.zero_le n
  obtain ⟨u, hexec, hu, hport⟩ := exec_polls n hsound
  refine ⟨u, hexec, fun port => ⟨?_, (hu port).1.down⟩⟩
  have hup := (hu port).1.up
  rw [(hport port).1, List.drop_of_length_le (hlength port), (hport port).2] at hup
  simpa using hup

/-! ## A run -/

/-- Two clients use one port, and the host answers the first. -/
def exchanged : UdpRelay ℕ :=
  (exec step {} [.addUdp 47998 ⟨true, true, true⟩, .client 47998 ⟨50000, [1, 2]⟩ true,
    .pollUdpSockets fun _ => ready, .onUdpRecv 47998 [[3], [4]] true,
    .client 47998 ⟨50001, [5]⟩ true]).get (by decide)

lemma exchanged_reliable : Run step Reliable {} exchanged := by
  have hstart : Run step Reliable {} ({} : UdpRelay ℕ) := .refl
  have hbound := hstart.snoc (a := (.addUdp 47998 ⟨true, true, true⟩ : Step ℕ)) trivial rfl
  have hsent := hbound.snoc (a := (.client 47998 ⟨50000, [1, 2]⟩ true : Step ℕ))
    ⟨rfl, by decide, by decide⟩ rfl
  have hpolled := hsent.snoc (a := (.pollUdpSockets fun _ => ready : Step ℕ))
    (fun _ => ⟨rfl, rfl⟩) rfl
  have hanswered := hpolled.snoc (a := (.onUdpRecv 47998 [[3], [4]] true : Step ℕ))
    ⟨rfl, by decide, by decide⟩ rfl
  exact hanswered.snoc (a := (.client 47998 ⟨50001, [5]⟩ true : Step ℕ))
    ⟨rfl, by decide, by decide⟩ rfl

theorem datagrams_keep_their_way_exchanged :
    (exchanged.binding 47998).delivered = [⟨50000, [3, 4]⟩] ∧
      ((exchanged.binding 47998).delivered.map Datagram.bytes).Sublist
        (exchanged.binding 47998).answered :=
  ⟨by decide, (datagrams_keep_their_way (.of_exec (Option.some_get _).symm (by simp)) 47998).2.1⟩

theorem polls_deliver_exchanged :
    ∃ u, exec step exchanged (List.replicate 1 (.pollUdpSockets fun _ => ready)) = some u ∧
      ∀ port, (u.binding port).relayed = (exchanged.binding port).sent.map Datagram.bytes ∧
        (u.binding port).delivered.map Datagram.bytes = (u.binding port).answered :=
  polls_deliver exchanged_reliable 1 (by decide)

end UdpRelay
end ArtemisSwitch.Relay

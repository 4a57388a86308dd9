import ArtemisSwitch.Library.Runs
import Mathlib.Data.List.Perm.Basic
import Mathlib.Data.List.Infix

/-!
# The hand-over of tunnel packets in TsLwipRelay

Receive threads push slots, the loop takes them in batches, `stop` drains what is left.
A step is one access to `running_`, one critical section of `queueMutex_` or one call on
the wake socket.
-/

namespace ArtemisSwitch.Relay
open Runs

/-- A slot with its data; 0 is the null pointer. -/
structure IncomingSlot where
  slot : ℕ
  data : ℕ
  len : ℕ
  deriving DecidableEq, Repr

/-- Where a call of `handleIncomingPacket` stands. -/
inductive Callback
  | entered (packet : IncomingSlot)
  | admitted (packet : IncomingSlot)
  | pushed (packet : IncomingSlot) (wasEmpty : Bool)
  deriving DecidableEq, Repr

/-- Where `runLoop` stands.  `handing` is the second half of `processIncomingQueue`. -/
inductive LoopPhase
  | top
  | polling
  | polled (readable : Bool)
  | draining
  | taking
  | handing (packets : List IncomingSlot) (more : Bool)
  | ended
  deriving DecidableEq, Repr

/-- How far `stop` has come. -/
inductive StopPhase
  | running
  | flagged
  | unregistered
  | woken
  | joined
  | closed
  | drained
  deriving DecidableEq, Repr

/-- What became of a slot. -/
inductive Disposal
  | handed
  | released
  deriving DecidableEq, Repr

/-- The relay, with three records that no code reads: the slots pushed so far, the slots
whose `handleIncomingPacket` has returned 1, and what became of slots, all in order. -/
structure TsLwipRelay where
  running : Bool := true
  registered : Bool := true
  incomingQueue : List IncomingSlot := []
  wake : ℕ := 0
  callbacks : List Callback := []
  loop : LoopPhase := .top
  stopPhase : StopPhase := .running
  accepted : List IncomingSlot := []
  returned : List IncomingSlot := []
  disposed : List (IncomingSlot × Disposal) := []
  deriving DecidableEq, Repr

def kMaxPerIteration : ℕ := 16

def Callback.toReturn : Callback → Option IncomingSlot
  | .pushed packet _ => some packet
  | _ => none

def Callback.isAdmitted : Callback → Bool
  | .admitted _ => true
  | _ => false

def LoopPhase.packets : LoopPhase → List IncomingSlot
  | .handing packets _ => packets
  | _ => []

/-- The loop thread has been joined. -/
def StopPhase.pastJoin : StopPhase → Bool
  | .joined | .closed | .drained => true
  | _ => false

/-- The wake sockets are open. -/
def StopPhase.fdsOpen : StopPhase → Bool
  | .closed | .drained => false
  | _ => true

namespace TsLwipRelay

/-- The socket takes the byte when it has none; else it may be full. -/
def signalWake (taken : Bool) (s : TsLwipRelay) : TsLwipRelay :=
  if s.stopPhase.fdsOpen = false then s
  else { s with wake := if s.wake = 0 ∨ taken then s.wake + 1 else s.wake }

/-- The tunnel calls back while the callback is registered. -/
def enter (packet : IncomingSlot) (s : TsLwipRelay) : Option TsLwipRelay :=
  if s.registered then some { s with callbacks := s.callbacks ++ [.entered packet] } else none

def push (packet : IncomingSlot) (i : ℕ) (s : TsLwipRelay) : TsLwipRelay :=
  { s with
    incomingQueue := s.incomingQueue ++ [packet]
    accepted := s.accepted ++ [packet]
    callbacks := s.callbacks.set i (.pushed packet s.incomingQueue.isEmpty) }

def handleIncomingPacket (i : ℕ) (taken : Bool) (s : TsLwipRelay) : Option TsLwipRelay :=
  match s.callbacks[i]? with
  | none => none
  | some (.entered packet) =>
    if s.running = false ∨ packet.slot = 0 ∨ packet.data = 0 ∨ packet.len = 0 then
      some { s with callbacks := s.callbacks.eraseIdx i }
    else some { s with callbacks := s.callbacks.set i (.admitted packet) }
  | some (.admitted packet) => some (s.push packet i)
  | some (.pushed packet wasEmpty) =>
    let s := { s with callbacks := s.callbacks.eraseIdx i, returned := s.returned ++ [packet] }
    some (if wasEmpty then s.signalWake taken else s)

/-- The loop hands a packet over when a holder is free. -/
def handOne (packet : IncomingSlot) (free : Bool) (s : TsLwipRelay) : TsLwipRelay :=
  { s with disposed := s.disposed ++ [(packet, if free then .handed else .released)] }

def takeBatch (s : TsLwipRelay) : TsLwipRelay :=
  let rest := s.incomingQueue.drop kMaxPerIteration
  { s with
    incomingQueue := rest
    loop := .handing (s.incomingQueue.take kMaxPerIteration) (!rest.isEmpty) }

def processIncomingQueue (free taken : Bool) (packets : List IncomingSlot) (more : Bool)
    (s : TsLwipRelay) : TsLwipRelay :=
  match packets with
  | packet :: packets => { s.handOne packet free with loop := .handing packets more }
  | [] => if more then { s.signalWake taken with loop := .top } else { s with loop := .top }

def runLoop (free taken : Bool) (s : TsLwipRelay) : Option TsLwipRelay :=
  match s.loop with
  | .top => some { s with loop := if s.running then .polling else .ended }
  | .polling => some { s with loop := .polled (decide (0 < s.wake)) }
  | .polled readable =>
    if s.running = false then some { s with loop := .ended }
    else some { s with loop := if readable then .draining else .taking }
  | .draining =>
    if s.wake = 0 then some { s with loop := .taking } else some { s with wake := s.wake - 1 }
  | .taking => some s.takeBatch
  | .handing packets more => some (s.processIncomingQueue free taken packets more)
  | .ended => none

def drain (s : TsLwipRelay) : TsLwipRelay :=
  { s with
    incomingQueue := []
    disposed := s.disposed ++
      (s.incomingQueue.filter fun packet => packet.slot ≠ 0).map fun packet => (packet, .released)
    stopPhase := .drained }

def stop (taken : Bool) (s : TsLwipRelay) : Option TsLwipRelay :=
  match s.stopPhase with
  | .running => some { s with running := false, stopPhase := .flagged }
  | .flagged => some { s with registered := false, stopPhase := .unregistered }
  | .unregistered => some { s.signalWake taken with stopPhase := .woken }
  | .woken => if s.loop = .ended then some { s with stopPhase := .joined } else none
  | .joined => some { s with stopPhase := .closed }
  | .closed => some s.drain
  | .drained => none

end TsLwipRelay

/-- Whose step it is, with what the wake socket and lwIP answer.  `addPort` is the wake-up
of `addTcp` and `addUdp`. -/
inductive Turn
  | arrive (packet : IncomingSlot)
  | callback (i : ℕ) (taken : Bool)
  | loop (free taken : Bool)
  | addPort (taken : Bool)
  | stop (taken : Bool)
  deriving DecidableEq, Repr

namespace TsLwipRelay

def step (s : TsLwipRelay) : Turn → Option TsLwipRelay
  | .arrive packet => s.enter packet
  | .callback i taken => s.handleIncomingPacket i taken
  | .loop free taken => s.runLoop free taken
  | .addPort taken => some (s.signalWake taken)
  | .stop taken => s.stop taken

/-- The push of a callback that read `running_` before `stop` cleared it and comes to the
queue after `stop` has drained it. -/
def LatePush (s : TsLwipRelay) : Turn → Prop
  | .callback i _ => s.stopPhase = .drained ∧ (s.callbacks[i]?).any Callback.isAdmitted = true
  | _ => False

instance (s : TsLwipRelay) (turn : Turn) : Decidable (s.LatePush turn) := by
  cases turn <;> (dsimp only [LatePush]; infer_instance)

/-- A wake-up is on its way. -/
def WakeComing (s : TsLwipRelay) : Prop :=
  0 < s.wake ∨ ∃ packet, Callback.pushed packet true ∈ s.callbacks

end TsLwipRelay

/-- The loop looks at the queue, or wakes itself, before it polls again. -/
def LoopPhase.rechecks : LoopPhase → Bool
  | .top | .polling => false
  | .handing _ more => more
  | _ => true

namespace TsLwipRelay

/-- What holds in every state, late pushes or not. -/
structure Inv (s : TsLwipRelay) : Prop where
  order : s.accepted = s.disposed.map Prod.fst ++ s.loop.packets ++ s.incomingQueue
  returns : (s.returned ++ s.callbacks.filterMap Callback.toReturn).Perm s.accepted
  slots : ∀ packet ∈ s.accepted, packet.slot ≠ 0
  admitted : ∀ packet, Callback.admitted packet ∈ s.callbacks → packet.slot ≠ 0
  wake : s.loop.rechecks = false → s.incomingQueue ≠ [] → s.WakeComing
  joined : s.stopPhase.pastJoin = true → s.loop = .ended

variable {s t u : TsLwipRelay} {turn : Turn} {i : ℕ} {c d : Callback} {packet : IncomingSlot}

/-! ## One callback among the others -/

lemma callbacks_perm (h : s.callbacks[i]? = some c) :
    s.callbacks.Perm (c :: s.callbacks.eraseIdx i) := by
  obtain ⟨hlen, rfl⟩ := List.getElem?_eq_some_iff.mp h
  exact (List.getElem_cons_eraseIdx_perm hlen).symm

lemma set_perm (h : s.callbacks[i]? = some c) (d : Callback) :
    (s.callbacks.set i d).Perm (d :: s.callbacks.eraseIdx i) := by
  obtain ⟨hlen, -⟩ := List.getElem?_eq_some_iff.mp h
  exact List.set_perm_cons_eraseIdx hlen d

/-- A callback that owes no wake-up may leave or move on. -/
lemma WakeComing.of_other (h : s.WakeComing) (hc : s.callbacks[i]? = some c)
    (hne : ∀ packet, c ≠ .pushed packet true) :
    0 < s.wake ∨ ∃ packet, Callback.pushed packet true ∈ s.callbacks.eraseIdx i := by
  cases h with
  | inl hwake => exact .inl hwake
  | inr hpusher =>
    obtain ⟨packet, hmem⟩ := hpusher
    rw [(callbacks_perm hc).mem_iff, List.mem_cons] at hmem
    have hrest := hmem.resolve_left fun heq => hne packet heq.symm
    exact .inr ⟨packet, hrest⟩

lemma WakeComing.set (h : s.WakeComing) (hc : s.callbacks[i]? = some c)
    (hne : ∀ packet, c ≠ .pushed packet true) (d : Callback) :
    0 < s.wake ∨ ∃ packet, Callback.pushed packet true ∈ s.callbacks.set i d := by
  cases h.of_other hc hne with
  | inl hwake => exact .inl hwake
  | inr hpusher =>
    obtain ⟨packet, hmem⟩ := hpusher
    exact .inr ⟨packet, (set_perm hc d).mem_iff.mpr (List.mem_cons_of_mem _ hmem)⟩

/-! ## The wake socket -/

/-- `signalWake` touches the socket only, and as long as that is open a byte is pending
afterwards. -/
lemma signalWake_eq (s : TsLwipRelay) (taken : Bool) :
    ∃ n, s.signalWake taken = { s with wake := n } ∧ s.wake ≤ n ∧
      (s.stopPhase.fdsOpen = true → 0 < n) := by
  unfold signalWake
  split_ifs with hopen hempty
  · exact ⟨s.wake, rfl, le_rfl, by simp [hopen]⟩
  · exact ⟨s.wake + 1, rfl, by omega, by omega⟩
  · exact ⟨s.wake, rfl, le_rfl, by omega⟩

lemma fdsOpen_of_not_pastJoin {phase : StopPhase} (h : phase.pastJoin = false) :
    phase.fdsOpen = true := by
  cases phase <;> simp_all [StopPhase.pastJoin, StopPhase.fdsOpen]

/-- The sockets are open while the loop runs. -/
lemma Inv.fdsOpen (h : s.Inv) (hloop : s.loop ≠ .ended) : s.stopPhase.fdsOpen = true := by
  apply fdsOpen_of_not_pastJoin
  by_contra hpast
  exact hloop (h.joined (by simpa using hpast))

lemma Inv.signalWake (h : s.Inv) (taken : Bool) : (s.signalWake taken).Inv := by
  obtain ⟨n, heq, hle, -⟩ := signalWake_eq s taken
  rw [heq]
  refine ⟨h.order, h.returns, h.slots, h.admitted, ?_, h.joined⟩
  intro hloop hqueue
  exact (h.wake hloop hqueue).imp (fun hpos => by simpa using by omega) id

/-! ## The invariant over one step -/

lemma Inv.enter (h : s.Inv) (hstep : s.enter packet = some t) : t.Inv := by
  unfold TsLwipRelay.enter at hstep
  split_ifs at hstep
  obtain rfl := Option.some.inj hstep
  refine ⟨h.order, ?_, h.slots, ?_, ?_, h.joined⟩
  · simpa [List.filterMap_cons, Callback.toReturn] using h.returns
  · intro p hp
    exact h.admitted p (by simpa using hp)
  · intro hloop hqueue
    refine (h.wake hloop hqueue).imp id ?_
    intro ⟨p, hp⟩
    exact ⟨p, by simp [hp]⟩

/-- A callback that has not pushed yet moves to another such state. -/
lemma Inv.advance (h : s.Inv) (hc : s.callbacks[i]? = some c) (hret : c.toReturn = none)
    (hnew : d.toReturn = none) (hslot : ∀ packet, d = .admitted packet → packet.slot ≠ 0) :
    Inv { s with callbacks := s.callbacks.set i d } := by
  have hne : ∀ packet, c ≠ .pushed packet true := by
    rintro packet rfl
    simp [Callback.toReturn] at hret
  refine ⟨h.order, ?_, h.slots, ?_, fun hloop hqueue => (h.wake hloop hqueue).set hc hne d,
    h.joined⟩
  · have hbefore := (callbacks_perm hc).filterMap Callback.toReturn
    have hafter := (set_perm hc d).filterMap Callback.toReturn
    simp only [List.filterMap_cons, hret, hnew] at hbefore hafter
    exact ((hafter.trans hbefore.symm).append_left _).trans h.returns
  · intro packet hmem
    rw [(set_perm hc d).mem_iff, List.mem_cons] at hmem
    cases hmem with
    | inl heq => exact hslot packet heq.symm
    | inr hrest =>
      exact h.admitted packet ((callbacks_perm hc).mem_iff.mpr (List.mem_cons_of_mem _ hrest))

/-- A callback returns 0. -/
lemma Inv.refuse (h : s.Inv) (hc : s.callbacks[i]? = some (.entered packet)) :
    Inv { s with callbacks := s.callbacks.eraseIdx i } := by
  refine ⟨h.order, ?_, h.slots, ?_, ?_, h.joined⟩
  · have hbefore := (callbacks_perm hc).filterMap Callback.toReturn
    simp only [List.filterMap_cons, Callback.toReturn] at hbefore
    exact (hbefore.symm.append_left _).trans h.returns
  · intro p hmem
    exact h.admitted p ((callbacks_perm hc).mem_iff.mpr (List.mem_cons_of_mem _ hmem))
  · intro hloop hqueue
    exact (h.wake hloop hqueue).of_other hc (by simp)

lemma Inv.push (h : s.Inv) (hc : s.callbacks[i]? = some (.admitted packet)) :
    (s.push packet i).Inv := by
  have hmem : Callback.admitted packet ∈ s.callbacks := List.mem_of_getElem? hc
  refine ⟨?_, ?_, ?_, ?_, ?_, h.joined⟩
  · simp [TsLwipRelay.push, h.order, List.append_assoc]
  · have hbefore := (callbacks_perm hc).filterMap Callback.toReturn
    have hafter := (set_perm hc (.pushed packet s.incomingQueue.isEmpty)).filterMap
      Callback.toReturn
    simp only [List.filterMap_cons, Callback.toReturn] at hbefore hafter
    have hpending := hafter.trans ((hbefore.symm.cons packet).trans
      (List.perm_append_singleton packet _).symm)
    refine (hpending.append_left s.returned).trans ?_
    rw [← List.append_assoc]
    exact h.returns.append_right [packet]
  · intro p hp
    cases List.mem_append.mp hp with
    | inl hold => exact h.slots p hold
    | inr hnew =>
      obtain rfl := List.mem_singleton.mp hnew
      exact h.admitted p hmem
  · intro p hp
    rw [show (s.push packet i).callbacks = s.callbacks.set i _ from rfl, (set_perm hc _).mem_iff,
      List.mem_cons] at hp
    have hrest := hp.resolve_left (by simp)
    exact h.admitted p ((callbacks_perm hc).mem_iff.mpr (List.mem_cons_of_mem _ hrest))
  · intro hloop _
    by_cases hempty : s.incomingQueue = []
    · -- this callback owes the wake-up
      right
      refine ⟨packet, (set_perm hc _).mem_iff.mpr ?_⟩
      simp [hempty]
    · exact (h.wake hloop hempty).set hc (by simp) _

/-- A callback returns 1, after it has written its wake byte when it owes one. -/
lemma Inv.finish {wasEmpty : Bool} (h : s.Inv) (taken : Bool)
    (hc : s.callbacks[i]? = some (.pushed packet wasEmpty))
    (hopen : s.stopPhase.fdsOpen = true ∨ s.loop.rechecks = true) :
    Inv (if wasEmpty then
        TsLwipRelay.signalWake taken
          { s with callbacks := s.callbacks.eraseIdx i, returned := s.returned ++ [packet] }
      else { s with callbacks := s.callbacks.eraseIdx i, returned := s.returned ++ [packet] }) := by
  have hreturns : (s.returned ++ [packet] ++
      (s.callbacks.eraseIdx i).filterMap Callback.toReturn).Perm s.accepted := by
    have hbefore := (callbacks_perm hc).filterMap Callback.toReturn
    simp only [List.filterMap_cons, Callback.toReturn] at hbefore
    rw [List.append_assoc]
    exact (hbefore.symm.append_left s.returned).trans h.returns
  have hadmitted : ∀ p, Callback.admitted p ∈ s.callbacks.eraseIdx i → p.slot ≠ 0 := by
    intro p hmem
    exact h.admitted p ((callbacks_perm hc).mem_iff.mpr (List.mem_cons_of_mem _ hmem))
  cases wasEmpty with
  | false =>
    refine ⟨h.order, hreturns, h.slots, hadmitted, ?_, h.joined⟩
    intro hloop hqueue
    exact (h.wake hloop hqueue).of_other hc (by simp)
  | true =>
    obtain ⟨n, heq, -, hpos⟩ := signalWake_eq
      { s with callbacks := s.callbacks.eraseIdx i, returned := s.returned ++ [packet] } taken
    rw [if_pos rfl, heq]
    refine ⟨h.order, hreturns, h.slots, hadmitted, ?_, h.joined⟩
    intro hloop _
    left
    have hloop' : s.loop.rechecks = false := hloop
    exact hpos (hopen.resolve_right (by simp [hloop']))

lemma Inv.handleIncomingPacket {taken : Bool} (h : s.Inv)
    (hstep : s.handleIncomingPacket i taken = some t) : t.Inv := by
  unfold TsLwipRelay.handleIncomingPacket at hstep
  split at hstep
  · simp at hstep
  · next packet hc =>
    split_ifs at hstep with hrefused
    · obtain rfl := Option.some.inj hstep
      exact h.refuse hc
    · obtain rfl := Option.some.inj hstep
      have hslot : packet.slot ≠ 0 := fun hzero => hrefused (.inr (.inl hzero))
      refine h.advance hc rfl rfl ?_
      intro p hp
      obtain rfl := Callback.admitted.inj hp
      exact hslot
  · next packet hc =>
    obtain rfl := Option.some.inj hstep
    exact h.push hc
  · next packet wasEmpty hc =>
    obtain rfl := Option.some.inj hstep
    refine h.finish taken hc ?_
    by_cases hended : s.loop = .ended
    · exact .inr (by rw [hended]; rfl)
    · exact .inl (h.fdsOpen hended)

/-- The loop moves to a phase with the same packets in hand. -/
lemma Inv.goto {phase : LoopPhase} (h : s.Inv) (hloop : s.loop ≠ .ended)
    (hpackets : phase.packets = s.loop.packets)
    (hwake : phase.rechecks = false → s.incomingQueue ≠ [] → s.WakeComing) :
    Inv { s with loop := phase } := by
  refine ⟨?_, h.returns, h.slots, h.admitted, hwake, ?_⟩
  · rw [h.order, hpackets]
  · intro hpast
    exact absurd (h.joined hpast) hloop

lemma Inv.takeBatch (h : s.Inv) (hloop : s.loop = .taking) : s.takeBatch.Inv := by
  refine ⟨?_, h.returns, h.slots, h.admitted, ?_, ?_⟩
  · have hsplit : s.incomingQueue.take kMaxPerIteration ++ s.incomingQueue.drop kMaxPerIteration =
        s.incomingQueue := List.take_append_drop _ _
    simp only [TsLwipRelay.takeBatch, LoopPhase.packets, List.append_assoc, hsplit]
    simpa [hloop, LoopPhase.packets] using h.order
  · -- what is left over sets `more`
    intro hmore hqueue
    simp [TsLwipRelay.takeBatch, LoopPhase.rechecks] at hmore hqueue
    omega
  · intro hpast
    simp [h.joined hpast] at hloop

lemma Inv.processIncomingQueue {packets : List IncomingSlot} {more free taken : Bool} (h : s.Inv)
    (hloop : s.loop = .handing packets more) :
    (s.processIncomingQueue free taken packets more).Inv := by
  have hrunning : s.loop ≠ .ended := by simp [hloop]
  have horder := h.order
  rw [hloop] at horder
  cases packets with
  | cons packet packets =>
    refine ⟨?_, h.returns, h.slots, h.admitted, ?_, ?_⟩
    · simpa [TsLwipRelay.processIncomingQueue, handOne, LoopPhase.packets] using horder
    · intro hmore hqueue
      exact h.wake (by rw [hloop]; exact hmore) hqueue
    · intro hpast
      exact absurd (h.joined hpast) hrunning
  | nil =>
    cases more with
    | false =>
      refine h.goto hrunning (by simp [hloop, LoopPhase.packets]) ?_
      intro _ hqueue
      exact h.wake (by rw [hloop]; rfl) hqueue
    | true =>
      obtain ⟨n, heq, -, hpos⟩ := signalWake_eq s taken
      simp only [TsLwipRelay.processIncomingQueue, if_true, heq]
      refine ⟨by simpa [LoopPhase.packets] using horder, h.returns, h.slots, h.admitted, ?_, ?_⟩
      · intro _ _
        exact .inl (hpos (h.fdsOpen hrunning))
      · intro hpast
        exact absurd (h.joined hpast) hrunning

lemma Inv.runLoop {free taken : Bool} (h : s.Inv) (hstep : s.runLoop free taken = some t) :
    t.Inv := by
  unfold TsLwipRelay.runLoop at hstep
  split at hstep
  · next hloop =>
    obtain rfl := Option.some.inj hstep
    have hwake := h.wake (by rw [hloop]; rfl)
    refine h.goto (by simp [hloop]) ?_ fun _ => hwake
    split_ifs <;> simp [hloop, LoopPhase.packets]
  · next hloop =>
    obtain rfl := Option.some.inj hstep
    exact h.goto (by simp [hloop]) (by simp [hloop, LoopPhase.packets])
      (by simp [LoopPhase.rechecks])
  · next readable hloop =>
    split_ifs at hstep with hstopped hreadable
    all_goals
      obtain rfl := Option.some.inj hstep
      exact h.goto (by simp [hloop]) (by simp [hloop, LoopPhase.packets])
        (by simp [LoopPhase.rechecks])
  · next hloop =>
    split_ifs at hstep with hdry
    · obtain rfl := Option.some.inj hstep
      exact h.goto (by simp [hloop]) (by simp [hloop, LoopPhase.packets])
        (by simp [LoopPhase.rechecks])
    · -- the queue is looked at before the next poll, so the byte may go
      obtain rfl := Option.some.inj hstep
      exact ⟨h.order, h.returns, h.slots, h.admitted, by simp [hloop, LoopPhase.rechecks],
        h.joined⟩
  · next hloop =>
    obtain rfl := Option.some.inj hstep
    exact h.takeBatch hloop
  · next packets more hloop =>
    obtain rfl := Option.some.inj hstep
    exact h.processIncomingQueue hloop
  · simp at hstep

lemma Inv.setStopPhase {phase : StopPhase} {running registered : Bool} (h : s.Inv)
    (hjoined : phase.pastJoin = true → s.loop = .ended) :
    Inv { s with running := running, registered := registered, stopPhase := phase } :=
  ⟨h.order, h.returns, h.slots, h.admitted, h.wake, hjoined⟩

/-- The drain finds only slots that are not null. -/
lemma Inv.drain (h : s.Inv) (hloop : s.loop = .ended) : s.drain.Inv := by
  have hslots : s.incomingQueue.filter (fun packet => packet.slot ≠ 0) = s.incomingQueue := by
    rw [List.filter_eq_self]
    intro packet hmem
    have haccepted : packet ∈ s.accepted := by
      rw [h.order]
      exact List.mem_append_right _ hmem
    simpa using h.slots packet haccepted
  refine ⟨?_, h.returns, h.slots, h.admitted, by simp [TsLwipRelay.drain], fun _ => hloop⟩
  simp only [TsLwipRelay.drain, hslots, List.map_append, List.map_map, List.append_nil]
  have horder := h.order
  rw [hloop] at horder
  simpa [hloop, LoopPhase.packets, Function.comp_def] using horder

lemma Inv.stop {taken : Bool} (h : s.Inv) (hstep : s.stop taken = some t) : t.Inv := by
  unfold TsLwipRelay.stop at hstep
  split at hstep
  · obtain rfl := Option.some.inj hstep
    exact h.setStopPhase (by simp [StopPhase.pastJoin])
  · obtain rfl := Option.some.inj hstep
    exact h.setStopPhase (by simp [StopPhase.pastJoin])
  · obtain rfl := Option.some.inj hstep
    exact (h.signalWake taken).setStopPhase (by simp [StopPhase.pastJoin])
  · split_ifs at hstep with hended
    obtain rfl := Option.some.inj hstep
    exact h.setStopPhase fun _ => hended
  · next hphase =>
    obtain rfl := Option.some.inj hstep
    exact h.setStopPhase fun _ => h.joined (by rw [hphase]; rfl)
  · next hphase =>
    obtain rfl := Option.some.inj hstep
    exact h.drain (h.joined (by rw [hphase]; rfl))
  · simp at hstep

theorem Inv.step (h : s.Inv) (hstep : s.step turn = some t) : t.Inv := by
  cases turn with
  | arrive packet => exact h.enter hstep
  | callback i taken => exact h.handleIncomingPacket hstep
  | loop free taken => exact h.runLoop hstep
  | addPort taken =>
    obtain rfl := Option.some.inj hstep
    exact h.signalWake taken
  | stop taken => exact h.stop hstep

lemma inv_started : Inv {} := by
  refine ⟨rfl, .refl _, by simp, by simp, by simp, ?_⟩
  intro hpast
  simp [StopPhase.pastJoin] at hpast

theorem run_inv {ok : TsLwipRelay → Turn → Prop} (h : Run step ok {} s) : s.Inv :=
  Run.invariant inv_started (fun _ _ _ ht _ hstep => ht.step hstep) h

/-! ## After the drain -/

lemma signalWake_queue (s : TsLwipRelay) (taken : Bool) :
    (s.signalWake taken).incomingQueue = s.incomingQueue ∧
      (s.signalWake taken).stopPhase = s.stopPhase := by
  obtain ⟨n, heq, -⟩ := signalWake_eq s taken
  rw [heq]
  exact ⟨rfl, rfl⟩

/-- Nobody takes a slot out any more. -/
lemma after_drain (h : s.Inv) (hdrained : s.stopPhase = .drained)
    (hstep : s.step turn = some t) :
    t.stopPhase = .drained ∧ (t.incomingQueue = s.incomingQueue ∨
      LatePush s turn ∧ ∃ packet, t.incomingQueue = s.incomingQueue ++ [packet]) := by
  have hended : s.loop = .ended := h.joined (by rw [hdrained]; rfl)
  cases turn with
  | arrive packet =>
    simp only [step, TsLwipRelay.enter] at hstep
    split_ifs at hstep
    obtain rfl := Option.some.inj hstep
    exact ⟨hdrained, .inl rfl⟩
  | callback i taken =>
    simp only [step, TsLwipRelay.handleIncomingPacket] at hstep
    split at hstep
    · simp at hstep
    · split_ifs at hstep
      all_goals
        obtain rfl := Option.some.inj hstep
        exact ⟨hdrained, .inl rfl⟩
    · next packet hc =>
      obtain rfl := Option.some.inj hstep
      exact ⟨hdrained, .inr ⟨⟨hdrained, by rw [hc]; rfl⟩, packet, rfl⟩⟩
    · next packet wasEmpty hc =>
      obtain rfl := Option.some.inj hstep
      split_ifs
      · have hsame := signalWake_queue
          { s with callbacks := s.callbacks.eraseIdx i, returned := s.returned ++ [packet] } taken
        exact ⟨hsame.2.trans hdrained, .inl hsame.1⟩
      · exact ⟨hdrained, .inl rfl⟩
  | loop free taken => simp [step, TsLwipRelay.runLoop, hended] at hstep
  | addPort taken =>
    obtain rfl := Option.some.inj hstep
    have hsame := signalWake_queue s taken
    exact ⟨hsame.2.trans hdrained, .inl hsame.1⟩
  | stop taken => simp [step, TsLwipRelay.stop, hdrained] at hstep

lemma enter_stopPhase (hstep : s.enter packet = some t) : t.stopPhase = s.stopPhase := by
  unfold TsLwipRelay.enter at hstep
  split_ifs at hstep
  obtain rfl := Option.some.inj hstep
  rfl

lemma handleIncomingPacket_stopPhase {taken : Bool}
    (hstep : s.handleIncomingPacket i taken = some t) : t.stopPhase = s.stopPhase := by
  unfold TsLwipRelay.handleIncomingPacket at hstep
  split at hstep
  · simp at hstep
  · split_ifs at hstep
    · obtain rfl := Option.some.inj hstep
      rfl
    · obtain rfl := Option.some.inj hstep
      rfl
  · obtain rfl := Option.some.inj hstep
    rfl
  · next packet wasEmpty hc =>
    obtain rfl := Option.some.inj hstep
    cases wasEmpty with
    | false => rfl
    | true => exact (signalWake_queue _ taken).2

lemma processIncomingQueue_stopPhase (free taken : Bool) (packets : List IncomingSlot)
    (more : Bool) : (s.processIncomingQueue free taken packets more).stopPhase = s.stopPhase := by
  cases packets with
  | cons packet packets => rfl
  | nil =>
    cases more with
    | false => rfl
    | true => exact (signalWake_queue s taken).2

lemma runLoop_stopPhase {free taken : Bool} (hstep : s.runLoop free taken = some t) :
    t.stopPhase = s.stopPhase := by
  unfold TsLwipRelay.runLoop at hstep
  split at hstep
  · obtain rfl := Option.some.inj hstep
    rfl
  · obtain rfl := Option.some.inj hstep
    rfl
  · split_ifs at hstep
    all_goals
      obtain rfl := Option.some.inj hstep
      rfl
  · split_ifs at hstep
    all_goals
      obtain rfl := Option.some.inj hstep
      rfl
  · obtain rfl := Option.some.inj hstep
    rfl
  · next packets more hloop =>
    obtain rfl := Option.some.inj hstep
    exact processIncomingQueue_stopPhase free taken packets more
  · simp at hstep

/-- `stop` drains the queue on its way into the last phase. -/
lemma stop_drained {taken : Bool} (hstep : s.stop taken = some t)
    (hafter : t.stopPhase = .drained) : t.incomingQueue = [] := by
  unfold TsLwipRelay.stop at hstep
  split at hstep
  · obtain rfl := Option.some.inj hstep
    simp at hafter
  · obtain rfl := Option.some.inj hstep
    simp at hafter
  · obtain rfl := Option.some.inj hstep
    simp at hafter
  · split_ifs at hstep
    obtain rfl := Option.some.inj hstep
    simp at hafter
  · obtain rfl := Option.some.inj hstep
    simp at hafter
  · obtain rfl := Option.some.inj hstep
    rfl
  · simp at hstep

lemma drained_empty (hbefore : s.stopPhase ≠ .drained) (hstep : s.step turn = some t)
    (hafter : t.stopPhase = .drained) : t.incomingQueue = [] := by
  cases turn with
  | arrive packet => exact absurd ((enter_stopPhase hstep).symm.trans hafter) hbefore
  | callback i taken =>
    exact absurd ((handleIncomingPacket_stopPhase hstep).symm.trans hafter) hbefore
  | loop free taken => exact absurd ((runLoop_stopPhase hstep).symm.trans hafter) hbefore
  | addPort taken =>
    obtain rfl := Option.some.inj hstep
    exact absurd ((signalWake_queue s taken).2.symm.trans hafter) hbefore
  | stop taken => exact stop_drained hstep hafter

/-- Without a late push the queue stays empty. -/
theorem run_drained_empty (h : Run step (fun s turn => ¬LatePush s turn) {} s)
    (hdrained : s.stopPhase = .drained) : s.incomingQueue = [] := by
  have hboth : s.Inv ∧ (s.stopPhase = .drained → s.incomingQueue = []) := by
    refine Run.invariant (I := fun t => t.Inv ∧ (t.stopPhase = .drained → t.incomingQueue = []))
      ⟨inv_started, fun _ => rfl⟩ (fun t turn u ht hok hstep => ?_) h
    refine ⟨ht.1.step hstep, fun hu => ?_⟩
    by_cases hbefore : t.stopPhase = .drained
    · obtain ⟨-, hsame | hlate⟩ := after_drain ht.1 hbefore hstep
      · rw [hsame]
        exact ht.2 hbefore
      · exact absurd hlate.1 hok
    · exact drained_empty hbefore hstep hu
  exact hboth.2 hdrained

/-- What is pushed late stays in the queue. -/
theorem run_keeps_late {ok : TsLwipRelay → Turn → Prop} (h : s.Inv)
    (hdrained : s.stopPhase = .drained) (hqueue : s.incomingQueue ≠ [])
    (hrun : Run step ok s t) : t.incomingQueue ≠ [] := by
  have hall : t.Inv ∧ t.stopPhase = .drained ∧ t.incomingQueue ≠ [] := by
    refine Run.invariant (I := fun t => t.Inv ∧ t.stopPhase = .drained ∧ t.incomingQueue ≠ [])
      ⟨h, hdrained, hqueue⟩ (fun v turn u hv _ hstep => ?_) hrun
    obtain ⟨hinv, hphase, hne⟩ := hv
    obtain ⟨hafter, hsame | ⟨-, packet, hpushed⟩⟩ := after_drain hinv hphase hstep
    · exact ⟨hinv.step hstep, hafter, by rwa [hsame]⟩
    · exact ⟨hinv.step hstep, hafter, by simp [hpushed]⟩
  exact hall.2.2

/-! ## The hand-over -/

/-- The slots that lwIP has taken over. -/
def handed (s : TsLwipRelay) : List IncomingSlot :=
  (s.disposed.filter fun entry => entry.2 = .handed).map Prod.fst

/-- Slots are disposed of in arrival order, each at most once; when `stop` and the callbacks
are through, those that were answered with 1 have been, each exactly once; and a loop that
is about to poll over a queue that is not empty has a wake-up coming. -/
structure HandedOver (s : TsLwipRelay) : Prop where
  order : s.disposed.map Prod.fst <+: s.accepted
  handed_order : s.handed.Sublist s.accepted
  settled : s.stopPhase = .drained → s.callbacks = [] →
    (s.disposed.map Prod.fst).Perm s.returned
  wake : s.loop = .polling → s.incomingQueue ≠ [] → s.WakeComing

/-- When all callbacks have returned, the slots answered with 1 are those disposed of and
those still in the loop's hands or in the queue. -/
lemma Inv.returned_perm (h : s.Inv) (hcallbacks : s.callbacks = []) :
    s.returned.Perm (s.disposed.map Prod.fst ++ s.loop.packets ++ s.incomingQueue) := by
  have hreturns := h.returns
  rw [hcallbacks, h.order] at hreturns
  simpa using hreturns

lemma Inv.handedOver (h : s.Inv)
    (hempty : s.stopPhase = .drained → s.incomingQueue = []) : s.HandedOver := by
  have horder : s.disposed.map Prod.fst <+: s.accepted := by
    rw [h.order, List.append_assoc]
    exact List.prefix_append _ _
  constructor
  · exact horder
  · have hfilter : (s.disposed.filter fun entry => entry.2 = .handed).Sublist s.disposed :=
      List.filter_sublist
    exact (hfilter.map Prod.fst).trans horder.sublist
  · intro hdrained hcallbacks
    have hended : s.loop = .ended := h.joined (by rw [hdrained]; rfl)
    have hperm := h.returned_perm hcallbacks
    rw [hempty hdrained, hended] at hperm
    simpa [LoopPhase.packets] using hperm.symm
  · intro hloop
    exact h.wake (by rw [hloop]; rfl)

/-- A slot that is still in the queue has not been disposed of. -/
lemma Inv.not_settled (h : s.Inv) (hqueue : s.incomingQueue ≠ []) (hcallbacks : s.callbacks = []) :
    ¬(s.disposed.map Prod.fst).Perm s.returned := by
  intro hperm
  have hlen := (hperm.trans (h.returned_perm hcallbacks)).length_eq
  have hpos := List.length_pos_iff.mpr hqueue
  simp only [List.length_append] at hlen
  omega

lemma admitted_of_any (h : (s.callbacks[i]?).any Callback.isAdmitted = true) :
    ∃ packet, s.callbacks[i]? = some (.admitted packet) := by
  obtain ⟨c, hc, hadmitted⟩ := (Option.any_eq_true _ _).mp h
  cases c with
  | admitted packet => exact ⟨packet, hc⟩
  | entered packet => simp [Callback.isAdmitted] at hadmitted
  | pushed packet wasEmpty => simp [Callback.isAdmitted] at hadmitted

/-- As long as no callback pushes after the drain, every slot is handed over or released
once.  The first late push loses its slot for good. -/
theorem slots_handed_over (h : Run step (fun s turn => ¬LatePush s turn) {} s) :
    s.HandedOver ∧
      ∀ turn t u, LatePush s turn → s.step turn = some t → Run step (fun _ _ => True) t u →
        u.callbacks = [] → ¬(u.disposed.map Prod.fst).Perm u.returned := by
  have hinv : s.Inv := run_inv h
  refine ⟨hinv.handedOver (run_drained_empty h), ?_⟩
  intro turn t u hlate hstep hrun hcallbacks
  have htinv : t.Inv := hinv.step hstep
  cases turn with
  | callback i taken =>
    obtain ⟨hdrained, hany⟩ := hlate
    obtain ⟨packet, hc⟩ := admitted_of_any hany
    simp only [step, TsLwipRelay.handleIncomingPacket, hc] at hstep
    obtain rfl := Option.some.inj hstep
    have hqueue : u.incomingQueue ≠ [] :=
      run_keeps_late htinv hdrained (by simp [TsLwipRelay.push]) hrun
    have huinv : u.Inv :=
      Run.invariant htinv (fun _ _ _ hv _ hnext => hv.step hnext) hrun
    exact huinv.not_settled hqueue hcallbacks
  | arrive packet => exact hlate.elim
  | loop free taken => exact hlate.elim
  | addPort taken => exact hlate.elim
  | stop taken => exact hlate.elim

def firstSlot : IncomingSlot := ⟨1, 4096, 60⟩

def secondSlot : IncomingSlot := ⟨2, 8192, 60⟩

/-- Two threads push, the loop takes one slot over and `stop` releases the other. -/
def orderlyStop : List Turn :=
  [.arrive firstSlot, .callback 0 true, .callback 0 true, .callback 0 true, .loop true true,
    .loop true true, .loop true true, .loop true true, .loop true true, .loop true true,
    .loop true true, .arrive secondSlot, .callback 0 true, .callback 0 true, .stop true,
    .callback 0 true, .loop true true, .loop true true, .stop true, .stop true, .stop true,
    .stop true, .stop true]

def afterOrderlyStop : TsLwipRelay where
  running := false
  registered := false
  wake := 2
  loop := .ended
  stopPhase := .drained
  accepted := [firstSlot, secondSlot]
  returned := [firstSlot, secondSlot]
  disposed := [(firstSlot, .handed), (secondSlot, .released)]

theorem slots_handed_over_orderly : afterOrderlyStop.HandedOver ∧
    ∀ turn t u, LatePush afterOrderlyStop turn → afterOrderlyStop.step turn = some t →
      Run step (fun _ _ => True) t u → u.callbacks = [] →
        ¬(u.disposed.map Prod.fst).Perm u.returned :=
  slots_handed_over (Run.of_exec_guarded
    (show exec (guarded step fun s turn => ¬s.LatePush turn) {} orderlyStop =
      some afterOrderlyStop by decide +kernel))

/-- A thread is held up between its look at `running_` and the queue, `stop` runs to its end
meanwhile. -/
def stopOvertakes : List Turn :=
  [.arrive firstSlot, .callback 0 true, .stop true, .stop true, .stop true, .loop true true,
    .stop true, .stop true, .stop true, .callback 0 true, .callback 0 true]

def afterOvertaking : TsLwipRelay where
  running := false
  registered := false
  incomingQueue := [firstSlot]
  wake := 1
  loop := .ended
  stopPhase := .drained
  accepted := [firstSlot]
  returned := [firstSlot]

/-- The slot was answered with 1 and nobody will release it. -/
theorem slot_lost_after_stop :
    Run step (fun _ _ => True) {} afterOvertaking ∧ afterOvertaking.stopPhase = .drained ∧
      afterOvertaking.callbacks = [] ∧ firstSlot ∈ afterOvertaking.returned ∧
      firstSlot ∉ afterOvertaking.disposed.map Prod.fst ∧ ¬afterOvertaking.HandedOver := by
  have hexec : exec step {} stopOvertakes = some afterOvertaking := by decide +kernel
  refine ⟨Run.of_exec hexec fun _ _ _ => trivial, rfl, rfl, by decide, by decide, fun h => ?_⟩
  exact absurd (h.settled rfl rfl).length_eq (by decide)

end TsLwipRelay
end ArtemisSwitch.Relay

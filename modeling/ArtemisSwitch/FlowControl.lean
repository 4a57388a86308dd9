import Mathlib.Algebra.BigOperators.Group.List.Basic
import ArtemisSwitch.ControlSession
import ArtemisSwitch.Library.Runs

/-!
# Flow control

`creditData` counts the DATA frames of control against two windows.  At the other end stands a
sender, which spends its credit on the frames and gets it back with the WINDOW_UPDATE frames that
it reads.
-/

namespace ArtemisSwitch.Control
open Transport Http2 Runs
open Noise (Primitives)

/-- The greatest increment, and the greatest window. -/
def maxWindow : ℕ := 2147483647

/-! ## The sender -/

/-- What the sender knows of one window: its credit, all that it has spent, and what it was given
back. -/
structure Account where
  credit : ℤ
  consumed : ℕ := 0
  increments : List ℕ := []
  deriving DecidableEq, Repr

def Account.spend (account : Account) (bytes : ℕ) : Account :=
  { account with credit := account.credit - bytes, consumed := account.consumed + bytes }

def Account.give (account : Account) (increment : ℕ) : Account :=
  { account with
    credit := account.credit + increment
    increments := account.increments ++ [increment] }

/-- The sender of the frames, with the accounts of the connection and of the map stream. -/
structure Sender where
  connection : Account := { credit := kHttp2DefaultWindow }
  stream : Account := { credit := kHttp2DefaultWindow }
  deriving DecidableEq, Repr

namespace Sender

/-- A DATA frame costs its length, on the connection and on its stream. -/
def sendFrame (sender : Sender) (mapStreamId : ℕ) (frame : Http2Frame) : Sender :=
  if frame.type ≠ 0x00 then sender
  else
    { connection := sender.connection.spend frame.length
      stream := if frame.streamId = mapStreamId then sender.stream.spend frame.length
        else sender.stream }

/-- A frame of the client: the initial window of the streams, or an increment. -/
def receiveFrame (mapStreamId : ℕ) (sender : Sender) (frame : Http2Frame) : Sender :=
  if frame.type = 0x04 ∧ frame.payload.take 2 = [0x00, 0x04] then
    { sender with stream := { credit := read32 (frame.payload.drop 2) } }
  else if frame.type = 0x08 then
    if frame.streamId = 0 then
      { sender with connection := sender.connection.give (read32 frame.payload) }
    else if frame.streamId = mapStreamId then
      { sender with stream := sender.stream.give (read32 frame.payload) }
    else sender
  else sender

/-- The bytes of one frame. -/
def receive (mapStreamId : ℕ) (sender : Sender) (bytes : Bytes) : Sender :=
  match Http2FrameDecoder.take bytes with
  | (some frame, _) => sender.receiveFrame mapStreamId frame
  | (none, _) => sender

/-- The frames of a text, so many at most. -/
def receiveAll (mapStreamId : ℕ) : ℕ → Sender → Bytes → Sender
  | 0, sender, _ => sender
  | count + 1, sender, bytes =>
    match Http2FrameDecoder.take bytes with
    | (some frame, rest) =>
      receiveAll mapStreamId count (sender.receiveFrame mapStreamId frame) rest
    | (none, _) => sender

/-- The windows as the preface of the client advertises them; its first line is no frame.  The
first increment is not one that the client gives back. -/
def advertised : Sender :=
  let sender := receiveAll 1 2 {} (buildHttp2ClientPreface.drop 24)
  { connection := { credit := sender.connection.credit }
    stream := { credit := sender.stream.credit } }

lemma advertised_eq : advertised =
    { connection := { credit := kHttp2ClientConnectionWindow }
      stream := { credit := kHttp2ClientStreamWindow } } := by decide +kernel

end Sender

/-! ## One window -/

/-- What holds between the window of the client and the account of the sender. -/
structure Account.Settled (account : Account) (window : Http2ReceiveWindow) : Prop where
  credit_eq : account.credit = window.size - window.unacknowledged
  below_half : 2 * window.unacknowledged < window.size
  consumed_eq : account.consumed = account.increments.sum + window.unacknowledged
  increments_le : ∀ increment ∈ account.increments, 1 ≤ increment ∧ increment ≤ maxWindow

variable {account : Account} {window : Http2ReceiveWindow} {bytes : ℕ}

/-- Below the greatest window nothing is cut off an increment. -/
lemma consume_cases (h : window.size + bytes ≤ maxWindow)
    (hbelow : 2 * window.unacknowledged < window.size) :
    2 * (window.unacknowledged + bytes) < window.size ∧
        window.consume bytes =
          (none, { window with unacknowledged := window.unacknowledged + bytes }) ∨
      1 ≤ window.unacknowledged + bytes ∧ window.unacknowledged + bytes ≤ maxWindow ∧
        window.consume bytes =
          (some (window.unacknowledged + bytes), { window with unacknowledged := 0 }) := by
  unfold Http2ReceiveWindow.consume
  dsimp only
  split_ifs with hkeep
  · exact .inl ⟨by omega, rfl⟩
  · have hmin : min (window.unacknowledged + bytes) 2147483647 = window.unacknowledged + bytes := by
      apply Nat.min_eq_left
      unfold maxWindow at h
      omega
    rw [hmin, Nat.sub_self]
    exact .inr ⟨by omega, by omega, rfl⟩

/-- A frame is spent, counted, and given back at once or later. -/
lemma Account.Settled.consume (hsettled : account.Settled window)
    (h : window.size + bytes ≤ maxWindow) :
    ((window.consume bytes).1.toList.foldl Account.give (account.spend bytes)).Settled
      (window.consume bytes).2 := by
  obtain ⟨hcredit, hbelow, hconsumed, hincrements⟩ := hsettled
  obtain ⟨hless, hnone⟩ | ⟨hpos, hle, hsome⟩ := consume_cases h hbelow
  · rw [hnone]
    refine ⟨?_, hless, ?_, hincrements⟩
    · show account.credit - bytes = window.size - ((window.unacknowledged + bytes : ℕ) : ℤ)
      omega
    · show account.consumed + bytes = account.increments.sum + (window.unacknowledged + bytes)
      omega
  · rw [hsome]
    refine ⟨?_, Nat.zero_lt_of_lt hbelow, ?_, ?_⟩
    · show account.credit - bytes + ((window.unacknowledged + bytes : ℕ) : ℤ) = window.size - 0
      omega
    · show account.consumed + bytes =
        (account.increments ++ [window.unacknowledged + bytes]).sum + 0
      rw [List.sum_append, List.sum_singleton]
      omega
    · show ∀ increment ∈ account.increments ++ [window.unacknowledged + bytes], _
      intro increment hmem
      rcases List.mem_append.mp hmem with hold | hnew
      · exact hincrements increment hold
      · rw [List.mem_singleton.mp hnew]
        exact ⟨hpos, hle⟩

/-! ## Both windows -/

namespace TailscaleControlSession
variable {lib : Primitives} {session : TailscaleControlSession}

/-- `creditData` has nothing to count. -/
def Ignores (session : TailscaleControlSession) (frame : Http2Frame) : Prop :=
  frame.type ≠ 0x00 ∨ frame.length = 0 ∨ session.noise.isNone ∨ session.transport.isNone

instance (session : TailscaleControlSession) (frame : Http2Frame) :
    Decidable (session.Ignores frame) := inferInstanceAs (Decidable (_ ∨ _ ∨ _ ∨ _))

/-- What `consume` returns for the connection, and for the map stream. -/
def increments (session : TailscaleControlSession) (frame : Http2Frame) : Option ℕ × Option ℕ :=
  if session.Ignores frame then (none, none)
  else
    ((session.connectionWindow.consume frame.length).1,
      if session.creditsMapStream frame then (session.mapStreamWindow.consume frame.length).1
      else none)

/-- The WINDOW_UPDATE frames that `creditData` writes. -/
def updates (session : TailscaleControlSession) (frame : Http2Frame) : List Bytes :=
  ((session.increments frame).1.map (buildHttp2WindowUpdate 0)).toList ++
    ((session.increments frame).2.map (buildHttp2WindowUpdate session.mapStreamId)).toList

/-- The session with the frame counted. -/
def counted (session : TailscaleControlSession) (frame : Http2Frame) : TailscaleControlSession :=
  if session.Ignores frame then session
  else
    { session with
      connectionWindow := (session.connectionWindow.consume frame.length).2
      mapStreamWindow := if session.creditsMapStream frame then
        (session.mapStreamWindow.consume frame.length).2 else session.mapStreamWindow }

lemma consume_size (window : Http2ReceiveWindow) (bytes : ℕ) :
    (window.consume bytes).2.size = window.size := by
  unfold Http2ReceiveWindow.consume
  dsimp only
  split_ifs <;> rfl

/-- What counting leaves as it was. -/
structure SameSizes (session session' : TailscaleControlSession) : Prop where
  connection_size : session'.connectionWindow.size = session.connectionWindow.size
  stream_size : session'.mapStreamWindow.size = session.mapStreamWindow.size
  mapStreamId : session'.mapStreamId = session.mapStreamId
  noise : session'.noise = session.noise
  transport : session'.transport = session.transport

lemma counted_sameSizes (session : TailscaleControlSession) (frame : Http2Frame) :
    SameSizes session (session.counted frame) := by
  unfold counted
  split_ifs
  · exact ⟨rfl, rfl, rfl, rfl, rfl⟩
  · exact ⟨consume_size _ _, consume_size _ _, rfl, rfl, rfl⟩
  · exact ⟨consume_size _ _, rfl, rfl, rfl, rfl⟩

lemma creditData_eq (session : TailscaleControlSession) (frame : Http2Frame) :
    session.creditData lib frame =
      (session.counted frame).sendAll lib (session.updates frame) := by
  by_cases h : session.Ignores frame
  · have hcode : frame.type ≠ 0x00 ∨ frame.length = 0 ∨ session.noise.isNone ∨
        session.transport.isNone := h
    rw [creditData, if_pos hcode, counted, if_pos h, updates, increments, if_pos h]
    rfl
  · have hcode : ¬(frame.type ≠ 0x00 ∨ frame.length = 0 ∨ session.noise.isNone ∨
        session.transport.isNone) := h
    rw [creditData, if_neg hcode, counted, if_neg h, updates, increments, if_neg h]
    dsimp only
    split_ifs <;> rfl

lemma creditsMapStream_iff {frame : Http2Frame} (hid : session.mapStreamId ≠ 0)
    (hopen : frame.streamId = session.mapStreamId → frame.flags &&& 1 = 0) :
    session.creditsMapStream frame = true ↔ frame.streamId = session.mapStreamId := by
  unfold creditsMapStream
  simp only [Bool.and_eq_true, decide_eq_true_eq]
  exact ⟨fun h => h.1.1, fun h => ⟨⟨h, by simpa using hid⟩, hopen h⟩⟩

/-- What writing leaves as it was, for the windows. -/
structure SameWindows (session session' : TailscaleControlSession) : Prop where
  connectionWindow : session'.connectionWindow = session.connectionWindow
  mapStreamWindow : session'.mapStreamWindow = session.mapStreamWindow
  mapStreamId : session'.mapStreamId = session.mapStreamId
  noise : session'.noise.isSome = session.noise.isSome
  transport : session'.transport.isSome = session.transport.isSome

lemma send_sameWindows (session : TailscaleControlSession) (plaintext : Bytes) :
    SameWindows session (session.send lib plaintext).2 := by
  unfold send
  split
  · rename_i noise transport hnoise htransport
    rcases noise.frame lib plaintext true with ⟨error | records, noise⟩
    · exact ⟨rfl, rfl, rfl, by simp [hnoise], rfl⟩
    · rcases hanswer : transport.write (Noise.wire records) with ⟨_ | error, written⟩
      all_goals
        simp only [hanswer]
        exact ⟨rfl, rfl, rfl, by simp [hnoise], by simp [htransport]⟩
  · exact ⟨rfl, rfl, rfl, rfl, rfl⟩

lemma sendAll_sameWindows (session : TailscaleControlSession) (updates : List Bytes) :
    SameWindows session (session.sendAll lib updates).2 := by
  induction updates generalizing session with
  | nil => exact ⟨rfl, rfl, rfl, rfl, rfl⟩
  | cons update updates ih =>
    have hfirst := @send_sameWindows lib session update
    rw [sendAll]
    rcases hsend : session.send lib update with ⟨_ | _, sent⟩
    · rw [hsend] at hfirst
      exact hfirst
    · rw [hsend] at hfirst
      obtain ⟨hconnection, hstream, hid, hnoise, htransport⟩ := ih sent
      exact ⟨hconnection.trans hfirst.connectionWindow, hstream.trans hfirst.mapStreamWindow,
        hid.trans hfirst.mapStreamId, hnoise.trans hfirst.noise,
        htransport.trans hfirst.transport⟩

end TailscaleControlSession

/-! ## Increments on the wire -/

lemma consume_le (window : Http2ReceiveWindow) (bytes : ℕ) :
    ∀ increment ∈ (window.consume bytes).1, increment ≤ maxWindow := by
  unfold Http2ReceiveWindow.consume
  dsimp only
  split_ifs
  · simp
  · rintro _ h
    obtain rfl := Option.some.inj h
    exact Nat.min_le_right _ _

namespace Sender
variable {sender : Sender} {mapStreamId streamId increment : ℕ}

lemma receive_encoded {frame : Http2Frame} (h : frame.Legal) :
    sender.receive mapStreamId frame.encoded = sender.receiveFrame mapStreamId frame := by
  rw [← List.append_nil frame.encoded, receive, take_eq_scan,
    Framing.scan_frame_append h.isFrame]
  dsimp only
  rw [frameOf_encoded h]

lemma receiveFrame_windowUpdate (length : ℕ) (flags : UInt8) (payload : Bytes) :
    sender.receiveFrame mapStreamId ⟨length, 0x08, flags, streamId, payload⟩ =
      if streamId = 0 then { sender with connection := sender.connection.give (read32 payload) }
      else if streamId = mapStreamId then
        { sender with stream := sender.stream.give (read32 payload) }
      else sender := by
  rw [receiveFrame, if_neg (by simp), if_pos rfl]

lemma windowUpdate_eq (hstream : streamId ≤ maxWindow) (hincrement : increment ≤ maxWindow) :
    buildHttp2WindowUpdate streamId increment =
      Http2Frame.encoded ⟨4, 0x08, 0x00, streamId, write32 increment⟩ := by
  unfold maxWindow at hstream hincrement
  rw [buildHttp2WindowUpdate, Nat.mod_eq_of_lt (by omega), Nat.mod_eq_of_lt (by omega)]
  rfl

lemma windowUpdate_legal (hstream : streamId ≤ maxWindow) :
    Http2Frame.Legal ⟨4, 0x08, 0x00, streamId, write32 increment⟩ := by
  unfold maxWindow at hstream
  exact ⟨rfl, show 4 ≤ 16384 by decide, show streamId < 2147483648 by omega⟩

lemma read32_increment (hincrement : increment ≤ maxWindow) :
    read32 (write32 increment) = increment := by
  unfold maxWindow at hincrement
  simpa using read32_write32 (show increment < 2147483648 by omega) []

/-- The sender reads the increment that was meant. -/
lemma receive_windowUpdate (hstream : streamId ≤ maxWindow) (hincrement : increment ≤ maxWindow) :
    sender.receive mapStreamId (buildHttp2WindowUpdate streamId increment) =
      if streamId = 0 then { sender with connection := sender.connection.give increment }
      else if streamId = mapStreamId then { sender with stream := sender.stream.give increment }
      else sender := by
  rw [windowUpdate_eq hstream hincrement, receive_encoded (windowUpdate_legal hstream),
    receiveFrame_windowUpdate, read32_increment hincrement]

end Sender

namespace TailscaleControlSession

lemma increments_le (session : TailscaleControlSession) (frame : Http2Frame) :
    (∀ i ∈ (session.increments frame).1, i ≤ maxWindow) ∧
      ∀ i ∈ (session.increments frame).2, i ≤ maxWindow := by
  unfold increments
  split_ifs
  · exact ⟨by simp, by simp⟩
  · exact ⟨consume_le _ _, consume_le _ _⟩
  · exact ⟨consume_le _ _, by simp⟩

/-- A run over at most one element, with the step kept opaque. -/
lemma foldl_toList_map {σ α β : Type} {f : σ → β → σ} {g : α → β} {state : σ} {o : Option α}
    (k : Option α → σ) (hnone : state = k none) (hsome : ∀ a ∈ o, f state (g a) = k (some a)) :
    (o.map g).toList.foldl f state = k o := by
  cases o with
  | none => exact hnone
  | some a => exact hsome a rfl

lemma receive_connection (sender : Sender) (mapStreamId : ℕ) (increment : Option ℕ)
    (h : ∀ i ∈ increment, i ≤ maxWindow) :
    ((increment.map (buildHttp2WindowUpdate 0)).toList).foldl (Sender.receive mapStreamId) sender =
      { sender with connection := increment.toList.foldl Account.give sender.connection } := by
  refine foldl_toList_map (fun given =>
    { sender with connection := given.toList.foldl Account.give sender.connection }) rfl ?_
  intro bytes hbytes
  rw [Sender.receive_windowUpdate (Nat.zero_le maxWindow) (h bytes hbytes), if_pos rfl]
  rfl

lemma receive_stream (sender : Sender) (mapStreamId : ℕ) (increment : Option ℕ)
    (h : ∀ i ∈ increment, i ≤ maxWindow) (hid : mapStreamId ≠ 0) (hmax : mapStreamId ≤ maxWindow) :
    ((increment.map (buildHttp2WindowUpdate mapStreamId)).toList).foldl
        (Sender.receive mapStreamId) sender =
      { sender with stream := increment.toList.foldl Account.give sender.stream } := by
  refine foldl_toList_map (fun given =>
    { sender with stream := given.toList.foldl Account.give sender.stream }) rfl ?_
  intro bytes hbytes
  rw [Sender.receive_windowUpdate hmax (h bytes hbytes), if_neg hid, if_pos rfl]
  rfl

lemma receive_updates (session : TailscaleControlSession) (frame : Http2Frame) (sender : Sender)
    (hid : session.mapStreamId ≠ 0) (hmax : session.mapStreamId ≤ maxWindow) :
    (session.updates frame).foldl (Sender.receive session.mapStreamId) sender =
      { connection := (session.increments frame).1.toList.foldl Account.give sender.connection
        stream := (session.increments frame).2.toList.foldl Account.give sender.stream } := by
  obtain ⟨hfirst, hsecond⟩ := session.increments_le frame
  rw [updates, List.foldl_append, receive_connection _ _ _ hfirst,
    receive_stream _ _ _ hsecond hid hmax]

/-- A fresh connection whose map stream is open. -/
structure MapStreamOpen (session : TailscaleControlSession) : Prop where
  connectionWindow : session.connectionWindow = { size := kHttp2ClientConnectionWindow }
  mapStreamWindow : session.mapStreamWindow = { size := kHttp2ClientStreamWindow }
  mapStreamId_ne : session.mapStreamId ≠ 0
  mapStreamId_le : session.mapStreamId ≤ maxWindow
  noise : session.noise.isSome
  transport : session.transport.isSome

/-- A frame that the decoder may hand over, and that does not end the map stream. -/
structure Admits (session : TailscaleControlSession) (frame : Http2Frame) : Prop where
  length_le : frame.length ≤ Http2FrameDecoder.kMaxFrameSize
  leavesOpen : frame.streamId = session.mapStreamId → frame.flags &&& 1 = 0

end TailscaleControlSession

/-! ## The exchange -/

/-- Both ends of the connection. -/
structure Exchange where
  session : TailscaleControlSession
  sender : Sender

namespace Exchange
variable {lib : Primitives} {exchange : Exchange} {frame : Http2Frame}

/-- A frame is sent and counted, and the sender reads the updates that `creditData` hands to
`sendAll`, as `creditData_eq` says. -/
def step (lib : Primitives) (exchange : Exchange) (frame : Http2Frame) : Exchange where
  session := (exchange.session.creditData lib frame).2
  sender := (exchange.session.updates frame).foldl (Sender.receive exchange.session.mapStreamId)
    (exchange.sender.sendFrame exchange.session.mapStreamId frame)

structure Inv (exchange : Exchange) (mapStreamId : ℕ) : Prop where
  connection : exchange.sender.connection.Settled exchange.session.connectionWindow
  stream : exchange.sender.stream.Settled exchange.session.mapStreamWindow
  connection_size : exchange.session.connectionWindow.size = kHttp2ClientConnectionWindow
  stream_size : exchange.session.mapStreamWindow.size = kHttp2ClientStreamWindow
  mapStreamId_eq : exchange.session.mapStreamId = mapStreamId
  noise : exchange.session.noise.isSome
  transport : exchange.session.transport.isSome

/-- The settings keep every frame below the greatest window. -/
lemma room {window : Http2ReceiveWindow} {bytes : ℕ}
    (hsize : window.size ≤ kHttp2ClientConnectionWindow)
    (hbytes : bytes ≤ Http2FrameDecoder.kMaxFrameSize) : window.size + bytes ≤ maxWindow := by
  unfold kHttp2ClientConnectionWindow at hsize
  unfold Http2FrameDecoder.kMaxFrameSize at hbytes
  unfold maxWindow
  omega

/-- A frame that is not counted costs nothing either. -/
lemma sendFrame_of_ignores {sender : Sender} {session : TailscaleControlSession} {mapStreamId : ℕ}
    (h : session.Ignores frame) (hnoise : session.noise.isSome)
    (htransport : session.transport.isSome) : sender.sendFrame mapStreamId frame = sender := by
  have hspend : ∀ account : Account, account.spend 0 = account := by
    intro account
    simp [Account.spend]
  unfold Sender.sendFrame
  rcases h with htype | hlength | hnone | hnone
  · rw [if_pos htype]
  · rw [hlength, hspend, hspend, ite_self, ite_self]
  · simp [Option.isNone_iff_eq_none.mp hnone] at hnoise
  · simp [Option.isNone_iff_eq_none.mp hnone] at htransport

/-- The two windows, before the frames are written. -/
lemma settled_counted {session : TailscaleControlSession} {sender : Sender}
    (hconnection : sender.connection.Settled session.connectionWindow)
    (hstream : sender.stream.Settled session.mapStreamWindow)
    (hconnectionRoom : session.connectionWindow.size + frame.length ≤ maxWindow)
    (hstreamRoom : session.mapStreamWindow.size + frame.length ≤ maxWindow)
    (hnoise : session.noise.isSome) (htransport : session.transport.isSome)
    (hid : session.mapStreamId ≠ 0) (hframe : session.Admits frame) :
    ((session.increments frame).1.toList.foldl Account.give
        (sender.sendFrame session.mapStreamId frame).connection).Settled
        (session.counted frame).connectionWindow ∧
      ((session.increments frame).2.toList.foldl Account.give
        (sender.sendFrame session.mapStreamId frame).stream).Settled
        (session.counted frame).mapStreamWindow := by
  by_cases hignores : session.Ignores frame
  · rw [sendFrame_of_ignores hignores hnoise htransport, TailscaleControlSession.increments,
      if_pos hignores, TailscaleControlSession.counted, if_pos hignores]
    exact ⟨hconnection, hstream⟩
  · have htype : ¬frame.type ≠ 0x00 := fun h => hignores (.inl h)
    have hcredits := TailscaleControlSession.creditsMapStream_iff hid hframe.leavesOpen
    rw [Sender.sendFrame, if_neg htype, TailscaleControlSession.increments, if_neg hignores,
      TailscaleControlSession.counted, if_neg hignores]
    refine ⟨hconnection.consume hconnectionRoom, ?_⟩
    simp only [hcredits]
    split_ifs
    · exact hstream.consume hstreamRoom
    · exact hstream

/-- One frame. -/
theorem inv_step {mapStreamId : ℕ} (h : exchange.Inv mapStreamId) (hid : mapStreamId ≠ 0)
    (hmax : mapStreamId ≤ maxWindow) (hframe : exchange.session.Admits frame) :
    (exchange.step lib frame).Inv mapStreamId := by
  obtain ⟨hconnection, hstream, hconnectionSize, hstreamSize, rfl, hnoise, htransport⟩ := h
  have hcounted := settled_counted hconnection hstream
    (room hconnectionSize.le hframe.length_le)
    (room (hstreamSize.le.trans (by decide)) hframe.length_le) hnoise htransport hid hframe
  have hsession : (exchange.session.creditData lib frame).2 =
      ((exchange.session.counted frame).sendAll lib (exchange.session.updates frame)).2 := by
    rw [TailscaleControlSession.creditData_eq]
  have hsame := @TailscaleControlSession.sendAll_sameWindows lib (exchange.session.counted frame)
      (exchange.session.updates frame)
  rw [← hsession] at hsame
  have hkept := exchange.session.counted_sameSizes frame
  have hread := TailscaleControlSession.receive_updates exchange.session frame
    (exchange.sender.sendFrame exchange.session.mapStreamId frame) hid hmax
  have hsender : (exchange.step lib frame).sender = _ := hread
  constructor
  · rw [hsender, show (exchange.step lib frame).session.connectionWindow = _ from
      hsame.connectionWindow]
    exact hcounted.1
  · rw [hsender, show (exchange.step lib frame).session.mapStreamWindow = _ from
      hsame.mapStreamWindow]
    exact hcounted.2
  · exact (congrArg _ hsame.connectionWindow).trans
      (hkept.connection_size.trans hconnectionSize)
  · exact (congrArg _ hsame.mapStreamWindow).trans (hkept.stream_size.trans hstreamSize)
  · exact hsame.mapStreamId.trans hkept.mapStreamId
  · exact (hsame.noise.trans (congrArg _ hkept.noise)).trans hnoise
  · exact (hsame.transport.trans (congrArg _ hkept.transport)).trans htransport

/-- The frames one after another, from the windows that the preface advertises. -/
def run (lib : Primitives) (session : TailscaleControlSession) (frames : List Http2Frame) :
    Exchange :=
  frames.foldl (step lib) ⟨session, Sender.advertised⟩

lemma inv_start {session : TailscaleControlSession} (h : session.MapStreamOpen) :
    Inv ⟨session, Sender.advertised⟩ session.mapStreamId := by
  have hsettled : ∀ size : ℕ, 0 < size →
      Account.Settled { credit := size } { size := size } := by
    intro size hsize
    exact ⟨by simp, by simpa using hsize, rfl, by simp⟩
  rw [Sender.advertised_eq]
  constructor
  · rw [h.connectionWindow]
    exact hsettled _ (by decide)
  · rw [h.mapStreamWindow]
    exact hsettled _ (by decide)
  · rw [h.connectionWindow]
  · rw [h.mapStreamWindow]
  · rfl
  · exact h.noise
  · exact h.transport

lemma inv_run {session : TailscaleControlSession} {frames : List Http2Frame}
    (h : session.MapStreamOpen) (hframes : ∀ frame ∈ frames, session.Admits frame) :
    (run lib session frames).Inv session.mapStreamId := by
  refine List.foldlRecOn (motive := fun exchange => Inv exchange session.mapStreamId) frames
    (step lib) (inv_start h) ?_
  intro exchange hinv frame hmem
  have hadmits := hframes frame hmem
  refine inv_step hinv h.mapStreamId_ne h.mapStreamId_le ⟨hadmits.length_le, ?_⟩
  rw [hinv.mapStreamId_eq]
  exact hadmits.leavesOpen

end Exchange

/-- The credit of a window that neither stalls nor is exceeded. -/
structure Account.Flows (account : Account) (window : Http2ReceiveWindow) (size : ℕ) : Prop where
  credit_eq : account.credit = size - window.unacknowledged
  below_half : 2 * window.unacknowledged < size
  half_lt_credit : (size : ℤ) < 2 * account.credit
  credit_le : account.credit ≤ size
  credit_le_max : account.credit ≤ maxWindow
  increments_mem : ∀ increment ∈ account.increments, 1 ≤ increment ∧ increment ≤ maxWindow
  credited_le : account.increments.sum ≤ account.consumed

lemma Account.Settled.flows {size : ℕ} (h : account.Settled window) (hsize : window.size = size)
    (hmax : size ≤ maxWindow) : account.Flows window size := by
  subst hsize
  obtain ⟨hcredit, hbelow, hconsumed, hincrements⟩ := h
  constructor <;> first | assumption | omega

/-- **Flow control neither stalls nor gives too much**, and what the sender reads is what each
call of `creditData` sends. -/
theorem windows_flow (lib : Primitives) (session : TailscaleControlSession)
    (frames : List Http2Frame) (h : session.MapStreamOpen)
    (hframes : ∀ frame ∈ frames, session.Admits frame) :
    (∀ frame, (Exchange.run lib session frames).session.creditData lib frame =
        ((Exchange.run lib session frames).session.counted frame).sendAll lib
          ((Exchange.run lib session frames).session.updates frame)) ∧
      (Exchange.run lib session frames).sender.connection.Flows
        (Exchange.run lib session frames).session.connectionWindow
        kHttp2ClientConnectionWindow ∧
      (Exchange.run lib session frames).sender.stream.Flows
        (Exchange.run lib session frames).session.mapStreamWindow kHttp2ClientStreamWindow := by
  have hinv := @Exchange.inv_run lib session frames h hframes
  exact ⟨TailscaleControlSession.creditData_eq _,
    hinv.connection.flows hinv.connection_size (by decide),
    hinv.stream.flows hinv.stream_size (by decide)⟩

/-- A session after the opening, with its map stream. -/
def openSession : TailscaleControlSession where
  noise := some Noise.readyClient
  transport := some { reads := [] }
  mapStreamId := 3

lemma openSession_mapStreamOpen : openSession.MapStreamOpen :=
  ⟨rfl, rfl, by decide, by decide, rfl, rfl⟩

/-- A long frame of the map stream. -/
def mapFrame : Http2Frame where
  length := Http2FrameDecoder.kMaxFrameSize
  type := 0x00
  flags := 0x00
  streamId := 3
  payload := []

/-- What twenty of them lead to: twelve updates, ten of them for the map stream. -/
def longExchange : Exchange :=
  Exchange.run Noise.toyLibrary openSession (List.replicate 20 mapFrame)

theorem windows_flow_map :
    longExchange.sender.connection.Flows longExchange.session.connectionWindow
        kHttp2ClientConnectionWindow ∧
      longExchange.sender.stream.Flows longExchange.session.mapStreamWindow
        kHttp2ClientStreamWindow ∧
      longExchange.sender.stream.increments = List.replicate 10 2097152 ∧
      longExchange.session.transport.map (·.sent.length) = some 12 := by
  have hadmits : ∀ frame ∈ List.replicate 20 mapFrame, openSession.Admits frame := by
    intro frame hmem
    rw [List.eq_of_mem_replicate hmem]
    exact ⟨le_rfl, fun _ => rfl⟩
  obtain ⟨-, hconnection, hstream⟩ :=
    windows_flow Noise.toyLibrary openSession _ openSession_mapStreamOpen hadmits
  exact ⟨hconnection, hstream, by decide +kernel, by decide +kernel⟩

end ArtemisSwitch.Control

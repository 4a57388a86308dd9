import ArtemisSwitch.ActiveRoutes
import ArtemisSwitch.DataBuffers
import ArtemisSwitch.HostKeyboardShortcuts
import ArtemisSwitch.HostStores
import ArtemisSwitch.Library.Brackets
import ArtemisSwitch.Library.Runs
import ArtemisSwitch.WakeAddresses

/-!
# Wake-on-LAN packets

The wake-on-LAN manager over the calls that it makes to the sockets, whatever they answer.  A
phase says which call may come next; the packet and the ports that it allows are those of
`WakeOnLanTargets`, which works on plain values.
-/

namespace ArtemisSwitch.WakeOnLan
open Brackets HostAddress HostStore HostStores PairingBuffers Runs
open HostKeyboardShortcuts (toupper)

/-! ## `WakeOnLanTargets` -/

/-- The digits in upper case, unless there is anything but separators between them. -/
def macDigits : Bytes → Option Bytes
  | [] => some []
  | ch :: mac =>
    if isxdigit ch then (macDigits mac).map (toupper ch :: ·)
    else if ch = 58 || ch = 45 || isspace ch then macDigits mac
    else none

/-- Twelve digits, or nothing. -/
def normalizeMacAddress (mac : Bytes) : Bytes :=
  match macDigits mac with
  | none => []
  | some normalized =>
    if normalized.length ≠ 12 then []
    else if normalized.all (· = 48) then []
    else normalized

def nibble (c : UInt8) : Option UInt8 :=
  if 48 ≤ c ∧ c ≤ 57 then some (c - 48)
  else if 65 ≤ c ∧ c ≤ 70 then some (c - 65 + 10)
  else if 97 ≤ c ∧ c ≤ 102 then some (c - 97 + 10)
  else none

/-- The loop of `macToBytes`. -/
def nibblePairs : Bytes → Option Bytes
  | hi :: lo :: rest => do
    let hiN ← nibble hi
    let loN ← nibble lo
    let bytes ← nibblePairs rest
    some ((hiN <<< 4 ||| loN) :: bytes)
  | _ => some []

def macToBytes (normalized : Bytes) : Option Bytes :=
  if normalized.length ≠ 12 then none else nibblePairs normalized

def magicPacket (mac : Bytes) : Bytes :=
  List.replicate 6 0xFF ++ (List.replicate 16 mac).flatten

def buildMagicPacket (normalizedMac secureOnPassword : Bytes) : Bytes :=
  match macToBytes (normalizeMacAddress normalizedMac) with
  | none => []
  | some mac =>
    let packet := magicPacket mac
    if secureOnPassword ≠ [] then
      match macToBytes (normalizeMacAddress secureOnPassword) with
      | none => []
      | some pwd => if (packet ++ pwd).length ≠ 102 ∧ (packet ++ pwd).length ≠ 108 then []
        else packet ++ pwd
    else if packet.length ≠ 102 ∧ packet.length ≠ 108 then []
    else packet

def pushUniqueString (out : List Bytes) (v : Bytes) : List Bytes :=
  if v ≠ [] ∧ v ∉ out then out ++ [v] else out

def pushUniquePort (out : List UInt16) (p : UInt16) : List UInt16 :=
  if p ∉ out then out ++ [p] else out

def wakeTargetAddresses (override : WakeOnLanOverride) (hostAddresses : List Bytes) : List Bytes :=
  hostAddresses.foldl pushUniqueString (pushUniqueString [] override.address)

def STATIC_WOL_PORTS : List UInt16 := [9, 47009]

def DYNAMIC_WOL_PORTS : List UInt16 := [47998, 47999, 48000, 48002, 48010]

def basePorts (base : UInt16) : List UInt16 :=
  DYNAMIC_WOL_PORTS.foldl
    (fun ports port => pushUniquePort ports (port - UInt16.ofNat DEFAULT_SUNSHINE_PORT + base))
    (STATIC_WOL_PORTS.foldl pushUniquePort [])

def wakeTargetPorts (override : WakeOnLanOverride) (basePort : UInt16) : List UInt16 :=
  if override.port ≠ 0 then [override.port]
  else basePorts (if basePort ≠ 0 then basePort else UInt16.ofNat DEFAULT_SUNSHINE_PORT)

def hasUsableOverrideMac (override : WakeOnLanOverride) : Bool :=
  normalizeMacAddress override.mac ≠ []

/-! ## What the manager builds -/

/-- The bytes as they lie in memory. -/
def inetNtop (s_addr : UInt32) : Bytes :=
  [46].intercalate ([0, 8, 16, 24].map fun shift => decimal (s_addr.toNat / 2 ^ shift % 256))

/-- `ipConfig` is the address and the mask that `nifmGetCurrentIpConfigInfo` gives. -/
def wakeAddressCandidates (ipConfig : Option (UInt32 × UInt32)) (host : Host)
    (override : WakeOnLanOverride) : List Bytes :=
  let candidates := if override.address ≠ [] then [override.address] else []
  let candidates := host.connectionAddresses.foldl pushUniqueString candidates
  let candidates := match ipConfig with
    | some (ip, subnetMask) => pushUniqueString candidates (inetNtop (ip ||| ~~~subnetMask))
    | none => candidates
  pushUniqueString candidates (ascii "255.255.255.255")

def wakePortCandidates (basePort : UInt16) (override : WakeOnLanOverride) : List UInt16 :=
  if override.port ≠ 0 then [override.port] else basePorts basePort

/-- The loop that copies the address behind the first six bytes. -/
def copyMac (macAddress : Bytes) : (left i : ℕ) → Data → Except Halt Data
  | 0, _, payload => .ok payload
  | left + 1, i, payload => do
    let payload ← payload.write (6 + i * 6) macAddress
    copyMac macAddress left (i + 1) payload

def createPayload (normalizedMac : Bytes) : Except Halt Data := do
  let macAddress ← Data.ofBytes normalizedMac
  let macAddress ← (← macAddress.hexToBytes).copy
  if macAddress.size ≠ 6 then .ok (Data.ofCapacity 0)
  else
    let payload ← (Data.ofCapacity 102).write 0 (List.replicate 6 0xFF)
    copyMac (← macAddress.read 0 macAddress.size) 16 0 payload

/-! ## What it asks of the network -/

inductive Family
  | inet
  | inet6
  | other
  deriving DecidableEq

structure SockAddr where
  family : Family
  address : Bytes
  port : UInt16 := 0
  deriving DecidableEq

/-- One entry of what `getaddrinfo` finds. -/
structure AddrInfo where
  family : Family
  addr : SockAddr
  deriving DecidableEq

/-- A call, and what it gave. -/
inductive Call
  | getaddrinfo (address : Bytes) (result : Option (List AddrInfo))
  | socket (family : Family) (handle : Option ℕ)
  | setsockopt (handle : ℕ) (ok : Bool)
  | sendto (handle : ℕ) (target : SockAddr) (bytes : Bytes) (ok : Bool)
  | close (handle : ℕ)
  | freeaddrinfo (address : Bytes)
  deriving DecidableEq

/-- The answers may depend on all the calls before. -/
structure Network where
  getaddrinfo : List Call → Bytes → Option (List AddrInfo)
  socket : List Call → Family → Option ℕ
  setsockopt : List Call → ℕ → Bool
  sendto : List Call → ℕ → SockAddr → Bytes → Bool
  lastSocketErrorString : List Call → Bytes

def Network.after (n : Network) (earlier : List Call) : Network where
  getaddrinfo calls := n.getaddrinfo (earlier ++ calls)
  socket calls := n.socket (earlier ++ calls)
  setsockopt calls := n.setsockopt (earlier ++ calls)
  sendto calls := n.sendto (earlier ++ calls)
  lastSocketErrorString calls := n.lastSocketErrorString (earlier ++ calls)

def populatePort (address : SockAddr) (port : UInt16) : SockAddr :=
  match address.family with
  | .inet | .inet6 => { address with port := port }
  | .other => address

/-- The variables of `send_magic_packets`, and the calls that it has made. -/
structure Sending where
  lastError : Bytes := ascii "Failed to resolve any wake address"
  packetsSent : ℕ := 0
  calls : List Call := []

namespace Sending

def record (s : Sending) (call : Call) : Sending := { s with calls := s.calls ++ [call] }

def fail (s : Sending) (message : Bytes) : Sending := { s with lastError := message }

section
variable (n : Network) (payload : Bytes)

def failSocket (s : Sending) (what : String) : Sending :=
  s.fail (ascii what ++ n.lastSocketErrorString s.calls)

def sendPacket (s : Sending) (handle : ℕ) (target : SockAddr) : Sending :=
  let ok := n.sendto s.calls handle target payload
  let s := s.record (.sendto handle target payload ok)
  if ok then { s with packetsSent := s.packetsSent + 1 }
  else s.failSocket n "Failed to send magic packet: "

/-- The loop over the ports, which are written into one target. -/
def sendPorts (handle : ℕ) : SockAddr → List UInt16 → Sending → Sending
  | _, [], s => s
  | target, port :: ports, s =>
    let target := populatePort target port
    sendPorts handle target ports (s.sendPacket n payload handle target)

variable (ports : List UInt16)

/-- The body of the loop over what an address was resolved to. -/
def sendTo (s : Sending) (current : AddrInfo) : Sending :=
  let handle := n.socket s.calls current.family
  let s := s.record (.socket current.family handle)
  match handle with
  | none => s.failSocket n "Failed to create wake socket: "
  | some handle =>
    if current.family = .inet then
      let ok := n.setsockopt s.calls handle
      let s := s.record (.setsockopt handle ok)
      if ok then (sendPorts n payload handle current.addr ports s).record (.close handle)
      else (s.failSocket n "Failed to enable broadcast: ").record (.close handle)
    else (sendPorts n payload handle current.addr ports s).record (.close handle)

def sendAddress (s : Sending) (rawAddress : Bytes) : Sending :=
  let result := n.getaddrinfo s.calls rawAddress
  let s := s.record (.getaddrinfo rawAddress result)
  match result with
  | none | some [] => s.fail (ascii "Failed to resolve wake address: " ++ rawAddress)
  | some result => (result.foldl (sendTo n payload ports) s).record (.freeaddrinfo rawAddress)

end

variable (n : Network) (payload : Bytes) (override : WakeOnLanOverride)

/-- The body of the loop over the candidates; `none` when it throws. -/
def sendCandidate (s : Sending) (candidate : Bytes) : Option Sending :=
  (splitAddressAndPort candidate [] DEFAULT_SUNSHINE_PORT).map fun split =>
    if split.ok = false ∨ split.address = [] then s
    else s.sendAddress n payload (wakePortCandidates (UInt16.ofNat split.basePort) override)
      split.address

/-- Whether the loop over the candidates comes to its end. -/
def sendCandidates : List Bytes → Sending → Bool × Sending
  | [], s => (true, s)
  | candidate :: candidates, s =>
    match s.sendCandidate n payload override candidate with
    | none => (false, s)
    | some s => sendCandidates candidates s

end Sending

/-- `thrown` is the exception of a port that is too long, `outside` a touch of foreign memory. -/
inductive Wake
  | success
  | failure (message : Bytes)
  | thrown
  | outside
  deriving DecidableEq

def sendMagicPackets (n : Network) (ipConfig : Option (UInt32 × UInt32)) (host : Host)
    (payload : Data) (override : WakeOnLanOverride) : Wake × List Call :=
  if payload.size = 0 then (.failure (ascii "Magic packet payload is empty"), [])
  else
    -- every `sendto` reads the whole payload
    match payload.read 0 payload.size with
    | .error _ => (.outside, [])
    | .ok bytes =>
      let (finished, s) := Sending.sendCandidates n bytes override
        (wakeAddressCandidates ipConfig host override) {}
      if finished = false then (.thrown, s.calls)
      else if s.packetsSent = 0 then (.failure s.lastError, s.calls)
      else (.success, s.calls)

/-- The address of the override wins over the stored one. -/
def wakeMac (host : Host) (override : WakeOnLanOverride) : Bytes :=
  if normalizeMacAddress override.mac ≠ [] then normalizeMacAddress override.mac
  else normalizeMacAddress host.mac

def canWakeUpHost (host : Host) (override : WakeOnLanOverride) : Bool :=
  if normalizeMacAddress host.mac ≠ [] then true else hasUsableOverrideMac override

/-- `override` is what the store holds for the host. -/
def wakeUpHost (n : Network) (ipConfig : Option (UInt32 × UInt32)) (host : Host)
    (override : WakeOnLanOverride) : Wake × List Call :=
  let normalizedMac := wakeMac host override
  if normalizedMac = [] then (.failure (ascii "Missing or invalid host MAC address"), [])
  else
    match createPayload normalizedMac with
    | .error _ => (.outside, [])
    | .ok payload =>
      if payload.size ≠ 102 then (.failure (ascii "Failed to build Wake-on-LAN payload"), [])
      else sendMagicPackets n ipConfig host payload override

/-! ## Which call may come next -/

inductive Phase
  | idle
  | resolved (address : Bytes) (result : List AddrInfo)
  | opened (address : Bytes) (result : List AddrInfo) (family : Family) (handle : ℕ)
    (broadcast : Bool)
  deriving DecidableEq

/-- Where a socket of the family may send to. -/
def destinations (ports : List UInt16) (result : List AddrInfo) (family : Family) :
    List SockAddr :=
  (result.filter (·.family = family)).flatMap fun current => ports.map (populatePort current.addr)

/-- `ports` are those for an address. -/
def Phase.next (ports : Bytes → List UInt16) (packet : Bytes) : Phase → Call → Option Phase
  | .idle, .getaddrinfo address (some (current :: result)) =>
    some (.resolved address (current :: result))
  | .idle, .getaddrinfo _ _ => some .idle
  | .resolved address result, .socket family handle =>
    match handle with
    | none => some (.resolved address result)
    | some handle => some (.opened address result family handle false)
  | .opened address result family handle _, .setsockopt handle' ok =>
    if handle' = handle then some (.opened address result family handle ok) else none
  | .opened address result family handle broadcast, .sendto handle' target bytes _ =>
    if handle' = handle ∧ bytes = packet ∧ (family = .inet → broadcast = true) ∧
        target ∈ destinations (ports address) result family then
      some (.opened address result family handle broadcast)
    else none
  | .opened address result _ handle _, .close handle' =>
    if handle' = handle then some (.resolved address result) else none
  | .resolved address _, .freeaddrinfo address' => if address' = address then some .idle else none
  | _, _ => none

inductive Resource
  | addresses (of : Bytes)
  | socket (handle : ℕ)
  deriving DecidableEq

def Call.event : Call → Option (Event Resource)
  | .getaddrinfo address (some (_ :: _)) => some (.acquired (.addresses address))
  | .socket _ (some handle) => some (.acquired (.socket handle))
  | .close handle => some (.released (.socket handle))
  | .freeaddrinfo address => some (.released (.addresses address))
  | _ => none

def Phase.held : Phase → List Resource
  | .idle => []
  | .resolved address _ => [.addresses address]
  | .opened address _ _ handle _ => [.socket handle, .addresses address]

def Call.delivered : Call → Bool
  | .sendto _ _ _ ok => ok
  | _ => false

def Call.target : Call → Option SockAddr
  | .sendto _ target _ _ => some target
  | _ => none

/-- The ports that `WakeOnLanTargets` names for an address, with the candidates that have it. -/
def targetPorts (candidates : List Bytes) (override : WakeOnLanOverride) (address : Bytes) :
    List UInt16 :=
  candidates.flatMap fun candidate =>
    match splitAddressAndPort candidate [] DEFAULT_SUNSHINE_PORT with
    | some split =>
      if split.ok = true ∧ split.address = address then
        wakeTargetPorts override (UInt16.ofNat split.basePort)
      else []
    | none => []

variable {n : Network} {ipConfig : Option (UInt32 × UInt32)} {host : Host}
  {override : WakeOnLanOverride} {mac normalized packet out candidate address : Bytes}
  {candidates : List Bytes} {ports : Bytes → List UInt16} {phase phase' : Phase} {call : Call}
  {calls : List Call} {s t : Sending}

/-! ## The packet -/

def upperDigits : Bytes := ascii "0123456789ABCDEF"

lemma toupper_mem {c : UInt8} (h : isxdigit c = true) : toupper c ∈ upperDigits := by
  have hall : ∀ i : Fin 256, isxdigit (UInt8.ofNat i) = true →
      toupper (UInt8.ofNat i) ∈ upperDigits := by decide +kernel
  have hc := hall ⟨c.toNat, c.toNat_lt⟩
  rw [UInt8.ofNat_toNat] at hc
  exact hc h

lemma upper_digit : ∀ c ∈ upperDigits, isxdigit c = true ∧ toupper c = c := by decide +kernel

/-- The nibbles are put together as `strtoul` does. -/
lemma nibble_pair : ∀ hi ∈ upperDigits, ∀ lo ∈ upperDigits,
    (do let hiN ← nibble hi
        let loN ← nibble lo
        some (hiN <<< 4 ||| loN)) = some (Pairing.hexPair hi lo) := by decide +kernel

lemma upper_of_macDigits (h : macDigits mac = some normalized) :
    ∀ c ∈ normalized, c ∈ upperDigits := by
  induction mac generalizing normalized with
  | nil =>
    obtain rfl := Option.some.inj h
    exact fun c hc => absurd hc List.not_mem_nil
  | cons ch mac ih =>
    unfold macDigits at h
    split_ifs at h with hdigit
    · obtain ⟨rest, hrest, rfl⟩ := Option.map_eq_some_iff.mp h
      rw [List.forall_mem_cons]
      exact ⟨toupper_mem hdigit, ih hrest⟩
    · exact ih h

lemma macDigits_of_upper (h : ∀ c ∈ normalized, c ∈ upperDigits) :
    macDigits normalized = some normalized := by
  induction normalized with
  | nil => rfl
  | cons c normalized ih =>
    obtain ⟨hc, hrest⟩ := List.forall_mem_cons.mp h
    obtain ⟨hdigit, hupper⟩ := upper_digit c hc
    rw [macDigits, if_pos hdigit, ih hrest, Option.map_some, hupper]

/-- The digits of an address that is usable are normal. -/
lemma normalizeMacAddress_eq (h : normalizeMacAddress mac ≠ []) :
    macDigits mac = some (normalizeMacAddress mac) := by
  unfold normalizeMacAddress at h ⊢
  cases hdigits : macDigits mac with
  | none =>
    rw [hdigits] at h
    exact absurd rfl h
  | some normalized =>
    rw [hdigits] at h
    dsimp only at h ⊢
    by_cases hlength : normalized.length ≠ 12
    · exact absurd (if_pos hlength) h
    · rw [if_neg hlength] at h ⊢
      by_cases hzero : normalized.all (· = 48)
      · exact absurd (if_pos hzero) h
      · rw [if_neg hzero]

/-- What is usable comes out as twelve digits in upper case. -/
lemma normalizeMacAddress_digits (h : normalizeMacAddress mac ≠ []) :
    (normalizeMacAddress mac).length = 12 ∧ ∀ c ∈ normalizeMacAddress mac, c ∈ upperDigits := by
  have hdigits := normalizeMacAddress_eq h
  refine ⟨?_, upper_of_macDigits hdigits⟩
  by_contra hlength
  refine h ?_
  rw [normalizeMacAddress, hdigits]
  exact if_pos hlength

lemma normalizeMacAddress_idem (mac : Bytes) :
    normalizeMacAddress (normalizeMacAddress mac) = normalizeMacAddress mac := by
  by_cases h : normalizeMacAddress mac = []
  · rw [h]
    rfl
  · have hagain := macDigits_of_upper (normalizeMacAddress_digits h).2
    have hdigits := normalizeMacAddress_eq h
    -- both sides look at the same digits
    conv_lhs => rw [normalizeMacAddress, hagain]
    conv_rhs => rw [normalizeMacAddress, hdigits]

lemma nibblePairs_upper (h : ∀ c ∈ normalized, c ∈ upperDigits) :
    nibblePairs normalized = some (Pairing.hexToBytes normalized) := by
  induction normalized using Pairing.hexToBytes.induct with
  | case1 high low rest ih =>
    rw [List.forall_mem_cons, List.forall_mem_cons] at h
    obtain ⟨hhigh, hlow, hrest⟩ := h
    obtain ⟨hiN, hhiN, hpair⟩ := Option.bind_eq_some_iff.mp (nibble_pair high hhigh low hlow)
    obtain ⟨loN, hloN, hpair⟩ := Option.bind_eq_some_iff.mp hpair
    rw [nibblePairs, Pairing.hexToBytes, ih hrest, hhiN, hloN, ← Option.some.inj hpair]
    rfl
  | case2 rest hrest =>
    rcases rest with _ | ⟨c, _ | ⟨c', rest⟩⟩
    · rfl
    · rfl
    · exact absurd rfl (hrest c c' rest)

lemma length_magicPacket (h : mac.length = 6) : (magicPacket mac).length = 102 := by
  simp [magicPacket, h]

/-- Without a password the packet ends behind the sixteen copies. -/
lemma buildMagicPacket_eq (h : normalizeMacAddress mac ≠ []) :
    buildMagicPacket mac [] = magicPacket (Pairing.hexToBytes (normalizeMacAddress mac)) := by
  obtain ⟨hlength, hupper⟩ := normalizeMacAddress_digits h
  have hbytes : macToBytes (normalizeMacAddress mac) =
      some (Pairing.hexToBytes (normalizeMacAddress mac)) := by
    rw [macToBytes, if_neg (not_not.mpr hlength), nibblePairs_upper hupper]
  have hsix : (Pairing.hexToBytes (normalizeMacAddress mac)).length = 6 := by
    rw [Data.length_hexToBytes, hlength]
  rw [buildMagicPacket, hbytes]
  simp [length_magicPacket hsix]

/-- The copies that are still missing are written behind those in the payload. -/
lemma copyMac_eq (hmac : mac.length = 6) (left : ℕ) :
    ∀ i out, out.length = 6 + i * 6 →
      copyMac mac left i
          { block := some (Cells.filled out ++ Cells.filled (List.replicate (left * 6 + 1) 0))
            size := 102 } =
        .ok
          { block := some (Cells.filled (out ++ (List.replicate left mac).flatten) ++ [some 0])
            size := 102 } := by
  induction left with
  | zero =>
    intro i out _
    rw [copyMac, List.replicate_zero, List.flatten_nil, List.append_nil]
    rfl
  | succ left ih =>
    intro i out hout
    have hpad : (left + 1) * 6 + 1 = 6 + (left * 6 + 1) := by omega
    have hstore : Cells.store (Cells.filled out ++
        (Cells.filled (List.replicate 6 0) ++ Cells.filled (List.replicate (left * 6 + 1) 0)))
          (6 + i * 6) mac =
        some (Cells.filled out ++
          (Cells.filled mac ++ Cells.filled (List.replicate (left * 6 + 1) 0))) :=
      Cells.store_middle (by rw [Cells.length_filled, hout]) (by simp [hmac])
    have hnext : (out ++ mac).length = 6 + (i + 1) * 6 := by
      rw [List.length_append, hout, hmac]
      omega
    rw [copyMac, hpad, Data.filled_zeros, Data.write_eq rfl hstore, ok_bind]
    rw [← List.append_assoc, ← Cells.filled_append, ih (i + 1) (out ++ mac) hnext,
      List.replicate_succ, List.flatten_cons, List.append_assoc]

lemma gives_createPayload (hlength : normalized.length = 12) :
    Gives (createPayload normalized) (magicPacket (Pairing.hexToBytes normalized)) := by
  have hsix : (Pairing.hexToBytes normalized).length = 6 := by
    rw [Data.length_hexToBytes, hlength]
  obtain ⟨text, htext, htextHolds⟩ := Data.gives_ofBytes normalized
  obtain ⟨bytes, hbytes, hbytesHolds⟩ := Data.gives_hexToBytes htextHolds
  obtain ⟨macAddress, hcopy, hmacHolds⟩ := Data.gives_copy hbytesHolds
  have hblock : (Data.ofCapacity 102).block = some (Cells.filled (List.replicate 6 0) ++
      Cells.filled (List.replicate (16 * 6 + 1) 0)) := by
    rw [← Data.filled_zeros]
    rfl
  have hzeros : (Cells.filled (List.replicate 6 (0 : UInt8))).length =
      (List.replicate 6 (0xFF : UInt8)).length := by
    rw [Cells.length_filled, List.length_replicate, List.length_replicate]
  have hstore : Cells.store (Cells.filled (List.replicate 6 (0 : UInt8)) ++
      Cells.filled (List.replicate (16 * 6 + 1) 0)) 0 (List.replicate 6 0xFF) =
        some (Cells.filled (List.replicate 6 0xFF) ++
          Cells.filled (List.replicate (16 * 6 + 1) 0)) :=
    @Cells.store_middle _ _ _ _ [] _ rfl hzeros
  have hsize : ¬macAddress.size ≠ 6 := by rw [hmacHolds.size, hsix, not_not]
  refine ⟨{ block := some (Cells.filled (magicPacket (Pairing.hexToBytes normalized)) ++ [some 0])
            size := 102 }, ?_, ⟨(length_magicPacket hsix).symm, .inr ⟨0, rfl⟩⟩⟩
  rw [createPayload, htext, ok_bind, hbytes, ok_bind, hcopy, ok_bind, if_neg hsize,
    Data.write_eq hblock hstore, ok_bind, Data.read_all hmacHolds, ok_bind]
  exact copyMac_eq hsix 16 0 _ rfl

/-! ## The ports -/

lemma tryParsePort_range {text : Bytes} {port : ℕ} (h : tryParsePort text = some (some port)) :
    1 ≤ port ∧ port ≤ 65535 := by
  unfold tryParsePort at h
  split_ifs at h with htext
  · cases h
  · obtain ⟨parsedPort, -, hport⟩ := Option.bind_eq_some_iff.mp h
    split_ifs at hport with hrange
    · cases hport
    · obtain rfl := Option.some.inj (Option.some.inj hport)
      omega

lemma splitBracketed_range {s : Bytes} {split : Split} (h : splitBracketed s address = some split)
    (hok : split.ok = true) : 1 ≤ split.basePort ∧ split.basePort ≤ 65535 := by
  unfold splitBracketed at h
  cases hfind : SplitLoops.find s closingBracket 0 with
  | none =>
    rw [hfind] at h
    obtain rfl := Option.some.inj h
    cases hok
  | some close =>
    rw [hfind] at h
    obtain ⟨front, -, h⟩ := Option.bind_eq_some_iff.mp h
    cases hnext : s[close + 1]? with
    | none =>
      rw [hnext] at h
      obtain rfl := Option.some.inj h
      simp [DEFAULT_SUNSHINE_PORT]
    | some c =>
      rw [hnext] at h
      dsimp only at h
      split_ifs at h with hcolon
      · obtain ⟨text, -, h⟩ := Option.bind_eq_some_iff.mp h
        obtain ⟨port, hport, h⟩ := Option.bind_eq_some_iff.mp h
        obtain rfl := Option.some.inj h
        obtain ⟨p, rfl⟩ := Option.isSome_iff_exists.mp hok
        exact tryParsePort_range hport
      · obtain rfl := Option.some.inj h
        cases hok

lemma splitBare_range {s : Bytes} {split : Split} (h : splitBare s = some split) :
    1 ≤ split.basePort ∧ split.basePort ≤ 65535 := by
  obtain ⟨port, hport, h⟩ := Option.bind_eq_some_iff.mp h
  cases port with
  | none =>
    obtain rfl := Option.some.inj h
    simp [DEFAULT_SUNSHINE_PORT]
  | some port =>
    obtain ⟨front, -, h⟩ := Option.bind_eq_some_iff.mp h
    obtain rfl := Option.some.inj h
    unfold splitPort at hport
    split_ifs at hport with hcount
    · cases hfind : SplitLoops.rfind s colon with
      | none =>
        rw [hfind] at hport
        cases hport
      | some separator =>
        rw [hfind] at hport
        obtain ⟨text, -, hport⟩ := Option.bind_eq_some_iff.mp hport
        obtain ⟨parsed, hparsed, hport⟩ := Option.bind_eq_some_iff.mp hport
        obtain ⟨p, rfl, hp⟩ := Option.map_eq_some_iff.mp (Option.some.inj hport)
        rw [← hp]
        exact tryParsePort_range hparsed
    · cases hport

lemma split_range {basePort : ℕ} {split : Split}
    (h : splitAddressAndPort candidate address basePort = some split) (hok : split.ok = true) :
    1 ≤ split.basePort ∧ split.basePort ≤ 65535 := by
  unfold splitAddressAndPort at h
  split_ifs at h
  · obtain rfl := Option.some.inj h
    cases hok
  · exact splitBracketed_range h hok
  · exact splitBare_range h

/-- A port that was read is never the zero that stands for the default. -/
lemma wakePortCandidates_eq {basePort : ℕ} {split : Split}
    (h : splitAddressAndPort candidate address basePort = some split) (hok : split.ok = true) :
    wakePortCandidates (UInt16.ofNat split.basePort) override =
      wakeTargetPorts override (UInt16.ofNat split.basePort) := by
  obtain ⟨hpos, hle⟩ := split_range h hok
  have hne : UInt16.ofNat split.basePort ≠ 0 := by
    intro hzero
    have hnat := congrArg UInt16.toNat hzero
    rw [UInt16.toNat_ofNat_of_lt' (by change _ < 65536; omega)] at hnat
    exact absurd hnat (by change split.basePort ≠ 0; omega)
  rw [wakePortCandidates, wakeTargetPorts, if_pos hne]

lemma mem_targetPorts {split : Split} (hmem : candidate ∈ candidates)
    (h : splitAddressAndPort candidate [] DEFAULT_SUNSHINE_PORT = some split)
    (hok : split.ok = true) {port : UInt16}
    (hport : port ∈ wakePortCandidates (UInt16.ofNat split.basePort) override) :
    port ∈ targetPorts candidates override split.address := by
  refine List.mem_flatMap.mpr ⟨candidate, hmem, ?_⟩
  rw [h]
  dsimp only
  rw [if_pos ⟨hok, rfl⟩, ← wakePortCandidates_eq h hok]
  exact hport

/-! ## Every call comes in its turn -/

@[simp] lemma populatePort_populatePort (target : SockAddr) (p q : UInt16) :
    populatePort (populatePort target p) q = populatePort target q := by
  obtain ⟨family, address, port⟩ := target
  cases family <;> rfl

lemma mem_destinations {result : List AddrInfo} {current : AddrInfo} {allowed : List UInt16}
    {port : UInt16} (hmem : current ∈ result) (hport : port ∈ allowed) :
    populatePort current.addr port ∈ destinations allowed result current.family := by
  refine List.mem_flatMap.mpr ⟨current, ?_, List.mem_map_of_mem hport⟩
  rw [List.mem_filter, decide_eq_true_iff]
  exact ⟨hmem, rfl⟩

/-- The calls so far lead to the phase, and the packets are counted. -/
structure Sound (ports : Bytes → List UInt16) (packet : Bytes) (phase : Phase) (s : Sending) :
    Prop where
  run : exec (Phase.next ports packet) .idle s.calls = some phase
  count : s.packetsSent = s.calls.countP Call.delivered

namespace Sound

lemma record (h : Sound ports packet phase s) (hcall : call.delivered = false)
    (hnext : phase.next ports packet call = some phase') :
    Sound ports packet phase' (s.record call) where
  run := by
    exact (exec_snoc h.run call).trans hnext
  count := by
    change s.packetsSent = (s.calls ++ [call]).countP _
    rw [h.count, List.countP_append, List.countP_singleton, hcall]
    rfl

lemma fail (h : Sound ports packet phase s) (message : Bytes) :
    Sound ports packet phase (s.fail message) := ⟨h.run, h.count⟩

variable {result : List AddrInfo} {family : Family} {handle : ℕ} {broadcast : Bool}

lemma sendPacket {target : SockAddr}
    (h : Sound ports packet (.opened address result family handle broadcast) s)
    (hbroadcast : family = .inet → broadcast = true)
    (htarget : target ∈ destinations (ports address) result family) :
    Sound ports packet (.opened address result family handle broadcast)
      (s.sendPacket n packet handle target) := by
  have hnext (ok : Bool) :
      (Phase.opened address result family handle broadcast).next ports packet
        (Call.sendto handle target packet ok) =
          some (.opened address result family handle broadcast) :=
    if_pos ⟨rfl, rfl, hbroadcast, htarget⟩
  unfold Sending.sendPacket
  cases hok : n.sendto s.calls handle target packet with
  | false => exact (h.record rfl (hnext false)).fail _
  | true =>
    refine ⟨?_, ?_⟩
    · exact (exec_snoc h.run _).trans (hnext true)
    · change s.packetsSent + 1 = (s.calls ++ [Call.sendto handle target packet true]).countP _
      rw [h.count, List.countP_append, List.countP_singleton]
      rfl

/-- The target keeps all but the port that was written last. -/
lemma sendPorts {current : AddrInfo} (hmem : current ∈ result)
    (hbroadcast : current.family = .inet → broadcast = true) (allowed : List UInt16) :
    ∀ (target : SockAddr) (s : Sending),
      (∀ port ∈ allowed, port ∈ ports address) →
      (∀ port, populatePort target port = populatePort current.addr port) →
      Sound ports packet (.opened address result current.family handle broadcast) s →
      Sound ports packet (.opened address result current.family handle broadcast)
        (Sending.sendPorts n packet handle target allowed s) := by
  induction allowed with
  | nil => exact fun _ _ _ _ h => h
  | cons port allowed ih =>
    intro target s hallowed htarget h
    obtain ⟨hport, hrest⟩ := List.forall_mem_cons.mp hallowed
    refine ih _ _ hrest (fun p => ?_) (h.sendPacket hbroadcast ?_)
    · rw [populatePort_populatePort, htarget]
    · rw [htarget]
      exact mem_destinations hmem hport

lemma close (h : Sound ports packet (.opened address result family handle broadcast) s) :
    Sound ports packet (.resolved address result) (s.record (.close handle)) :=
  h.record rfl (if_pos rfl)

/-- Whatever the socket does, it is closed. -/
lemma sendTo {current : AddrInfo} {allowed : List UInt16} (hmem : current ∈ result)
    (hallowed : ∀ port ∈ allowed, port ∈ ports address)
    (h : Sound ports packet (.resolved address result) s) :
    Sound ports packet (.resolved address result) (s.sendTo n packet allowed current) := by
  unfold Sending.sendTo
  cases hsocket : n.socket s.calls current.family with
  | none => exact (h.record rfl rfl).fail _
  | some handle =>
    have hopened : Sound ports packet (.opened address result current.family handle false)
        (s.record (.socket current.family (some handle))) := h.record rfl rfl
    dsimp only
    split_ifs with hinet hok
    · rw [hok]
      have henabled : Sound ports packet (.opened address result current.family handle true)
          ((s.record (.socket current.family (some handle))).record (.setsockopt handle true)) :=
        hopened.record rfl (if_pos rfl)
      exact (henabled.sendPorts hmem (fun _ => rfl) allowed _ _ hallowed fun _ => rfl).close
    · rw [Bool.not_eq_true] at hok
      rw [hok]
      have hrefused : Sound ports packet (.opened address result current.family handle false)
          ((s.record (.socket current.family (some handle))).record (.setsockopt handle false)) :=
        hopened.record rfl (if_pos rfl)
      exact (hrefused.fail _).close
    · exact (hopened.sendPorts hmem (fun heq => absurd heq hinet) allowed _ _ hallowed
        fun _ => rfl).close

lemma sendToAll {allowed : List UInt16} (hallowed : ∀ port ∈ allowed, port ∈ ports address)
    (rest : List AddrInfo) : ∀ s, (∀ current ∈ rest, current ∈ result) →
      Sound ports packet (.resolved address result) s →
      Sound ports packet (.resolved address result)
        (rest.foldl (Sending.sendTo n packet allowed) s) := by
  induction rest with
  | nil => exact fun _ _ h => h
  | cons current rest ih =>
    intro s hmem h
    obtain ⟨hcurrent, hrest⟩ := List.forall_mem_cons.mp hmem
    exact ih _ hrest (h.sendTo hcurrent hallowed)

lemma sendAddress {allowed : List UInt16} (hallowed : ∀ port ∈ allowed, port ∈ ports address)
    (h : Sound ports packet .idle s) :
    Sound ports packet .idle (s.sendAddress n packet allowed address) := by
  unfold Sending.sendAddress
  rcases hresult : n.getaddrinfo s.calls address with _ | _ | ⟨current, result⟩
  · exact (h.record rfl rfl).fail _
  · exact (h.record rfl rfl).fail _
  · have hresolved : Sound ports packet (.resolved address (current :: result))
        (s.record (.getaddrinfo address (some (current :: result)))) := h.record rfl rfl
    have hsent := hresolved.sendToAll (n := n) hallowed (current :: result) _ fun _ hmem => hmem
    exact hsent.record rfl (if_pos rfl)

lemma sendCandidates (rest : List Bytes) : ∀ s, (∀ candidate ∈ rest, candidate ∈ candidates) →
    Sound (targetPorts candidates override) packet .idle s →
    Sound (targetPorts candidates override) packet .idle
      (Sending.sendCandidates n packet override rest s).2 := by
  induction rest with
  | nil => exact fun _ _ h => h
  | cons candidate rest ih =>
    intro s hmem h
    obtain ⟨hcandidate, hrest⟩ := List.forall_mem_cons.mp hmem
    unfold Sending.sendCandidates Sending.sendCandidate
    cases hsplit : splitAddressAndPort candidate [] DEFAULT_SUNSHINE_PORT with
    | none => exact h
    | some split =>
      refine ih _ hrest ?_
      dsimp only
      split_ifs with hskip
      · exact h
      · rw [not_or, Bool.not_eq_false] at hskip
        exact h.sendAddress fun _ hport => mem_targetPorts hcandidate hsplit hskip.1 hport

end Sound

/-! ## What is held -/

lemma held_next (h : phase.next ports packet call = some phase') (rest : List (Event Resource)) :
    heldFrom phase.held (call.event.toList ++ rest) = heldFrom phase'.held rest := by
  -- the cases are the branches of `Phase.next`, in its order
  unfold Phase.next at h
  split at h
  · obtain rfl := Option.some.inj h
    rfl
  · next result hresult =>
    -- nothing was found, and nothing is to be freed
    obtain rfl := Option.some.inj h
    rcases result with _ | _ | ⟨current, result⟩
    · rfl
    · rfl
    · exact absurd rfl (hresult current result)
  · next handle =>
    cases handle with
    | none =>
      obtain rfl := Option.some.inj h
      rfl
    | some handle =>
      obtain rfl := Option.some.inj h
      rfl
  · split_ifs at h
    obtain rfl := Option.some.inj h
    rfl
  · split_ifs at h
    obtain rfl := Option.some.inj h
    rfl
  · split_ifs at h with hhandle
    obtain rfl := Option.some.inj h
    rw [hhandle]
    exact heldFrom_released
  · split_ifs at h with haddress
    obtain rfl := Option.some.inj h
    rw [haddress]
    exact heldFrom_released
  · cases h

/-- The calls of a run are nested, and the phase knows what is held. -/
lemma held_run (h : exec (Phase.next ports packet) phase calls = some phase') :
    heldFrom phase.held (calls.filterMap Call.event) = some phase'.held := by
  induction calls generalizing phase with
  | nil =>
    obtain rfl := Option.some.inj h
    rfl
  | cons call calls ih =>
    obtain ⟨mid, hmid, hrest⟩ := Option.bind_eq_some_iff.mp h
    have hsplit : (call :: calls).filterMap Call.event =
        call.event.toList ++ calls.filterMap Call.event := by
      rw [List.filterMap_cons]
      cases call.event <;> rfl
    rw [hsplit, held_next hmid, ih hrest]

/-! ## The candidates -/

lemma mem_pushUniqueString {list : List Bytes} {v a : Bytes} :
    a ∈ pushUniqueString list v ↔ a ∈ list ∨ (a = v ∧ v ≠ []) := by
  unfold pushUniqueString
  split_ifs with hnew
  · rw [List.mem_append, List.mem_singleton]
    simp [hnew.1]
  · have hold : v ≠ [] → v ∈ list := by
      intro hne
      by_contra hnot
      exact hnew ⟨hne, hnot⟩
    refine ⟨.inl, ?_⟩
    rintro (hmem | ⟨rfl, hne⟩)
    · exact hmem
    · exact hold hne

lemma mem_foldl_pushUniqueString {list values : List Bytes} {a : Bytes} :
    a ∈ values.foldl pushUniqueString list ↔ a ∈ list ∨ (a ∈ values ∧ a ≠ []) := by
  induction values generalizing list with
  | nil => simp
  | cons v values ih =>
    rw [List.foldl_cons, ih, mem_pushUniqueString, List.mem_cons]
    constructor
    · rintro ((hmem | ⟨rfl, hne⟩) | ⟨hmem, hne⟩)
      · exact .inl hmem
      · exact .inr ⟨.inl rfl, hne⟩
      · exact .inr ⟨.inr hmem, hne⟩
    · rintro (hmem | ⟨rfl | hmem, hne⟩)
      · exact .inl (.inl hmem)
      · exact .inl (.inr ⟨rfl, hne⟩)
      · exact .inr ⟨hmem, hne⟩

lemma wakeTargetAddresses_eq (override : WakeOnLanOverride) (hostAddresses : List Bytes) :
    wakeTargetAddresses override hostAddresses = hostAddresses.foldl pushUniqueString
      (if override.address ≠ [] then [override.address] else []) := by
  rw [wakeTargetAddresses, pushUniqueString]
  simp

/-- What the manager adds to the targets. -/
def broadcasts (ipConfig : Option (UInt32 × UInt32)) : List Bytes :=
  (ipConfig.map fun (ip, subnetMask) => inetNtop (ip ||| ~~~subnetMask)).toList ++
    [ascii "255.255.255.255"]

lemma wakeAddressCandidates_eq : wakeAddressCandidates ipConfig host override =
    (broadcasts ipConfig).foldl pushUniqueString
      (wakeTargetAddresses override host.connectionAddresses) := by
  rw [wakeTargetAddresses_eq]
  cases ipConfig <;> rfl

lemma nodup_foldl_pushUniqueString {list : List Bytes} (h : list.Nodup) (values : List Bytes) :
    (values.foldl pushUniqueString list).Nodup := by
  refine foldl_invariant (I := List.Nodup) (fun list v hlist => ?_) values h
  unfold pushUniqueString
  split_ifs with hnew
  · exact List.nodup_append.mpr ⟨hlist, List.nodup_singleton v, fun a ha b hb heq =>
      hnew.2 (List.mem_singleton.mp hb ▸ heq ▸ ha)⟩
  · exact hlist

lemma prefix_foldl_pushUniqueString (list values : List Bytes) :
    list <+: values.foldl pushUniqueString list := by
  refine foldl_invariant (I := fun more => list <+: more) (fun more v hmore => ?_) values
    (List.prefix_refl list)
  unfold pushUniqueString
  split_ifs
  · exact hmore.trans (List.prefix_append more [v])
  · exact hmore

lemma colon_notMem_inetNtop (s_addr : UInt32) : colon ∉ inetNtop s_addr := by
  unfold inetNtop
  simp only [List.map_cons, List.map_nil, List.intercalate, List.intersperse, List.flatten_cons,
    List.flatten_nil, List.append_nil, List.mem_append, not_or]
  have hdecimal := colon_notMem_decimal
  exact ⟨hdecimal _, by decide, hdecimal _, by decide, hdecimal _, by decide, hdecimal _⟩

lemma colon_mem_of_overlong {a : Bytes} (h : Overlong a) : colon ∈ a := by
  obtain ⟨front, digits, rfl, -⟩ := h
  simp

lemma inetNtop_ne_nil (s_addr : UInt32) : inetNtop s_addr ≠ [] := by
  simp [inetNtop, List.intercalate]

/-- Only an address of the override or of the host can have too many digits. -/
lemma overlong_candidate_iff :
    (∃ candidate ∈ wakeAddressCandidates ipConfig host override, Overlong candidate) ↔
      ∃ a ∈ override.address :: host.connectionAddresses, Overlong a := by
  have hbroadcast {a : Bytes} (ha : a ∈ broadcasts ipConfig) : colon ∉ a := by
    rcases List.mem_append.mp ha with hmem | hmem
    · obtain ⟨config, -, rfl⟩ := Option.map_eq_some_iff.mp (Option.mem_toList.mp hmem)
      exact colon_notMem_inetNtop _
    · rw [List.mem_singleton.mp hmem]
      decide
  constructor
  · rintro ⟨candidate, hmem, hoverlong⟩
    rw [wakeAddressCandidates_eq, mem_foldl_pushUniqueString, wakeTargetAddresses,
      mem_foldl_pushUniqueString, mem_pushUniqueString] at hmem
    refine ⟨candidate, ?_, hoverlong⟩
    rcases hmem with ((hmem | ⟨rfl, -⟩) | ⟨hmem, -⟩) | ⟨hmem, -⟩
    · exact absurd hmem List.not_mem_nil
    · exact List.mem_cons_self
    · exact List.mem_cons_of_mem _ hmem
    · exact absurd (colon_mem_of_overlong hoverlong) (hbroadcast hmem)
  · rintro ⟨a, hmem, hoverlong⟩
    have hne : a ≠ [] := List.ne_nil_of_mem (colon_mem_of_overlong hoverlong)
    refine ⟨a, ?_, hoverlong⟩
    rw [wakeAddressCandidates_eq, mem_foldl_pushUniqueString, wakeTargetAddresses,
      mem_foldl_pushUniqueString, mem_pushUniqueString]
    rcases List.mem_cons.mp hmem with rfl | hmem
    · exact .inl (.inl (.inr ⟨rfl, hne⟩))
    · exact .inl (.inr ⟨hmem, hne⟩)

/-! ## The whole wake -/

lemma sendCandidates_thrown (candidates : List Bytes) : ∀ s,
    (Sending.sendCandidates n packet override candidates s).1 = false ↔
      ∃ candidate ∈ candidates, Overlong candidate := by
  induction candidates with
  | nil =>
    intro s
    refine iff_of_false Bool.noConfusion ?_
    rintro ⟨candidate, hmem, -⟩
    exact absurd hmem List.not_mem_nil
  | cons candidate candidates ih =>
    intro s
    rw [List.exists_mem_cons_iff, Sending.sendCandidates, Sending.sendCandidate]
    cases hsplit : splitAddressAndPort candidate [] DEFAULT_SUNSHINE_PORT with
    | none => exact iff_of_true rfl (.inl (splitAddressAndPort_eq_none_iff.mp hsplit))
    | some split =>
      have hshort : ¬Overlong candidate := by
        rw [← @splitAddressAndPort_eq_none_iff candidate [] DEFAULT_SUNSHINE_PORT, hsplit]
        exact Option.some_ne_none split
      rw [or_iff_right hshort]
      exact ih _

lemma wakeMac_normal : normalizeMacAddress (wakeMac host override) = wakeMac host override := by
  unfold wakeMac
  split_ifs
  · exact normalizeMacAddress_idem _
  · exact normalizeMacAddress_idem _

lemma canWakeUpHost_iff : canWakeUpHost host override = true ↔ wakeMac host override ≠ [] := by
  unfold canWakeUpHost wakeMac hasUsableOverrideMac
  by_cases hover : normalizeMacAddress override.mac = [] <;>
    by_cases hhost : normalizeMacAddress host.mac = [] <;> simp [hover, hhost]

/-- The loop over the candidates. -/
def sendAll (n : Network) (ipConfig : Option (UInt32 × UInt32)) (host : Host)
    (override : WakeOnLanOverride) : Bool × Sending :=
  Sending.sendCandidates n (buildMagicPacket (wakeMac host override) []) override
    (wakeAddressCandidates ipConfig host override) {}

/-- How the loop over the candidates ends. -/
def ending (result : Bool × Sending) : Wake :=
  if result.1 = false then .thrown
  else if result.2.packetsSent = 0 then .failure result.2.lastError
  else .success

lemma ending_thrown {result : Bool × Sending} : ending result = .thrown ↔ result.1 = false := by
  unfold ending
  split_ifs <;> simp_all

lemma ending_ne_outside (result : Bool × Sending) : ending result ≠ .outside := by
  unfold ending
  split_ifs <;> exact Wake.noConfusion

lemma ending_success {result : Bool × Sending} :
    ending result = .success ↔ result.1 = true ∧ result.2.packetsSent ≠ 0 := by
  unfold ending
  split_ifs <;> simp_all

lemma ending_failure {result : Bool × Sending} {message : Bytes}
    (h : ending result = .failure message) : result.2.packetsSent = 0 := by
  unfold ending at h
  split_ifs at h with hthrown hnone
  exact hnone

/-- With an address to wake there is a packet to send. -/
lemma wakeUpHost_eq (h : canWakeUpHost host override = true) :
    wakeUpHost n ipConfig host override =
      (ending (sendAll n ipConfig host override), (sendAll n ipConfig host override).2.calls) := by
  have hmac := canWakeUpHost_iff.mp h
  have hnormal : normalizeMacAddress (wakeMac host override) ≠ [] := by rwa [wakeMac_normal]
  have hlength := (normalizeMacAddress_digits hnormal).1
  rw [wakeMac_normal] at hlength
  have hsix : (Pairing.hexToBytes (wakeMac host override)).length = 6 := by
    rw [Data.length_hexToBytes, hlength]
  obtain ⟨payload, hpayload, hholds⟩ := gives_createPayload hlength
  have hsize : payload.size = 102 := by rw [hholds.size, length_magicPacket hsix]
  have hread := Data.read_all hholds
  have hpacket : buildMagicPacket (wakeMac host override) [] =
      magicPacket (Pairing.hexToBytes (wakeMac host override)) := by
    rw [buildMagicPacket_eq hnormal, wakeMac_normal]
  rw [wakeUpHost, if_neg hmac, hpayload]
  dsimp only
  rw [if_neg (not_not.mpr hsize), sendMagicPackets, if_neg (by omega), hread]
  dsimp only
  rw [← hpacket, ending, sendAll]
  split_ifs <;> rfl

lemma wakeUpHost_unusable (h : canWakeUpHost host override = false) :
    wakeUpHost n ipConfig host override =
      (.failure (ascii "Missing or invalid host MAC address"), []) := by
  have hmac : wakeMac host override = [] := by
    by_contra hne
    rw [canWakeUpHost_iff.mpr hne] at h
    cases h
  exact if_pos hmac

lemma sound_start : Sound ports packet .idle {} := ⟨rfl, rfl⟩

lemma sound_sendAll : Sound (targetPorts (wakeAddressCandidates ipConfig host override) override)
    (buildMagicPacket (wakeMac host override) []) .idle (sendAll n ipConfig host override).2 :=
  sound_start.sendCandidates _ {} fun _ hmem => hmem

lemma wakeUpHost_run : exec (Phase.next
    (targetPorts (wakeAddressCandidates ipConfig host override) override)
      (buildMagicPacket (wakeMac host override) [])) .idle
        (wakeUpHost n ipConfig host override).2 = some .idle := by
  cases hcan : canWakeUpHost host override with
  | false =>
    rw [wakeUpHost_unusable hcan]
    rfl
  | true =>
    rw [wakeUpHost_eq hcan]
    exact sound_sendAll.run

lemma wakeUpHost_ne_outside : (wakeUpHost n ipConfig host override).1 ≠ .outside := by
  cases hcan : canWakeUpHost host override with
  | false =>
    rw [wakeUpHost_unusable hcan]
    exact Wake.noConfusion
  | true =>
    rw [wakeUpHost_eq hcan]
    exact ending_ne_outside _

/-- **Every wake asks the network in turn.**  Whatever is answered, each socket and each list of
addresses is given back before the next, and each datagram is the packet, on its way from a
socket that was opened for the address to a port that `WakeOnLanTargets` names. -/
theorem wake_takes_turns (n : Network) (ipConfig : Option (UInt32 × UInt32)) (host : Host)
    (override : WakeOnLanOverride) :
    let result := wakeUpHost n ipConfig host override
    exec (Phase.next (targetPorts (wakeAddressCandidates ipConfig host override) override)
        (buildMagicPacket (wakeMac host override) [])) .idle result.2 = some .idle ∧
      held (result.2.filterMap Call.event) = some [] ∧ result.1 ≠ .outside ∧
      (result.1 = .thrown ↔ canWakeUpHost host override = true ∧
        ∃ a ∈ override.address :: host.connectionAddresses, Overlong a) ∧
      (result.1 = .success → ∃ call ∈ result.2, call.delivered = true) ∧
      ∀ message, result.1 = .failure message → ∀ call ∈ result.2, call.delivered = false := by
  refine ⟨wakeUpHost_run, held_run wakeUpHost_run, wakeUpHost_ne_outside, ?_⟩
  cases hcan : canWakeUpHost host override with
  | false =>
    rw [wakeUpHost_unusable hcan]
    exact ⟨iff_of_false Wake.noConfusion fun h => Bool.noConfusion h.1, Wake.noConfusion,
      fun _ _ _ hmem => absurd hmem List.not_mem_nil⟩
  | true =>
    have hcount := (@sound_sendAll n ipConfig host override).count
    rw [wakeUpHost_eq hcan]
    refine ⟨?_, fun hsuccess => ?_, fun message hfailure call hmem => ?_⟩
    · rw [eq_self_iff_true, true_and, ← overlong_candidate_iff, ending_thrown]
      exact sendCandidates_thrown _ {}
    · have hsent := ending_success.mp hsuccess
      rw [hcount] at hsent
      exact List.countP_pos_iff.mp (Nat.pos_of_ne_zero hsent.2)
    · have hnone := ending_failure hfailure
      rw [hcount] at hnone
      exact eq_false_of_ne_true (List.countP_eq_zero.mp hnone call hmem)

/-! ## Every target is tried -/

/-- What is resolved and which sockets there are does not change; what becomes of a datagram may. -/
structure Network.Steady (n : Network) (resolve : Bytes → Option (List AddrInfo))
    (works : Family → Bool) : Prop where
  getaddrinfo : ∀ calls address, n.getaddrinfo calls address = resolve address
  socket : ∀ calls family, (n.socket calls family).isSome = works family
  setsockopt : ∀ calls handle, n.setsockopt calls handle = true

/-- The targets on the way to an address. -/
def addressTargets (works : Family → Bool) (allowed : List UInt16) (current : AddrInfo) :
    List SockAddr :=
  if works current.family then allowed.map (populatePort current.addr) else []

def candidateTargets (resolve : Bytes → Option (List AddrInfo)) (works : Family → Bool)
    (override : WakeOnLanOverride) (candidate : Bytes) : List SockAddr :=
  match splitAddressAndPort candidate [] DEFAULT_SUNSHINE_PORT with
  | none => []
  | some split =>
    if split.ok = false ∨ split.address = [] then []
    else ((resolve split.address).getD []).flatMap
      (addressTargets works (wakeTargetPorts override (UInt16.ofNat split.basePort)))

def Sending.targets (s : Sending) : List SockAddr := s.calls.filterMap Call.target

section
variable {resolve : Bytes → Option (List AddrInfo)} {works : Family → Bool}
  {allowed : List UInt16}

lemma targets_record (s : Sending) (call : Call) :
    (s.record call).targets = s.targets ++ call.target.toList := by
  change (s.calls ++ [call]).filterMap _ = _
  rw [List.filterMap_append]
  cases hcall : call.target <;> simp [hcall, Sending.targets]

lemma targets_sendPacket (s : Sending) (handle : ℕ) (target : SockAddr) :
    (s.sendPacket n packet handle target).targets = s.targets ++ [target] := by
  have hrecord (ok : Bool) := targets_record s (.sendto handle target packet ok)
  unfold Sending.sendPacket
  cases n.sendto s.calls handle target packet with
  | false => exact hrecord false
  | true => exact hrecord true

lemma targets_sendPorts (handle : ℕ) (allowed : List UInt16) : ∀ target s,
    (Sending.sendPorts n packet handle target allowed s).targets =
      s.targets ++ allowed.map (populatePort target) := by
  induction allowed with
  | nil => exact fun _ s => (List.append_nil _).symm
  | cons port allowed ih =>
    intro target s
    rw [Sending.sendPorts, ih, targets_sendPacket, List.map_cons, List.append_assoc]
    simp

lemma targets_sendTo (hsteady : n.Steady resolve works) (s : Sending) (current : AddrInfo) :
    (s.sendTo n packet allowed current).targets =
      s.targets ++ addressTargets works allowed current := by
  have hworks := hsteady.socket s.calls current.family
  unfold Sending.sendTo addressTargets
  cases hsocket : n.socket s.calls current.family with
  | none =>
    rw [hsocket] at hworks
    rw [← hworks]
    exact targets_record s (.socket current.family none)
  | some handle =>
    rw [hsocket] at hworks
    rw [← hworks]
    dsimp only [Option.isSome_some]
    rw [if_pos rfl]
    by_cases hinet : current.family = .inet
    · rw [if_pos hinet, hsteady.setsockopt, if_pos rfl]
      simp [targets_record, targets_sendPorts, Call.target]
    · rw [if_neg hinet]
      simp [targets_record, targets_sendPorts, Call.target]

lemma targets_sendAddress (hsteady : n.Steady resolve works) (s : Sending) (address : Bytes) :
    (s.sendAddress n packet allowed address).targets =
      s.targets ++ ((resolve address).getD []).flatMap (addressTargets works allowed) := by
  have hall (rest : List AddrInfo) : ∀ t, (rest.foldl (Sending.sendTo n packet allowed) t).targets =
      t.targets ++ rest.flatMap (addressTargets works allowed) := by
    induction rest with
    | nil => exact fun t => (List.append_nil _).symm
    | cons current rest ih =>
      intro t
      rw [List.foldl_cons, ih, targets_sendTo hsteady, List.flatMap_cons, List.append_assoc]
  unfold Sending.sendAddress
  rw [hsteady.getaddrinfo]
  rcases resolve address with _ | _ | ⟨current, result⟩
  · exact targets_record s (.getaddrinfo address none)
  · exact targets_record s (.getaddrinfo address (some []))
  · dsimp only
    rw [targets_record, hall, targets_record]
    simp [Call.target]

lemma targets_sendCandidates (hsteady : n.Steady resolve works) (candidates : List Bytes) : ∀ s,
    (∀ candidate ∈ candidates, ¬Overlong candidate) →
    (Sending.sendCandidates n packet override candidates s).2.targets =
      s.targets ++ candidates.flatMap (candidateTargets resolve works override) := by
  induction candidates with
  | nil => exact fun s _ => (List.append_nil _).symm
  | cons candidate candidates ih =>
    intro s hshort
    obtain ⟨hcandidate, hrest⟩ := List.forall_mem_cons.mp hshort
    rw [Sending.sendCandidates, Sending.sendCandidate, List.flatMap_cons, candidateTargets]
    cases hsplit : splitAddressAndPort candidate [] DEFAULT_SUNSHINE_PORT with
    | none => exact absurd (splitAddressAndPort_eq_none_iff.mp hsplit) hcandidate
    | some split =>
      dsimp only [Option.map_some]
      rw [ih _ hrest, ← List.append_assoc]
      split_ifs with hskip
      · rw [List.append_nil]
      · rw [not_or, Bool.not_eq_false] at hskip
        rw [targets_sendAddress hsteady, wakePortCandidates_eq hsplit hskip.1]

end

/-- **Where the sockets work, every target is tried once, in order.**  A datagram that fails does
not keep the others back. -/
theorem wake_tries_all_targets (n : Network) (resolve : Bytes → Option (List AddrInfo))
    (works : Family → Bool) (ipConfig : Option (UInt32 × UInt32)) (host : Host)
    (override : WakeOnLanOverride) (hsteady : n.Steady resolve works)
    (hcan : canWakeUpHost host override = true)
    (hshort : ∀ a ∈ override.address :: host.connectionAddresses, ¬Overlong a) :
    let candidates := wakeAddressCandidates ipConfig host override
    (wakeUpHost n ipConfig host override).2.filterMap Call.target =
        candidates.flatMap (candidateTargets resolve works override) ∧
      candidates.Nodup ∧ wakeTargetAddresses override host.connectionAddresses <+: candidates ∧
      ∀ a ∈ broadcasts ipConfig, a ∈ candidates := by
  have hnone : ∀ candidate ∈ wakeAddressCandidates ipConfig host override,
      ¬Overlong candidate := by
    intro candidate hmem hoverlong
    obtain ⟨a, ha, hlong⟩ := overlong_candidate_iff.mp ⟨candidate, hmem, hoverlong⟩
    exact hshort a ha hlong
  refine ⟨?_, ?_, ?_, ?_⟩
  · rw [wakeUpHost_eq hcan]
    exact targets_sendCandidates hsteady _ {} hnone
  · rw [wakeAddressCandidates_eq, wakeTargetAddresses]
    refine nodup_foldl_pushUniqueString (nodup_foldl_pushUniqueString ?_ _) _
    unfold pushUniqueString
    split_ifs <;> simp
  · rw [wakeAddressCandidates_eq]
    exact prefix_foldl_pushUniqueString _ _
  · intro a ha
    rw [wakeAddressCandidates_eq, mem_foldl_pushUniqueString]
    refine .inr ⟨ha, ?_⟩
    rcases List.mem_append.mp ha with hmem | hmem
    · obtain ⟨config, -, rfl⟩ := Option.map_eq_some_iff.mp (Option.mem_toList.mp hmem)
      exact inetNtop_ne_nil _
    · rw [List.mem_singleton.mp hmem]
      decide

/-- A console without an address of its own, whose sockets fail every other time. -/
def lanNetwork : Network where
  getaddrinfo _ address := some [⟨.inet, ⟨.inet, address, 0⟩⟩, ⟨.inet6, ⟨.inet6, address, 0⟩⟩]
  socket _ family := if family = .inet then some 3 else none
  setsockopt _ _ := true
  sendto calls _ _ _ := calls.length % 2 = 0
  lastSocketErrorString _ := []

def sleepingHost : Host := { address := ascii "192.168.1.5", mac := ascii "AA:BB:CC:DD:EE:FF" }

theorem wake_tries_all_targets_lan :
    let candidates := wakeAddressCandidates none sleepingHost {}
    (wakeUpHost lanNetwork none sleepingHost {}).2.filterMap Call.target =
        candidates.flatMap (candidateTargets (lanNetwork.getaddrinfo []) (· = .inet) {}) ∧
      candidates.Nodup ∧ wakeTargetAddresses {} sleepingHost.connectionAddresses <+: candidates ∧
      ∀ a ∈ broadcasts none, a ∈ candidates := by
  have hplain : ∀ a ∈ ([] : Bytes) :: sleepingHost.connectionAddresses, colon ∉ a := by
    decide +kernel
  have hsteady : lanNetwork.Steady (lanNetwork.getaddrinfo []) (· = .inet) :=
    ⟨fun _ _ => rfl, fun _ family => by cases family <;> rfl, fun _ _ => rfl⟩
  exact wake_tries_all_targets lanNetwork _ _ none sleepingHost {} hsteady (by decide +kernel)
    fun a ha hlong => hplain a ha (colon_mem_of_overlong hlong)

/-! ## Waking until the host answers -/

section
open GameStream RemoteRouting

variable {σ : Type}

def kWakeResendEveryPoll : ℕ := 5

/-- What the polls come to; the last two end the process. -/
inductive Polls (σ : Type)
  | connected (out : Out σ)
  | offline (error : Bytes)
  | thrown
  | outside

def Polls.reached : Polls σ → Option (Out σ)
  | .connected out => some out
  | _ => none

/-- The packets in front of a poll.  `rounds` are the calls for the packets before. -/
def resend (n : Network) (ipConfig : Option (UInt32 × UInt32)) (host : Host)
    (override : WakeOnLanOverride) (attempt : ℕ) (rounds : List (List Call)) :
    Wake × List (List Call) :=
  if 0 < attempt ∧ attempt % kWakeResendEveryPoll = 0 then
    let (answer, calls) := wakeUpHost (n.after rounds.flatten) ipConfig host override
    (answer, rounds ++ [calls])
  else (.success, rounds)

/-- `ipConfig` and `override` may have changed before each attempt. -/
def pollLoop (n : Network) (ipConfig : ℕ → Option (UInt32 × UInt32)) (host : Host)
    (override : ℕ → WakeOnLanOverride) : List (Bytes → Answers σ) → (attempt : ℕ) →
      (error : Bytes) → List (List Call) → Polls σ × List (List Call)
  | [], _, error, rounds => (.offline error, rounds)
  | answers :: polls, attempt, _, rounds =>
    let resent := resend n (ipConfig attempt) host (override attempt) attempt rounds
    if resent.1 = .thrown then (.thrown, resent.2)
    else if resent.1 = .outside then (.outside, resent.2)
    else
      match GameStreamClient.poll host answers with
      | some out => (.connected out, resent.2)
      | none =>
        let polled := connectToAddressesSync (attempts host.connectionAddresses answers) emptyOut
        pollLoop n ipConfig host override polls (attempt + 1) polled.2.1.error resent.2

/-- `GameStreamClient::wake_up_host` with its packets: what the callback is told, the client, and
the calls of each round of packets. -/
def wakeAndPoll (mac : σ → Bytes) (s : GameStreamClient σ) (n : Network)
    (ipConfig : ℕ → Option (UInt32 × UInt32)) (host : Host) (override : ℕ → WakeOnLanOverride)
    (polls : List (Bytes → Answers σ)) : Wake × GameStreamClient σ × List (List Call) :=
  let (answer, calls) := wakeUpHost n (ipConfig 0) host (override 0)
  if answer ≠ .success then (answer, s, [calls])
  else
    match pollLoop n ipConfig host override (polls.take WAKE_POLL_ATTEMPTS) 0 [] [calls] with
    | (.connected out, rounds) =>
      (.success, (s.cacheServerData mac out.connectedAddress out.connectedServer).activate
        (hostKey host) out.connectedAddress out.lease, rounds)
    | (.offline error, rounds) =>
      (.failure (if error = [] then ascii "Host did not come online after wake signal" else error),
        s, rounds)
    | (.thrown, rounds) => (.thrown, s, rounds)
    | (.outside, rounds) => (.outside, s, rounds)

/-- The rounds so far have given everything back. -/
def GivenBack (rounds : List (List Call)) : Prop :=
  ∀ round ∈ rounds, held (round.filterMap Call.event) = some []

variable {ipConfigs : ℕ → Option (UInt32 × UInt32)} {overrides : ℕ → WakeOnLanOverride}
  {rounds : List (List Call)} {attempt : ℕ} {error : Bytes}

lemma givenBack_snoc (h : GivenBack rounds) :
    GivenBack (rounds ++ [(wakeUpHost n ipConfig host override).2]) := by
  intro round hmem
  rcases List.mem_append.mp hmem with hmem | hmem
  · exact h round hmem
  · rw [List.mem_singleton.mp hmem]
    exact held_run wakeUpHost_run

/-- What the packets in front of a poll leave. -/
lemma resend_keeps (h : GivenBack rounds) :
    GivenBack (resend n ipConfig host override attempt rounds).2 ∧
      (resend n ipConfig host override attempt rounds).1 ≠ .outside ∧
      (resend n ipConfig host override attempt rounds).2.length =
        rounds.length + (attempt / 5 - (attempt - 1) / 5) := by
  unfold resend
  rw [kWakeResendEveryPoll]
  split_ifs with hdue
  · refine ⟨givenBack_snoc h, wakeUpHost_ne_outside, ?_⟩
    rw [List.length_append, List.length_singleton]
    omega
  · refine ⟨h, Wake.noConfusion, ?_⟩
    dsimp only
    omega

/-- What holds behind the polls; the rounds of packets are counted by the number of the attempt. -/
structure PollsKeep (host : Host) (polls : List (Bytes → Answers σ)) (attempt sent : ℕ)
    (result : Polls σ × List (List Call)) : Prop where
  back : GivenBack result.2
  inside : result.1 ≠ .outside
  length : result.2.length ≤ sent + ((attempt + polls.length - 1) / 5 - (attempt - 1) / 5)
  found : result.1 ≠ .thrown → polls.findSome? (GameStreamClient.poll host) = result.1.reached

lemma pollLoop_keeps (polls : List (Bytes → Answers σ)) : ∀ attempt error rounds,
    GivenBack rounds → PollsKeep host polls attempt rounds.length
      (pollLoop n ipConfigs host overrides polls attempt error rounds) := by
  induction polls with
  | nil =>
    intro attempt error rounds h
    rw [pollLoop]
    exact ⟨h, by simp, Nat.le_add_right _ _, fun _ => rfl⟩
  | cons answers polls ih =>
    intro attempt error rounds h
    obtain ⟨hback, houtside, hlength⟩ := @resend_keeps n (ipConfigs attempt) host
      (overrides attempt) rounds attempt h
    rw [pollLoop]
    dsimp only
    split_ifs with hthrown
    · refine ⟨hback, by simp, ?_, fun hno => absurd rfl hno⟩
      rw [List.length_cons, hlength]
      omega
    · cases hpoll : GameStreamClient.poll host answers with
      | some out =>
        refine ⟨hback, by simp, ?_, fun _ => ?_⟩
        · rw [List.length_cons, hlength]
          omega
        · rw [List.findSome?_cons, hpoll]
          rfl
      | none =>
        have hrest := ih (attempt + 1) (connectToAddressesSync
          (attempts host.connectionAddresses answers) emptyOut).2.1.error _ hback
        refine ⟨hrest.back, hrest.inside, hrest.length.trans ?_, fun hgoes => ?_⟩
        · rw [List.length_cons, hlength]
          omega
        · rw [List.findSome?_cons, hpoll]
          exact hrest.found hgoes

/-- One round before the polls, and one in front of the sixth, the eleventh and the sixteenth. -/
lemma PollsKeep.length_le_four {polls : List (Bytes → Answers σ)}
    {result : Polls σ × List (List Call)}
    (h : PollsKeep host (polls.take WAKE_POLL_ATTEMPTS) 0 1 result) : result.2.length ≤ 4 := by
  have htake : (polls.take WAKE_POLL_ATTEMPTS).length ≤ 20 := List.length_take_le _ _
  have hlength := h.length
  omega

/-- **A wake-up with all its packets.**  Whatever the network answers, there are at most four
rounds of packets, each gives back what it opened, and the client is left as it is without them. -/
theorem wake_up_settles (mac : σ → Bytes) (s : GameStreamClient σ) (n : Network)
    (ipConfig : ℕ → Option (UInt32 × UInt32)) (host : Host) (override : ℕ → WakeOnLanOverride)
    (polls : List (Bytes → Answers σ)) :
    let first := (wakeUpHost n (ipConfig 0) host (override 0)).1
    let result := wakeAndPoll mac s n ipConfig host override polls
    (∀ round ∈ result.2.2, held (round.filterMap Call.event) = some []) ∧
      result.2.2.length ≤ 4 ∧ result.1 ≠ .outside ∧
      (result.1 ≠ .thrown → result.2.1 = s.wakeUpHost mac host (first = .success) polls) := by
  have hfirst := @wakeUpHost_ne_outside n (ipConfig 0) host (override 0)
  have hback : GivenBack [(wakeUpHost n (ipConfig 0) host (override 0)).2] :=
    givenBack_snoc fun round hmem => absurd hmem List.not_mem_nil
  dsimp only
  unfold wakeAndPoll
  generalize wakeUpHost n (ipConfig 0) host (override 0) = woken at hfirst hback
  obtain ⟨answer, calls⟩ := woken
  dsimp only at hfirst hback ⊢
  by_cases hsuccess : answer = .success
  · have hkeeps := @pollLoop_keeps n host σ ipConfig override
      (polls.take WAKE_POLL_ATTEMPTS) 0 [] [calls] hback
    have hfour := hkeeps.length_le_four
    rw [if_neg (not_not.mpr hsuccess)]
    generalize pollLoop n ipConfig host override (polls.take WAKE_POLL_ATTEMPTS) 0 [] [calls] =
      polled at hkeeps hfour
    obtain ⟨outcome, rounds⟩ := polled
    have hfound := hkeeps.found
    unfold GameStreamClient.wakeUpHost
    rw [decide_eq_true hsuccess, if_pos rfl]
    cases outcome with
    | connected out =>
      rw [hfound (by simp)]
      exact ⟨hkeeps.back, hfour, Wake.noConfusion, fun _ => rfl⟩
    | offline error =>
      rw [hfound (by simp)]
      exact ⟨hkeeps.back, hfour, Wake.noConfusion, fun _ => rfl⟩
    | thrown => exact ⟨hkeeps.back, hfour, Wake.noConfusion, fun hno => absurd rfl hno⟩
    | outside => exact absurd rfl hkeeps.inside
  · -- without a packet there are no polls
    rw [if_pos hsuccess]
    refine ⟨hback, ?_, hfirst, fun _ => ?_⟩
    · exact Nat.le_of_ble_eq_true rfl
    · rw [decide_eq_false hsuccess]
      rfl

end

end ArtemisSwitch.WakeOnLan

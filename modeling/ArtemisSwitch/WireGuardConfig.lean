import ArtemisSwitch.DecimalText
import ArtemisSwitch.VpnConfigPreview

/-!
# WireGuard configurations

`parse_wireguard_conf` reads a configuration line by line, and
`wireguard_ipv4_matches_allowed_ips` finds an address among the routes of a peer.
-/

namespace ArtemisSwitch.WireGuard
open HostAddress HostStore DecimalText VpnConfig

def trim (value : Bytes) : Bytes := (value.dropWhile isspace).rdropWhile isspace

def lowercase (value : Bytes) : Bytes := value.map tolower

/-- `std::stol` has to read the whole text; what overflows a `long` is out of range here too. -/
def parseInt (value : Bytes) : Option ℤ :=
  let (negative, digits) := splitSign (value.dropWhile isspace)
  if digits = [] ∨ digits.all isdigit = false then none
  else
    let parsed := signed negative (digitsValue digits)
    if parsed < 0 ∨ 0x7fffffff < parsed then none else some parsed

/-! ## Literal addresses -/

def dot : UInt8 := 46

def comma : UInt8 := 44

def slash : UInt8 := 47

/-- An octet of one to three digits. -/
def octet (part : Bytes) : Option ℤ :=
  if part = [] ∨ 3 < part.length ∨ part.all isdigit = false then none
  else (parseInt part).filter (· ≤ 255)

def parseIpv4 (value : Bytes) : Option ℤ :=
  match (value.splitOn dot).mapM octet with
  | some [a, b, c, d] => some (((a * 256 + b) * 256 + c) * 256 + d)
  | _ => none

/-- The prefix of an entry; a text that is no number, or too great a one, never matches. -/
def prefixOf (entry : Bytes) : Option ℕ :=
  if slash ∈ entry then
    match parseInt ((entry.dropWhile (· ≠ slash)).drop 1) with
    | some n => if 32 < n then none else some n.toNat
    | none => none
  else some 32

/-- Entries of IPv6 are no candidates. -/
def matchesEntry (candidate : ℤ) (entry : Bytes) : Bool :=
  if entry = [] ∨ colon ∈ entry then false
  else
    match parseIpv4 (entry.takeWhile (· ≠ slash)), prefixOf entry with
    | some network, some length =>
      candidate / 2 ^ (32 - length) = network / 2 ^ (32 - length)
    | _, _ => false

def ipv4MatchesAllowedIps (address allowedIps : Bytes) : Bool :=
  match parseIpv4 (trim address) with
  | none => false
  | some candidate =>
    allowedIps ≠ [] &&
      (allowedIps.splitOn comma).any fun entry => matchesEntry candidate (trim entry)

/-! ## The configuration -/

structure PeerConfig where
  publicKey : Bytes := []
  presharedKey : Bytes := []
  endpoint : Bytes := []
  allowedIps : Bytes := []
  persistentKeepalive : ℤ := 0
  deriving DecidableEq, Repr

structure Config where
  privateKey : Bytes := []
  address : Bytes := []
  dns : Bytes := []
  listenPort : ℤ := 0
  mtu : ℤ := 0
  peers : List PeerConfig := []
  deriving DecidableEq, Repr

inductive Section
  | none
  | interface
  | peer
  deriving DecidableEq, Repr

/-- The variables of the loop over the lines. -/
structure Parser where
  config : Config := {}
  block : Section := .none
  peer : PeerConfig := {}
  badListenPort : Bool := false
  badMtu : Bool := false
  badKeepalive : Bool := false

namespace Parser

def flushPeer (p : Parser) : Parser :=
  { p with
    config := if p.block = .peer ∧ p.peer.publicKey ≠ [] then
      { p.config with peers := p.config.peers ++ [p.peer] } else p.config
    peer := {} }

def header (p : Parser) (line : Bytes) : Parser :=
  if lowercase line = ascii "[interface]" then { p.flushPeer with block := .interface }
  else if lowercase line = ascii "[peer]" then { p.flushPeer with block := .peer }
  else { p.flushPeer with block := .none }

def interfaceField (p : Parser) (key value : Bytes) : Parser :=
  if key = ascii "privatekey" then { p with config := { p.config with privateKey := value } }
  else if key = ascii "address" then { p with config := { p.config with address := value } }
  else if key = ascii "dns" then { p with config := { p.config with dns := value } }
  else if key = ascii "listenport" then
    match parseInt value with
    | some n => { p with config := { p.config with listenPort := n } }
    | none => { p with badListenPort := true }
  else if key = ascii "mtu" then
    match parseInt value with
    | some n => { p with config := { p.config with mtu := n } }
    | none => { p with badMtu := true }
  else p

def peerField (p : Parser) (key value : Bytes) : Parser :=
  if key = ascii "publickey" then { p with peer := { p.peer with publicKey := value } }
  else if key = ascii "presharedkey" then { p with peer := { p.peer with presharedKey := value } }
  else if key = ascii "endpoint" then { p with peer := { p.peer with endpoint := value } }
  else if key = ascii "allowedips" then { p with peer := { p.peer with allowedIps := value } }
  else if key = ascii "persistentkeepalive" then
    match parseInt value with
    | some n => { p with peer := { p.peer with persistentKeepalive := n } }
    | none => { p with badKeepalive := true }
  else p

def field (p : Parser) (key value : Bytes) : Parser :=
  match p.block with
  | .interface => p.interfaceField key value
  | .peer => p.peerField key value
  | .none => p

/-- Both `#` and `;` start a comment. -/
def isComment (c : UInt8) : Bool := c = 35 || c = 59

def equals : UInt8 := 61

def line (p : Parser) (text : Bytes) : Parser :=
  -- a comment is cut off wherever it begins, also within a value
  let content := trim (text.takeWhile fun c => !isComment c)
  if content = [] then p
  else if content.head? = some 91 then p.header content
  else if equals ∉ content then p
  else
    p.field (lowercase (trim (content.takeWhile (· ≠ equals))))
      (trim ((content.dropWhile (· ≠ equals)).drop 1))

/-- A number that could not be read fails the validation later. -/
def finish (p : Parser) : Config :=
  let config := p.flushPeer.config
  { config with
    listenPort := if p.badListenPort then -1 else config.listenPort
    mtu := if p.badMtu then -1 else config.mtu
    peers := if p.badKeepalive then
      config.peers.modifyHead fun peer => { peer with persistentKeepalive := -1 }
      else config.peers }

end Parser

def parseConf (text : Bytes) : Config :=
  ((text.splitOn newline).foldl Parser.line {}).finish

end ArtemisSwitch.WireGuard

import ArtemisSwitch.IPv4Literals
import ArtemisSwitch.WireGuardLines

/-!
# Renderings of a WireGuard configuration

What `parse_wireguard_conf` reads does not depend on how a configuration is written.  A number
that it cannot read is a problem for `validate`.
-/

namespace ArtemisSwitch.WireGuard
open HostAddress HostStore DecimalText VpnConfig SplitLoops Trimming

/-! ## Validation -/

inductive Problem
  | none
  | missingPrivateKey
  | malformedPrivateKey
  | missingAddress
  | malformedAddress
  | noPeers
  | multiplePeersUnsupported
  | missingPeerPublicKey
  | malformedPeerPublicKey
  | malformedPeerPresharedKey
  | malformedEndpoint
  | invalidListenPort
  | invalidKeepalive
  | invalidMtu
  deriving DecidableEq, Repr

/-- 32 bytes in base64. -/
def looksLikeWgKey (value : Bytes) : Bool :=
  value.length = 44 && value.getLast? = some Parser.equals &&
    (value.take 43).all fun c => isalnum c || c = 43 || c = slash

/-- An address without its prefix; one of IPv6 is only checked loosely. -/
def validHost (entry : Bytes) : Bool :=
  if colon ∈ entry then entry.all fun c => isxdigit c || c = colon else IPv4.validIpv4 entry

/-- One of the addresses, without the blanks around it. -/
def validEntry (entry : Bytes) : Bool :=
  if entry = [] then false
  else if slash ∈ entry then
    let host := entry.takeWhile (· ≠ slash)
    match parseInt ((entry.dropWhile (· ≠ slash)).drop 1) with
    | none => false
    | some length => if (if colon ∈ host then 128 else 32) < length then false else validHost host
  else validHost entry

def validAddress (value : Bytes) : Bool :=
  value ≠ [] && (value.splitOn comma).all fun entry => validEntry (trim entry)

def validEndpoint (value : Bytes) : Bool :=
  match rfind value colon with
  | none => false
  | some place =>
    if place = 0 ∨ value.length ≤ place + 1 then false
    else
      match parseInt (value.drop (place + 1)) with
      | none => false
      | some port => 1 ≤ port && port ≤ 65535

/-- What `validate` says of one peer, if anything. -/
def peerProblem (peer : PeerConfig) : Option Problem :=
  if peer.publicKey = [] then some .missingPeerPublicKey
  else if looksLikeWgKey peer.publicKey = false then some .malformedPeerPublicKey
  else if peer.presharedKey ≠ [] ∧ looksLikeWgKey peer.presharedKey = false then
    some .malformedPeerPresharedKey
  else if peer.endpoint ≠ [] ∧ validEndpoint peer.endpoint = false then some .malformedEndpoint
  else if peer.persistentKeepalive < 0 ∨ 65535 < peer.persistentKeepalive then
    some .invalidKeepalive
  else none

def validate (config : Config) : Problem :=
  if config.privateKey = [] then .missingPrivateKey
  else if looksLikeWgKey config.privateKey = false then .malformedPrivateKey
  else if config.address = [] then .missingAddress
  else if validAddress config.address = false then .malformedAddress
  else if config.listenPort ≠ 0 ∧ (config.listenPort < 1 ∨ 65535 < config.listenPort) then
    .invalidListenPort
  else if config.mtu ≠ 0 ∧ (config.mtu < 576 ∨ 1500 < config.mtu) then .invalidMtu
  else if config.peers = [] then .noPeers
  else
    match config.peers.findSome? peerProblem with
    | some problem => problem
    | none => if 1 < config.peers.length then .multiplePeersUnsupported else .none

lemma peerProblem_ne_none {peer : PeerConfig} : peerProblem peer ≠ some .none := by
  unfold peerProblem
  split_ifs <;> exact nofun

lemma peerProblem_eq_none {peer : PeerConfig} (h : peerProblem peer = none) :
    0 ≤ peer.persistentKeepalive := by
  unfold peerProblem at h
  split_ifs at h with _ _ _ _ hkeepalive
  omega

/-- The numbers of a configuration without a problem. -/
lemma validate_eq_none {config : Config} (h : validate config = .none) :
    0 ≤ config.listenPort ∧ 0 ≤ config.mtu ∧
      ∀ peer ∈ config.peers, 0 ≤ peer.persistentKeepalive := by
  unfold validate at h
  cases hproblem : config.peers.findSome? peerProblem with
  | some problem =>
    obtain ⟨peer, -, hpeer⟩ := List.exists_of_findSome?_eq_some hproblem
    rw [hproblem] at h
    dsimp only at h
    split_ifs at h
    exact absurd (h ▸ hpeer) peerProblem_ne_none
  | none =>
    rw [hproblem] at h
    dsimp only at h
    split_ifs at h with _ _ _ _ hport hmtu
    refine ⟨by omega, by omega, fun peer hpeer => ?_⟩
    exact peerProblem_eq_none (List.findSome?_eq_none_iff.mp hproblem peer hpeer)

/-! ## How a configuration is written -/

/-- What a key stands for. -/
inductive Setting
  | text (value : Bytes)
  | number (value : ℤ)

namespace Setting

/-- A number is written in decimal, perhaps with zeros in front. -/
def Writes : Setting → Bytes → Prop
  | text value, written => written = value
  | number n, written =>
    written ≠ [] ∧ written.all isdigit = true ∧ (digitsValue written : ℤ) = n

/-- What a line can carry and `int` can hold. -/
def Writable : Setting → Prop
  | text value => Clean value
  | number n => 0 ≤ n ∧ n ≤ 0x7fffffff

end Setting

inductive InterfaceKey
  | privateKey
  | address
  | dns
  | listenPort
  | mtu
  deriving DecidableEq

namespace InterfaceKey

/-- In lower case. -/
def name : InterfaceKey → Bytes
  | privateKey => ascii "privatekey"
  | address => ascii "address"
  | dns => ascii "dns"
  | listenPort => ascii "listenport"
  | mtu => ascii "mtu"

def setting (config : Config) : InterfaceKey → Setting
  | privateKey => .text config.privateKey
  | address => .text config.address
  | dns => .text config.dns
  | listenPort => .number config.listenPort
  | mtu => .number config.mtu

/-- One setting comes from `config`. -/
def copy (config : Config) : InterfaceKey → Config → Config
  | privateKey, c => { c with privateKey := config.privateKey }
  | address, c => { c with address := config.address }
  | dns, c => { c with dns := config.dns }
  | listenPort, c => { c with listenPort := config.listenPort }
  | mtu, c => { c with mtu := config.mtu }

lemma peers_copy (config : Config) (key : InterfaceKey) (c : Config) :
    (key.copy config c).peers = c.peers := by
  cases key <;> rfl

lemma setting_copy (config : Config) (key : InterfaceKey) (c : Config) :
    key.setting (key.copy config c) = key.setting config := by
  cases key <;> rfl

lemma setting_copy_of_ne (config : Config) {key other : InterfaceKey} (c : Config)
    (h : other ≠ key) : other.setting (key.copy config c) = other.setting c := by
  cases key <;> cases other <;> first | rfl | exact absurd rfl h

/-- The settings and the peers make up a configuration. -/
lemma eq_of_setting {config c : Config} (h : ∀ key, setting c key = setting config key) :
    c = { config with peers := c.peers } := by
  obtain ⟨⟩ := c
  have hkey := Setting.text.inj (h privateKey)
  have haddress := Setting.text.inj (h address)
  have hdns := Setting.text.inj (h dns)
  have hport := Setting.number.inj (h listenPort)
  have hmtu := Setting.number.inj (h mtu)
  subst hkey haddress hdns hport hmtu
  rfl

end InterfaceKey

inductive PeerKey
  | publicKey
  | presharedKey
  | endpoint
  | allowedIps
  | persistentKeepalive
  deriving DecidableEq

namespace PeerKey

/-- In lower case. -/
def name : PeerKey → Bytes
  | publicKey => ascii "publickey"
  | presharedKey => ascii "presharedkey"
  | endpoint => ascii "endpoint"
  | allowedIps => ascii "allowedips"
  | persistentKeepalive => ascii "persistentkeepalive"

def setting (peer : PeerConfig) : PeerKey → Setting
  | publicKey => .text peer.publicKey
  | presharedKey => .text peer.presharedKey
  | endpoint => .text peer.endpoint
  | allowedIps => .text peer.allowedIps
  | persistentKeepalive => .number peer.persistentKeepalive

/-- One setting comes from `peer`. -/
def copy (peer : PeerConfig) : PeerKey → PeerConfig → PeerConfig
  | publicKey, q => { q with publicKey := peer.publicKey }
  | presharedKey, q => { q with presharedKey := peer.presharedKey }
  | endpoint, q => { q with endpoint := peer.endpoint }
  | allowedIps, q => { q with allowedIps := peer.allowedIps }
  | persistentKeepalive, q => { q with persistentKeepalive := peer.persistentKeepalive }

lemma setting_copy (peer : PeerConfig) (key : PeerKey) (q : PeerConfig) :
    key.setting (key.copy peer q) = key.setting peer := by
  cases key <;> rfl

lemma setting_copy_of_ne (peer : PeerConfig) {key other : PeerKey} (q : PeerConfig)
    (h : other ≠ key) : other.setting (key.copy peer q) = other.setting q := by
  cases key <;> cases other <;> first | rfl | exact absurd rfl h

lemma eq_of_setting {peer q : PeerConfig} (h : ∀ key, setting q key = setting peer key) :
    q = peer := by
  obtain ⟨⟩ := q
  have hpublic := Setting.text.inj (h publicKey)
  have hpreshared := Setting.text.inj (h presharedKey)
  have hendpoint := Setting.text.inj (h endpoint)
  have hallowed := Setting.text.inj (h allowedIps)
  have hkeepalive := Setting.number.inj (h persistentKeepalive)
  subst hpublic hpreshared hendpoint hallowed hkeepalive
  rfl

end PeerKey

/-- A line that writes the setting of a key. -/
def Written (name : Bytes) (setting : Setting) (line : Bytes) : Prop :=
  ∃ value, Entry line name value ∧ setting.Writes value

/-- The lines below the title of a section, in any order.  What is not written has the default. -/
structure Body {κ : Type} (name : κ → Bytes) (setting default : κ → Setting)
    (lines : List Bytes) : Prop where
  known : ∀ line ∈ lines,
    Ignored (Set.range name) line ∨ ∃ key, Written (name key) (setting key) line
  complete : ∀ key, setting key = default key ∨
    ∃ line ∈ lines, Written (name key) (setting key) line

/-- The lines of a section. -/
def Lines {κ : Type} (title : String) (name : κ → Bytes) (setting default : κ → Setting)
    (lines : List Bytes) : Prop :=
  ∃ header body, lines = header :: body ∧ Header header (ascii title) ∧
    Body name setting default body

/-- Sections with other titles, which may hold any lines. -/
inductive Foreign : List Bytes → Prop
  | nil : Foreign []
  | cons {header : Bytes} {body rest : List Bytes} {title : Bytes}
    (htitle : Header header title) (hother : sectionOf title = .none)
    (hbody : ∀ line ∈ body, Ignored ∅ line) (hrest : Foreign rest) :
    Foreign (header :: (body ++ rest))

/-- The lines of a configuration with one peer. -/
def Rendering (config : Config) (peer : PeerConfig) (lines : List Bytes) : Prop :=
  ∃ top before first between second after,
    lines = top ++ before ++ first ++ between ++ second ++ after ∧
    (∀ line ∈ top, Ignored ∅ line) ∧ Foreign before ∧ Foreign between ∧ Foreign after ∧
    (Lines "[interface]" InterfaceKey.name (InterfaceKey.setting config)
          (InterfaceKey.setting {}) first ∧
        Lines "[peer]" PeerKey.name (PeerKey.setting peer) (PeerKey.setting {}) second ∨
      Lines "[peer]" PeerKey.name (PeerKey.setting peer) (PeerKey.setting {}) first ∧
        Lines "[interface]" InterfaceKey.name (InterfaceKey.setting config)
          (InterfaceKey.setting {}) second)

/-! ## Reading a rendering -/

variable {p : Parser} {config : Config} {peer : PeerConfig} {lines body : List Bytes}

namespace Parser

lemma closed_closed (p : Parser) : p.closed.closed = p.closed := rfl

lemma closed_of_block (h : p.block ≠ .peer) : p.closed = { p with block := .none, peer := {} } := by
  rw [closed, flushPeer, if_neg (by simp [h])]

/-- What is read so far, once the open section is closed. -/
lemma finish_closed (p : Parser) : p.closed.finish = p.finish := by
  have hclosed : p.closed.flushPeer.config = p.flushPeer.config := by
    rw [flushPeer, if_neg (by simp [closed])]
    rfl
  rw [finish, finish, hclosed]
  rfl

end Parser

/-- Lines that no section knows. -/
lemma run_ignored (hblock : p.block = .none) (h : ∀ line ∈ lines, Ignored ∅ line) :
    lines.foldl Parser.line p = p := by
  induction lines with
  | nil => rfl
  | cons line lines ih =>
    rw [List.forall_mem_cons] at h
    have hline : p.line line = p := line_ignored h.1 fun key value _ => by
      rw [Parser.field, hblock]
    rw [List.foldl_cons, hline, ih h.2]

/-- Other sections leave nothing behind. -/
lemma run_foreign (h : Foreign lines) : (lines.foldl Parser.line p).closed = p.closed := by
  induction h generalizing p with
  | nil => rfl
  | cons htitle hother hbody _ ih =>
    rw [List.foldl_cons, List.foldl_append, line_header htitle, hother, run_ignored rfl hbody, ih]
    exact p.closed_closed

section Bodies
variable {κ : Type} {name : κ → Bytes} {setting default : κ → Setting} {get : Parser → κ → Setting}
  {Within : Parser → Prop}

/-- What a section has read, line by line: whatever is not read yet is still to come. -/
lemma run_body
    (hignored : ∀ p line, Within p → Ignored (Set.range name) line → p.line line = p)
    (hwritten : ∀ p key line, Within p → Written (name key) (setting key) line →
      Within (p.line line) ∧ get (p.line line) key = setting key ∧
        ∀ other ≠ key, get (p.line line) other = get p other)
    (hknown : ∀ line ∈ body,
      Ignored (Set.range name) line ∨ ∃ key, Written (name key) (setting key) line)
    (hcomplete : ∀ key, setting key = get p key ∨
      ∃ line ∈ body, Written (name key) (setting key) line) (hp : Within p) :
    Within (body.foldl Parser.line p) ∧
      ∀ key, get (body.foldl Parser.line p) key = setting key := by
  induction body generalizing p with
  | nil => exact ⟨hp, fun key => ((hcomplete key).resolve_right (by simp)).symm⟩
  | cons line body ih =>
    rw [List.forall_mem_cons] at hknown
    have hwithin : Within (p.line line) := by
      rcases hknown.1 with hline | ⟨key, hline⟩
      · rwa [hignored p line hp hline]
      · exact (hwritten p key line hp hline).1
    have hstays : ∀ key, setting key = get p key → setting key = get (p.line line) key := by
      intro key hkey
      rcases hknown.1 with hline | ⟨written, hline⟩
      · rwa [hignored p line hp hline]
      · obtain ⟨-, hread, hother⟩ := hwritten p written line hp hline
        by_cases hsame : key = written
        · rw [hsame, hread]
        · rw [hother key hsame, hkey]
    refine ih hknown.2 (fun key => ?_) hwithin
    rcases hcomplete key with hkey | ⟨other, hother, hwrites⟩
    · exact .inl (hstays key hkey)
    · rcases List.mem_cons.mp hother with rfl | hother
      · exact .inl (hwritten p key other hp hwrites).2.1.symm
      · exact .inr ⟨other, hother, hwrites⟩

end Bodies

lemma parseInt_of_writes {n : ℤ} {value : Bytes} (h : (Setting.number n).Writes value)
    (hn : (Setting.number n).Writable) : parseInt value = some n := by
  obtain ⟨hne, hdigits, rfl⟩ := h
  rw [IPv4.parseInt_of_digits hne hdigits, if_neg]
  have hmax := hn.2
  omega

/-- A written setting is a field. -/
lemma line_written {name : Bytes} {setting : Setting} {line : Bytes} (h : Written name setting line)
    (hname : keyOk name = true) (hwritable : setting.Writable) :
    ∃ value, setting.Writes value ∧ p.line line = p.field name value := by
  obtain ⟨value, hentry, hwrites⟩ := h
  refine ⟨value, hwrites, line_entry hentry hname ?_⟩
  cases setting with
  | text text =>
    obtain rfl : value = text := hwrites
    exact hwritable
  | number n => exact clean_of_digits hwrites.2.1

lemma interfaceField_eq {key value : Bytes} (h : key ∉ Set.range InterfaceKey.name) :
    p.interfaceField key value = p := by
  have hne : ∀ known, key ≠ InterfaceKey.name known := fun known heq => h ⟨known, heq.symm⟩
  rw [Parser.interfaceField]
  exact (if_neg (hne .privateKey)).trans <| (if_neg (hne .address)).trans <|
    (if_neg (hne .dns)).trans <| (if_neg (hne .listenPort)).trans (if_neg (hne .mtu))

lemma peerField_eq {key value : Bytes} (h : key ∉ Set.range PeerKey.name) :
    p.peerField key value = p := by
  have hne : ∀ known, key ≠ PeerKey.name known := fun known heq => h ⟨known, heq.symm⟩
  rw [Parser.peerField]
  exact (if_neg (hne .publicKey)).trans <| (if_neg (hne .presharedKey)).trans <|
    (if_neg (hne .endpoint)).trans <| (if_neg (hne .allowedIps)).trans
      (if_neg (hne .persistentKeepalive))

/-- A setting of the interface. -/
lemma interfaceField_writes {key : InterfaceKey} {value : Bytes}
    (h : (key.setting config).Writes value) (hwritable : (key.setting config).Writable) :
    p.interfaceField key.name value = { p with config := key.copy config p.config } := by
  cases key with
  | privateKey =>
    obtain rfl : value = config.privateKey := h
    rfl
  | address =>
    obtain rfl : value = config.address := h
    rfl
  | dns =>
    obtain rfl : value = config.dns := h
    rfl
  | listenPort =>
    simp only [Parser.interfaceField, InterfaceKey.name, parseInt_of_writes h hwritable]
    rfl
  | mtu =>
    simp only [Parser.interfaceField, InterfaceKey.name, parseInt_of_writes h hwritable]
    rfl

/-- A setting of the peer. -/
lemma peerField_writes {key : PeerKey} {value : Bytes} (h : (key.setting peer).Writes value)
    (hwritable : (key.setting peer).Writable) :
    p.peerField key.name value = { p with peer := key.copy peer p.peer } := by
  cases key with
  | publicKey =>
    obtain rfl : value = peer.publicKey := h
    rfl
  | presharedKey =>
    obtain rfl : value = peer.presharedKey := h
    rfl
  | endpoint =>
    obtain rfl : value = peer.endpoint := h
    rfl
  | allowedIps =>
    obtain rfl : value = peer.allowedIps := h
    rfl
  | persistentKeepalive =>
    simp only [Parser.peerField, PeerKey.name, parseInt_of_writes h hwritable]
    rfl

lemma keyOk_interfaceKey (key : InterfaceKey) : keyOk key.name = true := by
  cases key <;> decide

lemma keyOk_peerKey (key : PeerKey) : keyOk key.name = true := by
  cases key <;> decide

/-- A section of the interface. -/
lemma run_interface (hp : p.closed.config = { ({} : Config) with peers := p.closed.config.peers })
    (hwritable : ∀ key, (InterfaceKey.setting config key).Writable)
    (h : Lines "[interface]" InterfaceKey.name (InterfaceKey.setting config)
      (InterfaceKey.setting {}) lines) :
    (lines.foldl Parser.line p).closed =
      { p.closed with config := { config with peers := p.closed.config.peers } } := by
  obtain ⟨header, body, rfl, hheader, hknown, hcomplete⟩ := h
  let start : Parser := { p.closed with block := .interface }
  have hstart : p.line header = start := line_header hheader
  let Within (q : Parser) : Prop :=
    ∃ c, q = { start with config := c } ∧ c.peers = p.closed.config.peers
  have hignored : ∀ q line, Within q → Ignored (Set.range InterfaceKey.name) line →
      q.line line = q := by
    rintro _ line ⟨c, rfl, -⟩ hline
    exact line_ignored hline fun key value hkey => interfaceField_eq hkey
  have hwritten : ∀ q (key : InterfaceKey) line, Within q →
      Written key.name (key.setting config) line → Within (q.line line) ∧
        key.setting (q.line line).config = key.setting config ∧
        ∀ other ≠ key, other.setting (q.line line).config = other.setting q.config := by
    rintro _ key line ⟨c, rfl, hpeers⟩ hline
    obtain ⟨value, hwrites, hfield⟩ := @line_written { start with config := c } _ _ _ hline
      (keyOk_interfaceKey key) (hwritable key)
    have hread := @interfaceField_writes { start with config := c } _ _ _ hwrites (hwritable key)
    have hresult := hfield.trans hread
    rw [hresult]
    exact ⟨⟨_, rfl, (InterfaceKey.peers_copy config key c).trans hpeers⟩,
      InterfaceKey.setting_copy config key c,
      fun other hother => InterfaceKey.setting_copy_of_ne config c hother⟩
  have hdefault : ∀ key, InterfaceKey.setting start.config key = InterfaceKey.setting {} key := by
    intro key
    have hconfig : start.config = { ({} : Config) with peers := p.closed.config.peers } := hp
    rw [hconfig]
    cases key <;> rfl
  obtain ⟨⟨c, hrun, hpeers⟩, hsettings⟩ := @run_body start body _ _ _
    (fun q key => InterfaceKey.setting q.config key) Within hignored hwritten hknown
    (fun key => by rw [hdefault key]; exact hcomplete key) ⟨_, rfl, rfl⟩
  rw [List.foldl_cons, hstart, hrun, Parser.closed_of_block (by simp [start])]
  rw [hrun] at hsettings
  have hconfig := InterfaceKey.eq_of_setting hsettings
  rw [hpeers] at hconfig
  rw [hconfig]
  rfl

/-- A section of the peer. -/
lemma run_peer (hwritable : ∀ key, (PeerKey.setting peer key).Writable)
    (hpublic : peer.publicKey ≠ [])
    (h : Lines "[peer]" PeerKey.name (PeerKey.setting peer) (PeerKey.setting {}) lines) :
    (lines.foldl Parser.line p).closed =
      { p.closed with
        config := { p.closed.config with peers := p.closed.config.peers ++ [peer] } } := by
  obtain ⟨header, body, rfl, hheader, hknown, hcomplete⟩ := h
  let start : Parser := { p.closed with block := .peer }
  have hstart : p.line header = start := line_header hheader
  let Within (q : Parser) : Prop := ∃ q', q = { start with peer := q' }
  have hignored : ∀ q line, Within q → Ignored (Set.range PeerKey.name) line →
      q.line line = q := by
    rintro _ line ⟨q, rfl⟩ hline
    exact line_ignored hline fun key value hkey => peerField_eq hkey
  have hwritten : ∀ q (key : PeerKey) line, Within q →
      Written key.name (key.setting peer) line → Within (q.line line) ∧
        key.setting (q.line line).peer = key.setting peer ∧
        ∀ other ≠ key, other.setting (q.line line).peer = other.setting q.peer := by
    rintro _ key line ⟨q, rfl⟩ hline
    obtain ⟨value, hwrites, hfield⟩ := @line_written { start with peer := q } _ _ _ hline
      (keyOk_peerKey key) (hwritable key)
    have hread := @peerField_writes { start with peer := q } _ _ _ hwrites (hwritable key)
    have hresult := hfield.trans hread
    rw [hresult]
    exact ⟨⟨_, rfl⟩, PeerKey.setting_copy peer key q,
      fun other hother => PeerKey.setting_copy_of_ne peer q hother⟩
  obtain ⟨⟨q, hrun⟩, hsettings⟩ := @run_body start body _ _ _
    (fun q key => PeerKey.setting q.peer key) Within hignored hwritten hknown hcomplete
    ⟨_, rfl⟩
  rw [hrun] at hsettings
  obtain rfl : q = peer := PeerKey.eq_of_setting hsettings
  rw [List.foldl_cons, hstart, hrun, Parser.closed, Parser.flushPeer, if_pos ⟨rfl, hpublic⟩]
  rfl

/-- What has been read is the configuration. -/
lemma finish_config (config : Config) : Parser.finish { config := config } = config := by
  rw [Parser.finish, Parser.flushPeer, if_neg (by simp)]
  rfl

/-- However a configuration is written, it is what is read. -/
theorem parseConf_rendering {text : Bytes} (hpeers : config.peers = [peer])
    (hinterface : ∀ key, (InterfaceKey.setting config key).Writable)
    (hpeer : ∀ key, (PeerKey.setting peer key).Writable) (hpublic : peer.publicKey ≠ [])
    (h : Rendering config peer (text.splitOn newline)) : parseConf text = config := by
  obtain ⟨top, before, first, between, second, after, hlines, htop, hbefore, hbetween, hafter,
    hsections⟩ := h
  have hconfig : { config with peers := [peer] } = config := by rw [← hpeers]
  have hend : ((text.splitOn newline).foldl Parser.line {}).closed = { config := config } := by
    rw [hlines]
    simp only [List.foldl_append]
    rw [run_foreign hafter]
    have hstart : ((before.foldl Parser.line (top.foldl Parser.line {}))).closed = {} := by
      rw [run_foreign hbefore, run_ignored rfl htop]
      rfl
    rcases hsections with ⟨hfirst, hsecond⟩ | ⟨hfirst, hsecond⟩
    · rw [run_peer hpeer hpublic hsecond, run_foreign hbetween,
        run_interface (by rw [hstart]) hinterface hfirst, hstart]
      exact congrArg (fun c : Config => ({ config := c } : Parser)) hconfig
    · have hread := @run_peer (before.foldl Parser.line (top.foldl Parser.line {})) _ _ hpeer
        hpublic hfirst
      rw [hstart] at hread
      have hmiddle : (between.foldl Parser.line (first.foldl Parser.line
          (before.foldl Parser.line (top.foldl Parser.line {})))).closed =
            { config := { peers := [peer] } } := by
        rw [run_foreign hbetween, hread]
        rfl
      rw [run_interface (by rw [hmiddle]) hinterface hsecond, hmiddle]
      exact congrArg (fun c : Config => ({ config := c } : Parser)) hconfig
  rw [parseConf, ← Parser.finish_closed, hend, finish_config]

/-! ## Numbers that cannot be read -/

/-- A decimal integer, perhaps with a sign, that is neither negative nor greater than an `int`. -/
def InRange (value : Bytes) : Prop :=
  ∃ digits, digits ≠ [] ∧ digits.all isdigit = true ∧
    ((value = digits ∨ value = 43 :: digits) ∧ digitsValue digits ≤ 0x7fffffff ∨
      value = minus :: digits ∧ digitsValue digits = 0)

/-- A line with a number that is out of range, or with none. -/
def OutOfRange (name : String) (line : Bytes) : Prop :=
  ∃ value, Entry line (ascii name) value ∧ Clean value ∧ ¬InRange value

/-- The lines below the title of a section, up to the next title. -/
def Block (title : String) (body lines : List Bytes) : Prop :=
  ∃ before header after, lines = before ++ header :: (body ++ after) ∧
    Header header (ascii title) ∧ (∀ line ∈ body, ∀ other, ¬Header line other) ∧
    ∀ line ∈ after.head?, ∃ other, Header line other

/-- The last public key of a peer that is kept is not empty. -/
def Kept (body : List Bytes) : Prop :=
  ∃ above line below key, body = above ++ line :: below ∧ Entry line (ascii "publickey") key ∧
    Clean key ∧ key ≠ [] ∧ ∀ line ∈ below, ∀ key, ¬Entry line (ascii "publickey") key

/-- A number of the interface, or of a peer that is kept, is out of range. -/
def BadNumber (lines : List Bytes) : Prop :=
  (∃ body, Block "[interface]" body lines ∧
      ∃ line ∈ body, OutOfRange "listenport" line ∨ OutOfRange "mtu" line) ∨
    ∃ body, Block "[peer]" body lines ∧ Kept body ∧
      ∃ line ∈ body, OutOfRange "persistentkeepalive" line

lemma parseInt_eq_none {value : Bytes} (htrim : trim value = value) (h : ¬InRange value) :
    parseInt value = none := by
  rw [Option.eq_none_iff_forall_ne_some]
  intro n hread
  apply h
  have hfront : value.dropWhile isspace = value := dropWhile_of_strip htrim
  rw [parseInt, hfront] at hread
  dsimp only at hread
  split_ifs at hread with hshape hrange
  rw [not_or, Bool.not_eq_false] at hshape
  refine ⟨(splitSign value).2, hshape.1, hshape.2, ?_⟩
  unfold splitSign signed at *
  split at hrange
  · refine .inr ⟨rfl, ?_⟩
    dsimp only at hrange ⊢
    rw [if_pos rfl] at hrange
    omega
  · refine .inl ⟨.inr rfl, ?_⟩
    dsimp only at hrange ⊢
    rw [if_neg Bool.false_ne_true] at hrange
    omega
  · refine .inl ⟨.inl rfl, ?_⟩
    dsimp only at hrange ⊢
    rw [if_neg Bool.false_ne_true] at hrange
    omega

/-- What stays as it is while lines are read. -/
structure Grows (p q : Parser) : Prop where
  listenPort : p.badListenPort = true → q.badListenPort = true
  mtu : p.badMtu = true → q.badMtu = true
  keepalive : p.badKeepalive = true → q.badKeepalive = true
  peers : p.config.peers <+: q.config.peers

lemma Grows.refl (p : Parser) : Grows p p := ⟨id, id, id, List.prefix_rfl⟩

lemma Grows.trans {p q r : Parser} (h : Grows p q) (h' : Grows q r) : Grows p r :=
  ⟨fun hp => h'.listenPort (h.listenPort hp), fun hp => h'.mtu (h.mtu hp),
    fun hp => h'.keepalive (h.keepalive hp), h.peers.trans h'.peers⟩

lemma grows_flushPeer (p : Parser) : Grows p p.flushPeer := by
  refine ⟨id, id, id, ?_⟩
  unfold Parser.flushPeer
  split_ifs
  · exact List.prefix_append _ _
  · exact List.prefix_rfl

lemma grows_field (p : Parser) (key value : Bytes) : Grows p (p.field key value) := by
  unfold Parser.field Parser.interfaceField Parser.peerField
  repeat' split
  all_goals exact ⟨by simp, by simp, by simp, List.prefix_rfl⟩

lemma grows_line (p : Parser) (line : Bytes) : Grows p (p.line line) := by
  rcases line_cases p line with hline | ⟨title, -, hline⟩ | ⟨key, value, -, -, hline⟩
  · rw [hline]
    exact Grows.refl p
  · rw [hline]
    obtain ⟨hport, hmtu, hkeepalive, hpeers⟩ := grows_flushPeer p
    exact ⟨hport, hmtu, hkeepalive, hpeers⟩
  · rw [hline]
    exact grows_field p key value

theorem grows_run (p : Parser) (lines : List Bytes) : Grows p (lines.foldl Parser.line p) := by
  induction lines generalizing p with
  | nil => exact Grows.refl p
  | cons line lines ih => exact (grows_line p line).trans (ih (p.line line))

lemma block_field (p : Parser) (key value : Bytes) : (p.field key value).block = p.block := by
  unfold Parser.field Parser.interfaceField Parser.peerField
  repeat' split
  all_goals rfl

lemma publicKey_field {key : Bytes} (hkey : key ≠ ascii "publickey") (value : Bytes) :
    (p.field key value).peer.publicKey = p.peer.publicKey := by
  unfold Parser.field Parser.interfaceField Parser.peerField
  rw [if_neg hkey]
  repeat' split
  all_goals rfl

/-- Within a section. -/
lemma block_run (h : ∀ line ∈ lines, ∀ other, ¬Header line other) :
    (lines.foldl Parser.line p).block = p.block := by
  induction lines generalizing p with
  | nil => rfl
  | cons line lines ih =>
    rw [List.forall_mem_cons] at h
    rw [List.foldl_cons, ih h.2]
    rcases line_cases p line with hline | ⟨title, htitle, -⟩ | ⟨key, value, -, -, hline⟩
    · rw [hline]
    · exact absurd htitle (h.1 title)
    · rw [hline, block_field]

/-- Behind the last public key. -/
lemma publicKey_run (h : ∀ line ∈ lines, ∀ other, ¬Header line other)
    (hkey : ∀ line ∈ lines, ∀ key, ¬Entry line (ascii "publickey") key) :
    (lines.foldl Parser.line p).peer.publicKey = p.peer.publicKey := by
  induction lines generalizing p with
  | nil => rfl
  | cons line lines ih =>
    rw [List.forall_mem_cons] at h hkey
    rw [List.foldl_cons, ih h.2 hkey.2]
    rcases line_cases p line with hline | ⟨title, htitle, -⟩ | ⟨key, value, hentry, -, hline⟩
    · rw [hline]
    · exact absurd htitle (h.1 title)
    · rw [hline, publicKey_field]
      rintro rfl
      exact hkey.1 value hentry

lemma line_outOfRange {name : String} {line : Bytes} (hname : keyOk (ascii name) = true)
    (h : OutOfRange name line) :
    ∃ value, parseInt value = none ∧ p.line line = p.field (ascii name) value := by
  obtain ⟨value, hentry, hclean, hrange⟩ := h
  exact ⟨value, parseInt_eq_none hclean.trimmed hrange, line_entry hentry hname hclean⟩

/-- A parser that ends like this has a problem. -/
lemma validate_finish (h : p.badListenPort = true ∨ p.badMtu = true ∨
    p.badKeepalive = true ∧ p.flushPeer.config.peers ≠ []) : validate p.finish ≠ .none := by
  intro hvalid
  obtain ⟨hport, hmtu, hkeepalive⟩ := validate_eq_none hvalid
  unfold Parser.finish at hport hmtu hkeepalive
  dsimp only at hport hmtu hkeepalive
  rcases h with hbad | hbad | ⟨hbad, hpeers⟩
  · rw [if_pos hbad] at hport
    exact absurd hport (by decide)
  · rw [if_pos hbad] at hmtu
    exact absurd hmtu (by decide)
  · obtain ⟨first, rest, heq⟩ := List.exists_cons_of_ne_nil hpeers
    rw [if_pos hbad, heq, List.modifyHead_cons] at hkeepalive
    exact absurd (hkeepalive _ List.mem_cons_self) (show ¬(0 : ℤ) ≤ -1 by decide)

/-- Some line below the title is read within the section. -/
lemma run_block {title : String} {line : Bytes} (h : Block title body lines) (hline : line ∈ body) :
    ∃ q : Parser, q.block = sectionOf (ascii title) ∧
      Grows (q.line line) (lines.foldl Parser.line p) := by
  obtain ⟨before, header, after, rfl, hheader, hbody, -⟩ := h
  obtain ⟨above, below, rfl⟩ := List.append_of_mem hline
  refine ⟨above.foldl Parser.line ((before.foldl Parser.line p).line header), ?_, ?_⟩
  · rw [block_run fun line hline => hbody line (List.mem_append_left _ hline), line_header hheader]
  · rw [List.foldl_append, List.foldl_cons, List.foldl_append, List.foldl_append, List.foldl_cons]
    exact (grows_run _ below).trans (grows_run _ after)

/-- A peer that is kept is among the peers in the end. -/
lemma run_kept (h : Block "[peer]" body lines) (hkept : Kept body) :
    (lines.foldl Parser.line p).flushPeer.config.peers ≠ [] := by
  obtain ⟨before, header, after, rfl, hheader, hbody, hafter⟩ := h
  obtain ⟨above, line, below, key, rfl, hentry, hclean, hkey, hbelow⟩ := hkept
  let start := above.foldl Parser.line ((before.foldl Parser.line p).line header)
  have hstart : start.block = .peer := by
    have habove : ∀ line ∈ above, ∀ other, ¬Header line other :=
      fun line hline => hbody line (List.mem_append_left _ hline)
    rw [block_run habove, line_header hheader]
    rfl
  have hline : start.line line = { start with peer := { start.peer with publicKey := key } } := by
    have hfield : start.field (ascii "publickey") key =
        start.peerField (ascii "publickey") key := by
      rw [Parser.field, hstart]
    rw [line_entry hentry (by decide) hclean, hfield]
    rfl
  let last := below.foldl Parser.line (start.line line)
  have hheaders : ∀ line ∈ below, ∀ other, ¬Header line other :=
    fun line hline => hbody line (List.mem_append_right _ (List.mem_cons_of_mem _ hline))
  have hblock : last.block = .peer := by
    rw [block_run hheaders, hline, hstart]
  have hpublic : last.peer.publicKey = key := by
    rw [publicKey_run hheaders hbelow, hline]
  have hlast : last.flushPeer.config.peers ≠ [] := by
    rw [Parser.flushPeer, if_pos ⟨hblock, hpublic ▸ hkey⟩]
    exact List.append_ne_nil_of_right_ne_nil _ (List.cons_ne_nil _ _)
  rw [List.foldl_append, List.foldl_cons, List.foldl_append, List.foldl_append, List.foldl_cons]
  cases after with
  | nil => exact hlast
  | cons title after =>
    obtain ⟨other, htitle⟩ := hafter title rfl
    have hgrows := (grows_run (last.line title) after).trans (grows_flushPeer _)
    rw [line_header htitle] at hgrows
    intro hnil
    rw [List.foldl_cons, line_header htitle] at hnil
    exact hlast (List.prefix_nil.mp (hnil ▸ hgrows.peers))

/-- A number that cannot be read is a problem. -/
theorem validate_badNumber {text : Bytes} (h : BadNumber (text.splitOn newline)) :
    validate (parseConf text) ≠ .none := by
  apply validate_finish
  obtain ⟨body, hblock, line, hline, hbad⟩ | ⟨body, hblock, hkept, line, hline, hbad⟩ := h
  · obtain ⟨q, hq, hgrows⟩ := @run_block {} _ _ _ _ hblock hline
    have hsection : q.block = .interface := hq
    rcases hbad with hbad | hbad
    · obtain ⟨value, hread, hfield⟩ := @line_outOfRange q _ _ (by decide) hbad
      refine .inl (hgrows.listenPort ?_)
      rw [hfield, Parser.field, hsection]
      simp only [Parser.interfaceField, hread]
      rfl
    · obtain ⟨value, hread, hfield⟩ := @line_outOfRange q _ _ (by decide) hbad
      refine .inr (.inl (hgrows.mtu ?_))
      rw [hfield, Parser.field, hsection]
      simp only [Parser.interfaceField, hread]
      rfl
  · obtain ⟨q, hq, hgrows⟩ := @run_block {} _ _ _ _ hblock hline
    have hsection : q.block = .peer := hq
    obtain ⟨value, hread, hfield⟩ := @line_outOfRange q _ _ (by decide) hbad
    refine .inr (.inr ⟨hgrows.keepalive ?_, run_kept hblock hkept⟩)
    rw [hfield, Parser.field, hsection]
    simp only [Parser.peerField, hread]
    rfl

/-- **Reading a configuration inverts writing it, and bad numbers are found.** -/
theorem parseConf_inverts :
    (∀ (config : Config) (peer : PeerConfig) (text : Bytes), config.peers = [peer] →
      peer.publicKey ≠ [] → (∀ key, (InterfaceKey.setting config key).Writable) →
      (∀ key, (PeerKey.setting peer key).Writable) →
      Rendering config peer (text.splitOn newline) → parseConf text = config) ∧
    ∀ text, BadNumber (text.splitOn newline) → validate (parseConf text) ≠ .none :=
  ⟨fun _ _ _ hpeers hpublic hinterface hpeer h =>
    parseConf_rendering hpeers hinterface hpeer hpublic h, fun _ => validate_badNumber⟩

/-- A configuration with two settings, written with comments and line ends of both kinds. -/
def smallText : Bytes :=
  ascii "[INTERFACE] # ours\r\nPrivateKey = a\r\n\r\n[Peer]\n\tPublicKey=b;c"

def smallPeer : PeerConfig := { publicKey := ascii "b" }

def smallConfig : Config := { privateKey := ascii "a", peers := [smallPeer] }

lemma rendering_small : Rendering smallConfig smallPeer (smallText.splitOn newline) := by
  have hlines : smallText.splitOn newline =
      [ascii "[INTERFACE] # ours\r", ascii "PrivateKey = a\r", ascii "\r", ascii "[Peer]",
        ascii "\tPublicKey=b;c"] := by decide +kernel
  have htitle : Header (ascii "[INTERFACE] # ours\r") (ascii "[interface]") :=
    ⟨ascii "[INTERFACE]", ⟨[], ascii " ", ascii "# ours\r", by decide, rfl, by decide,
        by decide +kernel⟩,
      ⟨by decide +kernel, by decide +kernel⟩, rfl, by decide⟩
  have hkey : Written (ascii "privatekey") (.text (ascii "a")) (ascii "PrivateKey = a\r") :=
    ⟨ascii "a", ⟨ascii "PrivateKey", ascii " ", ascii " ", by decide, by decide, by decide,
      [], ascii "\r", [], by decide, rfl, by decide, nofun⟩, rfl⟩
  have hblank : Ignored (Set.range InterfaceKey.name) (ascii "\r") :=
    ⟨[], ⟨ascii "\r", [], [], by decide, by decide, rfl, nofun⟩, ⟨nofun, rfl⟩, nofun,
      fun name value h => by simp at h⟩
  have hpeer : Header (ascii "[Peer]") (ascii "[peer]") :=
    ⟨ascii "[Peer]", ⟨[], [], [], by decide, rfl, rfl, nofun⟩,
      ⟨by decide +kernel, by decide +kernel⟩, rfl, by decide⟩
  have hpublic : Written (ascii "publickey") (.text (ascii "b")) (ascii "\tPublicKey=b;c") :=
    ⟨ascii "b", ⟨ascii "PublicKey", [], [], by decide, rfl, rfl, ascii "\t", [], ascii ";c",
      by decide, by decide, rfl, by decide +kernel⟩, rfl⟩
  refine ⟨[], [], [_, _, _], [], [_, _], [], hlines, nofun, .nil, .nil, .nil,
    .inl ⟨⟨_, _, rfl, htitle, ?_, ?_⟩, ⟨_, _, rfl, hpeer, ?_, ?_⟩⟩⟩
  · intro line hline
    rcases List.mem_pair.mp hline with rfl | rfl
    · exact .inr ⟨.privateKey, hkey⟩
    · exact .inl hblank
  · intro key
    cases key with
    | privateKey => exact .inr ⟨_, List.mem_cons_self, hkey⟩
    | _ => exact .inl rfl
  · intro line hline
    rw [List.mem_singleton.mp hline]
    exact .inr ⟨.publicKey, hpublic⟩
  · intro key
    cases key with
    | publicKey => exact .inr ⟨_, List.mem_cons_self, hpublic⟩
    | _ => exact .inl rfl

theorem parseConf_inverts_small : parseConf smallText = smallConfig := by
  refine parseConf_inverts.1 smallConfig smallPeer smallText rfl (by decide) (fun key => ?_)
    (fun key => ?_) rendering_small
  · cases key with
    | privateKey => exact ⟨by decide +kernel, by decide +kernel⟩
    | listenPort => exact ⟨by decide, by decide⟩
    | mtu => exact ⟨by decide, by decide⟩
    | _ => exact ⟨nofun, rfl⟩
  · cases key with
    | publicKey => exact ⟨by decide +kernel, by decide +kernel⟩
    | persistentKeepalive => exact ⟨by decide, by decide⟩
    | _ => exact ⟨nofun, rfl⟩

end ArtemisSwitch.WireGuard

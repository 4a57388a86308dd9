import ArtemisSwitch.Jansson
import ArtemisSwitch.WireGuardLines

/-!
# Static NetBird configurations

`parse_netbird_static_config` writes a JSON bundle as a WireGuard configuration, which
`parse_wireguard_conf` reads again.
-/

namespace ArtemisSwitch.NetBirdStatic
open HostAddress HostStore DecimalText VpnConfig Jansson WireGuard

/-- The text under a name, or nothing. -/
def member (object : Value) (name : String) : Bytes := (object.read Value.text name).getD []

/-- A `std::string` of the C string. -/
def stringValue (object : Value) (name : String) : Bytes := cString (member object name)

/-- The texts of `AllowedIPs`, which is one text or an array of some. -/
def allowedTexts : Value → Option (List Bytes)
  | .string value => some [value]
  | .array items => if items = [] then none else items.mapM Value.text
  | _ => none

def joined (texts : List Bytes) : Bytes := (ascii ", ").intercalate texts

def appendAllowedIps (value : Value) : Option Bytes :=
  (allowedTexts value).map fun texts => joined (texts.map cString)

/-- `json_integer_value`, if the member is an integer. -/
def integerValue (object : Value) (name : String) : Option ℤ :=
  match object.get (ascii name) with
  | some (.integer value) => some value.toInt
  | _ => none

/-- An integer on a stream. -/
def integerText (n : ℤ) : Bytes := if n < 0 then minus :: decimal n.natAbs else decimal n.natAbs

def setting (name : String) (value : Bytes) : Bytes :=
  ascii name ++ ascii " = " ++ value ++ ascii "\n"

def integerSetting (object : Value) (name : String) : Bytes :=
  match integerValue object name with
  | some n => setting name (integerText n)
  | none => []

def peerText (peer : Value) : Except Bytes Bytes :=
  if peer.isObject = false then .error (ascii "invalid_peer")
  else
    match peer.get (ascii "AllowedIPs") with
    | none => .error (ascii "missing_peer_fields")
    | some allowedIps =>
      if stringValue peer "PublicKey" = [] ∨ stringValue peer "Endpoint" = [] then
        .error (ascii "missing_peer_fields")
      else
        match appendAllowedIps allowedIps with
        | none => .error (ascii "invalid_allowed_ips")
        | some allowed =>
          let presharedKey := stringValue peer "PresharedKey"
          .ok (ascii "\n[Peer]\n" ++ setting "PublicKey" (stringValue peer "PublicKey") ++
            setting "Endpoint" (stringValue peer "Endpoint") ++ setting "AllowedIPs" allowed ++
            (if presharedKey = [] then [] else setting "PresharedKey" presharedKey) ++
            integerSetting peer "PersistentKeepalive")

def interfaceText (root : Value) : Bytes :=
  ascii "[Interface]\n" ++ setting "PrivateKey" (stringValue root "PrivateKey") ++
    setting "Address" (stringValue root "Address") ++ integerSetting root "ListenPort" ++
    integerSetting root "MTU"

structure Result where
  wireguardConfig : Bytes := []
  error : Bytes := []
  deriving DecidableEq, Repr

/-- `root` is what `json_loadb` makes of the text. -/
def parseNetbirdStaticConfig (root : Option Value) : Result :=
  match root with
  | none => { error := ascii "invalid_json" }
  | some root =>
    if root.isObject = false then { error := ascii "invalid_json" }
    else
      match root.get (ascii "Peers") with
      | some (.array peers) =>
        if stringValue root "PrivateKey" = [] ∨ stringValue root "Address" = [] ∨ peers = [] then
          { error := ascii "missing_static_fields" }
        else
          match peers.mapM peerText with
          | .error error => { error := error }
          | .ok texts => { wireguardConfig := interfaceText root ++ texts.flatten }
      | _ => { error := ascii "missing_static_fields" }

/-! ## What the bundle says -/

def InRange (n : Option ℤ) : Prop := ∀ i ∈ n, 0 ≤ i ∧ i ≤ 0x7fffffff

def peerConfig (peer : Value) : PeerConfig where
  publicKey := member peer "PublicKey"
  presharedKey := member peer "PresharedKey"
  endpoint := member peer "Endpoint"
  allowedIps := joined (((peer.get (ascii "AllowedIPs")).bind allowedTexts).getD [])
  persistentKeepalive := (integerValue peer "PersistentKeepalive").getD 0

def peers (root : Value) : List Value := ((root.get (ascii "Peers")).map Value.items).getD []

def config (root : Value) : Config where
  privateKey := member root "PrivateKey"
  address := member root "Address"
  listenPort := (integerValue root "ListenPort").getD 0
  mtu := (integerValue root "MTU").getD 0
  peers := (peers root).map peerConfig

/-- The integers of the bundle that are read fit into `int`. -/
structure IntegersFit (root : Value) : Prop where
  listenPort : InRange (integerValue root "ListenPort")
  mtu : InRange (integerValue root "MTU")
  persistentKeepalive : ∀ peer ∈ peers root, InRange (integerValue peer "PersistentKeepalive")

/-- A text that a line of the configuration can carry. -/
structure Carried (s : Bytes) : Prop where
  plain : ∀ c ∈ s, c ≠ 0 ∧ c ≠ newline ∧ Parser.isComment c = false
  trimmed : trim s = s

/-! ## Reading a line -/

variable {p : Parser} {key v rest : Bytes}

lemma Carried.clean (h : Carried v) : Clean v := ⟨fun c hc => (h.plain c hc).2.2, h.trimmed⟩

/-- A line with a name and a text that it can carry is read as that field. -/
lemma line_setting (h : keyOk key = true) (hv : Carried v) :
    p.line (key ++ ascii " = " ++ v) = p.field (lowercase key) v := by
  refine @line_spelled _ _ _ _ [32] [32] h (by decide) (by decide) hv.clean
    ⟨[], [], [], ?_, rfl, rfl, nofun⟩
  rw [List.append_nil, List.append_nil, List.nil_append, List.append_assoc key,
    List.append_assoc key]
  rfl

/-! ## Reading the bundle back -/

/-- The loop over the lines of a text. -/
def run (p : Parser) (text : Bytes) : Parser := (text.splitOn newline).foldl Parser.line p

lemma parseConf_eq (text : Bytes) : parseConf text = (run {} text).finish := rfl

lemma run_line {line : Bytes} (h : newline ∉ line) :
    run p (line ++ newline :: rest) = run (p.line line) rest := by
  rw [run, List.splitOn_append_cons_self_of_not_mem h]
  rfl

lemma run_setting {name : String} (h : keyOk (ascii name) = true) (hv : Carried v) :
    run p (setting name v ++ rest) = run (p.field (lowercase (ascii name)) v) rest := by
  have hline : setting name v ++ rest = ascii name ++ ascii " = " ++ v ++ newline :: rest := by
    rw [setting, List.append_assoc]
    rfl
  have hnewline : newline ∉ ascii name ++ ascii " = " ++ v := by
    rw [List.mem_append, List.mem_append]
    rintro ((hc | hc) | hc)
    · exact ((keyOk_iff.mp h).2 _ hc).2.2.2.2 rfl
    · revert hc
      decide
    · exact (hv.plain _ hc).2.1 rfl
  rw [hline, run_line hnewline, line_setting h hv]

lemma carried_of_digits {digits : Bytes} (h : digits.all isdigit = true) : Carried digits := by
  have hclean := clean_of_digits h
  refine ⟨fun c hc => ⟨?_, ?_, hclean.uncommented c hc⟩, hclean.trimmed⟩ <;>
  · rintro rfl
    exact absurd (List.all_eq_true.mp h _ hc) (by decide)

/-- A number that `int` holds is read back. -/
lemma parseInt_integerText {n : ℤ} (hn : 0 ≤ n) (hmax : n ≤ 0x7fffffff) :
    parseInt (integerText n) = some n := by
  have htext : integerText n = decimal n.natAbs := if_neg (not_lt.mpr hn)
  have habs : signed false n.natAbs = n := by
    rw [signed]
    simp only [Bool.false_eq_true, if_false]
    omega
  rw [parseInt, htext, dropWhile_decimal, splitSign_decimal]
  dsimp only
  rw [if_neg, digitsValue_decimal, habs, if_neg (by omega)]
  rw [all_isdigit_decimal]
  simp [decimal_ne_nil]

/-- `set` is what the field of a number does. -/
lemma run_integerSetting {object : Value} {name : String} {set : ℤ → Parser}
    (h : keyOk (ascii name) = true) (hrange : InRange (integerValue object name))
    (hset : ∀ n text, parseInt text = some n → p.field (lowercase (ascii name)) text = set n)
    (hdefault : set 0 = p) : run p (integerSetting object name ++ rest) =
      run (set ((integerValue object name).getD 0)) rest := by
  rw [integerSetting]
  cases hn : integerValue object name with
  | none =>
    rw [Option.getD_none, hdefault]
    rfl
  | some n =>
    obtain ⟨hlow, hhigh⟩ := hrange n hn
    have htext : integerText n = decimal n.natAbs := if_neg (not_lt.mpr hlow)
    have hcarried : Carried (integerText n) := by
      rw [htext]
      exact carried_of_digits (all_isdigit_decimal _)
    dsimp only
    rw [run_setting h hcarried, hset n _ (parseInt_integerText hlow hhigh)]
    rfl

lemma cString_of_carried (h : Carried v) : cString v = v :=
  List.takeWhile_eq_self_iff.mpr fun c hc => by simpa using (h.plain c hc).1

lemma field_listenPort {config : Config} {text : Bytes} {n : ℤ} (h : parseInt text = some n) :
    Parser.field { block := .interface, config := config } (lowercase (ascii "ListenPort")) text =
      { block := .interface, config := { config with listenPort := n } } := by
  have hkey : lowercase (ascii "ListenPort") = ascii "listenport" := by rfl
  rw [hkey, Parser.field, Parser.interfaceField, if_neg (by decide), if_neg (by decide),
    if_neg (by decide), if_pos rfl, h]

lemma field_mtu {config : Config} {text : Bytes} {n : ℤ} (h : parseInt text = some n) :
    Parser.field { block := .interface, config := config } (lowercase (ascii "MTU")) text =
      { block := .interface, config := { config with mtu := n } } := by
  have hkey : lowercase (ascii "MTU") = ascii "mtu" := by rfl
  rw [hkey, Parser.field, Parser.interfaceField, if_neg (by decide), if_neg (by decide),
    if_neg (by decide), if_neg (by decide), if_pos rfl, h]

/-- A parser that reads a peer. -/
def reading (p : Parser) (peer : PeerConfig) : Parser :=
  { p.flushPeer with block := .peer, peer := peer }

lemma field_persistentKeepalive {peer : PeerConfig} {text : Bytes} {n : ℤ}
    (h : parseInt text = some n) :
    (reading p peer).field (lowercase (ascii "PersistentKeepalive")) text =
      reading p { peer with persistentKeepalive := n } := by
  have hkey : lowercase (ascii "PersistentKeepalive") = ascii "persistentkeepalive" := by rfl
  show Parser.peerField _ _ _ = _
  rw [hkey, Parser.peerField, if_neg (by decide), if_neg (by decide), if_neg (by decide),
    if_neg (by decide), if_pos rfl, h]
  rfl

/-- What has been read once the interface has been. -/
lemma run_interfaceText {root : Value} (hkey : Carried (member root "PrivateKey"))
    (haddress : Carried (member root "Address"))
    (hport : InRange (integerValue root "ListenPort")) (hmtu : InRange (integerValue root "MTU")) :
    run {} (interfaceText root ++ rest) =
      run { block := .interface, config := { config root with peers := [] } } rest := by
  have hheader : Parser.line {} (ascii "[Interface]") = { block := .interface } := by rfl
  have hfirst : ascii "[Interface]\n" = ascii "[Interface]" ++ newline :: [] := by rfl
  have hfields : Parser.field (Parser.field { block := .interface }
      (lowercase (ascii "PrivateKey")) (member root "PrivateKey"))
      (lowercase (ascii "Address")) (member root "Address") =
      { block := .interface, config := { privateKey := member root "PrivateKey"
                                         address := member root "Address" } } := by
    rfl
  simp only [interfaceText, List.append_assoc, stringValue, cString_of_carried hkey,
    cString_of_carried haddress]
  rw [hfirst, List.append_assoc, List.cons_append, List.nil_append, run_line (by decide), hheader,
    run_setting (by decide) hkey, run_setting (by decide) haddress, hfields,
    run_integerSetting (by decide) hport (fun n text h => field_listenPort h) rfl,
    run_integerSetting (by decide) hmtu (fun n text h => field_mtu h) rfl]
  rfl

/-- The texts of a configuration. -/
def peerTexts (peer : PeerConfig) : List Bytes :=
  [peer.publicKey, peer.presharedKey, peer.endpoint, peer.allowedIps]

def texts (config : Config) : List Bytes :=
  [config.privateKey, config.address] ++ config.peers.flatMap peerTexts

lemma mem_joined {values : List Bytes} {value : Bytes} {c : UInt8} (hvalue : value ∈ values)
    (hc : c ∈ value) : c ∈ joined values := by
  unfold joined
  induction values with
  | nil => cases hvalue
  | cons first values ih =>
    cases values with
    | nil =>
      rw [List.intercalate_singleton, ← List.mem_singleton.mp hvalue]
      exact hc
    | cons second values =>
      rw [List.intercalate_cons_cons, List.mem_append, List.mem_append]
      rcases List.mem_cons.mp hvalue with rfl | hrest
      · exact .inl (.inl hc)
      · exact .inr (ih hrest)

lemma map_cString_of_joined {values : List Bytes} (h : Carried (joined values)) :
    values.map cString = values := by
  have hvalue : ∀ value ∈ values, cString value = value := by
    intro value hvalue
    refine List.takeWhile_eq_self_iff.mpr fun c hc => ?_
    simpa using (h.plain c (mem_joined hvalue hc)).1
  exact (List.map_congr_left hvalue).trans (List.map_id' values)

/-- Every way in which a peer is written. -/
lemma peerText_ok {peer : Value} {text : Bytes} (h : peerText peer = .ok text) :
    ∃ values, (peer.get (ascii "AllowedIPs")).bind allowedTexts = some values ∧
      stringValue peer "PublicKey" ≠ [] ∧
      text = ascii "\n[Peer]\n" ++ setting "PublicKey" (stringValue peer "PublicKey") ++
        setting "Endpoint" (stringValue peer "Endpoint") ++
        setting "AllowedIPs" (joined (values.map cString)) ++
        (if stringValue peer "PresharedKey" = [] then []
          else setting "PresharedKey" (stringValue peer "PresharedKey")) ++
        integerSetting peer "PersistentKeepalive" := by
  unfold peerText at h
  split_ifs at h with hobject hmissing
  · split at h <;> cases h
  · split at h
    · cases h
    · rename_i allowedIps hallowed
      split at h
      · cases h
      · rename_i allowed happended
        rw [appendAllowedIps, Option.map_eq_some_iff] at happended
        obtain ⟨values, hvalues, rfl⟩ := happended
        cases h
        rw [hallowed]
        exact ⟨values, hvalues, fun h => hmissing (.inl h), rfl⟩

lemma run_peerHeader : run p (ascii "\n[Peer]\n" ++ rest) = run (reading p {}) rest := by
  have hfirst : ascii "\n[Peer]\n" = newline :: (ascii "[Peer]" ++ [newline]) := by rfl
  have hempty (rest : Bytes) : run p (newline :: rest) = run p rest :=
    @run_line _ _ [] List.not_mem_nil
  have hheader : Parser.line p (ascii "[Peer]") = reading p {} := by rfl
  rw [hfirst, List.cons_append, hempty, List.append_assoc, List.singleton_append,
    run_line (by decide), hheader]

lemma run_keepalive {peer : Value} (hrange : InRange (integerValue peer "PersistentKeepalive"))
    {config : PeerConfig} (h : config.persistentKeepalive = 0) :
    run (reading p config) (integerSetting peer "PersistentKeepalive" ++ rest) =
      run (reading p { config with persistentKeepalive :=
        (integerValue peer "PersistentKeepalive").getD 0 }) rest := by
  refine run_integerSetting (by decide) hrange (fun n text h => field_persistentKeepalive h) ?_
  rw [← h]

/-- What has been read once a peer has been. -/
lemma run_peerText {peer : Value} {text : Bytes} (h : peerText peer = .ok text)
    (hcarried : ∀ s ∈ peerTexts (peerConfig peer), Carried s)
    (hrange : InRange (integerValue peer "PersistentKeepalive")) :
    (peerConfig peer).publicKey ≠ [] ∧
      run p (text ++ rest) = run (reading p (peerConfig peer)) rest := by
  obtain ⟨values, hvalues, hkey, rfl⟩ := peerText_ok h
  simp only [peerTexts, List.forall_mem_cons, peerConfig] at hcarried
  obtain ⟨hpublic, hpsk, hendpoint, hallowed, -⟩ := hcarried
  rw [hvalues, Option.getD_some] at hallowed
  rw [stringValue, cString_of_carried hpublic] at hkey
  refine ⟨hkey, ?_⟩
  simp only [List.append_assoc, stringValue, cString_of_carried hpublic, cString_of_carried hpsk,
    cString_of_carried hendpoint, map_cString_of_joined hallowed]
  rw [run_peerHeader, run_setting (by decide) hpublic, run_setting (by decide) hendpoint,
    run_setting (by decide) hallowed]
  have hfields : Parser.field (Parser.field (Parser.field (reading p {})
      (lowercase (ascii "PublicKey")) (member peer "PublicKey"))
      (lowercase (ascii "Endpoint")) (member peer "Endpoint"))
      (lowercase (ascii "AllowedIPs")) (joined values) =
      reading p { publicKey := member peer "PublicKey", endpoint := member peer "Endpoint"
                  allowedIps := joined values } := by
    rfl
  have hend : ({ publicKey := member peer "PublicKey", presharedKey := member peer "PresharedKey"
                 endpoint := member peer "Endpoint", allowedIps := joined values
                 persistentKeepalive := (integerValue peer "PersistentKeepalive").getD 0 } :
      PeerConfig) = peerConfig peer := by
    rw [peerConfig, hvalues]
    rfl
  rw [hfields, ← hend]
  split_ifs with hnil
  · -- an empty preshared key is not written
    rw [List.nil_append, run_keepalive hrange rfl, hnil]
  · have hset (config : PeerConfig) :
        (reading p config).field (lowercase (ascii "PresharedKey")) (member peer "PresharedKey") =
          reading p { config with presharedKey := member peer "PresharedKey" } := by
      rfl
    rw [run_setting (by decide) hpsk, hset, run_keepalive hrange rfl]

lemma flushPeer_reading {peer : PeerConfig} (h : peer.publicKey ≠ []) :
    (reading p peer).flushPeer.config =
      { p.flushPeer.config with peers := p.flushPeer.config.peers ++ [peer] } := by
  have hblock : (reading p peer).block = .peer ∧ (reading p peer).peer.publicKey ≠ [] := ⟨rfl, h⟩
  exact if_pos hblock

/-- No number has failed to be read. -/
def Parser.Fine (p : Parser) : Prop :=
  p.badListenPort = false ∧ p.badMtu = false ∧ p.badKeepalive = false

lemma mapM_cons_ok {peer : Value} {peers : List Value} {texts : List Bytes}
    (h : (peer :: peers).mapM peerText = .ok texts) :
    ∃ text rest, texts = text :: rest ∧ peerText peer = .ok text ∧
      peers.mapM peerText = .ok rest := by
  rw [List.mapM_cons] at h
  cases hpeer : peerText peer with
  | error e =>
    rw [hpeer] at h
    cases h
  | ok text =>
    cases hpeers : peers.mapM peerText with
    | error e =>
      rw [hpeer, hpeers] at h
      cases h
    | ok rest =>
      rw [hpeer, hpeers] at h
      cases h
      exact ⟨text, rest, rfl, rfl, rfl⟩

/-- Peer by peer. -/
lemma run_peers {peers : List Value} {texts : List Bytes} (h : peers.mapM peerText = .ok texts)
    (hcarried : ∀ peer ∈ peers, ∀ s ∈ peerTexts (peerConfig peer), Carried s)
    (hrange : ∀ peer ∈ peers, InRange (integerValue peer "PersistentKeepalive")) (p : Parser)
    (hp : Parser.Fine p) :
    Parser.Fine (run p texts.flatten) ∧ (run p texts.flatten).flushPeer.config =
      { p.flushPeer.config with
        peers := p.flushPeer.config.peers ++ peers.map peerConfig } := by
  -- over the peers: the last one is still in the parser, and the end flushes it
  induction peers generalizing texts p with
  | nil =>
    cases h
    refine ⟨hp, ?_⟩
    rw [List.map_nil, List.append_nil]
    rfl
  | cons peer peers ih =>
    obtain ⟨text, texts, rfl, htext, hrest⟩ := mapM_cons_ok h
    rw [List.forall_mem_cons] at hcarried hrange
    obtain ⟨hkey, hrun⟩ :=
      @run_peerText p texts.flatten _ _ htext hcarried.1 hrange.1
    rw [List.flatten_cons, hrun]
    obtain ⟨hfine, hconfig⟩ := ih hrest hcarried.2 hrange.2 (reading p (peerConfig peer)) hp
    refine ⟨hfine, ?_⟩
    rw [hconfig, flushPeer_reading hkey, List.map_cons, List.append_assoc]
    rfl

lemma peerText_error {peer : Value} {e : Bytes} (h : peerText peer = .error e) : e ≠ [] := by
  unfold peerText at h
  split_ifs at h
  · cases h
    decide
  · split at h <;> cases h <;> decide
  · split at h
    · cases h
      decide
    · split at h
      · cases h
        decide
      · cases h

lemma mapM_error {peers : List Value} {e : Bytes} (h : peers.mapM peerText = .error e) :
    e ≠ [] := by
  induction peers with
  | nil => cases h
  | cons peer peers ih =>
    rw [List.mapM_cons] at h
    cases hpeer : peerText peer with
    | error e' =>
      rw [hpeer] at h
      cases h
      exact peerText_error hpeer
    | ok text =>
      cases hpeers : peers.mapM peerText with
      | error e' =>
        rw [hpeer, hpeers] at h
        cases h
        exact ih hpeers
      | ok rest =>
        rw [hpeer, hpeers] at h
        cases h

/-- What is accepted is written in whole. -/
lemma parse_ok {root : Value} (h : (parseNetbirdStaticConfig (some root)).error = []) :
    ∃ texts, (peers root).mapM peerText = .ok texts ∧
      (parseNetbirdStaticConfig (some root)).wireguardConfig =
        interfaceText root ++ texts.flatten := by
  unfold parseNetbirdStaticConfig at h ⊢
  dsimp only at h ⊢
  split_ifs at h ⊢ with hobject
  · cases h
  · split at h
    · rename_i items hpeers
      split_ifs at h with hmissing
      · cases h
      · split at h
        · rename_i e herror
          exact absurd h (mapM_error herror)
        · rename_i texts htexts
          refine ⟨texts, ?_, ?_⟩
          · rw [peers, hpeers]
            exact htexts
          · rw [if_neg hmissing]
    · cases h

/-- Texts that the lines can carry are read back. -/
theorem parseConf_of_carried {root : Value} (hfit : IntegersFit root)
    (haccepted : (parseNetbirdStaticConfig (some root)).error = [])
    (hcarried : ∀ s ∈ texts (config root), Carried s) :
    parseConf (parseNetbirdStaticConfig (some root)).wireguardConfig = config root := by
  obtain ⟨written, hwritten, htext⟩ := parse_ok haccepted
  have hkey : Carried (member root "PrivateKey") := hcarried _ (by simp [texts, config])
  have haddress : Carried (member root "Address") := hcarried _ (by simp [texts, config])
  have hpeers : ∀ peer ∈ peers root, ∀ s ∈ peerTexts (peerConfig peer), Carried s := by
    intro peer hpeer s hs
    refine hcarried s (List.mem_append_right _ (List.mem_flatMap.mpr ⟨peerConfig peer, ?_, hs⟩))
    exact List.mem_map_of_mem hpeer
  -- the interface comes first, and the peers are added to what it has left
  obtain ⟨⟨hport, hmtu, hkeepalive⟩, hconfig⟩ := run_peers hwritten hpeers hfit.persistentKeepalive
    { block := .interface, config := { config root with peers := [] } } ⟨rfl, rfl, rfl⟩
  rw [htext, parseConf_eq, run_interfaceText hkey haddress hfit.listenPort hfit.mtu,
    Parser.finish, hport, hmtu, hkeepalive, hconfig]
  rfl

/-! ## What can be read at all -/

/-- A text within one line of `text`, without a comment and blanks around it. -/
structure Tidy (text s : Bytes) : Prop where
  plain : ∀ c ∈ s, c ∈ text ∧ c ≠ newline ∧ Parser.isComment c = false
  trimmed : trim s = s

variable {text : Bytes}

lemma tidy_nil : Tidy text [] := ⟨nofun, rfl⟩

/-- What has been read so far is tidy. -/
structure TidyParser (text : Bytes) (p : Parser) : Prop where
  config : ∀ s ∈ texts p.config, Tidy text s
  peer : ∀ s ∈ peerTexts p.peer, Tidy text s

lemma tidy_flushPeer (h : TidyParser text p) : TidyParser text p.flushPeer := by
  refine ⟨?_, ?_⟩
  · unfold Parser.flushPeer
    split_ifs
    · intro s hs
      rw [texts, List.flatMap_append, ← List.append_assoc, List.mem_append] at hs
      rcases hs with hs | hs
      · exact h.config s hs
      · rw [List.flatMap_singleton] at hs
        exact h.peer s hs
    · exact h.config
  · intro s hs
    have hnil : s = [] := by simpa [Parser.flushPeer, peerTexts] using hs
    rw [hnil]
    exact tidy_nil

lemma tidyParser_iff : TidyParser text p ↔
    (Tidy text p.config.privateKey ∧ Tidy text p.config.address ∧
      ∀ peer ∈ p.config.peers, ∀ s ∈ peerTexts peer, Tidy text s) ∧
    Tidy text p.peer.publicKey ∧ Tidy text p.peer.presharedKey ∧ Tidy text p.peer.endpoint ∧
      Tidy text p.peer.allowedIps := by
  have hpeers : (∀ s ∈ p.config.peers.flatMap peerTexts, Tidy text s) ↔
      ∀ peer ∈ p.config.peers, ∀ s ∈ peerTexts peer, Tidy text s := by
    simp only [List.mem_flatMap]
    exact ⟨fun h peer hpeer s hs => h s ⟨peer, hpeer, hs⟩,
      fun h s ⟨peer, hpeer, hs⟩ => h peer hpeer s hs⟩
  constructor
  · rintro ⟨hconfig, hpeer⟩
    simp only [texts, List.forall_mem_append, List.forall_mem_cons, hpeers] at hconfig
    simp only [peerTexts, List.forall_mem_cons] at hpeer
    exact ⟨⟨hconfig.1.1, hconfig.1.2.1, hconfig.2⟩, hpeer.1, hpeer.2.1, hpeer.2.2.1,
      hpeer.2.2.2.1⟩
  · rintro ⟨⟨hkey, haddress, hothers⟩, hpublic, hpsk, hendpoint, hallowed⟩
    refine ⟨?_, ?_⟩
    · simp only [texts, List.forall_mem_append, List.forall_mem_cons, hpeers]
      exact ⟨⟨hkey, haddress, nofun⟩, hothers⟩
    · simp only [peerTexts, List.forall_mem_cons]
      exact ⟨hpublic, hpsk, hendpoint, hallowed, nofun⟩

lemma tidy_interfaceField (h : TidyParser text p) (hv : Tidy text v) :
    TidyParser text (p.interfaceField key v) := by
  rw [tidyParser_iff] at h ⊢
  unfold Parser.interfaceField
  split_ifs
  · exact ⟨⟨hv, h.1.2⟩, h.2⟩
  · exact ⟨⟨h.1.1, hv, h.1.2.2⟩, h.2⟩
  · exact h
  · split <;> exact h
  · split <;> exact h
  · exact h

lemma tidy_peerField (h : TidyParser text p) (hv : Tidy text v) :
    TidyParser text (p.peerField key v) := by
  rw [tidyParser_iff] at h ⊢
  obtain ⟨hconfig, hpublic, hpsk, hendpoint, hallowed⟩ := h
  unfold Parser.peerField
  split_ifs
  · exact ⟨hconfig, hv, hpsk, hendpoint, hallowed⟩
  · exact ⟨hconfig, hpublic, hv, hendpoint, hallowed⟩
  · exact ⟨hconfig, hpublic, hpsk, hv, hallowed⟩
  · exact ⟨hconfig, hpublic, hpsk, hendpoint, hv⟩
  · split <;> exact ⟨hconfig, hpublic, hpsk, hendpoint, hallowed⟩
  · exact ⟨hconfig, hpublic, hpsk, hendpoint, hallowed⟩

lemma tidy_field (h : TidyParser text p) (hv : Tidy text v) : TidyParser text (p.field key v) := by
  unfold Parser.field
  split
  · exact tidy_interfaceField h hv
  · exact tidy_peerField h hv
  · exact h

lemma tidy_header {l : Bytes} (h : TidyParser text p) : TidyParser text (p.header l) := by
  have hflushed := tidy_flushPeer h
  unfold Parser.header
  split_ifs <;> exact ⟨hflushed.config, hflushed.peer⟩

lemma tidy_line {l : Bytes} (h : TidyParser text p) (hl : ∀ c ∈ l, c ∈ text ∧ c ≠ newline) :
    TidyParser text (p.line l) := by
  unfold Parser.line
  dsimp only
  split_ifs
  · exact h
  · exact tidy_header h
  · -- the value is a part of the content, which is a part of the line
    refine tidy_field h ⟨fun c hc => ?_, trim_trim _⟩
    have hcontent : c ∈ l.takeWhile fun c => !Parser.isComment c :=
      mem_of_mem_trim ((List.dropWhile_suffix _).subset (List.mem_of_mem_drop (mem_of_mem_trim hc)))
    have hmem := hl c (List.takeWhile_subset _ hcontent)
    exact ⟨hmem.1, hmem.2, by simpa using List.mem_takeWhile_imp hcontent⟩
  · exact h

lemma mem_of_mem_splitOn {l : Bytes} {c : UInt8} (hl : l ∈ text.splitOn newline) (hc : c ∈ l) :
    c ∈ text ∧ c ≠ newline := by
  induction text generalizing l with
  | nil =>
    rw [List.splitOn_nil, List.mem_singleton] at hl
    rw [hl] at hc
    cases hc
  | cons b text ih =>
    rw [List.splitOn_cons_eq_if_modifyHead] at hl
    split_ifs at hl with hb
    · rcases List.mem_cons.mp hl with rfl | hl
      · cases hc
      · exact ⟨List.mem_cons_of_mem b (ih hl hc).1, (ih hl hc).2⟩
    · obtain ⟨first, rest, hsplit⟩ :=
        List.exists_cons_of_ne_nil (List.splitOn_ne_nil newline text)
      rw [hsplit, List.modifyHead_cons] at hl
      rw [hsplit] at ih
      rcases List.mem_cons.mp hl with rfl | hl
      · rcases List.mem_cons.mp hc with rfl | hc
        · exact ⟨List.mem_cons_self, by simpa using hb⟩
        · have := ih List.mem_cons_self hc
          exact ⟨List.mem_cons_of_mem b this.1, this.2⟩
      · have := ih (List.mem_cons_of_mem first hl) hc
        exact ⟨List.mem_cons_of_mem b this.1, this.2⟩

/-- The numbers that could not be read leave the texts. -/
lemma texts_finish (p : Parser) : texts p.finish = texts p.flushPeer.config := by
  unfold Parser.finish texts
  dsimp only
  split_ifs
  · cases p.flushPeer.config.peers <;> rfl
  · rfl

/-- Every text of a configuration that was read is tidy. -/
lemma tidy_parseConf (text : Bytes) : ∀ s ∈ texts (parseConf text), Tidy text s := by
  have hrun : TidyParser text (run {} text) := by
    refine List.foldlRecOn (motive := TidyParser text) _ _ ?_ fun p h l hl =>
      tidy_line h fun c hc => mem_of_mem_splitOn hl hc
    rw [tidyParser_iff]
    exact ⟨⟨tidy_nil, tidy_nil, nofun⟩, tidy_nil, tidy_nil, tidy_nil, tidy_nil⟩
  rw [parseConf_eq, texts_finish]
  exact (tidy_flushPeer hrun).config

/-! ## The bundle's own texts -/

lemma zero_notMem_cString (s : Bytes) : 0 ∉ cString s := by
  intro h
  simpa using List.mem_takeWhile_imp h

lemma zero_notMem_append {s t : Bytes} (hs : 0 ∉ s) (ht : 0 ∉ t) : 0 ∉ s ++ t := by
  rw [List.mem_append, not_or]
  exact ⟨hs, ht⟩

lemma zero_notMem_setting {name : String} (hname : 0 ∉ ascii name) (hv : 0 ∉ v) :
    0 ∉ setting name v := by
  refine zero_notMem_append (zero_notMem_append (zero_notMem_append hname ?_) hv) ?_ <;> decide

lemma zero_notMem_integerSetting {object : Value} {name : String} (hname : 0 ∉ ascii name) :
    0 ∉ integerSetting object name := by
  unfold integerSetting
  split
  · rename_i n _
    have hdigits : 0 ∉ decimal n.natAbs := fun h => by cases isdigit_of_mem_decimal h
    refine zero_notMem_setting hname ?_
    unfold integerText
    split_ifs
    · rw [List.mem_cons, not_or]
      exact ⟨by decide, hdigits⟩
    · exact hdigits
  · exact List.not_mem_nil

lemma zero_notMem_joined {values : List Bytes} (h : ∀ value ∈ values, 0 ∉ value) :
    0 ∉ joined values := by
  unfold joined
  induction values with
  | nil => exact List.not_mem_nil
  | cons first values ih =>
    rw [List.forall_mem_cons] at h
    cases values with
    | nil =>
      rw [List.intercalate_singleton]
      exact h.1
    | cons second values =>
      rw [List.intercalate_cons_cons]
      exact zero_notMem_append (zero_notMem_append h.1 (by decide)) (ih h.2)

lemma zero_notMem_peerText {peer : Value} (h : peerText peer = .ok text) : 0 ∉ text := by
  obtain ⟨values, -, -, rfl⟩ := peerText_ok h
  have hjoined : 0 ∉ joined (values.map cString) := by
    refine zero_notMem_joined fun value hvalue => ?_
    obtain ⟨value, -, rfl⟩ := List.mem_map.mp hvalue
    exact zero_notMem_cString value
  have hpublic := @zero_notMem_setting _ "PublicKey" (by decide)
    (zero_notMem_cString (member peer "PublicKey"))
  have hendpoint := @zero_notMem_setting _ "Endpoint" (by decide)
    (zero_notMem_cString (member peer "Endpoint"))
  have hallowed := @zero_notMem_setting _ "AllowedIPs" (by decide) hjoined
  refine zero_notMem_append (zero_notMem_append (zero_notMem_append (zero_notMem_append
    (zero_notMem_append (by decide) hpublic) hendpoint) hallowed) ?_)
    (zero_notMem_integerSetting (by decide))
  split_ifs
  · exact List.not_mem_nil
  · exact zero_notMem_setting (by decide) (zero_notMem_cString _)

lemma zero_notMem_peers {peers : List Value} {written : List Bytes}
    (h : peers.mapM peerText = .ok written) : ∀ text ∈ written, 0 ∉ text := by
  induction peers generalizing written with
  | nil =>
    cases h
    exact nofun
  | cons peer peers ih =>
    obtain ⟨text, rest, rfl, htext, hrest⟩ := mapM_cons_ok h
    rw [List.forall_mem_cons]
    exact ⟨zero_notMem_peerText htext, ih hrest⟩

/-- What is written is made of C strings. -/
lemma zero_notMem_written {root : Value}
    (haccepted : (parseNetbirdStaticConfig (some root)).error = []) :
    0 ∉ (parseNetbirdStaticConfig (some root)).wireguardConfig := by
  obtain ⟨written, hwritten, htext⟩ := parse_ok haccepted
  rw [htext]
  refine zero_notMem_append ?_ ?_
  · have hkey := @zero_notMem_setting _ "PrivateKey" (by decide)
      (zero_notMem_cString (member root "PrivateKey"))
    have haddress := @zero_notMem_setting _ "Address" (by decide)
      (zero_notMem_cString (member root "Address"))
    exact zero_notMem_append (zero_notMem_append (zero_notMem_append
      (zero_notMem_append (by decide) hkey) haddress) (zero_notMem_integerSetting (by decide)))
      (zero_notMem_integerSetting (by decide))
  · rw [List.mem_flatten]
    rintro ⟨text, hmem, hzero⟩
    exact zero_notMem_peers hwritten text hmem hzero

/-- An accepted bundle is read back as it is exactly when the lines can carry its texts. -/
theorem parseConf_iff_carried (root : Value) (hfit : IntegersFit root)
    (haccepted : (parseNetbirdStaticConfig (some root)).error = []) :
    parseConf (parseNetbirdStaticConfig (some root)).wireguardConfig = config root ↔
      ∀ s ∈ texts (config root), Carried s := by
  refine ⟨fun hread s hs => ?_, parseConf_of_carried hfit haccepted⟩
  -- whatever is read lies within a line, and no line of the text holds a zero
  have htidy := tidy_parseConf (parseNetbirdStaticConfig (some root)).wireguardConfig s
    (by rwa [hread])
  refine ⟨fun c hc => ⟨?_, (htidy.plain c hc).2⟩, htidy.trimmed⟩
  rintro rfl
  exact zero_notMem_written haccepted (htidy.plain 0 hc).1

/-- A bundle with one peer. -/
def bundle (endpoint : String) : Value :=
  .object [(ascii "PrivateKey", .string (ascii "ours")),
    (ascii "Address", .string (ascii "100.80.0.2/32")), (ascii "MTU", .integer 1280),
    (ascii "Peers", .array [.object [(ascii "PublicKey", .string (ascii "theirs")),
      (ascii "Endpoint", .string (ascii endpoint)),
      (ascii "AllowedIPs", .array [.string (ascii "100.80.0.0/16"), .string (ascii "10.0.0.0/8")]),
      (ascii "PersistentKeepalive", .integer 25)]])]

lemma integersFit_bundle (endpoint : String) : IntegersFit (bundle endpoint) := by
  have hport : integerValue (bundle endpoint) "ListenPort" = none := by rfl
  have hmtu : integerValue (bundle endpoint) "MTU" = some 1280 := by rfl
  refine ⟨?_, ?_, ?_⟩
  · rw [hport]
    exact nofun
  · rw [hmtu]
    rintro _ ⟨⟩
    decide
  · intro peer hpeer
    rw [List.mem_singleton.mp hpeer]
    have hkeepalive : InRange (some 25) := by
      rintro _ ⟨⟩
      decide
    exact hkeepalive

theorem parseConf_iff_carried_bundle :
    parseConf (parseNetbirdStaticConfig (some (bundle "vpn.example:51820"))).wireguardConfig =
        config (bundle "vpn.example:51820") ↔
      ∀ s ∈ texts (config (bundle "vpn.example:51820")), Carried s :=
  parseConf_iff_carried (bundle "vpn.example:51820") (integersFit_bundle _) (by decide +kernel)

/-- The endpoint of a peer brings another peer along. -/
theorem endpoint_adds_peer :
    let root := bundle "vpn.example:51820\n[Peer]\nPublicKey = another"
    (parseNetbirdStaticConfig (some root)).error = [] ∧ (config root).peers.length = 1 ∧
      (parseConf (parseNetbirdStaticConfig (some root)).wireguardConfig).peers.length = 2 := by
  decide +kernel

end ArtemisSwitch.NetBirdStatic

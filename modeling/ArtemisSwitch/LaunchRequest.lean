import ArtemisSwitch.DecimalText
import ArtemisSwitch.HostRecord

/-!
# Launch requests

The arguments that a shortcut carries, how they are parsed at the start, and which of the
stored hosts the request starts on.
-/

namespace ArtemisSwitch.Launch
open HostStore DecimalText

structure LaunchRequest where
  mac : Bytes := []
  ip : Bytes := []
  appId : Bytes := []
  appName : Bytes := []
  deriving DecidableEq, Repr

def space : UInt8 := 32

def equals : UInt8 := 61

/-- Dashes in front go first, but then all dashes and underscores do. -/
def normalizeKey (key : Bytes) : Bytes :=
  ((key.dropWhile (· = minus)).filter fun c => !(c = minus || c = 95)).map tolower

def setLaunchValue (request : LaunchRequest) (key value : Bytes) : LaunchRequest :=
  let key := normalizeKey key
  if key = ascii "host" ∨ key = ascii "mac" then { request with mac := value }
  else if key = ascii "ip" ∨ key = ascii "address" then { request with ip := value }
  else if key = ascii "appid" then { request with appId := value }
  else if key = ascii "appname" ∨ key = ascii "name" then { request with appName := value }
  else request

/-- One argument of the form `--key=value`; others are skipped. -/
def parseArg (request : LaunchRequest) : Bytes → LaunchRequest
  | 45 :: 45 :: rest =>
    if equals ∈ rest then
      setLaunchValue request (rest.takeWhile (· ≠ equals)) ((rest.dropWhile (· ≠ equals)).drop 1)
    else request
  | _ => request

/-- The arguments after the program's own name. -/
def parseArgv (args : List Bytes) : LaunchRequest := args.foldl parseArg {}

/-- A blank is written as a character reference. -/
def encodeAppName (name : Bytes) : Bytes :=
  name.flatMap fun c => if c = space then ascii "&#160;" else [c]

def decodeSwitchAppName : Bytes → Bytes
  | 38 :: 35 :: 49 :: 54 :: 48 :: 59 :: name => space :: decodeSwitchAppName name
  | c :: name => c :: decodeSwitchAppName name
  | [] => []

/-- The `append` of `buildForwarderArgs`. -/
def appendArg (args value : Bytes) : Bytes :=
  (if args ≠ [] then args ++ [space] else args) ++ value

def buildForwarderArgs (host : Host) (app : App) : Bytes :=
  let args :=
    if isUsableMac host.mac then appendArg [] (ascii "--host=" ++ host.mac)
    else if host.preferredAddress ≠ [] then
      appendArg [] (ascii "--ip=" ++ host.preferredAddress)
    else []
  let args := appendArg args (ascii "--appid=" ++ toText app.appId)
  appendArg args (ascii "--appname=" ++ encodeAppName app.name)

/-- The launcher splits the arguments of a shortcut at blanks. -/
def splitArgs (args : Bytes) : List Bytes := args.splitOn space

/-- How a launch ends: this applet cannot start apps, the request is refused, or a stream
starts. -/
inductive LaunchResult
  | notStarted
  | refused
  | streaming (host : Host) (appName : Bytes) (appId : Int32)
  deriving DecidableEq

def findLaunchHost (hosts : List Host) (request : LaunchRequest) : Option Host :=
  hosts.find? fun host => host.mac = request.mac || host.hasAddress request.ip

def startFromLaunchRequest (canStartApp : Bool) (hosts : List Host) (request : LaunchRequest) :
    LaunchResult :=
  if canStartApp = false then .notStarted
  else
    let appName := decodeSwitchAppName request.appName
    if (request.mac = [] ∧ request.ip = []) ∨ request.appId = [] then .refused
    else
      match fromChars request.appId with
      | none => .refused
      | some appId =>
        match findLaunchHost hosts request with
        | some host => .streaming host appName appId
        | none => .refused

/-! ## Which host a request starts on -/

/-- The request's MAC or address is one of the host's. -/
def Names (request : LaunchRequest) (host : Host) : Prop :=
  (request.mac ≠ [] ∧ host.mac = request.mac) ∨ host.hasAddress request.ip = true

instance (request : LaunchRequest) (host : Host) : Decidable (Names request host) :=
  inferInstanceAs (Decidable (_ ∨ _))

/-- A request starts only on a host it names, and it does when there is one. -/
def StartsNamedHost (hosts : List Host) (request : LaunchRequest) : Prop :=
  (∀ host appName appId,
      startFromLaunchRequest true hosts request = .streaming host appName appId →
        Names request host) ∧
    ((∃ host ∈ hosts, Names request host) →
      ∃ host appName appId,
        startFromLaunchRequest true hosts request = .streaming host appName appId)

/-- Every host in front of the first one with the address has a MAC. -/
def AddressFirst (hosts : List Host) (ip : Bytes) : Prop :=
  ∀ host ∈ hosts.takeWhile fun host => !host.hasAddress ip, host.mac ≠ []

instance (hosts : List Host) (ip : Bytes) : Decidable (AddressFirst hosts ip) :=
  inferInstanceAs (Decidable (∀ _ ∈ _, _))

variable {hosts : List Host} {request : LaunchRequest} {host : Host} {id : Int32}

/-- With an id in order the request is about the host alone. -/
lemma start_eq_streaming {appName : Bytes} {appId : Int32}
    (hgiven : request.mac ≠ [] ∨ request.ip ≠ []) (hid : fromChars request.appId = some id) :
    startFromLaunchRequest true hosts request = .streaming host appName appId ↔
      findLaunchHost hosts request = some host ∧
        appName = decodeSwitchAppName request.appName ∧ appId = id := by
  have hne : request.appId ≠ [] := by
    intro hempty
    rw [hempty] at hid
    cases hid
  have hpass : ¬((request.mac = [] ∧ request.ip = []) ∨ request.appId = []) := by
    rintro (⟨hmac, hip⟩ | hempty)
    · exact hgiven.elim (fun h => h hmac) fun h => h hip
    · exact hne hempty
  simp only [startFromLaunchRequest, Bool.true_eq_false, if_false, if_neg hpass, hid]
  cases findLaunchHost hosts request with
  | none => simp
  | some found =>
    simp only [LaunchResult.streaming.injEq, Option.some.injEq]
    constructor
    · rintro ⟨rfl, rfl, rfl⟩
      exact ⟨rfl, rfl, rfl⟩
    · rintro ⟨rfl, rfl, rfl⟩
      exact ⟨rfl, rfl, rfl⟩

/-- The host that is found, and those in front of it. -/
lemma findLaunchHost_eq_some (h : findLaunchHost hosts request = some host) :
    (host.mac = request.mac ∨ host.hasAddress request.ip = true) ∧
      ∃ before after, hosts = before ++ host :: after ∧
        ∀ earlier ∈ before, earlier.mac ≠ request.mac ∧ earlier.hasAddress request.ip = false := by
  obtain ⟨hfound, before, after, hsplit, hbefore⟩ := List.find?_eq_some_iff_append.mp h
  refine ⟨by simpa using hfound, before, after, hsplit, fun earlier hearlier => ?_⟩
  simpa using hbefore earlier hearlier

lemma findLaunchHost_isSome (hmem : host ∈ hosts)
    (h : host.mac = request.mac ∨ host.hasAddress request.ip = true) :
    ∃ found, findLaunchHost hosts request = some found := by
  have hsome : (findLaunchHost hosts request).isSome = true := by
    rw [findLaunchHost, List.find?_isSome]
    exact ⟨host, hmem, by simpa using h⟩
  exact Option.isSome_iff_exists.mp hsome

/-- A request with a MAC finds only hosts that it names; one without finds, of those that have
no MAC either and those that have its address, the first. -/
lemma found_is_named_iff :
    (∀ host, findLaunchHost hosts request = some host → Names request host) ↔
      request.mac ≠ [] ∨ AddressFirst hosts request.ip := by
  by_cases hmac : request.mac = []
  · simp only [hmac, ne_eq, not_true_eq_false, false_or]
    constructor
    · intro hnamed host hmem hnomac
      have hall := List.takeWhile_append_dropWhile (p := fun host : Host =>
        !host.hasAddress request.ip) (l := hosts)
      have hsome : ((hosts.takeWhile fun host => !host.hasAddress request.ip).find? fun host =>
          host.mac = request.mac || host.hasAddress request.ip).isSome = true := by
        rw [List.find?_isSome]
        exact ⟨host, hmem, by simp [hnomac, hmac]⟩
      obtain ⟨first, hfirst⟩ := Option.isSome_iff_exists.mp hsome
      have hfound : findLaunchHost hosts request = some first := by
        rw [findLaunchHost, ← hall, List.find?_append, hfirst, Option.some_or]
      have haddress := (hnamed first hfound).resolve_left fun h => h.1 hmac
      have hnone := List.mem_takeWhile_imp (List.mem_of_find?_eq_some hfirst)
      simp [haddress] at hnone
    · intro hfirst host hfound
      obtain ⟨hmatch, before, after, rfl, hbefore⟩ := findLaunchHost_eq_some hfound
      right
      by_contra hnoaddress
      have hnomac : host.mac = [] := (hmatch.resolve_right hnoaddress).trans hmac
      refine hfirst host ?_ hnomac
      rw [List.takeWhile_append_of_pos fun earlier hearlier => by
        simp [(hbefore earlier hearlier).2], List.takeWhile_cons_of_pos (by simp [hnoaddress])]
      simp
  · simp only [hmac, ne_eq, not_false_iff, true_or, iff_true]
    intro host hfound
    exact (findLaunchHost_eq_some hfound).1.imp (fun heq => ⟨hmac, heq⟩) fun h => h

theorem startsNamedHost_iff (hgiven : request.mac ≠ [] ∨ request.ip ≠ [])
    (hid : fromChars request.appId = some id) :
    StartsNamedHost hosts request ↔ request.mac ≠ [] ∨ AddressFirst hosts request.ip := by
  rw [← found_is_named_iff]
  constructor
  · intro h host hfound
    exact h.1 host _ id ((start_eq_streaming hgiven hid).mpr ⟨hfound, rfl, rfl⟩)
  · intro h
    refine ⟨fun host appName appId hstart => ?_, ?_⟩
    · exact h host ((start_eq_streaming hgiven hid).mp hstart).1
    · rintro ⟨host, hmem, hnamed⟩
      obtain ⟨found, hfound⟩ := findLaunchHost_isSome hmem (hnamed.imp And.right fun h => h)
      exact ⟨found, _, id, (start_eq_streaming hgiven hid).mpr ⟨hfound, rfl, rfl⟩⟩

/-! ## What a shortcut carries -/

lemma space_not_mem_toText (n : Int32) : space ∉ toText n := by
  intro hmem
  exact (mem_toText hmem).elim (by decide) (by decide)

lemma space_not_mem_encodeAppName (name : Bytes) : space ∉ encodeAppName name := by
  intro hmem
  obtain ⟨c, -, hc⟩ := List.mem_flatMap.mp hmem
  split_ifs at hc with hspace
  · exact absurd hc (by decide)
  · exact hspace (List.mem_singleton.mp hc).symm

/-- The argument that identifies the host, which may be missing. -/
def hostArg (host : Host) : Bytes :=
  if isUsableMac host.mac then ascii "--host=" ++ host.mac
  else ascii "--ip=" ++ host.preferredAddress

lemma buildForwarderArgs_eq (app : App)
    (hknown : isUsableMac host.mac = true ∨ host.preferredAddress ≠ []) :
    buildForwarderArgs host app = hostArg host ++ space ::
      ((ascii "--appid=" ++ toText app.appId) ++ space ::
        (ascii "--appname=" ++ encodeAppName app.name)) := by
  unfold buildForwarderArgs hostArg
  by_cases hmac : isUsableMac host.mac = true
  · simp [hmac, appendArg, ascii]
  · simp [hmac, hknown.resolve_left hmac, appendArg, ascii]

lemma splitArgs_forwarder (app : App)
    (hknown : isUsableMac host.mac = true ∨ host.preferredAddress ≠ [])
    (hmac : space ∉ host.mac) (haddress : space ∉ host.preferredAddress) :
    splitArgs (buildForwarderArgs host app) =
      [hostArg host, ascii "--appid=" ++ toText app.appId,
        ascii "--appname=" ++ encodeAppName app.name] := by
  have h1 : space ∉ hostArg host := by
    unfold hostArg
    split_ifs
    · exact fun h => (List.mem_append.mp h).elim (by decide) hmac
    · exact fun h => (List.mem_append.mp h).elim (by decide) haddress
  have h2 : space ∉ ascii "--appid=" ++ toText app.appId := fun h =>
    (List.mem_append.mp h).elim (by decide) (space_not_mem_toText _)
  have h3 : space ∉ ascii "--appname=" ++ encodeAppName app.name := fun h =>
    (List.mem_append.mp h).elim (by decide) (space_not_mem_encodeAppName _)
  rw [splitArgs, buildForwarderArgs_eq app hknown, List.splitOn_append_cons_self_of_not_mem h1,
    List.splitOn_append_cons_self_of_not_mem h2, List.splitOn_eq_singleton h3]

/-- `--key=value` with a key that has no equals sign. -/
lemma parseArg_key (key value : Bytes) (hkey : equals ∉ key) :
    parseArg request (45 :: 45 :: (key ++ equals :: value)) = setLaunchValue request key value := by
  have hne : ∀ c ∈ key, (c ≠ equals : Bool) = true := by
    intro c hc
    have : c ≠ equals := fun h => hkey (h ▸ hc)
    simpa using this
  have htake : (key ++ equals :: value).takeWhile (· ≠ equals) = key := by
    rw [List.takeWhile_append_of_pos hne]
    simp
  have hdrop : ((key ++ equals :: value).dropWhile (· ≠ equals)).drop 1 = value := by
    rw [List.dropWhile_append_of_pos hne]
    simp
  have hmem : equals ∈ key ++ equals :: value := by simp
  rw [parseArg, if_pos hmem, htake, hdrop]

/-- The request that a shortcut makes. -/
def forwarderRequest (host : Host) (app : App) : LaunchRequest where
  mac := if isUsableMac host.mac then host.mac else []
  ip := if isUsableMac host.mac then [] else host.preferredAddress
  appId := toText app.appId
  appName := encodeAppName app.name

theorem parseArgv_forwarder (app : App)
    (hknown : isUsableMac host.mac = true ∨ host.preferredAddress ≠ [])
    (hmac : space ∉ host.mac) (haddress : space ∉ host.preferredAddress) :
    parseArgv (splitArgs (buildForwarderArgs host app)) = forwarderRequest host app := by
  have hhost : parseArg {} (hostArg host) =
      { mac := if isUsableMac host.mac then host.mac else []
        ip := if isUsableMac host.mac then [] else host.preferredAddress } := by
    unfold hostArg
    split_ifs
    · exact parseArg_key (ascii "host") host.mac (by decide)
    · exact parseArg_key (ascii "ip") host.preferredAddress (by decide)
  have hid : ∀ r value, parseArg r (ascii "--appid=" ++ value) = { r with appId := value } :=
    fun r value => parseArg_key (ascii "appid") value (by decide)
  have hname : ∀ r value, parseArg r (ascii "--appname=" ++ value) = { r with appName := value } :=
    fun r value => parseArg_key (ascii "appname") value (by decide)
  rw [splitArgs_forwarder app hknown hmac haddress, parseArgv, List.foldl_cons, hhost,
    List.foldl_cons, hid, List.foldl_cons, hname, List.foldl_nil]
  rfl

lemma ne_nil_of_isUsableMac {mac : Bytes} (h : isUsableMac mac = true) : mac ≠ [] := by
  rintro rfl
  exact absurd h (by decide)

/-- The stored host whose MAC the request carries, or one that has its address. -/
def Reaches (host found : Host) : Prop :=
  (isUsableMac host.mac = true ∧ found.mac = host.mac) ∨
    ∃ address ∈ host.connectionAddresses, found.hasAddress address = true

/-- A shortcut reaches its host when it carries a MAC, or when no host without one comes before
the first that has its address. -/
theorem forwarder_reaches (app : App) (hmem : host ∈ hosts)
    (hknown : isUsableMac host.mac = true ∨ host.preferredAddress ≠ [])
    (hfirst : (forwarderRequest host app).mac ≠ [] ∨
      AddressFirst hosts (forwarderRequest host app).ip) :
    ∃ found appName, startFromLaunchRequest true hosts (forwarderRequest host app) =
      .streaming found appName app.appId ∧ Reaches host found := by
  have hid : fromChars (forwarderRequest host app).appId = some app.appId :=
    fromChars_toText app.appId
  by_cases hmac : isUsableMac host.mac = true
  · have hgiven : (forwarderRequest host app).mac = host.mac := by simp [forwarderRequest, hmac]
    have hip : (forwarderRequest host app).ip = [] := by simp [forwarderRequest, hmac]
    have hne : (forwarderRequest host app).mac ≠ [] := hgiven ▸ ne_nil_of_isUsableMac hmac
    obtain ⟨found, hfound⟩ :
        ∃ found, findLaunchHost hosts (forwarderRequest host app) = some found :=
      findLaunchHost_isSome hmem (.inl hgiven.symm)
    refine ⟨found, _, (start_eq_streaming (.inl hne) hid).mpr ⟨hfound, rfl, rfl⟩, .inl ⟨hmac, ?_⟩⟩
    have hmatch := (findLaunchHost_eq_some hfound).1
    rw [hip, hgiven] at hmatch
    exact hmatch.resolve_right (by simp [Host.hasAddress])
  · have hpreferred : host.preferredAddress ≠ [] := hknown.resolve_left hmac
    have hnomac : (forwarderRequest host app).mac = [] := by simp [forwarderRequest, hmac]
    have hip : (forwarderRequest host app).ip = host.preferredAddress := by
      simp [forwarderRequest, hmac]
    have haddress : host.preferredAddress ∈ host.connectionAddresses := by
      unfold Host.preferredAddress at hpreferred ⊢
      cases hconn : host.connectionAddresses with
      | nil => simp [hconn] at hpreferred
      | cons first rest => simp
    obtain ⟨found, hfound⟩ :
        ∃ found, findLaunchHost hosts (forwarderRequest host app) = some found :=
      findLaunchHost_isSome hmem (.inr (by rw [hip, Host.hasAddress_iff]; exact haddress))
    refine ⟨found, _, (start_eq_streaming (.inr (hip ▸ hpreferred)) hid).mpr ⟨hfound, rfl, rfl⟩,
      .inr ⟨host.preferredAddress, haddress, ?_⟩⟩
    have hnamed := found_is_named_iff.mpr hfirst found hfound
    rw [← hip]
    exact hnamed.resolve_left fun h => h.1 hnomac

/-- A request starts on the host it names exactly when it carries a MAC or no host without one
comes before the first that has the address.  In that case the shortcut for a stored host
reaches it. -/
theorem launch_starts_named_host (hosts : List Host) :
    (∀ (request : LaunchRequest) (id : Int32), request.mac ≠ [] ∨ request.ip ≠ [] →
      fromChars request.appId = some id →
        (StartsNamedHost hosts request ↔ request.mac ≠ [] ∨ AddressFirst hosts request.ip)) ∧
    ∀ (host : Host) (app : App), host ∈ hosts →
      isUsableMac host.mac = true ∨ host.preferredAddress ≠ [] →
        space ∉ host.mac → space ∉ host.preferredAddress →
          ∀ request, request = parseArgv (splitArgs (buildForwarderArgs host app)) →
            request.mac ≠ [] ∨ AddressFirst hosts request.ip →
              ∃ found appName, startFromLaunchRequest true hosts request =
                .streaming found appName app.appId ∧ Reaches host found := by
  constructor
  · intro request id hgiven hid
    exact startsNamedHost_iff hgiven hid
  · rintro host app hmem hknown hmac haddress request rfl hfirst
    rw [parseArgv_forwarder app hknown hmac haddress] at hfirst ⊢
    exact forwarder_reaches app hmem hknown hfirst

def livingRoom : Host where
  address := ascii "192.168.1.30"
  mac := ascii "AA:BB:CC:00:55:66"

def tunnelHost : Host where
  address := ascii "100.64.0.7"

def otherTunnelHost : Host where
  address := ascii "100.64.0.8"

def launchHosts : List Host := [livingRoom, tunnelHost, otherTunnelHost]

def game : App := ⟨ascii "Some Game", 1093255277⟩

/-- The shortcut of the first tunnel host, with a stored host that has a MAC in front of it. -/
theorem launch_starts_tunnel_host :
    StartsNamedHost launchHosts (forwarderRequest tunnelHost game) ∧
      ∃ found appName, startFromLaunchRequest true launchHosts
        (parseArgv (splitArgs (buildForwarderArgs tunnelHost game))) =
          .streaming found appName game.appId ∧ Reaches tunnelHost found := by
  have hparsed : parseArgv (splitArgs (buildForwarderArgs tunnelHost game)) =
      forwarderRequest tunnelHost game :=
    parseArgv_forwarder game (by decide +kernel) (by decide +kernel) (by decide +kernel)
  refine ⟨((launch_starts_named_host launchHosts).1 _ game.appId (by decide +kernel)
    (by decide +kernel)).mpr (by decide +kernel), ?_⟩
  refine (launch_starts_named_host launchHosts).2 tunnelHost game (by decide +kernel)
    (by decide +kernel) (by decide +kernel) (by decide +kernel) _ rfl ?_
  rw [hparsed]
  decide +kernel

/-- The shortcut of the second tunnel host starts on the first one: neither has a MAC. -/
theorem shortcut_starts_other_host :
    startFromLaunchRequest true launchHosts
        (parseArgv (splitArgs (buildForwarderArgs otherTunnelHost game))) =
      .streaming tunnelHost (ascii "Some Game") game.appId ∧
    ¬Names (parseArgv (splitArgs (buildForwarderArgs otherTunnelHost game))) tunnelHost ∧
    otherTunnelHost ∈ launchHosts ∧
    ∀ address ∈ otherTunnelHost.connectionAddresses, tunnelHost.hasAddress address = false := by
  have hparsed : parseArgv (splitArgs (buildForwarderArgs otherTunnelHost game)) =
      forwarderRequest otherTunnelHost game :=
    parseArgv_forwarder game (by decide +kernel) (by decide +kernel) (by decide +kernel)
  rw [hparsed]
  refine ⟨by decide +kernel, by decide +kernel, by decide +kernel, by decide +kernel⟩

end ArtemisSwitch.Launch

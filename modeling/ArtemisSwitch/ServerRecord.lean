import ArtemisSwitch.HostKeyboardShortcuts
import ArtemisSwitch.Library.Runs
import ArtemisSwitch.Pairing

/-!
# The record of a server

`load_serverinfo` writes what a server says of itself into its record, one field after another.
-/

namespace ArtemisSwitch.ServerRecord
open HostAddress DecimalText Pairing
open HostStore (isxdigit tolower)

def GS_IO_ERROR : ℤ := -5

/-! ## The record -/

inductive HostKind
  | unknown
  | sunshine
  | apollo
  | vibeshine
  | punktfunk
  | vibepollo
  | polaris
  | solarFlare
  | foundationSunshine
  deriving DecidableEq, Repr

structure ServerInformation where
  address : Bytes := []
  serverCodecModeSupport : Int32 := 0
  rtspSessionUrl : Option Bytes := none
  deriving DecidableEq, Repr

structure ServerData where
  serverInfoAppVersion : Bytes := []
  serverInfoGfeVersion : Bytes := []
  mac : Bytes := []
  gpuType : Bytes := []
  paired : Bool := false
  supports4K : Bool := false
  currentGame : Int32 := 0
  currentGameUuid : Bytes := []
  serverMajorVersion : Int32 := 0
  gsVersion : Bytes := []
  hostname : Bytes := []
  serverInfo : ServerInformation := {}
  httpPort : UInt16 := 0
  httpsPort : UInt16 := 0
  virtualDisplayCapable : Bool := false
  virtualDisplayDriverReady : Bool := false
  permission : UInt32 := 0
  hasApolloPermissionField : Bool := false
  serverCommands : List Bytes := []
  hostIdentity : HostKind := .unknown
  deriving DecidableEq, Repr

def isProxiedSession (server : ServerData) : Bool := server.serverInfo.address = ascii "127.0.0.1"

/-! ## Numbers in a document -/

/-- The base that `std::stoul` finds out for itself, and the digits. -/
def splitBase : Bytes → ℕ × Bytes
  | 48 :: x :: rest =>
    if (x = 120 ∨ x = 88) ∧ rest.head?.any isxdigit = true then (16, rest) else (8, 48 :: x :: rest)
  | [48] => (8, [48])
  | text => (10, text)

def digitValue (c : UInt8) : ℕ := if isdigit c then c.toNat - 48 else (tolower c).toNat - 87

/-- `std::stoul(text, nullptr, 0)`, without a value where it throws. -/
def stoulAnyBase (text : Bytes) : Option ℕ :=
  let (negative, unsigned) := splitSign (text.dropWhile isspace)
  let (base, rest) := splitBase unsigned
  let digits := rest.takeWhile fun c => isxdigit c && decide (digitValue c < base)
  let value := digits.foldl (fun n c => n * base + digitValue c) 0
  if digits = [] ∨ 2 ^ 64 ≤ value then none
  else some (if negative then (2 ^ 64 - value) % 2 ^ 64 else value)

/-- The permission in a text that is not empty, and whether it was one. -/
def readPermission (text : Bytes) : UInt32 × Bool :=
  match stoulAnyBase text with
  | some value => (UInt32.ofNat value, true)
  | none => (0, false)

/-- `xml_search` for a number. -/
def xmlSearchInt (expat : Expat) (data node : Bytes) : Except ℤ Int32 :=
  match xmlSearch expat data node with
  | .error _ => .error GS_INVALID
  | .ok [] => .error GS_INVALID
  | .ok text =>
    match HostKeyboardShortcuts.stoi text with
    | some value => .ok value
    | none => .error GS_INVALID

/-- What the handlers of `xml_search_all` keep. -/
structure XmlArrayQuery where
  values : List Bytes := []
  current : Bytes := []
  depth : ℕ := 0

def XmlArrayQuery.next (node : Bytes) (query : XmlArrayQuery) : XmlEvent → XmlArrayQuery
  | .start name _ =>
    if name = node then
      { query with
        current := if query.depth = 0 then [] else query.current
        depth := query.depth + 1 }
    else query
  | .close name =>
    if name = node ∧ 0 < query.depth then
      { query with
        depth := query.depth - 1
        values := if query.depth = 1 then query.values ++ [query.current] else query.values }
    else query
  | .text s => if 0 < query.depth then { query with current := query.current ++ s } else query

/-- The texts of all elements of a name; none for a document that cannot be read. -/
def xmlSearchAll (expat : Expat) (data node : Bytes) : List Bytes :=
  match expat data with
  | none => []
  | some events => (events.foldl (XmlArrayQuery.next node) {}).values

/-! ## `load_serverinfo` -/

/-- Where a server is asked about itself, and whether the long timeout applies. -/
structure ServerinfoRequest where
  https : Bool
  address : Bytes
  port : UInt16
  longTimeout : Bool
  deriving DecidableEq, Repr

def serverinfoRequest (server : ServerData) (https : Bool) : ServerinfoRequest where
  https := https
  address := server.serverInfo.address
  port := if https then server.httpsPort else server.httpPort
  longTimeout := isProxiedSession server

section Load
variable (expat : Expat)

/-- A text that has to be there. -/
def search (data node : Bytes) : EStateM ℤ ServerData Bytes := fun server =>
  match xmlSearch expat data node with
  | .ok text => .ok text server
  | .error _ => .error GS_INVALID server

def searchInt (data node : Bytes) : EStateM ℤ ServerData Int32 := fun server =>
  match xmlSearchInt expat data node with
  | .ok value => .ok value server
  | .error _ => .error GS_INVALID server

def isTrue (text : Bytes) : Bool := text = ascii "true" || text = ascii "1"

/-- The extensions, none of which has to be there. -/
def storeExtensions (data : Bytes) (server : ServerData) : ServerData :=
  let server := match xmlSearch expat data (ascii "currentgameuuid") with
    | .ok text => { server with currentGameUuid := text }
    | .error _ => server
  let server := match xmlSearch expat data (ascii "VirtualDisplayCapable") with
    | .ok text => { server with virtualDisplayCapable := isTrue text }
    | .error _ => server
  let server := match xmlSearch expat data (ascii "VirtualDisplayDriverReady") with
    | .ok text => { server with virtualDisplayDriverReady := isTrue text }
    | .error _ => server
  let server := match xmlSearch expat data (ascii "Permission") with
    | .ok text =>
      if text ≠ [] then
        { server with
          permission := (readPermission text).1
          hasApolloPermissionField := (readPermission text).2 }
      else server
    | .error _ => server
  { server with serverCommands := xmlSearchAll expat data (ascii "ServerCommand") }

def readHttpsPort (text : Bytes) : UInt16 :=
  let port := (atoi text).toInt16.toUInt16
  if port = 0 then 47984 else port

/-- The fields of a document, stored as they are found. -/
def loadDocument (data : Bytes) : EStateM ℤ ServerData Unit := do
  let currentGameText ← search expat data (ascii "currentgame")
  let pairedText ← search expat data (ascii "PairStatus")
  let appVersion ← search expat data (ascii "appversion")
  modify fun server => { server with serverInfoAppVersion := appVersion }
  let stateText ← search expat data (ascii "state")
  let codecs ← searchInt expat data (ascii "ServerCodecModeSupport")
  modify fun server =>
    { server with serverInfo := { server.serverInfo with serverCodecModeSupport := codecs } }
  let gpuType ← search expat data (ascii "gputype")
  modify fun server => { server with gpuType := gpuType }
  let gsVersion ← search expat data (ascii "GsVersion")
  modify fun server => { server with gsVersion := gsVersion }
  let hostname ← search expat data (ascii "hostname")
  modify fun server => { server with hostname := hostname }
  let gfeVersion ← search expat data (ascii "GfeVersion")
  modify fun server => { server with serverInfoGfeVersion := gfeVersion }
  let httpsPortText ← search expat data (ascii "HttpsPort")
  let mac ← search expat data (ascii "mac")
  modify fun server => { server with mac := mac }
  modify (storeExtensions expat data)
  let server ← get
  if currentGameText = [] ∨ pairedText = [] ∨ server.serverInfoAppVersion = [] ∨ stateText = [] then
    throw GS_INVALID
  modify fun server =>
    { server with
      paired := pairedText = ascii "1"
      currentGame := if stateText = ascii "_SERVER_BUSY" then 0 else atoi currentGameText
      supports4K := server.serverInfo.serverCodecModeSupport ≠ 0
      serverMajorVersion := atoi server.serverInfoAppVersion
      httpsPort := readHttpsPort httpsPortText }

/-- Code `GS_OK` is a call that does not fail. -/
def loadServerinfo (answer : ServerinfoRequest → Transfer) (https : Bool) :
    EStateM ℤ ServerData Unit := do
  let server ← get
  match httpRequest (answer (serverinfoRequest server https)) with
  | .error _ => throw GS_IO_ERROR
  | .ok data =>
    if xmlStatus expat data = GS_ERROR then throw GS_ERROR
    loadDocument expat data

end Load

/-! ## What a document says -/

section Says
variable (expat : Expat) (data : Bytes)

def textOf (node : Bytes) : Bytes := (xmlSearch expat data node).toOption.getD []

def codecsOf : Option Int32 := (xmlSearchInt expat data (ascii "ServerCodecModeSupport")).toOption

/-- One of the four texts that every server has is missing. -/
def Incomplete : Prop :=
  textOf expat data (ascii "currentgame") = [] ∨ textOf expat data (ascii "PairStatus") = [] ∨
    textOf expat data (ascii "appversion") = [] ∨ textOf expat data (ascii "state") = []

instance : Decidable (Incomplete expat data) := inferInstanceAs (Decidable (_ ∨ _))

/-- What is stored by the time it is seen whether a text is missing. -/
def stored (codecs : Int32) (server : ServerData) : ServerData :=
  let permissionText := textOf expat data (ascii "Permission")
  { server with
    serverInfoAppVersion := textOf expat data (ascii "appversion")
    serverInfo := { server.serverInfo with serverCodecModeSupport := codecs }
    gpuType := textOf expat data (ascii "gputype")
    gsVersion := textOf expat data (ascii "GsVersion")
    hostname := textOf expat data (ascii "hostname")
    serverInfoGfeVersion := textOf expat data (ascii "GfeVersion")
    mac := textOf expat data (ascii "mac")
    currentGameUuid := textOf expat data (ascii "currentgameuuid")
    virtualDisplayCapable := isTrue (textOf expat data (ascii "VirtualDisplayCapable"))
    virtualDisplayDriverReady := isTrue (textOf expat data (ascii "VirtualDisplayDriverReady"))
    permission :=
      if permissionText ≠ [] then (readPermission permissionText).1 else server.permission
    hasApolloPermissionField :=
      if permissionText ≠ [] then (readPermission permissionText).2
      else server.hasApolloPermissionField
    serverCommands := xmlSearchAll expat data (ascii "ServerCommand") }

/-- The rest of a complete document. -/
def finished (codecs : Int32) (server : ServerData) : ServerData :=
  { server with
    paired := textOf expat data (ascii "PairStatus") = ascii "1"
    currentGame :=
      if textOf expat data (ascii "state") = ascii "_SERVER_BUSY" then 0
      else atoi (textOf expat data (ascii "currentgame"))
    supports4K := codecs ≠ 0
    serverMajorVersion := atoi (textOf expat data (ascii "appversion"))
    httpsPort := readHttpsPort (textOf expat data (ascii "HttpsPort")) }

end Says

variable {expat : Expat} {data : Bytes} {events : List XmlEvent} {server : ServerData}

lemma xmlSearch_eq (h : expat data = some events) (node : Bytes) :
    xmlSearch expat data node = .ok (textOf expat data node) := by
  unfold textOf xmlSearch
  rw [h]
  rfl

lemma xmlStatus_unread (h : expat data = none) : xmlStatus expat data = GS_INVALID := by
  rw [xmlStatus, h]

lemma xmlStatus_parsed (h : expat data = some events) :
    xmlStatus expat data = GS_OK ∨ xmlStatus expat data = GS_ERROR := by
  rw [xmlStatus, h]
  exact ite_eq_or_eq _ _ _

lemma search_eq (h : expat data = some events) (node : Bytes) :
    search expat data node = pure (textOf expat data node) := by
  funext server
  rw [search, xmlSearch_eq h]
  rfl

lemma storeExtensions_eq (h : expat data = some events) (server : ServerData) :
    storeExtensions expat data server =
      { server with
        currentGameUuid := textOf expat data (ascii "currentgameuuid")
        virtualDisplayCapable := isTrue (textOf expat data (ascii "VirtualDisplayCapable"))
        virtualDisplayDriverReady := isTrue (textOf expat data (ascii "VirtualDisplayDriverReady"))
        permission :=
          if textOf expat data (ascii "Permission") ≠ [] then
            (readPermission (textOf expat data (ascii "Permission"))).1
          else server.permission
        hasApolloPermissionField :=
          if textOf expat data (ascii "Permission") ≠ [] then
            (readPermission (textOf expat data (ascii "Permission"))).2
          else server.hasApolloPermissionField
        serverCommands := xmlSearchAll expat data (ascii "ServerCommand") } := by
  simp only [storeExtensions, xmlSearch_eq h]
  split_ifs <;> rfl

/-- A document is stored as a whole, or as far as the number that cannot be read. -/
lemma loadDocument_eq (h : expat data = some events) (server : ServerData) :
    loadDocument expat data server =
      match codecsOf expat data with
      | none => .error GS_INVALID
          { server with serverInfoAppVersion := textOf expat data (ascii "appversion") }
      | some codecs =>
        if Incomplete expat data then .error GS_INVALID (stored expat data codecs server)
        else .ok () (finished expat data codecs (stored expat data codecs server)) := by
  simp only [loadDocument, search_eq h, pure_bind]
  unfold codecsOf
  cases hcodecs : xmlSearchInt expat data (ascii "ServerCodecModeSupport") with
  | error ret =>
    -- the version has been stored by then
    have hsearch : searchInt expat data (ascii "ServerCodecModeSupport") =
        fun server => .error GS_INVALID server := by
      funext server
      rw [searchInt, hcodecs]
    rw [hsearch]
    rfl
  | ok codecs =>
    have hsearch : searchInt expat data (ascii "ServerCodecModeSupport") = pure codecs := by
      funext server
      rw [searchInt, hcodecs]
      rfl
    have hstored (server : ServerData) :
        storeExtensions expat data
          { server with
            serverInfoAppVersion := textOf expat data (ascii "appversion")
            serverInfo := { server.serverInfo with serverCodecModeSupport := codecs }
            gpuType := textOf expat data (ascii "gputype")
            gsVersion := textOf expat data (ascii "GsVersion")
            hostname := textOf expat data (ascii "hostname")
            serverInfoGfeVersion := textOf expat data (ascii "GfeVersion")
            mac := textOf expat data (ascii "mac") } = stored expat data codecs server := by
      rw [storeExtensions_eq h]
      rfl
    have hcond : (textOf expat data (ascii "currentgame") = [] ∨
        textOf expat data (ascii "PairStatus") = [] ∨
        (stored expat data codecs server).serverInfoAppVersion = [] ∨
        textOf expat data (ascii "state") = []) ↔ Incomplete expat data := Iff.rfl
    simp only [hsearch, pure_bind, Fallible.modify_bind, Fallible.get_bind, hstored, hcond]
    change _ = if Incomplete expat data then _ else _
    by_cases hincomplete : Incomplete expat data
    · rw [if_pos hincomplete, if_pos hincomplete]
      rfl
    · rw [if_neg hincomplete, if_neg hincomplete]
      rfl

/-- A document that cannot be read gives no text, so that nothing of it is stored. -/
lemma loadDocument_unread (h : expat data = none) (server : ServerData) :
    loadDocument expat data server = .error GS_INVALID server := by
  have hsearch : search expat data (ascii "currentgame") = throw GS_INVALID := by
    funext server
    rw [search, xmlSearch, h]
    rfl
  rw [loadDocument, hsearch]
  rfl

/-! ## All or nothing -/

section Reported
variable (expat : Expat) (data : Bytes) (server : ServerData)

/-- The record of a server that says no more than the document: where it is and what it was
probed for is not of the document. -/
def reported : ServerData where
  serverInfoAppVersion := textOf expat data (ascii "appversion")
  serverInfoGfeVersion := textOf expat data (ascii "GfeVersion")
  mac := textOf expat data (ascii "mac")
  gpuType := textOf expat data (ascii "gputype")
  paired := textOf expat data (ascii "PairStatus") = ascii "1"
  supports4K := (codecsOf expat data).getD 0 ≠ 0
  currentGame :=
    if ascii "_SERVER_BUSY" <:+ textOf expat data (ascii "state") then
      atoi (textOf expat data (ascii "currentgame"))
    else 0
  currentGameUuid := textOf expat data (ascii "currentgameuuid")
  serverMajorVersion := atoi (textOf expat data (ascii "appversion"))
  gsVersion := textOf expat data (ascii "GsVersion")
  hostname := textOf expat data (ascii "hostname")
  serverInfo :=
    { address := server.serverInfo.address
      serverCodecModeSupport := (codecsOf expat data).getD 0
      rtspSessionUrl := server.serverInfo.rtspSessionUrl }
  httpPort := server.httpPort
  httpsPort := readHttpsPort (textOf expat data (ascii "HttpsPort"))
  virtualDisplayCapable := isTrue (textOf expat data (ascii "VirtualDisplayCapable"))
  virtualDisplayDriverReady := isTrue (textOf expat data (ascii "VirtualDisplayDriverReady"))
  permission := (readPermission (textOf expat data (ascii "Permission"))).1
  hasApolloPermissionField := (readPermission (textOf expat data (ascii "Permission"))).2
  serverCommands := xmlSearchAll expat data (ascii "ServerCommand")
  hostIdentity := server.hostIdentity

/-- The record has already what an incomplete document says. -/
structure Known (codecs : Int32) : Prop where
  appVersion : server.serverInfoAppVersion = textOf expat data (ascii "appversion")
  codecs : server.serverInfo.serverCodecModeSupport = codecs
  gpuType : server.gpuType = textOf expat data (ascii "gputype")
  gsVersion : server.gsVersion = textOf expat data (ascii "GsVersion")
  hostname : server.hostname = textOf expat data (ascii "hostname")
  gfeVersion : server.serverInfoGfeVersion = textOf expat data (ascii "GfeVersion")
  mac : server.mac = textOf expat data (ascii "mac")
  currentGameUuid : server.currentGameUuid = textOf expat data (ascii "currentgameuuid")
  virtualDisplayCapable :
    server.virtualDisplayCapable = isTrue (textOf expat data (ascii "VirtualDisplayCapable"))
  virtualDisplayDriverReady : server.virtualDisplayDriverReady =
    isTrue (textOf expat data (ascii "VirtualDisplayDriverReady"))
  permission : textOf expat data (ascii "Permission") ≠ [] →
    (server.permission, server.hasApolloPermissionField) =
      readPermission (textOf expat data (ascii "Permission"))
  serverCommands : server.serverCommands = xmlSearchAll expat data (ascii "ServerCommand")

/-- A complete document names a permission wherever the record has one, and it names no game unless
its state is more than the busy mark behind which the game is meant. -/
structure Plain : Prop where
  permission : textOf expat data (ascii "Permission") ≠ [] ∨
    server.permission = 0 ∧ server.hasApolloPermissionField = false
  game : atoi (textOf expat data (ascii "currentgame")) = 0 ∨
    ascii "_SERVER_BUSY" <:+ textOf expat data (ascii "state") ∧
      textOf expat data (ascii "state") ≠ ascii "_SERVER_BUSY"

/-- What has to be true of a document that is read to its end. -/
def Agrees : Prop :=
  match codecsOf expat data with
  | none => server.serverInfoAppVersion = textOf expat data (ascii "appversion")
  | some codecs =>
    if Incomplete expat data then Known expat data server codecs else Plain expat data server

/-- A call that fails leaves the record, and any other fills it from the answer alone. -/
def AllOrNothing (transfer : Transfer) : EStateM.Result ℤ ServerData Unit → Prop
  | .error _ after => after = server
  | .ok () after => ∃ data, httpRequest transfer = .ok data ∧ after = reported expat data server

end Reported

lemma stored_eq_iff (codecs : Int32) :
    stored expat data codecs server = server ↔ Known expat data server codecs := by
  constructor
  · intro h
    have hfield {α : Type} (field : ServerData → α) :
        field server = field (stored expat data codecs server) := by rw [h]
    refine ⟨hfield (·.serverInfoAppVersion), hfield (·.serverInfo.serverCodecModeSupport),
      hfield (·.gpuType), hfield (·.gsVersion), hfield (·.hostname),
      hfield (·.serverInfoGfeVersion), hfield (·.mac), hfield (·.currentGameUuid),
      hfield (·.virtualDisplayCapable), hfield (·.virtualDisplayDriverReady), fun htext => ?_,
      hfield (·.serverCommands)⟩
    have hpair := hfield fun server => (server.permission, server.hasApolloPermissionField)
    rwa [stored, if_pos htext, if_pos htext] at hpair
  · rintro ⟨h1, h2, h3, h4, h5, h6, h7, h8, h9, h10, hpermission, h12⟩
    rw [stored, ← h1, ← h2, ← h3, ← h4, ← h5, ← h6, ← h7, ← h8, ← h9, ← h10, ← h12]
    by_cases htext : textOf expat data (ascii "Permission") = []
    · rw [if_neg (not_not.mpr htext), if_neg (not_not.mpr htext)]
    · rw [if_pos htext, if_pos htext, ← hpermission htext]

lemma permission_eq_iff (text : Bytes) :
    ((if text ≠ [] then (readPermission text).1 else server.permission) = (readPermission text).1 ∧
      (if text ≠ [] then (readPermission text).2 else server.hasApolloPermissionField) =
        (readPermission text).2) ↔
      text ≠ [] ∨ server.permission = 0 ∧ server.hasApolloPermissionField = false := by
  by_cases htext : text = []
  · subst htext
    have hnone : readPermission [] = (0, false) := rfl
    simp [hnone]
  · simp [htext]

lemma game_eq_iff (state : Bytes) (game : Int32) :
    (if state = ascii "_SERVER_BUSY" then 0 else game) =
        (if ascii "_SERVER_BUSY" <:+ state then game else 0) ↔
      game = 0 ∨ ascii "_SERVER_BUSY" <:+ state ∧ state ≠ ascii "_SERVER_BUSY" := by
  by_cases hbusy : state = ascii "_SERVER_BUSY"
  · subst hbusy
    simp [eq_comm]
  · rw [if_neg hbusy]
    by_cases hends : ascii "_SERVER_BUSY" <:+ state
    · simp [hends, hbusy]
    · simp [hends]

lemma finished_eq_iff {codecs : Int32} (h : codecsOf expat data = some codecs) :
    finished expat data codecs (stored expat data codecs server) = reported expat data server ↔
      Plain expat data server := by
  have hcodecs : (codecsOf expat data).getD 0 = codecs := by rw [h]; rfl
  constructor
  · intro heq
    have hgame := congrArg ServerData.currentGame heq
    have hpermission := congrArg ServerData.permission heq
    have hfield := congrArg ServerData.hasApolloPermissionField heq
    exact ⟨(permission_eq_iff _).mp ⟨hpermission, hfield⟩, (game_eq_iff _ _).mp hgame⟩
  · rintro ⟨hpermission, hgame⟩
    obtain ⟨hpermission, hfield⟩ := (permission_eq_iff _).mpr hpermission
    rw [finished, reported, (game_eq_iff _ _).mpr hgame, hcodecs, ← hpermission, ← hfield]
    rfl

/-- The step behind the request: a document that is not refused is read to its end. -/
lemma loadDocument_allOrNothing {transfer : Transfer} (hdata : httpRequest transfer = .ok data)
    (h : expat data = some events) :
    AllOrNothing expat server transfer (loadDocument expat data server) ↔
      Agrees expat data server := by
  rw [loadDocument_eq h]
  unfold Agrees
  cases hcodecs : codecsOf expat data with
  | none =>
    constructor
    · intro hafter
      exact (congrArg ServerData.serverInfoAppVersion hafter).symm
    · intro hsame
      change { server with serverInfoAppVersion := _ } = server
      rw [← hsame]
  | some codecs =>
    by_cases hincomplete : Incomplete expat data
    · simp only [hincomplete, if_true]
      exact stored_eq_iff codecs
    · simp only [hincomplete, if_false]
      rw [← finished_eq_iff hcodecs]
      constructor
      · rintro ⟨found, hfound, hafter⟩
        obtain rfl : data = found := Except.ok.inj (hdata.symm.trans hfound)
        exact hafter
      · intro hafter
        exact ⟨data, hdata, hafter⟩

/-- A request that is not answered, or is answered with a refusal, leaves the record. -/
lemma loadServerinfo_eq (expat : Expat) (answer : ServerinfoRequest → Transfer) (https : Bool)
    (server : ServerData) :
    loadServerinfo expat answer https server =
      match httpRequest (answer (serverinfoRequest server https)) with
      | .error _ => .error GS_IO_ERROR server
      | .ok data =>
        if xmlStatus expat data = GS_ERROR then .error GS_ERROR server
        else loadDocument expat data server := by
  rw [loadServerinfo, Fallible.get_bind]
  cases httpRequest (answer (serverinfoRequest server https)) with
  | error ret => rfl
  | ok data =>
    by_cases hstatus : xmlStatus expat data = GS_ERROR
    · simp only [hstatus, if_true]
      rfl
    · simp only [hstatus, if_false]

/-- What has to be true of the answer to a request. -/
def AnswerAgrees (expat : Expat) (server : ServerData) (transfer : Transfer) : Prop :=
  ∀ data events, httpRequest transfer = .ok data → expat data = some events →
    xmlStatus expat data = GS_OK → Agrees expat data server

lemma loadServerinfo_allOrNothing (expat : Expat) (answer : ServerinfoRequest → Transfer)
    (https : Bool) (server : ServerData) :
    AllOrNothing expat server (answer (serverinfoRequest server https))
        (loadServerinfo expat answer https server) ↔
      AnswerAgrees expat server (answer (serverinfoRequest server https)) := by
  unfold AnswerAgrees
  rw [loadServerinfo_eq]
  generalize answer (serverinfoRequest server https) = transfer
  -- the record stays unless a document is answered that reports no error
  cases hdata : httpRequest transfer with
  | error ret =>
    constructor
    · rintro - data events ⟨⟩
    · intro _
      rfl
  | ok data =>
    cases hevents : expat data with
    | none =>
      have hstatus : xmlStatus expat data ≠ GS_ERROR := by
        rw [xmlStatus_unread hevents]
        decide
      simp only [hstatus, if_false]
      rw [loadDocument_unread hevents]
      constructor
      · rintro - found events ⟨⟩ hparsed
        rw [hevents] at hparsed
        cases hparsed
      · intro _
        rfl
    | some events =>
      by_cases hstatus : xmlStatus expat data = GS_ERROR
      · simp only [hstatus, if_true]
        constructor
        · rintro - found _ ⟨⟩ - hfine
          rw [hstatus] at hfine
          exact absurd hfine (by decide)
        · intro _
          rfl
      · simp only [hstatus, if_false]
        rw [loadDocument_allOrNothing hdata hevents]
        have hfine := (xmlStatus_parsed hevents).resolve_right hstatus
        constructor
        · rintro hagrees found _ ⟨⟩ - -
          exact hagrees
        · intro hall
          exact hall data events rfl hevents hfine

/-- **A server is loaded as a whole or not at all exactly where its document agrees.** -/
theorem loads_whole_record (expat : Expat) (answer : ServerinfoRequest → Transfer) (https : Bool)
    (server : ServerData) :
    AllOrNothing expat server (answer (serverinfoRequest server https))
        (loadServerinfo expat answer https server) ↔
      ∀ data events, httpRequest (answer (serverinfoRequest server https)) = .ok data →
        expat data = some events → xmlStatus expat data = GS_OK → Agrees expat data server :=
  loadServerinfo_allOrNothing expat answer https server

/-- A document of elements that hold no others. -/
def flat (texts : List (String × String)) : List XmlEvent :=
  .start (ascii "root") [(ascii "status_code", ascii "200")] ::
    texts.flatMap (fun t => [.start (ascii t.1) [], .text (ascii t.2), .close (ascii t.1)]) ++
    [.close (ascii "root")]

/-- A host that is free and still names the game it ran last. -/
def idleHost : List XmlEvent :=
  flat [("currentgame", "7"), ("PairStatus", "1"), ("appversion", "7.1.431.-1"),
    ("state", "SUNSHINE_SERVER_FREE"), ("ServerCodecModeSupport", "259"), ("HttpsPort", "47984")]

/-- A host that does not say what it encodes. -/
def silentHost : List XmlEvent :=
  flat [("currentgame", "7"), ("PairStatus", "1"), ("appversion", "7.1.431.-1"),
    ("state", "SUNSHINE_SERVER_BUSY")]

/-- The game of the idle host is taken for one that is running, and of the other host the version
is stored although the call fails. -/
theorem loads_idle_game :
    ¬AllOrNothing (fun _ => some idleHost) {} (.answered 200 [])
        (loadServerinfo (fun _ => some idleHost) (fun _ => .answered 200 []) true {}) ∧
      ¬AllOrNothing (fun _ => some silentHost) {} (.answered 200 [])
        (loadServerinfo (fun _ => some silentHost) (fun _ => .answered 200 []) true {}) := by
  constructor
  · intro hwhole
    have hstatus : xmlStatus (fun _ => some idleHost) [] ≠ GS_ERROR := by decide +kernel
    have hcodecs : codecsOf (fun _ => some idleHost) [] = some 259 := by decide +kernel
    have hcomplete : ¬Incomplete (fun _ => some idleHost) [] := by decide +kernel
    rw [loadServerinfo_eq] at hwhole
    change AllOrNothing _ _ _ (if _ then _ else _) at hwhole
    rw [if_neg hstatus, loadDocument_allOrNothing rfl rfl, Agrees, hcodecs] at hwhole
    change (if _ then _ else _) at hwhole
    rw [if_neg hcomplete] at hwhole
    exact absurd hwhole.game (by decide +kernel)
  · intro hwhole
    have hstatus : xmlStatus (fun _ => some silentHost) [] ≠ GS_ERROR := by decide +kernel
    have hcodecs : codecsOf (fun _ => some silentHost) [] = none := by decide +kernel
    rw [loadServerinfo_eq] at hwhole
    change AllOrNothing _ _ _ (if _ then _ else _) at hwhole
    rw [if_neg hstatus, loadDocument_allOrNothing rfl rfl, Agrees, hcodecs] at hwhole
    exact absurd hwhole (by decide +kernel)

/-! ## Polls -/

/-- One poll of a host. -/
structure Poll where
  answer : ServerinfoRequest → Transfer
  https : Bool

/-- The record after a poll, whether it succeeds or not. -/
def poll (expat : Expat) (server : ServerData) (p : Poll) : Option ServerData :=
  match loadServerinfo expat p.answer p.https server with
  | .ok _ after => some after
  | .error _ after => some after

def PollAgrees (expat : Expat) (server : ServerData) (p : Poll) : Prop :=
  AnswerAgrees expat server (p.answer (serverinfoRequest server p.https))

/-- The step: a poll leaves the record, or what one document says. -/
lemma poll_eq {p : Poll} {after : ServerData} (hagrees : PollAgrees expat server p)
    (h : poll expat server p = some after) :
    after = server ∨ ∃ data, after = reported expat data server := by
  have hall := (loadServerinfo_allOrNothing expat p.answer p.https server).mpr hagrees
  unfold poll at h
  cases hrun : loadServerinfo expat p.answer p.https server with
  | ok _ found =>
    rw [hrun] at h hall
    obtain ⟨data, -, hfound⟩ := hall
    exact .inr ⟨data, (Option.some.inj h).symm.trans hfound⟩
  | error _ found =>
    rw [hrun] at h hall
    exact .inl ((Option.some.inj h).symm.trans hall)

/-- Over all polls whose documents agree, nothing of an earlier answer stays in the record. -/
theorem polls_keep_one_answer {after : ServerData}
    (h : Runs.Run (poll expat) (PollAgrees expat) server after) :
    after = server ∨ ∃ data, after = reported expat data server := by
  refine Runs.Run.invariant (I := fun t => t = server ∨ ∃ data, t = reported expat data server)
    (.inl rfl) (fun t p u ht hagrees hstep => ?_) h
  rcases poll_eq hagrees hstep with rfl | ⟨data, rfl⟩
  · exact ht
  · right
    rcases ht with rfl | ⟨earlier, rfl⟩
    · exact ⟨data, rfl⟩
    · exact ⟨data, rfl⟩

end ArtemisSwitch.ServerRecord

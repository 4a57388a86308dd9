import ArtemisSwitch.HostCapabilities
import ArtemisSwitch.RtspUrls

/-!
# Starting an app

`gs_start_app` launches an app, or resumes the one that runs.  It writes the game into the record
of the server as soon as the request is answered, and the URL of the session at the end.
-/

namespace ArtemisSwitch.StartApp
open HostAddress DecimalText Pairing ServerRecord Capabilities
open Rtsp (RtspUrl loopback rewriteRtspHostToLoopback)

def GS_WRONG_STATE : ℤ := -4

def GS_NOT_SUPPORTED_4K : ℤ := -6

/-! ## Frame rates -/

def isNtscX100 (x100 : Int32) : Bool := x100 = 2997 || x100 = 5994 || x100 = 11988

def resolveClientRefreshRateX100 (fps clientRefreshRateX100 : Int32) : Int32 :=
  if 0 < clientRefreshRateX100 then clientRefreshRateX100
  else if fps ≤ 0 then 6000
  else fps * 100

/-- A fractional rate is told to the hosts that know it, in thousandths. -/
def launchModeFpsValue (fps clientRefreshRateX100 : Int32) (apolloHost : Bool) : Int32 :=
  let x100 := resolveClientRefreshRateX100 fps clientRefreshRateX100
  if apolloHost && isNtscX100 x100 then x100 * 10
  else if 0 < fps then fps
  else 60

/-! ## The request -/

/-- What is read of a `STREAM_CONFIGURATION`; the sound is stereo or 5.1. -/
structure StreamConfiguration where
  width : Int32 := 1280
  height : Int32 := 720
  fps : Int32 := 60
  clientRefreshRateX100 : Int32 := 0
  stereo : Bool := true
  deriving DecidableEq

structure ApolloLaunchOptions where
  virtualDisplay : Bool := false
  appUuid : Bytes := []
  width : Int32 := 0
  height : Int32 := 0
  refreshRate : Int32 := 0
  scaleFactor : Int32 := 100
  deriving DecidableEq

/-- The arguments behind the server, and the random key that the call draws. -/
structure StartCall where
  config : StreamConfiguration := {}
  appId : Int32
  sops : Bool := false
  localaudio : Bool := false
  gamepadMask : Int32 := 0
  apolloOptions : Option ApolloLaunchOptions := none
  rand : Bytes := []
  deriving DecidableEq

structure LaunchParameters where
  appId : Int32
  width : Int32
  height : Int32
  fps : Int32
  sops : Bool
  localAudioPlayMode : Bool
  surroundAudioInfo : ℕ
  gcmap : Int32
  deriving DecidableEq

/-- A request for `/launch`, or for `/resume` where it has no parameters of a launch. -/
structure StartRequest where
  address : Bytes
  port : UInt16
  launch : Option LaunchParameters
  rikey : Bytes
  query : Bytes
  deriving DecidableEq

/-- The options that are sent, or the code for a display that the host cannot open. -/
def apolloQuery (server : ServerData) (options : ApolloLaunchOptions) : Except ℤ Bytes := do
  if options.virtualDisplay then
    if !server.virtualDisplayCapable then throw GS_NOT_SUPPORTED_4K
    if !server.virtualDisplayDriverReady then throw GS_WRONG_STATE
  let display := if options.virtualDisplay then ascii "&virtualDisplay=1" else []
  let uuid := if options.appUuid ≠ [] then ascii "&appuuid=" ++ options.appUuid else []
  let resolution :=
    if 0 < options.width ∧ 0 < options.height then
      ascii "&resolution=" ++ toText options.width ++ ascii "x" ++ toText options.height
    else []
  let rate :=
    if 0 < options.refreshRate then ascii "&refreshRate=" ++ toText options.refreshRate else []
  let scaleFactor := if options.scaleFactor ≤ 0 then 100 else options.scaleFactor
  return display ++ uuid ++ resolution ++ rate ++ ascii "&scaleFactor=" ++ toText scaleFactor

/-- Only hosts with extended options are sent any. -/
def optionsQuery (server : ServerData) : Option ApolloLaunchOptions → Except ℤ Bytes
  | some options =>
    if supportsExtendedLaunchOptions server then apolloQuery server options else .ok []
  | none => .ok []

def launchParameters (server : ServerData) (x : StartCall) : LaunchParameters :=
  let preciseRefreshHost := supportsPreciseRefreshRate server
  let fps := launchModeFpsValue x.config.fps x.config.clientRefreshRateX100 preciseRefreshHost
  { appId := x.appId
    width := x.config.width
    height := x.config.height
    fps := if !preciseRefreshHost && x.sops && decide (60 < x.config.fps) then 60 else fps
    sops := x.sops
    localAudioPlayMode := x.localaudio
    surroundAudioInfo := if x.config.stereo then 0x3 * 2 ^ 16 + 2 else 0xFC * 2 ^ 16 + 6
    gcmap := x.gamepadMask }

section Start
variable (expat : Expat) (launchUrlQueryParameters : Bytes) (answer : StartRequest → Transfer)

/-- What is checked before anything is sent. -/
def startRequest (server : ServerData) (x : StartCall) : Except ℤ StartRequest :=
  if 2160 ≤ x.config.height ∧ server.supports4K = false then .error GS_NOT_SUPPORTED_4K
  else
    (optionsQuery server x.apolloOptions).map fun apollo =>
      { address := server.serverInfo.address
        port := server.httpsPort
        launch := if server.currentGame = 0 then some (launchParameters server x) else none
        rikey := x.rand
        query := launchUrlQueryParameters ++ apollo }

/-- Code `GS_OK` is a call that does not fail. -/
def gsStartApp (x : StartCall) : EStateM ℤ ServerData Unit := do
  let server ← get
  match startRequest launchUrlQueryParameters server x with
  | .error ret => throw ret
  | .ok request =>
    match httpRequest (answer request) with
    | .error ret => throw ret
    | .ok data =>
      modify fun server => { server with currentGame := x.appId }
      -- the assignment takes the result of the comparison
      if xmlStatus expat data ≠ GS_OK then throw 1
      match xmlSearch expat data (ascii "gamesession") with
      | .error ret => throw ret
      | .ok result => if result = ascii "0" then throw GS_FAILED
      match xmlSearch expat data (ascii "sessionUrl0") with
      | .error _ => pure ()
      | .ok result =>
        let url := if isProxiedSession server then rewriteRtspHostToLoopback result else result
        modify fun server =>
          { server with serverInfo := { server.serverInfo with rtspSessionUrl := some url } }

end Start

/-! ## What a call makes of the record -/

section Truth
variable (expat : Expat)

/-- The document says that the session is there. -/
def Started (data : Bytes) : Prop :=
  xmlStatus expat data = GS_OK ∧ textOf expat data (ascii "gamesession") ≠ ascii "0"

instance (data : Bytes) : Decidable (Started expat data) := inferInstanceAs (Decidable (_ ∧ _))

def opens (node : Bytes) : XmlEvent → Bool
  | .start name _ => name = node
  | _ => false

def hasElement (data node : Bytes) : Bool := ((expat data).getD []).any (opens node)

/-- The URL of a host with loopback in the place of the host.  A text that is no URL of a host has
no host that can be replaced, and is as the code leaves it. -/
structure OverLoopback (text url : Bytes) : Prop where
  replaced : ∀ u : RtspUrl, u.WellFormed → u.text = text → url = { u with host := loopback }.text
  kept : (∀ u : RtspUrl, u.WellFormed → u.text ≠ text) → url = rewriteRtspHostToLoopback text

/-- The URL that the record should have for a document. -/
def SessionUrl (data : Bytes) (proxied : Bool) : Option Bytes → Prop
  | none => hasElement expat data (ascii "sessionUrl0") = false
  | some url => hasElement expat data (ascii "sessionUrl0") = true ∧
      if proxied then OverLoopback (textOf expat data (ascii "sessionUrl0")) url
      else url = textOf expat data (ascii "sessionUrl0")

/-- The host answers the request with a document. -/
def Answered (launchUrlQueryParameters : Bytes) (answer : StartRequest → Transfer)
    (server : ServerData) (x : StartCall) (data : Bytes) : Prop :=
  ∃ request, startRequest launchUrlQueryParameters server x = .ok request ∧
    httpRequest (answer request) = .ok data

/-- A call that fails changes neither the game nor the URL, and any other has both from this
call. -/
def Truthful (appId : Int32) (answered : Bytes → Prop) (server : ServerData) :
    EStateM.Result ℤ ServerData Unit → Prop
  | .error _ after => after.currentGame = server.currentGame ∧
      after.serverInfo.rtspSessionUrl = server.serverInfo.rtspSessionUrl
  | .ok () after => after.currentGame = appId ∧
      ∃ data, answered data ∧
        SessionUrl expat data (isProxiedSession server) after.serverInfo.rtspSessionUrl

/-- An answer with which the record stays true. -/
def Fits (appId : Int32) (server : ServerData) (data : Bytes) : Prop :=
  if Started expat data then
    hasElement expat data (ascii "sessionUrl0") = true ∧
      (isProxiedSession server = true → ∀ u : RtspUrl, u.WellFormed →
        u.text = textOf expat data (ascii "sessionUrl0") → ¬RtspUrl.Bracketed u.host)
  else server.currentGame = appId

end Truth

variable {expat : Expat} {launchUrlQueryParameters : Bytes} {answer : StartRequest → Transfer}
  {server : ServerData} {x : StartCall} {request : StartRequest} {data : Bytes} {ret : ℤ}

/-- The record with a game and a session. -/
def joined (appId : Int32) (url : Bytes) (server : ServerData) : ServerData :=
  { server with
    currentGame := appId
    serverInfo := { server.serverInfo with rtspSessionUrl := some url } }

lemma gsStartApp_refused (h : startRequest launchUrlQueryParameters server x = .error ret) :
    gsStartApp expat launchUrlQueryParameters answer x server = .error ret server := by
  rw [gsStartApp, Fallible.get_bind, h]
  rfl

lemma gsStartApp_unanswered (h : startRequest launchUrlQueryParameters server x = .ok request)
    (hdata : httpRequest (answer request) = .error ret) :
    gsStartApp expat launchUrlQueryParameters answer x server = .error ret server := by
  rw [gsStartApp, Fallible.get_bind, h]
  simp only [hdata]
  rfl

lemma parsed_of_status (h : xmlStatus expat data = GS_OK) : ∃ events, expat data = some events := by
  cases hevents : expat data with
  | none =>
    rw [xmlStatus_unread hevents] at h
    exact absurd h (by decide)
  | some events => exact ⟨events, rfl⟩

/-- The game is in the record although the session is not there. -/
lemma gsStartApp_not_started (h : startRequest launchUrlQueryParameters server x = .ok request)
    (hdata : httpRequest (answer request) = .ok data) (hstarted : ¬Started expat data) :
    ∃ ret, gsStartApp expat launchUrlQueryParameters answer x server =
      .error ret { server with currentGame := x.appId } := by
  rw [gsStartApp, Fallible.get_bind, h]
  simp only [hdata, Fallible.modify_bind]
  -- the game is stored in front of both checks
  by_cases hstatus : xmlStatus expat data = GS_OK
  · obtain ⟨events, hevents⟩ := parsed_of_status hstatus
    have hzero : textOf expat data (ascii "gamesession") = ascii "0" :=
      of_not_not fun hne => hstarted ⟨hstatus, hne⟩
    simp only [hstatus, xmlSearch_eq hevents, hzero]
    exact ⟨GS_FAILED, rfl⟩
  · rw [if_pos hstatus]
    exact ⟨1, rfl⟩

lemma gsStartApp_started (h : startRequest launchUrlQueryParameters server x = .ok request)
    (hdata : httpRequest (answer request) = .ok data) (hstarted : Started expat data) :
    gsStartApp expat launchUrlQueryParameters answer x server =
      .ok () (joined x.appId
        (if isProxiedSession server then
          rewriteRtspHostToLoopback (textOf expat data (ascii "sessionUrl0"))
        else textOf expat data (ascii "sessionUrl0")) server) := by
  obtain ⟨hstatus, hsession⟩ := hstarted
  obtain ⟨events, hevents⟩ := parsed_of_status hstatus
  rw [gsStartApp, Fallible.get_bind, h]
  simp only [hdata, Fallible.modify_bind, hstatus, xmlSearch_eq hevents, if_neg hsession]
  rfl

lemma startRequest_launch (h : startRequest launchUrlQueryParameters server x = .ok request) :
    request.launch = if server.currentGame = 0 then some (launchParameters server x) else none := by
  by_cases hlarge : 2160 ≤ x.config.height ∧ server.supports4K = false
  · rw [startRequest, if_pos hlarge] at h
    cases h
  · rw [startRequest, if_neg hlarge] at h
    cases hquery : optionsQuery server x.apolloOptions with
    | error ret =>
      rw [hquery] at h
      cases h
    | ok query =>
      rw [hquery] at h
      cases h
      rfl

/-- A launch that came to nothing is resumed the next time. -/
theorem resumes_what_did_not_start
    (h : startRequest launchUrlQueryParameters server x = .ok request)
    (hdata : httpRequest (answer request) = .ok data) (hstarted : ¬Started expat data)
    (happ : x.appId ≠ 0) :
    ∃ ret after, gsStartApp expat launchUrlQueryParameters answer x server = .error ret after ∧
      ∀ y next, startRequest launchUrlQueryParameters after y = .ok next → next.launch = none := by
  obtain ⟨ret, hrun⟩ := gsStartApp_not_started h hdata hstarted
  refine ⟨ret, _, hrun, fun y next hnext => ?_⟩
  rw [startRequest_launch hnext]
  exact if_neg happ

lemma overLoopback_rewrite_iff (text : Bytes) :
    OverLoopback text (rewriteRtspHostToLoopback text) ↔
      ∀ u : RtspUrl, u.WellFormed → u.text = text → ¬RtspUrl.Bracketed u.host := by
  constructor
  · rintro h u hu rfl
    exact (Rtsp.rewrite_eq_iff hu).mp (h.replaced u hu rfl)
  · intro h
    refine ⟨?_, fun _ => rfl⟩
    rintro u hu rfl
    exact (Rtsp.rewrite_eq_iff hu).mpr (h u hu rfl)

/-- A session that is there has its URL from the answer where the answer has one that can be put
on loopback. -/
lemma sessionUrl_iff :
    SessionUrl expat data (isProxiedSession server)
        (some (if isProxiedSession server then
          rewriteRtspHostToLoopback (textOf expat data (ascii "sessionUrl0"))
        else textOf expat data (ascii "sessionUrl0"))) ↔
      hasElement expat data (ascii "sessionUrl0") = true ∧
        (isProxiedSession server = true → ∀ u : RtspUrl, u.WellFormed →
          u.text = textOf expat data (ascii "sessionUrl0") → ¬RtspUrl.Bracketed u.host) := by
  unfold SessionUrl
  refine and_congr_right fun _ => ?_
  by_cases hproxied : isProxiedSession server = true
  · rw [if_pos hproxied, if_pos hproxied, overLoopback_rewrite_iff]
    exact ⟨fun h _ => h, fun h => h hproxied⟩
  · rw [if_neg hproxied, if_neg hproxied]
    exact ⟨fun _ hyes => absurd hyes hproxied, fun _ => rfl⟩

/-- The answer is the only one. -/
lemma Answered.unique {found : Bytes}
    (h : Answered launchUrlQueryParameters answer server x found)
    (hdata : Answered launchUrlQueryParameters answer server x data) : found = data := by
  obtain ⟨other, hother, hfound⟩ := h
  obtain ⟨request, hrequest, hdata⟩ := hdata
  obtain rfl : request = other := Except.ok.inj (hrequest.symm.trans hother)
  exact Except.ok.inj (hfound.symm.trans hdata)

lemma truthful_unanswered (hrun : gsStartApp expat launchUrlQueryParameters answer x server =
      .error ret server)
    (hnone : ∀ data, ¬Answered launchUrlQueryParameters answer server x data) :
    Truthful expat x.appId (Answered launchUrlQueryParameters answer server x) server
        (gsStartApp expat launchUrlQueryParameters answer x server) ↔
      ∀ data, Answered launchUrlQueryParameters answer server x data →
        Fits expat x.appId server data := by
  rw [hrun]
  exact iff_of_true ⟨rfl, rfl⟩ fun data hdata => absurd hdata (hnone data)

lemma truthful_answered (h : startRequest launchUrlQueryParameters server x = .ok request)
    (hdata : httpRequest (answer request) = .ok data) :
    Truthful expat x.appId (Answered launchUrlQueryParameters answer server x) server
        (gsStartApp expat launchUrlQueryParameters answer x server) ↔
      Fits expat x.appId server data := by
  have hanswered : Answered launchUrlQueryParameters answer server x data := ⟨request, h, hdata⟩
  by_cases hstarted : Started expat data
  · rw [gsStartApp_started h hdata hstarted, Fits, if_pos hstarted]
    constructor
    · rintro ⟨-, found, hfound, hurl⟩
      rw [hfound.unique hanswered] at hurl
      exact sessionUrl_iff.mp hurl
    · intro hfit
      exact ⟨rfl, data, hanswered, sessionUrl_iff.mpr hfit⟩
  · obtain ⟨ret, hrun⟩ := @gsStartApp_not_started expat _ _ _ _ _ _ h hdata hstarted
    rw [hrun, Fits, if_neg hstarted]
    constructor
    · rintro ⟨hgame, -⟩
      exact hgame.symm
    · intro hgame
      exact ⟨hgame.symm, rfl⟩

/-- **A start keeps the record true exactly where every answer fits it.** -/
theorem start_keeps_record (expat : Expat) (launchUrlQueryParameters : Bytes)
    (answer : StartRequest → Transfer) (server : ServerData) (x : StartCall) :
    Truthful expat x.appId (Answered launchUrlQueryParameters answer server x) server
        (gsStartApp expat launchUrlQueryParameters answer x server) ↔
      ∀ data, Answered launchUrlQueryParameters answer server x data →
        Fits expat x.appId server data := by
  cases hrequest : startRequest launchUrlQueryParameters server x with
  | error ret =>
    refine truthful_unanswered (gsStartApp_refused hrequest) ?_
    rintro data ⟨request, hok, -⟩
    rw [hrequest] at hok
    cases hok
  | ok request =>
    cases hdata : httpRequest (answer request) with
    | error ret =>
      refine truthful_unanswered (gsStartApp_unanswered hrequest hdata) ?_
      rintro data ⟨found, hfound, hok⟩
      obtain rfl : request = found := Except.ok.inj (hrequest.symm.trans hfound)
      rw [hdata] at hok
      cases hok
    | ok data =>
      rw [truthful_answered hrequest hdata]
      constructor
      · intro hfits found hfound
        rwa [hfound.unique ⟨request, hrequest, hdata⟩]
      · intro hall
        exact hall data ⟨request, hrequest, hdata⟩

/-- The answer of a host that starts nothing. -/
def failedLaunch : List XmlEvent := flat [("gamesession", "0")]

/-- The answer of a host that names no URL. -/
def plainLaunch : List XmlEvent := flat [("gamesession", "1")]

/-- A launch that fails leaves its game in the record, and a host that names no URL is given an
empty one. -/
theorem failed_launch_leaves_game :
    ¬Truthful (fun _ => some failedLaunch) 7
        (Answered [] (fun _ => .answered 200 []) {} { appId := 7 }) {}
        (gsStartApp (fun _ => some failedLaunch) [] (fun _ => .answered 200 []) { appId := 7 } {}) ∧
      ¬Truthful (fun _ => some plainLaunch) 7
        (Answered [] (fun _ => .answered 200 []) {} { appId := 7 }) {}
        (gsStartApp (fun _ => some plainLaunch) [] (fun _ => .answered 200 [])
          { appId := 7 } {}) := by
  have hrequest : ∃ request, startRequest [] {} { appId := 7 } = .ok request := ⟨_, rfl⟩
  obtain ⟨request, hrequest⟩ := hrequest
  constructor
  · have hfailed : ¬Started (fun _ => some failedLaunch) [] := by decide +kernel
    obtain ⟨ret, hrun⟩ := @gsStartApp_not_started (fun _ => some failedLaunch) _
      (fun _ => .answered 200 []) _ _ _ _ hrequest rfl hfailed
    rw [hrun]
    rintro ⟨hgame, -⟩
    exact absurd hgame (by decide)
  · have hstarted : Started (fun _ => some plainLaunch) [] := by decide +kernel
    rw [@gsStartApp_started _ _ (fun _ => .answered 200 []) _ _ _ _ hrequest rfl hstarted]
    rintro ⟨-, data, -, hurl⟩
    have habsent : plainLaunch.any (opens (ascii "sessionUrl0")) = false := by decide +kernel
    have hpresent := (sessionUrl_iff.mp hurl).1
    change plainLaunch.any (opens (ascii "sessionUrl0")) = true at hpresent
    rw [habsent] at hpresent
    cases hpresent

end ArtemisSwitch.StartApp

import ArtemisSwitch.HostRecord
import ArtemisSwitch.DecimalText
import ArtemisSwitch.Library.Fallible

/-!
# Pairing with a host

`gs_pair` asks the host five questions and computes with what it hears.  expat, curl and
the cryptographic library are parameters, and so is the moment at which the user cancels.
-/

namespace ArtemisSwitch.Pairing
open Fallible DecimalText HostAddress HostStore

def GS_OK : ℤ := 0

def GS_FAILED : ℤ := -1

def GS_INVALID : ℤ := -3

def GS_WRONG_STATE : ℤ := -4

def GS_ERROR : ℤ := -9

def GS_CANCELLED : ℤ := -11

/-! ## Bytes -/

/-- A range that is not there ends the process. -/
def subdata (data : Bytes) (start size : ℕ) : Option Bytes :=
  if data.length < start + size then none else some ((data.drop start).take size)

def hexDigit (c : UInt8) : UInt8 :=
  if isdigit c then c - 48 else if c ≤ 70 then c - 55 else c - 87

/-- `strtoul` of two characters to the base 16, as a byte. -/
def hexPair (high low : UInt8) : UInt8 :=
  let (negative, rest) := splitSign ([high, low].dropWhile isspace)
  let value := (rest.takeWhile isxdigit).foldl (fun n c => n * 16 + hexDigit c) 0
  if negative then -value else value

def hexToBytes : Bytes → Bytes
  | high :: low :: rest => hexPair high low :: hexToBytes rest
  | _ => []

def hexLetter (n : UInt8) : UInt8 := if n < 10 then n + 48 else n + 55

/-- Nothing is a line feed. -/
def hex (data : Bytes) : Bytes :=
  if data = [] then [10] else data.flatMap fun c => [hexLetter (c / 16), hexLetter (c % 16)]

/-! ## Documents -/

/-- What the handlers of an expat parser are called with. -/
inductive XmlEvent
  | start (name : Bytes) (atts : List (Bytes × Bytes))
  | close (name : Bytes)
  | text (s : Bytes)
  deriving DecidableEq, Repr

/-- `XML_Parse` of a whole document: the calls of the handlers, or an error. -/
abbrev Expat := Bytes → Option (List XmlEvent)

structure XmlQuery where
  start : ℤ := 0
  memory : Bytes := []

def XmlQuery.next (node : Bytes) (search : XmlQuery) : XmlEvent → XmlQuery
  | .start name _ => if name = node then { search with start := search.start + 1 } else search
  | .close name => if name = node then { search with start := search.start - 1 } else search
  | .text s => if search.start > 0 then { search with memory := search.memory ++ s } else search

/-- The text inside all elements of a name, as a C string. -/
def xmlSearch (expat : Expat) (data node : Bytes) : Except ℤ Bytes :=
  match expat data with
  | none => .error GS_INVALID
  | some events => .ok ((events.foldl (XmlQuery.next node) {}).memory.takeWhile (· ≠ 0))

def statusElement (status : Int32) : XmlEvent → Int32
  | .start name atts =>
    if name = ascii "root" then
      atts.foldl (fun status (key, value) =>
        if key = ascii "status_code" then atoi value else status) status
    else status
  | _ => status

def xmlStatus (expat : Expat) (data : Bytes) : ℤ :=
  match expat data with
  | none => GS_INVALID
  | some events => if events.foldl statusElement 0 = 200 then GS_OK else GS_ERROR

/-! ## One call of `gs_pair` -/

structure Crypto where
  createAESKeyFromSaltSHA1 : Bytes → Bytes
  createAESKeyFromSaltSHA256 : Bytes → Bytes
  sha1HashData : Bytes → Bytes
  sha256HashData : Bytes → Bytes
  aesEncrypt : Bytes → Bytes → Bytes
  aesDecrypt : Bytes → Bytes → Bytes
  signature : Bytes → Bytes
  signData : Bytes → Bytes → Bytes
  verifySignature : Bytes → Bytes → Bytes → Bool
  certData : Bytes
  keyData : Bytes

/-- The five requests with the texts in their URLs, and the one that undoes a pairing. -/
inductive Request
  | getServerCert (salt clientCert : Bytes)
  | clientChallenge (encryptedChallenge : Bytes)
  | serverChallengeResp (challengeRespEncrypted : Bytes)
  | clientPairingSecret (clientPairingSecret : Bytes)
  | pairChallenge
  | unpair
  deriving DecidableEq, Repr

inductive Stage
  | getServerCert
  | clientChallenge
  | serverChallengeResp
  | clientPairingSecret
  | pairChallenge
  deriving DecidableEq, Repr

/-- What becomes of an HTTP request. -/
inductive Transfer
  | broken (tooLarge : Bool)
  | answered (status : ℤ) (body : Bytes)
  deriving DecidableEq, Repr

def httpRequest : Transfer → Except ℤ Bytes
  | .broken tooLarge => .error (if tooLarge then GS_INVALID else GS_FAILED)
  | .answered status body => if status < 200 ∨ 300 ≤ status then .error GS_ERROR else .ok body

/-- What a call is given: its server, the three draws of `random_bytes`, the answers to its
requests, and the first check of the token that finds it cancelled. -/
structure Attempt where
  crypto : Crypto
  expat : Expat
  pin : Bytes
  currentGame : ℤ := 0
  serverMajorVersion : ℤ := 7
  salt : Bytes
  randomChallenge : Bytes
  clientSecret : Bytes
  answer : Stage → Transfer
  cancelMoment : Option ℕ := none

/-- What a call changes. -/
structure World where
  paired : Bool := false
  checks : ℕ := 0
  sent : List Request := []
  deriving DecidableEq, Repr

/-- Why the stages stop early: `exit`, or a code that is handed to `gs_pair_cleanup`. -/
inductive Stop
  | exited
  | code (ret : ℤ)
  deriving DecidableEq, Repr

namespace Attempt

def hashLength (x : Attempt) : ℕ := if x.serverMajorVersion ≥ 7 then 32 else 20

def aesKey (x : Attempt) : Bytes :=
  if x.serverMajorVersion ≥ 7 then x.crypto.createAESKeyFromSaltSHA256 (x.salt ++ x.pin)
  else x.crypto.createAESKeyFromSaltSHA1 (x.salt ++ x.pin)

def hashData (x : Attempt) (data : Bytes) : Bytes :=
  if x.serverMajorVersion ≥ 7 then x.crypto.sha256HashData data else x.crypto.sha1HashData data

/-- Whether the check of a number finds the token cancelled. -/
def cancelledAt (x : Attempt) (check : ℕ) : Bool := x.cancelMoment.any (· ≤ check)

end Attempt

variable (x : Attempt)

def gsPairRequest (stage : Stage) (request : Request) : EStateM Stop World Bytes := fun w =>
  if x.cancelledAt w.checks then .error (.code GS_CANCELLED) { w with checks := w.checks + 1 }
  else
    let w := { w with checks := w.checks + 1, sent := w.sent ++ [request] }
    let result := httpRequest (x.answer stage)
    if x.cancelledAt w.checks then .error (.code GS_CANCELLED) { w with checks := w.checks + 1 }
    else
      let w := { w with checks := w.checks + 1 }
      match result with
      | .error ret => .error (.code ret) w
      | .ok data => .ok data w

/-- The assignments take the result of the comparison, so a bad status is code 1. -/
def gsPairValidate (data : Bytes) : Except ℤ Bytes :=
  if xmlStatus x.expat data ≠ GS_OK then .error 1
  else xmlSearch x.expat data (ascii "paired")

def orReturn {α : Type} : Except ℤ α → EStateM Stop World α
  | .error ret => fun w => .error (.code ret) w
  | .ok a => pure a

def orExit {α : Type} : Option α → EStateM Stop World α
  | none => fun w => .error .exited w
  | some a => pure a

/-- A request and its `gs_pair_validate`; what that finds in `paired` is dropped. -/
def ask (stage : Stage) (request : Request) : EStateM Stop World Bytes := do
  let data ← gsPairRequest x stage request
  let _result ← orReturn ((gsPairValidate x data).mapError fun _ => 1)
  pure data

def stage1 : EStateM Stop World Bytes := do
  let data ← ask x .getServerCert (.getServerCert (hex x.salt) (hex x.crypto.certData))
  orReturn (xmlSearch x.expat data (ascii "plaincert"))

def stage2 : EStateM Stop World Bytes := do
  let encryptedChallenge := x.crypto.aesEncrypt x.randomChallenge x.aesKey
  let data ← ask x .clientChallenge (.clientChallenge (hex encryptedChallenge))
  orReturn ((xmlSearch x.expat data (ascii "challengeresponse")).mapError fun _ => GS_INVALID)

/-- Of the two parts of the answer only the challenge is used. -/
def stage3 (challengeResponse : Bytes) : EStateM Stop World Bytes := do
  let decrypted := x.crypto.aesDecrypt (hexToBytes challengeResponse) x.aesKey
  let _serverResponse ← orExit (subdata decrypted 0 x.hashLength)
  let serverChallenge ← orExit (subdata decrypted x.hashLength 16)
  let challengeRespHash := x.hashData
    (serverChallenge ++ x.crypto.signature x.crypto.certData ++ x.clientSecret)
  let challengeRespEncrypted := x.crypto.aesEncrypt challengeRespHash x.aesKey
  let data ← ask x .serverChallengeResp (.serverChallengeResp (hex challengeRespEncrypted))
  orReturn ((xmlSearch x.expat data (ascii "pairingsecret")).mapError fun _ => GS_INVALID)

/-- `serverChallengeRespHash` is computed, but nothing looks at it. -/
def stage4 (plainCert pairingSecret : Bytes) : EStateM Stop World Unit := do
  let serverSecretResp := hexToBytes pairingSecret
  let serverSecret ← orExit (subdata serverSecretResp 0 16)
  let serverSignature ← orExit (subdata serverSecretResp 16 256)
  orReturn (if x.crypto.verifySignature serverSecret serverSignature (hexToBytes plainCert)
    then .ok () else .error GS_FAILED)
  let _serverChallengeRespHash := x.hashData
    (x.randomChallenge ++ x.crypto.signature (hexToBytes plainCert) ++ serverSecret)
  let clientPairingSecret := x.clientSecret ++ x.crypto.signData x.clientSecret x.crypto.keyData
  let _data ← ask x .clientPairingSecret (.clientPairingSecret (hex clientPairingSecret))

def stage5 : EStateM Stop World Unit := do
  let _data ← ask x .pairChallenge .pairChallenge

def stages : EStateM Stop World Unit := do
  let plainCert ← stage1 x
  let challengeResponse ← stage2 x
  let pairingSecret ← stage3 x challengeResponse
  stage4 x plainCert pairingSecret
  stage5 x

def gsPairCleanup (ret : ℤ) (w : World) : ℤ × World :=
  let cancelled := x.cancelledAt w.checks
  let w := { w with checks := w.checks + 1 }
  let w := if ret ≠ GS_OK ∨ cancelled then { w with sent := w.sent ++ [.unpair] } else w
  if cancelled then (GS_CANCELLED, { w with paired := false }) else (ret, w)

/-- No code comes back from a process that has exited. -/
def gsPair (paired : Bool) : Option ℤ × World :=
  if paired then (some GS_WRONG_STATE, { paired })
  else if x.currentGame ≠ 0 then (some GS_WRONG_STATE, { paired })
  else
    match stages x { paired } with
    | .ok () w => (gsPairCleanup x GS_OK { w with paired := true }).map some id
    | .error (.code ret) w => (gsPairCleanup x ret w).map some id
    | .error .exited w => (none, w)

variable {x} in
/-- A call that nothing keeps from starting. -/
lemma gsPair_fresh (hgame : x.currentGame = 0) :
    gsPair x false = match stages x { paired := false } with
      | .ok () w => (gsPairCleanup x GS_OK { w with paired := true }).map some id
      | .error (.code ret) w => (gsPairCleanup x ret w).map some id
      | .error .exited w => (none, w) := by
  simp only [gsPair, hgame, ne_eq, not_true_eq_false, Bool.false_eq_true, ite_false]

/-- `GameStreamClient::pair`, whose `tryComplete` is one more look at the token. -/
def pair (paired : Bool) : Option ℤ × World :=
  match gsPair x paired with
  | (none, w) => (none, w)
  | (some status, w) =>
    let completed := !x.cancelledAt w.checks
    let w := { w with checks := w.checks + 1 }
    if completed then (some status, w)
    else
      (some GS_CANCELLED,
        if status = GS_OK then { w with sent := w.sent ++ [.unpair], paired := false } else w)

end ArtemisSwitch.Pairing

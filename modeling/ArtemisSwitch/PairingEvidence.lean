import ArtemisSwitch.Pairing

/-!
# What a paired host has shown

Which documents, certificates and hashes a host has to come up with before `gs_pair` takes
it for paired, and which of them the code looks at.
-/

namespace ArtemisSwitch.Pairing
open Fallible DecimalText HostAddress HostStore

variable (x : Attempt)

/-! ## What the host has shown -/

namespace Attempt

/-- The document that answers a stage. -/
def document (stage : Stage) : Bytes := (httpRequest (x.answer stage)).toOption.getD []

def textOf (stage : Stage) (node : Bytes) : Bytes :=
  (xmlSearch x.expat (x.document stage) node).toOption.getD []

/-- The request got through, and its document has status 200. -/
def Accepted (stage : Stage) : Prop :=
  httpRequest (x.answer stage) = .ok (x.document stage) ∧
    xmlStatus x.expat (x.document stage) = GS_OK

instance (stage : Stage) : Decidable (x.Accepted stage) := inferInstanceAs (Decidable (_ ∧ _))

/-- The certificate that the host calls its own. -/
def hostCert : Bytes := hexToBytes (x.textOf .getServerCert (ascii "plaincert"))

def decryptedResponse : Bytes :=
  x.crypto.aesDecrypt (hexToBytes (x.textOf .clientChallenge (ascii "challengeresponse"))) x.aesKey

def serverResponse : Bytes := x.decryptedResponse.take x.hashLength

def serverSecretResp : Bytes := hexToBytes (x.textOf .serverChallengeResp (ascii "pairingsecret"))

def serverSecret : Bytes := x.serverSecretResp.take 16

def serverSignature : Bytes := (x.serverSecretResp.drop 16).take 256

def Signed : Prop :=
  x.crypto.verifySignature x.serverSecret x.serverSignature x.hostCert = true

instance : Decidable x.Signed := inferInstanceAs (Decidable (_ = _))

/-- Only a host that can decrypt the challenge answers with its hash. -/
def KnowsPin : Prop :=
  x.serverResponse =
    x.hashData (x.randomChallenge ++ x.crypto.signature x.hostCert ++ x.serverSecret)

instance : Decidable x.KnowsPin := inferInstanceAs (Decidable (_ = _))

def SaysPaired : Prop := ∀ stage, x.textOf stage (ascii "paired") = ascii "1"

structure Authentic : Prop where
  accepted : ∀ stage, x.Accepted stage
  saysPaired : x.SaysPaired
  signed : x.Signed
  knowsPin : x.KnowsPin

end Attempt

/-- A call that pairs has seen the host's evidence; any other leaves nothing behind, and says
that it was cancelled if its last look at the token found that. -/
structure Authenticates (outcome : Option ℤ × World) : Prop where
  evidence : outcome.1 = some GS_OK → outcome.2.paired = true → x.Authentic
  otherwise : ¬(outcome.1 = some GS_OK ∧ outcome.2.paired = true) →
    outcome.2.paired = false ∧ Request.unpair ∈ outcome.2.sent
  cancelled : ∀ check, outcome.2.checks = check + 1 → x.cancelledAt check = true →
    outcome.1 = some GS_CANCELLED

namespace Attempt

/-- The answers that the code accepts are long enough, and a host that gets through says at
every stage that it is paired and has answered with the right hash. -/
structure Sound : Prop where
  response : x.cancelledAt 3 = false → x.Accepted .getServerCert → x.Accepted .clientChallenge →
    x.hashLength + 16 ≤ x.decryptedResponse.length
  secret : x.cancelledAt 5 = false → x.Accepted .getServerCert → x.Accepted .clientChallenge →
    x.Accepted .serverChallengeResp → 16 + 256 ≤ x.serverSecretResp.length
  shown : x.cancelledAt 10 = false → (∀ stage, x.Accepted stage) → x.Signed →
    x.SaysPaired ∧ x.KnowsPin

end Attempt

/-! ## One question -/

variable {x} {α β : Type} {w t : World} {stage : Stage} {request : Request} {data node : Bytes}

lemma cancelledAt_mono {m n : ℕ} (hle : m ≤ n) (h : x.cancelledAt n = false) :
    x.cancelledAt m = false := by
  unfold Attempt.cancelledAt at *
  cases hmoment : x.cancelMoment with
  | none => rfl
  | some moment =>
    simp only [hmoment, Option.any_some, decide_eq_false_iff_not] at h ⊢
    omega

/-- The state after a request that went through. -/
def World.asked (w : World) (request : Request) : World :=
  { w with checks := w.checks + 2, sent := w.sent ++ [request] }

lemma gsPairRequest_ok : gsPairRequest x stage request w = .ok data t ↔
    x.cancelledAt (w.checks + 1) = false ∧ httpRequest (x.answer stage) = .ok data ∧
      t = w.asked request := by
  unfold gsPairRequest
  by_cases hlate : x.cancelledAt (w.checks + 1) = true
  · simp only [hlate, ite_true]
    split_ifs <;> simp
  · have hquiet : x.cancelledAt (w.checks + 1) = false := by simpa using hlate
    have hbefore := cancelledAt_mono (Nat.le_succ w.checks) hquiet
    simp only [hbefore, hquiet, Bool.false_eq_true, ite_false, true_and]
    cases httpRequest (x.answer stage) with
    | error ret => simp
    | ok body => simp [World.asked, eq_comm]

lemma gsPairRequest_error {stop : Stop} (h : gsPairRequest x stage request w = .error stop t) :
    ∃ ret, stop = .code ret ∧ ret ≠ GS_OK := by
  unfold gsPairRequest at h
  simp only at h
  split_ifs at h
  · cases h
    exact ⟨_, rfl, by decide⟩
  · cases h
    exact ⟨_, rfl, by decide⟩
  · cases hresult : httpRequest (x.answer stage) with
    | ok body => simp [hresult] at h
    | error ret =>
      simp only [hresult, EStateM.Result.error.injEq] at h
      refine ⟨ret, h.1.symm, ?_⟩
      unfold httpRequest at hresult
      split at hresult
      · cases hresult
        split_ifs <;> decide
      · split_ifs at hresult
        cases hresult
        decide

/-- A document with a status can be parsed, and so searched. -/
lemma xmlSearch_of_status (h : xmlStatus x.expat data = GS_OK) :
    ∃ text, xmlSearch x.expat data node = .ok text := by
  unfold xmlStatus at h
  unfold xmlSearch
  cases hparse : x.expat data with
  | none => simp [hparse, GS_INVALID, GS_OK] at h
  | some events => exact ⟨_, rfl⟩

lemma textOf_of_accepted (h : x.Accepted stage) :
    xmlSearch x.expat (x.document stage) node = .ok (x.textOf stage node) := by
  obtain ⟨text, htext⟩ : ∃ text, xmlSearch x.expat (x.document stage) node = .ok text :=
    xmlSearch_of_status h.2
  rw [htext, Attempt.textOf, htext]
  rfl

@[simp] lemma mapError_eq_ok {ε δ : Type} {r : Except ε α} {f : ε → δ} {a : α} :
    r.mapError f = .ok a ↔ r = .ok a := by
  cases r <;> simp [Except.mapError]

lemma orReturn_ok {r : Except ℤ α} {a : α} : orReturn r w = .ok a t ↔ r = .ok a ∧ t = w := by
  cases r with
  | error ret => simp [orReturn]
  | ok b =>
    show EStateM.Result.ok b w = .ok a t ↔ _
    simp [eq_comm]

lemma orReturn_error {r : Except ℤ α} {stop : Stop} :
    orReturn r w = .error stop t ↔ ∃ ret, r = .error ret ∧ stop = .code ret ∧ t = w := by
  cases r with
  | error ret => simp [orReturn, eq_comm]
  | ok b =>
    show EStateM.Result.ok b w = .error stop t ↔ _
    simp

lemma orExit_ok {r : Option α} {a : α} : orExit r w = .ok a t ↔ r = some a ∧ t = w := by
  cases r with
  | none => simp [orExit]
  | some b =>
    show EStateM.Result.ok b w = .ok a t ↔ _
    simp [eq_comm]

lemma orExit_error {r : Option α} {stop : Stop} :
    (orExit r : EStateM Stop World α) w = .error stop t ↔ r = none ∧ stop = .exited ∧ t = w := by
  cases r with
  | none => simp [orExit, eq_comm]
  | some b =>
    show EStateM.Result.ok b w = .error stop t ↔ _
    simp

lemma pure_ok {a b : α} : (pure a : EStateM Stop World α) w = .ok b t ↔ b = a ∧ t = w := by
  show EStateM.Result.ok a w = .ok b t ↔ _
  simp [eq_comm]

lemma pure_ne_error {a : α} {stop : Stop} : ¬(pure a : EStateM Stop World α) w = .error stop t :=
  nofun

lemma subdata_eq_some {start size : ℕ} {part : Bytes} : subdata data start size = some part ↔
    start + size ≤ data.length ∧ part = (data.drop start).take size := by
  unfold subdata
  split_ifs with hshort
  · simp
    omega
  · simp [eq_comm]
    omega

lemma subdata_eq_none {start size : ℕ} :
    subdata data start size = none ↔ data.length < start + size := by
  unfold subdata
  split_ifs with hshort <;> simp [hshort]

lemma gsPairValidate_ok :
    (∃ result, gsPairValidate x data = .ok result) ↔ xmlStatus x.expat data = GS_OK := by
  unfold gsPairValidate
  split_ifs with hstatus
  · simp [hstatus]
  · have hok : xmlStatus x.expat data = GS_OK := not_not.mp hstatus
    exact iff_of_true (xmlSearch_of_status hok) hok

/-- A question is answered by an accepted document, whatever is in its `paired`. -/
lemma ask_ok : ask x stage request w = .ok data t ↔
    x.cancelledAt (w.checks + 1) = false ∧ x.Accepted stage ∧ data = x.document stage ∧
      t = w.asked request := by
  simp only [ask, Fallible.bind_eq_ok, gsPairRequest_ok, orReturn_ok, mapError_eq_ok, pure_ok]
  constructor
  · rintro ⟨body, u, ⟨hquiet, hbody, rfl⟩, result, v, ⟨hvalid, rfl⟩, rfl, rfl⟩
    have hdocument : x.document stage = data := by rw [Attempt.document, hbody]; rfl
    refine ⟨hquiet, ⟨by rw [hdocument, hbody], ?_⟩, hdocument.symm, rfl⟩
    rw [hdocument]
    exact gsPairValidate_ok.mp ⟨result, hvalid⟩
  · rintro ⟨hquiet, haccepted, rfl, rfl⟩
    obtain ⟨result, hvalid⟩ := gsPairValidate_ok.mpr haccepted.2
    exact ⟨_, _, ⟨hquiet, haccepted.1, rfl⟩, result, _, ⟨hvalid, rfl⟩, rfl, rfl⟩

lemma ask_error {stop : Stop} (h : ask x stage request w = .error stop t) :
    ∃ ret, stop = .code ret ∧ ret ≠ GS_OK := by
  rcases bind_eq_error.mp h with hrequest | ⟨body, u, -, h⟩
  · exact gsPairRequest_error hrequest
  · rcases bind_eq_error.mp h with hinvalid | ⟨result, v, -, h⟩
    · obtain ⟨ret, hret, rfl, -⟩ := orReturn_error.mp hinvalid
      refine ⟨ret, rfl, ?_⟩
      cases hvalid : gsPairValidate x body with
      | ok result => simp [hvalid, Except.mapError] at hret
      | error code =>
        simp only [hvalid, Except.mapError, Except.error.injEq] at hret
        simp [← hret, GS_OK]
    · exact absurd h pure_ne_error

lemma not_exited_ask (h : ask x stage request w = .error .exited t) : False := by
  obtain ⟨ret, hstop, -⟩ := ask_error h
  cases hstop

lemma not_exited_orReturn {r : Except ℤ α} (h : orReturn r w = .error .exited t) : False := by
  obtain ⟨ret, -, hstop, -⟩ := orReturn_error.mp h
  cases hstop

/-! ## The stages -/

/-- A stage that asks and then reads one element of the answer. -/
lemma asked_text_ok {f : ℤ → ℤ} {text : Bytes} :
    (do
      let data ← ask x stage request
      orReturn ((xmlSearch x.expat data node).mapError f)) w = .ok text t ↔
    x.cancelledAt (w.checks + 1) = false ∧ x.Accepted stage ∧ text = x.textOf stage node ∧
      t = w.asked request := by
  simp only [Fallible.bind_eq_ok, ask_ok, orReturn_ok, mapError_eq_ok]
  constructor
  · rintro ⟨data, u, ⟨hquiet, haccepted, rfl, rfl⟩, htext, rfl⟩
    rw [textOf_of_accepted haccepted] at htext
    exact ⟨hquiet, haccepted, (Except.ok.inj htext).symm, rfl⟩
  · rintro ⟨hquiet, haccepted, rfl, rfl⟩
    exact ⟨_, _, ⟨hquiet, haccepted, rfl, rfl⟩, textOf_of_accepted haccepted, rfl⟩

lemma not_exited_asked_text {f : ℤ → ℤ}
    (h : (do
      let data ← ask x stage request
      orReturn ((xmlSearch x.expat data node).mapError f)) w = .error .exited t) : False := by
  rcases bind_eq_error.mp h with h | ⟨data, u, -, h⟩
  · exact not_exited_ask h
  · exact not_exited_orReturn h

lemma stage1_eq : stage1 x = (do
    let data ← ask x .getServerCert (.getServerCert (hex x.salt) (hex x.crypto.certData))
    orReturn ((xmlSearch x.expat data (ascii "plaincert")).mapError id)) := by
  have hid : ∀ r : Except ℤ Bytes, r.mapError id = r := fun r => by cases r <;> rfl
  simp only [stage1, hid]

lemma stage1_ok {text : Bytes} : stage1 x w = .ok text t ↔
    x.cancelledAt (w.checks + 1) = false ∧ x.Accepted .getServerCert ∧
      text = x.textOf .getServerCert (ascii "plaincert") ∧
      t = w.asked (.getServerCert (hex x.salt) (hex x.crypto.certData)) := by
  rw [stage1_eq, asked_text_ok]

lemma stage2_ok {text : Bytes} : stage2 x w = .ok text t ↔
    x.cancelledAt (w.checks + 1) = false ∧ x.Accepted .clientChallenge ∧
      text = x.textOf .clientChallenge (ascii "challengeresponse") ∧
      t = w.asked (.clientChallenge (hex (x.crypto.aesEncrypt x.randomChallenge x.aesKey))) :=
  asked_text_ok

/-- Two ranges, one behind the other, are both there or the process ends. -/
lemma cut_ok {f : Bytes → Bytes → EStateM Stop World α} {n m : ℕ} {a : α} :
    (do
      let first ← orExit (subdata data 0 n)
      let second ← orExit (subdata data n m)
      f first second) w = .ok a t ↔
    n + m ≤ data.length ∧ f (data.take n) ((data.drop n).take m) w = .ok a t := by
  simp only [Fallible.bind_eq_ok, orExit_ok, subdata_eq_some]
  constructor
  · rintro ⟨first, u, ⟨⟨-, rfl⟩, rfl⟩, second, v, ⟨⟨hlong, rfl⟩, rfl⟩, h⟩
    exact ⟨hlong, by simpa using h⟩
  · rintro ⟨hlong, h⟩
    refine ⟨data.take n, w, ⟨⟨by omega, by simp⟩, rfl⟩, _, w, ⟨⟨hlong, rfl⟩, rfl⟩, h⟩

lemma cut_exited {f : Bytes → Bytes → EStateM Stop World α} {n m : ℕ}
    (hf : ∀ first second, f first second w = .error .exited t → False) :
    (do
      let first ← orExit (subdata data 0 n)
      let second ← orExit (subdata data n m)
      f first second) w = .error .exited t ↔ data.length < n + m ∧ t = w := by
  simp only [bind_eq_error, orExit_ok, orExit_error, subdata_eq_some, subdata_eq_none]
  constructor
  · rintro (⟨hshort, -, rfl⟩ | ⟨first, u, ⟨-, rfl⟩, ⟨hshort, -, rfl⟩ | ⟨second, v, ⟨-, rfl⟩, h⟩⟩)
    · exact ⟨by omega, rfl⟩
    · exact ⟨hshort, rfl⟩
    · exact absurd h (hf first second)
  · rintro ⟨hshort, rfl⟩
    by_cases hfirst : data.length < 0 + n
    · exact .inl ⟨hfirst, trivial, rfl⟩
    · exact .inr ⟨_, t, ⟨⟨by omega, rfl⟩, rfl⟩, .inl ⟨hshort, trivial, rfl⟩⟩

/-- What the code sends back of the host's answer. -/
def provesChallenge (x : Attempt) (decrypted : Bytes) : Request :=
  .serverChallengeResp (hex (x.crypto.aesEncrypt (x.hashData
    ((decrypted.drop x.hashLength).take 16 ++ x.crypto.signature x.crypto.certData ++
      x.clientSecret)) x.aesKey))

lemma stage3_ok {response text : Bytes} :
    stage3 x response w = .ok text t ↔
      x.hashLength + 16 ≤ (x.crypto.aesDecrypt (hexToBytes response) x.aesKey).length ∧
      x.cancelledAt (w.checks + 1) = false ∧ x.Accepted .serverChallengeResp ∧
      text = x.textOf .serverChallengeResp (ascii "pairingsecret") ∧
      t = w.asked (provesChallenge x (x.crypto.aesDecrypt (hexToBytes response) x.aesKey)) :=
  cut_ok.trans (and_congr_right fun _ => asked_text_ok)

lemma stage3_exited {response : Bytes} :
    stage3 x response w = .error .exited t ↔
      (x.crypto.aesDecrypt (hexToBytes response) x.aesKey).length < x.hashLength + 16 ∧ t = w :=
  cut_exited fun _ _ => not_exited_asked_text

/-- The client's secret with its signature. -/
def revealsSecret (x : Attempt) : Request :=
  .clientPairingSecret
    (hex (x.clientSecret ++ x.crypto.signData x.clientSecret x.crypto.keyData))

lemma stage4_ok {cert secret : Bytes} : stage4 x cert secret w = .ok () t ↔
    16 + 256 ≤ (hexToBytes secret).length ∧
      x.crypto.verifySignature ((hexToBytes secret).take 16)
        (((hexToBytes secret).drop 16).take 256) (hexToBytes cert) = true ∧
      x.cancelledAt (w.checks + 1) = false ∧ x.Accepted .clientPairingSecret ∧
      t = w.asked (revealsSecret x) := by
  refine cut_ok.trans (and_congr_right fun _ => ?_)
  simp only [Fallible.bind_eq_ok, orReturn_ok, ask_ok, pure_ok]
  constructor
  · rintro ⟨_, _, ⟨hsigned, rfl⟩, _, _, ⟨hquiet, haccepted, -, rfl⟩, -, rfl⟩
    refine ⟨?_, hquiet, haccepted, rfl⟩
    by_contra hforged
    simp [hforged] at hsigned
  · rintro ⟨hsigned, hquiet, haccepted, rfl⟩
    exact ⟨(), w, ⟨by simp [hsigned], rfl⟩, _, _, ⟨hquiet, haccepted, rfl, rfl⟩, trivial, rfl⟩

lemma stage4_exited {cert secret : Bytes} : stage4 x cert secret w = .error .exited t ↔
    (hexToBytes secret).length < 16 + 256 ∧ t = w := by
  refine cut_exited fun first second h => ?_
  rcases bind_eq_error.mp h with h | ⟨_, _, -, h⟩
  · exact not_exited_orReturn h
  · rcases bind_eq_error.mp h with h | ⟨_, _, -, h⟩
    · exact not_exited_ask h
    · exact absurd h pure_ne_error

lemma stage5_ok : stage5 x w = .ok () t ↔ x.cancelledAt (w.checks + 1) = false ∧
    x.Accepted .pairChallenge ∧ t = w.asked .pairChallenge := by
  simp only [stage5, Fallible.bind_eq_ok, ask_ok, pure_ok]
  constructor
  · rintro ⟨_, _, ⟨hquiet, haccepted, -, rfl⟩, -, rfl⟩
    exact ⟨hquiet, haccepted, rfl⟩
  · rintro ⟨hquiet, haccepted, rfl⟩
    exact ⟨_, _, ⟨hquiet, haccepted, rfl, rfl⟩, trivial, rfl⟩

/-! ## Where the stages end -/

/-- A call pairs nothing and undoes nothing before its cleanup, and a code that it returns
early is not the one of success. -/
def Orderly (m : EStateM Stop World α) : Prop :=
  Keeps (fun w => w.paired = false ∧ Request.unpair ∉ w.sent) m ∧
    ∀ w t ret, m w = .error (.code ret) t → ret ≠ GS_OK

lemma Orderly.bind {m : EStateM Stop World α} {f : α → EStateM Stop World β} (hm : Orderly m)
    (hf : ∀ a, Orderly (f a)) : Orderly (m >>= f) := by
  refine ⟨hm.1.bind fun a => (hf a).1, fun w t ret h => ?_⟩
  rcases bind_eq_error.mp h with hfirst | ⟨a, u, -, hsecond⟩
  · exact hm.2 w t ret hfirst
  · exact (hf a).2 u t ret hsecond

lemma orderly_orReturn {r : Except ℤ α} (h : ∀ ret, r = .error ret → ret ≠ GS_OK) :
    Orderly (orReturn r) := by
  refine ⟨fun w hw => ?_, fun w t ret hret => ?_⟩
  · cases r <;> exact hw
  · obtain ⟨code, hcode, hstop, -⟩ := orReturn_error.mp hret
    exact Stop.code.inj hstop ▸ h code hcode

lemma orderly_orExit {r : Option α} : Orderly (orExit r) := by
  refine ⟨fun w hw => ?_, fun w t ret hret => ?_⟩
  · cases r <;> exact hw
  · obtain ⟨-, hstop, -⟩ := orExit_error.mp hret
    cases hstop

lemma orderly_pure {a : α} : Orderly (pure a) :=
  ⟨fun _ hw => hw, fun _ _ _ h => absurd h pure_ne_error⟩

lemma orderly_gsPairRequest (h : request ≠ .unpair) : Orderly (gsPairRequest x stage request) := by
  refine ⟨fun w hw => ?_, fun w t ret hret => ?_⟩
  · unfold gsPairRequest
    simp only
    split_ifs
    · exact hw
    · simpa [h.symm] using hw
    · cases httpRequest (x.answer stage) <;> simpa [h.symm] using hw
  · obtain ⟨code, hstop, hcode⟩ := gsPairRequest_error hret
    exact Stop.code.inj hstop ▸ hcode

lemma mapError_const_ne_ok {r : Except ℤ α} {code : ℤ} (hcode : code ≠ GS_OK) (ret : ℤ)
    (h : (r.mapError fun _ => code) = .error ret) : ret ≠ GS_OK := by
  cases r with
  | ok a => cases h
  | error _ => exact Except.error.inj h ▸ hcode

lemma xmlSearch_error {ret : ℤ} (h : xmlSearch x.expat data node = .error ret) : ret ≠ GS_OK := by
  unfold xmlSearch at h
  split at h
  · exact Except.error.inj h ▸ by decide
  · cases h

lemma orderly_ask (h : request ≠ .unpair) : Orderly (ask x stage request) :=
  (orderly_gsPairRequest h).bind fun _ =>
    (orderly_orReturn (mapError_const_ne_ok (by decide))).bind fun _ => orderly_pure

lemma orderly_stages : Orderly (stages x) := by
  have hstage1 : Orderly (stage1 x) :=
    (orderly_ask (by nofun)).bind fun _ => orderly_orReturn fun _ => xmlSearch_error
  have hstage2 : Orderly (stage2 x) :=
    (orderly_ask (by nofun)).bind fun _ => orderly_orReturn (mapError_const_ne_ok (by decide))
  have hstage3 : ∀ response, Orderly (stage3 x response) := fun _ =>
    orderly_orExit.bind fun _ => orderly_orExit.bind fun _ =>
      (orderly_ask (by nofun)).bind fun _ => orderly_orReturn (mapError_const_ne_ok (by decide))
  have hsigned : ∀ signed : Bool, ∀ ret : ℤ,
      (if signed then .ok () else .error GS_FAILED : Except ℤ Unit) = .error ret →
        ret ≠ GS_OK := by
    rintro signed ret h
    cases signed with
    | true => cases h
    | false => exact Except.error.inj h ▸ by decide
  have hstage4 : ∀ cert secret, Orderly (stage4 x cert secret) := fun _ _ =>
    orderly_orExit.bind fun _ => orderly_orExit.bind fun _ =>
      (orderly_orReturn (hsigned _)).bind fun _ =>
        (orderly_ask (by nofun)).bind fun _ => orderly_pure
  have hstage5 : Orderly (stage5 x) := (orderly_ask (by nofun)).bind fun _ => orderly_pure
  exact hstage1.bind fun _ => hstage2.bind fun _ => (hstage3 _).bind fun _ =>
    (hstage4 _ _).bind fun _ => hstage5

/-- All the checks that the code makes, up to the last look at the token. -/
structure GetsThrough (x : Attempt) : Prop where
  quiet : x.cancelledAt 9 = false
  accepted : ∀ stage, x.Accepted stage
  response : x.hashLength + 16 ≤ x.decryptedResponse.length
  secret : 16 + 256 ≤ x.serverSecretResp.length
  signed : x.Signed

lemma stages_ok (h : stages x { paired := false } = .ok () t) : GetsThrough x ∧ t.checks = 10 := by
  obtain ⟨cert, w₁, h₁, h⟩ := Fallible.bind_eq_ok.mp h
  obtain ⟨response, w₂, h₂, h⟩ := Fallible.bind_eq_ok.mp h
  obtain ⟨secret, w₃, h₃, h⟩ := Fallible.bind_eq_ok.mp h
  obtain ⟨_, w₄, h₄, h₅⟩ := Fallible.bind_eq_ok.mp h
  obtain ⟨-, hcert, rfl, rfl⟩ := stage1_ok.mp h₁
  obtain ⟨-, hchallenge, rfl, rfl⟩ := stage2_ok.mp h₂
  obtain ⟨hresponse, -, hresp, rfl, rfl⟩ := stage3_ok.mp h₃
  obtain ⟨hsecret, hsigned, -, hreveal, rfl⟩ := stage4_ok.mp h₄
  obtain ⟨hquiet, hpair, rfl⟩ := stage5_ok.mp h₅
  refine ⟨⟨hquiet, fun stage => ?_, hresponse, hsecret, hsigned⟩, rfl⟩
  cases stage <;> assumption

lemma stages_of_getsThrough (h : GetsThrough x) : ∃ t, stages x { paired := false } = .ok () t := by
  have hquiet : ∀ n ≤ 9, x.cancelledAt n = false := fun n hn => cancelledAt_mono hn h.quiet
  exact ⟨_, Fallible.bind_eq_ok.mpr ⟨_, _, stage1_ok.mpr ⟨hquiet 1 (by omega), h.accepted _, rfl, rfl⟩,
    Fallible.bind_eq_ok.mpr ⟨_, _, stage2_ok.mpr ⟨hquiet 3 (by omega), h.accepted _, rfl, rfl⟩,
    Fallible.bind_eq_ok.mpr ⟨_, _,
      stage3_ok.mpr ⟨h.response, hquiet 5 (by omega), h.accepted _, rfl, rfl⟩,
    Fallible.bind_eq_ok.mpr ⟨_, _,
      stage4_ok.mpr ⟨h.secret, h.signed, hquiet 7 (by omega), h.accepted _, rfl⟩,
    stage5_ok.mpr ⟨hquiet 9 (by omega), h.accepted _, rfl⟩⟩⟩⟩⟩⟩

/-- The process ends in the middle of a stage when an accepted answer is too short. -/
inductive CutShort (x : Attempt) : Prop
  | response (hquiet : x.cancelledAt 3 = false) (hcert : x.Accepted .getServerCert)
      (hchallenge : x.Accepted .clientChallenge)
      (hshort : x.decryptedResponse.length < x.hashLength + 16)
  | secret (hquiet : x.cancelledAt 5 = false) (hcert : x.Accepted .getServerCert)
      (hchallenge : x.Accepted .clientChallenge) (hresp : x.Accepted .serverChallengeResp)
      (hlong : x.hashLength + 16 ≤ x.decryptedResponse.length)
      (hshort : x.serverSecretResp.length < 16 + 256)

lemma stages_exited (h : stages x { paired := false } = .error .exited t) : CutShort x := by
  rcases bind_eq_error.mp h with h | ⟨cert, w₁, h₁, h⟩
  · exact (not_exited_asked_text (stage1_eq ▸ h)).elim
  obtain ⟨-, hcert, rfl, rfl⟩ := stage1_ok.mp h₁
  rcases bind_eq_error.mp h with h | ⟨response, w₂, h₂, h⟩
  · exact (not_exited_asked_text h).elim
  obtain ⟨hquiet, hchallenge, rfl, rfl⟩ := stage2_ok.mp h₂
  rcases bind_eq_error.mp h with h | ⟨secret, w₃, h₃, h⟩
  · exact .response hquiet hcert hchallenge (stage3_exited.mp h).1
  obtain ⟨hlong, hquiet, hresp, rfl, rfl⟩ := stage3_ok.mp h₃
  rcases bind_eq_error.mp h with h | ⟨_, w₄, h₄, h⟩
  · exact .secret hquiet hcert hchallenge hresp hlong (stage4_exited.mp h).1
  rcases bind_eq_error.mp h with h | ⟨_, _, -, h⟩
  · exact (not_exited_ask h).elim
  · exact absurd h pure_ne_error

lemma exists_exited_of_cutShort (h : CutShort x) :
    ∃ t, stages x { paired := false } = .error .exited t := by
  cases h with
  | response hquiet hcert hchallenge hshort =>
    have hfirst : x.cancelledAt 1 = false := cancelledAt_mono (by decide) hquiet
    exact ⟨_, bind_eq_error.mpr (.inr ⟨_, _,
      stage1_ok.mpr ⟨hfirst, hcert, rfl, rfl⟩,
      bind_eq_error.mpr (.inr ⟨_, _, stage2_ok.mpr ⟨hquiet, hchallenge, rfl, rfl⟩,
      bind_eq_error.mpr (.inl (stage3_exited.mpr ⟨hshort, rfl⟩))⟩)⟩)⟩
  | secret hquiet hcert hchallenge hresp hlong hshort =>
    have hfirst : x.cancelledAt 1 = false := cancelledAt_mono (by decide) hquiet
    have hsecond : x.cancelledAt 3 = false := cancelledAt_mono (by decide) hquiet
    exact ⟨_, bind_eq_error.mpr (.inr ⟨_, _,
      stage1_ok.mpr ⟨hfirst, hcert, rfl, rfl⟩,
      bind_eq_error.mpr (.inr ⟨_, _,
      stage2_ok.mpr ⟨hsecond, hchallenge, rfl, rfl⟩,
      bind_eq_error.mpr (.inr ⟨_, _, stage3_ok.mpr ⟨hlong, hquiet, hresp, rfl, rfl⟩,
      bind_eq_error.mpr (.inl (stage4_exited.mpr ⟨hshort, rfl⟩))⟩)⟩)⟩)⟩

/-- What is handed to the cleanup of a call that has not paired. -/
lemma authenticates_cleanup {ret : ℤ} (hw : w.paired = false) (hret : ret ≠ GS_OK) :
    Authenticates x ((gsPairCleanup x ret w).map some id) := by
  unfold gsPairCleanup
  cases hcancelled : x.cancelledAt w.checks with
  | true =>
    refine ⟨fun hok => ?_, fun _ => ?_, fun _ _ _ => ?_⟩
    · simp [GS_CANCELLED, GS_OK] at hok
    · simp
    · simp
  | false =>
    refine ⟨fun hok => ?_, fun _ => ?_, fun check hcheck hlate => ?_⟩
    · simp [hret] at hok
    · simp [hret, hw]
    · obtain rfl : w.checks = check := by simpa [hret] using hcheck
      rw [hcancelled] at hlate
      cases hlate

/-- What a call that passed all checks but the last look at the token comes to. -/
lemma authenticates_passed (hchecks : w.checks = 10) :
    Authenticates x ((gsPairCleanup x GS_OK { w with paired := true }).map some id) ↔
      (x.cancelledAt 10 = false → x.Authentic) := by
  unfold gsPairCleanup
  cases hcancelled : x.cancelledAt 10 with
  | true =>
    refine iff_of_true ⟨fun hok => ?_, fun _ => ?_, fun _ _ _ => ?_⟩ nofun
    · simp [hchecks, hcancelled, GS_CANCELLED, GS_OK] at hok
    · simp [hchecks, hcancelled]
    · simp [hchecks, hcancelled]
  | false =>
    constructor
    · intro h _
      exact h.evidence (by simp [hchecks, hcancelled]) (by simp [hchecks, hcancelled])
    · intro h
      refine ⟨fun _ _ => h rfl, fun hfailed => ?_, fun check hcheck hlate => ?_⟩
      · simp [hchecks, hcancelled] at hfailed
      · obtain rfl : check = 10 := by simpa [hchecks, hcancelled, eq_comm] using hcheck
        rw [hcancelled] at hlate
        cases hlate

/-- Accepted answers that are long enough are all that the stages ask for. -/
lemma exists_ok_of_accepted (hcut : ¬CutShort x) (hquiet : x.cancelledAt 9 = false)
    (haccepted : ∀ stage, x.Accepted stage) (hsigned : x.Signed) :
    ∃ t, stages x { paired := false } = .ok () t := by
  have hfirst : x.cancelledAt 3 = false := cancelledAt_mono (by decide) hquiet
  have hsecond : x.cancelledAt 5 = false := cancelledAt_mono (by decide) hquiet
  have hresponse := not_lt.mp fun hshort =>
    hcut (.response hfirst (haccepted _) (haccepted _) hshort)
  have hsecret := not_lt.mp fun hshort =>
    hcut (.secret hsecond (haccepted _) (haccepted _) (haccepted _) hresponse hshort)
  exact stages_of_getsThrough ⟨hquiet, haccepted, hresponse, hsecret, hsigned⟩

lemma not_cutShort (h : x.Sound) : ¬CutShort x := by
  intro hcut
  cases hcut with
  | response hquiet hcert hchallenge hshort =>
    exact absurd (h.response hquiet hcert hchallenge) (by omega)
  | secret hquiet hcert hchallenge hresp _ hshort =>
    exact absurd (h.secret hquiet hcert hchallenge hresp) (by omega)

/-- Where no answer ends the process, the answers that are read are long enough. -/
lemma sound_of_not_cutShort (hcut : ¬CutShort x)
    (hshown : x.cancelledAt 10 = false → (∀ stage, x.Accepted stage) → x.Signed →
      x.SaysPaired ∧ x.KnowsPin) : x.Sound := by
  have hresponse : x.cancelledAt 3 = false → x.Accepted .getServerCert →
      x.Accepted .clientChallenge → x.hashLength + 16 ≤ x.decryptedResponse.length :=
    fun hquiet hcert hchallenge => not_lt.mp fun hshort =>
      hcut (.response hquiet hcert hchallenge hshort)
  refine ⟨hresponse, fun hquiet hcert hchallenge hresp => not_lt.mp fun hshort => ?_, hshown⟩
  have hlong := hresponse (cancelledAt_mono (by decide) hquiet) hcert hchallenge
  exact hcut (.secret hquiet hcert hchallenge hresp hlong hshort)

/-- `gs_pair` authenticates the host exactly when no accepted answer is too short and every
host that gets through the code's own checks has also shown the rest. -/
theorem pairing_authenticates_iff (x : Attempt) (hgame : x.currentGame = 0) :
    Authenticates x (gsPair x false) ↔ x.Sound := by
  have horderly := (orderly_stages (x := x)).1 { paired := false } ⟨rfl, by simp⟩
  have hends : (∀ t, stages x { paired := false } ≠ .error .exited t) → ¬CutShort x := by
    intro hends hcut
    obtain ⟨t, ht⟩ := exists_exited_of_cutShort hcut
    exact hends t ht
  rw [gsPair_fresh hgame]
  cases hstages : stages x { paired := false } with
  | ok _ w =>
    obtain ⟨hthrough, hchecks⟩ := stages_ok hstages
    refine (authenticates_passed hchecks).trans ⟨fun h => ?_, fun h hquiet => ?_⟩
    · exact sound_of_not_cutShort (hends (by simp [hstages]))
        fun hquiet _ _ => ⟨(h hquiet).saysPaired, (h hquiet).knowsPin⟩
    · obtain ⟨hpaired, hpin⟩ := h.shown hquiet hthrough.accepted hthrough.signed
      exact ⟨hthrough.accepted, hpaired, hthrough.signed, hpin⟩
  | error stop w =>
    rw [hstages] at horderly
    cases stop with
    | exited =>
      refine iff_of_false (fun h => ?_) fun h => not_cutShort h (stages_exited hstages)
      exact horderly.2 (h.otherwise (by simp)).2
    | code ret =>
      have hret := orderly_stages.2 _ _ _ hstages
      have hcut := hends (by simp [hstages])
      refine iff_of_true (authenticates_cleanup horderly.1 hret) ?_
      refine sound_of_not_cutShort hcut fun hquiet haccepted hsigned => ?_
      -- a call that was answered, signed and not cancelled does not stop early
      obtain ⟨t, ht⟩ := exists_ok_of_accepted hcut (cancelledAt_mono (by decide) hquiet)
        haccepted hsigned
      rw [hstages] at ht
      cases ht

/-! ## A host with the right PIN and one without -/

/-- Stands for a hash of `n` bytes, which sees every byte of the data. -/
def toyDigest (n : ℕ) (data : Bytes) : Bytes :=
  data.foldl (fun h c => h * 31 + c) 7 :: List.replicate (n - 1) 0

/-- The public key in a certificate is the private key. -/
def toyCrypto : Crypto where
  createAESKeyFromSaltSHA1 := toyDigest 16
  createAESKeyFromSaltSHA256 := toyDigest 16
  sha1HashData := toyDigest 20
  sha256HashData := toyDigest 32
  aesEncrypt data key := data.map (· ^^^ key.headD 0)
  aesDecrypt data key := data.map (· ^^^ key.headD 0)
  signature cert := toyDigest 4 cert
  signData data key := toyDigest 256 (key ++ data)
  verifySignature data signature cert := signature = toyDigest 256 (cert ++ data)
  certData := [1]
  keyData := [1]

/-- The document of a host that says it is paired, with one more element. -/
def written (field : String × Bytes) : Bytes :=
  ascii "<root status_code=\"200\"><paired>1</paired><" ++ ascii field.1 ++ ascii ">" ++ field.2 ++
    ascii "</" ++ ascii field.1 ++ ascii "></root>"

/-- What expat reads in such a document. -/
def parsed (field : String × Bytes) : List XmlEvent :=
  [.start (ascii "root") [(ascii "status_code", ascii "200")], .start (ascii "paired") [],
    .text (ascii "1"), .close (ascii "paired"), .start (ascii field.1) [], .text field.2,
    .close (ascii field.1), .close (ascii "root")]

def drawn (c : UInt8) : Bytes := List.replicate 16 c

def hostCertData : Bytes := [9]

/-- What a host says that takes `pin` for the PIN. -/
def said (pin : Bytes) : Stage → String × Bytes
  | .getServerCert => ("plaincert", hex hostCertData)
  | .clientChallenge =>
    let key := toyDigest 16 (drawn 2 ++ pin)
    let challenge := toyCrypto.aesDecrypt (toyCrypto.aesEncrypt (drawn 3)
      (toyDigest 16 (drawn 2 ++ ascii "1234"))) key
    let hash := toyDigest 32 (challenge ++ toyCrypto.signature hostCertData ++ drawn 5)
    ("challengeresponse", hex (toyCrypto.aesEncrypt (hash ++ drawn 6) key))
  | .serverChallengeResp =>
    ("pairingsecret", hex (drawn 5 ++ toyDigest 256 (hostCertData ++ drawn 5)))
  | _ => ("note", [])

/-- The user types 1234. -/
def meeting (pin : Bytes) : Attempt where
  crypto := toyCrypto
  expat data := ([.getServerCert, .clientChallenge, .serverChallengeResp,
    .clientPairingSecret].find? fun stage => written (said pin stage) = data).map fun stage =>
      parsed (said pin stage)
  pin := ascii "1234"
  salt := drawn 2
  randomChallenge := drawn 3
  clientSecret := drawn 4
  answer stage := .answered 200 (written (said pin stage))

lemma meeting_sound : (meeting (ascii "1234")).Sound where
  response _ _ _ := by decide +kernel
  secret _ _ _ _ := by decide +kernel
  shown _ _ _ := ⟨fun stage => by cases stage <;> decide +kernel, by decide +kernel⟩

theorem pairing_authenticates_rightPin : (meeting (ascii "1234")).currentGame = 0 ∧
    Authenticates (meeting (ascii "1234")) (gsPair (meeting (ascii "1234")) false) :=
  ⟨rfl, (pairing_authenticates_iff (meeting (ascii "1234")) rfl).mpr meeting_sound⟩

/-- A host that does not know the PIN is paired. -/
theorem wrong_pin_is_paired :
    (gsPair (meeting (ascii "0000")) false).1 = some GS_OK ∧
      (gsPair (meeting (ascii "0000")) false).2.paired = true ∧
      ¬Authenticates (meeting (ascii "0000")) (gsPair (meeting (ascii "0000")) false) := by
  have hok : (gsPair (meeting (ascii "0000")) false).1 = some GS_OK := by decide +kernel
  have hpaired : (gsPair (meeting (ascii "0000")) false).2.paired = true := by decide +kernel
  refine ⟨hok, hpaired, fun h => ?_⟩
  have hpin : ¬(meeting (ascii "0000")).KnowsPin := by decide +kernel
  exact hpin (h.evidence hok hpaired).knowsPin

/-! ## Behind the last look at the token -/

/-- The client's own call keeps what `gs_pair` promises, also when the user cancels late. -/
theorem pair_authenticates (h : Authenticates x (gsPair x false)) :
    Authenticates x (pair x false) := by
  unfold pair
  rcases hcall : gsPair x false with ⟨status | status, w⟩
  · rwa [hcall] at h
  · rw [hcall] at h
    cases hlate : x.cancelledAt w.checks with
    | false =>
      simp only [hlate, Bool.not_false, ite_true]
      refine ⟨h.evidence, h.otherwise, fun check hcheck hcancelled => ?_⟩
      obtain rfl : w.checks = check := by simpa using hcheck
      rw [hlate] at hcancelled
      cases hcancelled
    | true =>
      simp only [hlate, Bool.not_true, Bool.false_eq_true, ite_false]
      refine ⟨fun hok => ?_, fun _ => ?_, fun _ _ _ => rfl⟩
      · simp [GS_CANCELLED, GS_OK] at hok
      · by_cases hstatus : status = GS_OK
        · simp [hstatus]
        · have hundone := h.otherwise fun hok => hstatus (Option.some.inj hok.1)
          simpa [hstatus] using hundone

end ArtemisSwitch.Pairing

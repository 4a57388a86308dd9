import ArtemisSwitch.Library.Runs
import ArtemisSwitch.Noise

/-!
# Nonces and failures of a Noise client

A session is a client and what its calls have done so far: the nonces of the
records it sealed, tried to open and accepted under the current keys, and
whether some call has failed since `begin` succeeded.
-/

namespace ArtemisSwitch.Noise
open Netmap (Key32)
open Runs

inductive Call
  | begin (initiation : Bool)
  | complete (response : Bytes)
  | frame (plaintext : Bytes) (framed : Bool)
  | consume (bytes : Bytes) (plaintext : Bool)
  deriving DecidableEq, Repr

namespace NoiseClient

/-- The response carries the tag that the client expects of it. -/
def authenticates (lib : Primitives) (client : NoiseClient) (response : Bytes) : Bool :=
  wellFormed response &&
    match client.mixResponse lib (controlEphemeral response) with
    | (.ok cipherKey, client) =>
      (lib.decrypt cipherKey 0 client.hash.val (responseTag response)).isSome
    | (.error _, _) => false

/-- The framed records or plaintexts that a call hands out. -/
def output (lib : Primitives) (client : NoiseClient) : Call → List Bytes
  | .frame plaintext framed =>
    match (client.frame lib plaintext framed).1 with
    | .ok records => records.map Record.bytes
    | .error _ => []
  | .consume bytes plaintext => (client.consume lib bytes plaintext).accepted.map Prod.snd
  | _ => []

end NoiseClient

structure Session where
  client : NoiseClient
  failed : Bool := false
  sealed : List UInt64 := []
  opened : List UInt64 := []
  accepted : List UInt64 := []
  deriving DecidableEq

namespace Session
variable (lib : Primitives) (s : Session)

/-- A failure counts once `begin` has succeeded. -/
def answered (ok : Bool) (client : NoiseClient) : Session :=
  { s with client := client, failed := s.failed || (!ok && s.client.begun) }

/-- New keys start new lists of nonces. -/
def call : Call → Session
  | .begin initiation =>
    let reply := s.client.begin lib initiation
    s.answered reply.1.isOk reply.2
  | .complete response =>
    let reply := s.client.complete lib response
    if reply.1.isOk then { client := reply.2, failed := s.failed }
    else s.answered false reply.2
  | .frame plaintext framed =>
    let reply := s.client.frame lib plaintext framed
    { s.answered reply.1.isOk reply.2 with
      sealed := s.sealed ++ (reply.1.toOption.getD []).map Record.nonce }
  | .consume bytes plaintext =>
    let reply := s.client.consume lib bytes plaintext
    { s.answered reply.error.isNone reply.client with
      opened := s.opened ++ (reply.accepted.map Prod.fst ++ reply.rejected.toList)
      accepted := s.accepted ++ reply.accepted.map Prod.fst }

/-- No nonce is used twice in one direction, records are numbered from nonce 0 on, and
after a failure the client hands out nothing. -/
structure Disciplined (s : Session) : Prop where
  sealed_nodup : (s.sealed.map nonceBytes).Nodup
  opened_nodup : (s.opened.map nonceBytes).Nodup
  sealed_nth : ∀ (n : ℕ) (nonce : UInt64), s.sealed[n]? = some nonce → nonce.toNat = n
  opened_nth : ∀ (n : ℕ) (nonce : UInt64), s.opened[n]? = some nonce → nonce.toNat = n
  accepted_prefix : s.accepted <+: s.opened
  stopped : s.failed = true →
    s.client.ready = false ∧ ∀ call, s.client.output lib call = []

/-- The call hands an authentic response to a client that has failed. -/
def reopens : Call → Bool
  | .complete response => s.failed && s.client.authenticates lib response
  | _ => false

/-- The call does not start anew after a failure, and no key is used for more than 2 ^ 64
records. -/
def Allowed (s : Session) (call : Call) : Prop :=
  s.reopens lib call = false ∧
    (s.call lib call).sealed.length ≤ 2 ^ 64 ∧ (s.call lib call).opened.length ≤ 2 ^ 64

instance (s : Session) (call : Call) : Decidable (Allowed lib s call) :=
  inferInstanceAs (Decidable (_ ∧ _ ∧ _))

end Session

/-! ## What the calls do to the flags and the counters -/

namespace NoiseClient
variable {lib : Primitives} {client : NoiseClient} {response plaintext bytes : Bytes}
variable {key : Key32} {nonce : UInt64}

@[simp] lemma fail_begun : client.fail.begun = client.begun := by
  unfold fail
  split_ifs <;> rfl

@[simp] lemma fail_txNonce : client.fail.txNonce = client.txNonce := by
  unfold fail
  split_ifs <;> rfl

@[simp] lemma fail_rxNonce : client.fail.rxNonce = client.rxNonce := by
  unfold fail
  split_ifs <;> rfl

@[simp] lemma fail_ready : client.fail.ready = (client.ready && !client.begun) := by
  unfold fail
  split_ifs with h <;> simp [h]

/-- Flags and counters are those of `client`. -/
def SameSession (client client' : NoiseClient) : Prop :=
  client'.begun = client.begun ∧ client'.ready = client.ready ∧
    client'.txNonce = client.txNonce ∧ client'.rxNonce = client.rxNonce

/-- Flags and counters are those of `client` after a failure. -/
def Failed (client client' : NoiseClient) : Prop :=
  client'.begun = client.begun ∧ client'.ready = (client.ready && !client.begun) ∧
    client'.txNonce = client.txNonce ∧ client'.rxNonce = client.rxNonce

lemma failed_fail : Failed client client.fail := by simp [Failed]

lemma SameSession.failed {client' client'' : NoiseClient} (h : SameSession client client')
    (h' : Failed client' client'') : Failed client client'' := by
  unfold SameSession at h
  unfold Failed at h' ⊢
  simpa [h] using h'

lemma mixDh_cases (client : NoiseClient) (privateKey publicKey : Key32) :
    (∃ cipherKey client', client.mixDh lib privateKey publicKey = (.ok cipherKey, client') ∧
      SameSession client client') ∨
    ∃ error client', client.mixDh lib privateKey publicKey = (.error error, client') ∧
      Failed client client' := by
  unfold mixDh
  simp only
  split_ifs
  · exact Or.inr ⟨_, _, rfl, failed_fail⟩
  · exact Or.inl ⟨_, _, rfl, rfl, rfl, rfl, rfl⟩

lemma begin_cases (client : NoiseClient) (initiation : Bool) :
    (∃ message client', client.begin lib initiation = (.ok message, client') ∧
      client.begun = false ∧ client'.begun = true ∧ client'.ready = client.ready ∧
      client'.txNonce = client.txNonce ∧ client'.rxNonce = client.rxNonce) ∨
    ∃ error client', client.begin lib initiation = (.error error, client') ∧
      Failed client client' := by
  unfold begin
  split_ifs with hbad
  · exact Or.inr ⟨_, _, rfl, failed_fail⟩
  · have hbegun : client.begun = false := by
      simp only [not_or, Bool.not_eq_true] at hbad
      exact hbad.2.1
    -- each part of the handshake either goes on with the same session or fails for good
    have hstart : SameSession client (client.startHandshake lib) := ⟨rfl, rfl, rfl, rfl⟩
    generalize client.startHandshake lib = started at hstart
    simp only
    rcases @mixDh_cases lib started started.ephemeralPrivate started.controlPublic with
      ⟨cipherKey, mixed, hmix, hsame⟩ | ⟨error, mixed, hmix, hfailed⟩
    · rw [hmix]
      simp only
      generalize lib.encrypt cipherKey 0 mixed.hash.val _ = encryptedMachine
      have hhash : SameSession mixed (mixed.mixHash lib encryptedMachine) := ⟨rfl, rfl, rfl, rfl⟩
      generalize mixed.mixHash lib encryptedMachine = mixed' at hhash
      unfold SameSession at hstart hsame hhash
      rcases @mixDh_cases lib mixed' mixed'.machinePrivate mixed'.controlPublic with
        ⟨cipherKey', last, hmix', hsame'⟩ | ⟨error, last, hmix', hfailed⟩
      · rw [hmix']
        unfold SameSession at hsame'
        refine Or.inl ⟨_, _, rfl, hbegun, rfl, ?_⟩
        simp only [mixHash]
        simp [hsame', hhash, hsame, hstart]
      · rw [hmix']
        unfold Failed at hfailed
        refine Or.inr ⟨_, _, rfl, ?_⟩
        simp [Failed, hfailed, hhash, hsame, hstart]
    · rw [hmix]
      exact Or.inr ⟨_, _, rfl, hstart.failed hfailed⟩

lemma mixResponse_cases (client : NoiseClient) (publicKey : Key32) :
    (∃ cipherKey client', client.mixResponse lib publicKey = (.ok cipherKey, client') ∧
      SameSession client client') ∨
    ∃ error client', client.mixResponse lib publicKey = (.error error, client') ∧
      Failed client client' := by
  unfold mixResponse
  have hhash : SameSession client (client.mixHash lib publicKey.val) := ⟨rfl, rfl, rfl, rfl⟩
  generalize client.mixHash lib publicKey.val = hashed at hhash
  simp only
  rcases @mixDh_cases lib hashed hashed.ephemeralPrivate publicKey with
    ⟨cipherKey, mixed, hmix, hsame⟩ | ⟨error, mixed, hmix, hfailed⟩
  · rw [hmix]
    simp only
    have htrans : SameSession client mixed := by
      unfold SameSession at *
      simp [hsame, hhash]
    rcases @mixDh_cases lib mixed mixed.machinePrivate publicKey with
      ⟨cipherKey', last, hmix', hsame'⟩ | ⟨error, last, hmix', hfailed⟩
    · refine Or.inl ⟨cipherKey', last, hmix', ?_⟩
      unfold SameSession at *
      simp [hsame', htrans]
    · exact Or.inr ⟨error, last, hmix', htrans.failed hfailed⟩
  · rw [hmix]
    exact Or.inr ⟨_, _, rfl, hhash.failed hfailed⟩

/-- `complete` succeeds on an authentic response exactly, and only between `begin` and
being ready. -/
lemma complete_cases (client : NoiseClient) (response : Bytes) :
    (∃ client', client.complete lib response = (.ok (), client') ∧ client.begun = true ∧
      client.ready = false ∧ client.authenticates lib response = true ∧
      client'.begun = true ∧ client'.ready = true ∧ client'.txNonce = 0 ∧
      client'.rxNonce = 0) ∨
    ∃ error client', client.complete lib response = (.error error, client') ∧
      Failed client client' ∧
      (client.begun = true → client.ready = false →
        client.authenticates lib response = false) := by
  unfold complete
  split_ifs with hbad
  · refine Or.inr ⟨_, _, rfl, failed_fail, ?_⟩
    intro hbegun hready
    simp only [hbegun, hready, reduceCtorEq, false_or] at hbad
    simp [authenticates, hbad]
  · simp only [not_or, Bool.not_eq_false, Bool.not_eq_true] at hbad
    obtain ⟨hbegun, hready, hwell⟩ := hbad
    rcases @mixResponse_cases lib client (controlEphemeral response) with
      ⟨cipherKey, mixed, hmix, hsame⟩ | ⟨error, mixed, hmix, hfailed⟩
    · rw [hmix]
      simp only
      unfold SameSession at hsame
      rcases hopen : lib.decrypt cipherKey 0 mixed.hash.val (responseTag response) with _ | empty
      · refine Or.inr ⟨_, _, rfl, ?_, fun _ _ => by simp [authenticates, hmix, hopen]⟩
        simp [Failed, hsame]
      · refine Or.inl ⟨_, rfl, hbegun, hready, by simp [authenticates, hwell, hmix, hopen], ?_⟩
        exact ⟨hsame.1.trans hbegun, rfl, rfl, rfl⟩
    · rw [hmix]
      exact Or.inr ⟨_, _, rfl, hfailed, fun _ _ => by simp [authenticates, hmix]⟩

end NoiseClient

/-! ## Counting nonces -/

/-- The nonces of the first `n` records under a key. -/
def counted (n : ℕ) : List UInt64 := (List.range n).map UInt64.ofNat

/-- The nonces of `n` records from this counter on. -/
def countedFrom (nonce : UInt64) (n : ℕ) : List UInt64 :=
  (List.range n).map fun i => nonce + UInt64.ofNat i

@[simp] lemma length_counted (n : ℕ) : (counted n).length = n := by simp [counted]

@[simp] lemma length_countedFrom (nonce : UInt64) (n : ℕ) : (countedFrom nonce n).length = n := by
  simp [countedFrom]

lemma countedFrom_succ (nonce : UInt64) (n : ℕ) :
    countedFrom nonce (n + 1) = nonce :: countedFrom (nonce + 1) n := by
  rw [countedFrom, List.range_succ_eq_map, List.map_cons, List.map_map, countedFrom]
  congr 1
  · simp
  · apply List.map_congr_left
    intro i _
    simp only [Function.comp, Nat.succ_eq_add_one, UInt64.ofNat_add]
    rw [UInt64.add_comm (UInt64.ofNat i), ← UInt64.add_assoc]
    rfl

lemma counted_append (m n : ℕ) : counted m ++ countedFrom (UInt64.ofNat m) n = counted (m + n) := by
  simp [counted, countedFrom, List.range_add, Function.comp_def, UInt64.ofNat_add]

lemma counted_nth {n i : ℕ} {nonce : UInt64} (hn : n ≤ 2 ^ 64)
    (h : (counted n)[i]? = some nonce) : nonce.toNat = i := by
  obtain ⟨hi, rfl⟩ := List.getElem?_eq_some_iff.mp h
  rw [length_counted] at hi
  simp only [counted, List.getElem_map, List.getElem_range]
  rw [UInt64.toNat_ofNat', Nat.mod_eq_of_lt (hi.trans_le hn)]

/-- Numbers below 256 ^ n are told apart by their first `n` bytes. -/
lemma eq_of_bytes {n a b : ℕ} (ha : a < 256 ^ n) (hb : b < 256 ^ n)
    (h : ∀ i < n, a / 256 ^ i % 256 = b / 256 ^ i % 256) : a = b := by
  induction n generalizing a b with
  | zero => omega
  | succ n ih =>
    have hlow : a % 256 = b % 256 := by simpa using h 0 (Nat.succ_pos n)
    have hhigh : a / 256 = b / 256 := by
      rw [Nat.pow_succ'] at ha hb
      apply ih (Nat.div_lt_of_lt_mul ha) (Nat.div_lt_of_lt_mul hb)
      intro i hi
      have hi' := h (i + 1) (by omega)
      rwa [Nat.pow_succ', ← Nat.div_div_eq_div_mul, ← Nat.div_div_eq_div_mul] at hi'
    omega

lemma nonceBytes_injective : Function.Injective nonceBytes := by
  intro a b h
  have hdigits := List.append_cancel_left h
  apply UInt64.toNat_inj.mp
  refine @eq_of_bytes 8 _ _ a.toNat_lt b.toNat_lt ?_
  intro i hi
  have hmap := List.map_inj_left.mp hdigits i (by simpa using hi)
  simpa using congrArg UInt8.toNat hmap

lemma counted_nodup {n : ℕ} (hn : n ≤ 2 ^ 64) : ((counted n).map nonceBytes).Nodup := by
  rw [List.nodup_map_iff nonceBytes_injective, counted]
  apply List.Nodup.map_on _ List.nodup_range
  intro i hi j hj h
  rw [List.mem_range] at hi hj
  have hnat := congrArg UInt64.toNat h
  rwa [UInt64.toNat_ofNat', UInt64.toNat_ofNat', Nat.mod_eq_of_lt (hi.trans_le hn),
    Nat.mod_eq_of_lt (hj.trans_le hn)] at hnat

namespace NoiseClient
variable {lib : Primitives} {client : NoiseClient}

lemma frameRecords_nonces (key : Key32) (nonce : UInt64) (plaintext : Bytes) :
    (frameRecords lib key nonce plaintext).map Record.nonce =
      countedFrom nonce (frameRecords lib key nonce plaintext).length := by
  fun_induction frameRecords lib key nonce plaintext with
  | case1 => rfl
  | case2 nonce plaintext _ _ ih =>
    simp only [List.map_cons, List.length_cons, ih, countedFrom_succ]

/-- Each record that is tried takes the next nonce, and only the last may be refused. -/
lemma drain_nonces (key : Key32) (nonce : UInt64) (buffer : Bytes) :
    (drain lib key nonce buffer).accepted.map Prod.fst ++
        (drain lib key nonce buffer).rejected.toList =
      countedFrom nonce ((drain lib key nonce buffer).accepted.length +
        (drain lib key nonce buffer).rejected.toList.length) ∧
    ((drain lib key nonce buffer).error = none → (drain lib key nonce buffer).rejected = none) := by
  fun_induction drain lib key nonce buffer with
  | case1 => simp [countedFrom]
  | case2 => simp [countedFrom]
  | case3 => simp [countedFrom]
  | case4 => simp [countedFrom]
  | case5 nonce type high low body _ _ _ _ decoded hopen drained ih =>
    refine ⟨?_, ih.2⟩
    simp only [List.map_cons, List.length_cons, List.cons_append]
    rw [Nat.add_right_comm, countedFrom_succ]
    exact congrArg (nonce :: ·) ih.1
  | case6 => simp [countedFrom]

lemma output_of_not_ready (h : client.ready = false) (call : Call) :
    client.output lib call = [] := by
  cases call with
  | begin initiation => rfl
  | complete response => rfl
  | frame plaintext framed => simp [output, frame, h]
  | consume bytes plaintext => simp [output, consume, h]

lemma frame_cases (client : NoiseClient) (plaintext : Bytes) (framed : Bool) :
    (∃ records client', client.frame lib plaintext framed = (.ok records, client') ∧
      client.ready = true ∧
      records.map Record.nonce = countedFrom client.txNonce records.length ∧
      client'.begun = client.begun ∧ client'.ready = true ∧
      client'.txNonce = client.txNonce + UInt64.ofNat records.length ∧
      client'.rxNonce = client.rxNonce) ∨
    ∃ error client', client.frame lib plaintext framed = (.error error, client') ∧
      Failed client client' := by
  unfold frame
  split_ifs with hbad
  · exact Or.inr ⟨_, _, rfl, failed_fail⟩
  · simp only [not_or, Bool.not_eq_false] at hbad
    exact Or.inl ⟨_, _, rfl, hbad.1, frameRecords_nonces _ _ _, rfl, hbad.1, rfl, rfl⟩

/-- A call of `consume` that the client is ready for takes nonces in order; an error
makes it fail, and only then is a record refused. -/
lemma consume_cases (client : NoiseClient) (bytes : Bytes) (plaintext : Bool) :
    (∃ tried, (client.consume lib bytes plaintext).accepted.map Prod.fst ++
          (client.consume lib bytes plaintext).rejected.toList =
        countedFrom client.rxNonce tried ∧
      (client.consume lib bytes plaintext).client.rxNonce =
        client.rxNonce + UInt64.ofNat tried) ∧
    (client.ready = false → (client.consume lib bytes plaintext).accepted = [] ∧
      (client.consume lib bytes plaintext).rejected = none) ∧
    (client.consume lib bytes plaintext).client.begun = client.begun ∧
    (client.consume lib bytes plaintext).client.txNonce = client.txNonce ∧
    ((client.consume lib bytes plaintext).error = none →
      (client.consume lib bytes plaintext).client.ready = client.ready ∧
      (client.consume lib bytes plaintext).rejected = none) ∧
    ((client.consume lib bytes plaintext).error.isSome →
      (client.consume lib bytes plaintext).client.ready = (client.ready && !client.begun)) := by
  obtain ⟨hnonces, hrejected⟩ :=
    @drain_nonces lib client.rxKey client.rxNonce (client.receiveBuffer ++ bytes)
  simp only [consume]
  generalize drain lib client.rxKey client.rxNonce (client.receiveBuffer ++ bytes) = drained at *
  split_ifs with hbad herror
  · exact ⟨⟨0, by simp [countedFrom]⟩, by simp⟩
  all_goals
    simp only [not_or, Bool.not_eq_false] at hbad
    refine ⟨⟨_, hnonces, by simp⟩, ?_⟩
  · simp only [Option.isSome_iff_ne_none, ne_eq] at herror
    simp [hbad.1, herror]
  · have hnone : drained.error = none := by simpa using herror
    simp [hbad.1, hnone, hrejected hnone]

end NoiseClient

/-! ## Sessions -/

namespace Session
variable {lib : Primitives} {s : Session} {call : Call}

/-- A session that has not begun. -/
def initial (machinePrivate controlPublic ephemeralPrivate : Key32) (protocolVersion : UInt16) :
    Session where
  client :=
    { machinePrivate := machinePrivate
      controlPublic := controlPublic
      ephemeralPrivate := ephemeralPrivate
      protocolVersion := protocolVersion }

structure Inv (s : Session) : Prop where
  begun : s.failed = true → s.client.begun = true
  stopped : s.failed = true → s.client.ready = false
  ready_begun : s.client.ready = true → s.client.begun = true
  sealed : s.sealed = counted s.sealed.length
  txNonce : s.client.txNonce = UInt64.ofNat s.sealed.length
  opened : s.opened = counted s.opened.length
  rxNonce : s.client.rxNonce = UInt64.ofNat s.opened.length
  accepted : s.accepted <+: s.opened
  live : s.client.ready = true → s.accepted = s.opened

lemma Inv.disciplined (h : Inv s) (hsealed : s.sealed.length ≤ 2 ^ 64)
    (hopened : s.opened.length ≤ 2 ^ 64) : Disciplined lib s := by
  constructor
  · rw [h.sealed]
    exact counted_nodup hsealed
  · rw [h.opened]
    exact counted_nodup hopened
  · intro n nonce hn
    rw [h.sealed] at hn
    exact counted_nth hsealed hn
  · intro n nonce hn
    rw [h.opened] at hn
    exact counted_nth hopened hn
  · exact h.accepted
  · intro hfailed
    exact ⟨h.stopped hfailed, NoiseClient.output_of_not_ready (h.stopped hfailed)⟩

/-- A failing call that does not touch the counters keeps the invariant. -/
lemma Inv.failed {client : NoiseClient} (h : Inv s) (hc : s.client.Failed client) :
    Inv (s.answered false client) := by
  obtain ⟨hbegun, hready, htx, hrx⟩ := hc
  constructor
  · intro hf
    simp only [answered] at hf ⊢
    rw [hbegun]
    rcases (Bool.or_eq_true _ _).mp hf with hf | hf
    · exact h.begun hf
    · simpa using hf
  · intro hf
    simp only [answered] at hf ⊢
    rw [hready]
    rcases (Bool.or_eq_true _ _).mp hf with hf | hf
    · simp [h.stopped hf]
    · simp only [Bool.not_false, Bool.true_and] at hf
      simp [hf]
  · intro hr
    simp only [answered] at hr ⊢
    rw [hready] at hr
    rw [hbegun]
    exact h.ready_begun ((Bool.and_eq_true_iff.mp hr).1)
  · exact h.sealed
  · exact htx.trans h.txNonce
  · exact h.opened
  · exact hrx.trans h.rxNonce
  · exact h.accepted
  · intro hr
    simp only [answered] at hr
    rw [hready] at hr
    exact h.live ((Bool.and_eq_true_iff.mp hr).1)

lemma Inv.begin (h : Inv s) (initiation : Bool) : Inv (s.call lib (.begin initiation)) := by
  rcases @NoiseClient.begin_cases lib s.client initiation with
    ⟨message, client, hbegin, -, hbegun, hready, htx, hrx⟩ | ⟨error, client, hbegin, hfailed⟩
  · have hnext : s.call lib (.begin initiation) = s.answered true client := by
      simp only [call, hbegin, Except.isOk, Except.toBool]
    rw [hnext]
    constructor
    · exact fun _ => hbegun
    · intro hf
      exact hready.trans (h.stopped (by simpa [answered] using hf))
    · exact fun _ => hbegun
    · exact h.sealed
    · exact htx.trans h.txNonce
    · exact h.opened
    · exact hrx.trans h.rxNonce
    · exact h.accepted
    · intro hr
      exact h.live (hready.symm.trans hr)
  · have hnext : s.call lib (.begin initiation) = s.answered false client := by
      simp only [call, hbegin, Except.isOk, Except.toBool]
    rw [hnext]
    exact h.failed hfailed

/-- New keys only come to a client that has not failed. -/
lemma Inv.complete {response : Bytes} (h : Inv s)
    (hok : s.failed = true → s.client.authenticates lib response = false) :
    Inv (s.call lib (.complete response)) := by
  rcases @NoiseClient.complete_cases lib s.client response with
    ⟨client, hcomplete, -, -, hauth, hbegun, hready, htx, hrx⟩ |
    ⟨error, client, hcomplete, hfailed, -⟩
  · have hnext : s.call lib (.complete response) = { client := client, failed := s.failed } := by
      simp [call, hcomplete, Except.isOk, Except.toBool]
    -- an authentic response to a failed client is what the condition excludes
    have hfresh : s.failed = false := by
      rcases hf : s.failed with _ | _
      · rfl
      · rw [hok hf] at hauth
        cases hauth
    rw [hnext, hfresh]
    constructor <;> simp [hbegun, hready, htx, hrx, counted]
  · have hnext : s.call lib (.complete response) = s.answered false client := by
      simp [call, hcomplete, Except.isOk, Except.toBool]
    rw [hnext]
    exact h.failed hfailed

lemma Inv.frame (h : Inv s) (plaintext : Bytes) (framed : Bool) :
    Inv (s.call lib (.frame plaintext framed)) := by
  rcases @NoiseClient.frame_cases lib s.client plaintext framed with
    ⟨records, client, hframe, hready, hnonces, hbegun, hready', htx, hrx⟩ |
    ⟨error, client, hframe, hfailed⟩
  · have hnext : s.call lib (.frame plaintext framed) =
        { s with client := client, sealed := s.sealed ++ records.map Record.nonce } := by
      simp [call, answered, hframe, Except.isOk, Except.toBool, Except.toOption]
    -- the new nonces go on where the old ones stopped
    have hcounted : s.sealed ++ records.map Record.nonce =
        counted (s.sealed.length + records.length) := by
      rw [hnonces, h.txNonce, ← counted_append, ← h.sealed]
    have hfresh : s.failed = false := by
      rcases hf : s.failed with _ | _
      · rfl
      · rw [h.stopped hf] at hready
        cases hready
    rw [hnext]
    constructor
    · simp [hfresh]
    · simp [hfresh]
    · intro _
      exact hbegun.trans (h.ready_begun hready)
    · simp only [hcounted, length_counted]
    · simp only [hcounted, length_counted]
      rw [htx, h.txNonce, UInt64.ofNat_add]
    · exact h.opened
    · exact hrx.trans h.rxNonce
    · exact h.accepted
    · exact fun _ => h.live hready
  · have hnext : s.call lib (.frame plaintext framed) = s.answered false client := by
      simp [call, answered, hframe, Except.isOk, Except.toBool, Except.toOption]
    rw [hnext]
    exact h.failed hfailed

lemma Inv.consume (h : Inv s) (bytes : Bytes) (plaintext : Bool) :
    Inv (s.call lib (.consume bytes plaintext)) := by
  obtain ⟨⟨tried, hnonces, hrx⟩, hidle, hbegun, htx, hdone, herror⟩ :=
    @NoiseClient.consume_cases lib s.client bytes plaintext
  simp only [call]
  generalize s.client.consume lib bytes plaintext = reply at *
  have hcounted : s.opened ++ (reply.accepted.map Prod.fst ++ reply.rejected.toList) =
      counted (s.opened.length + tried) := by
    rw [hnonces, h.rxNonce, ← counted_append, ← h.opened]
  -- what was accepted so far is all that was opened, unless the client has stopped
  have haccepted : s.accepted ++ reply.accepted.map Prod.fst <+:
      s.opened ++ (reply.accepted.map Prod.fst ++ reply.rejected.toList) := by
    rcases hr : s.client.ready with _ | _
    · obtain ⟨hnone, -⟩ := hidle hr
      rw [hnone]
      simpa using h.accepted.trans (List.prefix_append _ _)
    · rw [h.live hr, ← List.append_assoc]
      exact List.prefix_append _ _
  rcases hreply : reply.error with _ | error
  · obtain ⟨hready, hrejected⟩ := hdone hreply
    constructor
    · intro hf
      exact hbegun.trans (h.begun (by simpa [answered] using hf))
    · intro hf
      exact hready.trans (h.stopped (by simpa [answered] using hf))
    · intro hr
      exact hbegun.trans (h.ready_begun (hready.symm.trans hr))
    · exact h.sealed
    · exact htx.trans h.txNonce
    · simp only [hcounted, length_counted]
    · simp only [hcounted, length_counted, answered]
      rw [hrx, h.rxNonce, UInt64.ofNat_add]
    · exact haccepted
    · intro hr
      simp only [h.live (hready.symm.trans hr), hrejected, Option.toList_none, List.append_nil]
  · have hready := herror (by simp [hreply])
    constructor
    · intro hf
      rcases (Bool.or_eq_true _ _).mp hf with hf | hf
      · exact hbegun.trans (h.begun hf)
      · exact hbegun.trans (by simpa using hf)
    · intro hf
      refine hready.trans ?_
      rcases (Bool.or_eq_true _ _).mp hf with hf | hf
      · simp [h.stopped hf]
      · have hb : s.client.begun = true := by simpa using hf
        simp [hb]
    · intro hr
      exact hbegun.trans (h.ready_begun (Bool.and_eq_true_iff.mp (hready.symm.trans hr)).1)
    · exact h.sealed
    · exact htx.trans h.txNonce
    · simp only [hcounted, length_counted]
    · simp only [hcounted, length_counted, answered]
      rw [hrx, h.rxNonce, UInt64.ofNat_add]
    · exact haccepted
    · intro hr
      have hr' := Bool.and_eq_true_iff.mp (hready.symm.trans hr)
      simp [h.ready_begun hr'.1] at hr'

lemma Inv.step (h : Inv s) (hok : s.reopens lib call = false) : Inv (s.call lib call) := by
  cases call with
  | begin initiation => exact h.begin initiation
  | complete response =>
    apply h.complete
    intro hf
    simpa [reopens, hf] using hok
  | frame plaintext framed => exact h.frame plaintext framed
  | consume bytes plaintext => exact h.consume bytes plaintext

/-- A session that goes on in order has met the condition. -/
lemma allowed_of_disciplined (h : Inv s) (hd : Disciplined lib (s.call lib call)) :
    Allowed lib s call := by
  have hbound {l : List UInt64} (hn : ∀ (n : ℕ) (nonce : UInt64),
      l[n]? = some nonce → nonce.toNat = n) : l.length ≤ 2 ^ 64 := by
    by_contra hlong
    have hin : 2 ^ 64 < l.length := by omega
    -- one record more than there are nonces would have to have the nonce 2 ^ 64
    have hlast := hn _ l[2 ^ 64] (List.getElem?_eq_getElem hin)
    have hlt := (l[2 ^ 64]).toNat_lt
    omega
  refine ⟨?_, hbound hd.sealed_nth, hbound hd.opened_nth⟩
  rcases call with _ | response | _ | _
  · rfl
  · rcases hf : s.failed with _ | _
    · simp [reopens, hf]
    rcases @NoiseClient.complete_cases lib s.client response with
      ⟨client, hcomplete, -, -, -, -, hready, -⟩ | ⟨error, client, -, -, hauth⟩
    · have hnext : s.call lib (.complete response) = { client := client, failed := s.failed } := by
        simp [Session.call, hcomplete, Except.isOk, Except.toBool]
      rw [hnext] at hd
      have hstopped := (hd.stopped hf).1
      rw [show client.ready = true from hready] at hstopped
      cases hstopped
    · simp [reopens, hauth (h.begun hf) (h.stopped hf)]
  · rfl
  · rfl

/-- Every run whose calls meet the condition uses each nonce once, in order, and stops at the
first failure; the first call that does not meet it breaks that. -/
theorem disciplined_of_allowed (lib : Primitives)
    (machinePrivate controlPublic ephemeralPrivate : Key32) (protocolVersion : UInt16)
    (s : Session) (hrun : Run (fun s call => some (Session.call lib s call)) (Allowed lib)
      (initial machinePrivate controlPublic ephemeralPrivate protocolVersion) s) :
    Disciplined lib s ∧ ∀ call, Disciplined lib (s.call lib call) ↔ Allowed lib s call := by
  have h : Inv s ∧ s.sealed.length ≤ 2 ^ 64 ∧ s.opened.length ≤ 2 ^ 64 := by
    refine hrun.invariant (I := fun s => Inv s ∧ s.sealed.length ≤ 2 ^ 64 ∧
      s.opened.length ≤ 2 ^ 64) ⟨?_, by simp [initial], by simp [initial]⟩ ?_
    · constructor <;> simp [initial, counted]
    · intro t call u ht hok hs
      obtain rfl := Option.some.inj hs
      exact ⟨ht.1.step hok.1, hok.2⟩
  refine ⟨h.1.disciplined h.2.1 h.2.2, fun call => ⟨allowed_of_disciplined h.1, ?_⟩⟩
  intro hok
  exact (h.1.step hok.1).disciplined hok.2.1 hok.2.2

/-! ## A run -/

/-- A response that the stand-in takes for authentic. -/
def toyResponse : Bytes := [2, 0, 48] ++ List.replicate 48 0

/-- A handshake, two records sent and one received. -/
def orderly : Session :=
  (exec (guarded (fun s call => some (Session.call toyLibrary s call)) (Allowed toyLibrary))
    (initial zeroKey zeroKey zeroKey 1)
    [.begin true, .complete toyResponse, .frame (ascii "GET") true, .frame (ascii "POST") true,
      .consume ([4, 0, 18] ++ ascii "ok" ++ List.replicate 16 0) true]).get (by decide +kernel)

theorem disciplined_orderly : Disciplined toyLibrary orderly :=
  (disciplined_of_allowed toyLibrary zeroKey zeroKey zeroKey 1 orderly
    (.of_exec_guarded (Option.some_get _).symm)).1

/-- A response that is too short makes `complete` fail.  The next one is accepted all the
same, and records are framed. -/
theorem ready_again_after_failure :
    ∃ s, Run (fun s call => some (Session.call toyLibrary s call)) (fun _ _ => True)
        (initial zeroKey zeroKey zeroKey 1) s ∧
      s.failed = true ∧ s.client.ready = true ∧
      s.client.output toyLibrary (.frame (ascii "GET") true) ≠ [] :=
  ⟨(exec (fun s call => some (Session.call toyLibrary s call)) (initial zeroKey zeroKey zeroKey 1)
      [.begin true, .complete [2, 0, 48], .complete toyResponse]).get (by decide +kernel),
    .of_exec (Option.some_get _).symm (by simp), by decide +kernel, by decide +kernel,
    by decide +kernel⟩

end Session
end ArtemisSwitch.Noise

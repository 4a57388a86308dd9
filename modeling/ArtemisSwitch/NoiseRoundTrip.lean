import ArtemisSwitch.Library.Framing
import ArtemisSwitch.Noise

/-!
# What is framed is consumed

Two clients with mirrored keys and counters: the records that one frames give the
other the same plaintext, however the transport cuts them.
-/

namespace ArtemisSwitch.Noise
open Framing
open Netmap (Key32)

/-- The AEAD opens what it sealed. -/
def Primitives.Inverts (lib : Primitives) : Prop :=
  ∀ key nonce additionalData plaintext,
    lib.aeadRead key nonce additionalData
      (lib.aeadWrite key nonce additionalData plaintext).val = some plaintext

/-! ## The record format -/

/-- The length in a record header; a header that is refused declares too much. -/
def declaredLength : Bytes → ℕ
  | type :: high :: low :: _ =>
    if type ≠ 4 ∨ high.toNat * 256 + low.toNat < 16 then kMaxRecordSize
    else high.toNat * 256 + low.toNat
  | _ => 0

def recordFormat : Format UInt8 where
  header := 3
  limit := kMaxRecordSize - 3
  declared := declaredLength
  header_pos := by decide
  declared_append b c hb := by
    match b, hb with
    | _ :: _ :: _ :: _, _ => rfl

/-- One record: type, length, ciphertext and tag. -/
def sealRecord (lib : Primitives) (key : Key32) (nonce : UInt64) (piece : Bytes) : Record :=
  let ciphertext := lib.encrypt key nonce [] piece
  ⟨nonce, [4] ++ bigEndian16 ciphertext.length ++ ciphertext⟩

/-- Pieces of plaintext sealed one after the other. -/
def sealFrom (lib : Primitives) (key : Key32) : UInt64 → List Bytes → List Record
  | _, [] => []
  | nonce, piece :: pieces => sealRecord lib key nonce piece :: sealFrom lib key (nonce + 1) pieces

/-- The bytes of records on the wire. -/
def wire (records : List Record) : Bytes := (records.map Record.bytes).flatten

variable {lib : Primitives} {key : Key32} {nonce : UInt64} {piece : Bytes}

lemma length_sealRecord :
    (sealRecord lib key nonce piece).bytes.length = 3 + (piece.length + 16) := by
  simp [sealRecord, bigEndian16, Primitives.length_encrypt]
  omega

lemma declared_sealRecord (h : piece.length ≤ kMaxPlaintextSize) :
    declaredLength (sealRecord lib key nonce piece).bytes = piece.length + 16 := by
  unfold kMaxPlaintextSize at h
  simp only [sealRecord, bigEndian16, Primitives.length_encrypt, List.cons_append,
    List.nil_append, declaredLength, UInt8.toNat_ofNat']
  have hlength : (piece.length + 16) / 256 % 2 ^ 8 * 256 + (piece.length + 16) % 2 ^ 8 =
      piece.length + 16 := by omega
  rw [hlength, if_neg (by simp)]

lemma sealRecord_isFrame (h : piece.length ≤ kMaxPlaintextSize) :
    recordFormat.IsFrame (sealRecord lib key nonce piece).bytes := by
  have hdeclared : recordFormat.declared (sealRecord lib key nonce piece).bytes =
      piece.length + 16 := declared_sealRecord h
  constructor
  · rw [hdeclared, length_sealRecord]
    rfl
  · rw [hdeclared]
    simp only [recordFormat, kMaxRecordSize, kMaxPlaintextSize] at h ⊢
    omega

lemma sealRecord_length_le (h : piece.length ≤ kMaxPlaintextSize) :
    (sealRecord lib key nonce piece).bytes.length ≤ kMaxRecordSize := by
  rw [length_sealRecord]
  simp only [kMaxRecordSize, kMaxPlaintextSize] at h ⊢
  omega

lemma sealFrom_append (pieces more : List Bytes) :
    sealFrom lib key nonce (pieces ++ more) =
      sealFrom lib key nonce pieces ++
        sealFrom lib key (nonce + UInt64.ofNat pieces.length) more := by
  induction pieces generalizing nonce with
  | nil => simp [sealFrom]
  | cons piece pieces ih =>
    have hnonce : nonce + 1 + UInt64.ofNat pieces.length =
        nonce + UInt64.ofNat (pieces.length + 1) := by
      rw [UInt64.ofNat_add, UInt64.add_comm (UInt64.ofNat pieces.length), ← UInt64.add_assoc]
      rfl
    rw [List.cons_append, sealFrom, ih, hnonce]
    rfl

lemma mem_sealFrom {record : Record} {pieces : List Bytes}
    (h : record ∈ sealFrom lib key nonce pieces) :
    ∃ n, ∃ piece ∈ pieces, record = sealRecord lib key n piece := by
  induction pieces generalizing nonce with
  | nil => cases h
  | cons piece pieces ih =>
    rcases List.mem_cons.mp h with rfl | h
    · exact ⟨nonce, piece, by simp, rfl⟩
    · obtain ⟨n, piece', hmem, rfl⟩ := ih h
      exact ⟨n, piece', by simp [hmem], rfl⟩

/-! ## The loop of frame -/

/-- The loop cuts the plaintext into pieces that fit a record and seals them in order. -/
lemma frameRecords_eq (plaintext : Bytes) : ∃ pieces : List Bytes,
    NoiseClient.frameRecords lib key nonce plaintext = sealFrom lib key nonce pieces ∧
      pieces.flatten = plaintext ∧ ∀ piece ∈ pieces, piece.length ≤ kMaxPlaintextSize := by
  fun_induction NoiseClient.frameRecords lib key nonce plaintext with
  | case1 => exact ⟨[], rfl, rfl, nofun⟩
  | case2 nonce plaintext hne ciphertext ih =>
    obtain ⟨pieces, hrecords, hflatten, hlength⟩ := ih
    refine ⟨plaintext.take kMaxPlaintextSize :: pieces, ?_, ?_, ?_⟩
    · rw [hrecords]
      rfl
    · rw [List.flatten_cons, hflatten, List.take_append_drop]
    · intro piece hpiece
      rcases List.mem_cons.mp hpiece with rfl | hpiece
      · rw [List.length_take]
        exact min_le_left _ _
      · exact hlength piece hpiece

/-- Calls of `frame` one after the other. -/
def frameAll (lib : Primitives) (client : NoiseClient) :
    List Bytes → Except String (List Record) × NoiseClient
  | [] => (.ok [], client)
  | plaintext :: plaintexts =>
    match client.frame lib plaintext true with
    | (.error error, client) => (.error error, client)
    | (.ok records, client) =>
      match frameAll lib client plaintexts with
      | (.error error, client) => (.error error, client)
      | (.ok more, client) => (.ok (records ++ more), client)

variable {client : NoiseClient}

lemma length_sealFrom (pieces : List Bytes) :
    (sealFrom lib key nonce pieces).length = pieces.length := by
  induction pieces generalizing nonce with
  | nil => rfl
  | cons piece pieces ih => simp [sealFrom, ih]

lemma frameAll_eq (hready : client.ready = true) (plaintexts : List Bytes) :
    ∃ (pieces : List Bytes) (client' : NoiseClient),
      frameAll lib client plaintexts =
        (.ok (sealFrom lib client.txKey client.txNonce pieces), client') ∧
        pieces.flatten = plaintexts.flatten ∧
        ∀ piece ∈ pieces, piece.length ≤ kMaxPlaintextSize := by
  induction plaintexts generalizing client with
  | nil => exact ⟨[], client, rfl, rfl, nofun⟩
  | cons plaintext plaintexts ih =>
    obtain ⟨pieces, hrecords, hflatten, hlength⟩ :=
      @frameRecords_eq lib client.txKey client.txNonce plaintext
    have hframe : client.frame lib plaintext true =
        (.ok (sealFrom lib client.txKey client.txNonce pieces),
          { client with txNonce := client.txNonce + UInt64.ofNat pieces.length }) := by
      simp [NoiseClient.frame, hready, hrecords, length_sealFrom]
    obtain ⟨more, client', hrest, hmore, hlength'⟩ :=
      @ih { client with txNonce := client.txNonce + UInt64.ofNat pieces.length } hready
    refine ⟨pieces ++ more, client', ?_, ?_, ?_⟩
    · simp only [frameAll, hframe, hrest, sealFrom_append]
    · simp [hflatten, hmore]
    · intro piece hpiece
      rcases List.mem_append.mp hpiece with h | h
      · exact hlength piece h
      · exact hlength' piece h

/-! ## The loop of consume -/

/-- What the header and the body of a record at the front say. -/
lemma scan_record (type high low : UInt8) (body : Bytes) :
    recordFormat.scan (type :: high :: low :: body) =
      if (type ≠ 4 ∨ high.toNat * 256 + low.toNat < 16) ∨
          kMaxRecordSize - 3 < high.toNat * 256 + low.toNat then .oversized
      else if body.length < high.toNat * 256 + low.toNat then .short
      else .frame
        (type :: high :: low :: body.take (high.toNat * 256 + low.toNat))
        (body.drop (high.toNat * 256 + low.toNat)) := by
  by_cases hbad : type ≠ 4 ∨ high.toNat * 256 + low.toNat < 16
  · have hdeclared : recordFormat.declared (type :: high :: low :: body) = kMaxRecordSize := by
      simp only [recordFormat, declaredLength, if_pos hbad]
    rw [scan_of_header (by simp [recordFormat]) hdeclared, if_pos (Or.inl hbad)]
    simp [recordFormat, kMaxRecordSize]
  · have hdeclared : recordFormat.declared (type :: high :: low :: body) =
        high.toNat * 256 + low.toNat := by
      simp only [recordFormat, declaredLength, if_neg hbad]
    rw [scan_of_header (by simp [recordFormat]) hdeclared]
    simp only [recordFormat, hbad, false_or, List.length_cons]
    have hthree : 3 + (high.toNat * 256 + low.toNat) =
        high.toNat * 256 + low.toNat + 1 + 1 + 1 := by omega
    simp only [hthree, List.take_succ_cons, List.drop_succ_cons, Nat.add_lt_add_iff_right]

lemma drain_short {buffer : Bytes} (h : recordFormat.scan buffer = .short) :
    NoiseClient.drain lib key nonce buffer = { rest := buffer } := by
  match buffer with
  | [] => rw [NoiseClient.drain]; simp
  | [_] => rw [NoiseClient.drain]; simp
  | [_, _] => rw [NoiseClient.drain]; simp
  | type :: high :: low :: body =>
    rw [scan_record] at h
    split_ifs at h with hbad hshort
    obtain ⟨⟨htype, hsmall⟩, hlarge⟩ : (type = 4 ∧ ¬ high.toNat * 256 + low.toNat < 16) ∧
        ¬ kMaxRecordSize - 3 < high.toNat * 256 + low.toNat := by
      simpa only [not_or, not_not, ne_eq] using hbad
    rw [NoiseClient.drain]
    simp only
    rw [if_neg (by simpa using htype), if_neg (by omega), if_pos hshort]

lemma drain_frame {buffer unit rest decoded : Bytes}
    (h : recordFormat.scan buffer = .frame unit rest)
    (hopen : lib.decrypt key nonce [] (unit.drop 3) = some decoded) :
    NoiseClient.drain lib key nonce buffer =
      { NoiseClient.drain lib key (nonce + 1) rest with
        accepted :=
          (nonce, decoded) :: (NoiseClient.drain lib key (nonce + 1) rest).accepted } := by
  match buffer with
  | [] => simp [Format.scan, recordFormat] at h
  | [_] => simp [Format.scan, recordFormat] at h
  | [_, _] => simp [Format.scan, recordFormat] at h
  | type :: high :: low :: body =>
    rw [scan_record] at h
    split_ifs at h with hbad hshort
    obtain ⟨⟨htype, hsmall⟩, hlarge⟩ : (type = 4 ∧ ¬ high.toNat * 256 + low.toNat < 16) ∧
        ¬ kMaxRecordSize - 3 < high.toNat * 256 + low.toNat := by
      simpa only [not_or, not_not, ne_eq] using hbad
    obtain ⟨rfl, rfl⟩ := Scan.frame.inj h
    rw [NoiseClient.drain]
    simp only
    rw [if_neg (by simpa using htype), if_neg (by omega), if_neg hshort]
    simp only [List.drop_succ_cons, List.drop_zero] at hopen
    rw [hopen]

lemma decrypt_sealRecord (hlib : lib.Inverts) :
    lib.decrypt key nonce [] ((sealRecord lib key nonce piece).bytes.drop 3) = some piece := by
  have hbody : (sealRecord lib key nonce piece).bytes.drop 3 = lib.encrypt key nonce [] piece := by
    simp [sealRecord, bigEndian16]
  rw [hbody]
  exact hlib _ _ _ _

/-- A proper prefix of the record that is to come, or nothing when none is. -/
def Partial (lib : Primitives) (key : Key32) (nonce : UInt64) (rest : Bytes) :
    List Bytes → Prop
  | [] => rest = []
  | piece :: _ => rest <+: (sealRecord lib key nonce piece).bytes ∧
      rest.length < (sealRecord lib key nonce piece).bytes.length

lemma partial_nil (pieces : List Bytes) : Partial lib key nonce [] pieces := by
  cases pieces with
  | nil => rfl
  | cons piece pieces =>
    refine ⟨List.nil_prefix, ?_⟩
    rw [length_sealRecord]
    exact Nat.add_pos_left (by decide) _

/-- The loop on a prefix of the stream: it opens what is whole and leaves part of a record. -/
lemma drain_stream (hlib : lib.Inverts) {buffer : Bytes} {pieces : List Bytes}
    (hpieces : ∀ piece ∈ pieces, piece.length ≤ kMaxPlaintextSize)
    (hstart : buffer <+: wire (sealFrom lib key nonce pieces)) :
    ∃ done todo rest, pieces = done ++ todo ∧
      buffer = wire (sealFrom lib key nonce done) ++ rest ∧
      (NoiseClient.drain lib key nonce buffer).accepted.map Prod.snd = done ∧
      (NoiseClient.drain lib key nonce buffer).rejected = none ∧
      (NoiseClient.drain lib key nonce buffer).error = none ∧
      (NoiseClient.drain lib key nonce buffer).rest = rest ∧
      Partial lib key (nonce + UInt64.ofNat done.length) rest todo := by
  induction pieces generalizing nonce buffer with
  | nil =>
    obtain rfl : buffer = [] := List.prefix_nil.mp hstart
    have hshort := @drain_short lib key nonce [] scan_nil
    exact ⟨[], [], [], rfl, rfl, by simp [hshort], by simp [hshort], by simp [hshort],
      by simp [hshort], rfl⟩
  | cons piece pieces ih =>
    have hframe := @sealRecord_isFrame lib key nonce piece (hpieces piece (by simp))
    rcases scan_stream hframe hstart with ⟨hlt, hscan⟩ | ⟨r, rfl, hr, hscan⟩
    -- the buffer ends inside the first record, and the loop stops there
    · have hshort := @drain_short lib key nonce buffer hscan
      have hpart : buffer <+: (sealRecord lib key nonce piece).bytes :=
        List.prefix_of_prefix_length_le hstart (List.prefix_append _ _) (by omega)
      exact ⟨[], piece :: pieces, buffer, rfl, rfl, by simp [hshort], by simp [hshort],
        by simp [hshort], by simp [hshort], by simpa [Partial] using ⟨hpart, hlt⟩⟩
    · obtain ⟨done, todo, rest, rfl, hrest, hacc, hrej, herr, hleft, hpart⟩ :=
        ih (fun q hq => hpieces q (by simp [hq])) hr
      -- the first record is whole: it is opened under its own nonce, and the loop goes on
      have hdrain := drain_frame hscan (decrypt_sealRecord hlib)
      refine ⟨piece :: done, todo, rest, rfl, ?_, ?_, ?_, ?_, ?_, ?_⟩
      · rw [hrest, ← List.append_assoc]
        rfl
      · rw [hdrain]
        simp [hacc]
      · rw [hdrain]
        exact hrej
      · rw [hdrain]
        exact herr
      · rw [hdrain]
        exact hleft
      · have hnonce : nonce + UInt64.ofNat (piece :: done).length =
            nonce + 1 + UInt64.ofNat done.length := by
          rw [List.length_cons, UInt64.ofNat_add, UInt64.add_comm (UInt64.ofNat done.length),
            ← UInt64.add_assoc]
          rfl
        rw [hnonce]
        exact hpart

/-! ## Calls of consume -/

/-- Calls of `consume` one after the other, up to the first failure. -/
def consumeAll (lib : Primitives) (client : NoiseClient) :
    List Bytes → Except String (List Bytes) × NoiseClient
  | [] => (.ok [], client)
  | bytes :: more =>
    let reply := client.consume lib bytes true
    match reply.error with
    | some error => (.error error, reply.client)
    | none =>
      match consumeAll lib reply.client more with
      | (.error error, client) => (.error error, client)
      | (.ok plaintexts, client) => (.ok (reply.accepted.map Prod.snd ++ plaintexts), client)

/-- No call finds its bytes too many for the receive buffer. -/
def Fits (lib : Primitives) (client : NoiseClient) (chunks : List Bytes) : Prop :=
  ∀ before chunk after, chunks = before ++ chunk :: after →
    (consumeAll lib client before).2.receiveBuffer.length + chunk.length ≤ kMaxBufferedCiphertext

/-- One call on the next bytes of the stream. -/
lemma consume_stream (hlib : lib.Inverts) {chunk : Bytes} {pieces : List Bytes}
    (hready : client.ready = true)
    (hpieces : ∀ piece ∈ pieces, piece.length ≤ kMaxPlaintextSize)
    (hroom : client.receiveBuffer.length + chunk.length ≤ kMaxBufferedCiphertext)
    (hstart : client.receiveBuffer ++ chunk <+:
      wire (sealFrom lib client.rxKey client.rxNonce pieces)) :
    ∃ done todo rest, pieces = done ++ todo ∧
      client.receiveBuffer ++ chunk =
        wire (sealFrom lib client.rxKey client.rxNonce done) ++ rest ∧
      (client.consume lib chunk true).accepted.map Prod.snd = done ∧
      (client.consume lib chunk true).error = none ∧
      (client.consume lib chunk true).client =
        { client with
          rxNonce := client.rxNonce + UInt64.ofNat done.length
          receiveBuffer := rest } ∧
      Partial lib client.rxKey (client.rxNonce + UInt64.ofNat done.length) rest todo := by
  obtain ⟨done, todo, rest, hsplit, hbuffer, hacc, hrej, herr, hleft, hpart⟩ :=
    drain_stream hlib hpieces hstart
  have hroom' : ¬ kMaxBufferedCiphertext < client.receiveBuffer.length + chunk.length := by omega
  refine ⟨done, todo, rest, hsplit, hbuffer, ?_, ?_, ?_, hpart⟩
  · simp [NoiseClient.consume, hready, hroom', hacc]
  · simp [NoiseClient.consume, hready, hroom', herr]
  · have hcount : (NoiseClient.drain lib client.rxKey client.rxNonce
        (client.receiveBuffer ++ chunk)).accepted.length = done.length := by
      rw [← hacc, List.length_map]
    simp [NoiseClient.consume, hready, hroom', herr, hrej, hleft, hcount]

/-- Calls on a prefix of the stream hand out the pieces that are whole. -/
lemma consumeAll_stream (hlib : lib.Inverts) {chunks pieces : List Bytes}
    (hready : client.ready = true)
    (hpieces : ∀ piece ∈ pieces, piece.length ≤ kMaxPlaintextSize)
    (hfits : Fits lib client chunks)
    (hstart : client.receiveBuffer ++ chunks.flatten <+:
      wire (sealFrom lib client.rxKey client.rxNonce pieces))
    (hpart : Partial lib client.rxKey client.rxNonce client.receiveBuffer pieces) :
    ∃ done todo rest, pieces = done ++ todo ∧
      client.receiveBuffer ++ chunks.flatten =
        wire (sealFrom lib client.rxKey client.rxNonce done) ++ rest ∧
      consumeAll lib client chunks =
        (.ok done, { client with
          rxNonce := client.rxNonce + UInt64.ofNat done.length
          receiveBuffer := rest }) ∧
      Partial lib client.rxKey (client.rxNonce + UInt64.ofNat done.length) rest todo := by
  induction chunks generalizing client pieces with
  | nil =>
    refine ⟨[], pieces, client.receiveBuffer, rfl, by simp [wire, sealFrom], ?_, ?_⟩
    · simp [consumeAll]
    · simpa using hpart
  | cons chunk chunks ih =>
    have hhead : client.receiveBuffer ++ chunk <+:
        wire (sealFrom lib client.rxKey client.rxNonce pieces) := by
      refine List.IsPrefix.trans ?_ hstart
      rw [List.flatten_cons, ← List.append_assoc]
      exact List.prefix_append _ _
    obtain ⟨done, todo, rest, rfl, hbuffer, hacc, herr, hclient, hpart'⟩ :=
      consume_stream hlib hready hpieces (hfits [] chunk chunks rfl) hhead
    -- the client after this call stands at the start of the rest of the stream
    have hfits' : Fits lib (client.consume lib chunk true).client chunks := by
      rintro before next after rfl
      have hlater := hfits (chunk :: before) next after rfl
      rw [consumeAll] at hlater
      simp only [herr] at hlater
      rcases hrun : consumeAll lib (client.consume lib chunk true).client before with
        ⟨error | plaintexts, last⟩
      · simpa [hrun] using hlater
      · simpa [hrun] using hlater
    have hstart' : rest ++ chunks.flatten <+:
        wire (sealFrom lib client.rxKey (client.rxNonce + UInt64.ofNat done.length) todo) := by
      rw [List.flatten_cons, ← List.append_assoc, hbuffer, sealFrom_append, wire, wire,
        List.map_append, List.flatten_append, List.append_assoc] at hstart
      exact (List.prefix_append_right_inj _).mp hstart
    rw [hclient] at hfits'
    obtain ⟨done', todo', rest', rfl, hbuffer', hrun, hpart''⟩ :=
      @ih { client with
        rxNonce := client.rxNonce + UInt64.ofNat done.length
        receiveBuffer := rest } todo hready
        (fun piece h => hpieces piece (by simp [h])) hfits' hstart' hpart'
    have hnonce : client.rxNonce + UInt64.ofNat done.length + UInt64.ofNat done'.length =
        client.rxNonce + UInt64.ofNat (done ++ done').length := by
      rw [List.length_append, UInt64.ofNat_add, UInt64.add_assoc]
    refine ⟨done ++ done', todo', rest', by rw [List.append_assoc], ?_, ?_, ?_⟩
    · rw [List.flatten_cons, ← List.append_assoc, hbuffer, List.append_assoc, hbuffer',
        sealFrom_append, wire, wire, wire, List.map_append, List.flatten_append,
        List.append_assoc]
    · simp only [consumeAll, herr, hclient, hrun, hacc, hnonce]
    · rw [← hnonce]
      exact hpart''

/-- What one client frames, a mirrored client consumes, however the records are cut: the
plaintext arrives whole and in order, no record is too long, and between the calls the
receive buffer holds part of one record. -/
theorem consume_inverts_frame (lib : Primitives) (hlib : lib.Inverts) (tx rx : NoiseClient)
    (htx : tx.ready = true) (hrx : rx.ready = true) (hkey : tx.txKey = rx.rxKey)
    (hnonce : tx.txNonce = rx.rxNonce) (hempty : rx.receiveBuffer = []) (plaintexts : List Bytes) :
    ∃ records tx', frameAll lib tx plaintexts = (.ok records, tx') ∧
      (∀ record ∈ records, record.bytes.length ≤ kMaxRecordSize) ∧
      ∀ chunks, chunks.flatten = wire records → Fits lib rx chunks →
        (∃ received rx', consumeAll lib rx chunks = (.ok received, rx') ∧
          received.flatten = plaintexts.flatten) ∧
        ∀ before after, chunks = before ++ after →
          ∃ received rx', consumeAll lib rx before = (.ok received, rx') ∧
            (rx'.receiveBuffer = [] ∨ ∃ record ∈ records,
              rx'.receiveBuffer <+: record.bytes ∧
                rx'.receiveBuffer.length < record.bytes.length) := by
  obtain ⟨pieces, tx', hframe, hflatten, hpieces⟩ := frameAll_eq htx plaintexts
  refine ⟨_, tx', hframe, ?_, ?_⟩
  · intro record hrecord
    obtain ⟨n, piece, hpiece, rfl⟩ := mem_sealFrom hrecord
    exact sealRecord_length_le (hpieces piece hpiece)
  · rw [hkey, hnonce]
    intro chunks hchunks hfits
    -- whatever part of the reads has come, the calls are those on a prefix of the stream
    have hrun {before after : List Bytes} (h : chunks = before ++ after) :=
      @consumeAll_stream lib rx hlib before pieces hrx hpieces
        (fun b c a hb => hfits b c (a ++ after) (by rw [h, hb]; simp))
        (by rw [hempty, ← hchunks, h]; simp) (by rw [hempty]; exact partial_nil pieces)
    constructor
    · obtain ⟨done, todo, rest, rfl, hbuffer, hconsume, hpart⟩ := hrun (List.append_nil _).symm
      refine ⟨done, _, hconsume, ?_⟩
      -- all bytes have arrived, so no piece is left to come
      rw [hempty, List.nil_append, hchunks, sealFrom_append, wire, wire, List.map_append,
        List.flatten_append] at hbuffer
      have hrest := List.append_cancel_left hbuffer
      rcases todo with _ | ⟨piece, todo⟩
      · rw [← hflatten, List.append_nil]
      · have hlen := congrArg List.length hrest
        simp only [sealFrom, List.map_cons, List.flatten_cons, List.length_append] at hlen
        have hlt := hpart.2
        omega
    · intro before after h
      obtain ⟨done, todo, rest, rfl, hbuffer, hconsume, hpart⟩ := hrun h
      refine ⟨done, _, hconsume, ?_⟩
      rcases todo with _ | ⟨piece, todo⟩
      · exact Or.inl hpart
      · refine Or.inr ⟨_, ?_, hpart⟩
        rw [sealFrom_append]
        exact List.mem_append_right _ (List.mem_cons_self ..)

/-- A client whose handshake is done. -/
def readyClient : NoiseClient where
  machinePrivate := zeroKey
  controlPublic := zeroKey
  ephemeralPrivate := zeroKey
  begun := true
  ready := true

lemma toyLibrary_inverts : toyLibrary.Inverts := by
  intro key nonce additionalData plaintext
  simp [toyLibrary]

theorem consume_inverts_frame_toyLibrary :
    ∃ records tx', frameAll toyLibrary readyClient [ascii "GET", [], ascii "POST"] =
        (.ok records, tx') ∧
      ∀ chunks, chunks.flatten = wire records → Fits toyLibrary readyClient chunks →
        ∃ received rx', consumeAll toyLibrary readyClient chunks = (.ok received, rx') ∧
          received.flatten = ascii "GETPOST" :=
  let ⟨records, tx', hframe, _, hconsume⟩ := consume_inverts_frame toyLibrary toyLibrary_inverts
    readyClient readyClient rfl rfl rfl rfl rfl [ascii "GET", [], ascii "POST"]
  ⟨records, tx', hframe, fun chunks hchunks hfits => (hconsume chunks hchunks hfits).1⟩

end ArtemisSwitch.Noise

import Mathlib
import ArtemisSwitch.PeerDirectory
import ArtemisSwitch.RemoteAccessManager

/-!
# Resolving an address to a peer

`resolveIPv4`: a peer's own address first, then the longest subnet that a peer shares.  The peers
come in any order.
-/

namespace ArtemisSwitch.Netmap
open RemoteAccess

/-- The shift is below the width. -/
def prefixMask (bits : ℤ) : UInt32 :=
  if bits = 0 then 0 else 0xFFFFFFFF <<< UInt32.ofNat (32 - bits.toNat)

/-- The bits of a network that covers the candidate, or -1. -/
def cidrMatchLength (candidate : ℕ) (cidr : Bytes) : ℤ :=
  match parseIPv4Cidr cidr with
  | none => -1
  | some (network, bits) =>
    let mask := prefixMask bits
    if UInt32.ofNat candidate &&& mask = UInt32.ofNat network &&& mask then bits else -1

def firstIPv4 (addresses : List Bytes) : Bytes := (addresses.find? isLiteralIPv4).getD []

namespace PeerDirectory

/-- `best`, `bestId` and `bestPrefix`. -/
structure Best where
  id : Bytes
  peer : Peer
  bits : ℤ
  deriving DecidableEq

def bestPrefix (best : Option Best) : ℤ := (best.map Best.bits).getD (-1)

/-- The longer prefix is better, and then an online peer. -/
def better (best : Option Best) (bits : ℤ) (peer : Peer) : Bool :=
  bestPrefix best < bits ||
    (bits = bestPrefix best && 0 ≤ bits && best.any (!·.peer.online) && peer.online)

/-- A peer without an IPv4 address is passed over. -/
def consider (candidate : ℕ) (id : Bytes) (peer : Peer) (best : Option Best) (subnet : Bytes) :
    Option Best :=
  let bits := cidrMatchLength candidate subnet
  if better best bits peer then
    if firstIPv4 peer.addresses = [] then best else some ⟨id, peer, bits⟩
  else best

def proxyTarget (id peerAddress address : Bytes) : RemoteRouteTarget :=
  ⟨id, peerAddress, address, ascii "127.0.0.1", .proxy⟩

def resolveIPv4 (peers : PeerDirectory) (address : Bytes) : Option RemoteRouteTarget :=
  match parseIPv4Value address with
  | none => none
  | some candidate =>
    match peers.entries.find? fun entry => address ∈ entry.2.addresses with
    | some entry => some (proxyTarget entry.1 address address)
    | none =>
      let best := peers.entries.foldl (fun best entry =>
        entry.2.allowedIPs.foldl (consider candidate entry.1 entry.2) best) none
      best.map fun best => proxyTarget best.id (firstIPv4 best.peer.addresses) address

end PeerDirectory

/-! ## What a network covers -/

/-- Both have the same leading bits. -/
def SameNetwork (candidate network bits : ℕ) : Prop :=
  candidate / 2 ^ (32 - bits) = network / 2 ^ (32 - bits)

/-- The subnet is an IPv4 network of so many bits that covers the address. -/
def Covers (candidate : ℕ) (subnet : Bytes) (bits : ℕ) : Prop :=
  ∃ network, parseIPv4Cidr subnet = some (network, (bits : ℤ)) ∧
    SameNetwork candidate network bits

lemma testBit_prefixMask {bits : ℕ} (hbits : bits ≤ 32) (i : ℕ) :
    (prefixMask bits).toNat.testBit i = decide (32 - bits ≤ i ∧ i < 32) := by
  unfold prefixMask
  split_ifs with hzero
  · -- no bit counts: a shift by the width would keep them all
    have h0 : bits = 0 := by omega
    subst h0
    rw [UInt32.toNat_zero, Nat.zero_testBit]
    exact (decide_eq_false (by omega)).symm
  · have hshift : (UInt32.ofNat (32 - (bits : ℤ).toNat)).toNat % 32 = 32 - bits := by
      rw [Int.toNat_natCast, UInt32.toNat_ofNat']
      omega
    have hones : (0xFFFFFFFF : UInt32).toNat = 2 ^ 32 - 1 := rfl
    rw [UInt32.toNat_shiftLeft, hshift, hones, Nat.testBit_mod_two_pow, Nat.testBit_shiftLeft,
      Nat.testBit_two_pow_sub_one]
    by_cases hi : i < 32
    · by_cases hk : 32 - bits ≤ i
      · simp [hi, hk]
        omega
      · simp [hi, hk]
    · simp [hi]

lemma and_prefixMask_iff {candidate network bits : ℕ} (hc : candidate < 2 ^ 32)
    (hn : network < 2 ^ 32) (hbits : bits ≤ 32) :
    UInt32.ofNat candidate &&& prefixMask bits = UInt32.ofNat network &&& prefixMask bits ↔
      SameNetwork candidate network bits := by
  have hbit : ∀ {x : ℕ}, x < 2 ^ 32 → ∀ i,
      (UInt32.ofNat x &&& prefixMask bits).toNat.testBit i =
        (x.testBit i && decide (32 - bits ≤ i ∧ i < 32)) := by
    intro x hx i
    rw [UInt32.toNat_and, Nat.testBit_and, testBit_prefixMask hbits,
      UInt32.toNat_ofNat_of_lt' hx]
  rw [← UInt32.toNat_inj]
  constructor
  · intro h
    apply Nat.eq_of_testBit_eq
    intro i
    rw [Nat.testBit_div_two_pow, Nat.testBit_div_two_pow]
    by_cases hi : i + (32 - bits) < 32
    · have heq := congrArg (Nat.testBit · (i + (32 - bits))) h
      rw [hbit hc, hbit hn] at heq
      simpa [hi] using heq
    · -- behind the 32 bits both are zero
      have hbig : 2 ^ 32 ≤ 2 ^ (i + (32 - bits)) := Nat.pow_le_pow_right (by omega) (by omega)
      rw [Nat.testBit_lt_two_pow (hc.trans_le hbig), Nat.testBit_lt_two_pow (hn.trans_le hbig)]
  · intro h
    apply Nat.eq_of_testBit_eq
    intro i
    rw [hbit hc, hbit hn]
    by_cases hi : 32 - bits ≤ i
    · have heq := congrArg (Nat.testBit · (i - (32 - bits))) h
      simp only [Nat.testBit_div_two_pow, Nat.sub_add_cancel hi] at heq
      rw [heq]
    · simp [hi]

lemma parseOctet_le {text : Bytes} {octet : ℕ} (h : parseOctet text = some octet) :
    octet ≤ 255 := by
  unfold parseOctet at h
  split_ifs at h
  split at h
  · split_ifs at h with hle
    exact Option.some.inj h ▸ hle
  · cases h

lemma octets_le {texts : List Bytes} {octets : List ℕ} (h : texts.mapM parseOctet = some octets) :
    ∀ octet ∈ octets, octet ≤ 255 := by
  induction texts generalizing octets with
  | nil =>
    obtain rfl := Option.some.inj h
    simp
  | cons text texts ih =>
    rw [List.mapM_cons] at h
    obtain ⟨octet, hoctet, h⟩ := Option.bind_eq_some_iff.mp h
    obtain ⟨rest, hrest, h⟩ := Option.bind_eq_some_iff.mp h
    obtain rfl := Option.some.inj h
    exact List.forall_mem_cons.mpr ⟨parseOctet_le hoctet, ih hrest⟩

lemma parseIPv4Value_lt {ip : Bytes} {value : ℕ} (h : parseIPv4Value ip = some value) :
    value < 2 ^ 32 := by
  unfold parseIPv4Value at h
  split at h
  · rename_i a b c d hoctets
    have hle := octets_le hoctets
    simp only [List.forall_mem_cons] at hle
    obtain ⟨ha, hb, hc, hd, -⟩ := hle
    obtain rfl := Option.some.inj h
    omega
  · cases h

lemma parseIPv4Cidr_bounds {cidr : Bytes} {network : ℕ} {bits : ℤ}
    (h : parseIPv4Cidr cidr = some (network, bits)) :
    network < 2 ^ 32 ∧ 0 ≤ bits ∧ bits ≤ 32 := by
  unfold parseIPv4Cidr at h
  dsimp only at h
  split at h
  · obtain ⟨value, hvalue, heq⟩ := Option.map_eq_some_iff.mp h
    cases heq
    exact ⟨parseIPv4Value_lt hvalue, by decide⟩
  · split_ifs at h
    split at h
    · split_ifs at h with hrange
      obtain ⟨value, hvalue, heq⟩ := Option.map_eq_some_iff.mp h
      cases heq
      exact ⟨parseIPv4Value_lt hvalue, by omega⟩
    · cases h

lemma cidrMatchLength_eq {candidate : ℕ} (hc : candidate < 2 ^ 32) {subnet : Bytes} {bits : ℕ} :
    cidrMatchLength candidate subnet = bits ↔ Covers candidate subnet bits := by
  unfold cidrMatchLength Covers
  cases hcidr : parseIPv4Cidr subnet with
  | none =>
    refine ⟨fun h => ?_, fun ⟨_, h, _⟩ => by cases h⟩
    dsimp only at h
    omega
  | some found =>
    obtain ⟨network, length⟩ := found
    obtain ⟨hn, hlow, hhigh⟩ := parseIPv4Cidr_bounds hcidr
    obtain ⟨length, rfl⟩ := Int.eq_ofNat_of_zero_le hlow
    have hlength : length ≤ 32 := by omega
    have hmask := and_prefixMask_iff hc hn hlength
    dsimp only
    split_ifs with hand
    · have hsame := hmask.mp hand
      refine ⟨fun h => ⟨network, by rw [h], ?_⟩, fun ⟨_, h, _⟩ => ?_⟩
      · exact Int.ofNat.inj h ▸ hsame
      · cases h
        rfl
    · refine ⟨fun h => h.elim, fun ⟨_, h, hcover⟩ => ?_⟩
      cases h
      exact absurd (hmask.mpr hcover) hand

lemma cidrMatchLength_ge (candidate : ℕ) (subnet : Bytes) :
    -1 ≤ cidrMatchLength candidate subnet := by
  unfold cidrMatchLength
  split
  · exact le_rfl
  · rename_i hcidr
    have hbounds := parseIPv4Cidr_bounds hcidr
    dsimp only
    split_ifs <;> omega

/-! ## The best of all subnets -/

namespace PeerDirectory

/-- A pair of a peer and one of its subnets that can be chosen. -/
def offer (candidate : ℕ) (pair : (Σ _ : Bytes, Peer) × Bytes) : Option Best :=
  if cidrMatchLength candidate pair.2 < 0 ∨ firstIPv4 pair.1.2.addresses = [] then none
  else some ⟨pair.1.1, pair.1.2, cidrMatchLength candidate pair.2⟩

/-- What the two parts of the comparison look at. -/
def Best.rank (best : Best) : ℤ ×ₗ Bool := toLex (best.bits, best.peer.online)

lemma better_some {best : Best} (hbest : 0 ≤ best.bits) (bits : ℤ) (peer : Peer) :
    better (some best) bits peer ↔ best.rank < toLex (bits, peer.online) := by
  have hbool : best.peer.online < peer.online ↔
      best.peer.online = false ∧ peer.online = true := by
    cases best.peer.online <;> cases peer.online <;> decide
  unfold better bestPrefix Best.rank
  rw [Prod.Lex.toLex_lt_toLex, hbool]
  simp only [Option.map_some, Option.getD_some, Option.any_some, Bool.or_eq_true,
    Bool.and_eq_true, decide_eq_true_eq, Bool.not_eq_true']
  constructor
  · rintro (hlonger | ⟨⟨⟨heq, -⟩, hoffline⟩, honline⟩)
    · exact .inl hlonger
    · exact .inr ⟨heq.symm, hoffline, honline⟩
  · rintro (hlonger | ⟨heq, hoffline, honline⟩)
    · exact .inl hlonger
    · exact .inr ⟨⟨⟨heq.symm, heq ▸ hbest⟩, hoffline⟩, honline⟩

lemma not_better_of_neg {best : Option Best} (hbest : ∀ b ∈ best, 0 ≤ b.bits) {bits : ℤ}
    (hbits : bits < 0) (hge : -1 ≤ bits) (peer : Peer) : better best bits peer = false := by
  have hfront : -1 ≤ bestPrefix best := by
    cases best with
    | none => exact le_rfl
    | some b => exact (hbest b rfl).trans' (by decide)
  unfold better
  rw [decide_eq_false (show ¬bestPrefix best < bits by omega),
    decide_eq_false (show ¬0 ≤ bits by omega)]
  simp

/-- A step of the loop is a step of the search for the greatest rank. -/
lemma consider_eq (candidate : ℕ) (pair : (Σ _ : Bytes, Peer) × Bytes) {best : Option Best}
    (hbest : ∀ b ∈ best, 0 ≤ b.bits) :
    consider candidate pair.1.1 pair.1.2 best pair.2 =
      ((offer candidate pair).map
        (List.argAux (fun b c : Best => c.rank < b.rank) best)).getD best := by
  unfold consider offer
  dsimp only
  by_cases hneg : cidrMatchLength candidate pair.2 < 0
  · rw [not_better_of_neg hbest hneg (cidrMatchLength_ge _ _), if_neg Bool.false_ne_true,
      if_pos (Or.inl hneg)]
    rfl
  by_cases haddress : firstIPv4 pair.1.2.addresses = []
  · rw [if_pos haddress, ite_self, if_pos (Or.inr haddress)]
    rfl
  rw [if_neg haddress, if_neg (not_or.mpr ⟨hneg, haddress⟩)]
  cases best with
  | none =>
    have hfirst : better none (cidrMatchLength candidate pair.2) pair.1.2 = true := by
      have hlonger : bestPrefix none < cidrMatchLength candidate pair.2 := by
        show (-1 : ℤ) < cidrMatchLength candidate pair.2
        omega
      unfold better
      rw [decide_eq_true hlonger, Bool.true_or]
    rw [if_pos hfirst]
    rfl
  | some b =>
    exact if_congr (better_some (hbest b rfl) _ pair.1.2) rfl rfl

lemma consider_nonneg (candidate : ℕ) (pair : (Σ _ : Bytes, Peer) × Bytes) {best : Option Best}
    (hbest : ∀ b ∈ best, 0 ≤ b.bits) :
    ∀ b ∈ consider candidate pair.1.1 pair.1.2 best pair.2, 0 ≤ b.bits := by
  unfold consider
  dsimp only
  split_ifs with hbetter haddress
  · exact hbest
  · rintro b hb
    obtain rfl := Option.some.inj hb
    by_contra hneg
    rw [not_better_of_neg hbest (not_le.mp hneg) (cidrMatchLength_ge _ _)] at hbetter
    cases hbetter
  · exact hbest

lemma foldl_consider (candidate : ℕ) (pairs : List ((Σ _ : Bytes, Peer) × Bytes)) :
    pairs.foldl (fun best pair => consider candidate pair.1.1 pair.1.2 best pair.2) none =
      (pairs.filterMap (offer candidate)).argmax Best.rank := by
  -- a subnet that does not match has -1 bits, as if there were no best yet: `best` stays above
  have hloop : ∀ (pairs : List ((Σ _ : Bytes, Peer) × Bytes)) (best : Option Best),
      (∀ b ∈ best, 0 ≤ b.bits) →
        pairs.foldl (fun best pair => consider candidate pair.1.1 pair.1.2 best pair.2) best =
          (pairs.filterMap (offer candidate)).foldl
            (List.argAux fun b c : Best => c.rank < b.rank) best := by
    intro pairs
    induction pairs with
    | nil => exact fun _ _ => rfl
    | cons pair pairs ih =>
      intro best hbest
      rw [List.foldl_cons, ih _ (consider_nonneg candidate pair hbest), consider_eq _ _ hbest,
        List.filterMap_cons]
      cases offer candidate pair <;> rfl
  exact hloop pairs none (by simp)

/-! ## Which peer is chosen -/

/-- The peer has an IPv4 address and a subnet of so many bits that covers the address. -/
structure Offers (peers : PeerDirectory) (candidate : ℕ) (entry : Σ _ : Bytes, Peer) (bits : ℕ) :
    Prop where
  listed : entry ∈ peers.entries
  covers : ∃ subnet ∈ entry.2.allowedIPs, Covers candidate subnet bits
  address : ∃ address ∈ entry.2.addresses, isLiteralIPv4 address = true

variable {peers : PeerDirectory} {candidate : ℕ} {entry : Σ _ : Bytes, Peer} {bits : ℕ}

/-- What the second loop runs through. -/
def offers (peers : PeerDirectory) (candidate : ℕ) : List Best :=
  (peers.entries.flatMap fun entry =>
    entry.2.allowedIPs.map fun subnet => (entry, subnet)).filterMap (offer candidate)

lemma firstIPv4_eq {addresses : List Bytes}
    (h : ∃ address ∈ addresses, isLiteralIPv4 address = true) :
    addresses.find? isLiteralIPv4 = some (firstIPv4 addresses) := by
  unfold firstIPv4
  cases hfind : addresses.find? isLiteralIPv4 with
  | none =>
    obtain ⟨address, hmem, hliteral⟩ := h
    exact absurd hliteral (List.find?_eq_none.mp hfind address hmem)
  | some address => rfl

lemma firstIPv4_ne_nil {addresses : List Bytes} :
    firstIPv4 addresses ≠ [] ↔ ∃ address ∈ addresses, isLiteralIPv4 address = true := by
  constructor
  · intro h
    unfold firstIPv4 at h
    cases hfind : addresses.find? isLiteralIPv4 with
    | none => exact absurd (by rw [hfind]; rfl) h
    | some address =>
      exact ⟨address, List.mem_of_find?_eq_some hfind, List.find?_some hfind⟩
  · intro h hempty
    have hliteral := List.find?_some (firstIPv4_eq h)
    rw [hempty] at hliteral
    revert hliteral
    decide

lemma mem_offers (hc : candidate < 2 ^ 32) {best : Best} :
    best ∈ peers.offers candidate ↔
      ∃ entry bits, peers.Offers candidate entry bits ∧ best = ⟨entry.1, entry.2, (bits : ℤ)⟩ := by
  unfold offers
  simp only [List.mem_filterMap, List.mem_flatMap, List.mem_map]
  constructor
  · rintro ⟨_, ⟨entry, hentry, subnet, hsubnet, rfl⟩, hoffer⟩
    unfold offer at hoffer
    split_ifs at hoffer with hskip
    rw [not_or, not_lt] at hskip
    obtain ⟨bits, hbits⟩ := Int.eq_ofNat_of_zero_le hskip.1
    refine ⟨entry, bits, ⟨hentry, ⟨subnet, hsubnet, (cidrMatchLength_eq hc).mp hbits⟩,
      firstIPv4_ne_nil.mp hskip.2⟩, ?_⟩
    rw [← Option.some.inj hoffer, hbits]
  · rintro ⟨entry, bits, hoffers, rfl⟩
    obtain ⟨subnet, hsubnet, hcovers⟩ := hoffers.covers
    have hbits := (cidrMatchLength_eq hc).mpr hcovers
    have haddress := firstIPv4_ne_nil.mpr hoffers.address
    refine ⟨(entry, subnet), ⟨entry, hoffers.listed, subnet, hsubnet, rfl⟩, ?_⟩
    unfold offer
    rw [hbits, if_neg (not_or.mpr ⟨by omega, haddress⟩)]

/-- What is to be returned for an IPv4 address. -/
structure RoutesCorrectly (peers : PeerDirectory) (address : Bytes) (candidate : ℕ) : Prop where
  own : (∃ entry ∈ peers.entries, address ∈ entry.2.addresses) →
    ∃ entry ∈ peers.entries, address ∈ entry.2.addresses ∧
      peers.resolveIPv4 address = some (proxyTarget entry.1 address address)
  subnet : (∀ entry ∈ peers.entries, address ∉ entry.2.addresses) →
    (∃ entry bits, peers.Offers candidate entry bits) →
      ∃ entry bits peerAddress, peers.Offers candidate entry bits ∧
        (∀ entry' bits', peers.Offers candidate entry' bits' → bits' ≤ bits) ∧
        (∀ entry', peers.Offers candidate entry' bits → entry'.2.online = true →
          entry.2.online = true) ∧
        entry.2.addresses.find? isLiteralIPv4 = some peerAddress ∧
        peers.resolveIPv4 address = some (proxyTarget entry.1 peerAddress address)
  nothing : (∀ entry ∈ peers.entries, address ∉ entry.2.addresses) →
    (¬∃ entry bits, peers.Offers candidate entry bits) → peers.resolveIPv4 address = none

/-- Without an own address the search for the greatest rank decides. -/
lemma resolveIPv4_eq {address : Bytes} (h : parseIPv4Value address = some candidate)
    (hown : ∀ entry ∈ peers.entries, address ∉ entry.2.addresses) :
    peers.resolveIPv4 address = ((peers.offers candidate).argmax Best.rank).map fun best =>
      proxyTarget best.id (firstIPv4 best.peer.addresses) address := by
  have hnone : peers.entries.find? (fun entry => address ∈ entry.2.addresses) = none :=
    List.find?_eq_none.mpr fun entry hentry => by simpa using hown entry hentry
  unfold resolveIPv4 offers
  rw [← foldl_consider, List.foldl_flatMap, h, hnone]
  simp only [List.foldl_map]

/-- The peers may come in any order. -/
theorem resolveIPv4_routes (peers : PeerDirectory) (address : Bytes) {candidate : ℕ}
    (h : parseIPv4Value address = some candidate) :
    peers.RoutesCorrectly address candidate := by
  have hc := parseIPv4Value_lt h
  refine ⟨fun hown => ?_, fun hown hoffered => ?_, fun hown hnothing => ?_⟩
  · obtain ⟨entry, hentry, haddress⟩ := hown
    cases hfind : peers.entries.find? (fun entry => address ∈ entry.2.addresses) with
    | none =>
      exact absurd (List.find?_eq_none.mp hfind entry hentry) (by simpa using haddress)
    | some found =>
      refine ⟨found, List.mem_of_find?_eq_some hfind, by simpa using List.find?_some hfind, ?_⟩
      unfold resolveIPv4
      rw [h, hfind]
  · rw [resolveIPv4_eq h hown]
    cases hbest : (peers.offers candidate).argmax Best.rank with
    | none =>
      obtain ⟨entry, bits, hoffers⟩ := hoffered
      have hmem := (mem_offers hc).mpr ⟨entry, bits, hoffers, rfl⟩
      rw [List.argmax_eq_none.mp hbest] at hmem
      cases hmem
    | some best =>
      obtain ⟨entry, bits, hoffers, rfl⟩ := (mem_offers hc).mp (List.argmax_mem hbest)
      -- the order of the ranks puts the bits first, and `online` second
      have hgreatest : ∀ entry' bits', peers.Offers candidate entry' bits' →
          toLex ((bits' : ℤ), entry'.2.online) ≤ toLex ((bits : ℤ), entry.2.online) :=
        fun entry' bits' hoffers' =>
          List.le_of_mem_argmax (f := Best.rank) ((mem_offers hc).mpr ⟨_, _, hoffers', rfl⟩) hbest
      refine ⟨entry, bits, _, hoffers, fun entry' bits' hoffers' => ?_,
        fun entry' hoffers' honline => ?_, firstIPv4_eq hoffers.address, rfl⟩
      · rcases Prod.Lex.toLex_le_toLex.mp (hgreatest entry' bits' hoffers') with hlt | ⟨heq, -⟩
        · exact Nat.le_of_lt (Int.ofNat_lt.mp hlt)
        · exact (Int.ofNat.inj heq).le
      · rcases Prod.Lex.toLex_le_toLex.mp (hgreatest entry' bits hoffers') with hlt | ⟨-, hle⟩
        · exact absurd hlt (lt_irrefl _)
        · exact hle honline
  · rw [resolveIPv4_eq h hown]
    have hempty : peers.offers candidate = [] := by
      rw [List.eq_nil_iff_forall_not_mem]
      intro best hbest
      obtain ⟨entry, bits, hoffers, -⟩ := (mem_offers hc).mp hbest
      exact hnothing ⟨entry, bits, hoffers⟩
    rw [hempty]
    rfl

/-! ## Two routers -/

/-- A router of 10.0.0.0/8. -/
def router (id : String) (addresses : List String) (online : Bool) : Peer where
  stableId := ascii id
  nodeKey := Key32.copyFrom []
  discoKey := Key32.copyFrom []
  hostname := []
  addresses := addresses.map ascii
  allowedIPs := [ascii "10.0.0.0/8"]
  endpoints := []
  homeDerp := 0
  online := online
  os := []
  tcpServicePorts := []
  servicesKnown := false

/-- The one that is online has no IPv4 address. -/
def routers : PeerDirectory :=
  (AList.insert (ascii "a") (router "a" ["100.64.0.1"] false) ∅).insert (ascii "b")
    (router "b" ["fd7a:115c:a1e0::20"] true)

theorem resolveIPv4_routes_routers :
    parseIPv4Value (ascii "10.1.2.3") = some 167838211 ∧
      routers.RoutesCorrectly (ascii "10.1.2.3") 167838211 :=
  ⟨by decide +kernel, resolveIPv4_routes routers (ascii "10.1.2.3") (by decide +kernel)⟩

/-- An offline router is chosen although one with the same subnet is online. -/
theorem offline_router_chosen :
    routers.resolveIPv4 (ascii "10.1.2.3") =
        some (proxyTarget (ascii "a") (ascii "100.64.0.1") (ascii "10.1.2.3")) ∧
      (routers.lookup (ascii "a")).map Peer.online = some false ∧
      ∃ peer subnet, routers.lookup (ascii "b") = some peer ∧ peer.online = true ∧
        subnet ∈ peer.allowedIPs ∧ Covers 167838211 subnet 8 :=
  ⟨by decide +kernel, by decide +kernel, router "b" ["fd7a:115c:a1e0::20"] true,
    ascii "10.0.0.0/8", by decide +kernel, by decide +kernel, by decide +kernel, 167772160,
    by decide +kernel, rfl⟩

end PeerDirectory

end ArtemisSwitch.Netmap

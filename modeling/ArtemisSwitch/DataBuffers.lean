import ArtemisSwitch.Library.Cells
import ArtemisSwitch.PairingEvidence

/-!
# The buffers of a pairing

`gs_pair` once more, over the blocks of memory that `Data` holds.  No operation leaves its block,
so the calls end as they do over plain bytes.
-/

namespace ArtemisSwitch.PairingBuffers
open HostAddress Pairing Cells

/-- A pairing comes to an end early, or memory is touched that it does not own. -/
inductive Halt
  | stopped (stop : Stop)
  | outside
  deriving DecidableEq, Repr

def inside {α : Type} : Option α → Except Halt α
  | some a => .ok a
  | none => .error .outside

/-! ## `Data` -/

/-- `block` is nothing for a null pointer. -/
structure Data where
  block : Option (Block UInt8) := none
  size : ℕ := 0
  deriving DecidableEq, Repr

namespace Data

/-- What a `memcpy` reads; of nothing at all it reads nothing. -/
def read (d : Data) (start size : ℕ) : Except Halt Bytes :=
  match d.block with
  | some block => inside (load block start size)
  | none => if size = 0 then .ok [] else .error .outside

/-- What a `memcpy` writes. -/
def write (d : Data) (place : ℕ) (values : Bytes) : Except Halt Data :=
  match d.block with
  | some block =>
    (inside (store block place values)).map fun block => { d with block := some block }
  | none => if values = [] then .ok d else .error .outside

/-- `m_bytes[i]`. -/
def get (d : Data) (i : ℕ) : Except Halt UInt8 :=
  match d.block.bind (·[i]?) with
  | some (some c) => .ok c
  | _ => .error .outside

/-- `Data(const unsigned char* bytes, size_t size)`. -/
def ofBytes (bytes : Bytes) : Except Halt Data :=
  if bytes = [] then .ok {}
  else do
    let d : Data := { block := some (fresh (bytes.length + 1)), size := bytes.length }
    let d ← d.write bytes.length [0]
    d.write 0 bytes

/-- `Data(size_t capacity)`. -/
def ofCapacity (capacity : ℕ) : Data :=
  { block := some (filled (List.replicate (capacity + 1) 0)), size := capacity }

/-- `Data(const Data& that)`, and the assignment. -/
def copy (that : Data) : Except Halt Data := do
  let d : Data := { block := some (fresh (that.size + 1)), size := that.size }
  let d ← d.write 0 (← that.read 0 that.size)
  d.write that.size [0]

def subdata (d : Data) (start size : ℕ) : Except Halt Data :=
  if d.size < start + size then .error (.stopped .exited)
  else do ofBytes (← d.read start size)

/-- The argument is a copy. -/
def append (d other : Data) : Except Halt Data := do
  let other ← other.copy
  if d.size = 0 then .ok other
  else do
    let data := ofCapacity (d.size + other.size)
    let data ← data.write 0 (← d.read 0 d.size)
    data.write d.size (← other.read 0 other.size)

/-- `random_bytes`, whose draws are given. -/
def ofRandom (bytes : Bytes) : Except Halt Data := (ofCapacity bytes.length).write 0 bytes

/-- The loop of `hex_to_bytes`. -/
def hexToBytesLoop (d : Data) (i counter : ℕ) (data : Data) : Except Halt Data :=
  if i < d.size then do
    let high ← d.get i
    let low ← d.get (i + 1)
    let data ← data.write counter [hexPair high low]
    hexToBytesLoop d (i + 2) (counter + 1) data
  else .ok data
termination_by d.size - i

def hexToBytes (d : Data) : Except Halt Data :=
  hexToBytesLoop d 0 0 (ofCapacity (d.size / 2))

/-- The loop of `hex`. -/
def hexLoop (d : Data) (i counter : ℕ) (hex : Data) : Except Halt Data :=
  if i < d.size then do
    let c ← d.get i
    let hex ← hex.write counter [hexLetter (c / 16)]
    let hex ← hex.write (counter + 1) [hexLetter (c % 16)]
    hexLoop d (i + 1) (counter + 2) hex
  else .ok hex
termination_by d.size - i

def hex (d : Data) : Except Halt Data :=
  if d.size = 0 then ofBytes [10]
  else do
    let hex ← hexLoop d 0 0 (ofCapacity (d.size * 2))
    hex.write (d.size * 2) [0]

/-- The C string at `bytes()`, which goes into a URL. -/
def cString (d : Data) : Except Halt Bytes :=
  match d.block with
  | some block => inside (loadUntil (· = 0) block)
  | none => .error .outside

/-- A block with the content and one cell behind it. -/
structure Holds (d : Data) (content : Bytes) : Prop where
  size : d.size = content.length
  block : (d.block = none ∧ content = []) ∨
    ∃ last, d.block = some (filled content ++ [some last])

end Data

/-- A buffer with the content comes out. -/
def Gives (r : Except Halt Data) (content : Bytes) : Prop := ∃ d, r = .ok d ∧ d.Holds content

variable {d other : Data} {content more out rest front : Bytes} {start size : ℕ} {last : UInt8}

/-! ## No operation leaves its block -/

lemma fresh_succ (n : ℕ) : (fresh (n + 1) : Block UInt8) = fresh n ++ (fresh 1 ++ []) := by
  rw [List.append_nil]
  exact List.replicate_add n 1 none

/-- The two writes that fill a block. -/
lemma store_fresh (content : Bytes) :
    store (fresh (content.length + 1)) content.length [0] =
      some (fresh content.length ++ [some (0 : UInt8)]) ∧
    store (fresh content.length ++ [some (0 : UInt8)]) 0 content =
      some (filled content ++ [some 0]) := by
  constructor
  · rw [fresh_succ, store_middle (length_fresh _) rfl]
    rfl
  · exact @store_middle _ _ _ _ [] _ rfl (length_fresh _)

lemma ok_bind {α β : Type} (a : α) (f : α → Except Halt β) :
    ((.ok a : Except Halt α) >>= f) = f a := rfl

namespace Data

lemma write_eq {block block' : Block UInt8} {place : ℕ} (hblock : d.block = some block)
    (hstore : store block place content = some block') :
    d.write place content = .ok { d with block := some block' } := by
  rw [write, hblock]
  dsimp only
  rw [hstore]
  rfl

lemma holds_block (h : d.Holds content) (hne : content ≠ []) :
    ∃ last, d.block = some (filled content ++ [some last]) :=
  h.block.resolve_left fun hnull => hne hnull.2

lemma gives_ofBytes (content : Bytes) : Gives (ofBytes content) content := by
  unfold ofBytes
  split_ifs with hnil
  · exact ⟨_, rfl, ⟨by simp [hnil], .inl ⟨rfl, hnil⟩⟩⟩
  · obtain ⟨hlast, hcontent⟩ := store_fresh content
    refine ⟨{ block := some (filled content ++ [some 0]), size := content.length }, ?_,
      ⟨rfl, .inr ⟨0, rfl⟩⟩⟩
    dsimp only
    rw [write_eq rfl hlast, ok_bind]
    exact write_eq rfl hcontent

lemma read_holds (h : d.Holds content) (hinside : start + size ≤ content.length) :
    d.read start size = .ok ((content.drop start).take size) := by
  unfold read
  rcases h.block with ⟨hnull, rfl⟩ | ⟨last, hblock⟩
  · have hsize : size = 0 := by
      rw [List.length_nil] at hinside
      omega
    rw [hnull, hsize]
    simp
  · rw [hblock]
    dsimp only
    rw [load_filled hinside]
    rfl

lemma read_all (h : d.Holds content) : d.read 0 d.size = .ok content := by
  rw [read_holds h (by rw [h.size, Nat.zero_add]), h.size, List.drop_zero, List.take_length]

lemma gives_copy (h : d.Holds content) : Gives d.copy content := by
  obtain ⟨block, size⟩ := d
  obtain rfl : size = content.length := h.size
  have hread := read_all h
  have hcontent : store (fresh (content.length + 1)) 0 content =
      some (filled content ++ fresh 1) := by
    rw [fresh_succ, List.append_nil]
    exact @store_middle _ _ _ _ [] _ rfl (length_fresh _)
  have hlast : store (filled content ++ fresh 1) content.length [0] =
      some (filled content ++ [some 0]) := by
    rw [store_append (by simp), filled_append, List.append_assoc]
    rfl
  refine ⟨{ block := some (filled content ++ [some 0]), size := content.length }, ?_,
    ⟨rfl, .inr ⟨0, rfl⟩⟩⟩
  rw [copy, hread, ok_bind, write_eq rfl hcontent, ok_bind]
  exact write_eq rfl hlast

/-- Within the size, a part of the content; else the process exits. -/
lemma subdata_eq (h : d.Holds content) (start size : ℕ) :
    (Pairing.subdata content start size = none ∧
      d.subdata start size = .error (.stopped .exited)) ∨
    ∃ part, Pairing.subdata content start size = some part ∧ Gives (d.subdata start size) part := by
  unfold subdata Pairing.subdata
  rw [h.size]
  split_ifs with hshort
  · exact .inl ⟨rfl, rfl⟩
  · refine .inr ⟨_, rfl, ?_⟩
    rw [read_holds h (by omega)]
    exact gives_ofBytes _

lemma filled_zeros (n m : ℕ) : filled (List.replicate (n + m) (0 : UInt8)) =
    filled (List.replicate n 0) ++ filled (List.replicate m 0) := by
  rw [List.replicate_add, filled_append]

lemma length_zeros (n : ℕ) : (filled (List.replicate n (0 : UInt8))).length = n := by
  rw [length_filled, List.length_replicate]

lemma gives_ofRandom (content : Bytes) : Gives (ofRandom content) content := by
  have hstore : store (filled (List.replicate (content.length + 1) 0)) 0 content =
      some (filled content ++ [some 0]) := by
    rw [filled_zeros]
    exact @store_middle _ _ _ _ [] _ rfl (length_zeros _)
  exact ⟨_, write_eq rfl hstore, ⟨rfl, .inr ⟨0, rfl⟩⟩⟩

lemma gives_append (h : d.Holds content) (hother : other.Holds more) :
    Gives (d.append other) (content ++ more) := by
  obtain ⟨other', hcopy, hother'⟩ := gives_copy hother
  rw [append, hcopy, ok_bind]
  split_ifs with hempty
  · have hnil : content = [] := List.eq_nil_of_length_eq_zero (h.size.symm.trans hempty)
    rw [hnil]
    exact ⟨other', rfl, hother'⟩
  · have hblock : (ofCapacity (d.size + other'.size)).block = some
        (filled (List.replicate content.length 0) ++
          (filled (List.replicate more.length 0) ++ [some 0])) := by
      rw [ofCapacity, h.size, hother'.size, filled_zeros, filled_zeros, List.append_assoc]
      rfl
    have hfirst : store (filled (List.replicate content.length 0) ++
        (filled (List.replicate more.length 0) ++ [some 0])) 0 content =
          some (filled content ++ (filled (List.replicate more.length 0) ++ [some 0])) :=
      @store_middle _ _ _ _ [] _ rfl (length_zeros _)
    have hsecond : store (filled content ++ (filled (List.replicate more.length 0) ++ [some 0]))
        d.size more = some (filled content ++ (filled more ++ [some 0])) :=
      store_middle ((length_filled content).trans h.size.symm) (length_zeros _)
    rw [read_all h, ok_bind, write_eq hblock hfirst, ok_bind, read_all hother', ok_bind,
      write_eq rfl hsecond]
    refine ⟨_, rfl, ⟨?_, .inr ⟨0, ?_⟩⟩⟩
    · rw [List.length_append, ← h.size, ← hother'.size]
      rfl
    · rw [filled_append, List.append_assoc]

/-! ### Hexadecimal digits -/

lemma get_content {c : UInt8} (hblock : d.block = some (filled content ++ [some last]))
    (hcontent : content = front ++ c :: rest) : d.get front.length = .ok c := by
  have hcell : (filled content ++ [some last])[front.length]? = some (some c) := by
    rw [hcontent, filled_append, List.append_assoc, List.getElem?_append_right (by simp),
      length_filled, Nat.sub_self]
    rfl
  rw [get, hblock, Option.bind_some, hcell]

lemma get_last (hblock : d.block = some (filled content ++ [some last])) :
    d.get content.length = .ok last := by
  have hcell : (filled content ++ [some last])[content.length]? = some (some last) := by
    rw [List.getElem?_append_right (by simp), length_filled, Nat.sub_self]
    rfl
  rw [get, hblock, Option.bind_some, hcell]

/-- One more byte behind those that were written. -/
lemma write_next {p : UInt8} {pad : Bytes} (v : UInt8) (n : ℕ) :
    ({ block := some (filled out ++ filled (p :: pad)), size := n } : Data).write out.length [v] =
      .ok { block := some (filled (out ++ [v]) ++ filled pad), size := n } := by
  have hstore : store (filled out ++ filled (p :: pad)) out.length [v] =
      some (filled out ++ (filled [v] ++ filled pad)) :=
    @store_middle _ _ _ _ _ (filled [p]) (length_filled out) rfl
  rw [filled_append, List.append_assoc]
  exact write_eq rfl hstore

lemma hexToBytes_nil : Pairing.hexToBytes [] = [] := rfl

lemma hexToBytes_odd (c : UInt8) : Pairing.hexToBytes [c] = [] := rfl

/-- One round: two digits are read, and their byte is written. -/
lemma hexToBytesLoop_next {i n : ℕ} {high low p : UInt8} {pad : Bytes} (hinside : i < d.size)
    (hhigh : d.get i = .ok high) (hlow : d.get (i + 1) = .ok low) :
    hexToBytesLoop d i out.length { block := some (filled out ++ filled (p :: pad)), size := n } =
      hexToBytesLoop d (i + 2) (out.length + 1)
        { block := some (filled (out ++ [hexPair high low]) ++ filled pad), size := n } := by
  rw [hexToBytesLoop, if_pos hinside, hhigh, ok_bind, hlow, ok_bind, write_next, ok_bind]

lemma hexToBytesLoop_end {i counter : ℕ} (data : Data) (houtside : ¬i < d.size) :
    hexToBytesLoop d i counter data = .ok data := by
  rw [hexToBytesLoop, if_neg houtside]

/-- The last digit of an odd number of them is read with the byte behind it, and what comes of
that is written behind the bytes. -/
lemma hexToBytesLoop_eq (hblock : d.block = some (filled content ++ [some last]))
    (hsize : d.size = content.length) (rest : Bytes) :
    ∀ front out pad n, content = front ++ rest → front.length = 2 * out.length →
      pad.length = rest.length / 2 + 1 →
      ∃ last', hexToBytesLoop d front.length out.length
          { block := some (filled out ++ filled pad), size := n } =
        .ok
          { block := some (filled (out ++ Pairing.hexToBytes rest) ++ [some last'])
            size := n } := by
  -- the invariant: the bytes of the digits in front are written, and the pad is what is left
  induction rest using Pairing.hexToBytes.induct with
  | case1 high low rest ih =>
    intro front out pad n hcontent hfront hpad
    obtain ⟨p, pad, rfl⟩ := List.exists_cons_of_length_pos (l := pad) (by omega)
    have hlow : content = (front ++ [high]) ++ low :: rest := by simp [hcontent]
    have hnext : content = (front ++ [high, low]) ++ rest := by simp [hcontent]
    have hlowGet := get_content hblock hlow
    rw [List.length_append] at hlowGet
    have hinside : front.length < d.size := by
      rw [hsize, hcontent, List.length_append, List.length_cons]
      omega
    obtain ⟨last', hrest⟩ := ih (front ++ [high, low]) (out ++ [hexPair high low]) pad n hnext
      (by simp [hfront, Nat.mul_add]) (by simp at hpad; omega)
    refine ⟨last', ?_⟩
    rw [List.length_append, List.length_append, List.append_assoc out] at hrest
    rw [hexToBytesLoop_next hinside (get_content hblock hcontent) hlowGet]
    exact hrest
  | case2 rest hrest =>
    intro front out pad n hcontent hfront hpad
    obtain ⟨p, pad, rfl⟩ := List.exists_cons_of_length_pos (l := pad) (by omega)
    rcases rest with _ | ⟨c, _ | ⟨c', rest⟩⟩
    · obtain rfl : pad = [] := List.eq_nil_of_length_eq_zero (by simpa using hpad)
      have houtside : ¬front.length < d.size := by simp [hsize, hcontent]
      refine ⟨p, ?_⟩
      rw [hexToBytesLoop_end _ houtside, hexToBytes_nil, List.append_nil]
      rfl
    · -- an odd digit is left, and the byte behind the digits is taken for its second
      obtain rfl : pad = [] := List.eq_nil_of_length_eq_zero (by simpa using hpad)
      have hinside : front.length < d.size := by simp [hsize, hcontent]
      have houtside : ¬front.length + 2 < d.size := by simp [hsize, hcontent]
      have hlength : content.length = front.length + 1 := by simp [hcontent]
      have hlastGet := get_last hblock
      rw [hlength] at hlastGet
      refine ⟨hexPair c last, ?_⟩
      rw [hexToBytesLoop_next hinside (get_content hblock hcontent) hlastGet,
        hexToBytesLoop_end _ houtside, hexToBytes_odd, List.append_nil, filled_append]
      simp [filled]
    · exact absurd rfl (hrest c c' rest)

lemma length_hexToBytes (text : Bytes) : (Pairing.hexToBytes text).length = text.length / 2 := by
  induction text using Pairing.hexToBytes.induct with
  | case1 high low rest ih =>
    rw [Pairing.hexToBytes, List.length_cons, ih, List.length_cons, List.length_cons]
    omega
  | case2 rest hrest =>
    rcases rest with _ | ⟨c, _ | ⟨c', rest⟩⟩
    · simp [Pairing.hexToBytes]
    · simp [Pairing.hexToBytes]
    · exact absurd rfl (hrest c c' rest)

lemma gives_hexToBytes (h : d.Holds content) :
    Gives d.hexToBytes (Pairing.hexToBytes content) := by
  rcases h.block with ⟨hnull, rfl⟩ | ⟨last, hblock⟩
  · refine ⟨ofCapacity 0, ?_, ⟨rfl, .inr ⟨0, rfl⟩⟩⟩
    have hsize : d.size = 0 := h.size
    rw [hexToBytes, hexToBytesLoop, hsize]
    rfl
  · obtain ⟨last', hloop⟩ := hexToBytesLoop_eq hblock h.size content [] []
      (List.replicate (content.length / 2 + 1) 0) (content.length / 2) rfl rfl (by simp)
    have hbytes : d.hexToBytes = .ok
        { block := some (filled (Pairing.hexToBytes content) ++ [some last'])
          size := content.length / 2 } := by
      rw [hexToBytes, h.size]
      exact hloop
    exact ⟨_, hbytes, ⟨(length_hexToBytes content).symm, .inr ⟨last', rfl⟩⟩⟩

def digits (c : UInt8) : Bytes := [hexLetter (c / 16), hexLetter (c % 16)]

/-- One round: a byte is read, and its two digits are written. -/
lemma hexLoop_next {i n : ℕ} {c p q : UInt8} {pad : Bytes} (hinside : i < d.size)
    (hc : d.get i = .ok c) :
    hexLoop d i out.length { block := some (filled out ++ filled (p :: q :: pad)), size := n } =
      hexLoop d (i + 1) (out.length + 2)
        { block := some (filled (out ++ digits c) ++ filled pad), size := n } := by
  have hsecond := @write_next (out ++ [hexLetter (c / 16)]) q pad (hexLetter (c % 16)) n
  rw [List.length_append, List.append_assoc] at hsecond
  rw [hexLoop, if_pos hinside, hc, ok_bind, write_next, ok_bind]
  exact congrArg (· >>= hexLoop d (i + 1) (out.length + 2)) hsecond

/-- The loop writes two digits for each byte. -/
lemma hexLoop_eq (hblock : d.block = some (filled content ++ [some last]))
    (hsize : d.size = content.length) (rest : Bytes) :
    ∀ front out pad n, content = front ++ rest → out.length = 2 * front.length →
      pad.length = 2 * rest.length + 1 →
      ∃ last', hexLoop d front.length out.length
          { block := some (filled out ++ filled pad), size := n } =
        .ok { block := some (filled (out ++
          rest.flatMap digits) ++ [some last']), size := n } := by
  -- the invariant: the digits of the bytes in front are written, and the pad is what is left
  induction rest with
  | nil =>
    intro front out pad n hcontent _ hpad
    obtain ⟨p, rfl⟩ := List.length_eq_one_iff.mp hpad
    have houtside : ¬front.length < d.size := by simp [hsize, hcontent]
    refine ⟨p, ?_⟩
    rw [hexLoop, if_neg houtside, List.flatMap_nil, List.append_nil]
    rfl
  | cons c rest ih =>
    intro front out pad n hcontent hout hpad
    obtain ⟨p, pad, rfl⟩ := List.exists_cons_of_length_pos (l := pad) (by omega)
    obtain ⟨q, pad, rfl⟩ := List.exists_cons_of_length_pos (l := pad) (by simp at hpad; omega)
    have hnext : content = (front ++ [c]) ++ rest := by simp [hcontent]
    have hinside : front.length < d.size := by simp [hsize, hcontent]
    obtain ⟨last', hrest⟩ := ih (front ++ [c]) (out ++ digits c) pad n hnext
      (by simp [digits, hout, Nat.mul_add]) (by simp at hpad; omega)
    refine ⟨last', ?_⟩
    rw [List.length_append, List.length_append, List.append_assoc out] at hrest
    rw [hexLoop_next hinside (get_content hblock hcontent)]
    exact hrest

lemma hexLetter_ne_zero {n : UInt8} (h : n.toNat < 16) : hexLetter n ≠ 0 := by
  intro hzero
  have hvalue := congrArg UInt8.toNat hzero
  unfold hexLetter at hvalue
  split_ifs at hvalue
  · rw [UInt8.toNat_add] at hvalue
    change (n.toNat + 48) % 256 = 0 at hvalue
    omega
  · rw [UInt8.toNat_add] at hvalue
    change (n.toNat + 55) % 256 = 0 at hvalue
    omega

lemma digits_ne_zero (c : UInt8) : ∀ digit ∈ digits c, (digit = 0 : Bool) = false := by
  have hc := c.toNat_lt
  have hhigh : (c / 16).toNat = c.toNat / 16 := UInt8.toNat_div c 16
  have hlow : (c % 16).toNat = c.toNat % 16 := UInt8.toNat_mod c 16
  intro digit hdigit
  rw [decide_eq_false_iff_not]
  rcases List.mem_pair.mp hdigit with rfl | rfl
  · exact hexLetter_ne_zero (by omega)
  · exact hexLetter_ne_zero (by omega)

/-- The digits end in a NUL, so they can be put into a URL. -/
lemma hex_cString (h : d.Holds content) : (d.hex >>= cString) = .ok (Pairing.hex content) := by
  unfold hex Pairing.hex
  rcases content with _ | ⟨c, content⟩
  · have hsize : d.size = 0 := h.size
    rw [if_pos hsize, if_pos rfl]
    rfl
  · have hne : c :: content ≠ [] := List.cons_ne_nil c content
    obtain ⟨last, hblock⟩ := holds_block h hne
    obtain ⟨last', hloop⟩ := hexLoop_eq hblock h.size (c :: content) [] []
      (List.replicate (d.size * 2 + 1) 0) (d.size * 2) rfl rfl (by simp [h.size, Nat.mul_comm])
    have hdigits : ((c :: content).flatMap digits).length = d.size * 2 := by
      rw [h.size, List.length_flatMap]
      simp only [digits, List.length_cons, List.length_nil, List.map_const', List.sum_replicate_nat]
    have hlast : store (filled ((c :: content).flatMap digits) ++ [some last']) (d.size * 2) [0] =
        some (filled ((c :: content).flatMap digits) ++ [some 0]) :=
      @store_middle _ [] [0] _ _ [some last'] ((length_filled _).trans hdigits) rfl
    have hread : loadUntil (fun c => (c = 0 : Bool))
        (filled ((c :: content).flatMap digits) ++ [some 0]) =
          some ((c :: content).flatMap digits) := by
      refine loadUntil_filled (fun digit hdigit => ?_) rfl []
      obtain ⟨b, -, hb⟩ := List.mem_flatMap.mp hdigit
      exact digits_ne_zero b digit hb
    have hempty : ¬d.size = 0 := by simp [h.size]
    have hstart : hexLoop d 0 0 (ofCapacity (d.size * 2)) = .ok
        { block := some (filled ((c :: content).flatMap digits) ++ [some last'])
          size := d.size * 2 } := hloop
    rw [if_neg hempty, if_neg hne, hstart, ok_bind, write_eq rfl hlast, ok_bind, cString]
    dsimp only
    rw [hread]
    rfl

end Data

/-! ## `gs_pair` over buffers -/

/-- A function of the crypto library gets copies and hands back a buffer of its own. -/
def call (f : Bytes → Bytes) (d : Data) : Except Halt Data := do
  let d ← d.copy
  Data.ofBytes (f (← d.read 0 d.size))

def callTwo (f : Bytes → Bytes → Bytes) (d other : Data) : Except Halt Data := do
  let d ← d.copy
  let other ← other.copy
  Data.ofBytes (f (← d.read 0 d.size) (← other.read 0 other.size))

def verify (f : Bytes → Bytes → Bytes → Bool) (data signature cert : Data) : Except Halt Bool := do
  let data ← data.copy
  let signature ← signature.copy
  let cert ← cert.copy
  .ok (f (← data.read 0 data.size) (← signature.read 0 signature.size)
    (← cert.read 0 cert.size))

def inBuffer {α : Type} (r : Except Halt α) : EStateM Halt World α := fun w =>
  match r with
  | .ok a => .ok a w
  | .error halt => .error halt w

/-- What needs no buffer. -/
def lift {α : Type} (m : EStateM Stop World α) : EStateM Halt World α := fun w =>
  match m w with
  | .ok a w => .ok a w
  | .error stop w => .error (.stopped stop) w

/-- The digits of a buffer, for a URL. -/
def urlText (d : Data) : EStateM Halt World Bytes := inBuffer (d.hex >>= Data.cString)

section Stages
variable (x : Attempt)

def createAESKey (salted : Bytes) : Bytes :=
  if x.serverMajorVersion ≥ 7 then x.crypto.createAESKeyFromSaltSHA256 salted
  else x.crypto.createAESKeyFromSaltSHA1 salted

/-- The salted PIN and the certificate of the host. -/
def stage1 : EStateM Halt World (Data × Data) := do
  let salt ← inBuffer (Data.ofRandom x.salt)
  let pin ← inBuffer (Data.ofBytes x.pin)
  let saltedPin ← inBuffer (salt.append pin)
  let saltText ← urlText salt
  let certData ← inBuffer (Data.ofBytes x.crypto.certData)
  let certText ← urlText certData
  let data ← lift (ask x .getServerCert (.getServerCert saltText certText))
  let result ← lift (orReturn (xmlSearch x.expat data (ascii "plaincert")))
  let plainCert ← inBuffer (Data.ofBytes result)
  pure (saltedPin, plainCert)

/-- The key, the challenge and the answer to it. -/
def stage2 (saltedPin : Data) : EStateM Halt World (Data × Data × Bytes) := do
  let key ← inBuffer (call (createAESKey x) saltedPin)
  let aesKey ← inBuffer key.copy
  let randomChallenge ← inBuffer (Data.ofRandom x.randomChallenge)
  let encryptedChallenge ← inBuffer (callTwo x.crypto.aesEncrypt randomChallenge aesKey)
  let text ← urlText encryptedChallenge
  let data ← lift (ask x .clientChallenge (.clientChallenge text))
  let result ← lift (orReturn
    ((xmlSearch x.expat data (ascii "challengeresponse")).mapError fun _ => GS_INVALID))
  pure (aesKey, randomChallenge, result)

/-- The secret of the client and the answer with the secret of the host. -/
def stage3 (aesKey : Data) (response : Bytes) : EStateM Halt World (Data × Bytes) := do
  let hexChallengeResp ← inBuffer (Data.ofBytes response)
  let encServerChallengeResp ← inBuffer hexChallengeResp.hexToBytes
  let decServerChallengeResp ←
    inBuffer (callTwo x.crypto.aesDecrypt encServerChallengeResp aesKey)
  let _serverResponse ← inBuffer (decServerChallengeResp.subdata 0 x.hashLength)
  let serverChallenge ← inBuffer (decServerChallengeResp.subdata x.hashLength 16)
  let clientSecret ← inBuffer (Data.ofRandom x.clientSecret)
  let certData ← inBuffer (Data.ofBytes x.crypto.certData)
  let signature ← inBuffer (call x.crypto.signature certData)
  let signed ← inBuffer (serverChallenge.append signature)
  let challengeRespHashInput ← inBuffer (signed.append clientSecret)
  let hash ← inBuffer (call x.hashData challengeRespHashInput)
  let challengeRespHash ← inBuffer hash.copy
  let challengeRespEncrypted ← inBuffer (callTwo x.crypto.aesEncrypt challengeRespHash aesKey)
  let text ← urlText challengeRespEncrypted
  let data ← lift (ask x .serverChallengeResp (.serverChallengeResp text))
  let result ← lift (orReturn
    ((xmlSearch x.expat data (ascii "pairingsecret")).mapError fun _ => GS_INVALID))
  pure (clientSecret, result)

def stage4 (plainCert randomChallenge clientSecret : Data) (pairingSecret : Bytes) :
    EStateM Halt World Unit := do
  let hexSecretResp ← inBuffer (Data.ofBytes pairingSecret)
  let serverSecretResp ← inBuffer hexSecretResp.hexToBytes
  let serverSecret ← inBuffer (serverSecretResp.subdata 0 16)
  let serverSignature ← inBuffer (serverSecretResp.subdata 16 256)
  let cert ← inBuffer plainCert.hexToBytes
  let verified ← inBuffer (verify x.crypto.verifySignature serverSecret serverSignature cert)
  lift (orReturn (if verified then .ok () else .error GS_FAILED))
  let cert ← inBuffer plainCert.hexToBytes
  let signature ← inBuffer (call x.crypto.signature cert)
  let signed ← inBuffer (randomChallenge.append signature)
  let serverChallengeRespHashInput ← inBuffer (signed.append serverSecret)
  let hash ← inBuffer (call x.hashData serverChallengeRespHashInput)
  let _serverChallengeRespHash ← inBuffer hash.copy
  let keyData ← inBuffer (Data.ofBytes x.crypto.keyData)
  let signature ← inBuffer (callTwo x.crypto.signData clientSecret keyData)
  let clientPairingSecret ← inBuffer (clientSecret.append signature)
  let text ← urlText clientPairingSecret
  let _data ← lift (ask x .clientPairingSecret (.clientPairingSecret text))

def stages : EStateM Halt World Unit := do
  let (saltedPin, plainCert) ← stage1 x
  let (aesKey, randomChallenge, challengeResponse) ← stage2 x saltedPin
  let (clientSecret, pairingSecret) ← stage3 x aesKey challengeResponse
  stage4 x plainCert randomChallenge clientSecret pairingSecret
  lift (Pairing.stage5 x)

/-- Nothing comes back when memory is touched outside a buffer. -/
def gsPair (paired : Bool) : Option (Option ℤ × World) :=
  if paired then some (some GS_WRONG_STATE, { paired })
  else if x.currentGame ≠ 0 then some (some GS_WRONG_STATE, { paired })
  else
    match stages x { paired } with
    | .ok () w => some ((gsPairCleanup x GS_OK { w with paired := true }).map some id)
    | .error (.stopped (.code ret)) w => some ((gsPairCleanup x ret w).map some id)
    | .error (.stopped .exited) w => some (none, w)
    | .error .outside _ => none

end Stages

/-! ## Nothing is touched outside -/

section Steps
variable {α β : Type} {k : Data → EStateM Halt World β} {m : EStateM Halt World β}

lemma inBuffer_ok (a : α) (k : α → EStateM Halt World β) : (inBuffer (.ok a) >>= k) = k a := rfl

lemma inBuffer_bind {r : Except Halt Data} (h : Gives r content)
    (hk : ∀ d : Data, d.Holds content → k d = m) : (inBuffer r >>= k) = m := by
  obtain ⟨d, rfl, hd⟩ := h
  exact hk d hd

lemma urlText_bind (h : d.Holds content) (k : Bytes → EStateM Halt World β) :
    (urlText d >>= k) = k (Pairing.hex content) := by
  rw [urlText, Data.hex_cString h]
  rfl

lemma lift_bind {n : EStateM Stop World α} {f : α → EStateM Stop World β}
    {k : α → EStateM Halt World β} (hk : ∀ a, k a = lift (f a)) :
    (lift n >>= k) = lift (n >>= f) := by
  funext w
  show EStateM.bind (lift n) k w = lift (EStateM.bind n f) w
  simp only [EStateM.bind, lift]
  cases n w with
  | ok a w' => exact congrFun (hk a) w'
  | error stop w' => rfl

/-- A part that is not there ends the process, with buffers and without. -/
lemma subdata_bind {start size : ℕ} {f : Bytes → EStateM Stop World β} (h : d.Holds content)
    (hk : ∀ part (d : Data), d.Holds part → k d = lift (f part)) :
    (inBuffer (d.subdata start size) >>= k) =
      lift (orExit (Pairing.subdata content start size) >>= f) := by
  rcases Data.subdata_eq h start size with ⟨hnone, hexit⟩ | ⟨part, hsome, d', hd', hpart⟩
  · rw [hnone, hexit]
    rfl
  · rw [hsome, hd']
    exact hk part d' hpart

lemma gives_call (f : Bytes → Bytes) (h : d.Holds content) : Gives (call f d) (f content) := by
  obtain ⟨d', hcopy, hd'⟩ := Data.gives_copy h
  rw [call, hcopy, ok_bind, Data.read_all hd', ok_bind]
  exact Data.gives_ofBytes _

lemma gives_callTwo (f : Bytes → Bytes → Bytes) (h : d.Holds content) (hother : other.Holds more) :
    Gives (callTwo f d other) (f content more) := by
  obtain ⟨d', hcopy, hd'⟩ := Data.gives_copy h
  obtain ⟨other', hcopy', hother'⟩ := Data.gives_copy hother
  rw [callTwo, hcopy, ok_bind, hcopy', ok_bind, Data.read_all hd', ok_bind, Data.read_all hother',
    ok_bind]
  exact Data.gives_ofBytes _

lemma verify_eq (f : Bytes → Bytes → Bytes → Bool) {cert : Data} {certBytes : Bytes}
    (h : d.Holds content) (hother : other.Holds more) (hcert : cert.Holds certBytes) :
    verify f d other cert = .ok (f content more certBytes) := by
  obtain ⟨d', hcopy, hd'⟩ := Data.gives_copy h
  obtain ⟨other', hcopy', hother'⟩ := Data.gives_copy hother
  obtain ⟨cert', hcopy'', hcert'⟩ := Data.gives_copy hcert
  rw [verify, hcopy, ok_bind, hcopy', ok_bind, hcopy'', ok_bind, Data.read_all hd', ok_bind,
    Data.read_all hother', ok_bind, Data.read_all hcert', ok_bind]

end Steps

section Stages
variable {x : Attempt} {β : Type} {plainCert aesKey randomChallenge clientSecret saltedPin : Data}
  {cert text : Bytes}

lemma stage1_bind {k : Data × Data → EStateM Halt World β} {f : Bytes → EStateM Stop World β}
    (hk : ∀ (saltedPin plainCert : Data) text, saltedPin.Holds (x.salt ++ x.pin) →
      plainCert.Holds text → k (saltedPin, plainCert) = lift (f text)) :
    (stage1 x >>= k) = lift (Pairing.stage1 x >>= f) := by
  simp only [stage1, Pairing.stage1, bind_assoc, pure_bind]
  refine inBuffer_bind (Data.gives_ofRandom _) fun salt hsalt => ?_
  refine inBuffer_bind (Data.gives_ofBytes _) fun pin hpin => ?_
  refine inBuffer_bind (Data.gives_append hsalt hpin) fun saltedPin hsaltedPin => ?_
  rw [urlText_bind hsalt]
  refine inBuffer_bind (Data.gives_ofBytes _) fun certData hcertData => ?_
  rw [urlText_bind hcertData]
  refine lift_bind fun data => lift_bind fun result => ?_
  exact inBuffer_bind (Data.gives_ofBytes _) fun plainCert hplainCert =>
    hk saltedPin plainCert result hsaltedPin hplainCert

lemma stage2_bind {k : Data × Data × Bytes → EStateM Halt World β}
    {f : Bytes → EStateM Stop World β} (hsaltedPin : saltedPin.Holds (x.salt ++ x.pin))
    (hk : ∀ (aesKey randomChallenge : Data) text, aesKey.Holds x.aesKey →
      randomChallenge.Holds x.randomChallenge → k (aesKey, randomChallenge, text) = lift (f text)) :
    (stage2 x saltedPin >>= k) = lift (Pairing.stage2 x >>= f) := by
  simp only [stage2, Pairing.stage2, bind_assoc, pure_bind]
  refine inBuffer_bind (gives_call _ hsaltedPin) fun key hkey => ?_
  refine inBuffer_bind (Data.gives_copy hkey) fun aesKey haesKey => ?_
  refine inBuffer_bind (Data.gives_ofRandom _) fun randomChallenge hrandom => ?_
  refine inBuffer_bind (gives_callTwo _ hrandom haesKey) fun encrypted hencrypted => ?_
  rw [urlText_bind hencrypted]
  exact lift_bind fun data => lift_bind fun result => hk _ _ _ haesKey hrandom

lemma stage3_bind {k : Data × Bytes → EStateM Halt World β} {f : Bytes → EStateM Stop World β}
    (haesKey : aesKey.Holds x.aesKey) (response : Bytes)
    (hk : ∀ (clientSecret : Data) text, clientSecret.Holds x.clientSecret →
      k (clientSecret, text) = lift (f text)) :
    (stage3 x aesKey response >>= k) = lift (Pairing.stage3 x response >>= f) := by
  simp only [stage3, Pairing.stage3, bind_assoc, pure_bind]
  refine inBuffer_bind (Data.gives_ofBytes _) fun hexResp hhexResp => ?_
  refine inBuffer_bind (Data.gives_hexToBytes hhexResp) fun encrypted hencrypted => ?_
  refine inBuffer_bind (gives_callTwo _ hencrypted haesKey) fun decrypted hdecrypted => ?_
  refine subdata_bind hdecrypted fun response _ _ => ?_
  refine subdata_bind hdecrypted fun challenge serverChallenge hchallenge => ?_
  refine inBuffer_bind (Data.gives_ofRandom _) fun clientSecret hsecret => ?_
  refine inBuffer_bind (Data.gives_ofBytes _) fun certData hcertData => ?_
  refine inBuffer_bind (gives_call _ hcertData) fun signature hsignature => ?_
  refine inBuffer_bind (Data.gives_append hchallenge hsignature) fun signed hsigned => ?_
  refine inBuffer_bind (Data.gives_append hsigned hsecret) fun input hinput => ?_
  refine inBuffer_bind (gives_call _ hinput) fun hash hhash => ?_
  refine inBuffer_bind (Data.gives_copy hhash) fun hash hhash => ?_
  refine inBuffer_bind (gives_callTwo _ hhash haesKey) fun encrypted hencrypted => ?_
  rw [urlText_bind hencrypted]
  exact lift_bind fun data => lift_bind fun result => hk _ _ hsecret

lemma stage4_eq (hcert : plainCert.Holds cert) (hrandom : randomChallenge.Holds x.randomChallenge)
    (hsecret : clientSecret.Holds x.clientSecret) (pairingSecret : Bytes) :
    stage4 x plainCert randomChallenge clientSecret pairingSecret =
      lift (Pairing.stage4 x cert pairingSecret) := by
  unfold stage4 Pairing.stage4
  refine inBuffer_bind (Data.gives_ofBytes _) fun hexResp hhexResp => ?_
  refine inBuffer_bind (Data.gives_hexToBytes hhexResp) fun secretResp hsecretResp => ?_
  refine subdata_bind hsecretResp fun secret serverSecret hserverSecret => ?_
  refine subdata_bind hsecretResp fun signature serverSignature hserverSignature => ?_
  refine inBuffer_bind (Data.gives_hexToBytes hcert) fun hostCert hhostCert => ?_
  rw [verify_eq _ hserverSecret hserverSignature hhostCert, inBuffer_ok]
  refine lift_bind fun _ => ?_
  refine inBuffer_bind (Data.gives_hexToBytes hcert) fun hostCert hhostCert => ?_
  refine inBuffer_bind (gives_call _ hhostCert) fun signature hsignature => ?_
  refine inBuffer_bind (Data.gives_append hrandom hsignature) fun signed hsigned => ?_
  refine inBuffer_bind (Data.gives_append hsigned hserverSecret) fun input hinput => ?_
  refine inBuffer_bind (gives_call _ hinput) fun hash hhash => ?_
  refine inBuffer_bind (Data.gives_copy hhash) fun hash hhash => ?_
  refine inBuffer_bind (Data.gives_ofBytes _) fun keyData hkeyData => ?_
  refine inBuffer_bind (gives_callTwo _ hsecret hkeyData) fun signature hsignature => ?_
  refine inBuffer_bind (Data.gives_append hsecret hsignature) fun pairing hpairing => ?_
  rw [urlText_bind hpairing]
  exact lift_bind fun _ => rfl

lemma stages_eq (x : Attempt) : stages x = lift (Pairing.stages x) := by
  unfold stages Pairing.stages
  refine stage1_bind fun saltedPin plainCert cert hsaltedPin hcert => ?_
  refine stage2_bind hsaltedPin fun aesKey randomChallenge response haesKey hrandom => ?_
  refine stage3_bind haesKey response fun clientSecret secret hsecret => ?_
  dsimp only
  rw [stage4_eq hcert hrandom hsecret]
  exact lift_bind fun _ => rfl

end Stages

/-- Over buffers a pairing ends as it does over plain bytes. -/
theorem gsPair_eq (x : Attempt) (paired : Bool) :
    gsPair x paired = some (Pairing.gsPair x paired) := by
  unfold gsPair Pairing.gsPair
  split_ifs
  · rfl
  · rfl
  · rw [stages_eq, lift]
    rcases Pairing.stages x { paired } with ⟨⟨⟩, w⟩ | ⟨_ | ret, w⟩ <;> rfl

/-! ## What ends the process -/

/-- An accepted answer with too few digits for the parts that are cut out of it. -/
inductive TooShort (x : Attempt) : Prop
  | response (hquiet : x.cancelledAt 3 = false) (hcert : x.Accepted .getServerCert)
      (hchallenge : x.Accepted .clientChallenge)
      (hshort : (x.textOf .clientChallenge (ascii "challengeresponse")).length <
        2 * (x.hashLength + 16))
  | secret (hquiet : x.cancelledAt 5 = false) (hcert : x.Accepted .getServerCert)
      (hchallenge : x.Accepted .clientChallenge) (hresp : x.Accepted .serverChallengeResp)
      (hlong : 2 * (x.hashLength + 16) ≤
        (x.textOf .clientChallenge (ascii "challengeresponse")).length)
      (hshort : (x.textOf .serverChallengeResp (ascii "pairingsecret")).length < 2 * (16 + 256))

lemma cutShort_iff {x : Attempt}
    (haes : ∀ data key, (x.crypto.aesDecrypt data key).length = data.length) :
    CutShort x ↔ TooShort x := by
  have hresponse : x.decryptedResponse.length =
      (x.textOf .clientChallenge (ascii "challengeresponse")).length / 2 := by
    rw [Attempt.decryptedResponse, haes, Data.length_hexToBytes]
  have hsecret : x.serverSecretResp.length =
      (x.textOf .serverChallengeResp (ascii "pairingsecret")).length / 2 := by
    rw [Attempt.serverSecretResp, Data.length_hexToBytes]
  constructor
  · rintro (⟨hquiet, hcert, hchallenge, hshort⟩ | ⟨hquiet, hcert, hchallenge, hresp, hlong, hshort⟩)
    · exact .response hquiet hcert hchallenge (by omega)
    · exact .secret hquiet hcert hchallenge hresp (by omega) (by omega)
  · rintro (⟨hquiet, hcert, hchallenge, hshort⟩ | ⟨hquiet, hcert, hchallenge, hresp, hlong, hshort⟩)
    · exact .response hquiet hcert hchallenge (by omega)
    · exact .secret hquiet hcert hchallenge hresp (by omega) (by omega)

/-- A call returns a code unless its stages exit. -/
lemma returns_iff (x : Attempt) (paired : Bool) :
    (∃ ret w, Pairing.gsPair x paired = (some ret, w)) ↔
      ¬(paired = false ∧ x.currentGame = 0 ∧ CutShort x) := by
  unfold Pairing.gsPair
  split_ifs with hpaired hgame
  · exact iff_of_true ⟨_, _, rfl⟩ fun h => absurd (hpaired.symm.trans h.1) (by decide)
  · exact iff_of_true ⟨_, _, rfl⟩ fun h => hgame h.2.1
  · obtain rfl : paired = false := by simpa using hpaired
    have hgame : x.currentGame = 0 := not_not.mp hgame
    constructor
    · rintro ⟨ret, w, hreturned⟩ ⟨-, -, hcut⟩
      obtain ⟨t, hexited⟩ := exists_exited_of_cutShort hcut
      rw [hexited] at hreturned
      cases hreturned
    · intro hlong
      rcases hstages : Pairing.stages x { paired := false } with ⟨⟨⟩, w⟩ | ⟨_ | ret, w⟩
      · exact ⟨_, _, rfl⟩
      · exact absurd ⟨rfl, hgame, stages_exited hstages⟩ hlong
      · exact ⟨_, _, rfl⟩

/-- **No buffer is left, and a call comes back with a code unless an answer is too short.** -/
theorem pairing_survives (x : Attempt)
    (haes : ∀ data key, (x.crypto.aesDecrypt data key).length = data.length) (paired : Bool) :
    (∃ outcome, gsPair x paired = some outcome) ∧
      ((∃ ret w, gsPair x paired = some (some ret, w)) ↔
        ¬(paired = false ∧ x.currentGame = 0 ∧ TooShort x)) := by
  refine ⟨⟨_, gsPair_eq x paired⟩, ?_⟩
  rw [← cutShort_iff haes, ← returns_iff, gsPair_eq]
  simp only [Option.some.injEq]

lemma length_toyCrypto_aesDecrypt (data key : Bytes) :
    (toyCrypto.aesDecrypt data key).length = data.length := List.length_map _

theorem pairing_survives_meeting :
    ∃ ret w, gsPair (meeting (ascii "1234")) false = some (some ret, w) := by
  refine (pairing_survives (meeting (ascii "1234")) length_toyCrypto_aesDecrypt false).2.mpr ?_
  rintro ⟨-, -, ⟨-, -, -, hshort⟩ | ⟨-, -, -, -, -, hshort⟩⟩
  · exact absurd hshort (by decide +kernel)
  · exact absurd hshort (by decide +kernel)

/-- A host that answers the challenge with a single digit. -/
def shortAnswer : Attempt :=
  { meeting (ascii "1234") with
    expat := fun _ => some (parsed ("challengeresponse", ascii "0")) }

theorem pairing_exits :
    (∀ data key, (shortAnswer.crypto.aesDecrypt data key).length = data.length) ∧
      (gsPair shortAnswer false).map Prod.fst = some none := by
  refine ⟨length_toyCrypto_aesDecrypt, ?_⟩
  rw [gsPair_eq]
  decide +kernel

end ArtemisSwitch.PairingBuffers

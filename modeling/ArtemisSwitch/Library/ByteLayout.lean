import Mathlib.Algebra.Order.Group.Nat
import Mathlib.Data.Nat.ModEq
import Mathlib.Tactic.Common

/-!
# Images made of bytes

Pieces of a list at given positions, what is written over them, little endian numbers, and the
blocks that a hash table covers.
-/

namespace ByteLayout

variable {α : Type*}

/-! ## Pieces -/

/-- `n` elements from `off` on, or what is left of them. -/
def slice (b : List α) (off n : ℕ) : List α := (b.drop off).take n

variable {a b c : List α} {off n m : ℕ}

lemma length_slice : (slice b off n).length = min n (b.length - off) := by
  rw [slice, List.length_take, List.length_drop]

lemma length_slice_of_le (h : off + n ≤ b.length) : (slice b off n).length = n := by
  rw [length_slice]
  omega

lemma slice_append_left (h : off + n ≤ a.length) : slice (a ++ b) off n = slice a off n := by
  unfold slice
  rw [List.drop_append_of_le_length (by omega), List.take_append_of_le_length]
  rw [List.length_drop]
  omega

lemma slice_append_right : slice (a ++ b) (a.length + off) n = slice b off n := by
  unfold slice
  rw [List.drop_append, List.drop_eq_nil_of_le (by omega), Nat.add_sub_cancel_left, List.nil_append]

lemma slice_append_of_length (h : a.length = m) : slice (a ++ b) (m + off) n = slice b off n := by
  rw [← h, slice_append_right]

/-- A piece in the middle. -/
lemma slice_middle (ha : a.length = off) (hb : b.length = n) : slice (a ++ (b ++ c)) off n = b := by
  subst ha hb
  have hzero := @slice_append_right _ a (b ++ c) 0 b.length
  rw [Nat.add_zero] at hzero
  rw [hzero, slice, List.drop_zero, List.take_left]

lemma slice_zero (h : b.length = n) : slice b 0 n = b := by
  rw [slice, List.drop_zero, List.take_of_length_le h.le]

lemma slice_front (h : a.length = n) : slice (a ++ b) 0 n = a := by
  rw [slice_append_left (by omega), slice_zero h]

lemma slice_suffix (h : a.length = off) (hb : b.length = n) : slice (a ++ b) off n = b := by
  have hmiddle := slice_middle (c := []) h hb
  rwa [List.append_nil] at hmiddle

/-- A piece of a piece. -/
lemma slice_slice {i j : ℕ} (h : i + j ≤ n) : slice (slice b off n) i j = slice b (off + i) j := by
  unfold slice
  rw [List.drop_take, List.take_take, List.drop_drop, Nat.min_eq_left (by omega)]

lemma flatMap_split {β : Type*} {l : List β} (f : β → List α) {i : ℕ} (h : i < l.length) :
    l.flatMap f = (l.take i).flatMap f ++ (f l[i] ++ (l.drop (i + 1)).flatMap f) := by
  conv_lhs => rw [← List.take_append_drop i l, List.drop_eq_getElem_cons h]
  rw [List.flatMap_append, List.flatMap_cons]

/-- A part of a concatenation lies behind the parts before it. -/
lemma slice_flatMap {β : Type*} {l : List β} {f : β → List α} {i : ℕ} (h : i < l.length) :
    slice (l.flatMap f) ((l.take i).flatMap f).length (f l[i]).length = f l[i] := by
  rw [flatMap_split f h]
  exact slice_middle rfl rfl

lemma flatMap_take_le {β : Type*} {l : List β} (f : β → List α) {i : ℕ} (h : i < l.length) :
    ((l.take i).flatMap f).length + (f l[i]).length ≤ (l.flatMap f).length := by
  rw [flatMap_split f h, List.length_append, List.length_append]
  omega

lemma length_flatMap_of_length {β : Type*} {l : List β} {f : β → List α}
    (h : ∀ x ∈ l, (f x).length = n) : (l.flatMap f).length = n * l.length := by
  induction l with
  | nil => simp
  | cons x l ih =>
    have hrest := ih fun y hy => h y (List.mem_cons_of_mem x hy)
    rw [List.flatMap_cons, List.length_append, h x (by simp), hrest, List.length_cons,
      Nat.mul_succ, Nat.add_comm]

/-- The `i`-th row of a table with rows of one length. -/
lemma slice_rows {β : Type*} {l : List β} {f : β → List α} {i : ℕ} (h : i < l.length)
    (hrow : ∀ x ∈ l, (f x).length = n) : slice (l.flatMap f) (n * i) n = f l[i] := by
  have hfront : ((l.take i).flatMap f).length = n * i := by
    rw [length_flatMap_of_length fun x hx => hrow x (List.mem_of_mem_take hx), List.length_take,
      Nat.min_eq_left h.le]
  have hpart := slice_flatMap (f := f) h
  rwa [hfront, hrow _ (List.getElem_mem h)] at hpart

/-! ## Writing over an image -/

section Overwrite
variable [Zero α] {data : List α}

/-- The image grows by zeros where the data does not fit. -/
def overwrite (b : List α) (off : ℕ) (data : List α) : List α :=
  (b ++ List.replicate (off - b.length) 0).take off ++ (data ++ b.drop (off + data.length))

lemma length_before :
    ((b ++ List.replicate (off - b.length) (0 : α)).take off).length = off := by
  rw [List.length_take, List.length_append, List.length_replicate]
  omega

lemma length_overwrite : (overwrite b off data).length = max b.length (off + data.length) := by
  unfold overwrite
  rw [List.length_append, length_before, List.length_append, List.length_drop]
  omega

lemma overwrite_end (h : b.length = off) : overwrite b off data = b ++ data := by
  unfold overwrite
  rw [h, Nat.sub_self, List.replicate_zero, List.append_nil, List.take_of_length_le h.le,
    List.drop_eq_nil_of_le (by omega), List.append_nil]

lemma overwrite_front (h : a.length = data.length) : overwrite (a ++ b) 0 data = data ++ b := by
  unfold overwrite
  rw [List.take_zero, List.nil_append, Nat.zero_add, ← h, List.drop_left]

lemma slice_overwrite (h : data.length = n) : slice (overwrite b off data) off n = data :=
  slice_middle length_before h

/-- What lies before the data stays. -/
lemma slice_overwrite_before (h : m + n ≤ off) (hb : m + n ≤ b.length) :
    slice (overwrite b off data) m n = slice b m n := by
  unfold overwrite
  rw [slice_append_left (by rw [length_before]; exact h)]
  have htake : ∀ l : List α, slice (l.take off) m n = slice l m n := by
    intro l
    unfold slice
    rw [List.drop_take, List.take_take, Nat.min_eq_left (by omega)]
  rw [htake, slice_append_left hb]

/-- Several pieces of data, one after the other. -/
def overwriteAll (b : List α) (items : List (ℕ × List α)) : List α :=
  items.foldl (fun b item => overwrite b item.1 item.2) b

lemma overwriteAll_append {items more : List (ℕ × List α)} :
    overwriteAll b (items ++ more) = overwriteAll (overwriteAll b items) more :=
  List.foldl_append

/-- What lies before all the data stays. -/
lemma slice_overwriteAll_before {items : List (ℕ × List α)} (hb : m + n ≤ b.length)
    (h : ∀ item ∈ items, m + n ≤ item.1) : slice (overwriteAll b items) m n = slice b m n := by
  induction items generalizing b with
  | nil => rfl
  | cons item items ih =>
    have hgrown : m + n ≤ (overwrite b item.1 item.2).length := by
      rw [length_overwrite]
      omega
    have hrest := ih hgrown fun x hx => h x (List.mem_cons_of_mem item hx)
    exact hrest.trans (slice_overwrite_before (h item (by simp)) hb)

/-- Data stays that lies before all that is written later. -/
lemma slice_overwriteAll {items later : List (ℕ × List α)} {item : ℕ × List α}
    (h : ∀ x ∈ later, item.1 + item.2.length ≤ x.1) :
    slice (overwriteAll b (items ++ item :: later)) item.1 item.2.length = item.2 := by
  have hfits : item.1 + item.2.length ≤
      (overwrite (overwriteAll b items) item.1 item.2).length := by
    rw [length_overwrite]
    omega
  rw [overwriteAll_append]
  exact (slice_overwriteAll_before hfits h).trans (slice_overwrite rfl)

/-- Data that lies in the order of the writing stays. -/
lemma slice_overwriteAll_of_pairwise {items : List (ℕ × List α)} {item : ℕ × List α}
    (h : items.Pairwise fun x y => x.1 + x.2.length ≤ y.1) (hi : item ∈ items) :
    slice (overwriteAll b items) item.1 item.2.length = item.2 := by
  obtain ⟨before, later, rfl⟩ := List.append_of_mem hi
  exact slice_overwriteAll (List.pairwise_cons.mp (List.pairwise_append.mp h).2.1).1

lemma length_overwriteAll_of_le {items : List (ℕ × List α)}
    (h : ∀ item ∈ items, item.1 + item.2.length ≤ b.length) :
    (overwriteAll b items).length = b.length := by
  induction items generalizing b with
  | nil => rfl
  | cons item items ih =>
    have hsame : (overwrite b item.1 item.2).length = b.length := by
      rw [length_overwrite, Nat.max_eq_left (h item (by simp))]
    refine Eq.trans (ih fun x hx => ?_) hsame
    rw [hsame]
    exact h x (List.mem_cons_of_mem item hx)

lemma le_length_overwriteAll {items : List (ℕ × List α)} :
    b.length ≤ (overwriteAll b items).length ∧
      ∀ item ∈ items, item.1 + item.2.length ≤ (overwriteAll b items).length := by
  induction items generalizing b with
  | nil => exact ⟨le_rfl, fun item hi => absurd hi List.not_mem_nil⟩
  | cons item items ih =>
    obtain ⟨hgrown, hrest⟩ := ih (b := overwrite b item.1 item.2)
    rw [length_overwrite] at hgrown
    refine ⟨by unfold overwriteAll at hgrown ⊢; rw [List.foldl_cons]; omega, fun x hx => ?_⟩
    obtain rfl | hmem := List.mem_cons.mp hx
    · unfold overwriteAll at hgrown ⊢
      rw [List.foldl_cons]
      omega
    · exact hrest x hmem

end Overwrite

/-! ## Little endian numbers -/

/-- The low `w` bytes of `n`. -/
def le : ℕ → ℕ → List UInt8
  | 0, _ => []
  | w + 1, n => UInt8.ofNat (n % 256) :: le w (n / 256)

def ofLe : List UInt8 → ℕ
  | [] => 0
  | c :: s => c.toNat + 256 * ofLe s

@[simp] lemma length_le (w n : ℕ) : (le w n).length = w := by
  induction w generalizing n with
  | zero => rfl
  | succ w ih => rw [le, List.length_cons, ih]

lemma ofLe_le (w n : ℕ) : ofLe (le w n) = n % 256 ^ w := by
  induction w generalizing n with
  | zero => rw [le, ofLe, pow_zero, Nat.mod_one]
  | succ w ih =>
    have hbyte : (UInt8.ofNat (n % 256)).toNat = n % 256 := by
      rw [UInt8.toNat_ofNat']
      omega
    rw [le, ofLe, ih, hbyte, pow_succ', Nat.mod_mul]

lemma ofLe_le_of_lt {w n : ℕ} (h : n < 256 ^ w) : ofLe (le w n) = n := by
  rw [ofLe_le, Nat.mod_eq_of_lt h]

/-- The number in `w` bytes at `off`. -/
def field (b : List UInt8) (off w : ℕ) : ℕ := ofLe (slice b off w)

/-- Numbers of given widths, one behind the other. -/
def packed (fields : List (ℕ × ℕ)) : List UInt8 := fields.flatMap fun f => le f.1 f.2

lemma length_packed (fields : List (ℕ × ℕ)) :
    (packed fields).length = (fields.map Prod.fst).sum := by
  rw [packed, List.length_flatMap]
  simp only [length_le]

/-- A field is read behind the widths of the fields before it. -/
lemma field_packed {b rest : List UInt8} {fields : List (ℕ × ℕ)}
    (hb : slice b off (packed fields ++ rest).length = packed fields ++ rest) {i : ℕ}
    (hi : i < fields.length) (hfit : fields[i].2 < 256 ^ fields[i].1) :
    field b (off + ((fields.take i).map Prod.fst).sum) fields[i].1 = fields[i].2 := by
  have hplace := slice_flatMap (f := fun f : ℕ × ℕ => le f.1 f.2) hi
  have hend := flatMap_take_le (fun f : ℕ × ℕ => le f.1 f.2) hi
  rw [length_le] at hplace hend
  have hbefore : ((fields.take i).flatMap fun f => le f.1 f.2).length =
      ((fields.take i).map Prod.fst).sum := length_packed (fields.take i)
  rw [hbefore] at hplace hend
  have hall : ((fields.take i).map Prod.fst).sum + fields[i].1 ≤
      (packed fields ++ rest).length := by
    rw [List.length_append]
    exact hend.trans (Nat.le_add_right _ _)
  rw [field, ← slice_slice hall, hb, packed, slice_append_left hend, hplace, ofLe_le_of_lt hfit]

/-! ## Blocks -/

variable {data : List α}

/-- The data in blocks of `n`, the last of which may be shorter. -/
def blocks (n : ℕ) (data : List α) : List (List α) :=
  (List.range ((data.length + n - 1) / n)).map fun k => slice data (k * n) n

lemma blocks_nil (hn : 0 < n) : blocks n ([] : List α) = [] := by
  have hcount : (([] : List α).length + n - 1) / n = 0 := Nat.div_eq_of_lt (by simp; omega)
  rw [blocks, hcount, List.range_zero, List.map_nil]

lemma blocks_cons (hn : 0 < n) (h : data ≠ []) :
    blocks n data = data.take n :: blocks n (data.drop n) := by
  have hpos : 0 < data.length := List.length_pos_iff.mpr h
  have hcount : (data.length + n - 1) / n = ((data.drop n).length + n - 1) / n + 1 := by
    rw [List.length_drop]
    by_cases hle : n ≤ data.length
    · rw [show data.length + n - 1 = (data.length - n + n - 1) + n by omega,
        Nat.add_div_right _ hn]
    · have hsmall : (data.length - n + n - 1) / n = 0 := Nat.div_eq_of_lt (by omega)
      have hone : (data.length + n - 1) / n = 1 :=
        Nat.div_eq_of_lt_le (by omega) (by omega)
      rw [hsmall, hone]
  unfold blocks
  rw [hcount, List.range_succ_eq_map, List.map_cons, List.map_map]
  congr 1
  · rw [Nat.zero_mul, slice, List.drop_zero]
  · apply List.map_congr_left
    intro k _
    simp only [Function.comp_apply, slice, List.drop_drop]
    congr 2
    rw [Nat.succ_mul, Nat.add_comm]

lemma length_blocks : (blocks n data).length = (data.length + n - 1) / n := by
  rw [blocks, List.length_map, List.length_range]

end ByteLayout

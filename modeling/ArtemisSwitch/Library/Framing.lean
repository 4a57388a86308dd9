import Mathlib.Algebra.GroupWithZero.Nat
import Mathlib.Data.List.Basic
import Mathlib.Tactic.Common

/-!
# Streams of length-prefixed frames

A frame is a header of fixed length that declares how many payload symbols
follow.  `Format.scan` looks at the front of a receive buffer; `residue` and
`whole` describe, from the frame sizes alone, what a prefix of the stream holds.
-/

namespace Framing

/-- A framing by declared lengths over an arbitrary alphabet. -/
structure Format (β : Type*) where
  header : ℕ
  limit : ℕ
  declared : List β → ℕ
  header_pos : 0 < header
  declared_append : ∀ b c, header ≤ b.length → declared (b ++ c) = declared b

/-- What the front of a receive buffer shows. -/
inductive Scan (β : Type*)
  | short
  | oversized
  | frame (unit rest : List β)

section Scanning

variable {β : Type*} (F : Format β)

def Format.scan (b : List β) : Scan β :=
  if b.length < F.header then .short
  else if F.limit < F.declared b then .oversized
  else if b.length < F.header + F.declared b then .short
  else .frame (b.take (F.header + F.declared b)) (b.drop (F.header + F.declared b))

/-- One complete frame whose payload is within the limit. -/
structure Format.IsFrame (u : List β) : Prop where
  length_eq : u.length = F.header + F.declared u
  within : F.declared u ≤ F.limit

variable {F} {u b : List β}

lemma Format.IsFrame.length_pos (hu : F.IsFrame u) : 0 < u.length := by
  have := hu.length_eq
  have := F.header_pos
  omega

lemma scan_of_length_lt (h : b.length < F.header) : F.scan b = .short := by
  rw [Format.scan, if_pos h]

lemma scan_of_header {n : ℕ} (h : F.header ≤ b.length) (hn : F.declared b = n) :
    F.scan b = if F.limit < n then .oversized
      else if b.length < F.header + n then .short
      else .frame (b.take (F.header + n)) (b.drop (F.header + n)) := by
  rw [Format.scan, if_neg (by omega), hn]

lemma scan_nil : F.scan [] = .short := scan_of_length_lt F.header_pos

theorem scan_frame_append (hu : F.IsFrame u) (r : List β) : F.scan (u ++ r) = .frame u r := by
  have hl := hu.length_eq
  have hd : F.declared (u ++ r) = F.declared u := F.declared_append u r (by omega)
  have hw := hu.within
  rw [Format.scan, hd, if_neg (by simp; omega), if_neg (by omega), if_neg (by simp; omega), ← hl]
  simp

/-- A proper prefix of a frame asks for more bytes, never more and never less. -/
theorem scan_prefix_short (hu : F.IsFrame u) (hp : b <+: u) (hlt : b.length < u.length) :
    F.scan b = .short := by
  obtain ⟨c, rfl⟩ := hp
  by_cases hh : b.length < F.header
  · exact scan_of_length_lt hh
  · have hd := F.declared_append b c (by omega)
    have hl := hu.length_eq
    have hw := hu.within
    rw [hd] at hl hw
    rw [Format.scan, if_neg hh, if_neg (by omega), if_pos (by omega)]

theorem scan_eq_frame {r : List β} (h : F.scan b = .frame u r) : b = u ++ r ∧ F.IsFrame u := by
  unfold Format.scan at h
  split_ifs at h with h1 h2 h3
  injection h with hu hr
  have hb : b = u ++ r := by rw [← hu, ← hr, List.take_append_drop]
  have hlen : u.length = F.header + F.declared b := by
    rw [← hu, List.length_take]
    omega
  have hd : F.declared b = F.declared u := by
    rw [hb]
    exact F.declared_append u r (by omega)
  exact ⟨hb, by omega, by omega⟩

theorem scan_eq_oversized :
    F.scan b = .oversized ↔ F.header ≤ b.length ∧ F.limit < F.declared b := by
  unfold Format.scan
  split_ifs <;> simp <;> omega

/-- A buffer that holds a prefix of a stream of frames shows exactly the next frame,
once all of it has arrived. -/
theorem scan_stream {us : List (List β)} (hu : F.IsFrame u) (hp : b <+: u ++ us.flatten) :
    (b.length < u.length ∧ F.scan b = .short) ∨
      ∃ r, b = u ++ r ∧ r <+: us.flatten ∧ F.scan b = .frame u r := by
  rcases Nat.lt_or_ge b.length u.length with hlt | hge
  · have hbu : b <+: u := List.prefix_of_prefix_length_le hp (List.prefix_append _ _) (by omega)
    exact Or.inl ⟨hlt, scan_prefix_short hu hbu hlt⟩
  · obtain ⟨r, rfl⟩ : u <+: b :=
      List.prefix_of_prefix_length_le (List.prefix_append _ _) hp hge
    exact Or.inr ⟨r, rfl, (List.prefix_append_right_inj u).mp hp, scan_frame_append hu r⟩

end Scanning

/-! ## What a prefix of the stream holds -/

/-- Bytes past the last complete item among the first `n`, the items having these sizes. -/
def residue : List ℕ → ℕ → ℕ
  | [], n => n
  | s :: ss, n => if s ≤ n then residue ss (n - s) else n

/-- The number of leading items that the first `n` bytes hold completely. -/
def whole : List ℕ → ℕ → ℕ
  | [], _ => 0
  | s :: ss, n => if s ≤ n then whole ss (n - s) + 1 else 0

variable {s n m : ℕ} {ss : List ℕ}

lemma residue_add (s n : ℕ) (ss : List ℕ) : residue (s :: ss) (s + n) = residue ss n := by
  simp [residue]

lemma residue_of_lt (h : n < s) : residue (s :: ss) n = n := by
  simp [residue, Nat.not_le.mpr h]

lemma whole_add (s n : ℕ) (ss : List ℕ) : whole (s :: ss) (s + n) = whole ss n + 1 := by
  simp [whole]

lemma whole_of_lt (h : n < s) : whole (s :: ss) n = 0 := by
  simp [whole, Nat.not_le.mpr h]

lemma whole_append (ss ts : List ℕ) (n : ℕ) :
    whole (ss ++ ts) (ss.sum + n) = ss.length + whole ts n := by
  induction ss with
  | nil => simp
  | cons s ss ih =>
    rw [List.cons_append, List.sum_cons, Nat.add_assoc, whole_add, ih, List.length_cons]
    omega

/-- All the bytes hold all the items. -/
lemma whole_sum (ss : List ℕ) : whole ss ss.sum = ss.length := by
  have h := whole_append ss [] 0
  rw [List.append_nil, Nat.add_zero] at h
  exact h

/-! ## A reader that drops what it cannot hold and goes on -/

section Reader

variable {β : Type*} (F : Format β) (capacity : ℕ) (refused : List β → List β)

/-- The buffer after a chunk has been offered; one that does not fit is lost. -/
def offered (b c : List β) : List β :=
  if b.length + c.length ≤ capacity then b ++ c else refused b

/-- What is left of a buffer that shows no frame. -/
def Format.kept (b : List β) : List β :=
  match F.scan b with
  | .oversized => []
  | _ => b

/-- The frames that are found in a buffer and the chunks that follow it. -/
def Format.found (b : List β) (chunks : List (List β)) : List (List β) :=
  match _h : F.scan b with
  | .frame u r => u :: Format.found r chunks
  | _ =>
    match chunks with
    | [] => []
    | c :: cs => Format.found (offered capacity refused (F.kept b) c) cs
termination_by (chunks.length, b.length)
decreasing_by
  · obtain ⟨rfl, hu⟩ := scan_eq_frame _h
    apply Prod.Lex.right
    have := hu.length_pos
    rw [List.length_append]
    omega
  · exact Prod.Lex.left _ _ (by simp)

variable {F capacity refused} {u r b c : List β} {cs : List (List β)}

lemma found_frame (h : F.scan b = .frame u r) :
    F.found capacity refused b cs = u :: F.found capacity refused r cs := by
  rw [Format.found.eq_def]
  split
  · rename_i u' r' h'
    obtain ⟨rfl, rfl⟩ := Scan.frame.inj (h.symm.trans h')
    rfl
  · rename_i hne
    exact absurd h (hne u r)

lemma found_nil (h : ∀ u r, F.scan b ≠ .frame u r) : F.found capacity refused b [] = [] := by
  rw [Format.found.eq_def]
  split
  · rename_i u r h'
    exact absurd h' (h u r)
  · rfl

lemma found_cons (h : ∀ u r, F.scan b ≠ .frame u r) :
    F.found capacity refused b (c :: cs) =
      F.found capacity refused (offered capacity refused (F.kept b) c) cs := by
  rw [Format.found]
  split
  · rename_i u r h'
    exact absurd h' (h u r)
  · rfl

lemma kept_of_short (h : F.scan b = .short) : F.kept b = b := by
  rw [Format.kept, h]

lemma kept_of_oversized (h : F.scan b = .oversized) : F.kept b = [] := by
  rw [Format.kept, h]

lemma scan_kept (h : ∀ u r, F.scan b ≠ .frame u r) : F.scan (F.kept b) = .short := by
  rcases hscan : F.scan b with _ | _ | ⟨u, r⟩
  · rw [kept_of_short hscan, hscan]
  · rw [kept_of_oversized hscan, scan_nil]
  · exact absurd hscan (h u r)

lemma offered_of_le (h : b.length + c.length ≤ capacity) : offered capacity refused b c = b ++ c :=
  if_pos h

lemma offered_of_lt (h : capacity < b.length + c.length) :
    offered capacity refused b c = refused b :=
  if_neg (Nat.not_le.mpr h)

/-- A buffer that shows no frame is as good as what is kept of it. -/
lemma found_kept (h : ∀ u r, F.scan b ≠ .frame u r) :
    F.found capacity refused (F.kept b) cs = F.found capacity refused b cs := by
  have hshort := scan_kept h
  have hkept : ∀ u r, F.scan (F.kept b) ≠ .frame u r := by simp [hshort]
  cases cs with
  | nil => rw [found_nil hkept, found_nil h]
  | cons c cs => rw [found_cons hkept, found_cons h, kept_of_short hshort]

/-- A header over the limit is forgotten with everything that stands behind it. -/
lemma found_oversized (h : F.scan b = .oversized) :
    F.found capacity refused b cs = F.found capacity refused [] cs := by
  rw [← found_kept (by simp [h]), kept_of_oversized h]

/-- Of a prefix of a stream of frames a reader with room enough finds the frames that are
complete. -/
theorem found_stream {us : List (List β)} (hu : ∀ u ∈ us, F.IsFrame u)
    (hroom : ∀ u ∈ us, ∀ c ∈ cs, u.length + c.length ≤ capacity)
    (hp : b ++ cs.flatten <+: us.flatten) :
    F.found capacity refused b cs =
      us.take (whole (us.map List.length) (b.length + cs.flatten.length)) := by
  induction cs generalizing us b with
  | nil =>
    induction us generalizing b with
    | nil =>
      obtain rfl : b = [] := by simpa using hp
      rw [found_nil (by simp [scan_nil])]
      rfl
    | cons u us ih =>
      rw [List.flatten_nil, List.append_nil] at hp
      rcases scan_stream (hu u (by simp)) hp with ⟨hlt, hscan⟩ | ⟨r, rfl, hr, hscan⟩
      · rw [found_nil (by simp [hscan]), List.map_cons, whole_of_lt (by simpa using hlt)]
        rfl
      · rw [found_frame hscan, ih (fun v hv => hu v (by simp [hv])) (by simp) (by simpa using hr),
          List.map_cons, List.length_append, Nat.add_assoc, whole_add, List.take_succ_cons]
  | cons c cs ihc =>
    induction us generalizing b with
    | nil =>
      obtain ⟨rfl, rfl, hcs⟩ : b = [] ∧ c = [] ∧ ∀ d ∈ cs, d = [] := by simpa using hp
      have hflat : cs.flatten = [] := List.flatten_eq_nil_iff.mpr hcs
      have hrest : F.found capacity refused [] cs = [] := by
        simpa using @ihc [] [] (by simp) (by simp) (by simp [hflat])
      rw [found_cons (by simp [scan_nil]), kept_of_short scan_nil, offered_of_le (by simp)]
      simpa using hrest
    | cons u us ih =>
      have hpre : b <+: u ++ us.flatten := (List.prefix_append _ _).trans hp
      rcases scan_stream (hu u (by simp)) hpre with ⟨hlt, hscan⟩ | ⟨r, rfl, hr, hscan⟩
      · have hfits : b.length + c.length ≤ capacity := by
          have := hroom u (by simp) c (by simp)
          omega
        rw [found_cons (by simp [hscan]), kept_of_short hscan, offered_of_le hfits,
          ihc hu (fun v hv d hd => hroom v hv d (by simp [hd])) (by simpa using hp),
          List.length_append, List.flatten_cons, List.length_append, Nat.add_assoc]
      · have htail : r ++ (c :: cs).flatten <+: us.flatten := by
          rw [List.flatten_cons, List.append_assoc] at hp
          exact (List.prefix_append_right_inj u).mp hp
        rw [found_frame hscan, ih (fun v hv => hu v (by simp [hv]))
            (fun v hv d hd => hroom v (by simp [hv]) d hd) htail,
          List.map_cons, List.length_append, Nat.add_assoc, whole_add, List.take_succ_cons]

end Reader

end Framing

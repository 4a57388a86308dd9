import ArtemisSwitch.HostRecord
import ArtemisSwitch.Library.SplitLoops

/-!
# What the diagnostic log keeps

`RotatingFileLog::sanitize` redacts a line that names a secret.  What stands in front of the first
equals sign of the line is kept, also where a colon comes in front of it.
-/

namespace ArtemisSwitch.Diagnostics
open HostAddress HostStore SplitLoops

def newline : UInt8 := 10

def equals : UInt8 := 61

def lowercase (value : Bytes) : Bytes := value.map tolower

def secretFields : List Bytes :=
  [ascii "privatekey", ascii "private key", ascii "presharedkey", ascii "preshared key",
    ascii "setupkey", ascii "setup key", ascii "authkey", ascii "auth key", ascii "passphrase",
    ascii "machineprivate", ascii "machine private", ascii "nodeprivate", ascii "node private",
    ascii "discoprivate", ascii "disco private", ascii "wireguard secret"]

def containsSecretField (line : Bytes) : Bool :=
  secretFields.any fun field => field <:+: lowercase line

/-- What is written for a line. -/
def sanitizeLine (line : Bytes) : Bytes :=
  if containsSecretField line then
    match find line equals 0 with
    | some place => line.take (place + 1) ++ ascii " <redacted>"
    | none => ascii "<redacted>"
  else line

/-- The loop over the lines of the message. -/
def sanitizeFrom (message : Bytes) (start : ℕ) (result : Bytes) : Bytes :=
  if start ≤ message.length then
    let line :=
      (message.drop start).take ((find message newline start).getD message.length - start)
    let result := result ++ sanitizeLine line
    match _h : find message newline start with
    | none => result
    | some stop => sanitizeFrom message (stop + 1) (result ++ [newline])
  else result
termination_by message.length + 1 - start
decreasing_by
  have hle := le_of_find _h
  omega

def sanitize (message : Bytes) : Bytes := sanitizeFrom message 0 []

/-! ## Two messages with different secrets -/

/-- A line of two messages.  In the one that names a secret the texts behind the separator
differ. -/
inductive LinePair
  | same (line : Bytes)
  | secret (front gap : Bytes) (sep : UInt8) (first second : Bytes)
  deriving DecidableEq, Repr

namespace LinePair

def left : LinePair → Bytes
  | same line => line
  | secret front gap sep first _ => front ++ gap ++ sep :: first

def right : LinePair → Bytes
  | same line => line
  | secret front gap sep _ second => front ++ gap ++ sep :: second

/-- The name ends where `front` does, and `sep` is the first separator behind it. -/
inductive WellFormed : LinePair → Prop
  | same {line : Bytes} (h : newline ∉ line) : WellFormed (same line)
  | secret {front gap : Bytes} {sep : UInt8} {first second : Bytes}
    (hname : containsSecretField front = true)
    (hfirst : containsSecretField front.dropLast = false)
    (hsep : sep = equals ∨ sep = colon) (hgap : equals ∉ gap ∧ colon ∉ gap)
    (hlines : newline ∉ front ∧ newline ∉ gap ∧ newline ∉ first ∧ newline ∉ second)
    (hsecrets : containsSecretField first = false ∧ containsSecretField second = false) :
    WellFormed (secret front gap sep first second)

/-- An equals sign comes first, or the two texts agree as far as their first one. -/
def Hidden : LinePair → Prop
  | same _ => True
  | secret front _ sep first second =>
    equals ∈ front ∨ sep = equals ∨ (equals ∉ first ∧ equals ∉ second) ∨
      ∃ start rest rest', equals ∉ start ∧ first = start ++ equals :: rest ∧
        second = start ++ equals :: rest'

end LinePair

def message (lines : List Bytes) : Bytes := [newline].intercalate lines

variable {line front gap secret result : Bytes} {lines : List Bytes} {p : LinePair}

/-! ## The loop goes over the lines -/

lemma sanitizeFrom_eq {text : Bytes} {start : ℕ} (h : start ≤ text.length) (result : Bytes) :
    sanitizeFrom text start result =
      result ++ message (((text.drop start).splitOn newline).map sanitizeLine) := by
  induction hn : text.length - start using Nat.strongRecOn generalizing start result with
  | ind n ih =>
    rw [sanitizeFrom, if_pos h]
    by_cases hmem : newline ∈ text.drop start
    · obtain ⟨line, behind, hdrop, hline⟩ := List.eq_append_cons_of_mem hmem
      have hlength := length_of_drop hdrop
      have hrest := ih (text.length - (start + line.length + 1)) (by omega) (by omega)
        (result ++ sanitizeLine line ++ [newline]) rfl
      rw [rest_of_drop hdrop] at hrest
      obtain ⟨next, lines, hlines⟩ :=
        List.exists_cons_of_ne_nil (List.splitOn_ne_nil newline behind)
      rw [find_eq_some hdrop hline, Option.getD_some, piece_of_drop hdrop, hdrop,
        List.splitOn_append_cons_self_of_not_mem hline, hlines]
      rw [hlines] at hrest
      dsimp only
      rw [hrest, message, message, List.map_cons, List.map_cons, List.map_cons,
        List.intercalate_cons_cons]
      simp only [List.append_assoc]
    · rw [find_eq_none hmem, Option.getD_none, last_of_drop, List.splitOn_eq_singleton hmem]
      dsimp only
      rw [message, List.map_singleton, List.intercalate_singleton]

/-- Each line is sanitised on its own. -/
theorem sanitize_message (h : ∀ line ∈ lines, newline ∉ line) :
    sanitize (message lines) = message (lines.map sanitizeLine) := by
  rw [sanitize, sanitizeFrom_eq (Nat.zero_le _), List.drop_zero, List.nil_append]
  cases lines with
  | nil => rfl
  | cons line lines =>
    have hsplit : (message (line :: lines)).splitOn newline = line :: lines :=
      List.splitOn_intercalate newline h (List.cons_ne_nil line lines)
    rw [hsplit]

lemma newline_notMem_sanitizeLine (h : newline ∉ line) : newline ∉ sanitizeLine line := by
  unfold sanitizeLine
  split_ifs
  · split
    · intro hmem
      rcases List.mem_append.mp hmem with hmem | hmem
      · exact h (List.mem_of_mem_take hmem)
      · exact absurd hmem (by decide)
    · decide
  · exact h

lemma sanitize_message_inj {lines' : List Bytes} (hlength : lines.length = lines'.length)
    (h : ∀ line ∈ lines, newline ∉ line) (h' : ∀ line ∈ lines', newline ∉ line) :
    sanitize (message lines) = sanitize (message lines') ↔
      lines.map sanitizeLine = lines'.map sanitizeLine := by
  rw [sanitize_message h, sanitize_message h']
  cases lines with
  | nil =>
    rw [List.eq_nil_of_length_eq_zero hlength.symm]
    exact iff_of_true rfl rfl
  | cons line lines =>
    have hne : lines' ≠ [] := List.ne_nil_of_length_pos (hlength ▸ Nat.succ_pos lines.length)
    refine intercalate_inj (by simp) (by simpa using hne) ?_ ?_
    · exact List.forall_mem_map.mpr fun piece hpiece => newline_notMem_sanitizeLine (h piece hpiece)
    · exact List.forall_mem_map.mpr fun piece hpiece =>
        newline_notMem_sanitizeLine (h' piece hpiece)

/-! ## What is kept of a line -/

lemma containsSecretField_append (h : containsSecretField front = true) (behind : Bytes) :
    containsSecretField (front ++ behind) = true := by
  obtain ⟨field, hmem, hfield⟩ := List.any_eq_true.mp h
  refine List.any_eq_true.mpr ⟨field, hmem, ?_⟩
  rw [decide_eq_true_eq] at hfield ⊢
  rw [lowercase, List.map_append]
  exact hfield.trans (List.prefix_append _ _).isInfix

lemma sanitizeLine_cut {kept behind : Bytes}
    (h : containsSecretField (kept ++ equals :: behind) = true) (hkept : equals ∉ kept) :
    sanitizeLine (kept ++ equals :: behind) = kept ++ equals :: ascii " <redacted>" := by
  have htake : (kept ++ equals :: behind).take (0 + kept.length + 1) = kept ++ [equals] := by
    rw [List.append_cons, List.take_left']
    rw [List.length_append, Nat.zero_add]
    rfl
  rw [sanitizeLine, if_pos h, find_eq_some rfl hkept]
  dsimp only
  rw [htake, List.append_assoc]
  rfl

lemma sanitizeLine_uncut (h : containsSecretField line = true) (hline : equals ∉ line) :
    sanitizeLine line = ascii "<redacted>" := by
  rw [sanitizeLine, if_pos h, find_eq_none hline]

lemma cut_ne_uncut (kept : Bytes) : kept ++ equals :: ascii " <redacted>" ≠ ascii "<redacted>" := by
  intro heq
  have hlength := congrArg List.length heq
  rw [List.length_append] at hlength
  have hcut : (equals :: ascii " <redacted>").length = 12 := by decide
  have huncut : (ascii "<redacted>").length = 10 := by decide
  omega

/-- A line that is cut is not taken for one that is not. -/
lemma sanitizeLine_ne {head first second : Bytes} (hhead : equals ∉ head)
    (hfirst : containsSecretField (head ++ first) = true)
    (hsecond : containsSecretField (head ++ second) = true) (hcut : equals ∈ first)
    (huncut : equals ∉ second) : sanitizeLine (head ++ first) ≠ sanitizeLine (head ++ second) := by
  obtain ⟨start, rest, rfl, hstart⟩ := List.eq_append_cons_of_mem hcut
  rw [← List.append_assoc] at hfirst ⊢
  rw [sanitizeLine_cut hfirst (by simp [hhead, hstart]),
    sanitizeLine_uncut hsecond (by simp [hhead, huncut])]
  exact cut_ne_uncut _

/-- Behind a colon only the part in front of an equals sign is kept. -/
lemma sanitizeLine_colon_iff {head first second : Bytes} (hhead : equals ∉ head)
    (hfirst : containsSecretField (head ++ first) = true)
    (hsecond : containsSecretField (head ++ second) = true) :
    sanitizeLine (head ++ first) = sanitizeLine (head ++ second) ↔
      (equals ∉ first ∧ equals ∉ second) ∨ ∃ start rest rest', equals ∉ start ∧
        first = start ++ equals :: rest ∧ second = start ++ equals :: rest' := by
  have huncut (text : Bytes) (htext : equals ∉ text) : equals ∉ head ++ text := by
    simp [hhead, htext]
  by_cases hleft : equals ∈ first <;> by_cases hright : equals ∈ second
  · obtain ⟨start, rest, rfl, hstart⟩ := List.eq_append_cons_of_mem hleft
    obtain ⟨start', rest', rfl, hstart'⟩ := List.eq_append_cons_of_mem hright
    rw [← List.append_assoc] at hfirst hsecond
    rw [← List.append_assoc, ← List.append_assoc, sanitizeLine_cut hfirst (huncut _ hstart),
      sanitizeLine_cut hsecond (huncut _ hstart'), List.append_cancel_right_eq,
      List.append_cancel_left_eq]
    constructor
    · rintro rfl
      exact .inr ⟨start, rest, rest', hstart, rfl, rfl⟩
    · rintro (⟨hnone, -⟩ | ⟨common, _, _, hcommon, hl, hr⟩)
      · exact absurd hleft hnone
      · rw [before_unique hstart hcommon hl, before_unique hstart' hcommon hr]
  · refine iff_of_false (sanitizeLine_ne hhead hfirst hsecond hleft hright) ?_
    rintro (⟨hnone, -⟩ | ⟨common, _, _, -, -, rfl⟩)
    · exact hnone hleft
    · exact hright (by simp)
  · refine iff_of_false (sanitizeLine_ne hhead hsecond hfirst hright hleft).symm ?_
    rintro (⟨-, hnone⟩ | ⟨common, _, _, -, rfl, -⟩)
    · exact hnone hright
    · exact hleft (by simp)
  · rw [sanitizeLine_uncut hfirst (huncut _ hleft), sanitizeLine_uncut hsecond (huncut _ hright)]
    exact iff_of_true rfl (.inl ⟨hleft, hright⟩)

lemma sanitizeLine_eq_iff (h : p.WellFormed) :
    sanitizeLine p.left = sanitizeLine p.right ↔ p.Hidden := by
  cases h with
  | same => exact iff_of_true rfl trivial
  | @secret front gap sep first second hname _ hsep hgap _ _ =>
    have hfield (text : Bytes) : containsSecretField (front ++ gap ++ sep :: text) = true := by
      rw [List.append_assoc]
      exact containsSecretField_append hname _
    rw [LinePair.left, LinePair.right, LinePair.Hidden]
    by_cases hfront : equals ∈ front
    · obtain ⟨kept, rest, rfl, hkept⟩ := List.eq_append_cons_of_mem hfront
      have hline (text : Bytes) : kept ++ equals :: rest ++ gap ++ sep :: text =
          kept ++ equals :: (rest ++ gap ++ sep :: text) := by simp
      simp only [hline] at hfield ⊢
      rw [sanitizeLine_cut (hfield first) hkept, sanitizeLine_cut (hfield second) hkept]
      exact iff_of_true rfl (.inl hfront)
    have hkept : equals ∉ front ++ gap := by simp [hfront, hgap.1]
    rcases hsep with rfl | rfl
    · rw [sanitizeLine_cut (hfield first) hkept, sanitizeLine_cut (hfield second) hkept]
      exact iff_of_true rfl (.inr (.inl rfl))
    · -- The colon is kept with what is in front of it.
      have hhead : equals ∉ front ++ gap ++ [colon] := by
        rw [List.mem_append, not_or]
        exact ⟨hkept, by decide⟩
      have hfirst := hfield first
      have hsecond := hfield second
      rw [List.append_cons] at hfirst hsecond
      rw [List.append_cons, List.append_cons _ colon second,
        sanitizeLine_colon_iff hhead hfirst hsecond]
      have hcolon : colon ≠ equals := by decide
      simp only [hfront, hcolon, false_or]

lemma newline_notMem (h : p.WellFormed) : newline ∉ p.left ∧ newline ∉ p.right := by
  cases h with
  | same h => exact ⟨h, h⟩
  | @secret front gap sep first second _ _ hsep _ hlines _ =>
    obtain ⟨hfront, hgap, hfirst, hsecond⟩ := hlines
    have hne : newline ≠ sep := by
      rcases hsep with rfl | rfl <;> decide
    simp [LinePair.left, LinePair.right, hfront, hgap, hfirst, hsecond, hne]

/-- **Two messages that differ in their secrets are written alike exactly when an equals sign
comes in front of each secret, or is no sooner than the difference.** -/
theorem sanitize_hides (pairs : List LinePair) (h : ∀ p ∈ pairs, p.WellFormed) :
    sanitize (message (pairs.map LinePair.left)) =
        sanitize (message (pairs.map LinePair.right)) ↔ ∀ p ∈ pairs, p.Hidden := by
  rw [sanitize_message_inj (by simp)
      (List.forall_mem_map.mpr fun p hp => (newline_notMem (h p hp)).1)
      (List.forall_mem_map.mpr fun p hp => (newline_notMem (h p hp)).2),
    List.map_map, List.map_map, List.map_inj_left]
  exact forall₂_congr fun p hp => sanitizeLine_eq_iff (h p hp)

def assignedPair : LinePair :=
  .secret (ascii "PrivateKey") (ascii " ") equals (ascii " abc=") (ascii " xyz=")

theorem sanitize_hides_assigned :
    sanitize (ascii "up\nPrivateKey = abc=") = sanitize (ascii "up\nPrivateKey = xyz=") := by
  have hpair : assignedPair.WellFormed :=
    .secret (by decide +kernel) (by decide +kernel) (.inl rfl) (by decide +kernel)
      (by decide +kernel) (by decide +kernel)
  have hpairs : ∀ p ∈ [.same (ascii "up"), assignedPair], p.WellFormed :=
    List.forall_mem_cons.mpr ⟨.same (by decide), List.forall_mem_singleton.mpr hpair⟩
  exact (sanitize_hides [.same (ascii "up"), assignedPair] hpairs).mpr
    (List.forall_mem_cons.mpr ⟨trivial, List.forall_mem_singleton.mpr (.inr (.inl rfl))⟩)

/-- A key with its padding behind a colon. -/
def leakedPair : LinePair :=
  .secret (ascii "PrivateKey") [] colon (ascii " abc=") (ascii " xyz=")

theorem sanitize_leaks : leakedPair.WellFormed ∧
    sanitize leakedPair.left = ascii "PrivateKey: abc= <redacted>" ∧
    sanitize leakedPair.right = ascii "PrivateKey: xyz= <redacted>" := by
  have hpair : leakedPair.WellFormed :=
    .secret (by decide +kernel) (by decide +kernel) (.inr rfl) (by decide +kernel)
      (by decide +kernel) (by decide +kernel)
  have hline (line : Bytes) (h : newline ∉ line) : sanitize line = sanitizeLine line := by
    have hone := sanitize_message (List.forall_mem_singleton.mpr h)
    rwa [message, List.intercalate_singleton, message, List.map_singleton,
      List.intercalate_singleton] at hone
  obtain ⟨hleft, hright⟩ := newline_notMem hpair
  rw [hline _ hleft, hline _ hright]
  exact ⟨hpair, by decide +kernel, by decide +kernel⟩

end ArtemisSwitch.Diagnostics

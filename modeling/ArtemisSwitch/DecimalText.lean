import ArtemisSwitch.HostAddress

/-!
# Integers as text

`std::to_string(int)`, `atoi` and `std::from_chars` to an `int`.
-/

namespace ArtemisSwitch.DecimalText
open HostAddress

def minus : UInt8 := 45

/-- `std::to_string`. -/
def toText (n : Int32) : Bytes :=
  if n.toInt < 0 then minus :: decimal n.toInt.natAbs else decimal n.toInt.natAbs

/-- The value of a run of digits. -/
def digitsValue (digits : Bytes) : ℕ := digits.foldl (fun n c => n * 10 + (c.toNat - 48)) 0

/-- What is left of a sign, and whether it was a minus. -/
def splitSign : Bytes → Bool × Bytes
  | 45 :: text => (true, text)
  | 43 :: text => (false, text)
  | text => (false, text)

def signed (negative : Bool) (value : ℕ) : ℤ := if negative then -(value : ℤ) else value

/-- Reads the digits at the start and stops at the first other character. -/
def atoi (text : Bytes) : Int32 :=
  let (negative, rest) := splitSign (text.dropWhile isspace)
  Int32.ofInt (signed negative (digitsValue (rest.takeWhile isdigit)))

def splitMinus : Bytes → Bool × Bytes
  | 45 :: text => (true, text)
  | text => (false, text)

/-- The value as an `int`, if it fits. -/
def inRange (value : ℤ) : Option Int32 :=
  if -2 ^ 31 ≤ value ∧ value < 2 ^ 31 then some (Int32.ofInt value) else none

/-- `from_chars` takes a minus but no plus and no blanks; the whole text has to be read. -/
def fromChars (text : Bytes) : Option Int32 :=
  let (negative, digits) := splitMinus text
  if digits = [] ∨ digits.all isdigit = false then none
  else inRange (signed negative (digitsValue digits))

lemma digitsValue_decimal (n : ℕ) : digitsValue (decimal n) = n := by
  have hdigits : ∀ ds : List Char, (∀ d ∈ ds, d.isDigit = true) → ∀ acc : ℕ,
      (ds.map fun c => UInt8.ofNat c.toNat).foldl (fun n c => n * 10 + (c.toNat - 48)) acc =
        Nat.ofDigitChars 10 ds acc := by
    intro ds
    induction ds with
    | nil => intro _ acc; simp [Nat.ofDigitChars]
    | cons d ds ih =>
      intro hall acc
      have hd : d.isDigit = true := hall d (by simp)
      have hrange : 48 ≤ d.toNat ∧ d.toNat ≤ 57 := by
        simpa [Char.isDigit, UInt32.le_iff_toNat_le] using hd
      have hbyte : (UInt8.ofNat d.toNat).toNat = d.toNat := by
        rw [UInt8.toNat_ofNat']
        omega
      rw [List.map_cons, List.foldl_cons, Nat.ofDigitChars_cons, hbyte,
        ih fun c hc => hall c (List.mem_cons_of_mem _ hc), Nat.mul_comm]
      rfl
  have hall : ∀ d ∈ Nat.toDigits 10 n, d.isDigit = true :=
    fun d hd => Nat.isDigit_of_mem_toDigits (by decide) (by decide) hd
  rw [digitsValue, decimal, hdigits _ hall, Nat.ofDigitChars_toDigits (by decide) (by decide)]

lemma all_isdigit_decimal (n : ℕ) : (decimal n).all isdigit = true :=
  List.all_eq_true.mpr fun _ hc => isdigit_of_mem_decimal hc

section Digits
variable {digits : Bytes}

lemma splitSign_of_digits (h : digits.all isdigit = true) : splitSign digits = (false, digits) := by
  unfold splitSign
  split
  · exact absurd (List.all_eq_true.mp h 45 List.mem_cons_self) (by decide)
  · exact absurd (List.all_eq_true.mp h 43 List.mem_cons_self) (by decide)
  · rfl

lemma dropWhile_of_digits (h : digits.all isdigit = true) : digits.dropWhile isspace = digits := by
  cases digits with
  | nil => rfl
  | cons c rest =>
    have hdigit := List.all_eq_true.mp h c List.mem_cons_self
    rw [List.dropWhile_cons_of_neg (by simp [isdigit_not_isspace hdigit])]

end Digits

lemma takeWhile_decimal (n : ℕ) : (decimal n).takeWhile isdigit = decimal n :=
  List.takeWhile_eq_self_iff.mpr fun _ hc => isdigit_of_mem_decimal hc

/-- A number starts with a digit. -/
lemma decimal_cons (n : ℕ) : ∃ c rest, decimal n = c :: rest ∧ isdigit c = true := by
  obtain ⟨c, rest, heq⟩ := List.exists_cons_of_ne_nil (decimal_ne_nil n)
  exact ⟨c, rest, heq, isdigit_of_mem_decimal (heq ▸ List.mem_cons_self)⟩

lemma splitSign_decimal (n : ℕ) : splitSign (decimal n) = (false, decimal n) :=
  splitSign_of_digits (all_isdigit_decimal n)

lemma splitMinus_decimal (n : ℕ) : splitMinus (decimal n) = (false, decimal n) := by
  obtain ⟨c, rest, heq, hdigit⟩ := decimal_cons n
  rw [heq]
  unfold splitMinus
  split
  · simp_all [isdigit]
  · rfl

lemma dropWhile_decimal (n : ℕ) : (decimal n).dropWhile isspace = decimal n :=
  dropWhile_of_digits (all_isdigit_decimal n)

lemma signed_natAbs (n : ℤ) : signed (decide (n < 0)) n.natAbs = n := by
  unfold signed
  split_ifs with h
  · simp only [decide_eq_true_eq] at h
    omega
  · simp only [decide_eq_true_eq] at h
    omega

/-- A number that was written is read back. -/
theorem atoi_toText (n : Int32) : atoi (toText n) = n := by
  have hvalue := signed_natAbs n.toInt
  unfold toText atoi
  split_ifs with hneg
  · have hdrop : (minus :: decimal n.toInt.natAbs).dropWhile isspace =
        minus :: decimal n.toInt.natAbs := List.dropWhile_cons_of_neg (by decide)
    have hsplit : splitSign (minus :: decimal n.toInt.natAbs) =
        (true, decimal n.toInt.natAbs) := rfl
    simp only [hneg, decide_true] at hvalue
    simp only [hdrop, hsplit, takeWhile_decimal, digitsValue_decimal, hvalue, Int32.ofInt_toInt]
  · simp only [hneg, decide_false] at hvalue
    simp only [dropWhile_decimal, splitSign_decimal, takeWhile_decimal, digitsValue_decimal,
      hvalue, Int32.ofInt_toInt]

lemma inRange_toInt (n : Int32) : inRange n.toInt = some n := by
  have hlow := n.le_toInt
  have hhigh := n.toInt_lt
  rw [inRange, if_pos ⟨hlow, hhigh⟩, Int32.ofInt_toInt]

theorem fromChars_toText (n : Int32) : fromChars (toText n) = some n := by
  have hvalue := signed_natAbs n.toInt
  have hrange := inRange_toInt n
  have hdigits : ¬(decimal n.toInt.natAbs = [] ∨
      (decimal n.toInt.natAbs).all isdigit = false) := by
    simp [decimal_ne_nil, all_isdigit_decimal]
  unfold toText fromChars
  split_ifs with hneg
  · have hsplit : splitMinus (minus :: decimal n.toInt.natAbs) =
        (true, decimal n.toInt.natAbs) := rfl
    simp only [hneg, decide_true] at hvalue
    simp only [hsplit, if_neg hdigits, digitsValue_decimal, hvalue, hrange]
  · simp only [hneg, decide_false] at hvalue
    simp only [splitMinus_decimal, if_neg hdigits, digitsValue_decimal, hvalue, hrange]

theorem toText_injective {m n : Int32} (h : toText m = toText n) : m = n := by
  rw [← atoi_toText m, h, atoi_toText]

/-- A number is written with digits and a minus. -/
lemma mem_toText {n : Int32} {c : UInt8} (h : c ∈ toText n) : c = minus ∨ isdigit c = true := by
  unfold toText at h
  split_ifs at h
  · exact (List.mem_cons.mp h).imp id fun hmem => isdigit_of_mem_decimal hmem
  · exact .inr (isdigit_of_mem_decimal h)

end ArtemisSwitch.DecimalText

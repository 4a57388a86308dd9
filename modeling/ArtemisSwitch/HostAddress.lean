import ArtemisSwitch.Library.Trimming
import ArtemisSwitch.Transport

/-!
# Host addresses

`parse_host_address` and `format_host_address`: the forms `host`, `host:port`,
`[ipv6]` and `[ipv6]:port`, with blanks around them.
-/

namespace ArtemisSwitch.HostAddress

/-- `std::isspace` in the C locale. -/
def isspace (c : UInt8) : Bool := c = 32 || (9 ≤ c && c ≤ 13)

def isdigit (c : UInt8) : Bool := 48 ≤ c && c ≤ 57

def colon : UInt8 := 58

/-- `std::to_string` of a port. -/
def decimal (n : ℕ) : Bytes := (Nat.toDigits 10 n).map fun c => UInt8.ofNat c.toNat

structure ParsedHostAddress where
  host : Bytes := []
  port : Option ℕ := none
  isIpv6 : Bool := false
  isIpv4 : Bool := false
  isHostname : Bool := false
  deriving DecidableEq, Repr

/-- The loop of `looks_like_ipv4` over what is left of the host. -/
def looksLikeIpv4From : ℕ → ℕ → Bytes → Bool
  | dots, digits, [] => dots = 3 && 0 < digits
  | dots, digits, ch :: host =>
    if ch = 46 then digits ≠ 0 && looksLikeIpv4From (dots + 1) 0 host
    else isdigit ch && looksLikeIpv4From dots (digits + 1) host

def looksLikeIpv4 (host : Bytes) : Bool := looksLikeIpv4From 0 0 host

/-- `std::from_chars` over the whole text; a value past `unsigned` is also past 65535. -/
def parsePort (text : Bytes) : Option ℕ :=
  if text = [] ∨ text.all isdigit = false then none
  else
    let value := text.foldl (fun n c => n * 10 + (c.toNat - 48)) 0
    if value = 0 ∨ 65535 < value then none else some value

def parseHostAddress (input : Bytes) : ParsedHostAddress :=
  match (input.dropWhile isspace).rdropWhile isspace with
  | [] => {}
  | first :: rest =>
    let value := first :: rest
    if first = 91 then
      if 93 ∈ rest then
        { host := rest.takeWhile (· ≠ 93)
          isIpv6 := true
          port := match (rest.dropWhile (· ≠ 93)).drop 1 with
            | 58 :: text => parsePort text
            | _ => none }
      else { host := value, isHostname := true }
    else if colon ∈ value then
      let host := value.takeWhile (· ≠ colon)
      let text := (value.dropWhile (· ≠ colon)).drop 1
      if colon ∈ text then { host := value, isIpv6 := true }
      else
        { host := host
          port := parsePort text
          isIpv4 := looksLikeIpv4 host
          isHostname := !looksLikeIpv4 host }
    else { host := value, isIpv4 := looksLikeIpv4 value, isHostname := !looksLikeIpv4 value }

def formatHostAddress (parsed : ParsedHostAddress) : Bytes :=
  if parsed.host = [] then []
  else (if parsed.isIpv6 then [91] ++ parsed.host ++ [93] else parsed.host) ++
    match parsed.port with
    | some port => colon :: decimal port
    | none => []

/-- The host part of a URL for the address. -/
def urlHost (address : Bytes) : Bytes :=
  formatHostAddress { parseHostAddress address with port := none }

lemma urlHost_ne_nil {address : Bytes} (h : (parseHostAddress address).host ≠ []) :
    urlHost address ≠ [] := by
  simp only [urlHost, formatHostAddress, if_neg h]
  split_ifs <;> simp [h]

/-! ## An address with a port appended -/

lemma isdigit_of_mem_decimal {n : ℕ} {c : UInt8} (h : c ∈ decimal n) : isdigit c := by
  obtain ⟨d, hd, rfl⟩ := List.mem_map.mp h
  have hdigit := Nat.isDigit_of_mem_toDigits (by decide) (by decide) hd
  have hrange : 48 ≤ d.toNat ∧ d.toNat ≤ 57 := by
    simpa [Char.isDigit, UInt32.le_iff_toNat_le] using hdigit
  have hbyte : (UInt8.ofNat d.toNat).toNat = d.toNat := by
    rw [UInt8.toNat_ofNat']
    omega
  simp [isdigit, UInt8.le_iff_toNat_le, hbyte, hrange]

lemma decimal_ne_nil (n : ℕ) : decimal n ≠ [] := by
  simp [decimal, Nat.toDigits_ne_nil]

lemma isdigit_not_isspace {c : UInt8} (h : isdigit c) : isspace c = false := by
  simp only [isdigit, isspace, UInt8.le_iff_toNat_le, Bool.and_eq_true, decide_eq_true_eq] at *
  have hne : c ≠ 32 := by
    rintro rfl
    simp at h
  have hlow : 48 ≤ c.toNat := h.1
  simp [hne]
  omega

lemma isdigit_ne_colon {c : UInt8} (h : isdigit c) : c ≠ colon := by
  rintro rfl
  exact absurd h (by decide)

/-- Neither end of a host with a port is trimmed. -/
lemma trim_host_port {c : UInt8} {host : Bytes} (n : ℕ) (hc : isspace c = false) :
    ((c :: host ++ colon :: decimal n).dropWhile isspace).rdropWhile isspace =
      c :: host ++ colon :: decimal n := by
  refine Trimming.strip_eq_self_iff.mpr ⟨fun _ => hc, fun hl => ?_⟩
  have hlast : (c :: host ++ colon :: decimal n).getLast hl =
      (decimal n).getLast (decimal_ne_nil n) := by
    rw [List.getLast_append_of_ne_nil _ (by simp), List.getLast_cons (decimal_ne_nil n)]
  rw [hlast]
  exact isdigit_not_isspace (isdigit_of_mem_decimal (List.getLast_mem _))

/-- A host without blanks, brackets and colons is read back in front of its port. -/
theorem parseHostAddress_host_port {host : Bytes} (n : ℕ) (hne : host ≠ [])
    (hplain : ∀ c ∈ host, isspace c = false ∧ c ≠ colon ∧ c ≠ 91) :
    (parseHostAddress (host ++ colon :: decimal n)).host = host := by
  obtain ⟨c, host, rfl⟩ := List.exists_cons_of_ne_nil hne
  obtain ⟨hspace, -, hopen⟩ := hplain c (by simp)
  have htake : (c :: host ++ colon :: decimal n).takeWhile (· ≠ colon) = c :: host := by
    rw [List.takeWhile_append_of_pos fun a ha => by simp [(hplain a ha).2.1]]
    simp
  have hdrop : ((c :: host ++ colon :: decimal n).dropWhile (· ≠ colon)).drop 1 = decimal n := by
    rw [List.dropWhile_append_of_pos fun a ha => by simp [(hplain a ha).2.1]]
    simp
  have hdigits : colon ∉ decimal n := fun h => isdigit_ne_colon (isdigit_of_mem_decimal h) rfl
  rw [parseHostAddress, trim_host_port n hspace]
  simp only [List.cons_append] at htake hdrop ⊢
  rw [if_neg hopen, if_pos (by simp), htake, hdrop, if_neg hdigits]

end ArtemisSwitch.HostAddress

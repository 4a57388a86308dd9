import ArtemisSwitch.DecimalText
import ArtemisSwitch.Jansson
import Mathlib.Data.List.Nodup

/-!
# Shortcuts and the symbols of their keys

A key is stored under a symbol.  Some keys have several symbols, and which of them comes first
in the table is not said.
-/

namespace ArtemisSwitch.HostKeyboardShortcuts
open HostAddress DecimalText

structure KeyboardShortcut where
  id : Bytes := []
  name : Bytes := []
  keys : List Int16 := []
  enabled : Bool := true
  windowsOnly : Bool := false
  deriving DecidableEq

def MaxShortcutKeys : ℕ := 8

def keySymbols : List (Bytes × Int16) :=
  [(ascii "BACKSPACE", 0x08), (ascii "TAB", 0x09), (ascii "ENTER", 0x0D),
    (ascii "SHIFT", 0x10), (ascii "CTRL", 0x11), (ascii "ALT", 0x12),
    (ascii "PAUSE", 0x13), (ascii "CAPSLOCK", 0x14), (ascii "ESC", 0x1B),
    (ascii "SPACE", 0x20), (ascii "PAGEUP", 0x21), (ascii "PAGEDOWN", 0x22),
    (ascii "END", 0x23), (ascii "HOME", 0x24), (ascii "LEFT", 0x25),
    (ascii "UP", 0x26), (ascii "RIGHT", 0x27), (ascii "DOWN", 0x28),
    (ascii "PRINTSCREEN", 0x2C), (ascii "INSERT", 0x2D), (ascii "DELETE", 0x2E),
    (ascii "LWIN", 0x5B), (ascii "WIN", 0x5B), (ascii "RWIN", 0x5C), (ascii "CMD", 0x5B),
    (ascii "SUPER", 0x5B), (ascii "META", 0x5B),
    (ascii "NUMLOCK", 0x90), (ascii "SCROLLLOCK", 0x91),
    (ascii "LSHIFT", 0xA0), (ascii "RSHIFT", 0xA1), (ascii "LCTRL", 0xA2),
    (ascii "RCTRL", 0xA3), (ascii "LALT", 0xA4), (ascii "RALT", 0xA5),
    (ascii "IME", 0x15), (ascii "OEM_1", 0xBA), (ascii "OEM_PLUS", 0xBB),
    (ascii "OEM_COMMA", 0xBC), (ascii "OEM_MINUS", 0xBD),
    (ascii "OEM_PERIOD", 0xBE), (ascii "OEM_2", 0xBF), (ascii "OEM_3", 0xC0),
    (ascii "OEM_4", 0xDB), (ascii "OEM_5", 0xDC), (ascii "OEM_6", 0xDD),
    (ascii "OEM_7", 0xDE)]

/-- The order in which the hash table is run through. -/
abbrev TableOrder := { entries : List (Bytes × Int16) // entries.Perm keySymbols }

/-- `std::toupper` in the C locale. -/
def toupper (c : UInt8) : UInt8 := if 97 ≤ c ∧ c ≤ 122 then c - 32 else c

def normalized (value : Bytes) : Bytes :=
  value.map fun c => if c = 45 ∨ c = 32 then 95 else toupper c

/-- `std::stoi`, without a value where it throws. -/
def stoi (text : Bytes) : Option Int32 :=
  let (negative, rest) := splitSign (text.dropWhile isspace)
  let digits := rest.takeWhile isdigit
  if digits = [] then none else inRange (signed negative (digitsValue digits))

/-- `F1` to `F24`. -/
def functionKey (n : Int32) : Option Int16 :=
  if 1 ≤ n ∧ n ≤ 24 then some (0x70 + (n - 1)).toInt16 else none

def virtualKeyFromSymbol (symbol : Bytes) : Option Int16 :=
  let value := normalized symbol
  match keySymbols.lookup value, value with
  | some key, _ => some key
  | none, [c] => if (65 ≤ c ∧ c ≤ 90) ∨ (48 ≤ c ∧ c ≤ 57) then some c.toUInt16.toInt16 else none
  | none, 70 :: rest => (stoi rest).bind functionKey
  | none, _ => none

def symbolFromVirtualKey (order : TableOrder) (virtualKey : Int16) : Option Bytes :=
  match order.1.find? (·.2 = virtualKey) with
  | some entry => some entry.1
  | none =>
    if (65 ≤ virtualKey ∧ virtualKey ≤ 90) ∨ (48 ≤ virtualKey ∧ virtualKey ≤ 57) then
      some [virtualKey.toUInt16.toUInt8]
    else if 0x70 ≤ virtualKey ∧ virtualKey ≤ 0x87 then
      some (ascii "F" ++ toText (virtualKey.toInt32 - 0x70 + 1))
    else none

/-- The loop of `validateShortcut` over the keys; the result is its error. -/
def validateKeys (order : TableOrder) (seen : List Int16) : List Int16 → Option String
  | [] => none
  | key :: keys =>
    if key ≤ 0 ∨ symbolFromVirtualKey order key = none then
      some "Shortcut contains an unknown virtual key"
    else if key ∈ seen then some "Shortcut contains a duplicate key"
    else validateKeys order (key :: seen) keys

/-- The error of a shortcut that is not valid. -/
def validateShortcut (order : TableOrder) (shortcut : KeyboardShortcut) : Option String :=
  if shortcut.name = [] then some "Shortcut name is required"
  else if shortcut.keys = [] then some "A shortcut requires at least one key"
  else if MaxShortcutKeys < shortcut.keys.length then
    some "A shortcut may contain at most eight keys"
  else validateKeys order [] shortcut.keys

variable {order : TableOrder}

/-! ## Symbols are read back -/

lemma keySymbols_read : ∀ entry ∈ keySymbols, virtualKeyFromSymbol entry.1 = some entry.2 := by
  decide +kernel

lemma keySymbols_storable : ∀ entry ∈ keySymbols, Jansson.Storable entry.1 := by
  decide +kernel

/-- The text of a letter, a digit or a function key. -/
def plainSymbol (n : ℕ) : Bytes :=
  if n < 0x70 then [UInt8.ofNat n] else ascii "F" ++ toText (Int32.ofNat (n - 0x70 + 1))

def plainKeys : List ℕ := List.range' 65 26 ++ List.range' 48 10 ++ List.range' 0x70 24

lemma plainKeys_read : ∀ n ∈ plainKeys,
    virtualKeyFromSymbol (plainSymbol n) = some (Int16.ofNat n) ∧
      Jansson.Storable (plainSymbol n) := by
  decide +kernel

lemma exists_plainKey {key : Int16} (h : ((65 ≤ key ∧ key ≤ 90) ∨ (48 ≤ key ∧ key ≤ 57)) ∨
    (0x70 ≤ key ∧ key ≤ 0x87)) : ∃ n ∈ plainKeys, key = Int16.ofNat n := by
  simp only [Int16.le_iff_toInt_le] at h
  have hrange : ((65 ≤ key.toInt ∧ key.toInt ≤ 90) ∨ (48 ≤ key.toInt ∧ key.toInt ≤ 57)) ∨
      (0x70 ≤ key.toInt ∧ key.toInt ≤ 0x87) := h
  refine ⟨key.toInt.toNat, ?_, ?_⟩
  · simp only [plainKeys, List.mem_append, List.mem_range'_1]
    omega
  · have hnat : (key.toInt.toNat : ℤ) = key.toInt := Int.toNat_of_nonneg (by omega)
    rw [← Int16.ofInt_eq_ofNat, hnat, Int16.ofInt_toInt]

/-- Outside the table a symbol is the plain one. -/
lemma plainKeys_symbol (order : TableOrder) : ∀ n ∈ plainKeys,
    order.1.find? (·.2 = Int16.ofNat n) = none →
      symbolFromVirtualKey order (Int16.ofNat n) = some (plainSymbol n) := by
  have hplain : ∀ n ∈ plainKeys,
      (if (65 ≤ Int16.ofNat n ∧ Int16.ofNat n ≤ 90) ∨
          (48 ≤ Int16.ofNat n ∧ Int16.ofNat n ≤ 57) then
        some [(Int16.ofNat n).toUInt16.toUInt8]
      else if 0x70 ≤ Int16.ofNat n ∧ Int16.ofNat n ≤ 0x87 then
        some (ascii "F" ++ toText ((Int16.ofNat n).toInt32 - 0x70 + 1))
      else none) = some (plainSymbol n) := by
    decide +kernel
  intro n hn hfind
  rw [symbolFromVirtualKey, hfind]
  exact hplain n hn

/-- A key has a symbol of the table, or its plain one. -/
lemma symbol_cases {key : Int16} {symbol : Bytes}
    (h : symbolFromVirtualKey order key = some symbol) :
    (symbol, key) ∈ keySymbols ∨ ∃ n ∈ plainKeys, key = Int16.ofNat n ∧ symbol = plainSymbol n := by
  cases hfind : order.1.find? (·.2 = key) with
  | some entry =>
    rw [symbolFromVirtualKey, hfind, Option.some.injEq] at h
    have hkey : entry.2 = key := by simpa using List.find?_some hfind
    have hmem : entry ∈ keySymbols := order.2.mem_iff.mp (List.mem_of_find?_eq_some hfind)
    left
    rwa [← h, ← hkey]
  | none =>
    -- the table does not have the key, so it is a letter, a digit or a function key
    have hplain : ∃ n ∈ plainKeys, key = Int16.ofNat n := by
      rw [symbolFromVirtualKey, hfind] at h
      dsimp only at h
      split_ifs at h with hletter hfunction
      · exact exists_plainKey (.inl hletter)
      · exact exists_plainKey (.inr hfunction)
    obtain ⟨n, hn, rfl⟩ := hplain
    rw [plainKeys_symbol order n hn hfind, Option.some.injEq] at h
    exact .inr ⟨n, hn, rfl, h.symm⟩

/-- Whichever symbol a key is stored under, it is read as that key. -/
theorem virtualKeyFromSymbol_symbol {key : Int16} {symbol : Bytes}
    (h : symbolFromVirtualKey order key = some symbol) :
    virtualKeyFromSymbol symbol = some key := by
  rcases symbol_cases h with htable | ⟨n, hn, rfl, rfl⟩
  · exact keySymbols_read _ htable
  · exact (plainKeys_read n hn).1

lemma symbol_storable {key : Int16} {symbol : Bytes}
    (h : symbolFromVirtualKey order key = some symbol) : Jansson.Storable symbol := by
  rcases symbol_cases h with htable | ⟨n, hn, rfl, rfl⟩
  · exact keySymbols_storable _ htable
  · exact (plainKeys_read n hn).2

/-! ## Valid shortcuts -/

lemma validateKeys_iff {seen keys : List Int16} : validateKeys order seen keys = none ↔
    (∀ key ∈ keys, 0 < key ∧ (symbolFromVirtualKey order key).isSome) ∧ keys.Nodup ∧
      ∀ key ∈ keys, key ∉ seen := by
  induction keys generalizing seen with
  | nil => simp [validateKeys]
  | cons key keys ih =>
    rw [validateKeys]
    split_ifs with hunknown hseen
    · refine iff_of_false (by simp) ?_
      rintro ⟨hknown, -⟩
      obtain ⟨hpos, hsymbol⟩ := hknown key (by simp)
      rcases hunknown with hzero | hnone
      · exact absurd hpos (Int16.not_lt.mpr hzero)
      · simp [hnone] at hsymbol
    · refine iff_of_false (by simp) ?_
      rintro ⟨-, -, hfresh⟩
      exact hfresh key (by simp) hseen
    · rw [not_or] at hunknown
      have hpos : 0 < key := Int16.not_le.mp hunknown.1
      have hsymbol : (symbolFromVirtualKey order key).isSome :=
        Option.isSome_iff_ne_none.mpr hunknown.2
      rw [ih, List.nodup_cons]
      -- the keys of the tail are compared with `key` by way of `seen`
      constructor
      · rintro ⟨hknown, hnodup, hfresh⟩
        refine ⟨?_, ⟨fun hmem => hfresh key hmem (by simp), hnodup⟩, ?_⟩
        · intro k hk
          rcases List.mem_cons.mp hk with rfl | hk
          · exact ⟨hpos, hsymbol⟩
          · exact hknown k hk
        · intro k hk
          rcases List.mem_cons.mp hk with rfl | hk
          · exact hseen
          · exact fun hmem => hfresh k hk (List.mem_cons_of_mem _ hmem)
      · rintro ⟨hknown, ⟨hnew, hnodup⟩, hfresh⟩
        refine ⟨fun k hk => hknown k (List.mem_cons_of_mem _ hk), hnodup, ?_⟩
        intro k hk hmem
        rcases List.mem_cons.mp hmem with rfl | hmem
        · exact hnew hk
        · exact hfresh k (List.mem_cons_of_mem _ hk) hmem

/-- A valid shortcut has a name and one to eight different keys, each with a symbol. -/
theorem validateShortcut_iff {shortcut : KeyboardShortcut} :
    validateShortcut order shortcut = none ↔
      shortcut.name ≠ [] ∧ shortcut.keys ≠ [] ∧ shortcut.keys.length ≤ MaxShortcutKeys ∧
        shortcut.keys.Nodup ∧
          ∀ key ∈ shortcut.keys, 0 < key ∧ (symbolFromVirtualKey order key).isSome := by
  rw [validateShortcut]
  split_ifs with hname hkeys hlength
  · exact iff_of_false (by simp) fun h => h.1 hname
  · exact iff_of_false (by simp) fun h => h.2.1 hkeys
  · exact iff_of_false (by simp) fun h => absurd h.2.2.1 (Nat.not_le.mpr hlength)
  · rw [validateKeys_iff]
    constructor
    · rintro ⟨hknown, hnodup, -⟩
      exact ⟨hname, hkeys, Nat.not_lt.mp hlength, hnodup, hknown⟩
    · rintro ⟨-, -, -, hnodup, hknown⟩
      exact ⟨hknown, hnodup, fun _ _ => List.not_mem_nil⟩

end ArtemisSwitch.HostKeyboardShortcuts

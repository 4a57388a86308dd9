import ArtemisSwitch.HostRecord
import ArtemisSwitch.Library.Regex
import Mathlib.Data.List.Infix

/-!
# Previews of a VPN configuration

What `redactVpnConfig` shows of a configuration.  The pattern of its assignments is run by the
matcher of ECMAScript.
-/

namespace ArtemisSwitch.VpnConfig
open Regex HostAddress HostStore

def newline : UInt8 := 10

def carriageReturn : UInt8 := 13

def quote : UInt8 := 34

def backslash : UInt8 := 92

def isalpha (c : UInt8) : Bool := (65 ≤ c && c ≤ 90) || (97 ≤ c && c ≤ 122)

def isalnum (c : UInt8) : Bool := isdigit c || isalpha c

def normalizeKey (key : Bytes) : Bytes := (key.filter isalnum).map tolower

def exactKeys : List Bytes :=
  [ascii "privatekey", ascii "presharedkey", ascii "setupkey", ascii "authkey", ascii "apikey",
    ascii "apiaccesskey", ascii "clientsecret", ascii "password", ascii "passwd", ascii "token",
    ascii "secret"]

def isSensitiveKey (key : Bytes) : Bool :=
  let normalized := normalizeKey key
  if normalized = [] then false
  else if normalized ∈ exactKeys then true
  else
    ([ascii "password", ascii "passwd", ascii "token", ascii "secret"].any
        fun part => part <:+: normalized) ||
      [ascii "privatekey", ascii "presharedkey", ascii "setupkey", ascii "authkey",
        ascii "apikey"].any fun ending => ending <:+ normalized

/-! ## The pattern of an assignment -/

def isNameStart (c : UInt8) : Bool := isalpha c || c = 95

def isNameChar (c : UInt8) : Bool := isalnum c || c = 95 || c = 46 || c = 45

def isSeparator (c : UInt8) : Bool := c = 58 || c = 61

/-- A comma, a line break or a closing brace. -/
def isStop (c : UInt8) : Bool := c = 44 || c = carriageReturn || c = newline || c = 125

/-- What `.` stands for. -/
def isDot (c : UInt8) : Bool := !(c = newline || c = carriageReturn)

def notQuote (c : UInt8) : Bool := c ≠ quote

def isPlain (c : UInt8) : Bool := !(c = quote || c = backslash)

/-- `"([^"]+)"|([A-Za-z_][A-Za-z0-9_.-]*)` -/
def keyPattern : Pattern UInt8 :=
  .alt
    (.seq (.one (· = quote)) (.seq (.group 2 (.plus (.one notQuote))) (.one (· = quote))))
    (.group 3 (.seq (.one isNameStart) (.star (.one isNameChar))))

/-- `\s*[:=]\s*` -/
def separatorPattern : Pattern UInt8 :=
  .seq (.star (.one isspace)) (.seq (.one isSeparator) (.star (.one isspace)))

/-- `"(?:\\.|[^"\\])*"|[^,\r\n}]+` -/
def valuePattern : Pattern UInt8 :=
  .alt
    (.seq (.one (· = quote)) (.seq
      (.star (.alt (.seq (.one (· = backslash)) (.one isDot)) (.one isPlain)))
      (.one (· = quote))))
    (.plus (.one fun c => !isStop c))

def assignment : Pattern UInt8 :=
  .seq (.group 1 keyPattern) (.seq (.group 4 separatorPattern) (.group 5 valuePattern))

/-! ## Redacting -/

/-- `find`, or more than the length. -/
def find (text part : Bytes) : ℕ := text.tails.findIdx fun tail => part.isPrefixOf tail

/-- What is kept behind a value: a comment, or else its trailing blanks. -/
def suffixOf (originalValue : Bytes) : Bytes :=
  let size := originalValue.length
  let quotedValue := originalValue.head? = some quote
  let suffix :=
    if quotedValue then size
    else min (min size (find originalValue (ascii " #"))) (find originalValue (ascii " ;"))
  if suffix = size then originalValue.drop (originalValue.rdropWhile isspace).length
  else originalValue.drop suffix

def redacted (quotedKey : Bool) (originalValue : Bytes) : Bytes :=
  if originalValue.head? = some quote ∨ quotedKey then ascii "\"[REDACTED]\""
  else ascii "[REDACTED]"

/-- The loop over the matches of what is left; `n` bounds their number. -/
def redactMatches : ℕ → Bytes → Bytes
  | 0, input => input
  | n + 1, input =>
    match search assignment input with
    | none => input
    | some m =>
      let key := ((m.groups 2).or (m.groups 3)).elim [] Capture.text
      match m.groups 5 with
      | none => input
      | some value =>
        if isSensitiveKey key = false then
          input.take (input.length - m.rest.length) ++ redactMatches n m.rest
        else
          let valueStart := input.length - value.start.length
          input.take valueStart ++ redacted (m.groups 2).isSome value.text ++
            suffixOf value.text ++ redactMatches n m.rest

def redactAssignments (source : Bytes) : Bytes := redactMatches source.length source

def isComment (line : Bytes) : Bool :=
  match (line.dropWhile fun c => c = 32 || c = 9 || c = carriageReturn).head? with
  | some c => c = 35 || c = 59
  | none => false

def redactLine (line : Bytes) : Bytes := if isComment line then line else redactAssignments line

/-- The lines between the line feeds, which stay. -/
def redactVpnConfig (config : Bytes) : Bytes :=
  [newline].intercalate ((config.splitOn newline).map redactLine)

end ArtemisSwitch.VpnConfig

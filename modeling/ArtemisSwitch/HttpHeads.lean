import ArtemisSwitch.Library.Delimiters
import ArtemisSwitch.Library.Trimming
import ArtemisSwitch.VpnConfigPreview

/-!
# Heads of HTTP messages

A status line and field lines, each with a line end behind it, and an empty line.
-/

namespace ArtemisSwitch.Http
open HostAddress HostStore VpnConfig Delimiters Trimming

def crlf : Bytes := [carriageReturn, newline]

/-- The end of the last line and an empty line. -/
def headerEnd : Bytes := crlf ++ crlf

def lower (value : Bytes) : Bytes := value.map tolower

def isBlank (c : UInt8) : Bool := c = 32 || c = 9

def trim (value : Bytes) : Bytes := (value.dropWhile isBlank).rdropWhile isBlank

/-- The characters of a token. -/
def isTchar (c : UInt8) : Bool := isalnum c || c ∈ ascii "!#$%&'*+-.^_`|~"

/-- A text within a line. -/
def Within (s : Bytes) : Prop := carriageReturn ∉ s ∧ newline ∉ s

instance (s : Bytes) : Decidable (Within s) := inferInstanceAs (Decidable (_ ∧ _))

structure Field where
  name : Bytes
  value : Bytes
  deriving DecidableEq, Repr

namespace Field

def text (f : Field) : Bytes := f.name ++ colon :: f.value

structure WellFormed (f : Field) : Prop where
  name_ne : f.name ≠ []
  token : ∀ c ∈ f.name, isTchar c = true
  value : Within f.value

/-- The name, in any case, is this one in lower case. -/
def Named (name : Bytes) (f : Field) : Prop := lower f.name = name

instance (name : Bytes) (f : Field) : Decidable (f.Named name) :=
  inferInstanceAs (Decidable (_ = _))

end Field

/-- The lines of a head, without the end of the last one. -/
def headText (status : Bytes) (fields : List Field) : Bytes :=
  joined crlf status (fields.map Field.text)

variable {f : Field} {status : Bytes} {fields : List Field}

lemma length_crlf : crlf.length = 2 := rfl

lemma notMem_of_tchar {name : Bytes} (h : ∀ c ∈ name, isTchar c = true) {c : UInt8}
    (hc : isTchar c = false) : c ∉ name := by
  intro hmem
  rw [h c hmem] at hc
  cases hc

lemma Field.text_ne (f : Field) : f.text ≠ [] := by
  simp [Field.text]

namespace Field.WellFormed

lemma colon_notMem (h : f.WellFormed) : colon ∉ f.name :=
  notMem_of_tchar h.token (by decide)

/-- A field is cut at its first colon. -/
lemma cut_text (h : f.WellFormed) : cut [colon] f.text = some (f.name, f.value) :=
  cut_append h.colon_notMem f.value

lemma within_text (h : f.WellFormed) : Within f.text := by
  have hreturn := notMem_of_tchar h.token (c := carriageReturn) (by decide)
  have hnewline := notMem_of_tchar h.token (c := newline) (by decide)
  simp [Within, text, hreturn, hnewline, h.value.1, h.value.2]
  decide

/-- Nothing of a token is trimmed. -/
lemma trim_name (h : f.WellFormed) : trim f.name = f.name := by
  refine strip_eq_self fun c hc => ?_
  rw [isBlank, Bool.or_eq_false_iff, decide_eq_false_iff_not, decide_eq_false_iff_not]
  have hblank := notMem_of_tchar h.token (c := 32) (by decide)
  have htab := notMem_of_tchar h.token (c := 9) (by decide)
  exact ⟨fun heq => hblank (heq ▸ hc), fun heq => htab (heq ▸ hc)⟩

end Field.WellFormed

end ArtemisSwitch.Http

import Mathlib.Data.List.Basic
import Mathlib.Tactic.Common

/-!
# Comma-separated values

A reader of records in the format of RFC 4180, as an automaton over bytes.  A record ends with a
line feed, with or without a carriage return before it.
-/

namespace Csv

def comma : UInt8 := 44

def quote : UInt8 := 34

def lineFeed : UInt8 := 10

def carriageReturn : UInt8 := 13

/-! ## The reader -/

inductive Mode
  /-- Nothing of the field was read. -/
  | start
  | plain
  | quoted
  /-- Behind a quote in a quoted field, which ends it or is half of a doubled one. -/
  | closed
  /-- Behind a carriage return outside of quotes. -/
  | returned
  deriving DecidableEq

structure Reader where
  mode : Mode := .start
  field : List UInt8 := []
  record : List (List UInt8) := []
  records : List (List (List UInt8)) := []
  deriving DecidableEq

namespace Reader

variable (r : Reader)

def keep (mode : Mode) (c : UInt8) : Reader := { r with mode := mode, field := r.field ++ [c] }

def endField : Reader := { r with mode := .start, field := [], record := r.record ++ [r.field] }

def endRecord : Reader := { records := r.records ++ [r.record ++ [r.field]] }

/-- What may stand behind a field. -/
def endsWith (c : UInt8) : Option Reader :=
  if c = comma then some r.endField
  else if c = lineFeed then some r.endRecord
  else if c = carriageReturn then some { r with mode := .returned }
  else none

/-- A quote stands in a quoted field only. -/
def unquoted (c : UInt8) : Option Reader :=
  if c = comma ∨ c = lineFeed ∨ c = carriageReturn then r.endsWith c
  else if c = quote then none
  else some (r.keep .plain c)

def step (r : Reader) (c : UInt8) : Option Reader :=
  match r.mode with
  | .start => if c = quote then some { r with mode := .quoted } else r.unquoted c
  | .plain => r.unquoted c
  | .quoted => if c = quote then some { r with mode := .closed } else some (r.keep .quoted c)
  | .closed => if c = quote then some (r.keep .quoted c) else r.endsWith c
  | .returned => if c = lineFeed then some r.endRecord else none

/-- The last record may end with the text. -/
def finish : Option (List (List (List UInt8))) :=
  match r.mode with
  | .quoted | .returned => none
  | .start => if r.record = [] then some r.records else some r.endRecord.records
  | .plain | .closed => some r.endRecord.records

end Reader

def read (text : List UInt8) : Option (List (List (List UInt8))) :=
  (text.foldlM Reader.step {}).bind Reader.finish

/-! ## Fields -/

/-- A byte for which a field has to be quoted. -/
def special (c : UInt8) : Bool := c = comma || c = quote || c = lineFeed || c = carriageReturn

def doubled (value : List UInt8) : List UInt8 :=
  value.flatMap fun c => if c = quote then [quote, c] else [c]

def quoted (value : List UInt8) : List UInt8 := quote :: doubled value ++ [quote]

/-- The texts of a field. -/
def IsField (text value : List UInt8) : Prop :=
  text = value ∧ value.all (!special ·) = true ∨ text = quoted value

lemma isField_self {value : List UInt8} (h : value.all (!special ·) = true) :
    IsField value value := .inl ⟨rfl, h⟩

lemma isField_quoted (value : List UInt8) : IsField (quoted value) value := .inr rfl

/-- A field may end here. -/
def Reader.Ends (r : Reader) : Prop := r.mode = .start ∨ r.mode = .plain ∨ r.mode = .closed

variable {r r' : Reader} {text value : List UInt8}

lemma foldlM_next {c : UInt8} (h : r.step c = some r') (text : List UInt8) :
    (c :: text).foldlM Reader.step r = text.foldlM Reader.step r' := by
  rw [List.foldlM_cons, h]
  rfl

lemma foldlM_behind (h : text.foldlM Reader.step r = some r') (after : List UInt8) :
    (text ++ after).foldlM Reader.step r = after.foldlM Reader.step r' := by
  rw [List.foldlM_append, h]
  rfl

lemma step_comma (h : r.Ends) : r.step comma = some r.endField := by
  unfold Reader.step
  rcases h with h | h | h <;> rw [h] <;> rfl

lemma step_lineFeed (h : r.Ends) : r.step lineFeed = some r.endRecord := by
  unfold Reader.step
  rcases h with h | h | h <;> rw [h] <;> rfl

lemma step_ordinary {c : UInt8} (h : special c = false)
    (hmode : r.mode = .start ∨ r.mode = .plain) : r.step c = some (r.keep .plain c) := by
  simp only [special, Bool.or_eq_false_iff, decide_eq_false_iff_not] at h
  obtain ⟨⟨⟨hcomma, hquote⟩, hfeed⟩, hreturn⟩ := h
  unfold Reader.step Reader.unquoted
  rcases hmode with hmode | hmode
  · rw [hmode]
    dsimp only
    rw [if_neg hquote, if_neg (by tauto), if_neg hquote]
  · rw [hmode]
    dsimp only
    rw [if_neg (by tauto), if_neg hquote]

/-- A field without special bytes is read as it is. -/
lemma foldlM_plain (h : value.all (!special ·) = true)
    (hmode : r.mode = .start ∨ r.mode = .plain) :
    ∃ r', value.foldlM Reader.step r = some r' ∧ r'.Ends ∧ r'.field = r.field ++ value ∧
      r'.record = r.record ∧ r'.records = r.records := by
  induction value generalizing r with
  | nil =>
    refine ⟨r, rfl, ?_, (List.append_nil _).symm, rfl, rfl⟩
    exact hmode.elim .inl fun hplain => .inr (.inl hplain)
  | cons c value ih =>
    rw [List.all_cons, Bool.and_eq_true, Bool.not_eq_true'] at h
    obtain ⟨r', hread, hends, hfield, hrecord⟩ := ih (r := r.keep .plain c) h.2 (.inr rfl)
    refine ⟨r', ?_, hends, ?_, hrecord⟩
    · rw [foldlM_next (step_ordinary h.1 hmode), hread]
    · rw [hfield, Reader.keep, List.append_assoc]
      rfl

/-- A doubled quote is read as one. -/
lemma foldlM_doubled (value : List UInt8) (hmode : r.mode = .quoted) :
    (doubled value).foldlM Reader.step r = some { r with field := r.field ++ value } := by
  induction value generalizing r with
  | nil =>
    rw [List.append_nil]
    rfl
  | cons c value ih =>
    have hkeep : (doubled value).foldlM Reader.step (r.keep .quoted c) =
        some { r with field := r.field ++ c :: value } := by
      rw [ih rfl, Reader.keep, ← hmode, List.append_assoc]
      rfl
    have hcons : doubled (c :: value) = (if c = quote then [quote, c] else [c]) ++ doubled value :=
      List.flatMap_cons
    rw [hcons]
    split_ifs with hquote
    · have hopen : r.step quote = some { r with mode := .closed } := by
        unfold Reader.step
        rw [hmode]
        rfl
      have hdouble : ({ r with mode := .closed } : Reader).step c = some (r.keep .quoted c) := by
        unfold Reader.step
        rw [hquote]
        rfl
      rw [List.cons_append, foldlM_next hopen, List.cons_append, foldlM_next hdouble]
      exact hkeep
    · have hstep : r.step c = some (r.keep .quoted c) := by
        unfold Reader.step
        rw [hmode]
        exact if_neg hquote
      rw [List.cons_append, foldlM_next hstep]
      exact hkeep

lemma foldlM_field (h : IsField text value) (hmode : r.mode = .start) (hfield : r.field = []) :
    ∃ r', text.foldlM Reader.step r = some r' ∧ r'.Ends ∧ r'.field = value ∧
      r'.record = r.record ∧ r'.records = r.records := by
  rcases h with ⟨rfl, hplain⟩ | rfl
  · obtain ⟨r', hread, hends, hvalue, hrecord⟩ := foldlM_plain hplain (.inl hmode)
    rw [hfield] at hvalue
    exact ⟨r', hread, hends, hvalue, hrecord⟩
  · have hopen : r.step quote = some { r with mode := .quoted } := by
      unfold Reader.step
      rw [hmode]
      rfl
    refine ⟨{ r with mode := .closed, field := value }, ?_, .inr (.inr rfl), rfl, rfl, rfl⟩
    rw [quoted, List.cons_append, foldlM_next hopen, foldlM_behind (foldlM_doubled value rfl),
      hfield]
    rfl

/-! ## Records -/

/-- A record and its line break. -/
def line (texts : List (List UInt8)) : List UInt8 := [comma].intercalate texts ++ [lineFeed]

lemma foldlM_line {texts values : List (List UInt8)} (h : List.Forall₂ IsField texts values)
    (hne : texts ≠ []) (record : List (List UInt8)) (records : List (List (List UInt8))) :
    (line texts).foldlM Reader.step { record := record, records := records } =
      some { records := records ++ [record ++ values] } := by
  induction h generalizing record with
  | nil => exact absurd rfl hne
  | @cons text value texts values hfield hrest ih =>
    obtain ⟨r', hread, hends, hvalue, hrecord, hrecords⟩ :=
      foldlM_field (r := { record := record, records := records }) hfield rfl rfl
    cases hrest with
    | nil =>
      rw [line, List.intercalate_singleton, foldlM_behind hread, foldlM_next (step_lineFeed hends),
        Reader.endRecord, hvalue, hrecord, hrecords]
      rfl
    | @cons text' value' texts values hfield' hrest =>
      have hsplit : line (text :: text' :: texts) = text ++ comma :: line (text' :: texts) := by
        rw [line, line, List.intercalate_cons_cons]
        simp
      have hnext : r'.endField = { record := record ++ [value], records := records } := by
        rw [Reader.endField, hvalue, hrecord, hrecords]
      rw [hsplit, foldlM_behind hread, foldlM_next (step_comma hends), hnext,
        ih (List.cons_ne_nil _ _) (record ++ [value]), List.append_assoc]
      rfl

lemma foldlM_lines {lines values : List (List (List UInt8))}
    (h : List.Forall₂ (fun texts values => texts ≠ [] ∧ List.Forall₂ IsField texts values)
      lines values) (records : List (List (List UInt8))) :
    (lines.flatMap line).foldlM Reader.step { records := records } =
      some { records := records ++ values } := by
  induction h generalizing records with
  | nil =>
    rw [List.append_nil]
    rfl
  | cons hline _ ih =>
    rw [List.flatMap_cons, foldlM_behind (foldlM_line hline.2 hline.1 [] records), ih,
      List.append_assoc]
    rfl

/-- What is written as lines of fields is read as their records. -/
theorem read_lines {lines values : List (List (List UInt8))}
    (h : List.Forall₂ (fun texts values => texts ≠ [] ∧ List.Forall₂ IsField texts values)
      lines values) : read (lines.flatMap line) = some values := by
  rw [read, foldlM_lines h []]
  rfl

/-- The value in the first column of a name. -/
lemma lookup_zip {header row : List (List UInt8)} {name : List UInt8} (i : ℕ)
    (hname : header[i]? = some name) (hvalue : row[i]? = some value)
    (hfirst : name ∉ header.take i) : (header.zip row).lookup name = some value := by
  induction i generalizing header row with
  | zero =>
    obtain ⟨rest, rfl⟩ := List.head?_eq_some_iff.mp (List.head?_eq_getElem? ▸ hname)
    obtain ⟨values, rfl⟩ := List.head?_eq_some_iff.mp (List.head?_eq_getElem? ▸ hvalue)
    exact List.lookup_cons_self
  | succ i ih =>
    cases header with
    | nil => exact absurd hname nofun
    | cons first header =>
      cases row with
      | nil => exact absurd hvalue nofun
      | cons value' row =>
        rw [List.take_succ_cons, List.mem_cons, not_or] at hfirst
        rw [List.zip_cons_cons, List.lookup_cons, beq_false_of_ne hfirst.1]
        exact ih hname hvalue hfirst.2

end Csv

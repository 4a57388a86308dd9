import ArtemisSwitch.LogSanitizing
import Mathlib.Data.List.Infix

/-!
# Two files for a log without end

`RotatingFileLog::append` puts lines behind one file.  A file that would grow too large becomes
the backup first, in the place of the last one.
-/

namespace ArtemisSwitch.Diagnostics
open HostAddress HostStore

inductive Severity
  | Info
  | Warning
  | Error
  deriving DecidableEq

def severityName : Severity → Bytes
  | .Info => ascii "INFO"
  | .Warning => ascii "WARN"
  | .Error => ascii "ERROR"

def kMaxLogBytes : ℕ := 1024 * 1024

/-- The file at `path` and the one at `path + ".1"`. -/
structure LogFiles where
  current : Option Bytes := none
  backup : Option Bytes := none
  deriving DecidableEq

/-- One call of `append`, with the time and how its file operations end: the size can be asked
for, the backup removed, the file renamed and opened, the stream is `good` after the line was given
to it, and so many bytes of the line go to the file by the time it is closed. -/
structure LogCall where
  timestamp : Bytes
  provider : Bytes
  severity : Severity
  message : Bytes
  measured : Bool
  removed : Bool
  renamed : Bool
  opened : Bool
  good : Bool
  taken : ℕ

def LogCall.line (c : LogCall) : Bytes :=
  ascii "[" ++ c.timestamp ++ ascii "] [" ++ severityName c.severity ++ ascii "] [" ++
    c.provider ++ ascii "] " ++ sanitize c.message ++ [newline]

/-- Every operation succeeds. -/
def LogCall.Succeeds (c : LogCall) : Prop :=
  c.measured = true ∧ c.removed = true ∧ c.renamed = true ∧ c.opened = true ∧
    c.line.length ≤ c.taken

instance (c : LogCall) : Decidable c.Succeeds := inferInstanceAs (Decidable (_ ∧ _))

namespace LogFiles

/-- The older bytes first. -/
def content (f : LogFiles) : Bytes := f.backup.getD [] ++ f.current.getD []

def currentSize (f : LogFiles) (c : LogCall) : ℕ :=
  if c.measured then (f.current.getD []).length else 0

/-- The line would make the file too large. -/
def Full (f : LogFiles) (c : LogCall) : Prop :=
  0 < f.currentSize c ∧ kMaxLogBytes < f.currentSize c + c.line.length

instance (f : LogFiles) (c : LogCall) : Decidable (f.Full c) :=
  inferInstanceAs (Decidable (_ ∧ _))

/-- The bytes that a call writes, if it comes that far. -/
def written (f : LogFiles) (c : LogCall) : Bytes :=
  if (f.Full c ∧ c.renamed = false) ∨ c.opened = false then [] else c.line.take c.taken

def write (f : LogFiles) (c : LogCall) : Bool × LogFiles :=
  if c.opened = false then (false, f)
  else
    (c.good,
      { f with current := some (f.current.getD [] ++ c.line.take c.taken) })

/-- The last backup has to go before the file takes its place. -/
def clearBackup (f : LogFiles) (c : LogCall) : LogFiles :=
  if c.removed then { f with backup := none } else f

def append (f : LogFiles) (c : LogCall) : Bool × LogFiles :=
  if f.Full c then
    let f := f.clearBackup c
    if c.renamed then write { current := none, backup := f.current } c
    else (false, f)
  else write f c

/-- The files after some calls, and what was written meanwhile. -/
def appendAll (f : LogFiles) (calls : List LogCall) : LogFiles × Bytes :=
  calls.foldl (fun s c => ((s.1.append c).2, s.2 ++ s.1.written c)) (f, [])

variable {f : LogFiles} {c : LogCall} {calls : List LogCall}

lemma appendAll_concat (f : LogFiles) (calls : List LogCall) (c : LogCall) :
    f.appendAll (calls ++ [c]) =
      (((f.appendAll calls).1.append c).2,
        (f.appendAll calls).2 ++ (f.appendAll calls).1.written c) := by
  rw [appendAll, List.foldl_concat]
  rfl

/-! ## The tail -/

@[simp] lemma current_clearBackup (f : LogFiles) (c : LogCall) :
    (f.clearBackup c).current = f.current := by
  unfold clearBackup
  split_ifs <;> rfl

/-- Both files hold whole lines, the last ones; and if any are missing, more than the limit. -/
def HoldsLast (lines : List Bytes) (f : LogFiles) : Prop :=
  ∃ old new, old ++ new <:+ lines ∧ f.backup.getD [] = old.flatten ∧
    f.current.getD [] = new.flatten ∧
      (old ++ new = lines ∨ kMaxLogBytes < f.content.length)

lemma write_succeeds (h : c.Succeeds) (f : LogFiles) :
    (f.write c).2 = { f with current := some (f.current.getD [] ++ c.line) } := by
  unfold write
  rw [if_neg (by simp [h.2.2.2.1]), List.take_of_length_le h.2.2.2.2]

lemma holdsLast_append {lines : List Bytes} (hc : c.Succeeds) (h : HoldsLast lines f) :
    HoldsLast (lines ++ [c.line]) (f.append c).2 := by
  obtain ⟨old, new, hkept, hold, hnew, hall⟩ := h
  have hadded : (new ++ [c.line]).flatten = new.flatten ++ c.line := by simp
  unfold append
  by_cases hfull : f.Full c
  · -- the lines of the backup go, and those that are left are too many for one file
    have hlong : kMaxLogBytes < (f.current.getD [] ++ c.line).length := by
      have hsize : f.currentSize c = (f.current.getD []).length := if_pos hc.1
      rw [List.length_append, ← hsize]
      exact hfull.2
    have hlast : new ++ [c.line] <:+ lines ++ [c.line] :=
      List.suffix_append_self_iff.mpr ((List.suffix_append old new).trans hkept)
    rw [if_pos hfull, if_pos hc.2.2.1, current_clearBackup, write_succeeds hc]
    refine ⟨new, [c.line], hlast, hnew, by simp, .inr ?_⟩
    simpa [content] using hlong
  · rw [if_neg hfull, write_succeeds hc]
    refine ⟨old, new ++ [c.line], ?_, hold, ?_, ?_⟩
    · rw [← List.append_assoc]
      exact List.suffix_append_self_iff.mpr hkept
    · rw [hadded, Option.getD_some, hnew]
    · rcases hall with rfl | hlong
      · exact .inl (List.append_assoc ..).symm
      · right
        have hcontent : (LogFiles.mk (some (f.current.getD [] ++ c.line)) f.backup).content =
            f.content ++ c.line := by simp [content]
        rw [hcontent, List.length_append]
        omega

/-- **Where nothing fails**, the two files together hold the last lines, whole and in order, and
more than `kMaxLogBytes` of them as soon as a line is missing. -/
theorem log_holds_last_lines (calls : List LogCall) (h : ∀ c ∈ calls, c.Succeeds) :
    HoldsLast (calls.map LogCall.line) (appendAll {} calls).1 := by
  induction calls using List.reverseRecOn with
  | nil => exact ⟨[], [], List.suffix_refl _, rfl, rfl, .inl rfl⟩
  | append_singleton calls c ih =>
    rw [appendAll_concat, List.map_append]
    exact holdsLast_append (h c (by simp)) (ih fun d hd => h d (by simp [hd]))

/-- Two lines of the VPN log. -/
def twoCalls : List LogCall :=
  [⟨ascii "2026-01-01 10:00:00", ascii "TS", .Info, ascii "provider stopped",
      true, true, true, true, true, 1000⟩,
    ⟨ascii "2026-01-01 10:00:05", ascii "TS", .Error, ascii "authkey=secret",
      true, true, true, true, true, 1000⟩]

theorem log_holds_last_lines_two :
    HoldsLast (twoCalls.map LogCall.line) (appendAll {} twoCalls).1 :=
  log_holds_last_lines twoCalls (by decide +kernel)

end LogFiles
end ArtemisSwitch.Diagnostics

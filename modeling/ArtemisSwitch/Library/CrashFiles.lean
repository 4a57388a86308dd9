import Mathlib.Logic.Function.Basic
import Mathlib.Tactic.Common

/-!
# Programs over files that may be cut off

A program performs operations on whole files, each of which happens or fails, and
may be cut off before any of them.  `Safe` says that a property holds wherever a
program ends; its rules follow the program.
-/

namespace CrashFiles

variable {ν β ρ : Type*}

/-- File contents by name. -/
abbrev Files (ν β : Type*) := ν → Option β

inductive Operation (ν β : Type*)
  | createDirectories
  | write (name : ν) (content : β)
  | remove (name : ν)
  | rename (source target : ν)
  deriving DecidableEq, Repr

/-- A write that fails may leave anything under its name. -/
inductive Outcome (β : Type*)
  | done
  | failed (left : Option β)
  deriving DecidableEq, Repr

inductive Program (ν β ρ : Type*)
  | halt (result : ρ)
  | attempt (operation : Operation ν β) (done failed : Program ν β ρ)
  | test (name : ν) (present absent : Program ν β ρ)

section Semantics
variable [DecidableEq ν]

/-- The files after an operation that happened; a file that is not there cannot be renamed. -/
def Operation.done (files : Files ν β) : Operation ν β → Option (Files ν β)
  | .createDirectories => some files
  | .write name content => some (Function.update files name (some content))
  | .remove name => some (Function.update files name none)
  | .rename source target => (files source).map fun content =>
      Function.update (Function.update files source none) target (some content)

def Operation.failed (files : Files ν β) (left : Option β) : Operation ν β → Files ν β
  | .write name _ => Function.update files name left
  | _ => files

/-- The files that a program leaves and its result, which a program that was cut off does
not have.  The script gives the outcome of each operation and ends where the program is
cut off. -/
def Program.run : Program ν β ρ → Files ν β → List (Outcome β) → Files ν β × Option ρ
  | .halt result, files, _ => (files, some result)
  | .test name present absent, files, script =>
    if (files name).isSome then present.run files script else absent.run files script
  | .attempt _ _ _, files, [] => (files, none)
  | .attempt operation done failed, files, .done :: script =>
    match operation.done files with
    | some files => done.run files script
    | none => failed.run files script
  | .attempt operation _ failed, files, .failed left :: script =>
    failed.run (operation.failed files left) script

/-- Wherever the program is cut off and however it ends, the property holds. -/
def Safe (holds : Files ν β → Option ρ → Prop) (program : Program ν β ρ) (files : Files ν β) :
    Prop :=
  ∀ script, holds (program.run files script).1 (program.run files script).2

variable {holds : Files ν β → Option ρ → Prop} {files : Files ν β} {result : ρ}
variable {operation : Operation ν β} {name : ν} {p q : Program ν β ρ}

theorem safe_halt (h : holds files (some result)) : Safe holds (.halt result) files := by
  intro script
  simpa [Program.run] using h

theorem safe_test (hp : (files name).isSome → Safe holds p files)
    (hq : files name = none → Safe holds q files) : Safe holds (.test name p q) files := by
  intro script
  rw [Program.run]
  split_ifs with h
  · exact hp h script
  · exact hq (by simpa using h) script

theorem safe_attempt (h : holds files none)
    (hdone : ∀ next, operation.done files = some next → Safe holds p next)
    (hfailed : ∀ left, Safe holds q (operation.failed files left))
    (hnone : operation.done files = none → Safe holds q files) :
    Safe holds (.attempt operation p q) files := by
  intro script
  match script with
  | [] => exact h
  | .failed left :: script => exact hfailed left script
  | .done :: script =>
    rw [Program.run]
    rcases hd : operation.done files with _ | next
    · exact hnone hd script
    · exact hdone next hd script

/-- An operation other than a write fails without a trace. -/
theorem safe_attempt_of_keeps (hkeeps : ∀ left, operation.failed files left = files)
    (h : holds files none) (hdone : ∀ next, operation.done files = some next → Safe holds p next)
    (hfailed : Safe holds q files) : Safe holds (.attempt operation p q) files := by
  apply safe_attempt h hdone
  · intro left
    rw [hkeeps]
    exact hfailed
  · exact fun _ => hfailed

end Semantics
end CrashFiles

import Mathlib.Data.List.Basic
import Mathlib.Tactic.Common

/-!
# Resources that are given back in reverse order

A trace says what is acquired and released.  It is nested when every release is that of
the resource acquired last, and then the resources still held form a stack.
-/

namespace Brackets

variable {ρ : Type*} [DecidableEq ρ]

inductive Event (ρ : Type*)
  | acquired (r : ρ)
  | released (r : ρ)
  deriving DecidableEq

/-- The stack after one event, the latest resource first. -/
def step : List ρ → Event ρ → Option (List ρ)
  | stack, .acquired r => some (r :: stack)
  | [], .released _ => none
  | top :: stack, .released r => if r = top then some stack else none

/-- What is held after a trace, unless it is not nested. -/
def heldFrom : List ρ → List (Event ρ) → Option (List ρ)
  | stack, [] => some stack
  | stack, event :: events => (step stack event).bind fun next => heldFrom next events

/-- What is held after a trace that starts with nothing. -/
def held (events : List (Event ρ)) : Option (List ρ) := heldFrom [] events

variable {stack next final : List ρ} {events more : List (Event ρ)} {r : ρ}

@[simp] lemma heldFrom_nil : heldFrom stack [] = some stack := rfl

@[simp] lemma heldFrom_acquired :
    heldFrom stack (.acquired r :: events) = heldFrom (r :: stack) events := rfl

@[simp] lemma heldFrom_released :
    heldFrom (r :: stack) (.released r :: events) = heldFrom stack events := by
  rw [heldFrom, step, if_pos rfl]
  rfl

lemma heldFrom_append (events more : List (Event ρ)) (stack : List ρ) :
    heldFrom stack (events ++ more) =
      (heldFrom stack events).bind fun next => heldFrom next more := by
  induction events generalizing stack with
  | nil => rfl
  | cons event events ih =>
    rw [List.cons_append, heldFrom, heldFrom]
    cases step stack event with
    | none => rfl
    | some next => exact ih next

/-- A trace goes on from what it has left held. -/
lemma held_append (h : held events = some stack) : held (events ++ more) = heldFrom stack more := by
  rw [held, heldFrom_append]
  change (held events).bind _ = _
  rw [h]
  rfl

/-- What lies below does not matter. -/
lemma heldFrom_frame (h : heldFrom stack events = some next) (below : List ρ) :
    heldFrom (stack ++ below) events = some (next ++ below) := by
  induction events generalizing stack with
  | nil =>
    obtain rfl := Option.some.inj h
    rfl
  | cons event events ih =>
    obtain ⟨mid, hstep, hrest⟩ := Option.bind_eq_some_iff.mp h
    have hbelow : step (stack ++ below) event = some (mid ++ below) := by
      cases event with
      | acquired r =>
        obtain rfl := Option.some.inj hstep
        rfl
      | released r =>
        cases stack with
        | nil => cases hstep
        | cons top stack =>
          rw [step] at hstep
          split_ifs at hstep with heq
          obtain rfl := Option.some.inj hstep
          exact if_pos heq
    rw [heldFrom, hbelow]
    exact ih hrest

/-- Releasing a stack from its top leaves nothing. -/
lemma heldFrom_release_all (stack rest : List ρ) :
    heldFrom (stack ++ rest) (stack.map .released) = some rest := by
  induction stack with
  | nil => rfl
  | cons r stack ih => rw [List.cons_append, List.map_cons, heldFrom_released, ih]

lemma count_step (event : Event ρ) (h : step stack event = some next) (r : ρ) :
    next.count r + (if event = .released r then 1 else 0) =
      stack.count r + if event = .acquired r then 1 else 0 := by
  cases event with
  | acquired s =>
    obtain rfl := Option.some.inj h
    rw [List.count_cons]
    simp
  | released s =>
    cases stack with
    | nil => cases h
    | cons top stack =>
      rw [step] at h
      split_ifs at h with heq
      obtain rfl := Option.some.inj h
      rw [heq, List.count_cons]
      simp

/-- Nothing is released that was not acquired, and what is held makes up the difference. -/
theorem count_heldFrom (h : heldFrom stack events = some final) (r : ρ) :
    events.count (.acquired r) + stack.count r =
      events.count (.released r) + final.count r := by
  induction events generalizing stack with
  | nil =>
    obtain rfl := Option.some.inj h
    simp
  | cons event events ih =>
    obtain ⟨next, hstep, hrest⟩ := Option.bind_eq_some_iff.mp h
    have hcount := count_step event hstep r
    have htail := ih hrest
    rw [List.count_cons, List.count_cons]
    simp only [beq_iff_eq]
    omega

/-- What is not held at the end was released as often as it was acquired. -/
theorem count_eq_of_held (h : held events = some final) (hr : r ∉ final) :
    events.count (.acquired r) = events.count (.released r) := by
  have hcount := count_heldFrom h r
  rw [List.count_nil, List.count_eq_zero_of_not_mem hr] at hcount
  exact hcount

end Brackets

import Mathlib.Tactic.Common

/-!
# Calls that may fail and leave a state either way

`EStateM ε σ α` keeps the state of a call that fails.  A sequence of calls is taken
apart by how it ends, and what each call keeps, the sequence keeps.
-/

namespace Fallible

universe u

variable {ε σ α β : Type u} {x : EStateM ε σ α} {f : α → EStateM ε σ β} {P : σ → Prop}

/-- The state that a call leaves. -/
def final : EStateM.Result ε σ α → σ
  | .ok _ s => s
  | .error _ s => s

def succeeds : EStateM.Result ε σ α → Bool
  | .ok _ _ => true
  | .error _ _ => false

@[simp] lemma final_ok (a : α) (s : σ) : final (.ok a s : EStateM.Result ε σ α) = s := rfl

@[simp] lemma final_error (e : ε) (s : σ) : final (.error e s : EStateM.Result ε σ α) = s := rfl

@[simp] lemma succeeds_ok (a : α) (s : σ) : succeeds (.ok a s : EStateM.Result ε σ α) = true := rfl

@[simp] lemma succeeds_error (e : ε) (s : σ) :
    succeeds (.error e s : EStateM.Result ε σ α) = false := rfl

lemma succeeds_iff {r : EStateM.Result ε σ α} : succeeds r = true ↔ ∃ a s, r = .ok a s := by
  cases r <;> simp

/-- What comes after a call that reads the state runs on it. -/
lemma get_bind (g : σ → EStateM ε σ β) (s : σ) : (get >>= g) s = g s s := rfl

lemma modify_bind (h : σ → σ) (g : PUnit → EStateM ε σ β) (s : σ) :
    (modify h >>= g) s = g ⟨⟩ (h s) := rfl

/-- A sequence succeeds when both its calls do. -/
lemma bind_eq_ok {s t : σ} {b : β} :
    (x >>= f) s = .ok b t ↔ ∃ a u, x s = .ok a u ∧ f a u = .ok b t := by
  show EStateM.bind x f s = .ok b t ↔ _
  unfold EStateM.bind
  cases x s <;> simp

/-- A sequence fails with its first call, or with its second after the first has succeeded. -/
lemma bind_eq_error {s t : σ} {e : ε} :
    (x >>= f) s = .error e t ↔
      x s = .error e t ∨ ∃ a u, x s = .ok a u ∧ f a u = .error e t := by
  show EStateM.bind x f s = .error e t ↔ _
  unfold EStateM.bind
  cases x s <;> simp

/-- However the call ends, it keeps `P`. -/
def Keeps (P : σ → Prop) (x : EStateM ε σ α) : Prop := ∀ s, P s → P (final (x s))

lemma Keeps.bind (hx : Keeps P x) (hf : ∀ a, Keeps P (f a)) : Keeps P (x >>= f) := by
  intro s hs
  have h := hx s hs
  show P (final (EStateM.bind x f s))
  unfold EStateM.bind
  cases hxs : x s with
  | ok a t =>
    rw [hxs] at h
    exact hf a t h
  | error e t =>
    rw [hxs] at h
    exact h

lemma Keeps.of_ok {s t : σ} {a : α} (hx : Keeps P x) (hs : P s) (h : x s = .ok a t) : P t := by
  have := hx s hs
  rwa [h] at this

lemma Keeps.of_error {s t : σ} {e : ε} (hx : Keeps P x) (hs : P s) (h : x s = .error e t) :
    P t := by
  have := hx s hs
  rwa [h] at this

end Fallible

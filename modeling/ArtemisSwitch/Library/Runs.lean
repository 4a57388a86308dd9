import Mathlib.Data.List.Basic
import Mathlib.Data.List.Nodup
import Mathlib.Tactic.Common

/-!
# Runs of a labelled transition function

`step s a = none` says that the step labelled `a` is not enabled in `s`.  A run
may be asked to meet a condition on the label and the state before each step.
-/

namespace Runs

variable {σ α : Type*} {step : σ → α → Option σ} {ok ok' : σ → α → Prop} {s t u : σ}

/-- States reached from `s` by steps that meet `ok`. -/
inductive Run (step : σ → α → Option σ) (ok : σ → α → Prop) (s : σ) : σ → Prop
  | refl : Run step ok s s
  | snoc {t u : σ} {a : α} (h : Run step ok s t) (hok : ok t a) (hstep : step t a = some u) :
      Run step ok s u

/-- The invariant rule. -/
theorem Run.invariant {I : σ → Prop} (h0 : I s)
    (hs : ∀ t a u, I t → ok t a → step t a = some u → I u) (h : Run step ok s t) : I t := by
  induction h with
  | refl => exact h0
  | snoc _ hok hstep ih => exact hs _ _ _ ih hok hstep

theorem Run.mono (hm : ∀ s a, ok s a → ok' s a) (h : Run step ok s t) : Run step ok' s t := by
  induction h with
  | refl => exact .refl
  | snoc _ hok hstep ih => exact .snoc ih (hm _ _ hok) hstep

theorem Run.trans (h : Run step ok s t) (h' : Run step ok t u) : Run step ok s u := by
  induction h' with
  | refl => exact h
  | snoc _ hok hstep ih => exact .snoc ih hok hstep

/-- Executes a list of labels. -/
def exec (step : σ → α → Option σ) : σ → List α → Option σ
  | s, [] => some s
  | s, a :: as => (step s a).bind fun t => exec step t as

theorem exec_append (as bs : List α) :
    exec step s (as ++ bs) = (exec step s as).bind fun t => exec step t bs := by
  induction as generalizing s with
  | nil => rfl
  | cons a as ih =>
    rw [List.cons_append, exec, exec, Option.bind_assoc]
    exact congrArg _ (funext fun _ => ih)

theorem exec_snoc {as : List α} (h : exec step s as = some t) (a : α) :
    exec step s (as ++ [a]) = step t a := by
  rw [exec_append, h, Option.bind_some]
  exact Option.bind_fun_some (step t a)

/-- What an execution reaches, a run reaches whose labels are all allowed. -/
theorem Run.of_exec {as : List α} (h : exec step s as = some t)
    (hok : ∀ a ∈ as, ∀ u, ok u a) : Run step ok s t := by
  induction as generalizing s with
  | nil =>
    obtain rfl : s = t := by simpa [exec] using h
    exact .refl
  | cons a as ih =>
    obtain ⟨u, hu, ht⟩ := Option.bind_eq_some_iff.mp h
    have hfirst : Run step ok s u := Run.refl.snoc (hok a (by simp) s) hu
    exact hfirst.trans (ih ht fun b hb => hok b (by simp [hb]))

/-- What no step changes, a fold leaves as it is. -/
theorem foldl_keeps {β : Type*} {f : σ → α → σ} {g : σ → β} (h : ∀ s a, g (f s a) = g s)
    (as : List α) (s : σ) : g (as.foldl f s) = g s := by
  induction as generalizing s with
  | nil => rfl
  | cons a as ih => exact (ih (f s a)).trans (h s a)

/-- What every step preserves, a fold preserves. -/
theorem foldl_invariant {f : σ → α → σ} {I : σ → Prop} (h : ∀ s a, I s → I (f s a))
    (as : List α) (hs : I s) : I (as.foldl f s) := by
  induction as generalizing s with
  | nil => exact hs
  | cons a as ih => exact ih (h s a hs)

/-- Steps for other labels leave a property alone. -/
theorem foldl_other {f : σ → α → σ} {P : σ → Prop} {a : α} {as : List α}
    (h : ∀ s b, b ≠ a → P s → P (f s b)) (hnot : a ∉ as) (hs : P s) : P (as.foldl f s) := by
  induction as generalizing s with
  | nil => exact hs
  | cons b as ih =>
    have hne : b ≠ a := fun heq => hnot (heq ▸ List.mem_cons_self)
    exact ih (fun hmem => hnot (List.mem_cons_of_mem b hmem)) (h s b hne hs)

/-- Where each label comes once, its own step alone turns `P` into `Q`. -/
theorem foldl_at {f : σ → α → σ} {P Q : σ → Prop} {a : α} {as : List α}
    (hbefore : ∀ s b, b ≠ a → P s → P (f s b)) (hown : ∀ s, P s → Q (f s a))
    (hafter : ∀ s b, b ≠ a → Q s → Q (f s b)) (hmem : a ∈ as) (hnodup : as.Nodup) (hs : P s) :
    Q (as.foldl f s) := by
  obtain ⟨before, after, rfl⟩ := List.append_of_mem hmem
  have hnot : a ∉ before ++ after := (List.nodup_middle.mp hnodup).notMem
  rw [List.mem_append, not_or] at hnot
  rw [List.foldl_append, List.foldl_cons]
  exact foldl_other hafter hnot.2 (hown _ (foldl_other hbefore hnot.1 hs))

/-- The transition function that refuses steps which do not meet the condition. -/
def guarded (step : σ → α → Option σ) (ok : σ → α → Prop) [∀ s a, Decidable (ok s a)] (s : σ)
    (a : α) : Option σ :=
  if ok s a then step s a else none

/-- What an execution of allowed steps reaches, a run reaches. -/
theorem Run.of_exec_guarded [∀ s a, Decidable (ok s a)] {as : List α}
    (h : exec (guarded step ok) s as = some t) : Run step ok s t := by
  induction as generalizing s with
  | nil =>
    obtain rfl : s = t := by simpa [exec] using h
    exact .refl
  | cons a as ih =>
    obtain ⟨u, hu, ht⟩ := Option.bind_eq_some_iff.mp h
    unfold guarded at hu
    split_ifs at hu with hok
    have hfirst : Run step ok s u := Run.refl.snoc hok hu
    exact hfirst.trans (ih ht)

/-- The labels are allowed one after the other, where every step is enabled. -/
def allowed (next : σ → α → σ) (ok : σ → α → Prop) [∀ s a, Decidable (ok s a)] : σ → List α → Bool
  | _, [] => true
  | s, a :: as => ok s a && allowed next ok (next s a) as

theorem allowed_append {next : σ → α → σ} [∀ s a, Decidable (ok s a)] (as bs : List α) (s : σ) :
    allowed next ok s (as ++ bs) =
      (allowed next ok s as && allowed next ok (as.foldl next s) bs) := by
  induction as generalizing s with
  | nil => rfl
  | cons a as ih => rw [List.cons_append, allowed, ih, allowed, Bool.and_assoc, List.foldl_cons]

/-- Where one step has a property exactly when it is allowed, all steps of a run have it exactly
when all are allowed. -/
theorem forall_step_iff_allowed {next : σ → α → σ} [∀ s a, Decidable (ok s a)] {I : σ → Prop}
    {Q : σ → α → Prop} (hstep : ∀ s a, I s → (Q s a ↔ ok s a))
    (hkeep : ∀ s a, I s → ok s a → I (next s a)) {s : σ} (hs : I s) (as : List α) :
    (∀ before a after, as = before ++ a :: after → Q (before.foldl next s) a) ↔
      allowed next ok s as = true := by
  induction as generalizing s with
  | nil => exact iff_of_true (fun before a after h => by simp at h) rfl
  | cons b as ih =>
    rw [allowed, Bool.and_eq_true, decide_eq_true_iff]
    constructor
    · intro hall
      have hok := (hstep s b hs).mp (hall [] b as rfl)
      refine ⟨hok, (ih (hkeep s b hs hok)).mp fun before a after heq => ?_⟩
      exact hall (b :: before) a after (congrArg (b :: ·) heq)
    · rintro ⟨hok, hrest⟩ before a after heq
      cases before with
      | nil =>
        obtain ⟨rfl, -⟩ := List.cons.inj heq
        exact (hstep s b hs).mpr hok
      | cons c before =>
        obtain ⟨rfl, htail⟩ := List.cons.inj heq
        exact (ih (hkeep s b hs hok)).mpr hrest before a after htail

/-- The same for what holds in every state of a run. -/
theorem forall_take_iff_allowed {next : σ → α → σ} [∀ s a, Decidable (ok s a)] {I P : σ → Prop}
    (hstep : ∀ s a, I s → (P (next s a) ↔ ok s a))
    (hkeep : ∀ s a, I s → ok s a → I (next s a)) {s : σ} (hs : I s) (hP : P s) (as : List α) :
    (∀ n, P ((as.take n).foldl next s)) ↔ allowed next ok s as = true := by
  rw [← forall_step_iff_allowed hstep hkeep hs as]
  constructor
  · rintro hall before a after rfl
    have htake : (before ++ a :: after).take (before.length + 1) = before ++ [a] := by
      rw [List.take_append, List.take_of_length_le (Nat.le_succ _), Nat.add_sub_cancel_left]
      rfl
    have h := hall (before.length + 1)
    rwa [htake, List.foldl_concat] at h
  · intro hall n
    rcases List.eq_nil_or_concat' (as.take n) with hnil | ⟨before, a, heq⟩
    · rw [hnil]
      exact hP
    · rw [heq, List.foldl_concat]
      refine hall before a (as.drop n) ?_
      rw [List.append_cons, ← heq, List.take_append_drop]

theorem Run.of_foldl {next : σ → α → σ} [∀ s a, Decidable (ok s a)] {as : List α}
    (h : allowed next ok s as = true) :
    Run (fun s a => some (next s a)) ok s (as.foldl next s) := by
  induction as generalizing s with
  | nil => exact .refl
  | cons a as ih =>
    obtain ⟨hok, hrest⟩ := (Bool.and_eq_true _ _).mp h
    have hfirst : Run (fun s a => some (next s a)) ok s (next s a) :=
      Run.refl.snoc (of_decide_eq_true hok) rfl
    exact hfirst.trans (ih hrest)

end Runs

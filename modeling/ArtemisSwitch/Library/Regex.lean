import Mathlib.Data.List.Basic
import Mathlib.Tactic.Common

/-!
# Backtracking regular expressions

The matcher of ECMAScript: a pattern tries its alternatives in order and hands what is left of
the text to a continuation, whose failure makes it try the next one.  Groups inside a
repetition keep what their last round has captured.
-/

namespace Regex

variable {α β : Type*}

inductive Pattern (α : Type*)
  | one (p : α → Bool)
  | seq (r s : Pattern α)
  | alt (r s : Pattern α)
  /-- Greedy, any number of times. -/
  | star (r : Pattern α)
  | group (n : ℕ) (r : Pattern α)

/-- Greedy, at least once. -/
def Pattern.plus (r : Pattern α) : Pattern α := .seq r (.star r)

/-- What is left of the text where the group starts, and where it ends. -/
structure Capture (α : Type*) where
  start : List α
  rest : List α
  deriving DecidableEq

def Capture.text (c : Capture α) : List α := c.start.take (c.start.length - c.rest.length)

abbrev Captures (α : Type*) := ℕ → Option (Capture α)

def Captures.set (g : Captures α) (n : ℕ) (c : Capture α) : Captures α :=
  fun m => if m = n then some c else g m

/-- What is done with the rest of the text. -/
abbrev Continuation (α β : Type*) := List α → Captures α → Option β

/-- Rounds of a repetition, each of which has to read something; `n` bounds their number. -/
def rounds (body : Continuation α β → Continuation α β) (k : Continuation α β) :
    ℕ → Continuation α β
  | 0, x, g => k x g
  | n + 1, x, g =>
    (body (fun y g => if y.length < x.length then rounds body k n y g else none) x g).or (k x g)

def run : Pattern α → Continuation α β → Continuation α β
  | .one _, _, [], _ => none
  | .one p, k, c :: x, g => if p c then k x g else none
  | .seq r s, k, x, g => run r (run s k) x g
  | .alt r s, k, x, g => (run r k x g).or (run s k x g)
  | .star r, k, x, g => rounds (run r) k x.length x g
  | .group n r, k, x, g => run r (fun y g => k y (g.set n ⟨x, y⟩)) x g

/-- The match of a search: the text in front of it, its groups, and the text behind. -/
structure Match (α : Type*) where
  before : List α
  groups : Captures α
  rest : List α

/-- The match at the start of a text. -/
def matchAt (r : Pattern α) (x : List α) : Option (Captures α × List α) :=
  run r (fun y g => some (g, y)) x fun _ => none

/-- The leftmost match. -/
def search (r : Pattern α) : List α → Option (Match α)
  | [] => (matchAt r []).map fun m => ⟨[], m.1, m.2⟩
  | c :: x =>
    match matchAt r (c :: x) with
    | some m => some ⟨[], m.1, m.2⟩
    | none => (search r x).map fun m => { m with before := c :: m.before }

section
variable {r s : Pattern α} {p q : α → Bool} {k : Continuation α β} {x y : List α} {c : α}
variable {g : Captures α} {n m : ℕ}

@[simp] lemma run_one_nil : run (.one p) k [] g = none := rfl

@[simp] lemma run_one_cons : run (.one p) k (c :: x) g = if p c then k x g else none := rfl

@[simp] lemma run_seq : run (.seq r s) k x g = run r (run s k) x g := rfl

@[simp] lemma run_alt : run (.alt r s) k x g = (run r k x g).or (run s k x g) := rfl

@[simp] lemma run_group :
    run (.group n r) k x g = run r (fun y g => k y (g.set n ⟨x, y⟩)) x g := rfl

lemma run_plus : run (.plus r) k x g = run r (run (.star r) k) x g := rfl

@[simp] lemma set_self {cap : Capture α} : (g.set n cap) n = some cap := by simp [Captures.set]

@[simp] lemma set_of_ne {cap : Capture α} (h : m ≠ n) : (g.set n cap) m = g m := by
  simp [Captures.set, h]

/-- A pattern succeeds only where what follows does. -/
lemma run_none (r : Pattern α) : run r (fun _ _ => (none : Option β)) = fun _ _ => none := by
  induction r with
  | one p =>
    funext x g
    cases x <;> simp
  | seq r s ihr ihs =>
    funext x g
    rw [run_seq, ihs, ihr]
  | alt r s ihr ihs =>
    funext x g
    rw [run_alt, ihr, ihs, Option.or_none]
  | group n r ih =>
    funext x g
    rw [run_group, ih]
  | star r ih =>
    have hrounds : ∀ n x g, rounds (run r) (fun _ _ => (none : Option β)) n x g = none := by
      intro n
      induction n with
      | zero => exact fun _ _ => rfl
      | succ n ihn =>
        intro x g
        simp only [rounds, ihn, ite_self, ih, Option.or_none]
    funext x g
    exact hrounds x.length x g

/-- A round reads something, so the length of the text bounds their number. -/
lemma rounds_of_le (hn : x.length ≤ n) (hm : x.length ≤ m) :
    rounds (run r) k n x g = rounds (run r) k m x g := by
  have hempty : ∀ n g, rounds (run r) k n [] g = k [] g := by
    intro n g
    cases n with
    | zero => rfl
    | succ n => simp [rounds, run_none]
  induction n generalizing m x g with
  | zero =>
    have hx : x = [] := List.length_eq_zero_iff.mp (by omega)
    rw [hx, hempty, hempty]
  | succ n ih =>
    cases m with
    | zero =>
      have hx : x = [] := List.length_eq_zero_iff.mp (by omega)
      rw [hx, hempty, hempty]
    | succ m =>
      have hinner : (fun y g => if y.length < x.length then rounds (run r) k n y g else none) =
          fun y g => if y.length < x.length then rounds (run r) k m y g else none := by
        funext y g
        split_ifs with hshort
        · exact ih (by omega) (by omega)
        · rfl
      simp only [rounds, hinner]

/-- One round of a repetition, or none. -/
lemma run_star : run (.star r) k x g =
    (run r (fun y g => if y.length < x.length then run (.star r) k y g else none) x g).or
      (k x g) := by
  show rounds (run r) k x.length x g = _
  rw [rounds_of_le (Nat.le_refl _) (Nat.le_succ _), rounds]
  have hinner : (fun y g => if y.length < x.length then rounds (run r) k x.length y g else none) =
      fun y g => if y.length < x.length then run (.star r) k y g else none := by
    funext y g
    split_ifs with hshort
    · exact rounds_of_le (Nat.le_of_lt hshort) (Nat.le_refl _)
    · rfl
  rw [hinner]

lemma run_star_one_cons : run (.star (.one p)) k (c :: x) g =
    (if p c then run (.star (.one p)) k x g else none).or (k (c :: x) g) := by
  rw [run_star]
  simp

lemma run_star_one_nil : run (.star (.one p)) k [] g = k [] g := by
  rw [run_star]
  simp

/-- A class is repeated as long as it can be, where what follows then succeeds. -/
lemma run_star_one_of_some (h : (k (x.dropWhile p) g).isSome) :
    run (.star (.one p)) k x g = k (x.dropWhile p) g := by
  induction x with
  | nil => exact run_star_one_nil
  | cons c x ih =>
    rw [run_star_one_cons]
    by_cases hc : p c = true
    · rw [List.dropWhile_cons_of_pos hc] at h ⊢
      obtain ⟨b, hb⟩ := Option.isSome_iff_exists.mp h
      rw [if_pos hc, ih h, hb, Option.some_or]
    · rw [List.dropWhile_cons_of_neg hc, if_neg hc, Option.none_or]

/-- Nothing is given back to a continuation that cannot start with a repeated character. -/
lemma run_star_one_of_none (h : ∀ c y, p c = true → k (c :: y) g = none) :
    run (.star (.one p)) k x g = k (x.dropWhile p) g := by
  induction x with
  | nil => exact run_star_one_nil
  | cons c x ih =>
    rw [run_star_one_cons]
    by_cases hc : p c = true
    · rw [List.dropWhile_cons_of_pos hc, if_pos hc, ih, h c x hc, Option.or_none]
    · rw [List.dropWhile_cons_of_neg hc, if_neg hc, Option.none_or]

/-- The fewest characters that a pattern reads. -/
def Pattern.least : Pattern α → ℕ
  | .one _ => 1
  | .seq r s => r.least + s.least
  | .alt r s => min r.least s.least
  | .star _ => 0
  | .group _ r => r.least

/-- A success is one of what follows, at a text that is shorter by what the pattern reads. -/
lemma run_some {b : β} (h : run r k x g = some b) :
    ∃ y g, y.length + r.least ≤ x.length ∧ k y g = some b := by
  induction r generalizing k x g with
  | one p =>
    cases x with
    | nil => cases h
    | cons c x =>
      rw [run_one_cons] at h
      split_ifs at h
      exact ⟨x, g, Nat.le_refl _, h⟩
  | seq r s ihr ihs =>
    obtain ⟨y, g', hy, h⟩ := ihr h
    obtain ⟨z, g'', hz, h⟩ := ihs h
    refine ⟨z, g'', ?_, h⟩
    simp only [Pattern.least]
    omega
  | alt r s ihr ihs =>
    simp only [Pattern.least]
    rcases Option.or_eq_some_iff.mp h with h | ⟨-, h⟩
    · obtain ⟨y, g', hy, h⟩ := ihr h
      exact ⟨y, g', by omega, h⟩
    · obtain ⟨y, g', hy, h⟩ := ihs h
      exact ⟨y, g', by omega, h⟩
  | group n r ih =>
    obtain ⟨y, g', hy, h⟩ := ih h
    exact ⟨y, _, hy, h⟩
  | star r ih =>
    have hrounds : ∀ n x g, rounds (run r) k n x g = some b →
        ∃ y g, y.length ≤ x.length ∧ k y g = some b := by
      intro n
      induction n with
      | zero => exact fun x g h => ⟨x, g, Nat.le_refl _, h⟩
      | succ n ihn =>
        intro x g h
        rcases Option.or_eq_some_iff.mp h with h | ⟨-, h⟩
        · obtain ⟨y, g', hy, h⟩ := ih h
          split_ifs at h with hshort
          obtain ⟨z, g'', hz, h⟩ := ihn y g' h
          exact ⟨z, g'', by omega, h⟩
        · exact ⟨x, g, Nat.le_refl _, h⟩
    exact hrounds x.length x g h

/-! ## Searching -/

lemma length_of_matchAt {groups : Captures α} {rest : List α}
    (h : matchAt r x = some (groups, rest)) : rest.length + r.least ≤ x.length := by
  obtain ⟨y, g, hy, h⟩ := run_some h
  cases h
  exact hy

lemma search_of_some {groups : Captures α} {rest : List α}
    (h : matchAt r x = some (groups, rest)) : search r x = some ⟨[], groups, rest⟩ := by
  cases x with
  | nil => simp [search, h]
  | cons c x => simp [search, h]

lemma search_cons_of_none (h : matchAt r (c :: x) = none) :
    search r (c :: x) = (search r x).map fun m => { m with before := c :: m.before } := by
  simp [search, h]

/-- No match starts in the first part of a text. -/
def NoStart (r : Pattern α) (front x : List α) : Prop :=
  ∀ y c z, front = y ++ c :: z → matchAt r (c :: z ++ x) = none

lemma NoStart.nil : NoStart r [] x := fun y c z h => absurd h (by simp)

lemma NoStart.tail {front : List α} (h : NoStart r (c :: front) x) : NoStart r front x := by
  rintro y d z rfl
  exact h (c :: y) d z rfl

lemma NoStart.cons {front : List α} (h : matchAt r (c :: (front ++ x)) = none)
    (hfront : NoStart r front x) : NoStart r (c :: front) x := by
  intro y d z heq
  cases y with
  | nil =>
    obtain ⟨rfl, rfl⟩ := List.cons.inj heq
    exact h
  | cons e y =>
    obtain ⟨rfl, hy⟩ := List.cons.inj heq
    exact hfront y d z hy

lemma NoStart.append {front back : List α} (hfront : NoStart r front (back ++ x))
    (hback : NoStart r back x) : NoStart r (front ++ back) x := by
  intro y c z heq
  rcases List.append_eq_append_iff.mp heq with ⟨a, rfl, ha⟩ | ⟨a, ha, hz⟩
  · exact hback a c z ha
  · cases a with
    | nil => exact hback [] c z (by simpa using hz.symm)
    | cons d a =>
      obtain ⟨rfl, rfl⟩ := List.cons.inj hz
      have := hfront y c a ha
      simpa using this

lemma search_append {front : List α} (h : NoStart r front x) : search r (front ++ x) =
    (search r x).map fun m => { m with before := front ++ m.before } := by
  induction front with
  | nil => simp
  | cons c front ih =>
    have hfirst : matchAt r (c :: (front ++ x)) = none := h [] c front rfl
    rw [List.cons_append, search_cons_of_none hfirst, ih h.tail, Option.map_map]
    rfl

/-- Where a match was found, and that none starts in front of it. -/
lemma search_some {found : Match α} (h : search r x = some found) :
    ∃ y, x = found.before ++ y ∧ NoStart r found.before y ∧
      matchAt r y = some (found.groups, found.rest) := by
  induction x generalizing found with
  | nil =>
    obtain ⟨m, hm, rfl⟩ := Option.map_eq_some_iff.mp h
    exact ⟨[], rfl, .nil, hm⟩
  | cons c x ih =>
    cases hfirst : matchAt r (c :: x) with
    | some m =>
      rw [search_of_some hfirst, Option.some.injEq] at h
      subst h
      exact ⟨c :: x, rfl, .nil, hfirst⟩
    | none =>
      rw [search_cons_of_none hfirst] at h
      obtain ⟨m, hm, rfl⟩ := Option.map_eq_some_iff.mp h
      obtain ⟨y, hy, hnone, hmatch⟩ := ih hm
      exact ⟨y, by simp [hy], .cons (by rwa [← hy]) hnone, hmatch⟩

end
end Regex

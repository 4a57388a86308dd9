import Mathlib.Data.Set.Basic

/-!
# A set of names mirrored by a numbering

A partial numbering `f` of names mirrors a set of names when its values are
exactly the set and no name has two numbers.
-/

namespace Mirror

variable {α β : Type*}

structure Mirrors (f : α → Option β) (names : Set β) : Prop where
  range : ∀ b, b ∈ names ↔ ∃ a, f a = some b
  unique : ∀ a a' b, f a = some b → f a' = some b → a = a'

variable {f g new : α → Option β} {names : Set β}

/-- Some numbers are given anew and others are taken back.  A name whose number is given to another
one gets a new number, and one that gets a number loses the one that it had. -/
theorem Mirrors.revise (h : Mirrors f names) (gone : Set α)
    (hnew : ∀ a a' b, new a = some b → new a' = some b → a = a')
    (hapart : ∀ a b, new a = some b → a ∉ gone)
    (hkept : ∀ a b c, new a = some b → f a = some c → ∃ a', new a' = some c)
    (hfree : ∀ a b a', new a = some b → f a' = some b → a' ∈ gone ∨ ∃ c, new a' = some c)
    (hg : ∀ a b, g a = some b ↔ a ∉ gone ∧ (new a).or (f a) = some b) :
    Mirrors g {b | b ∈ names ∧ (∀ a ∈ gone, f a ≠ some b) ∨ ∃ a, new a = some b} := by
  have hvalue : ∀ a b, g a = some b ↔
      new a = some b ∨ a ∉ gone ∧ new a = none ∧ f a = some b := by
    intro a b
    rw [hg, Option.or_eq_some_iff]
    constructor
    · rintro ⟨hstays, hb | ⟨hnone, hb⟩⟩
      exacts [.inl hb, .inr ⟨hstays, hnone, hb⟩]
    · rintro (hb | ⟨hstays, hold⟩)
      exacts [⟨hapart a b hb, .inl hb⟩, ⟨hstays, .inr hold⟩]
  constructor
  · intro b
    constructor
    · rintro (⟨hb, hstays⟩ | ⟨a, ha⟩)
      · obtain ⟨a, ha⟩ := (h.range b).mp hb
        cases hanew : new a with
        | none => exact ⟨a, (hvalue a b).mpr (.inr ⟨fun hm => hstays a hm ha, hanew, ha⟩)⟩
        | some c =>
          obtain ⟨a', ha'⟩ := hkept a c b hanew ha
          exact ⟨a', (hvalue a' b).mpr (.inl ha')⟩
      · exact ⟨a, (hvalue a b).mpr (.inl ha)⟩
    · rintro ⟨a, ha⟩
      rcases (hvalue a b).mp ha with hb | ⟨hstays, -, hb⟩
      · exact .inr ⟨a, hb⟩
      · refine .inl ⟨(h.range b).mpr ⟨a, hb⟩, fun a' hgone ha' => hstays ?_⟩
        rwa [h.unique a a' b hb ha']
  · have hapart' : ∀ x y b, new x = some b → y ∉ gone → new y = none → f y ≠ some b := by
      intro x y b hx hstays hnone hy
      rcases hfree x b y hx hy with hgone | ⟨c, hc⟩
      · exact hstays hgone
      · rw [hnone] at hc
        cases hc
    intro x y b hx hy
    rcases (hvalue x b).mp hx with hx | ⟨hxstays, hxnone, hx⟩ <;>
      rcases (hvalue y b).mp hy with hy | ⟨hystays, hynone, hy⟩
    · exact hnew x y b hx hy
    · exact absurd hy (hapart' x y b hx hystays hynone)
    · exact absurd hx (hapart' y x b hy hxstays hxnone)
    · exact h.unique x y b hx hy

end Mirror

import Mathlib.Data.List.AList
import Mathlib.Data.List.Induction

/-!
# Finite maps that are swept in a loop

Complements `AList` for hash maps: keeping the keys that satisfy a test and
changing every value.
-/

namespace AList

variable {α : Type*} {β : α → Type*}

/-- The bindings whose key passes the test. -/
def keep (s : AList β) (p : α → Bool) : AList β :=
  ⟨s.entries.filter fun b => p b.1, s.nodupKeys.sublist List.filter_sublist⟩

/-- The bindings that pass the test. -/
def keepBindings (s : AList β) (p : Sigma β → Bool) : AList β :=
  ⟨s.entries.filter p, s.nodupKeys.sublist List.filter_sublist⟩

variable [DecidableEq α] {s : AList β} {p : α → Bool} {a : α}

theorem mem_keep_lookup {b : β a} : b ∈ (s.keep p).lookup a ↔ p a ∧ b ∈ s.lookup a := by
  rw [mem_lookup_iff, mem_lookup_iff, keep, List.mem_filter]
  exact And.comm

theorem mem_keepBindings_lookup {p : Sigma β → Bool} {b : β a} :
    b ∈ (s.keepBindings p).lookup a ↔ p ⟨a, b⟩ ∧ b ∈ s.lookup a := by
  rw [mem_lookup_iff, mem_lookup_iff, keepBindings, List.mem_filter]
  exact And.comm

theorem lookup_erase_some {k : α} {b : β a} :
    (s.erase k).lookup a = some b ↔ a ≠ k ∧ s.lookup a = some b := by
  by_cases h : a = k
  · subst h
    simp
  · simp [lookup_erase_ne h, h]

/-- Every value is replaced by its image. -/
def mapValues {γ : Type*} (s : AList fun _ : α => γ) (f : γ → γ) : AList fun _ : α => γ :=
  ⟨s.entries.map fun b => ⟨b.1, f b.2⟩, by
    have hkeys : (s.entries.map fun b => (⟨b.1, f b.2⟩ : Σ _ : α, γ)).keys = s.entries.keys := by
      simp [List.keys, Function.comp_def]
    rw [List.NodupKeys, hkeys]
    exact s.nodupKeys⟩

theorem lookup_mapValues {γ : Type*} (s : AList fun _ : α => γ) (f : γ → γ) :
    (s.mapValues f).lookup a = (s.lookup a).map f :=
  List.dlookup_map₂ (f := fun _ => f) a

/-! ## Maps that are read entry by entry -/

/-- What is inserted in order is looked up again, where no key comes twice. -/
theorem lookup_foldl_insert {γ : Type*} {entries : List (Σ _ : α, γ)} (hnodup : entries.NodupKeys)
    (a : α) :
    (entries.foldl (fun (s : AList fun _ : α => γ) e => s.insert e.1 e.2) ∅).lookup a =
      entries.dlookup a := by
  induction entries using List.reverseRecOn with
  | nil => rfl
  | append_singleton entries e ih =>
    obtain ⟨key, value⟩ := e
    obtain ⟨hnew, hrest⟩ := List.nodupKeys_cons.mp (List.nodupKeys_middle.mp hnodup)
    rw [List.append_nil] at hnew hrest
    rw [List.foldl_concat, List.dlookup_append]
    by_cases hkey : a = key
    · subst hkey
      have habsent : entries.dlookup a = none := List.dlookup_eq_none.mpr hnew
      rw [lookup_insert, habsent, Option.none_or, List.dlookup_cons_eq]
    · rw [lookup_insert_ne hkey, ih hrest, List.dlookup_cons_ne _ _ hkey]
      simp

omit [DecidableEq α] in
/-- Members that add at most their own key. -/
theorem mem_foldl {γ : Type*} {step : AList β → γ → AList β} {key : γ → α}
    (hstep : ∀ s member, a ∈ step s member → a ∈ s ∨ a = key member) {members : List γ}
    (h : a ∈ members.foldl step s) : a ∈ s ∨ ∃ member ∈ members, a = key member := by
  induction members generalizing s with
  | nil => exact .inl h
  | cons member members ih =>
    rcases ih h with hfirst | ⟨later, hlater, hkey⟩
    · rcases hstep s member hfirst with hold | hkey
      · exact .inl hold
      · exact .inr ⟨member, by simp, hkey⟩
    · exact .inr ⟨later, by simp [hlater], hkey⟩

end AList

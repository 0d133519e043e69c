import Mathlib.Data.List.Forall2

/-!
# Computations that succeed or fail

A computation succeeds only if all that it consists of does, and fails as the first step that does.
-/

set_option autoImplicit false

namespace Switchyard

universe u v

variable {ε : Type u} {α β : Type v}

theorem bind_eq_ok {first : Except ε α} {next : α → Except ε β} {result : β} :
    first >>= next = .ok result ↔ ∃ value, first = .ok value ∧ next value = .ok result := by
  cases first with
  | error reason => simp [bind, Except.bind]
  | ok value => simp [bind, Except.bind]

theorem bind_eq_error {first : Except ε α} {next : α → Except ε β} {reason : ε} :
    first >>= next = .error reason ↔
      first = .error reason ∨ ∃ value, first = .ok value ∧ next value = .error reason := by
  cases first with
  | error found => simp [bind, Except.bind]
  | ok value => simp [bind, Except.bind]

theorem map_eq_ok {first : Except ε α} {change : α → β} {result : β} :
    first.map change = .ok result ↔ ∃ value, first = .ok value ∧ change value = result := by
  cases first with
  | error reason => simp [Except.map]
  | ok value => simp [Except.map]

theorem forall₂_of_mapM_eq_ok {f : α → Except ε β} {items : List α}
    {results : List β} (mapped : items.mapM f = .ok results) :
    List.Forall₂ (fun item result => f item = .ok result) items results := by
  induction items generalizing results with
  | nil =>
      cases mapped
      exact .nil
  | cons head rest inductionHypothesis =>
      rw [List.mapM_cons] at mapped
      obtain ⟨result, first, mapped⟩ := bind_eq_ok.mp mapped
      obtain ⟨later, others, mapped⟩ := bind_eq_ok.mp mapped
      cases mapped
      exact .cons first (inductionHypothesis others)

theorem exists_mapM_eq_ok_iff {f : α → Except ε β} {items : List α} :
    (∃ results, items.mapM f = .ok results) ↔ ∀ item ∈ items, ∃ result, f item = .ok result := by
  induction items with
  | nil => exact iff_of_true ⟨[], rfl⟩ (List.forall_mem_nil _)
  | cons head rest inductionHypothesis =>
      rw [List.forall_mem_cons, ← inductionHypothesis]
      constructor
      · rintro ⟨results, mapped⟩
        rw [List.mapM_cons] at mapped
        obtain ⟨result, first, mapped⟩ := bind_eq_ok.mp mapped
        obtain ⟨later, others, -⟩ := bind_eq_ok.mp mapped
        exact ⟨⟨result, first⟩, later, others⟩
      · rintro ⟨⟨result, first⟩, later, others⟩
        refine ⟨result :: later, ?_⟩
        rw [List.mapM_cons, first, others]
        rfl

end Switchyard

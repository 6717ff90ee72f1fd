import Mathlib.Tactic.Lemma

/-!
# Results

What is known of the parts of a computation which gave a result.
-/

namespace Admission

variable {ε σ τ : Type}

lemma of_bind_ok {first : Except ε σ} {after : σ → Except ε τ} {result : τ}
    (fine : first >>= after = .ok result) :
    ∃ value, first = .ok value ∧ after value = .ok result := by
  cases first with
  | error fault => cases fine
  | ok value => exact ⟨value, rfl, fine⟩

lemma of_mapM_append_ok {f : σ → Except ε τ} {front back : List σ} {values : List τ}
    (fine : (front ++ back).mapM f = .ok values) :
    ∃ early late, front.mapM f = .ok early ∧ back.mapM f = .ok late ∧ values = early ++ late := by
  rw [List.mapM_append] at fine
  obtain ⟨early, front_fine, fine⟩ := of_bind_ok fine
  obtain ⟨late, back_fine, fine⟩ := of_bind_ok fine
  cases fine
  exact ⟨early, late, front_fine, back_fine, rfl⟩

end Admission

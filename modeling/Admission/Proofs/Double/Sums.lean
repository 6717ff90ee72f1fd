import Admission.Proofs.Double.Nearness

/-!
# Sums of doubles

Doubles are added up one by one, and each sum is rounded. A sum which stays finite is not less than
any of its terms, and misses the exact one by a part in `2 ^ 52` of it for each term at most. Whole
numbers are added up without a miss.
-/

namespace Admission.Double

attribute [local irreducible] one overflow

variable {terms : List Nat} {sum last : Nat}

lemma foldl_add_infinite (terms : List Double) : terms.foldl add infinite = infinite := by
  induction terms with
  | nil => rfl
  | cons term rest ih => cases term <;> exact ih

/-- Where a sum stays finite, so does the sum with the first term. -/
lemma of_foldl_add {term : Nat}
    (adds : ((term :: terms).map finite).foldl add (finite sum) = finite last) :
    nearest (sum + term) 1 < overflow ∧
      (terms.map finite).foldl add (finite (nearest (sum + term) 1)) = finite last := by
  rw [List.map_cons, List.foldl_cons, add_finite] at adds
  rcases Nat.lt_or_ge (nearest (sum + term) 1) overflow with bounded | unbounded
  · rw [round_of_lt bounded] at adds
    exact ⟨bounded, adds⟩
  · rw [round_of_le unbounded, foldl_add_infinite] at adds
    cases adds

theorem le_of_foldl_add (holds : Holds sum) (doubles : ∀ term ∈ terms, Holds term)
    (adds : (terms.map finite).foldl add (finite sum) = finite last) :
    sum ≤ last ∧ ∀ term ∈ terms, term ≤ last := by
  induction terms generalizing sum with
  | nil =>
    obtain rfl := finite.inj adds
    exact ⟨le_refl _, fun term mem => absurd mem List.not_mem_nil⟩
  | cons term rest ih =>
    obtain ⟨bounded, adds⟩ := of_foldl_add adds
    obtain ⟨grows, others⟩ := ih (holds_nearest Nat.one_pos bounded)
      (fun other mem => doubles other (List.mem_cons_of_mem _ mem)) adds
    have sum_le : sum ≤ nearest (sum + term) 1 :=
      le_nearest_of_holds Nat.one_pos holds (by omega)
    have term_le : term ≤ nearest (sum + term) 1 :=
      le_nearest_of_holds Nat.one_pos (doubles term List.mem_cons_self) (by omega)
    refine ⟨sum_le.trans grows, fun other mem => ?_⟩
    rcases List.mem_cons.mp mem with rfl | mem
    · exact term_le.trans grows
    · exact others other mem

/-- Each rounding adds at most a part in `2 ^ 52` of a bound on the exact sum. -/
theorem foldl_add_near {exact bound taken : Nat} (within : exact + terms.sum ≤ bound)
    (few : taken + terms.length ≤ 2 ^ 52) (near : 2 ^ 52 * sum ≤ 2 ^ 52 * exact + taken * bound)
    (adds : (terms.map finite).foldl add (finite sum) = finite last) :
    2 ^ 52 * last ≤ 2 ^ 52 * (exact + terms.sum) + (taken + terms.length) * bound := by
  induction terms generalizing sum exact taken with
  | nil =>
    obtain rfl := finite.inj adds
    simpa using near
  | cons term rest ih =>
    obtain ⟨-, adds⟩ := of_foldl_add adds
    rw [List.sum_cons] at within ⊢
    rw [List.length_cons] at few ⊢
    have one_more : 2 ^ 52 * nearest (sum + term) 1 ≤
        2 ^ 52 * (exact + term) + (taken + 1) * bound := by
      have rounds := nearest_whole_le (sum + term)
      have missed : taken * bound ≤ 2 ^ 52 * bound := Nat.mul_le_mul_right bound (by omega)
      rw [Nat.succ_mul]
      omega
    have rest_near := ih (by omega) (by omega) one_more adds
    rwa [Nat.add_assoc, Nat.add_assoc, Nat.add_comm 1] at rest_near

/-- Whole numbers up to `2 ^ 53` are added up exactly. -/
theorem foldl_add_whole {start : Nat} (small : start + terms.sum ≤ 2 ^ 53) :
    (terms.map ofNat).foldl add (finite (start * one)) = finite ((start + terms.sum) * one) := by
  induction terms generalizing start with
  | nil => rfl
  | cons term rest ih =>
    rw [List.sum_cons] at small ⊢
    have exact_sum : (finite (start * one)).add (ofNat term) = finite ((start + term) * one) := by
      rw [ofNat_of_le (by omega), add_finite, ← Nat.add_mul, ← ofNat_eq, ofNat_of_le (by omega)]
    rw [List.map_cons, List.foldl_cons, exact_sum, ih (by omega), Nat.add_assoc]

end Admission.Double

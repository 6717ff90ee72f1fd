import Admission.Proofs.Double.Order

/-!
# How near rounding comes

Rounding to a double misses by at most half a step. A step is a part in `2 ^ 52` of a number, or one
unit for the smallest ones, so a quotient is off by a part in `2 ^ 53` and half a unit, and a whole
number of units by the part only. Where the double is an even number of steps, rounding is at most
the double exactly up to half a step above it.
-/

namespace Admission

section Quotients

variable {den : Nat}

lemma roundDiv_mul_le (num : Nat) (positive : 0 < den) :
    2 * (roundDiv num den * den) ≤ 2 * num + den := by
  have whole := Nat.div_add_mod' num den
  have small := Nat.mod_lt num positive
  unfold roundDiv
  dsimp only
  split_ifs with low high
  · omega
  · rw [Nat.add_mul, Nat.one_mul]
    omega
  · rw [Nat.add_mul]
    rcases Nat.mod_two_eq_zero_or_one (num / den) with even | odd
    · rw [even]
      omega
    · rw [odd]
      omega

lemma le_roundDiv_mul (num : Nat) (positive : 0 < den) :
    2 * num ≤ 2 * (roundDiv num den * den) + den := by
  have whole := Nat.div_add_mod' num den
  have small := Nat.mod_lt num positive
  unfold roundDiv
  dsimp only
  split_ifs with low high
  · omega
  · rw [Nat.add_mul, Nat.one_mul]
    omega
  · rw [Nat.add_mul]
    omega

/-- A half goes down to an even number. -/
lemma roundDiv_le_iff {num bound : Nat} (positive : 0 < den) (even : 2 ∣ bound) :
    roundDiv num den ≤ bound ↔ 2 * num ≤ (2 * bound + 1) * den := by
  constructor
  · intro below
    calc 2 * num ≤ 2 * (roundDiv num den * den) + den := le_roundDiv_mul num positive
      _ ≤ 2 * (bound * den) + den := by gcongr
      _ = (2 * bound + 1) * den := by ring
  · intro below
    rcases Nat.lt_or_eq_of_le below with nearer | half
    · exact roundDiv_le_of_nearer nearer
    · have quotient : num / den = bound := by
        refine Nat.div_eq_of_lt_le ?_ ?_
        · linarith
        · linarith
      have rest : 2 * (num % den) = den := by
        have whole := Nat.div_add_mod' num den
        rw [quotient] at whole
        linarith
      unfold roundDiv
      rw [if_neg (by omega), if_neg (by omega), quotient, Nat.mod_eq_zero_of_dvd even, Nat.add_zero]

end Quotients

namespace Double

attribute [local irreducible] one overflow

section Nearness

variable {den : Nat}

lemma step_eq_one {units : Nat} (small : units < 2 ^ 53) : step units = 1 := by
  have log2_le : units.log2 ≤ 52 := by
    rcases Nat.eq_zero_or_pos units with rfl | positive
    · simp
    · exact Nat.le_of_lt_succ ((Nat.log2_lt positive.ne').mpr small)
  rw [step, Nat.sub_eq_zero_of_le log2_le]

lemma step_le {units : Nat} (large : 2 ^ 52 ≤ units) : 2 ^ 52 * step units ≤ units := by
  have positive : units ≠ 0 := (Nat.lt_of_lt_of_le (by norm_num) large).ne'
  have digits : 52 ≤ units.log2 := (Nat.le_log2 positive).mpr large
  calc 2 ^ 52 * step units = 2 ^ (52 + (units.log2 - 52)) := (Nat.pow_add 2 52 _).symm
    _ = 2 ^ units.log2 := by rw [Nat.add_sub_cancel' digits]
    _ ≤ units := Nat.log2_self_le positive

lemma step_le_add (units : Nat) : 2 ^ 52 * step units ≤ units + 2 ^ 52 := by
  rcases Nat.lt_or_ge units (2 ^ 52) with small | large
  · rw [step_eq_one (small.trans (by norm_num))]
    omega
  · exact (step_le large).trans (Nat.le_add_right _ _)

/-- Rounding misses a quotient by at most half a step. -/
lemma nearest_mul_le (num : Nat) (positive : 0 < den) :
    2 * (nearest num den * den) ≤ 2 * num + den * step (num / den) := by
  have near := roundDiv_mul_le num (Nat.mul_pos positive (step_pos (num / den)))
  rw [nearest]
  calc 2 * (roundDiv num (den * step (num / den)) * step (num / den) * den)
      = 2 * (roundDiv num (den * step (num / den)) * (den * step (num / den))) := by ring
    _ ≤ 2 * num + den * step (num / den) := near

lemma le_nearest_mul (num : Nat) (positive : 0 < den) :
    2 * num ≤ 2 * (nearest num den * den) + den * step (num / den) := by
  have near := le_roundDiv_mul num (Nat.mul_pos positive (step_pos (num / den)))
  rw [nearest]
  calc 2 * num
      ≤ 2 * (roundDiv num (den * step (num / den)) * (den * step (num / den))) +
        den * step (num / den) := near
    _ = 2 * (roundDiv num (den * step (num / den)) * step (num / den) * den) +
        den * step (num / den) := by ring

/-- Half a step is a part in `2 ^ 53`, or half a unit. -/
lemma step_mul_le (num : Nat) (den : Nat) :
    2 ^ 52 * (den * step (num / den)) ≤ num + 2 ^ 52 * den :=
  calc 2 ^ 52 * (den * step (num / den)) = den * (2 ^ 52 * step (num / den)) := by ring
    _ ≤ den * (num / den + 2 ^ 52) := Nat.mul_le_mul_left den (step_le_add _)
    _ = den * (num / den) + 2 ^ 52 * den := by ring
    _ ≤ num + 2 ^ 52 * den := Nat.add_le_add_right (Nat.mul_div_le num den) _

theorem nearest_le_part (num : Nat) (positive : 0 < den) :
    2 ^ 53 * (nearest num den * den) ≤ (2 ^ 53 + 1) * num + 2 ^ 52 * den := by
  linarith [nearest_mul_le num positive, step_mul_le num den]

theorem le_nearest_part (num : Nat) (positive : 0 < den) :
    (2 ^ 53 - 1) * num ≤ 2 ^ 53 * (nearest num den * den) + 2 ^ 52 * den := by
  have exact_part : (2 ^ 53 - 1) * num + num = 2 ^ 53 * num := by
    rw [Nat.sub_one_mul, Nat.sub_add_cancel (Nat.le_mul_of_pos_left num (by norm_num))]
  linarith [le_nearest_mul num positive, step_mul_le num den]

/-- A whole number of units which is small enough is a double. -/
lemma nearest_whole {units : Nat} (small : units < 2 ^ 53) : nearest units 1 = units := by
  rw [nearest, Nat.div_one, step_eq_one small]
  simp [roundDiv, Nat.mod_one]

/-- A whole number of units is missed by a part in `2 ^ 53` only. -/
theorem nearest_whole_le (units : Nat) : 2 ^ 53 * nearest units 1 ≤ (2 ^ 53 + 1) * units := by
  rcases Nat.lt_or_ge units (2 ^ 53) with small | large
  · rw [nearest_whole small]
    exact Nat.mul_le_mul_right units (Nat.le_succ _)
  · have near := nearest_mul_le units Nat.one_pos
    have part := step_le (le_trans (by norm_num) large)
    rw [Nat.div_one] at near
    linarith

theorem le_nearest_whole (units : Nat) : (2 ^ 53 - 1) * units ≤ 2 ^ 53 * nearest units 1 := by
  rcases Nat.lt_or_ge units (2 ^ 53) with small | large
  · rw [nearest_whole small]
    exact Nat.mul_le_mul_right units (Nat.sub_le _ _)
  · have near := le_nearest_mul units Nat.one_pos
    have part := step_le (le_trans (by norm_num) large)
    have exact_part : (2 ^ 53 - 1) * units + units = 2 ^ 53 * units := by
      rw [Nat.sub_one_mul, Nat.sub_add_cancel (Nat.le_mul_of_pos_left units (by norm_num))]
    rw [Nat.div_one] at near
    linarith

/-- A quotient with fewer digits than a double is below it, and so is its rounding. -/
lemma nearest_le_of_fewer_digits {num units : Nat} (positive : 0 < den)
    (divides : step units ∣ units) (fewer : (num / den).log2 < units.log2) :
    nearest num den ≤ units ∧ num ≤ units * den := by
  have quotient_lt : num / den < units := by
    by_contra above
    have log2_le : units.log2 ≤ (num / den).log2 := by
      rw [Nat.log2_eq_log_two, Nat.log2_eq_log_two]
      exact Nat.log_mono_right (Nat.le_of_not_lt above)
    omega
  have below : num ≤ units * den := ((Nat.div_lt_iff_lt_mul positive).mp quotient_lt).le
  have finer : step (num / den) ∣ units :=
    (Nat.pow_dvd_pow 2 (Nat.sub_le_sub_right fewer.le 52)).trans divides
  exact ⟨nearest_le positive finer below, below⟩

/-- A quotient with as many digits is counted in the same steps, where a half goes down to an even
number of them. -/
lemma nearest_le_iff_of_same_digits {num units : Nat} (positive : 0 < den)
    (even : 2 * step units ∣ units) (same : (num / den).log2 = units.log2) :
    nearest num den ≤ units ↔ 2 * num ≤ (2 * units + step units) * den := by
  obtain ⟨pairs, pairs_eq⟩ := even
  have same_step : step (num / den) = step units := by rw [step, same, step]
  have counted : units = 2 * pairs * step units := by
    rw [Nat.mul_right_comm]
    exact pairs_eq
  have scaled : (2 * units + step units) * den = (2 * (2 * pairs) + 1) * (den * step units) :=
    calc (2 * units + step units) * den
        = (2 * (2 * pairs * step units) + step units) * den := by rw [← counted]
      _ = (2 * (2 * pairs) + 1) * (den * step units) := by ring
  calc nearest num den ≤ units
      ↔ roundDiv num (den * step units) * step units ≤ 2 * pairs * step units := by
        rw [← counted, nearest, same_step]
    _ ↔ roundDiv num (den * step units) ≤ 2 * pairs := Nat.mul_le_mul_right_iff (step_pos units)
    _ ↔ 2 * num ≤ (2 * (2 * pairs) + 1) * (den * step units) :=
        roundDiv_le_iff (Nat.mul_pos positive (step_pos units)) (Nat.dvd_mul_right 2 pairs)
    _ ↔ 2 * num ≤ (2 * units + step units) * den := by rw [scaled]

/-- Between a double and a quotient with more digits there is a power of two, which is a step above
the double at least. -/
lemma add_step_le_of_more_digits {num units : Nat} (positive : 0 < den)
    (divides : step units ∣ units) (more : units.log2 < (num / den).log2) :
    units + step units ≤ nearest num den ∧ (units + step units) * den ≤ num := by
  have quotient_pos : num / den ≠ 0 := by
    intro zero
    simp [zero] at more
  have low : 2 ^ (num / den).log2 * den ≤ num :=
    (Nat.le_div_iff_mul_le positive).mp (Nat.log2_self_le quotient_pos)
  have units_lt : units < 2 ^ (num / den).log2 :=
    Nat.lt_log2_self.trans_le (Nat.pow_le_pow_right (by norm_num) more)
  have gap : units + step units ≤ 2 ^ (num / den).log2 := by
    have far := Nat.le_of_dvd (Nat.sub_pos_of_lt units_lt)
      (Nat.dvd_sub (step_dvd_two_pow more.le) divides)
    omega
  have above : 2 ^ (num / den).log2 ≤ nearest num den :=
    le_nearest positive (step_dvd_two_pow (le_refl _)) low
  exact ⟨gap.trans above, (Nat.mul_le_mul_right den gap).trans low⟩

/-- From a double which is an even number of steps rounding goes up past half a step only. -/
theorem nearest_le_iff {num units : Nat} (positive : 0 < den) (even : 2 * step units ∣ units) :
    nearest num den ≤ units ↔ 2 * num ≤ (2 * units + step units) * den := by
  have divides : step units ∣ units := (Nat.dvd_mul_left _ _).trans even
  have half := Nat.mul_pos (step_pos units) positive
  rcases Nat.lt_trichotomy (num / den).log2 units.log2 with fewer | same | more
  · obtain ⟨rounded_below, below⟩ := nearest_le_of_fewer_digits positive divides fewer
    exact iff_of_true rounded_below (by linarith)
  · exact nearest_le_iff_of_same_digits positive even same
  · obtain ⟨rounded_above, above⟩ := add_step_le_of_more_digits positive divides more
    exact iff_of_false (by have step_pos := step_pos units; omega) (by intro near; linarith)

/-- Whole numbers below `2 ^ 52` are an even number of steps. -/
lemma two_step_dvd {n : Nat} (small : n < 2 ^ 52) : 2 * step (n * one) ∣ n * one := by
  obtain ⟨places, -, one_eq⟩ := exists_one_eq
  rcases Nat.eq_zero_or_pos n with rfl | positive
  · simp
  have scale_pos : n * one ≠ 0 := (Nat.mul_pos positive one_pos).ne'
  have log2_lt : (n * one).log2 < 52 + (53 + places) := by
    refine (Nat.log2_lt scale_pos).mpr ?_
    rw [Nat.pow_add, one_eq]
    exact Nat.mul_lt_mul_of_pos_right small (Nat.two_pow_pos _)
  have coarse : 2 * step (n * one) ∣ one := by
    have doubled : 2 * step (n * one) = 2 ^ ((n * one).log2 - 52 + 1) := by
      rw [step, Nat.pow_succ, Nat.mul_comm]
      rfl
    have divides : 2 ^ ((n * one).log2 - 52 + 1) ∣ 2 ^ (53 + places) :=
      Nat.pow_dvd_pow 2 (by omega)
    rw [doubled]
    exact divides.trans (dvd_of_eq one_eq.symm)
  exact coarse.trans (Nat.dvd_mul_left one n)

end Nearness

end Double
end Admission

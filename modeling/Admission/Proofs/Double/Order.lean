import Admission.Proofs.Double
import Mathlib.Data.Nat.Log

/-!
# Rounding keeps the order

A larger number is not rounded to less: two numbers with the same step between doubles are compared
step by step, and between two with different steps there is a power of two, which is a double. So
quotients, lesser numbers and products are in the order of what they are taken of.
-/

namespace Admission

/-- A larger number is not rounded to a smaller whole number. -/
lemma roundDiv_mono {num more : Nat} (le : num ≤ more) (den : Nat) :
    roundDiv num den ≤ roundDiv more den := by
  have whole := Nat.div_add_mod num den
  have whole_more := Nat.div_add_mod more den
  have quotient_le : num / den ≤ more / den := Nat.div_le_div_right le
  rcases Nat.lt_or_eq_of_le quotient_le with less | same
  · unfold roundDiv
    dsimp only
    split_ifs <;> omega
  · have rest_le : num % den ≤ more % den := by
      rw [same] at whole
      omega
    unfold roundDiv
    rw [same]
    dsimp only
    split_ifs <;> omega

/-- A quotient is rounded as it is in its lowest terms. -/
lemma roundDiv_mul_right {factor : Nat} (positive : 0 < factor) (num den : Nat) :
    roundDiv (num * factor) (den * factor) = roundDiv num den := by
  have below : 2 * (num % den * factor) < den * factor ↔ 2 * (num % den) < den := by
    rw [← Nat.mul_assoc, Nat.mul_lt_mul_right positive]
  have above : den * factor < 2 * (num % den * factor) ↔ den < 2 * (num % den) := by
    rw [← Nat.mul_assoc, Nat.mul_lt_mul_right positive]
  simp only [roundDiv, Nat.mul_div_mul_right _ _ positive, Nat.mul_mod_mul_right, below, above]

namespace Double

attribute [local irreducible] one overflow

section Rounding

variable {num more den : Nat}

lemma step_dvd_two_pow {units places : Nat} (small : units.log2 ≤ places) :
    step units ∣ 2 ^ places :=
  Nat.pow_dvd_pow 2 ((Nat.sub_le _ _).trans small)

lemma nearest_mul_right {factor : Nat} (positive : 0 < factor) (num den : Nat) :
    nearest (num * factor) (den * factor) = nearest num den := by
  rw [nearest, Nat.mul_div_mul_right _ _ positive, Nat.mul_right_comm,
    roundDiv_mul_right positive, nearest]

lemma round_mul_right {factor : Nat} (positive : 0 < factor) (num den : Nat) :
    round (num * factor) (den * factor) = round num den := by
  rw [round_eq, nearest_mul_right positive, round_eq]

theorem nearest_mono (positive : 0 < den) (le : num ≤ more) :
    nearest num den ≤ nearest more den := by
  have quotient_le : num / den ≤ more / den := Nat.div_le_div_right le
  have log2_le : (num / den).log2 ≤ (more / den).log2 := by
    rw [Nat.log2_eq_log_two, Nat.log2_eq_log_two]
    exact Nat.log_mono_right quotient_le
  rcases Nat.lt_or_eq_of_le log2_le with coarse | same
  swap
  · unfold nearest step
    rw [same]
    exact Nat.mul_le_mul_right _ (roundDiv_mono le _)
  · -- The power of two at the larger number is above the smaller one.
    have more_pos : more / den ≠ 0 := by
      intro zero
      simp [zero] at coarse
    have below : num ≤ 2 ^ (more / den).log2 * den := by
      have less : num / den < 2 ^ (more / den).log2 :=
        Nat.lt_log2_self.trans_le (Nat.pow_le_pow_right (by norm_num) coarse)
      exact ((Nat.div_lt_iff_lt_mul positive).mp less).le
    have above : 2 ^ (more / den).log2 * den ≤ more :=
      (Nat.le_div_iff_mul_le positive).mp (Nat.log2_self_le more_pos)
    calc nearest num den ≤ 2 ^ (more / den).log2 :=
          nearest_le positive (step_dvd_two_pow coarse.le) below
      _ ≤ nearest more den := le_nearest positive (step_dvd_two_pow (le_refl _)) above

theorem round_mono (positive : 0 < den) (le : num ≤ more) : round num den ≤ round more den := by
  have nearest_le := nearest_mono positive le
  rcases Nat.lt_or_ge (nearest more den) overflow with bounded | unbounded
  · rw [round_of_lt bounded, round_of_lt (nearest_le.trans_lt bounded), finite_le_finite]
    exact nearest_le
  · rw [round_of_le unbounded]
    exact le_infinite _

end Rounding

/-- How many units a finite double has. -/
def units : Double → Nat
  | finite units => units
  | infinite => 0

@[simp] lemma units_finite (count : Nat) : (finite count).units = count := rfl

section Operations

variable {a b : Nat}

lemma div_finite {divisor : Nat} (positive : 0 < divisor) (a : Nat) :
    (finite a).div (finite divisor) = round (a * one) divisor := by
  rw [div, if_neg positive.ne']

lemma add_finite (a b : Nat) : (finite a).add (finite b) = round (a + b) 1 := rfl

lemma div_mono (le : a ≤ b) (divisor : Double) :
    (finite a).div divisor ≤ (finite b).div divisor := by
  cases divisor with
  | infinite => simp [div]
  | finite divisor =>
    rcases Nat.eq_zero_or_pos divisor with rfl | positive
    · exact le_infinite _
    · rw [div_finite positive, div_finite positive]
      exact round_mono positive (Nat.mul_le_mul_right one le)

/-- The lesser of a double and a finite one is finite. -/
lemma exists_min (double : Double) (bound : Nat) :
    ∃ units, double.min (finite bound) = finite units ∧ units ≤ bound := by
  cases double with
  | finite units => exact ⟨_, rfl, Nat.min_le_right units bound⟩
  | infinite => exact ⟨bound, rfl, le_refl _⟩

lemma min_of_le {units bound : Nat} (le : units ≤ bound) :
    (finite units).min (finite bound) = finite units :=
  congrArg finite (Nat.min_eq_left le)

lemma min_mono {double more : Double} (le : double ≤ more) (bound : Nat) :
    double.min (finite bound) ≤ more.min (finite bound) := by
  cases more with
  | infinite =>
    obtain ⟨units, same, below⟩ := exists_min double bound
    rw [same]
    exact finite_le_finite.mpr below
  | finite more =>
    obtain ⟨units, rfl, less⟩ := le_finite_iff.mp le
    exact finite_le_finite.mpr (min_le_min_right bound less)

/-- The smallest whole number which is not below a number of units. -/
def ceiling (units : Nat) : Nat := (units + (one - 1)) / one

@[simp] lemma ceil?_finite (units : Nat) : (finite units).ceil? = some (ceiling units) := rfl

lemma ceiling_le_iff {units n : Nat} : ceiling units ≤ n ↔ units ≤ n * one := by
  have positive := one_pos
  unfold ceiling
  rw [← Nat.lt_succ_iff, Nat.div_lt_iff_lt_mul positive, Nat.succ_mul]
  omega

lemma ceiling_mono (le : a ≤ b) : ceiling a ≤ ceiling b :=
  ceiling_le_iff.mpr (le.trans (ceiling_le_iff.mp (le_refl _)))

end Operations

end Double
end Admission

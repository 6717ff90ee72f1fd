import Admission.Double
import Mathlib.Tactic.Ring
import Mathlib.Tactic.Linarith

/-!
# Rounding

A double has 53 binary digits. Rounding to doubles never goes past a double, and what is less than
half a step above a double is not rounded up from it. So whole numbers up to `2 ^ 53` are kept as
they are, and a product with a factor below one is below the other factor, although it is rounded.
-/

namespace Admission

section Quotients

variable {num den bound : Nat}

/-- What is less than a half above a whole number is not rounded above it. -/
lemma roundDiv_le_of_nearer (nearer : 2 * num < (2 * bound + 1) * den) :
    roundDiv num den ≤ bound := by
  have whole := Nat.div_add_mod num den
  have quotient_le : num / den ≤ bound := by
    by_contra above
    have more : (bound + 1) * den ≤ den * (num / den) := by
      rw [Nat.mul_comm den]
      exact Nat.mul_le_mul_right den (Nat.lt_of_not_le above)
    linarith [Nat.zero_le den, Nat.zero_le (num % den)]
  rcases Nat.lt_or_eq_of_le quotient_le with less | same
  · unfold roundDiv
    dsimp only
    split_ifs <;> omega
  · have rest_small : 2 * (num % den) < den := by
      rw [same] at whole
      linarith
    unfold roundDiv
    rw [if_pos rest_small]
    exact quotient_le

lemma roundDiv_le (positive : 0 < den) (below : num ≤ bound * den) :
    roundDiv num den ≤ bound :=
  roundDiv_le_of_nearer (by linarith)

lemma le_roundDiv (positive : 0 < den) (above : bound * den ≤ num) :
    bound ≤ roundDiv num den := by
  have quotient : bound ≤ num / den := (Nat.le_div_iff_mul_le positive).mpr above
  unfold roundDiv
  dsimp only
  split_ifs <;> omega

end Quotients

namespace Double

-- Numerals of a thousand bits are not to be computed with.
attribute [local irreducible] one overflow

/-- The numbers of units which a double may have: 53 binary digits, and zeros behind them. -/
def Holds (units : Nat) : Prop :=
  units < overflow ∧ ∃ digits places, digits < 2 ^ 53 ∧ units = digits * 2 ^ places

/-- A double as it comes from a computation: its number of units is one which a double may have. -/
inductive Proper : Double → Prop
  | finite {units : Nat} (holds : Holds units) : Proper (finite units)
  | infinite : Proper infinite

instance : LE Double where
  le a b := b.lt a = false

@[simp] lemma finite_le_finite {a b : Nat} : finite a ≤ finite b ↔ a ≤ b := by
  change decide (b < a) = false ↔ a ≤ b
  rw [decide_eq_false_iff_not, not_lt]

@[simp] lemma le_infinite (a : Double) : a ≤ infinite := rfl

@[simp] lemma not_infinite_le_finite {a : Nat} : ¬infinite ≤ finite a := Bool.noConfusion

protected lemma le_refl (a : Double) : a ≤ a := by
  cases a <;> simp

lemma le_finite_iff {a : Double} {units : Nat} :
    a ≤ finite units ↔ ∃ lower, a = finite lower ∧ lower ≤ units := by
  cases a with
  | finite lower => simp
  | infinite => simp

section Grid

variable {units places digits : Nat}

lemma holds_of_lt (few : digits < 2 ^ 53) (bounded : digits * 2 ^ places < overflow) :
    Holds (digits * 2 ^ places) :=
  ⟨bounded, digits, places, few, rfl⟩

/-- The largest number of digits is rounded up to a power of two, which has fewer. -/
lemma holds_of_le (few : digits ≤ 2 ^ 53) (bounded : digits * 2 ^ places < overflow) :
    Holds (digits * 2 ^ places) := by
  rcases Nat.lt_or_eq_of_le few with less | rfl
  · exact holds_of_lt less bounded
  · have shifted : 2 ^ 53 * 2 ^ places = 2 ^ 52 * 2 ^ (places + 1) := by ring
    rw [shifted] at bounded ⊢
    exact holds_of_lt (by norm_num) bounded

lemma two_pow_lt_overflow (bounded : places < 2098) : 2 ^ places < overflow := by
  have log2_overflow : overflow.log2 = 2098 := by decide +kernel
  have overflow_ne_zero : overflow ≠ 0 := by decide +kernel
  calc 2 ^ places < 2 ^ overflow.log2 := Nat.pow_lt_pow_right (by norm_num) (by omega)
    _ ≤ overflow := Nat.log2_self_le overflow_ne_zero

lemma digits_lt_overflow (few : digits ≤ 2 ^ 53) (bounded : places < 2045) :
    digits * 2 ^ places < overflow :=
  calc digits * 2 ^ places ≤ 2 ^ 53 * 2 ^ places := Nat.mul_le_mul_right _ few
    _ = 2 ^ (53 + places) := (Nat.pow_add 2 53 places).symm
    _ < overflow := two_pow_lt_overflow (by omega)

lemma holds_two_pow (bounded : places < 2098) : Holds (2 ^ places) := by
  have below : 1 * 2 ^ places < overflow := by
    rw [one_mul]
    exact two_pow_lt_overflow bounded
  simpa using holds_of_lt (by norm_num) below

/-- A double from a power of two on is a multiple of the step there. -/
lemma Holds.dvd (holds : Holds units) (large : 2 ^ (places + 52) ≤ units) :
    2 ^ places ∣ units := by
  obtain ⟨-, digits, zeros, few, rfl⟩ := holds
  have enough : places ≤ zeros := by
    by_contra short
    have fewer_zeros : zeros + 53 ≤ places + 52 := by omega
    have small : digits * 2 ^ zeros < 2 ^ (places + 52) :=
      calc digits * 2 ^ zeros < 2 ^ 53 * 2 ^ zeros :=
            Nat.mul_lt_mul_of_pos_right few (by positivity)
        _ = 2 ^ (zeros + 53) := by rw [← Nat.pow_add, Nat.add_comm]
        _ ≤ 2 ^ (places + 52) := Nat.pow_le_pow_right (by norm_num) fewer_zeros
    omega
  exact Dvd.dvd.mul_left (Nat.pow_dvd_pow 2 enough) digits

lemma step_pos (units : Nat) : 0 < step units := Nat.pow_pos (by norm_num)

/-- The steps below a double divide it. -/
lemma Holds.step_dvd {below : Nat} (holds : Holds units) (large : below ≤ units) :
    step below ∣ units := by
  unfold step
  by_cases fine : below.log2 ≤ 52
  · simp [Nat.sub_eq_zero_of_le fine]
  · have positive : below ≠ 0 := by
      rintro rfl
      simp at fine
    have power : 2 ^ (below.log2 - 52 + 52) ≤ units := by
      rw [Nat.sub_add_cancel (by omega)]
      exact (Nat.log2_self_le positive).trans large
    exact holds.dvd power

/-- Between a double and what is above it lies a multiple of the step there. -/
lemma Holds.exists_multiple {above : Nat} (holds : Holds units) (large : units ≤ above) :
    ∃ multiple, units ≤ multiple ∧ multiple ≤ above ∧ step above ∣ multiple := by
  by_cases divides : step above ∣ units
  · exact ⟨units, le_refl _, large, divides⟩
  have coarse : 52 < above.log2 := by
    by_contra fine
    rw [step, Nat.sub_eq_zero_of_le (Nat.le_of_not_lt fine)] at divides
    exact divides (one_dvd _)
  have positive : above ≠ 0 := by
    rintro rfl
    simp at coarse
  refine ⟨2 ^ above.log2, ?_, Nat.log2_self_le positive, Nat.pow_dvd_pow 2 (Nat.sub_le _ _)⟩
  by_contra beyond
  rw [← Nat.sub_add_cancel coarse.le] at beyond
  exact divides (holds.dvd (Nat.le_of_not_le beyond))

/-- Around a number 53 digits are enough to count it in steps. -/
lemma lt_digits_mul_step (units : Nat) : units < 2 ^ 53 * step units :=
  calc units < 2 ^ (units.log2 + 1) := Nat.lt_log2_self
    _ ≤ 2 ^ (53 + (units.log2 - 52)) := Nat.pow_le_pow_right (by norm_num) (by omega)
    _ = 2 ^ 53 * step units := Nat.pow_add 2 53 _

end Grid

section Rounding

variable {num den units : Nat}

/-- The nearest number of units which 53 digits can tell, however large it is. -/
def nearest (num den : Nat) : Nat :=
  roundDiv num (den * step (num / den)) * step (num / den)

lemma round_eq (num den : Nat) :
    round num den =
      if nearest num den < overflow then finite (nearest num den) else infinite := rfl

lemma round_of_lt (bounded : nearest num den < overflow) :
    round num den = finite (nearest num den) := by
  rw [round_eq, if_pos bounded]

lemma round_of_le (unbounded : overflow ≤ nearest num den) : round num den = infinite := by
  rw [round_eq, if_neg (Nat.not_lt_of_le unbounded)]

/-- What is not above a multiple of the step is not rounded above it. -/
lemma nearest_le {bound : Nat} (positive : 0 < den) (divides : step (num / den) ∣ bound)
    (below : num ≤ bound * den) : nearest num den ≤ bound := by
  obtain ⟨steps, rfl⟩ := divides
  have few : roundDiv num (den * step (num / den)) ≤ steps := by
    refine roundDiv_le (Nat.mul_pos positive (step_pos _)) (below.trans (le_of_eq ?_))
    ring
  rw [nearest, Nat.mul_comm]
  exact Nat.mul_le_mul_left _ few

/-- What is not below a multiple of the step is not rounded below it. -/
lemma le_nearest {bound : Nat} (positive : 0 < den) (divides : step (num / den) ∣ bound)
    (above : bound * den ≤ num) : bound ≤ nearest num den := by
  obtain ⟨steps, rfl⟩ := divides
  have enough : steps ≤ roundDiv num (den * step (num / den)) := by
    refine le_roundDiv (Nat.mul_pos positive (step_pos _)) ?_
    calc steps * (den * step (num / den)) = step (num / den) * steps * den := by ring
      _ ≤ num := above
  rw [nearest, Nat.mul_comm]
  exact Nat.mul_le_mul_right _ enough

lemma nearest_le_of_holds (positive : 0 < den) (holds : Holds units) (below : num ≤ units * den) :
    nearest num den ≤ units := by
  have quotient_le : num / den ≤ units :=
    Nat.div_le_of_le_mul (by rwa [Nat.mul_comm])
  exact nearest_le positive (holds.step_dvd quotient_le) below

/-- What is not above a double is not rounded to more than it. -/
theorem round_le (positive : 0 < den) (holds : Holds units) (below : num ≤ units * den) :
    round num den ≤ finite units := by
  have le_units := nearest_le_of_holds positive holds below
  rw [round_of_lt (le_units.trans_lt holds.1), finite_le_finite]
  exact le_units

lemma le_nearest_of_holds (positive : 0 < den) (holds : Holds units) (above : units * den ≤ num) :
    units ≤ nearest num den := by
  obtain ⟨multiple, more, below, divides⟩ :=
    holds.exists_multiple ((Nat.le_div_iff_mul_le positive).mpr above)
  have multiple_le : multiple ≤ nearest num den :=
    le_nearest positive divides ((Nat.le_div_iff_mul_le positive).mp below)
  exact more.trans multiple_le

/-- What is not below a double is not rounded to less than it. -/
theorem le_round (positive : 0 < den) (holds : Holds units) (above : units * den ≤ num) :
    finite units ≤ round num den := by
  rcases Nat.lt_or_ge (nearest num den) overflow with bounded | unbounded
  · rw [round_of_lt bounded, finite_le_finite]
    exact le_nearest_of_holds positive holds above
  · rw [round_of_le unbounded]
    exact le_infinite _

lemma holds_nearest (positive : 0 < den) (bounded : nearest num den < overflow) :
    Holds (nearest num den) := by
  have below : num ≤ 2 ^ 53 * (den * step (num / den)) :=
    calc num ≤ den * (num / den + 1) := (Nat.lt_mul_div_succ num positive).le
      _ ≤ den * (2 ^ 53 * step (num / den)) := Nat.mul_le_mul_left den (lt_digits_mul_step _)
      _ = 2 ^ 53 * (den * step (num / den)) := by ring
  have few := roundDiv_le (Nat.mul_pos positive (step_pos _)) below
  unfold nearest step at bounded ⊢
  exact holds_of_le few bounded

/-- Rounding gives a double. -/
theorem round_proper (positive : 0 < den) : (round num den).Proper := by
  rcases Nat.lt_or_ge (nearest num den) overflow with bounded | unbounded
  · rw [round_of_lt bounded]
    exact .finite (holds_nearest positive bounded)
  · rw [round_of_le unbounded]
    exact .infinite

lemma ofRatio_proper (num : Nat) (positive : 0 < den) : (ofRatio num den).Proper :=
  round_proper positive

lemma round_eq_of_holds (positive : 0 < den) (holds : Holds units) :
    round (units * den) den = finite units := by
  obtain ⟨rounded, same, below⟩ := le_finite_iff.mp (round_le positive holds (le_refl _))
  have above := le_round positive holds (le_refl (units * den))
  rw [same, finite_le_finite] at above
  rw [same, Nat.le_antisymm below above]

/-- What is less than half a step above a double with all of its digits is not rounded up from
it. -/
lemma round_le_of_nearer {digits places : Nat} (positive : 0 < den) (full : 2 ^ 52 ≤ digits)
    (few : digits < 2 ^ 53) (bounded : digits * 2 ^ places < overflow)
    (nearer : 2 * num < (2 * digits + 1) * (den * 2 ^ places)) :
    round num den ≤ finite (digits * 2 ^ places) := by
  rcases Nat.le_total num (digits * 2 ^ places * den) with below | above
  · exact round_le positive (holds_of_lt few bounded) below
  have low : 2 ^ (places + 52) ≤ num / den :=
    calc 2 ^ (places + 52) = 2 ^ 52 * 2 ^ places := by ring
      _ ≤ digits * 2 ^ places := Nat.mul_le_mul_right _ full
      _ ≤ num / den := (Nat.le_div_iff_mul_le positive).mpr above
  have high : num / den < 2 ^ (places + 52 + 1) := by
    rw [Nat.div_lt_iff_lt_mul positive]
    calc num < (digits + 1) * (den * 2 ^ places) := by linarith
      _ ≤ 2 ^ 53 * (den * 2 ^ places) := Nat.mul_le_mul_right _ few
      _ = 2 ^ (places + 52 + 1) * den := by ring
  have log2_quotient : (num / den).log2 = places + 52 :=
    (Nat.log2_eq_iff (Nat.lt_of_lt_of_le (Nat.two_pow_pos _) low).ne').mpr ⟨low, high⟩
  have same_step : step (num / den) = 2 ^ places := by
    rw [step, log2_quotient, Nat.add_sub_cancel]
    rfl
  have nearest_le : nearest num den ≤ digits * 2 ^ places := by
    rw [nearest, same_step]
    exact Nat.mul_le_mul_right _ (roundDiv_le_of_nearer nearer)
  rw [round_of_lt (nearest_le.trans_lt bounded), finite_le_finite]
  exact nearest_le

end Rounding

section Whole

variable {n : Nat}

/-- One is a power of two; which one does not matter, but that products with it are in range. -/
lemma exists_one_eq : ∃ places, places < 1900 ∧ one = 2 ^ (53 + places) :=
  ⟨1021, by norm_num, by decide +kernel⟩

lemma one_pos : 0 < one := by decide +kernel

@[simp] lemma floor?_finite (units : Nat) : (finite units).floor? = some (units / one) := rfl

lemma ofNat_eq (n : Nat) : ofNat n = round (n * one) 1 := rfl

/-- Whole numbers up to `2 ^ 53` are doubles. -/
lemma holds_mul_one (exact : n ≤ 2 ^ 53) : Holds (n * one) := by
  obtain ⟨places, bounded, one_eq⟩ := exists_one_eq
  rw [one_eq]
  exact holds_of_le exact (digits_lt_overflow exact (by omega))

lemma holds_zero : Holds 0 := by
  have none := holds_mul_one (show 0 ≤ 2 ^ 53 by norm_num)
  rwa [Nat.zero_mul] at none

lemma holds_one : Holds one := by
  have first := holds_mul_one (show 1 ≤ 2 ^ 53 by norm_num)
  rwa [Nat.one_mul] at first

/-- So are their halves. -/
lemma exists_half : ∃ half, one = 2 * half ∧ ∀ n ≤ 2 ^ 53, Holds (n * half) := by
  obtain ⟨places, bounded, one_eq⟩ := exists_one_eq
  refine ⟨2 ^ (52 + places), ?_, fun n exact => holds_of_le exact ?_⟩
  · rw [one_eq]
    ring
  · exact digits_lt_overflow exact (by omega)

lemma ofNat_of_le (exact : n ≤ 2 ^ 53) : ofNat n = finite (n * one) := by
  rw [ofNat_eq]
  simpa using round_eq_of_holds Nat.one_pos (holds_mul_one exact)

/-- A number which a word can hold is rounded to a finite double. -/
lemma exists_ofNat (word : n ≤ 2 ^ 64) : ∃ units, ofNat n = finite units ∧ Holds units := by
  obtain ⟨places, bounded, one_eq⟩ := exists_one_eq
  have highest := @holds_two_pow (64 + (53 + places)) (by omega)
  rw [Nat.pow_add, ← one_eq] at highest
  have below : n * one ≤ 2 ^ 64 * one * 1 := by
    rw [Nat.mul_one]
    exact Nat.mul_le_mul_right one word
  obtain ⟨units, same, -⟩ := le_finite_iff.mp (round_le Nat.one_pos highest below)
  have proper := @round_proper (n * one) 1 Nat.one_pos
  rw [same] at proper
  cases proper with
  | finite holds => exact ⟨units, same, holds⟩

variable {whole : Nat}

lemma whole_of_le (exact : n ≤ 2 ^ 53) (rounded : ofNat n = finite whole) : whole = n * one := by
  rw [ofNat_of_le exact] at rounded
  exact (finite.inj rounded).symm

lemma one_le_whole (positive : 1 ≤ n) (rounded : ofNat n = finite whole) : one ≤ whole := by
  have covers : one * 1 ≤ n * one := by
    rw [Nat.mul_comm]
    exact Nat.mul_le_mul_right one positive
  have above := le_round Nat.one_pos holds_one covers
  rwa [← ofNat_eq, rounded, finite_le_finite] at above

/-- A double below the one which a whole number is rounded to is below the number itself. -/
lemma floor_lt {units : Nat} (holds : Holds units) (rounded : ofNat n = finite whole)
    (less : units < whole) : units / one < n := by
  by_contra reached
  have covered : n * one ≤ units * 1 := by
    rw [Nat.mul_one]
    exact (Nat.le_div_iff_mul_le one_pos).mp (Nat.le_of_not_lt reached)
  have below := round_le Nat.one_pos holds covered
  rw [← ofNat_eq, rounded, finite_le_finite] at below
  exact Nat.not_le_of_lt less below

end Whole

section Products

variable {units factor places : Nat}

lemma mul_finite (a b : Nat) : (finite a).mul (finite b) = round (a * b) one := rfl

/-- The last double before a power of two. -/
lemma Holds.le_of_lt_two_pow (holds : Holds units) (less : units < 2 ^ (53 + places)) :
    units ≤ (2 ^ 53 - 1) * 2 ^ places := by
  rcases Nat.lt_or_ge units (2 ^ (places + 52)) with small | large
  · rw [Nat.pow_add, Nat.mul_comm] at small
    exact small.le.trans (Nat.mul_le_mul_right _ (by norm_num))
  · obtain ⟨steps, rfl⟩ := holds.dvd large
    rw [Nat.pow_add, Nat.mul_comm] at less
    have few := Nat.lt_of_mul_lt_mul_right less
    rw [Nat.mul_comm]
    exact Nat.mul_le_mul_right _ (by omega)

/-- The digits of a double which is large enough to have all of them. -/
lemma Holds.exists_digits (holds : Holds units) (large : 2 ^ 53 ≤ units) :
    ∃ digits places, 2 ^ 52 ≤ digits ∧ digits < 2 ^ 53 ∧ units = digits * 2 ^ (places + 1) := by
  have positive : units ≠ 0 := (Nat.lt_of_lt_of_le (by norm_num) large).ne'
  obtain ⟨places, log2_units⟩ : ∃ places, units.log2 = places + 1 + 52 :=
    ⟨units.log2 - 53, by have := (Nat.le_log2 positive).mpr large; omega⟩
  obtain ⟨low, high⟩ := (Nat.log2_eq_iff positive).mp log2_units
  obtain ⟨digits, rfl⟩ := holds.dvd low
  refine ⟨digits, places, ?_, ?_, Nat.mul_comm _ _⟩
  · rw [Nat.pow_add] at low
    exact Nat.le_of_mul_le_mul_left low (by positivity)
  · have split : 2 ^ (places + 1 + 52 + 1) = 2 ^ (places + 1) * 2 ^ 53 := by ring
    rw [split] at high
    exact Nat.lt_of_mul_lt_mul_left high

/-- A factor below one makes a double smaller, unless it is so small that it has not all of its
digits. -/
theorem mul_lt (holds : Holds units) (large : 2 ^ 53 ≤ units) (proper : Holds factor)
    (less : factor < one) :
    ∃ product, (finite units).mul (finite factor) = finite product ∧ Holds product ∧
      product < units := by
  suffices ∃ bound, (finite units).mul (finite factor) ≤ finite bound ∧ bound < units by
    obtain ⟨bound, below, smaller⟩ := this
    obtain ⟨product, same, product_le⟩ := le_finite_iff.mp below
    have result := @round_proper (units * factor) one one_pos
    rw [← mul_finite, same] at result
    cases result with
    | finite found => exact ⟨product, same, found, product_le.trans_lt smaller⟩
  obtain ⟨more, -, one_eq⟩ := exists_one_eq
  have factor_le := proper.le_of_lt_two_pow (one_eq ▸ less)
  obtain ⟨digits, places, full, few, rfl⟩ := holds.exists_digits large
  rcases Nat.lt_or_eq_of_le full with above | same
  · -- The double before has the same step, and the product is nearer to it.
    obtain ⟨fewer, rfl⟩ : ∃ fewer, digits = fewer + 1 := ⟨digits - 1, by omega⟩
    have smaller : fewer * 2 ^ (places + 1) < (fewer + 1) * 2 ^ (places + 1) :=
      Nat.mul_lt_mul_of_pos_right (Nat.lt_succ_self fewer) (by positivity)
    refine ⟨fewer * 2 ^ (places + 1), ?_, smaller⟩
    refine round_le_of_nearer one_pos (by omega) (by omega) (smaller.trans holds.1) ?_
    have nearer : 2 * (fewer + 1) * (2 ^ 53 - 1) < (2 * fewer + 1) * 2 ^ 53 := by omega
    calc 2 * ((fewer + 1) * 2 ^ (places + 1) * factor)
        ≤ 2 * ((fewer + 1) * 2 ^ (places + 1) * ((2 ^ 53 - 1) * 2 ^ more)) := by gcongr
      _ = 2 * (fewer + 1) * (2 ^ 53 - 1) * (2 ^ more * 2 ^ (places + 1)) := by ring
      _ < (2 * fewer + 1) * 2 ^ 53 * (2 ^ more * 2 ^ (places + 1)) :=
          Nat.mul_lt_mul_of_pos_right nearer (by positivity)
      _ = (2 * fewer + 1) * (one * 2 ^ (places + 1)) := by rw [one_eq]; ring
  · -- A power of two: below it the steps are half as long.
    subst same
    have smaller : (2 ^ 53 - 1) * 2 ^ places < 2 ^ 52 * 2 ^ (places + 1) :=
      calc (2 ^ 53 - 1) * 2 ^ places < 2 ^ 53 * 2 ^ places :=
            Nat.mul_lt_mul_of_pos_right (by norm_num) (by positivity)
        _ = 2 ^ 52 * 2 ^ (places + 1) := by ring
    refine ⟨(2 ^ 53 - 1) * 2 ^ places, ?_, smaller⟩
    refine round_le one_pos (holds_of_lt (by norm_num) (smaller.trans holds.1)) ?_
    calc 2 ^ 52 * 2 ^ (places + 1) * factor
        ≤ 2 ^ 52 * 2 ^ (places + 1) * ((2 ^ 53 - 1) * 2 ^ more) := by gcongr
      _ = (2 ^ 53 - 1) * 2 ^ places * one := by rw [one_eq]; ring

end Products

end Double
end Admission

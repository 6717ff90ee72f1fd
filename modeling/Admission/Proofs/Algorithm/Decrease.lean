import Admission.Proofs.Algorithm.Increase

/-!
# Multiplicative decrease

A job which is dropped lowers the limit by at least one, whatever the factor and however large the
limit: the product is rounded, as are limits above `2 ^ 53`, but it stays a double which is less
than the limit's own. As the factor is a half at least, no more than half of a limit up to `2 ^ 53`
is lost.
-/

namespace Admission

/-- What an algorithm is after it has learned from samples. -/
def Algorithm.after {α : Type} [Algorithm α] (rule : α) (samples : List Sample) : α :=
  samples.foldl (fun rule sample => (Algorithm.update rule sample).1) rule

namespace Aimd

attribute [local irreducible] Double.one

section Scaling

variable {factor : Double} {limit : Nat}

/-- The product of a limit and a factor is below the limit, and not below half of it as long as the
limit itself is a double. -/
lemma exists_product (isFactor : IsFactor factor) (positive : 1 ≤ limit) (word : limit < wordSize) :
    ∃ product, ((Double.ofNat limit).mul factor).floor? = some product ∧ product < limit ∧
      (limit ≤ 2 ^ 53 → limit / 2 ≤ product) := by
  obtain ⟨units, rfl, holds, low, high⟩ := isFactor
  obtain ⟨whole, rounded, whole_holds⟩ := Double.exists_ofNat (Nat.le_of_lt word)
  have large : 2 ^ 53 ≤ Double.one := by decide +kernel
  obtain ⟨product, mul_eq, product_holds, less⟩ := Double.mul_lt whole_holds
    (large.trans (Double.one_le_whole positive rounded)) holds high
  refine ⟨product / Double.one, ?_, Double.floor_lt product_holds rounded less, fun exact => ?_⟩
  · rw [rounded, mul_eq, Double.floor?_finite]
  · obtain ⟨half, one_eq, halves⟩ := Double.exists_half
    have half_le : limit * half * Double.one ≤ whole * units := by
      rw [Double.whole_of_le exact rounded, Nat.mul_assoc, Nat.mul_assoc, Nat.mul_comm half]
      gcongr
      omega
    have above := Double.le_round Double.one_pos (halves limit exact) half_le
    rw [← Double.mul_finite, mul_eq, Double.finite_le_finite] at above
    rw [Nat.le_div_iff_mul_le Double.one_pos, one_eq, ← Nat.mul_assoc]
    exact (Nat.mul_le_mul_right half (Nat.div_mul_le_self limit 2)).trans above

end Scaling

variable {initial : Nat} {aimd : Aimd}

lemma scaled_eq {limit product : Nat} {factor : Double}
    (floors : ((Double.ofNat limit).mul factor).floor? = some product) (word : product < wordSize) :
    scaled limit factor = product := by
  rw [scaled, floors]
  exact if_pos word

section Drops

variable {limit : Nat} {sample : Sample}

/-- What a dropped job makes of a limit. -/
lemma update_dropped (checked : Checked initial aimd) (positive : 1 ≤ limit)
    (word : limit < wordSize) (dropped : sample.outcome = .dropped) :
    ∃ product, ((Double.ofNat limit).mul aimd.decreaseFactor).floor? = some product ∧
      product < limit ∧ (limit ≤ 2 ^ 53 → limit / 2 ≤ product) ∧
      Algorithm.update { aimd with limit := limit } sample =
        ({ aimd with limit := min (max 1 product) aimd.maximum },
          .ok (min (max 1 product) aimd.maximum)) := by
  obtain ⟨product, floors, less, half_le⟩ := exists_product checked.factor positive word
  refine ⟨product, floors, less, half_le, update_of_ok ?_⟩
  rw [Aimd.next, dropped]
  dsimp only [decreased]
  rw [scaled_eq floors (less.trans word)]
  exact congrArg Except.ok (clamp_eq checked.maximum_pos product)

/-- Dropped jobs bring the limit down to one, in as many steps as it is above one at most. -/
lemma after_dropped (checked : Checked initial aimd) (positive : 1 ≤ limit)
    (word : limit < wordSize) {samples : List Sample}
    (dropped : ∀ sample ∈ samples, sample.outcome = .dropped)
    (enough : limit ≤ samples.length + 1) :
    (Algorithm.after { aimd with limit := limit } samples).limit = 1 := by
  induction samples generalizing limit with
  | nil => exact Nat.le_antisymm enough positive
  | cons sample rest ih =>
    obtain ⟨product, -, less, -, next_eq⟩ :=
      update_dropped checked positive word (dropped sample List.mem_cons_self)
    have maximum_pos := checked.maximum_pos
    have enough_left : limit ≤ rest.length + 2 := enough
    rw [Algorithm.after, List.foldl_cons, next_eq]
    exact ih (by omega) (by omega)
      (fun sample mem => dropped sample (List.mem_cons_of_mem _ mem)) (by omega)

end Drops

/-- A dropped job lowers the limit, by at least one where it is above one, but not below one; and
not below half of the limit where that is within the maximum and small enough to be a double. The
product of the limit and the factor is always a word. So as many drops as the limit is above one
bring it down to one. -/
theorem drop_lowers_limit (built : Built initial aimd) (limit : Nat) (positive : 1 ≤ limit)
    (word : limit < wordSize) (sample : Sample) (dropped : sample.outcome = .dropped) :
    let now : Aimd := { aimd with limit := limit }
    ∃ next, Algorithm.update now sample = ({ aimd with limit := next }, .ok next) ∧
      1 ≤ next ∧ (2 ≤ limit → next < limit) ∧ (limit = 1 → next = 1) ∧
      (limit ≤ aimd.maximum → limit ≤ 2 ^ 53 → limit / 2 ≤ next) ∧
      (∃ product, ((Double.ofNat limit).mul aimd.decreaseFactor).floor? = some product ∧
        product < wordSize ∧ next = now.clamp product) ∧
      ∀ samples : List Sample, (∀ sample ∈ samples, sample.outcome = .dropped) →
        samples.length = limit - 1 → (Algorithm.after now samples).limit = 1 := by
  intro now
  have checked := built.checked
  have maximum_pos := checked.maximum_pos
  obtain ⟨product, floors, less, half_le, next_eq⟩ :=
    update_dropped checked positive word dropped
  refine ⟨_, next_eq, by omega, fun _ => by omega, fun _ => by omega, fun below exact => ?_, ?_, ?_⟩
  · have := half_le exact
    omega
  · exact ⟨product, floors, less.trans word, (clamp_eq maximum_pos product).symm⟩
  · intro samples all_dropped enough
    exact after_dropped checked positive word all_dropped (by omega)

/-- The largest double below one. -/
def largestFactor : Setting := .of (.finite ((2 ^ 53 - 1) * Nat.pow 2 1021))

/-- The largest word, which is rounded up to a double that is no word, is lowered even by the largest
factor; and with that factor, too, two drops bring a limit of three down to one. -/
theorem drop_lowers_limit_at_largest_word :
    ∃ aimd, create (wordSize - 1) ⟨some largestFactor, none, some (wordSize - 1), none⟩ = .ok aimd ∧
      (∃ next < wordSize - 1, (Algorithm.update aimd ⟨0, 1, .dropped⟩).2 = .ok next) ∧
      (Algorithm.after { aimd with limit := 3 } [⟨0, 1, .dropped⟩, ⟨0, 1, .dropped⟩]).limit = 1 := by
  obtain ⟨aimd, created, limit⟩ : ∃ aimd,
      create (wordSize - 1) ⟨some largestFactor, none, some (wordSize - 1), none⟩ = .ok aimd ∧
        aimd.limit = wordSize - 1 :=
    ⟨⟨wordSize - 1, .finite ((2 ^ 53 - 1) * Nat.pow 2 1021), 1, wordSize - 1,
      Double.ofRatio 8 10⟩, by decide +kernel⟩
  have proper : largestFactor.Proper :=
    .of (.finite ⟨by decide +kernel, 2 ^ 53 - 1, 1021, by norm_num, by decide +kernel⟩)
  have built : Built (wordSize - 1) aimd :=
    create_built (by decide) (by simpa using proper) (by simp) (by simp; decide) (by simp) created
  have same : ({ aimd with limit := wordSize - 1 } : Aimd) = aimd := by rw [← limit]
  obtain ⟨next, gives, -, lowered, -⟩ :=
    drop_lowers_limit built (wordSize - 1) (by decide) (by decide) ⟨0, 1, .dropped⟩ rfl
  obtain ⟨-, -, -, -, -, -, -, brought_down⟩ := drop_lowers_limit built 3 (by decide) (by decide)
    ⟨0, 1, .dropped⟩ rfl
  rw [same] at gives
  exact ⟨aimd, created, ⟨next, lowered (by decide), congrArg Prod.snd gives⟩,
    brought_down _ (by simp) rfl⟩

end Aimd
end Admission

import Admission.Proofs.Algorithm.Built

/-!
# Additive increase

A success under high use raises the limit by the increase, up to the maximum, as long as the sum of
limit and increase is a machine word. A larger sum is not cut down to the maximum: there is no such
number, and the algorithm fails over it.
-/

namespace Admission.Aimd

/-- More of the limit is in use than the fraction above which it grows. -/
def Busy (aimd : Aimd) (inFlight : Nat) : Prop :=
  aimd.minUtilisation.lt (aimd.use inFlight) = true

instance (aimd : Aimd) (inFlight : Nat) : Decidable (aimd.Busy inFlight) :=
  inferInstanceAs (Decidable (_ = true))

section Clamping

variable {aimd : Aimd} {candidate : Nat}

lemma clamp_eq (maximum_pos : 1 ≤ aimd.maximum) (candidate : Nat) :
    aimd.clamp candidate = min (max 1 candidate) aimd.maximum := by
  unfold clamp minimum
  split_ifs <;> omega

lemma one_le_clamp (maximum_pos : 1 ≤ aimd.maximum) (candidate : Nat) :
    1 ≤ aimd.clamp candidate := by
  rw [clamp_eq maximum_pos]
  omega

lemma clamp_le_maximum (maximum_pos : 1 ≤ aimd.maximum) (candidate : Nat) :
    aimd.clamp candidate ≤ aimd.maximum := by
  rw [clamp_eq maximum_pos]
  omega

end Clamping

section Success

variable {aimd : Aimd} {inFlight : Nat}

lemma increased_of_not_busy (idle : ¬aimd.Busy inFlight) :
    aimd.increased inFlight = .ok aimd.limit :=
  if_neg idle

lemma increased_of_fits (busy : aimd.Busy inFlight) (fits : aimd.limit + aimd.increase < wordSize) :
    aimd.increased inFlight = .ok (aimd.clamp (aimd.limit + aimd.increase)) :=
  (if_pos busy).trans (if_pos fits)

lemma increased_of_overflow (busy : aimd.Busy inFlight)
    (overflows : wordSize ≤ aimd.limit + aimd.increase) :
    aimd.increased inFlight = .error .sumOverflow :=
  (if_pos busy).trans (if_neg (Nat.not_lt.mpr overflows))

end Success

section Learning

variable {aimd : Aimd} {sample : Sample}

lemma update_of_ok {limit : Nat} (chosen : aimd.next sample = .ok limit) :
    Algorithm.update aimd sample = ({ aimd with limit := limit }, .ok limit) := by
  change aimd.learn sample = _
  rw [learn, chosen]

lemma update_of_error {fault : Fault} (fails : aimd.next sample = .error fault) :
    Algorithm.update aimd sample = (aimd, .error fault) := by
  change aimd.learn sample = _
  rw [learn, fails]

lemma next_of_success (succeeded : sample.outcome = .success) :
    aimd.next sample = aimd.increased sample.inFlight := by
  rw [next, succeeded]

end Learning

variable {initial : Nat} {aimd : Aimd}

/-- A success leaves the limit as it is where no more of it is in use than the threshold. Else it
moves the limit to the sum of limit and increase, or to the maximum if that is less, provided the
sum is a word; if it is not, no limit is chosen, which is a fault, and the old one stays. So a limit
is chosen, which is the old one or the lesser of sum and maximum and never falls, exactly where the
sum is a word and where the limit is not in use enough. -/
theorem success_raises_limit_iff_sum_is_word (built : Built initial aimd) (limit : Nat)
    (positive : 1 ≤ limit) (below : limit ≤ aimd.maximum) (sample : Sample)
    (succeeded : sample.outcome = .success) :
    let now : Aimd := { aimd with limit := limit }
    let result := Algorithm.update now sample
    (¬now.Busy sample.inFlight → result = (now, .ok limit)) ∧
      (now.Busy sample.inFlight → limit + aimd.increase < wordSize →
        let next := min (limit + aimd.increase) aimd.maximum
        result = ({ aimd with limit := next }, .ok next)) ∧
      (now.Busy sample.inFlight → wordSize ≤ limit + aimd.increase →
        result = (now, .error .sumOverflow)) ∧
      ((∃ next, result.2 = .ok next ∧
          (next = limit ∨ next = min (limit + aimd.increase) aimd.maximum) ∧ limit ≤ next) ↔
        limit + aimd.increase < wordSize ∨ ¬now.Busy sample.inFlight) := by
  intro now result
  have maximum_pos : 1 ≤ now.maximum := built.checked.maximum_pos
  have next_eq : now.next sample = now.increased sample.inFlight := next_of_success succeeded
  have idle (slack : ¬now.Busy sample.inFlight) : result = (now, .ok limit) :=
    update_of_ok (next_eq.trans (increased_of_not_busy slack))
  have clamped : now.clamp (limit + aimd.increase) = min (limit + aimd.increase) aimd.maximum := by
    rw [clamp_eq maximum_pos, Nat.max_eq_right (Nat.le_add_right_of_le positive)]
  have raised (busy : now.Busy sample.inFlight) (fits : limit + aimd.increase < wordSize) :
      result = ({ aimd with limit := min (limit + aimd.increase) aimd.maximum },
        .ok (min (limit + aimd.increase) aimd.maximum)) := by
    rw [← clamped]
    exact update_of_ok (next_eq.trans (increased_of_fits busy fits))
  have fails (busy : now.Busy sample.inFlight) (overflows : wordSize ≤ limit + aimd.increase) :
      result = (now, .error .sumOverflow) :=
    update_of_error (next_eq.trans (increased_of_overflow busy overflows))
  refine ⟨idle, raised, fails, ?_, fun fits => ?_⟩
  · rintro ⟨next, chosen, -⟩
    by_contra neither
    rw [not_or, not_not, Nat.not_lt] at neither
    rw [fails neither.2 neither.1] at chosen
    cases chosen
  · by_cases busy : now.Busy sample.inFlight
    · have sum_fits := fits.resolve_right (not_not_intro busy)
      exact ⟨_, congrArg Prod.snd (raised busy sum_fits), .inr rfl, by omega⟩
    · exact ⟨limit, congrArg Prod.snd (idle busy), .inl rfl, Nat.le_refl _⟩

/-- Ten jobs of ten succeed at a maximum of twelve: the limit rises by the two which are left. -/
theorem success_raises_limit_iff_sum_is_word_at_full_use :
    ∃ aimd, create 10 ⟨none, some 5, some 12, none⟩ = .ok aimd ∧ aimd.Busy 10 ∧
      Algorithm.update aimd ⟨0, 10, .success⟩ = ({ aimd with limit := 12 }, .ok 12) := by
  obtain ⟨aimd, created, limit, increase, maximum, busy⟩ : ∃ aimd,
      create 10 ⟨none, some 5, some 12, none⟩ = .ok aimd ∧ aimd.limit = 10 ∧
        aimd.increase = 5 ∧ aimd.maximum = 12 ∧ aimd.Busy 10 :=
    ⟨⟨10, Double.ofRatio 9 10, 5, 12, Double.ofRatio 8 10⟩, by decide +kernel⟩
  have built : Built 10 aimd :=
    create_built (by decide) (by simp) (by simp; decide) (by simp; decide) (by simp) created
  have same : ({ aimd with limit := 10 } : Aimd) = aimd := by rw [← limit]
  obtain ⟨-, raised, -, -⟩ := success_raises_limit_iff_sum_is_word built 10 (by decide)
    (by rw [maximum]; decide) ⟨0, 10, .success⟩ rfl
  have twelve : min (10 + aimd.increase) aimd.maximum = 12 := by
    rw [increase, maximum]
    rfl
  dsimp only at raised
  rw [same, twelve] at raised
  exact ⟨aimd, created, busy, raised busy (by rw [increase]; decide)⟩

/-- Two jobs of two succeed, and no limit is chosen instead of the maximum: the increase is the
largest word. -/
theorem success_overflows :
    ∃ aimd, create 2 ⟨none, some (wordSize - 1), none, none⟩ = .ok aimd ∧
      aimd.limit = 2 ∧ aimd.limit ≤ aimd.maximum ∧
      min (aimd.limit + aimd.increase) aimd.maximum = 1000 ∧
      (Algorithm.update aimd ⟨0, 2, .success⟩).2 = .error .sumOverflow := by
  refine ⟨⟨2, Double.ofRatio 9 10, wordSize - 1, 1000, Double.ofRatio 8 10⟩, ?_⟩
  decide +kernel

end Admission.Aimd

import Admission.Algorithm.Aimd
import Admission.Proofs.Double
import Admission.Proofs.Results

/-!
# What can be built

The AIMD limits which the settings allow: a first limit, and settings which are checked one by one,
in any order and any number of times. The numbers are machine words and doubles. Every check is
kept by what follows it, so in whatever is built the limit shrinks by a factor in `[0.5, 1)`, and
the increase and the maximum are positive words.
-/

namespace Admission

/-- A setting which is a double. -/
inductive Setting.Proper : Setting → Prop
  | nan : Proper nan
  | negative : Proper negative
  | of {value : Double} (proper : value.Proper) : Proper (of value)

namespace Aimd

/-- What is built from a first limit. -/
inductive Built (initial : Nat) : Aimd → Prop
  | start {aimd : Aimd} (word : initial < wordSize) (accepted : startingAt initial = .ok aimd) :
    Built initial aimd
  | decreaseFactor {aimd next : Aimd} {factor : Setting} (built : Built initial aimd)
    (proper : factor.Proper) (accepted : aimd.withDecreaseFactor factor = .ok next) :
    Built initial next
  | increase {aimd next : Aimd} {increase : Nat} (built : Built initial aimd)
    (word : increase < wordSize) (accepted : aimd.withIncrease increase = .ok next) :
    Built initial next
  | maximum {aimd next : Aimd} {maximum : Nat} (built : Built initial aimd)
    (word : maximum < wordSize) (accepted : aimd.withMaximum maximum = .ok next) :
    Built initial next
  | minUtilisation {aimd next : Aimd} {threshold : Setting} (built : Built initial aimd)
    (proper : threshold.Proper) (accepted : aimd.withMinUtilisation threshold = .ok next) :
    Built initial next

/-- A factor of at least a half and less than one. -/
def IsFactor (factor : Double) : Prop :=
  ∃ units, factor = .finite units ∧ Double.Holds units ∧ Double.one ≤ 2 * units ∧
    units < Double.one

lemma isFactor_of_within {setting : Setting} {factor : Double} (proper : setting.Proper)
    (accepted : setting.within? (Double.ofRatio 1 2) (Double.ofNat 1) = some factor) :
    IsFactor factor := by
  obtain ⟨half, ratio_eq, one_eq⟩ :
      ∃ half, Double.ofRatio 1 2 = .finite half ∧ Double.one = 2 * half :=
    ⟨Nat.pow 2 1073, by decide +kernel, by decide +kernel⟩
  have whole_eq : Double.ofNat 1 = .finite Double.one := by decide +kernel
  rw [ratio_eq, whole_eq] at accepted
  cases proper with
  | nan | negative => cases accepted
  | @of value proper =>
    cases proper with
    | infinite => cases accepted
    | @finite units holds =>
      simp only [Setting.within?, Double.lt, Option.ite_none_right_eq_some, Bool.and_eq_true,
        Bool.not_eq_true', decide_eq_false_iff_not, decide_eq_true_eq, Option.some.injEq]
        at accepted
      obtain ⟨⟨low, high⟩, rfl⟩ := accepted
      exact ⟨units, rfl, holds, by omega, high⟩

/-- What the checks of the settings have left. -/
structure Checked (initial : Nat) (aimd : Aimd) : Prop where
  limit : aimd.limit = initial
  initial_pos : 1 ≤ initial
  initial_word : initial < wordSize
  factor : IsFactor aimd.decreaseFactor
  increase_pos : 1 ≤ aimd.increase
  increase_word : aimd.increase < wordSize
  maximum_pos : 1 ≤ aimd.maximum
  maximum_word : aimd.maximum < wordSize

variable {initial : Nat} {aimd : Aimd}

lemma startingAt_checked (word : initial < wordSize) (accepted : startingAt initial = .ok aimd) :
    Checked initial aimd := by
  unfold startingAt at accepted
  split at accepted
  · cases accepted
  · rename_i positive
    obtain rfl := Except.ok.inj accepted
    have factor : IsFactor (Double.ofRatio 9 10) := by
      refine isFactor_of_within (.of (Double.ofRatio_proper 9 (Nat.succ_pos 9))) ?_
      decide +kernel
    exact {
      limit := rfl
      initial_pos := Nat.pos_of_ne_zero positive
      initial_word := word
      factor := by dsimp only; exact factor
      increase_pos := le_refl 1
      increase_word := by dsimp only; decide
      maximum_pos := by dsimp only; decide
      maximum_word := by dsimp only; decide }

lemma Built.checked (built : Built initial aimd) : Checked initial aimd := by
  induction built with
  | start word accepted => exact startingAt_checked word accepted
  | decreaseFactor _ proper accepted ih =>
    unfold withDecreaseFactor at accepted
    split at accepted
    · rename_i inside
      obtain rfl := Except.ok.inj accepted
      exact { ih with factor := isFactor_of_within proper inside }
    · cases accepted
  | increase _ word accepted ih =>
    unfold withIncrease at accepted
    split at accepted
    · cases accepted
    · rename_i positive
      obtain rfl := Except.ok.inj accepted
      exact { ih with increase_pos := Nat.pos_of_ne_zero positive, increase_word := word }
  | maximum _ word accepted ih =>
    unfold withMaximum at accepted
    split at accepted
    · cases accepted
    · rename_i positive
      obtain rfl := Except.ok.inj accepted
      exact { ih with maximum_pos := Nat.pos_of_ne_zero positive, maximum_word := word }
  | minUtilisation _ _ accepted ih =>
    unfold withMinUtilisation at accepted
    split at accepted
    · obtain rfl := Except.ok.inj accepted
      exact { ih with }
    · cases accepted

section Creation

lemma configure_built {σ : Type} {change : Aimd → σ → Except Fault Aimd} {setting : Option σ}
    {next : Aimd} (built : Built initial aimd)
    (builds : ∀ value ∈ setting, change aimd value = .ok next → Built initial next)
    (accepted : configure change setting aimd = .ok next) : Built initial next := by
  cases setting with
  | none =>
    obtain rfl := Except.ok.inj accepted
    exact built
  | some value => exact builds value rfl accepted

/-- What is created from settings which are words and doubles is built. -/
theorem create_built {settings : AimdSettings} (word : initial < wordSize)
    (factor : ∀ setting ∈ settings.decreaseFactor, setting.Proper)
    (increase : ∀ increase ∈ settings.increase, increase < wordSize)
    (maximum : ∀ maximum ∈ settings.maximum, maximum < wordSize)
    (threshold : ∀ setting ∈ settings.minUtilisation, setting.Proper)
    (created : create initial settings = .ok aimd) : Built initial aimd := by
  obtain ⟨bounded, created, setThreshold⟩ := of_bind_ok created
  obtain ⟨growing, created, setMaximum⟩ := of_bind_ok created
  obtain ⟨shrinking, created, setIncrease⟩ := of_bind_ok created
  obtain ⟨started, begun, setFactor⟩ := of_bind_ok created
  have started_built := Built.start word begun
  have shrinking_built := configure_built started_built
    (fun setting given => .decreaseFactor started_built (factor setting given)) setFactor
  have growing_built := configure_built shrinking_built
    (fun _ given => .increase shrinking_built (increase _ given)) setIncrease
  have bounded_built := configure_built growing_built
    (fun _ given => .maximum growing_built (maximum _ given)) setMaximum
  exact configure_built bounded_built
    (fun setting given => .minUtilisation bounded_built (threshold setting given)) setThreshold

end Creation

end Aimd
end Admission

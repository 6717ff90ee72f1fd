import Admission.Proofs.Double.Sums
import Admission.Proofs.Partition.Sizes

/-!
# Splitting the whole limit

Every share is rounded three times, the sum of the weights once for each of them, and only the last
rounding of a share never goes down. Still the shares of all configured partitions cover the limit:
what the other roundings take away is less than a part in the limit, and a sum of whole numbers which
is short of the limit is short by one at least. But weights whose sum is no finite double leave every
partition the smallest share there is.
-/

namespace Admission

open Session (Action start)

attribute [local irreducible] Double.one Double.overflow

open Double (one nearest ceiling)

namespace Share

/-- A share covers the fraction which it comes from, but for the rounding of the product. -/
lemma rounded_covers (limit units : Nat) :
    (2 ^ 53 - 1) * (limit * units) ≤ 2 ^ 53 * (rounded limit units * one) :=
  calc (2 ^ 53 - 1) * (limit * units) ≤ 2 ^ 53 * nearest (limit * units) 1 :=
        Double.le_nearest_whole _
    _ ≤ 2 ^ 53 * (rounded limit units * one) :=
        Nat.mul_le_mul_left _ (Double.ceiling_le_iff.mp (Nat.le_max_left _ _))

@[simp] lemma rounded_zero (limit : Nat) : rounded limit 0 = 1 := by
  refine Nat.le_antisymm (max_le (Double.ceiling_le_iff.mpr ?_) (le_refl 1)) (one_le_rounded _ _)
  rw [Nat.mul_zero, Double.nearest_whole (by norm_num)]
  exact Nat.zero_le _

end Share

namespace Partitioning

variable {C : Type} {config : Partitioning C} {total : Nat}

/-- The shares of all configured partitions. -/
def shares (config : Partitioning C) : Except Fault (Table Nat) :=
  config.weights.mapM fun entry => (config.shareOf entry.2).map (Prod.mk entry.1)

lemma shares_eq (small : config.limit ≤ 2 ^ 53) :
    config.shares = .ok (config.weights.map (Prod.map id config.size)) := by
  unfold shares
  induction config.weights with
  | nil => rfl
  | cons entry rest ih =>
    rw [List.mapM_cons, shareOf_eq small, ih]
    rfl

/-- A share covers its part of the limit, but for the rounding of the quotient and the product. -/
lemma size_covers {weight : Nat} (small : config.limit ≤ 2 ^ 32)
    (adds : config.total = .finite total) (positive : 0 < total) (part : weight ≤ total) :
    (2 ^ 53 - 1) * (2 ^ 53 - 1) * (config.limit * weight) ≤
      total * (2 ^ 106 * config.size (.finite weight) + 1) := by
  have quotient := Double.le_nearest_part (weight * one) positive
  have product := Share.rounded_covers config.limit (nearest (weight * one) total)
  rw [size, fractionUnits_eq adds positive part]
  generalize nearest (weight * one) total = fraction at quotient product ⊢
  generalize Share.rounded config.limit fraction = share at product ⊢
  have tiny : (2 ^ 53 - 1) * config.limit * 2 ^ 52 ≤ one :=
    calc (2 ^ 53 - 1) * config.limit * 2 ^ 52 ≤ (2 ^ 53 - 1) * 2 ^ 32 * 2 ^ 52 := by gcongr
      _ ≤ one := by decide +kernel
  refine Nat.le_of_mul_le_mul_right ?_ Double.one_pos
  calc (2 ^ 53 - 1) * (2 ^ 53 - 1) * (config.limit * weight) * one
      = (2 ^ 53 - 1) * config.limit * ((2 ^ 53 - 1) * (weight * one)) := by ring
    _ ≤ (2 ^ 53 - 1) * config.limit * (2 ^ 53 * (fraction * total) + 2 ^ 52 * total) := by gcongr
    _ = 2 ^ 53 * total * ((2 ^ 53 - 1) * (config.limit * fraction)) +
        total * ((2 ^ 53 - 1) * config.limit * 2 ^ 52) := by ring
    _ ≤ 2 ^ 53 * total * (2 ^ 53 * (share * one)) + total * one := by gcongr
    _ = total * (2 ^ 106 * share + 1) * one := by ring

/-- What holds of each entry of a list holds of the sums. -/
lemma sum_covers {α : Type} {entries : List α} {weight share : α → Nat}
    {scale limit factor : Nat} (each : ∀ entry ∈ entries,
      scale * (limit * weight entry) ≤ total * (factor * share entry + 1)) :
    scale * (limit * (entries.map weight).sum) ≤
      total * (factor * (entries.map share).sum + entries.length) := by
  induction entries with
  | nil => simp
  | cons entry rest ih =>
    have here := each entry List.mem_cons_self
    have later := ih fun other mem => each other (List.mem_cons_of_mem _ mem)
    simp only [List.map_cons, List.sum_cons, List.length_cons]
    linarith

section Totals

def weightUnits (config : Partitioning C) : List Nat :=
  (config.weights.map Prod.snd).map Double.units

lemma weights_eq_units (checked : config.Checked) :
    config.weights.map Prod.snd = config.weightUnits.map .finite := by
  have finite : (config.weights.map Prod.snd).map (Double.finite ∘ Double.units) =
      (config.weights.map Prod.snd).map id :=
    List.map_congr_left fun weight mem => (checked.isWeight_of_mem mem).eq_finite.symm
  rw [weightUnits, List.map_map, finite, List.map_id]

lemma units_le_of_sum (checked : config.Checked)
    (adds : (config.weightUnits.map .finite).foldl Double.add (.finite 0) = .finite total) :
    ∀ weight ∈ config.weights.map Prod.snd, weight.units ≤ total := by
  have doubles : ∀ units ∈ config.weightUnits, Double.Holds units := by
    intro units mem
    obtain ⟨weight, given, rfl⟩ := List.mem_map.mp mem
    exact (checked.isWeight_of_mem given).holds
  obtain ⟨-, below⟩ := Double.le_of_foldl_add Double.holds_zero doubles adds
  exact fun weight mem => below _ (List.mem_map_of_mem mem)

lemma exists_weight (given : config.weights ≠ []) : ∃ weight, weight ∈ config.weights.map Prod.snd :=
  List.exists_mem_of_ne_nil _ fun none => given (List.map_eq_nil_iff.mp none)

/-- Where a weight is given, the total is the sum of all weights. -/
lemma total_eq_sum (checked : config.Checked) (given : config.weights ≠ []) :
    config.total = (config.weightUnits.map .finite).foldl Double.add (.finite 0) := by
  unfold total Share.weightSum
  rw [weights_eq_units checked]
  refine if_pos ?_
  cases adds : (config.weightUnits.map .finite).foldl Double.add (.finite 0) with
  | infinite => rfl
  | finite sum =>
    obtain ⟨weight, mem⟩ := exists_weight given
    have positive := (checked.isWeight_of_mem mem).pos
    exact decide_eq_true (positive.trans_le (units_le_of_sum checked adds weight mem))

/-- The sum of few weights is near the exact one. -/
lemma total_near (checked : config.Checked) (given : config.weights ≠ [])
    (few : config.weights.length ≤ 2 ^ 16) (adds : config.total = .finite total) :
    2 ^ 36 * total ≤ (2 ^ 36 + 1) * config.weightUnits.sum := by
  rw [total_eq_sum checked given] at adds
  have length_eq : config.weightUnits.length = config.weights.length := by simp [weightUnits]
  have within : 0 + config.weightUnits.sum ≤ config.weightUnits.sum := (Nat.zero_add _).le
  have few_terms : 0 + config.weightUnits.length ≤ 2 ^ 52 := by omega
  have near := Double.foldl_add_near within few_terms (Nat.zero_le _) adds
  rw [Nat.zero_add, Nat.zero_add] at near
  have missed : config.weightUnits.length * config.weightUnits.sum ≤
      2 ^ 16 * config.weightUnits.sum := Nat.mul_le_mul_right _ (by omega)
  omega

end Totals

/-- The shares of a sum which stays finite cover the limit. -/
theorem limit_le_sum_of_sizes (checked : config.Checked) (small : config.limit ≤ 2 ^ 32)
    (given : config.weights ≠ []) (few : config.weights.length ≤ 2 ^ 16)
    (adds : config.total = .finite total) :
    config.limit ≤ ((config.weights.map Prod.snd).map config.size).sum := by
  have sum_eq := adds
  rw [total_eq_sum checked given] at sum_eq
  have part := units_le_of_sum checked sum_eq
  obtain ⟨first, first_mem⟩ := exists_weight given
  have total_pos : 0 < total :=
    (checked.isWeight_of_mem first_mem).pos.trans_le (part first first_mem)
  have covers := sum_covers fun weight mem => by
    have here := size_covers small adds total_pos (part weight mem)
    rwa [← (checked.isWeight_of_mem mem).eq_finite] at here
  have near := total_near checked given few adds
  rw [List.length_map, ← weightUnits] at covers
  have sum_pos : 0 < config.weightUnits.sum := by omega
  by_contra short
  generalize ((config.weights.map Prod.snd).map config.size).sum = size at *
  generalize config.weightUnits.sum = sum at *
  have cancelled : 2 ^ 36 * ((2 ^ 53 - 1) * (2 ^ 53 - 1) * config.limit) ≤
      (2 ^ 36 + 1) * (2 ^ 106 * size + 2 ^ 16) := by
    refine Nat.le_of_mul_le_mul_right ?_ sum_pos
    calc 2 ^ 36 * ((2 ^ 53 - 1) * (2 ^ 53 - 1) * config.limit) * sum
        = 2 ^ 36 * ((2 ^ 53 - 1) * (2 ^ 53 - 1) * (config.limit * sum)) := by ring
      _ ≤ 2 ^ 36 * (total * (2 ^ 106 * size + config.weights.length)) := by gcongr
      _ = 2 ^ 36 * total * (2 ^ 106 * size + config.weights.length) := by ring
      _ ≤ (2 ^ 36 + 1) * sum * (2 ^ 106 * size + 2 ^ 16) := by gcongr
      _ = (2 ^ 36 + 1) * (2 ^ 106 * size + 2 ^ 16) * sum := by ring
  -- A sum which is short is short by one, which is more than the roundings can take away.
  omega

/-- Beside an infinite sum every weight counts for nothing. -/
lemma size_of_infinite (adds : config.total = .infinite) {weight : Double}
    (weighs : IsWeight weight) : config.size weight = 1 := by
  obtain ⟨units, rfl, -⟩ := weighs
  have nothing : config.fractionUnits (.finite units) = 0 := by
    rw [fractionUnits, Share.fraction, adds]
    exact congrArg Double.units (Double.min_of_le (Nat.zero_le one))
  rw [size, nothing, Share.rounded_zero]

end Partitioning

open Partitioned

variable {C κ G W : Type}

/-- The shares of all configured partitions together are at least the limit exactly if the sum of
the weights is a finite double, or else the limit is not above the number of partitions, as every
one of them gets one. In every run the children of configured partitions are made with these
shares. -/
theorem shares_cover_limit_iff_sum_is_finite [Limiter C κ G W] {config : Partitioning C}
    (built : config.Built) (small : config.limit ≤ 2 ^ 32) (given : config.weights ≠ [])
    (few : config.weights.length ≤ 2 ^ 16) :
    ∃ shares, config.shares = .ok shares ∧
      shares.map Prod.fst = config.weights.map Prod.fst ∧
      (config.limit ≤ (shares.map Prod.snd).sum ↔
        config.total ≠ .infinite ∨ config.limit ≤ config.weights.length) ∧
      (config.total = .infinite → ∀ entry ∈ shares, entry.2 = 1) ∧
      ∀ (make : Nat → Except Fault κ) (limiter : Partitioned C κ),
        Partitioned.create config make = .ok limiter → ∀ actions : List (Action C),
        let fresh : Session C (Partitioned C κ) (PartitionGrant G) (String × W) := start limiter
        ∀ entry ∈ (fresh.after actions).limiter.made,
          config.isConfigured entry.1 = true → entry ∈ shares := by
  have checked := built.checked
  have double : config.limit ≤ 2 ^ 53 := small.trans (by norm_num)
  refine ⟨_, Partitioning.shares_eq double, Table.names_map _ _, ?_, ?_, ?_⟩
  · rw [Table.values_map]
    cases adds : config.total with
    | finite total =>
      have covered := Partitioning.limit_le_sum_of_sizes checked small given few adds
      exact iff_of_true covered (.inl (by simp))
    | infinite =>
      have ones : (config.weights.map Prod.snd).map config.size =
          (config.weights.map Prod.snd).map fun _ => 1 := List.map_congr_left fun weight mem =>
        Partitioning.size_of_infinite adds (checked.isWeight_of_mem mem)
      rw [ones, List.map_const', List.length_map]
      simp
  · intro adds entry mem
    obtain ⟨listed, listed_mem, same⟩ := Table.of_mem_map_values mem
    rw [same, Partitioning.size_of_infinite adds (checked.weights listed listed_mem)]
  · intro make limiter created actions fresh entry mem configured
    have sized : Sized config make (fresh.after actions).limiter :=
      (create_sized created).after actions
    obtain ⟨weight, listed⟩ := Option.isSome_iff_exists.mp configured
    have made := Table.mem_map_values config.size (Table.mem_of_at? listed)
    rwa [← sized.made_eq_size double mem listed] at made

/-- A limit of ten which is split by the weights two, two and four. -/
def unevenWeights : Partitioning TaskLabel where
  limit := 10
  weights := [("a", Double.ofNat 2), ("b", Double.ofNat 2), ("c", Double.ofNat 4)]
  resolver := some TaskLabel.key?
  fallback := .reject
  unlisted := none

lemma unevenWeights_built : unevenWeights.Built := by
  refine Partitioning.built_iff_checked.mpr
    ⟨by decide, by decide, (by decide : ["a", "b", "c"].Nodup), ?_, ?_⟩
  · simp only [unevenWeights, List.mem_cons, List.not_mem_nil, or_false]
    rintro entry (rfl | rfl | rfl) <;> dsimp only <;>
      exact isWeight_ofNat (by norm_num) (by norm_num)
  · intro keys given
    cases given

theorem shares_cover_limit_iff_sum_is_finite_of_uneven_weights :
    unevenWeights.Built ∧ unevenWeights.limit ≤ 2 ^ 32 ∧ unevenWeights.weights ≠ [] ∧
      unevenWeights.weights.length ≤ 2 ^ 16 ∧ unevenWeights.total ≠ .infinite ∧
      ∃ shares, unevenWeights.shares = .ok shares ∧ 10 ≤ (shares.map Prod.snd).sum := by
  have small : unevenWeights.limit ≤ 2 ^ 32 := by decide
  have few : unevenWeights.weights.length ≤ 2 ^ 16 := by decide
  have given : unevenWeights.weights ≠ [] := List.cons_ne_nil _ _
  have finite_sum : unevenWeights.total ≠ .infinite := by decide +kernel
  obtain ⟨shares, told, -, covers, -⟩ := shares_cover_limit_iff_sum_is_finite
    (κ := RuleGate) unevenWeights_built small given few
  exact ⟨unevenWeights_built, small, given, few, finite_sum, shares, told,
    covers.mpr (.inl finite_sum)⟩

def visitOfAll : List (Action TaskLabel) := visitOfA ++ [.acquireNow "y" ⟨some "b"⟩]

/-- Half of the limit each would do, but both partitions are made with one. -/
theorem infinite_sum_loses_capacity :
    hugeWeights.Built ∧ 1 ≤ hugeWeights.limit ∧ hugeWeights.limit ≤ 2 ^ 32 ∧
      hugeWeights.weights ≠ [] ∧ hugeWeights.weights.length ≤ 2 ^ 16 ∧
      Partitioned.create hugeWeights silentGate = .ok hugeWeightsLimiter ∧
      ((start hugeWeightsLimiter).after visitOfAll).limiter.made = [("a", 1), ("b", 1)] ∧
      1 + 1 < hugeWeights.limit := by
  refine ⟨hugeWeights_built, by decide, by decide, List.cons_ne_nil _ _, by decide, rfl, ?_,
    by decide⟩
  decide +kernel

end Admission

import Admission.Proofs.Double.Sums
import Admission.Proofs.Partition.Sizes
import Mathlib.Algebra.Order.BigOperators.Group.List
import Mathlib.Data.Rat.Floor

/-!
# Shares and proportions

Where limit and weights are whole numbers, a share should be the proportion of the limit rounded up.
The fraction it is computed from is a rounded quotient, so a proportion which is a whole number may
come out a little above it, and is then rounded up to the next one. How far it may come out above is
told by half a step. A share never misses the proportion by more than one, and not at all where the
proportion is no whole number and the numbers are small.
-/

namespace Admission

open Session (Action start)

attribute [local irreducible] Double.one Double.overflow

open Double (one nearest step)

/-- The proportion of a limit which a weight is due, rounded up, and at least one. -/
def dueShare (limit weight total : Nat) : Nat := max 1 ⌈(limit * weight : ℚ) / total⌉₊

lemma dueShare_le_iff {limit weight total n : Nat} (total_pos : 0 < total) (positive : 1 ≤ n) :
    dueShare limit weight total ≤ n ↔ limit * weight ≤ n * total := by
  have total_pos' : (0 : ℚ) < total := by exact_mod_cast total_pos
  rw [dueShare, max_le_iff, Nat.ceil_le, div_le_iff₀ total_pos']
  constructor
  · rintro ⟨-, below⟩
    exact_mod_cast below
  · intro below
    exact ⟨positive, by exact_mod_cast below⟩

lemma lt_dueShare_iff {limit weight total n : Nat} (total_pos : 0 < total) (positive : 1 ≤ n) :
    n < dueShare limit weight total ↔ n * total < limit * weight := by
  rw [← Nat.not_le, dueShare_le_iff total_pos positive, Nat.not_le]

lemma one_le_dueShare (limit weight total : Nat) : 1 ≤ dueShare limit weight total :=
  Nat.le_max_left _ _

namespace Double

/-- The number of units is past a whole number by half a step at most. -/
def NotPast (n units : Nat) : Prop := 2 * units ≤ 2 * (n * one) + step (n * one)

instance (n units : Nat) : Decidable (NotPast n units) := inferInstanceAs (Decidable (_ ≤ _))

end Double

open Double (NotPast)

namespace Share

/-- A share is at most a whole number exactly if its product is not past the number. -/
lemma rounded_le_iff {limit units n : Nat} (positive : 1 ≤ n) (small : n < 2 ^ 52) :
    rounded limit units ≤ n ↔ NotPast n (limit * units) := by
  rw [rounded, max_le_iff, Double.ceiling_le_iff,
    Double.nearest_le_iff Nat.one_pos (Double.two_step_dvd small), Nat.mul_one, NotPast]
  exact and_iff_left positive

/-- Limit, weight and total are words of half the length. -/
structure Moderate (limit weight total : Nat) : Prop where
  limit_pos : 1 ≤ limit
  limit_small : limit < 2 ^ 32
  weight_pos : 0 < weight
  weight_le : weight ≤ total
  total_small : total < 2 ^ 32

variable {limit weight total : Nat}

/-- The share with which the child of a whole weight is made. -/
def ofWhole (limit weight total : Nat) : Nat := rounded limit (nearest (weight * one) total)

namespace Moderate

lemma total_pos (moderate : Moderate limit weight total) : 0 < total :=
  moderate.weight_pos.trans_le moderate.weight_le

lemma tiny (moderate : Moderate limit weight total) : 2 ^ 53 * (total * limit) ≤ one :=
  calc 2 ^ 53 * (total * limit) ≤ 2 ^ 53 * (2 ^ 32 * 2 ^ 32) := by
        gcongr
        · exact moderate.total_small.le
        · exact moderate.limit_small.le
    _ ≤ one := by decide +kernel

lemma due_le_limit (moderate : Moderate limit weight total) :
    dueShare limit weight total ≤ limit :=
  (dueShare_le_iff moderate.total_pos moderate.limit_pos).mpr
    (Nat.mul_le_mul_left limit moderate.weight_le)

/-- The product with the rounded quotient is near the exact one, from above and from below. -/
lemma product_le (moderate : Moderate limit weight total) :
    2 ^ 53 * (limit * nearest (weight * one) total * total) ≤
      (2 ^ 53 + 1) * (limit * weight * one) + 2 ^ 52 * (total * limit) := by
  have quotient := Double.nearest_le_part (weight * one) moderate.total_pos
  calc 2 ^ 53 * (limit * nearest (weight * one) total * total)
      = limit * (2 ^ 53 * (nearest (weight * one) total * total)) := by ring
    _ ≤ limit * ((2 ^ 53 + 1) * (weight * one) + 2 ^ 52 * total) := Nat.mul_le_mul_left _ quotient
    _ = (2 ^ 53 + 1) * (limit * weight * one) + 2 ^ 52 * (total * limit) := by ring

lemma le_product (moderate : Moderate limit weight total) :
    (2 ^ 53 - 1) * (limit * weight * one) ≤
      2 ^ 53 * (limit * nearest (weight * one) total * total) + 2 ^ 52 * (total * limit) := by
  have quotient := Double.le_nearest_part (weight * one) moderate.total_pos
  calc (2 ^ 53 - 1) * (limit * weight * one)
      = limit * ((2 ^ 53 - 1) * (weight * one)) := by ring
    _ ≤ limit * (2 ^ 53 * (nearest (weight * one) total * total) + 2 ^ 52 * total) :=
        Nat.mul_le_mul_left _ quotient
    _ = 2 ^ 53 * (limit * nearest (weight * one) total * total) + 2 ^ 52 * (total * limit) := by
        ring

lemma product_pos (moderate : Moderate limit weight total) :
    0 < limit * nearest (weight * one) total := by
  have unit : Double.Holds 1 := @Double.holds_two_pow 0 (by norm_num)
  have quotient : 1 ≤ nearest (weight * one) total := by
    refine Double.le_nearest_of_holds moderate.total_pos unit ?_
    have large : total ≤ one :=
      calc total ≤ 2 ^ 32 := moderate.total_small.le
        _ ≤ one := by decide +kernel
    rw [Nat.one_mul]
    exact large.trans (Nat.le_mul_of_pos_left one moderate.weight_pos)
  exact Nat.mul_pos moderate.limit_pos quotient

lemma ofWhole_le_due_iff (moderate : Moderate limit weight total) :
    ofWhole limit weight total ≤ dueShare limit weight total ↔
      NotPast (dueShare limit weight total) (limit * nearest (weight * one) total) :=
  rounded_le_iff (one_le_dueShare limit weight total)
    (moderate.due_le_limit.trans_lt (moderate.limit_small.trans (by norm_num)))

lemma due_le_ofWhole_iff (moderate : Moderate limit weight total) :
    dueShare limit weight total ≤ ofWhole limit weight total ↔
      ¬NotPast (dueShare limit weight total - 1) (limit * nearest (weight * one) total) := by
  have due_le := moderate.due_le_limit
  have small := moderate.limit_small
  rcases Nat.lt_or_eq_of_le (one_le_dueShare limit weight total) with more | least
  · rw [← rounded_le_iff (by omega) (by omega), ofWhole]
    omega
  · -- Every share is at least one, and every product is past zero.
    have product_pos := moderate.product_pos
    refine iff_of_true (by rw [← least]; exact one_le_rounded _ _) fun not_past => ?_
    rw [NotPast, ← least, Nat.sub_self, Nat.zero_mul, Double.step_eq_one (by norm_num)] at not_past
    omega

/-- The share is the proportion which is due exactly if the product is past the whole number before
it, and not past the proportion itself. -/
theorem ofWhole_eq_due_iff (moderate : Moderate limit weight total) :
    ofWhole limit weight total = dueShare limit weight total ↔
      NotPast (dueShare limit weight total) (limit * nearest (weight * one) total) ∧
        ¬NotPast (dueShare limit weight total - 1) (limit * nearest (weight * one) total) := by
  rw [← moderate.ofWhole_le_due_iff, ← moderate.due_le_ofWhole_iff]
  exact Nat.le_antisymm_iff

theorem ofWhole_le_succ_due (moderate : Moderate limit weight total) :
    ofWhole limit weight total ≤ dueShare limit weight total + 1 := by
  have exact_le := (dueShare_le_iff moderate.total_pos
    (one_le_dueShare limit weight total)).mp (le_refl _)
  have due_le : dueShare limit weight total ≤ 2 ^ 32 :=
    moderate.due_le_limit.trans moderate.limit_small.le
  have product := moderate.product_le
  have tiny := moderate.tiny
  refine max_le (Double.ceiling_le_iff.mpr ?_) (Nat.le_add_left _ _)
  refine Double.nearest_le_of_holds Nat.one_pos (Double.holds_mul_one (by omega)) ?_
  generalize limit * nearest (weight * one) total = units at *
  generalize dueShare limit weight total = due at *
  refine Nat.le_of_mul_le_mul_right ?_ moderate.total_pos
  have exact_units : limit * weight * one ≤ due * total * one := Nat.mul_le_mul_right one exact_le
  have missed : due * (total * one) ≤ 2 ^ 32 * (total * one) := Nat.mul_le_mul_right _ due_le
  have covers : one ≤ total * one := Nat.le_mul_of_pos_left one moderate.total_pos
  linarith

/-- Where a proportion is past a whole number, the product is at least a half above the number
before, and so is its rounding. -/
lemma half_le_nearest_product (moderate : Moderate limit weight total) {n half : Nat}
    (one_eq : one = 2 * half) (holds : Double.Holds ((2 * n + 1) * half))
    (past : (n + 1) * total < limit * weight) (n_lt : n < 2 ^ 32) :
    (2 * n + 1) * half ≤ nearest (limit * nearest (weight * one) total) 1 := by
  have product := moderate.le_product
  have tiny := moderate.tiny
  refine Double.le_nearest_of_holds Nat.one_pos holds ?_
  generalize limit * nearest (weight * one) total = units at *
  refine Nat.le_of_mul_le_mul_right ?_ moderate.total_pos
  have exact_units : (n + 1) * total * one ≤ limit * weight * one :=
    Nat.mul_le_mul_right one past.le
  have missed : (n + 1) * (total * one) ≤ 2 ^ 32 * (total * one) :=
    Nat.mul_le_mul_right _ n_lt
  have covers : one ≤ total * one := Nat.le_mul_of_pos_left one moderate.total_pos
  have doubled : 2 * ((2 * n + 1) * half * 1 * total) = (2 * n + 1) * (total * one) := by
    rw [one_eq]
    ring
  have scaled := Nat.mul_le_mul_left (2 ^ 53 - 1) exact_units
  norm_num only at scaled product
  linarith

theorem due_le_succ_ofWhole (moderate : Moderate limit weight total) :
    dueShare limit weight total ≤ ofWhole limit weight total + 1 := by
  by_contra short
  have share_pos : 1 ≤ ofWhole limit weight total := one_le_rounded _ _
  obtain ⟨n, due_eq⟩ : ∃ n, dueShare limit weight total = n + 2 :=
    ⟨dueShare limit weight total - 2, by omega⟩
  have due_le := moderate.due_le_limit
  have small := moderate.limit_small
  have past : (n + 1) * total < limit * weight :=
    (lt_dueShare_iff moderate.total_pos (Nat.le_add_left 1 n)).mp (by omega)
  have share_le : nearest (limit * nearest (weight * one) total) 1 ≤ n * one := by
    refine Double.ceiling_le_iff.mp ((Nat.le_max_left _ 1).trans ?_)
    change ofWhole limit weight total ≤ n
    omega
  obtain ⟨half, one_eq, halves⟩ := Double.exists_half
  have half_pos : 0 < half := by
    have positive := Double.one_pos
    omega
  have above := moderate.half_le_nearest_product one_eq (halves _ (by omega)) past (by omega)
  have whole_eq : n * one = 2 * n * half := by rw [one_eq]; ring
  linarith

/-- A proportion of small numbers which is no whole number is not reached by the product. -/
lemma ofWhole_le_due_of_broken (moderate : Moderate limit weight total)
    (small : limit * weight < 2 ^ 52) (broken : ¬total ∣ limit * weight) :
    ofWhole limit weight total ≤ dueShare limit weight total := by
  have product_le := moderate.product_le
  have tiny := moderate.tiny
  have exact_lt : limit * weight + 1 ≤ dueShare limit weight total * total := by
    have exact_le := (dueShare_le_iff moderate.total_pos
      (one_le_dueShare limit weight total)).mp (le_refl _)
    refine Nat.lt_of_le_of_ne exact_le fun whole => broken ?_
    rw [whole]
    exact Nat.dvd_mul_left total _
  have small_units : (limit * weight + 1) * one ≤ 2 ^ 52 * one := Nat.mul_le_mul_right one small
  have below : limit * nearest (weight * one) total ≤ dueShare limit weight total * one := by
    refine Nat.le_of_mul_le_mul_right ?_ moderate.total_pos
    have exact_units := Nat.mul_le_mul_right one exact_lt
    linarith
  exact moderate.ofWhole_le_due_iff.mpr
    ((Nat.mul_le_mul_left 2 below).trans (Nat.le_add_right _ _))

/-- A proportion of small numbers which is past a whole number is past it by more than is lost. -/
lemma due_le_ofWhole_of_small (moderate : Moderate limit weight total)
    (small : limit * weight < 2 ^ 52) :
    dueShare limit weight total ≤ ofWhole limit weight total := by
  rcases Nat.lt_or_eq_of_le (one_le_dueShare limit weight total) with more | least
  swap
  · rw [← least]
    exact one_le_rounded _ _
  refine moderate.due_le_ofWhole_iff.mpr fun not_past => ?_
  obtain ⟨n, due_eq⟩ : ∃ n, dueShare limit weight total = n + 1 + 1 :=
    ⟨dueShare limit weight total - 2, by omega⟩
  have past : (n + 1) * total + 1 ≤ limit * weight :=
    (lt_dueShare_iff moderate.total_pos (Nat.le_add_left 1 n)).mp (by omega)
  rw [NotPast, due_eq, Nat.add_sub_cancel] at not_past
  have part : 2 ^ 52 * step ((n + 1) * one) ≤ (n + 1) * one := by
    refine Double.step_le ?_
    calc 2 ^ 52 ≤ one := by decide +kernel
      _ ≤ (n + 1) * one := Nat.le_mul_of_pos_left one (Nat.succ_pos n)
  have near : 2 ^ 53 * (limit * nearest (weight * one) total) ≤ (2 ^ 53 + 1) * ((n + 1) * one) := by
    linarith
  have near_total := Nat.mul_le_mul_right total near
  have exact_units := Nat.mul_le_mul_right one past
  have small_units : (limit * weight + 1) * one ≤ 2 ^ 52 * one := Nat.mul_le_mul_right one small
  have le_product := moderate.le_product
  have tiny := moderate.tiny
  have one_pos := Double.one_pos
  norm_num only at le_product
  linarith

/-- A proportion of small numbers which is no whole number is rounded up as it is due. -/
theorem ofWhole_eq_due (moderate : Moderate limit weight total)
    (small : limit * weight < 2 ^ 52) (broken : ¬total ∣ limit * weight) :
    ofWhole limit weight total = dueShare limit weight total :=
  Nat.le_antisymm (moderate.ofWhole_le_due_of_broken small broken)
    (moderate.due_le_ofWhole_of_small small)

end Moderate
end Share

namespace Partitioning

open Share (Moderate)

variable {C : Type} {config next : Partitioning C} {entries : List (String × Nat)}

/-- The sum of the weights which are left when later entries have taken the place of earlier ones
with the same name. -/
def wholeTotal (entries : List (String × Nat)) : Nat := ((Table.ofList entries).map Prod.snd).sum

/-- The weights are those which the entries leave, in some order. -/
def Weighs (config : Partitioning C) (entries : List (String × Nat)) : Prop :=
  ∃ arranged : Table Nat, arranged.Perm (Table.ofList entries) ∧
    config.weights = arranged.map (Prod.map id Double.ofNat)

/-- So they are when the entries are configured one after the other. -/
theorem weighs_of_addWeights (empty : config.weights = [])
    (accepted : config.addWeights (entries.map (Prod.map id Double.ofNat)) = .ok next) :
    next.Weighs entries := by
  have weights := weights_of_addWeights accepted
  rw [empty] at weights
  exact ⟨_, List.Perm.refl _, weights.trans (Table.ofList_map Double.ofNat entries)⟩

lemma le_wholeTotal {entry : String × Nat} (mem : entry ∈ Table.ofList entries) :
    entry.2 ≤ wholeTotal entries :=
  List.le_sum_of_mem (List.mem_map_of_mem mem)

/-- Whole numbers are added up exactly, in any order. -/
lemma total_of_weighs (weighs : config.Weighs entries) (positive : 0 < wholeTotal entries)
    (few : wholeTotal entries ≤ 2 ^ 53) :
    config.total = .finite (wholeTotal entries * one) := by
  obtain ⟨arranged, same, weights_eq⟩ := weighs
  have sum_eq : (arranged.map Prod.snd).sum = wholeTotal entries := (same.map Prod.snd).sum_eq
  have adds := @Double.foldl_add_whole (arranged.map Prod.snd) 0 (by omega)
  rw [Nat.zero_mul, Nat.zero_add, sum_eq] at adds
  unfold total Share.weightSum
  rw [weights_eq, Table.values_map, adds]
  exact if_pos (decide_eq_true (Nat.mul_pos positive Double.one_pos))

lemma at?_of_weighs (built : config.Built) (weighs : config.Weighs entries)
    {entry : String × Nat} (mem : entry ∈ Table.ofList entries) :
    Table.at? config.weights entry.1 = some (Double.ofNat entry.2) := by
  obtain ⟨arranged, same, weights_eq⟩ := weighs
  have given := Table.mem_map_values Double.ofNat (same.mem_iff.mpr mem)
  rw [← weights_eq] at given
  exact built.checked.distinct.at?_of_mem given

lemma moderate_of_weighs (built : config.Built) (small : config.limit < 2 ^ 32)
    (positive : ∀ entry ∈ entries, 0 < entry.2) (few : wholeTotal entries < 2 ^ 32)
    {entry : String × Nat} (mem : entry ∈ Table.ofList entries) :
    Moderate config.limit entry.2 (wholeTotal entries) :=
  ⟨built.checked.limit_pos, small, positive entry (Table.mem_of_mem_ofList mem), le_wholeTotal mem,
    few⟩

/-- The fraction of a whole weight is the rounded quotient of the whole numbers. -/
lemma fractionUnits_of_weighs (weighs : config.Weighs entries) {weight : Nat}
    (moderate : Moderate config.limit weight (wholeTotal entries)) :
    config.fractionUnits (Double.ofNat weight) = nearest (weight * one) (wholeTotal entries) := by
  have small := moderate.total_small
  have weight_le := moderate.weight_le
  rw [Double.ofNat_of_le (by omega),
    fractionUnits_eq (total_of_weighs weighs moderate.total_pos (by omega))
      (Nat.mul_pos moderate.total_pos Double.one_pos) (Nat.mul_le_mul_right one weight_le),
    Double.nearest_mul_right Double.one_pos]

end Partitioning

open Partitioned

variable {C κ G W : Type}

/-- Whole weights whose total is a word of half the length share such a limit. A share is the
proportion which is due, rounded up, exactly if the product of the limit with the rounded fraction is
not past that whole number by more than half a step, and past the number before it by more. It misses
what is due by one at most, and not at all if the product of the limit with the weight is less than
`2 ^ 52` and no multiple of the total. In every run the child of the partition is made with this
share. -/
theorem share_is_due_iff_product_near [Limiter C κ G W] {config : Partitioning C}
    {entries : List (String × Nat)} (built : config.Built) (weighs : config.Weighs entries)
    (positive : ∀ entry ∈ entries, 0 < entry.2) (small : config.limit < 2 ^ 32)
    (few : Partitioning.wholeTotal entries < 2 ^ 32) :
    ∀ entry ∈ Table.ofList entries,
      let due := dueShare config.limit entry.2 (Partitioning.wholeTotal entries)
      let product := config.limit * config.fractionUnits (Double.ofNat entry.2)
      ∃ share, config.shareOf (Double.ofNat entry.2) = .ok share ∧
        (share = due ↔ NotPast due product ∧ ¬NotPast (due - 1) product) ∧
        share ≤ due + 1 ∧ due ≤ share + 1 ∧
        (config.limit * entry.2 < 2 ^ 52 →
          ¬Partitioning.wholeTotal entries ∣ config.limit * entry.2 → share = due) ∧
        ∀ (make : Nat → Except Fault κ) (limiter : Partitioned C κ),
          Partitioned.create config make = .ok limiter → ∀ actions : List (Action C),
          let fresh : Session C (Partitioned C κ) (PartitionGrant G) (String × W) := start limiter
          ∀ made ∈ (fresh.after actions).limiter.made, made.1 = entry.1 → made.2 = share := by
  intro entry mem
  have moderate := Partitioning.moderate_of_weighs built small positive few mem
  have double : config.limit ≤ 2 ^ 53 := by omega
  have size_eq : config.size (Double.ofNat entry.2) =
      Share.ofWhole config.limit entry.2 (Partitioning.wholeTotal entries) := by
    rw [Partitioning.size, Partitioning.fractionUnits_of_weighs weighs moderate, Share.ofWhole]
  rw [Partitioning.fractionUnits_of_weighs weighs moderate]
  refine ⟨_, Partitioning.shareOf_eq double _, ?_⟩
  rw [size_eq]
  refine ⟨moderate.ofWhole_eq_due_iff, moderate.ofWhole_le_succ_due, moderate.due_le_succ_ofWhole,
    moderate.ofWhole_eq_due, ?_⟩
  intro make limiter created actions fresh made made_mem same
  have sized : Sized config make (fresh.after actions).limiter := (create_sized created).after actions
  have listed := Partitioning.at?_of_weighs built weighs mem
  rw [← same] at listed
  rw [sized.made_eq_size double made_mem listed, size_eq]

/-- A limit of twenty-five before it is split. -/
def wholeLimit : Partitioning TaskLabel where
  limit := 25
  weights := []
  resolver := some TaskLabel.key?
  fallback := .reject
  unlisted := none

def wholeWeights : List (String × Nat) := [("a", 1), ("b", 18), ("a", 7)]

/-- The limit is as large as the total, so that each weight is due just itself. -/
def wholeSplit : Partitioning TaskLabel :=
  { wholeLimit with weights := [("a", Double.ofNat 7), ("b", Double.ofNat 18)] }

def wholeSplitLimiter : Partitioned TaskLabel RuleGate := ⟨wholeSplit, silentGate, [], [], 0⟩

lemma wholeLimit_addWeights :
    wholeLimit.addWeights (wholeWeights.map (Prod.map id Double.ofNat)) = .ok wholeSplit := by
  refine Partitioning.addWeights_eq fun entry mem => ?_
  obtain ⟨⟨name, weight⟩, given, rfl⟩ := List.mem_map.mp mem
  have sized : ∀ entry ∈ wholeWeights, 0 < entry.2 ∧ entry.2 ≤ 2 ^ 53 := by decide
  exact isWeight_ofNat (sized _ given).1 (sized _ given).2

lemma wholeSplit_weighs : wholeSplit.Weighs wholeWeights :=
  Partitioning.weighs_of_addWeights rfl wholeLimit_addWeights

lemma wholeSplit_built : wholeSplit.Built := by
  refine Partitioning.built_iff_checked.mpr
    ⟨by decide, by decide, (by decide : ["a", "b"].Nodup), ?_, ?_⟩
  · simp only [wholeSplit, List.mem_cons, List.not_mem_nil, or_false]
    rintro entry (rfl | rfl) <;> dsimp only <;> exact isWeight_ofNat (by norm_num) (by norm_num)
  · intro keys given
    cases given

/-- The larger weight gets what it is due. -/
theorem share_is_due_iff_product_near_of_larger_weight :
    wholeSplit.Built ∧ wholeSplit.Weighs wholeWeights ∧ (∀ entry ∈ wholeWeights, 0 < entry.2) ∧
      wholeSplit.limit < 2 ^ 32 ∧ Partitioning.wholeTotal wholeWeights < 2 ^ 32 ∧
      ("b", 18) ∈ Table.ofList wholeWeights ∧ dueShare 25 18 25 = 18 ∧
      wholeSplit.shareOf (Double.ofNat 18) = .ok 18 := by
  have positive : ∀ entry ∈ wholeWeights, 0 < entry.2 := by decide
  have small : wholeSplit.limit < 2 ^ 32 := by decide
  have few : Partitioning.wholeTotal wholeWeights < 2 ^ 32 := by decide
  have mem : ("b", 18) ∈ Table.ofList wholeWeights := by decide
  have due : dueShare 25 18 25 = 18 := by decide +kernel
  obtain ⟨share, told, due_iff, -⟩ := share_is_due_iff_product_near
    (κ := RuleGate) wholeSplit_built wholeSplit_weighs positive small few ("b", 18) mem
  have near : share = 18 := by
    refine (due_iff.mpr ?_).trans due
    decide +kernel
  exact ⟨wholeSplit_built, wholeSplit_weighs, positive, small, few, mem, due, near ▸ told⟩

/-- The quotient of seven by twenty-five is rounded up, and the smaller weight gets one too many. -/
theorem whole_proportion_is_rounded_up :
    wholeSplit.Built ∧ wholeSplit.Weighs wholeWeights ∧ (∀ entry ∈ wholeWeights, 0 < entry.2) ∧
      wholeSplit.limit < 2 ^ 32 ∧ Partitioning.wholeTotal wholeWeights < 2 ^ 32 ∧
      ("a", 7) ∈ Table.ofList wholeWeights ∧
      dueShare wholeSplit.limit 7 (Partitioning.wholeTotal wholeWeights) = 7 ∧
      Partitioned.create wholeSplit silentGate = .ok wholeSplitLimiter ∧
      ((start wholeSplitLimiter).after visitOfA).limiter.made = [("a", 8)] := by
  refine ⟨wholeSplit_built, wholeSplit_weighs, by decide, by decide, by decide, by decide,
    by decide +kernel, rfl, ?_⟩
  decide +kernel

end Admission

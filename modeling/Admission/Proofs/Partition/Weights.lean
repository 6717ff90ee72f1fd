import Admission.Proofs.Algorithm.Built
import Admission.Proofs.Double.Order
import Admission.Proofs.Partition.Destinations
import Admission.Proofs.Results
import Admission.Proofs.Table

/-!
# Splits which can be built

The splits of a limit which the settings allow, given one by one, in any order and any number of
times. The order in which weights are added up is not told, so it may be any. Every check is kept by
what follows it: in whatever is built the limit is a positive word, no name is configured twice, and
all weights are positive finite doubles.
-/

namespace Admission

/-- A positive finite double. -/
def IsWeight (weight : Double) : Prop :=
  ∃ units, weight = .finite units ∧ Double.Holds units ∧ 0 < units

lemma IsWeight.eq_finite {weight : Double} (weighs : IsWeight weight) :
    weight = .finite weight.units := by
  obtain ⟨units, rfl, -⟩ := weighs
  rfl

lemma IsWeight.holds {weight : Double} (weighs : IsWeight weight) :
    Double.Holds weight.units := by
  obtain ⟨units, rfl, holds, -⟩ := weighs
  exact holds

lemma IsWeight.pos {weight : Double} (weighs : IsWeight weight) : 0 < weight.units := by
  obtain ⟨units, rfl, -, positive⟩ := weighs
  exact positive

lemma isWeight_ofNat {n : Nat} (positive : 0 < n) (small : n ≤ 2 ^ 53) :
    IsWeight (Double.ofNat n) :=
  ⟨_, Double.ofNat_of_le small, Double.holds_mul_one small, Nat.mul_pos positive Double.one_pos⟩

lemma isWeight_of_weight? {setting : Setting} {weight : Double} (proper : setting.Proper)
    (accepted : setting.weight? = some weight) : IsWeight weight := by
  cases proper with
  | nan | negative => cases accepted
  | @of value proper =>
    cases proper with
    | infinite => cases accepted
    | @finite units holds =>
      simp only [Setting.weight?, Option.ite_none_right_eq_some, Option.some.injEq] at accepted
      exact ⟨units, accepted.2.symm, holds, accepted.1⟩

lemma Setting.eq_of_weight? {value weight : Double}
    (accepted : (Setting.of value).weight? = some weight) : value = weight := by
  cases value with
  | infinite => cases accepted
  | finite units =>
    simp only [Setting.weight?, Option.ite_none_right_eq_some, Option.some.injEq] at accepted
    exact accepted.2

lemma IsWeight.exists_setting {weight : Double} (weighs : IsWeight weight) :
    ∃ setting : Setting, setting.Proper ∧ setting.weight? = some weight := by
  obtain ⟨units, rfl, holds, positive⟩ := weighs
  exact ⟨.of (.finite units), .of (.finite holds), if_pos positive⟩

namespace Partitioning

variable {C : Type} {config next : Partitioning C}

/-- What is built from the default. -/
inductive Built : Partitioning C → Prop
  | start : Built default
  | limit {config next : Partitioning C} {limit : Nat} (built : Built config)
    (word : limit < wordSize) (accepted : config.withLimit limit = .ok next) : Built next
  | partition {config next : Partitioning C} {name : String} {weight : Setting}
    (built : Built config) (proper : weight.Proper)
    (accepted : config.withPartition name weight = .ok next) : Built next
  | resolver {config : Partitioning C} (built : Built config) (resolver : C → Option String) :
    Built (config.withResolver resolver)
  | fallback {config : Partitioning C} (built : Built config) (fallback : Fallback) :
    Built (config.withFallback fallback)
  | unlisted {config next : Partitioning C} {weight : Setting} {cap : Nat} (built : Built config)
    (proper : weight.Proper) (accepted : config.withUnlisted weight cap = .ok next) : Built next
  /-- The weights may be added up in any order. -/
  | arranged {config : Partitioning C} {weights : Table Double} (built : Built config)
    (same : weights.Perm config.weights) : Built { config with weights := weights }

/-- What the checks of the settings have left. -/
structure Checked (config : Partitioning C) : Prop where
  limit_pos : 1 ≤ config.limit
  limit_word : config.limit < wordSize
  distinct : Table.Distinct config.weights
  weights : ∀ entry ∈ config.weights, IsWeight entry.2
  unlisted : ∀ keys ∈ config.unlisted, IsWeight keys.weight

lemma Built.checked (built : config.Built) : config.Checked := by
  induction built with
  | start =>
    exact {
      limit_pos := by dsimp only [default]; decide
      limit_word := by dsimp only [default]; decide
      distinct := List.nodup_nil
      weights := fun entry mem => absurd mem List.not_mem_nil
      unlisted := fun keys given => by cases given }
  | limit _ word accepted ih =>
    unfold withLimit at accepted
    split at accepted
    · cases accepted
    · rename_i positive
      obtain rfl := Except.ok.inj accepted
      exact { ih with limit_pos := Nat.pos_of_ne_zero positive, limit_word := word }
  | «partition» _ proper accepted ih =>
    unfold withPartition at accepted
    split at accepted
    · rename_i weight weighs
      obtain rfl := Except.ok.inj accepted
      refine { ih with distinct := ih.distinct.put _ _, weights := fun entry mem => ?_ }
      rcases Table.mem_put mem with rfl | old
      · exact isWeight_of_weight? proper weighs
      · exact ih.weights entry old
    · cases accepted
  | resolver _ _ ih | fallback _ _ ih => exact { ih with }
  | unlisted _ proper accepted ih =>
    unfold withUnlisted at accepted
    split at accepted
    · rename_i weight weighs
      obtain rfl := Except.ok.inj accepted
      refine { ih with unlisted := fun keys given => ?_ }
      cases given
      exact isWeight_of_weight? proper weighs
    · cases accepted
  | arranged _ same ih =>
    exact { ih with
      distinct := ((same.map Prod.fst).nodup_iff).mpr ih.distinct
      weights := fun entry mem => ih.weights entry (same.mem_iff.mp mem) }

lemma Built.of_weights {weights : Table Double} (built : config.Built)
    (empty : config.weights = []) (distinct : Table.Distinct weights)
    (weigh : ∀ entry ∈ weights, IsWeight entry.2) : Built { config with weights := weights } := by
  induction weights using List.reverseRecOn with
  | nil =>
    rw [← empty]
    exact built
  | append_singleton before entry ih =>
    obtain ⟨name, weight⟩ := entry
    have early := ih (by simpa using distinct.erase)
      fun entry mem => weigh entry (List.mem_append_left _ mem)
    obtain ⟨setting, proper, weighs⟩ :=
      IsWeight.exists_setting (weigh (name, weight) List.mem_append_cons_self)
    refine @Built.partition C _ _ name setting early proper ?_
    unfold withPartition
    rw [weighs]
    dsimp only
    rw [Table.put_of_at?_none weight distinct.at?_of_last]

lemma Checked.isWeight_of_mem (checked : config.Checked) {weight : Double}
    (mem : weight ∈ config.weights.map Prod.snd) : IsWeight weight := by
  obtain ⟨entry, given, rfl⟩ := List.mem_map.mp mem
  exact checked.weights entry given

/-- Everything which passes the checks can be built. -/
theorem built_iff_checked : config.Built ↔ config.Checked := by
  refine ⟨Built.checked, fun checked => ?_⟩
  obtain ⟨limit, weights, resolver, fallback, unlisted⟩ := config
  have limited : Built { (default : Partitioning C) with limit := limit } :=
    .limit .start checked.limit_word (if_neg (Nat.pos_iff_ne_zero.mp checked.limit_pos))
  have weighted := (limited.of_weights rfl checked.distinct checked.weights).fallback fallback
  have resolved : Built
      { limit := limit, weights := weights, resolver := resolver, fallback := fallback,
        unlisted := none } := by
    cases resolver with
    | none => exact weighted
    | some resolver => exact weighted.resolver resolver
  cases unlisted with
  | none => exact resolved
  | some keys =>
    obtain ⟨setting, proper, weighs⟩ := (checked.unlisted keys rfl).exists_setting
    refine @Built.unlisted C _ _ setting keys.cap resolved proper ?_
    unfold withUnlisted
    rw [weighs]

/-- Configures partitions one after the other. -/
def addWeights (config : Partitioning C) (entries : Table Double) : Except Fault (Partitioning C) :=
  entries.foldlM (fun config entry => config.withPartition entry.1 (.of entry.2)) config

lemma weights_of_addWeights {entries : Table Double}
    (accepted : config.addWeights entries = .ok next) :
    next.weights =
      entries.foldl (fun table entry => Table.put table entry.1 entry.2) config.weights := by
  induction entries generalizing config with
  | nil =>
    obtain rfl := Except.ok.inj accepted
    rfl
  | cons entry rest ih =>
    unfold addWeights at accepted
    rw [List.foldlM_cons] at accepted
    obtain ⟨middle, added, accepted⟩ := of_bind_ok accepted
    rw [ih accepted, List.foldl_cons]
    unfold withPartition at added
    split at added
    · rename_i weight weighs
      obtain rfl := Except.ok.inj added
      rw [Setting.eq_of_weight? weighs]
    · cases added

lemma addWeights_eq {entries : Table Double} (weigh : ∀ entry ∈ entries, IsWeight entry.2) :
    config.addWeights entries = .ok { config with
      weights := entries.foldl (fun table entry => Table.put table entry.1 entry.2)
        config.weights } := by
  induction entries generalizing config with
  | nil => rfl
  | cons entry rest ih =>
    obtain ⟨units, units_eq, -, positive⟩ := weigh entry List.mem_cons_self
    have added : config.withPartition entry.1 (.of entry.2) =
        .ok { config with weights := Table.put config.weights entry.1 entry.2 } := by
      rw [units_eq, withPartition, Setting.weight?, if_pos positive]
    unfold addWeights
    rw [List.foldlM_cons, added]
    exact ih fun other mem => weigh other (List.mem_cons_of_mem _ mem)

/-- Whatever weight a partition may get, it is one. -/
lemma Checked.isWeight (checked : config.Checked) {key : String} {weight : Double}
    (weighs : config.weight? key = some weight) : IsWeight weight := by
  unfold weight? at weighs
  rcases Option.or_eq_some_iff.mp weighs with listed | ⟨-, unlisted⟩
  · exact checked.weights _ (Table.mem_of_at? listed)
  · obtain ⟨keys, given, rfl⟩ := Option.map_eq_some_iff.mp unlisted
    exact checked.unlisted keys given

end Partitioning

end Admission

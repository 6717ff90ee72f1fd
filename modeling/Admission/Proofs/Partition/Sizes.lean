import Admission.Proofs.Double.Order
import Admission.Proofs.Partition.Belonging
import Admission.Proofs.Partition.Weights

/-!
# The sizes of partitions

A share is a fraction of the limit which is rounded three times: the quotient of the weights, its
product with the limit, and the product up to a whole number. None of this changes the order of
two shares or leaves the range from one to the limit, as long as the limit is a double. In every run
of a partitioned limiter children are made with these shares, and with no others.
-/

namespace Admission

open Relation (ReflTransGen)
open Limiter (Asks Attends)
open Session (Action start)

namespace Share

open Double (one nearest ceiling)

attribute [local irreducible] Double.one Double.overflow

variable {limit units more : Nat}

/-- A limit times a fraction of so many units, rounded to a double and then up, to at least one. -/
def rounded (limit units : Nat) : Nat := max (ceiling (nearest (limit * units) 1)) 1

lemma one_le_rounded (limit units : Nat) : 1 ≤ rounded limit units := Nat.le_max_right _ _

lemma rounded_mono (limit : Nat) (le : units ≤ more) : rounded limit units ≤ rounded limit more := by
  have product_le := Double.nearest_mono Nat.one_pos (Nat.mul_le_mul_left limit le)
  exact max_le_max_right 1 (Double.ceiling_mono product_le)

/-- The product with a fraction is not above the limit. -/
lemma product_le (small : limit ≤ 2 ^ 53) (part : units ≤ one) :
    nearest (limit * units) 1 ≤ limit * one := by
  refine Double.nearest_le_of_holds Nat.one_pos (Double.holds_mul_one small) ?_
  rw [Nat.mul_one]
  exact Nat.mul_le_mul_left limit part

lemma rounded_le (positive : 1 ≤ limit) (small : limit ≤ 2 ^ 53) (part : units ≤ one) :
    rounded limit units ≤ limit :=
  max_le (Double.ceiling_le_iff.mpr (product_le small part)) positive

lemma portion_of_ceil? {fraction : Double} {share : Nat}
    (rounds : ((Double.ofNat limit).mul fraction).ceil? = some share) (word : share < wordSize) :
    portion limit fraction = .ok (max share 1) := by
  -- Only as a function is the definition opened without the rounding of the limit being computed.
  generalize same : portion = opened
  delta portion at same
  subst same
  dsimp only
  rw [rounds]
  exact if_pos word

lemma portion_eq (small : limit ≤ 2 ^ 53) (part : units ≤ one) :
    portion limit (.finite units) = .ok (rounded limit units) := by
  have below := product_le small part
  have rounds : (Double.ofNat limit).mul (.finite units) =
      .finite (nearest (limit * units) 1) := by
    have unscaled := Double.round_mul_right Double.one_pos (limit * units) 1
    rw [Nat.one_mul] at unscaled
    rw [Double.ofNat_of_le small, Double.mul_finite, Nat.mul_right_comm, unscaled]
    exact Double.round_of_lt (below.trans_lt (Double.holds_mul_one small).1)
  have share_le : ceiling (nearest (limit * units) 1) ≤ 2 ^ 53 :=
    (Double.ceiling_le_iff.mpr below).trans small
  refine portion_of_ceil? ?_ (share_le.trans_lt (by decide))
  rw [rounds, Double.ceil?_finite]

end Share

namespace Partitioning

open Double (one nearest)

variable {C : Type} {config : Partitioning C}

/-- How many units the fraction of a weight has. -/
def fractionUnits (config : Partitioning C) (weight : Double) : Nat :=
  (Share.fraction weight config.total).units

/-- The share of a weight, provided that the limit is a double. -/
def size (config : Partitioning C) (weight : Double) : Nat :=
  Share.rounded config.limit (config.fractionUnits weight)

lemma fraction_eq (config : Partitioning C) (weight : Double) :
    Share.fraction weight config.total = .finite (config.fractionUnits weight) := by
  obtain ⟨units, same, -⟩ := Double.exists_min (weight.div config.total) one
  rw [fractionUnits, Share.fraction, same, Double.units_finite]

lemma fractionUnits_le (config : Partitioning C) (weight : Double) :
    config.fractionUnits weight ≤ one := by
  obtain ⟨units, same, below⟩ := Double.exists_min (weight.div config.total) one
  rw [fractionUnits, Share.fraction, same, Double.units_finite]
  exact below

/-- The fraction of a weight which is not above the total. -/
lemma fractionUnits_eq {weight total : Nat} (adds : config.total = .finite total)
    (positive : 0 < total) (part : weight ≤ total) :
    config.fractionUnits (.finite weight) = nearest (weight * one) total := by
  have below : nearest (weight * one) total ≤ one := by
    refine Double.nearest_le_of_holds positive Double.holds_one ?_
    rw [Nat.mul_comm one]
    exact Nat.mul_le_mul_right one part
  have bounded : nearest (weight * one) total < Double.overflow :=
    below.trans_lt Double.holds_one.1
  rw [fractionUnits, Share.fraction, adds, Double.div_finite positive, Double.round_of_lt bounded,
    Double.min_of_le below, Double.units_finite]

lemma fractionUnits_mono (config : Partitioning C) {light heavy : Nat} (le : light ≤ heavy) :
    config.fractionUnits (.finite light) ≤ config.fractionUnits (.finite heavy) := by
  have ordered := Double.min_mono (Double.div_mono le config.total) one
  rwa [← Share.fraction, ← Share.fraction, fraction_eq, fraction_eq,
    Double.finite_le_finite] at ordered

lemma shareOf_eq (small : config.limit ≤ 2 ^ 53) (weight : Double) :
    config.shareOf weight = .ok (config.size weight) := by
  rw [shareOf, Share.share, fraction_eq, Share.portion_eq small (config.fractionUnits_le weight),
    size]

lemma HasShare.eq_size {key : String} {weight : Double} {share : Nat}
    (has : config.HasShare key share) (small : config.limit ≤ 2 ^ 53)
    (weighs : config.weight? key = some weight) : share = config.size weight :=
  HasShare.unique ⟨weight, weighs, shareOf_eq small weight⟩ has

/-- Every share can be told, and the shares of two weights are in their order. -/
theorem shares_in_order (built : config.Built) (small : config.limit ≤ 2 ^ 53)
    {light heavy : Double} (weight : IsWeight light) (weight' : IsWeight heavy)
    (le : light ≤ heavy) :
    1 ≤ config.size light ∧ config.size light ≤ config.size heavy ∧
      config.size heavy ≤ config.limit := by
  obtain ⟨light, rfl, -⟩ := weight
  obtain ⟨heavy, rfl, -⟩ := weight'
  exact ⟨Share.one_le_rounded _ _,
    Share.rounded_mono _ (config.fractionUnits_mono (Double.finite_le_finite.mp le)),
    Share.rounded_le built.checked.limit_pos small (config.fractionUnits_le _)⟩

end Partitioning

namespace Partitioned

variable {C κ G W : Type} {config : Partitioning C} {make : Nat → Except Fault κ}
  {limiter next : Partitioned C κ} {key : String}

/-- Children have been made with the shares of their keys only. -/
structure Sized (config : Partitioning C) (make : Nat → Except Fault κ) (limiter : Partitioned C κ) :
    Prop where
  sameConfig : limiter.config = config
  sameMake : limiter.make = make
  shares : ∀ entry ∈ limiter.made, config.HasShare entry.1 entry.2

lemma Sized.makeChild (sized : Sized config make limiter) {weight : Double}
    (weighs : config.weight? key = some weight) :
    Sized config make (limiter.makeChild key (config.shareOf weight)).1 := by
  cases part : config.shareOf weight with
  | error fault => exact sized
  | ok share =>
    have shares : ∀ entry ∈ limiter.made ++ [(key, share)], config.HasShare entry.1 entry.2 := by
      intro entry mem
      rcases List.mem_append.mp mem with old | new
      · exact sized.shares entry old
      · obtain rfl := List.mem_singleton.mp new
        exact ⟨weight, weighs, part⟩
    unfold Partitioned.makeChild
    dsimp only
    split <;> exact ⟨sized.sameConfig, sized.sameMake, shares⟩

lemma Sized.resolve (sized : Sized config make limiter) (key : String) :
    Sized config make (limiter.resolve key).1 := by
  have same := sized.sameConfig
  unfold Partitioned.resolve
  rw [same]
  split
  · exact sized
  cases listed : Table.at? config.weights key with
  | some weight => exact sized.makeChild (by simp [Partitioning.weight?, listed])
  | none =>
    cases unlisted : config.unlisted with
    | none => exact sized
    | some places =>
      dsimp only
      split
      · -- A place is taken, which no share depends on.
        have counted : Sized config make
            { limiter with unlistedCount := limiter.unlistedCount + 1 } :=
          ⟨same, sized.sameMake, sized.shares⟩
        rw [same] at counted
        exact counted.makeChild (by simp [Partitioning.weight?, listed, unlisted])
      · exact sized

lemma Sized.routeFallback (sized : Sized config make limiter) :
    Sized config make limiter.routeFallback.1 := by
  unfold Partitioned.routeFallback
  split
  · exact sized
  · exact sized
  · rename_i name _
    have resolved := sized.resolve name
    generalize limiter.resolve name = result at resolved ⊢
    obtain ⟨next, fault | _ | child⟩ := result <;> exact resolved

lemma Sized.route (sized : Sized config make limiter) (ctx : C) :
    Sized config make (limiter.route ctx).1 := by
  unfold Partitioned.route
  cases limiter.config.key? ctx with
  | none => exact sized.routeFallback
  | some key =>
    have resolved := sized.resolve key
    dsimp only
    generalize limiter.resolve key = result at resolved ⊢
    obtain ⟨next, fault | _ | child⟩ := result
    · exact resolved
    · exact resolved.routeFallback
    · exact resolved

lemma Sized.putChild (sized : Sized config make limiter) (key : String) (child : κ) :
    Sized config make (limiter.putChild key child) :=
  ⟨sized.sameConfig, sized.sameMake, sized.shares⟩

/-- The child of a configured key has been made with the share of its weight. -/
lemma Sized.made_eq_size (sized : Sized config make limiter) (small : config.limit ≤ 2 ^ 53)
    {entry : String × Nat} (mem : entry ∈ limiter.made) {weight : Double}
    (listed : Table.at? config.weights entry.1 = some weight) : entry.2 = config.size weight :=
  (sized.shares entry mem).eq_size small (by simp [Partitioning.weight?, listed])

/-- A caller whom no child can be made for has a key with a weight; it is the share of the weight
which cannot be told, or no child can be made with it. -/
lemma exists_weight_of_route_fault {ctx : C} {fault : Fault}
    (failed : (limiter.route ctx).2 = .error fault) :
    ∃ key weight, limiter.config.weight? key = some weight ∧
      ∀ share, limiter.config.shareOf weight = .ok share → ∀ child, limiter.make share ≠ .ok child := by
  have routes := route_routes limiter ctx
  generalize limiter.route ctx = result at routes failed
  cases routes with
  | own | fallback | unlimited | rejected | nowhere => cases failed
  | ownFault _ resolves | fallbackFault _ _ resolves =>
    cases resolves with
    | fault _ offer fails => exact ⟨_, _, weight?_of_offer? offer, fails⟩

variable [Limiter C κ G W]
  {session : Session C (Partitioned C κ) (PartitionGrant G) (String × W)}

lemma Sized.asked (sized : Sized config make limiter) {ctx : C} (asks : Asks ctx limiter next) :
    Sized config make next := by
  have arrived := sized.route ctx
  rcases routed : limiter.route ctx with ⟨middle, result⟩
  rw [routed] at arrived
  rcases asks_cases routed asks with rfl | ⟨key, child, later, -, -, rfl⟩
  · exact arrived
  · exact arrived.putChild key later

lemma Sized.attended (sized : Sized config make limiter)
    (attended : ReflTransGen (Attends C) limiter next) : Sized config make next := by
  induction attended with
  | refl => exact sized
  | tail _ attends ih =>
    rcases attends_cases attends with rfl | ⟨key, child, later, -, -, rfl⟩
    · exact ih
    · exact ih.putChild key later

lemma Sized.step (sized : Sized config make session.limiter) (action : Action C) :
    Sized config make (session.step action).1.limiter := by
  obtain ⟨asked, asks, attended⟩ := session.step_calls action
  unfold Session.Asked at asks
  cases brings : action.ctx? with
  | none =>
    rw [brings] at asks
    subst asks
    exact sized.attended attended
  | some ctx =>
    rw [brings] at asks
    exact (sized.asked asks).attended attended

theorem Sized.after (sized : Sized config make session.limiter) (actions : List (Action C)) :
    Sized config make (session.after actions).limiter := by
  induction actions generalizing session with
  | nil => exact sized
  | cons action rest ih => exact ih (sized.step action)

lemma create_sized (built : create config make = .ok limiter) : Sized config make limiter := by
  obtain rfl := of_create built
  exact ⟨rfl, rfl, fun entry mem => absurd mem List.not_mem_nil⟩

end Partitioned

open Partitioned

variable {C κ G W : Type}

/-- Whatever the weights are, and also where there are none or their sum is infinite, the share of a
weight can be told and lies between one and the limit, and a larger weight has no smaller share. The
weights of configured partitions and of others are weights of this kind. So in every run children
are made with such shares only, and a caller can be sent on unless no child can be made with a
share. -/
theorem shares_are_bounded_and_ordered [Limiter C κ G W] {config : Partitioning C}
    (built : config.Built) (small : config.limit ≤ 2 ^ 53) :
    (∀ light heavy, IsWeight light → IsWeight heavy → light ≤ heavy →
      ∃ less more, config.shareOf light = .ok less ∧ config.shareOf heavy = .ok more ∧
        1 ≤ less ∧ less ≤ more ∧ more ≤ config.limit) ∧
      (∀ key weight, config.weight? key = some weight → IsWeight weight) ∧
      ∀ (make : Nat → Except Fault κ) (limiter : Partitioned C κ),
        Partitioned.create config make = .ok limiter → ∀ actions : List (Action C),
        let fresh : Session C (Partitioned C κ) (PartitionGrant G) (String × W) := start limiter
        let now := (fresh.after actions).limiter
        (∀ entry ∈ now.made,
          config.HasShare entry.1 entry.2 ∧ 1 ≤ entry.2 ∧ entry.2 ≤ config.limit) ∧
        (∀ lesser ∈ now.made, ∀ greater ∈ now.made, ∀ light heavy,
          config.weight? lesser.1 = some light → config.weight? greater.1 = some heavy →
          light ≤ heavy → lesser.2 ≤ greater.2) ∧
        ∀ ctx fault, (now.route ctx).2 = .error fault →
          ∃ key share, config.HasShare key share ∧ ∀ child, make share ≠ .ok child := by
  have weigh {key : String} {weight : Double} (weighs : config.weight? key = some weight) :
      IsWeight weight := built.checked.isWeight weighs
  refine ⟨fun light heavy weight weight' le => ?_, fun key weight weighs => weigh weighs,
    fun make limiter created actions => ?_⟩
  · exact ⟨_, _, Partitioning.shareOf_eq small light, Partitioning.shareOf_eq small heavy,
      Partitioning.shares_in_order built small weight weight' le⟩
  intro fresh now
  have sized : Sized config make now := (create_sized created).after actions
  refine ⟨fun entry mem => ?_, fun lesser less_mem greater more_mem light heavy light_eq heavy_eq
    le => ?_, fun ctx fault failed => ?_⟩
  · have has := sized.shares entry mem
    obtain ⟨weight, weighs, -⟩ := sized.shares entry mem
    obtain ⟨first, -, last⟩ := Partitioning.shares_in_order built small (weigh weighs)
      (weigh weighs) (Double.le_refl weight)
    rw [← has.eq_size small weighs] at first last
    exact ⟨has, first, last⟩
  · rw [(sized.shares lesser less_mem).eq_size small light_eq,
      (sized.shares greater more_mem).eq_size small heavy_eq]
    exact (Partitioning.shares_in_order built small (weigh light_eq) (weigh heavy_eq) le).2.1
  · obtain ⟨key, weight, weighs, fails⟩ := exists_weight_of_route_fault failed
    rw [sized.sameConfig] at weighs fails
    rw [sized.sameMake] at fails
    have part := Partitioning.shareOf_eq small weight
    exact ⟨key, _, ⟨weight, weighs, part⟩, fails _ part⟩

/-- Twice this weight is infinite. -/
def hugeWeight : Double := .finite (Nat.pow 2 2097)

lemma isWeight_hugeWeight : IsWeight hugeWeight :=
  ⟨_, rfl, ⟨by decide +kernel, 1, 2097, by decide, by decide +kernel⟩, by decide +kernel⟩

/-- Two weights whose sum is infinite, and a lighter one for keys which are not configured. -/
def hugeWeights : Partitioning TaskLabel where
  limit := 10
  weights := [("a", hugeWeight), ("b", hugeWeight)]
  resolver := some TaskLabel.key?
  fallback := .reject
  unlisted := some ⟨Double.ofNat 1, 1⟩

def hugeWeightsLimiter : Partitioned TaskLabel RuleGate := ⟨hugeWeights, silentGate, [], [], 0⟩

lemma hugeWeights_built : hugeWeights.Built := by
  refine Partitioning.built_iff_checked.mpr
    ⟨by decide, by decide, (by decide : ["a", "b"].Nodup), ?_, ?_⟩
  · simp only [hugeWeights, List.mem_cons, List.not_mem_nil, or_false]
    rintro entry (rfl | rfl) <;> exact isWeight_hugeWeight
  · intro keys given
    obtain rfl : (⟨Double.ofNat 1, 1⟩ : UnlistedKeys) = keys := Option.some.inj given
    dsimp only
    exact isWeight_ofNat Nat.one_pos Nat.one_le_two_pow

def visitOfA : List (Action TaskLabel) := [.acquireNow "x" ⟨some "a"⟩]

/-- A caller comes, and its partition is given a share of an infinite sum. -/
theorem shares_are_bounded_and_ordered_for_infinite_sum :
    hugeWeights.Built ∧ hugeWeights.limit ≤ 2 ^ 53 ∧ hugeWeights.total = .infinite ∧
      (∃ less more, hugeWeights.shareOf (Double.ofNat 1) = .ok less ∧
        hugeWeights.shareOf hugeWeight = .ok more ∧ 1 ≤ less ∧ less ≤ more ∧ more ≤ 10) ∧
      Partitioned.create hugeWeights silentGate = .ok hugeWeightsLimiter ∧
      ((start hugeWeightsLimiter).after visitOfA).limiter.made = [("a", 1)] ∧
      hugeWeights.HasShare "a" 1 := by
  have small : hugeWeights.limit ≤ 2 ^ 53 := by decide
  obtain ⟨ordered, -, runs⟩ := shares_are_bounded_and_ordered (κ := RuleGate) hugeWeights_built small
  have light : IsWeight (Double.ofNat 1) := isWeight_ofNat (by norm_num) (by norm_num)
  have le : Double.ofNat 1 ≤ hugeWeight := by
    change hugeWeight.lt (Double.ofNat 1) = false
    decide +kernel
  have created : Partitioned.create hugeWeights silentGate = .ok hugeWeightsLimiter := rfl
  have made : ((start hugeWeightsLimiter).after visitOfA).limiter.made = [("a", 1)] := by
    decide +kernel
  have sized := (runs silentGate hugeWeightsLimiter created visitOfA).1 ("a", 1)
    (made ▸ List.mem_cons_self)
  exact ⟨hugeWeights_built, small, by decide +kernel,
    ordered _ _ light isWeight_hugeWeight le, created, made, sized.1⟩

end Admission

import Admission.Proofs.Partition.Routing

/-!
# Where callers belong

A caller belongs to the partition of the own key, or to the fallback if the key has no child and may
not have one. Nothing which callers do changes that: places which are taken do not come free again. So
once there is a child in the partition to which a caller belongs, the caller is sent there whenever the
caller asks.
-/

namespace Admission.Partitioned

open Relation (ReflTransGen)
open Limiter (Asks Attends Uses)

variable {C κ G W : Type}

/-- The limiter has grown: it is configured as before, and a key which could not have a child has none
and cannot have one. -/
structure Extends (before after : Partitioned C κ) : Prop where
  config : after.config = before.config
  unlistedCount : before.unlistedCount ≤ after.unlistedCount
  barred : ∀ key, Table.at? before.children key = none → before.offer? key = none →
    Table.at? after.children key = none

/-- The caller belongs to the partition of a key. -/
def Belongs (limiter : Partitioned C κ) (ctx : C) (key : String) : Prop :=
  limiter.config.key? ctx = some key ∨
    limiter.Homeless ctx ∧ limiter.config.fallback = .partition key

section Extends

variable {before middle after limiter next : Partitioned C κ} {ctx : C} {key : String}
  {child later : κ}

/-- Where no place is left for a key, none comes free. -/
lemma Extends.offer? (grows : before.Extends after) (none_left : before.offer? key = none) :
    after.offer? key = none := by
  unfold Partitioned.offer? at none_left ⊢
  rw [grows.config]
  cases listed : Table.at? before.config.weights key with
  | some weight =>
    rw [listed] at none_left
    cases none_left
  | none =>
    rw [listed] at none_left
    cases unlisted : before.config.unlisted with
    | none => rfl
    | some places =>
      rw [unlisted] at none_left
      dsimp only [Option.bind_some] at none_left ⊢
      have grown := grows.unlistedCount
      by_cases room : before.unlistedCount < places.cap
      · rw [if_pos room] at none_left
        cases none_left
      · exact if_neg (by omega)

lemma Extends.refl (limiter : Partitioned C κ) : limiter.Extends limiter :=
  ⟨rfl, Nat.le_refl _, fun _ unknown _ => unknown⟩

lemma Extends.trans (early : before.Extends middle) (late : middle.Extends after) :
    before.Extends after :=
  ⟨late.config.trans early.config, Nat.le_trans early.unlistedCount late.unlistedCount,
    fun key unknown none_left =>
      late.barred key (early.barred key unknown none_left) (early.offer? none_left)⟩

lemma Belongs.extends (belongs : before.Belongs ctx key) (grows : before.Extends after) :
    after.Belongs ctx key := by
  unfold Belongs at belongs ⊢
  rw [grows.config]
  refine belongs.imp_right fun ⟨homeless, falls⟩ => ⟨fun own asks => ?_, falls⟩
  rw [grows.config] at asks
  obtain ⟨unknown, none_left⟩ := homeless own asks
  exact ⟨grows.barred own unknown none_left, grows.offer? none_left⟩

lemma makeChild_unlistedCount (limiter : Partitioned C κ) (key : String) (part : Except Fault Nat) :
    (limiter.makeChild key part).1.unlistedCount = limiter.unlistedCount := by
  unfold makeChild
  cases part with
  | error fault => rfl
  | ok share =>
    dsimp only
    split <;> rfl

/-- Looking for a child may take a place, and never gives one back. -/
lemma unlistedCount_le_resolve (limiter : Partitioned C κ) (key : String) :
    limiter.unlistedCount ≤ (limiter.resolve key).1.unlistedCount := by
  unfold resolve
  split
  · exact Nat.le_refl _
  · split
    · exact Nat.le_of_eq (makeChild_unlistedCount limiter key _).symm
    · split
      · exact Nat.le_refl _
      · split
        · rw [makeChild_unlistedCount]
          exact Nat.le_succ _
        · exact Nat.le_refl _

lemma extends_resolve (limiter : Partitioned C κ) (key : String) :
    limiter.Extends (limiter.resolve key).1 := by
  have resolves := resolve_resolves limiter key
  refine ⟨?_, unlistedCount_le_resolve limiter key, fun other unknown none_left => ?_⟩
  · generalize limiter.resolve key = result at resolves
    cases resolves <;> rfl
  · by_cases same : other = key
    · subst same
      generalize limiter.resolve other = result at resolves
      cases resolves with
      | found known => cases unknown.symm.trans known
      | adopted _ offer => cases none_left.symm.trans offer
      | turnedAway | fault => exact unknown
    · exact (resolves.others same).trans unknown

lemma extends_routeFallback (limiter : Partitioned C κ) :
    limiter.Extends limiter.routeFallback.1 := by
  unfold routeFallback
  split
  · exact .refl limiter
  · exact .refl limiter
  · next name _ =>
    have grows := extends_resolve limiter name
    generalize limiter.resolve name = result at grows ⊢
    obtain ⟨next, fault | _ | child⟩ := result <;> exact grows

lemma extends_route (limiter : Partitioned C κ) (ctx : C) :
    limiter.Extends (limiter.route ctx).1 := by
  unfold route
  split
  · exact extends_routeFallback limiter
  · next key _ =>
    have grows := extends_resolve limiter key
    generalize limiter.resolve key = result at grows ⊢
    obtain ⟨next, fault | _ | child⟩ := result
    · exact grows
    · exact grows.trans (extends_routeFallback next)
    · exact grows

lemma extends_putChild (known : Table.at? limiter.children key = some child) (later : κ) :
    limiter.Extends (limiter.putChild key later) := by
  refine ⟨rfl, Nat.le_refl _, fun other unknown _ => ?_⟩
  have apart : other ≠ key := by
    rintro rfl
    cases unknown.symm.trans known
  exact (Table.at?_put_of_ne _ _ apart).trans unknown

/-- A caller is sent to a partition only where the caller belongs. -/
lemma belongs_of_route (routed : limiter.route ctx = (next, .ok (.partition key child))) :
    limiter.Belongs ctx key := by
  have routes := route_routes limiter ctx
  rw [routed] at routes
  cases routes with
  | own asks => exact .inl asks
  | fallback homeless falls => exact .inr ⟨homeless, falls⟩

lemma resolve_of_known (known : Table.at? limiter.children key = some child) :
    limiter.resolve key = (limiter, .ok (some child)) := by
  unfold resolve
  rw [known]

lemma resolve_of_barred (unknown : Table.at? limiter.children key = none)
    (none_left : limiter.offer? key = none) : limiter.resolve key = (limiter, .ok none) := by
  have resolves := resolve_resolves limiter key
  generalize limiter.resolve key = result at resolves ⊢
  cases resolves with
  | found known => cases unknown.symm.trans known
  | adopted _ offer | fault _ offer => cases none_left.symm.trans offer
  | turnedAway => rfl

/-- Where there is a child already, whoever belongs there is sent to it, and nothing changes. -/
theorem route_of_belongs (belongs : limiter.Belongs ctx key)
    (known : Table.at? limiter.children key = some child) :
    limiter.route ctx = (limiter, .ok (.partition key child)) := by
  have falls_back : limiter.config.fallback = .partition key →
      limiter.routeFallback = (limiter, .ok (.partition key child)) := by
    intro falls
    unfold routeFallback
    rw [falls]
    dsimp only
    rw [resolve_of_known known]
  unfold route
  rcases belongs with asks | ⟨homeless, falls⟩
  · rw [asks]
    dsimp only
    rw [resolve_of_known known]
  · cases asks : limiter.config.key? ctx with
    | none => exact falls_back falls
    | some own =>
      obtain ⟨unknown, none_left⟩ := homeless own asks
      dsimp only
      rw [resolve_of_barred unknown none_left]
      exact falls_back falls

end Extends

section Calls

variable [Limiter C κ G W] {limiter next : Partitioned C κ} {ctx : C} {now : Nat}

/-- Whoever is sent to a partition belongs there from then on. -/
lemma belongs_putChild {key : String} {child : κ}
    (routed : limiter.route ctx = (next, .ok (.partition key child))) (later : κ) :
    (next.putChild key later).Belongs ctx key := by
  have known := (resolves_of_route routed).child
  have grows := extends_route limiter ctx
  rw [routed] at grows
  exact (belongs_of_route routed).extends (grows.trans (extends_putChild known later))

lemma poll_of_known {place : String × W} {child : κ}
    (known : Table.at? limiter.children place.1 = some child) :
    limiter.poll ctx place now = (limiter.putChild place.1 (Limiter.poll child ctx place.2 now).1,
      (Limiter.poll child ctx place.2 now).2.map (within place.1)) := by
  simp only [poll, known]

lemma within_admitted {answer : Except Fault (Progress G W)} {key : String}
    {grant : PartitionGrant G} (admitted : answer.map (within key) = .ok (.admitted grant)) :
    ∃ inner, answer = .ok (.admitted inner) ∧ grant = .within key inner := by
  obtain ⟨progress, rfl, shown⟩ := exists_of_map_eq_ok admitted
  cases progress <;> cases shown
  exact ⟨_, rfl, rfl⟩

lemma within_waiting {answer : Except Fault (Progress G W)} {key : String} {place : String × W}
    (waits : answer.map (within key) = .ok (.waiting place)) :
    ∃ inner, answer = .ok (.waiting inner) ∧ place = (key, inner) := by
  obtain ⟨progress, rfl, shown⟩ := exists_of_map_eq_ok waits
  cases progress <;> cases shown
  exact ⟨_, rfl, rfl⟩

/-- Whoever has got a grant in a partition was sent to its child and has got the grant there. -/
lemma granted_within {key : String} {grant : G}
    (asked : limiter.acquireNow ctx = (next, .ok (some (.within key grant)))) :
    ∃ middle child, limiter.route ctx = (middle, .ok (.partition key child)) ∧
      (Limiter.acquireNow child ctx).2 = .ok (some grant) ∧
      next = middle.putChild key (Limiter.acquireNow child ctx).1 := by
  rcases routed : limiter.route ctx with ⟨middle, fault | ⟨sent_to, child⟩ | _ | _⟩
  · rw [acquireNow_fault routed] at asked
    cases asked
  · rw [acquireNow_partition routed] at asked
    obtain ⟨left, answered⟩ := Prod.mk.inj asked
    obtain ⟨granted, found, shown⟩ := exists_of_map_eq_ok answered
    obtain ⟨inner, rfl, same⟩ := Option.map_eq_some_iff.mp shown
    cases same
    exact ⟨middle, child, rfl, found, left.symm⟩
  · rw [acquireNow_unlimited routed] at asked
    cases asked
  · rw [acquireNow_reject routed] at asked
    cases asked

/-- Whoever is told to wait was sent to a partition and waits there. -/
lemma acquire_waiting {place : String × W}
    (looked : limiter.acquire ctx now = (next, .ok (.waiting place))) :
    ∃ middle child, limiter.route ctx = (middle, .ok (.partition place.1 child)) ∧
      (Limiter.acquire child ctx now).2 = .ok (.waiting place.2) ∧
      next = middle.putChild place.1 (Limiter.acquire child ctx now).1 := by
  rcases routed : limiter.route ctx with ⟨middle, fault | ⟨key, child⟩ | _ | _⟩
  · rw [acquire_fault routed] at looked
    cases looked
  · rw [acquire_partition routed] at looked
    obtain ⟨left, answered⟩ := Prod.mk.inj looked
    obtain ⟨inner, waits, rfl⟩ := within_waiting answered
    exact ⟨middle, child, rfl, waits, left.symm⟩
  · rw [acquire_unlimited routed] at looked
    cases looked
  · rw [acquire_reject routed] at looked
    cases looked

end Calls

section Uses

variable [Limiter C κ G W] {before after limiter next : Partitioned C κ} {ctx : C} {key : String}
  {child : κ}

lemma extends_asks (asks : Asks ctx before after) : before.Extends after ∧ before.Keeps after := by
  have grows := extends_route before ctx
  have routes := route_routes before ctx
  rcases routed : before.route ctx with ⟨next, result⟩
  rw [routed] at grows routes
  have keeps : before.Keeps next := fun _ old known => ⟨old, routes.keeps known, .refl⟩
  rcases asks_cases routed asks with rfl | ⟨key, child, later, rfl, inside, rfl⟩
  · exact ⟨grows, keeps⟩
  · have known := (resolves_of_route routed).child
    exact ⟨grows.trans (extends_putChild known later),
      keeps.trans (keeps_putChild known inside.uses)⟩

lemma extends_attends (attends : Attends C before after) :
    before.Extends after ∧ before.Keeps after := by
  rcases attends_cases attends with rfl | ⟨key, child, later, known, inside, rfl⟩
  · exact ⟨.refl after, .refl after⟩
  · exact ⟨extends_putChild known later, keeps_putChild known inside.uses⟩

/-- Whatever calls are made, everybody belongs where they did, and the children are still there. -/
theorem extends_uses (uses : Uses C before after) : before.Extends after ∧ before.Keeps after := by
  induction uses with
  | refl => exact ⟨.refl before, .refl before⟩
  | tail _ call ih =>
    obtain ⟨grows, keeps⟩ := ih
    rcases call with ⟨ctx, asks⟩ | attends
    · obtain ⟨grows_more, stays⟩ := extends_asks asks
      exact ⟨grows.trans grows_more, keeps.trans stays⟩
    · obtain ⟨grows_more, stays⟩ := extends_attends attends
      exact ⟨grows.trans grows_more, keeps.trans stays⟩

end Uses

end Admission.Partitioned

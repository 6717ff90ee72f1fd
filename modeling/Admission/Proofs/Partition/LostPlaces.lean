import Admission.Proofs.Partition.Belonging

/-!
# Places which are lost

A key which is not configured takes a place before its child is made. If the child cannot be made
the place is not given back: the count of places which are taken is the number of children of such
keys and of failed attempts to make one together. So places run out while there are fewer children
than there may be, and callers who should have one take the fallback.
-/

namespace Admission

open Relation (ReflTransGen)
open Limiter (Asks Attends)
open Session (Action start)

variable {C κ G W : Type}

namespace Partitioned

/-- The children of keys which are not configured. -/
def unlistedChildren (limiter : Partitioned C κ) : Nat :=
  (limiter.children.map Prod.fst).countP (!limiter.config.isConfigured ·)

/-- How many places are lost when the child of a key is looked for: one, if the key is not
configured and its child cannot be made. -/
def losesFor (limiter : Partitioned C κ) (key : String) : Nat :=
  match (limiter.resolve key).2 with
  | .ok _ => 0
  | .error _ => if limiter.config.isConfigured key then 0 else 1

/-- How many places are lost when a caller is sent on. -/
def loses (limiter : Partitioned C κ) (ctx : C) : Nat :=
  (limiter.config.key? ctx).elim 0 limiter.losesFor

/-- The places which are taken are those of the children, and those which have been lost. -/
structure Counted (config : Partitioning C) (lost : Nat) (limiter : Partitioned C κ) : Prop where
  target : ∀ name, config.fallback = .partition name → config.isConfigured name = true
  sameConfig : limiter.config = config
  unlistedCount : limiter.unlistedCount = limiter.unlistedChildren + lost

section Resolving

variable {config : Partitioning C} {limiter next : Partitioned C κ} {key : String} {lost : Nat}
  {child : κ}

lemma taken_of_offer? {weight : Double} {taken : Nat}
    (offer : limiter.offer? key = some (weight, taken)) :
    taken = if limiter.config.isConfigured key then 0 else 1 := by
  unfold offer? at offer
  unfold Partitioning.isConfigured
  cases listed : Table.at? limiter.config.weights key with
  | some listed_weight =>
    rw [listed] at offer
    cases offer
    rfl
  | none =>
    rw [listed] at offer
    obtain ⟨unlisted, -, offered⟩ := Option.bind_eq_some_iff.mp offer
    split at offered
    · cases offered
      rfl
    · cases offered

/-- The place of a key is taken before its child is made. -/
lemma resolve_unlistedCount (unknown : Table.at? limiter.children key = none) :
    (limiter.resolve key).1.unlistedCount =
      limiter.unlistedCount + ((limiter.offer? key).map Prod.snd).getD 0 := by
  unfold resolve offer?
  rw [unknown]
  dsimp only
  cases Table.at? limiter.config.weights key with
  | some weight =>
    rw [makeChild_unlistedCount]
    rfl
  | none =>
    dsimp only
    cases limiter.config.unlisted with
    | none => rfl
    | some places =>
      dsimp only [Option.bind_some]
      split
      · rw [makeChild_unlistedCount]
        rfl
      · rfl

lemma unlistedChildren_adopt (share taken : Nat) (child : κ) :
    (limiter.adopt key share taken child).unlistedChildren =
      limiter.unlistedChildren + if limiter.config.isConfigured key then 0 else 1 := by
  unfold unlistedChildren adopt
  rw [List.map_append, List.countP_append]
  cases configured : limiter.config.isConfigured key <;> simp [configured]

lemma unlistedChildren_putChild (known : Table.at? limiter.children key = some child) (later : κ) :
    (limiter.putChild key later).unlistedChildren = limiter.unlistedChildren := by
  unfold unlistedChildren putChild
  rw [Table.names_put later known]

lemma losesFor_of_ok {found : Option κ} (resolved : limiter.resolve key = (next, .ok found)) :
    limiter.losesFor key = 0 := by
  unfold losesFor
  rw [resolved]

lemma losesFor_of_error {fault : Fault} (resolved : limiter.resolve key = (next, .error fault)) :
    limiter.losesFor key = if limiter.config.isConfigured key then 0 else 1 := by
  unfold losesFor
  rw [resolved]

lemma losesFor_of_configured (configured : limiter.config.isConfigured key = true) :
    limiter.losesFor key = 0 := by
  unfold losesFor
  split
  · rfl
  · rw [if_pos configured]

lemma Counted.resolve (counted : Counted config lost limiter) (key : String) :
    Counted config (lost + limiter.losesFor key) (limiter.resolve key).1 := by
  obtain ⟨target, same, count⟩ := counted
  have resolves := resolve_resolves limiter key
  have takes (unknown : Table.at? limiter.children key = none) := resolve_unlistedCount unknown
  rcases resolved : limiter.resolve key with ⟨next, result⟩
  rw [resolved] at resolves takes
  cases resolves with
  | found known =>
    rw [losesFor_of_ok resolved]
    exact ⟨target, same, count⟩
  | turnedAway unknown offer =>
    rw [losesFor_of_ok resolved]
    exact ⟨target, same, count⟩
  | adopted unknown offer part made =>
    rw [losesFor_of_ok resolved]
    refine ⟨target, same, ?_⟩
    rw [unlistedChildren_adopt, ← taken_of_offer? offer]
    dsimp only [adopt]
    omega
  | fault unknown offer fails =>
    rw [losesFor_of_error resolved, ← taken_of_offer? offer]
    have taken := takes unknown
    rw [offer] at taken
    dsimp only [Option.map_some, Option.getD_some] at taken
    refine ⟨target, same, ?_⟩
    dsimp only
    change _ = limiter.unlistedChildren + _
    omega

lemma Counted.routeFallback (counted : Counted config lost limiter) :
    Counted config lost limiter.routeFallback.1 := by
  have same := counted.sameConfig
  unfold Partitioned.routeFallback
  split
  · exact counted
  · exact counted
  · rename_i name falls
    -- A partition which is the fallback is configured, so that no place is lost with it.
    have listed : limiter.config.isConfigured name = true := by
      rw [same] at falls ⊢
      exact counted.target name falls
    have resolved := counted.resolve name
    rw [losesFor_of_configured listed, Nat.add_zero] at resolved
    generalize limiter.resolve name = result at resolved ⊢
    obtain ⟨next, fault | _ | child⟩ := result <;> exact resolved

lemma Counted.route (counted : Counted config lost limiter) (ctx : C) :
    Counted config (lost + limiter.loses ctx) (limiter.route ctx).1 := by
  unfold Partitioned.route loses
  cases limiter.config.key? ctx with
  | none => exact counted.routeFallback
  | some key =>
    dsimp only [Option.elim_some]
    have resolved := counted.resolve key
    generalize limiter.resolve key = result at resolved ⊢
    obtain ⟨next, fault | _ | child⟩ := result
    · exact resolved
    · exact resolved.routeFallback
    · exact resolved

lemma Counted.putChild (counted : Counted config lost limiter)
    (known : Table.at? limiter.children key = some child) (later : κ) :
    Counted config lost (limiter.putChild key later) := by
  refine ⟨counted.target, counted.sameConfig, ?_⟩
  rw [unlistedChildren_putChild known]
  exact counted.unlistedCount

/-- A caller for whom a child cannot be made leaves the children as they were. -/
lemma children_of_route_failed {ctx : C} {fault : Fault}
    (routed : limiter.route ctx = (next, .error fault)) : next.children = limiter.children := by
  have routes := route_routes limiter ctx
  rw [routed] at routes
  cases routes with
  | ownFault _ resolves | fallbackFault _ _ resolves =>
    cases resolves
    rfl

lemma offer?_eq_none_iff (unlisted : limiter.config.isConfigured key = false) :
    limiter.offer? key = none ↔ limiter.config.places ≤ limiter.unlistedCount := by
  unfold Partitioning.isConfigured at unlisted
  unfold offer? Partitioning.places
  rw [Option.isSome_eq_false_iff, Option.isNone_iff_eq_none] at unlisted
  rw [unlisted]
  dsimp only
  cases limiter.config.unlisted with
  | none => simp
  | some places => simp

lemma resolve_eq_none_iff (unknown : Table.at? limiter.children key = none) :
    (limiter.resolve key).2 = .ok none ↔ limiter.offer? key = none := by
  constructor
  · intro none_found
    have resolves := resolve_resolves limiter key
    generalize limiter.resolve key = result at none_found resolves
    cases resolves with
    | found known => cases none_found
    | adopted => cases none_found
    | turnedAway _ offer => exact offer
    | fault => cases none_found
  · intro none_left
    rw [resolve_of_barred unknown none_left]

end Resolving

section Runs

variable [Limiter C κ G W] {config : Partitioning C} {limiter next : Partitioned C κ} {lost : Nat}
  {session : Session C (Partitioned C κ) (PartitionGrant G) (String × W)}

/-- How many places are lost in a run. -/
def lostPlaces (session : Session C (Partitioned C κ) (PartitionGrant G) (String × W)) :
    List (Action C) → Nat
  | [] => 0
  | action :: rest =>
    action.ctx?.elim 0 session.limiter.loses + lostPlaces (session.step action).1 rest

lemma lostPlaces_append (early late : List (Action C)) :
    lostPlaces session (early ++ late) =
      lostPlaces session early + lostPlaces (session.after early) late := by
  induction early generalizing session with
  | nil => exact (Nat.zero_add _).symm
  | cons action rest ih =>
    change _ + lostPlaces _ (rest ++ late) = _ + lostPlaces _ rest + _
    rw [ih, Nat.add_assoc]
    rfl

lemma Counted.asked (counted : Counted config lost limiter) {ctx : C}
    (asks : Asks ctx limiter next) : Counted config (lost + limiter.loses ctx) next := by
  have arrived := counted.route ctx
  rcases routed : limiter.route ctx with ⟨middle, result⟩
  rw [routed] at arrived
  rcases asks_cases routed asks with rfl | ⟨key, child, later, rfl, -, rfl⟩
  · exact arrived
  · exact arrived.putChild (resolves_of_route routed).child later

lemma Counted.attended (counted : Counted config lost limiter)
    (attended : ReflTransGen (Attends C) limiter next) : Counted config lost next := by
  induction attended with
  | refl => exact counted
  | tail _ attends ih =>
    rcases attends_cases attends with rfl | ⟨key, child, later, known, -, rfl⟩
    · exact ih
    · exact ih.putChild known later

lemma Counted.step (counted : Counted config lost session.limiter) (action : Action C) :
    Counted config (lost + action.ctx?.elim 0 session.limiter.loses)
      (session.step action).1.limiter := by
  obtain ⟨asked, asks, attended⟩ := session.step_calls action
  unfold Session.Asked at asks
  cases brings : action.ctx? with
  | none =>
    rw [brings] at asks
    subst asks
    exact counted.attended attended
  | some ctx =>
    rw [brings] at asks
    exact (counted.asked asks).attended attended

theorem Counted.after (counted : Counted config lost session.limiter) (actions : List (Action C)) :
    Counted config (lost + lostPlaces session actions) (session.after actions).limiter := by
  induction actions generalizing session lost with
  | nil => exact counted
  | cons action rest ih =>
    have last := ih (counted.step action)
    rw [Nat.add_assoc] at last
    exact last

lemma create_counted {make : Nat → Except Fault κ} (built : create config make = .ok limiter) :
    Counted config 0 limiter := by
  obtain rfl := of_create built
  refine ⟨?_, rfl, rfl⟩
  unfold create at built
  cases checked : config.check with
  | error fault => simp [checked, Except.map] at built
  | ok _ => exact Partitioning.isConfigured_of_check checked

end Runs
end Partitioned

open Partitioned

/-- A caller whose partition cannot be made leaves no partition behind, but takes a place if the key
is not configured, which nobody gives back. So after any run the places which are taken are the
partitions of keys which are not configured and the places which were lost, and such a key is turned
away once the two together use up the places. The count is that of the partitions all along exactly
if no place is lost. -/
theorem failed_creation_costs_a_place [Limiter C κ G W] {config : Partitioning C}
    {make : Nat → Except Fault κ} {limiter : Partitioned C κ}
    (built : Partitioned.create config make = .ok limiter) (actions : List (Action C)) :
    let fresh : Session C (Partitioned C κ) (PartitionGrant G) (String × W) := start limiter
    let now := (fresh.after actions).limiter
    now.unlistedCount = now.unlistedChildren + lostPlaces fresh actions ∧
      (∀ ctx fault after, (now.route ctx).2 = .error fault → Asks ctx now after →
        after.children = now.children ∧
          after.unlistedCount = now.unlistedCount + now.loses ctx) ∧
      (∀ key, config.isConfigured key = false → Table.at? now.children key = none →
        ((now.resolve key).2 = .ok none ↔
          config.places ≤ now.unlistedChildren + lostPlaces fresh actions)) ∧
      ((∀ early, early <+: actions →
          (fresh.after early).limiter.unlistedCount =
            (fresh.after early).limiter.unlistedChildren) ↔
        lostPlaces fresh actions = 0) := by
  intro fresh now
  have counts (part : List (Action C)) :
      Counted config (lostPlaces fresh part) (fresh.after part).limiter := by
    have counted : Counted config 0 fresh.limiter := create_counted built
    simpa using counted.after part
  have counted := counts actions
  refine ⟨counted.unlistedCount, fun ctx fault after failed asks => ?_,
    fun key unlisted unknown => ?_, ?_⟩
  · obtain ⟨next, routed⟩ : ∃ next, now.route ctx = (next, .error fault) :=
      ⟨_, Prod.ext rfl failed⟩
    obtain rfl : after = next := by
      rcases asks_cases routed asks with same | ⟨_, _, _, wrong, -⟩
      · exact same
      · cases wrong
    have same := children_of_route_failed routed
    have arrived := counted.asked asks
    have children : after.unlistedChildren = now.unlistedChildren := by
      unfold unlistedChildren
      rw [same, arrived.sameConfig, counted.sameConfig]
    refine ⟨same, ?_⟩
    rw [arrived.unlistedCount, children, counted.unlistedCount, Nat.add_assoc]
  · rw [resolve_eq_none_iff unknown, ← counted.unlistedCount, ← counted.sameConfig]
    rw [← counted.sameConfig] at unlisted
    exact offer?_eq_none_iff unlisted
  · constructor
    · intro exact_all_along
      have last := exact_all_along actions (List.prefix_refl actions)
      have lost := counted.unlistedCount
      omega
    · rintro nothing_lost early ⟨late, rfl⟩
      have count := (counts early).unlistedCount
      rw [lostPlaces_append] at nothing_lost
      omega

/-- There is one place for keys which are not configured, and no share of the limit can be told. -/
def hugeLimit : Partitioning TaskLabel where
  limit := wordSize - 1
  weights := []
  resolver := some TaskLabel.key?
  fallback := .unlimited
  unlisted := some ⟨.finite Double.one, 1⟩

def hugeLimiter : Partitioned TaskLabel RuleGate := ⟨hugeLimit, silentGate, [], [], 0⟩

/-- A caller whose partition cannot be made, as its share is more than a machine word holds. -/
def failingVisit : List (Action TaskLabel) := [.acquireNow "a" ⟨some "x"⟩]

/-- The only place is lost, and the key for which it was taken is turned away for good. -/
theorem failed_creation_costs_the_only_place :
    Partitioned.create hugeLimit silentGate = .ok hugeLimiter ∧
      ((start hugeLimiter).after failingVisit).limiter.unlistedChildren = 0 ∧
      lostPlaces (start hugeLimiter) failingVisit = 1 ∧
      ((start hugeLimiter).after failingVisit).limiter.unlistedCount = 1 ∧
      (((start hugeLimiter).after failingVisit).limiter.resolve "x").2 = .ok none := by
  have built : Partitioned.create hugeLimit silentGate = .ok hugeLimiter := rfl
  obtain ⟨counts, -, turns_away, -⟩ := failed_creation_costs_a_place built failingVisit
  have found : ((start hugeLimiter).after failingVisit).limiter.unlistedChildren = 0 ∧
      lostPlaces (start hugeLimiter) failingVisit = 1 := by decide +kernel
  have unknown :
      Table.at? ((start hugeLimiter).after failingVisit).limiter.children "x" = none := by
    rw [← Option.isNone_iff_eq_none]
    decide +kernel
  rw [found.1, found.2] at counts
  have turned_away := turns_away "x" rfl unknown
  rw [found.1, found.2] at turned_away
  exact ⟨built, found.1, found.2, counts, turned_away.mpr (Nat.le_refl 1)⟩

/-- A place is counted as taken while there is no partition, and the second caller is let in past all
partitions although there may be one. -/
theorem place_taken_without_a_partition :
    Partitioned.create hugeLimit silentGate = .ok hugeLimiter ∧
      ((start hugeLimiter).step (.acquireNow "a" (⟨some "x"⟩ : TaskLabel))).2.isFault = true ∧
      ((start hugeLimiter).after failingVisit).limiter.children.length = 0 ∧
      ((start hugeLimiter).after failingVisit).limiter.unlistedCount = 1 ∧
      hugeLimit.places = 1 ∧
      ((start hugeLimiter).after (failingVisit ++ [.acquireNow "b" ⟨some "x"⟩])).held.map
        (fun entry => entry.2.completion) = [some .unlimited] := by
  refine ⟨rfl, ?_⟩
  decide +kernel

end Admission

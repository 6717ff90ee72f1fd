import Admission.Proofs.Partition.Destinations
import Admission.Proofs.Session.Calls
import Admission.Proofs.Table

/-!
# How callers come to children

A key finds the child it has, or is given a new one, or has none and may not have one; a caller
whose key has none takes the fallback. This file says for each what is left of a partitioned
limiter, and what calls of its children leave of it: keys never lose their children, and children
change by calls only.
-/

namespace Admission

open Limiter (Asks Attends)

lemma exists_of_map_eq_ok {α β ε : Type} {result : Except ε α} {f : α → β} {value : β}
    (mapped : result.map f = .ok value) : ∃ found, result = .ok found ∧ f found = value := by
  cases result with
  | error fault => cases mapped
  | ok found => exact ⟨found, rfl, Except.ok.inj mapped⟩

/-- Where a caller has been sent. -/
def Route.destination {κ : Type} : Route κ → Destination
  | partition key _ => .partition key
  | unlimited => .unlimited
  | reject => .rejected

namespace Partitioned

variable {C κ : Type}

lemma of_create {config : Partitioning C} {make : Nat → Except Fault κ} {limiter : Partitioned C κ}
    (built : create config make = .ok limiter) :
    limiter = { config, make, children := [], made := [], unlistedCount := 0 } := by
  unfold create at built
  cases checked : config.check with
  | error fault => simp [checked, Except.map] at built
  | ok _ =>
    rw [checked, Except.map, Except.ok.injEq] at built
    exact built.symm

/-- The weight with which a key may have a child of its own, and how many of the places for keys
which are not configured this takes. -/
def offer? (limiter : Partitioned C κ) (key : String) : Option (Double × Nat) :=
  match Table.at? limiter.config.weights key with
  | some weight => some (weight, 0)
  | none => limiter.config.unlisted.bind fun unlisted =>
    if limiter.unlistedCount < unlisted.cap then some (unlisted.weight, 1) else none

lemma weight?_of_offer? {limiter : Partitioned C κ} {key : String} {weight : Double} {taken : Nat}
    (offer : limiter.offer? key = some (weight, taken)) :
    limiter.config.weight? key = some weight := by
  unfold offer? at offer
  unfold Partitioning.weight?
  cases listed : Table.at? limiter.config.weights key with
  | some listed_weight =>
    rw [listed] at offer
    cases offer
    rfl
  | none =>
    rw [listed] at offer
    obtain ⟨unlisted, found, offered⟩ := Option.bind_eq_some_iff.mp offer
    split at offered
    · cases offered
      simp [found]
    · cases offered

/-- The limiter with a new child. -/
def adopt (limiter : Partitioned C κ) (key : String) (share taken : Nat) (child : κ) :
    Partitioned C κ :=
  { limiter with
    children := limiter.children ++ [(key, child)]
    made := limiter.made ++ [(key, share)]
    unlistedCount := limiter.unlistedCount + taken }

/-- What can come of looking for the child of a key. -/
inductive Resolves (limiter : Partitioned C κ) (key : String) :
    Partitioned C κ × Except Fault (Option κ) → Prop
  | found {child : κ} (known : Table.at? limiter.children key = some child) :
    Resolves limiter key (limiter, .ok (some child))
  | adopted {weight : Double} {share taken : Nat} {child : κ}
      (unknown : Table.at? limiter.children key = none)
      (offer : limiter.offer? key = some (weight, taken))
      (part : limiter.config.shareOf weight = .ok share) (made : limiter.make share = .ok child) :
    Resolves limiter key (limiter.adopt key share taken child, .ok (some child))
  | turnedAway (unknown : Table.at? limiter.children key = none)
      (offer : limiter.offer? key = none) : Resolves limiter key (limiter, .ok none)
  | fault {weight : Double} {taken : Nat} {made : List (String × Nat)} {count : Nat}
      {fault : Fault} (unknown : Table.at? limiter.children key = none)
      (offer : limiter.offer? key = some (weight, taken))
      (fails : ∀ share, limiter.config.shareOf weight = .ok share →
        ∀ child, limiter.make share ≠ .ok child) :
    Resolves limiter key ({ limiter with made := made, unlistedCount := count }, .error fault)

lemma makeChild_resolves {limiter counted : Partitioned C κ} {key : String} {weight : Double}
    {taken : Nat} (unknown : Table.at? limiter.children key = none)
    (offer : limiter.offer? key = some (weight, taken))
    (counts : counted = { limiter with unlistedCount := limiter.unlistedCount + taken }) :
    Resolves limiter key (counted.makeChild key (limiter.config.shareOf weight)) := by
  subst counts
  cases part : limiter.config.shareOf weight with
  | error fault =>
    refine .fault unknown offer fun share found => ?_
    exact absurd (part.symm.trans found) nofun
  | ok share =>
    unfold makeChild
    dsimp only
    cases made : limiter.make share with
    | error fault =>
      refine .fault unknown offer fun share' found child made' => ?_
      cases part.symm.trans found
      exact absurd (made.symm.trans made') nofun
    | ok child =>
      dsimp only [putChild]
      rw [Table.put_of_at?_none child unknown]
      exact .adopted unknown offer part made

theorem resolve_resolves (limiter : Partitioned C κ) (key : String) :
    Resolves limiter key (limiter.resolve key) := by
  unfold resolve
  cases known : Table.at? limiter.children key with
  | some child => exact .found known
  | none =>
    dsimp only
    cases listed : Table.at? limiter.config.weights key with
    | some weight =>
      have offer : limiter.offer? key = some (weight, 0) := by simp [offer?, listed]
      exact makeChild_resolves known offer rfl
    | none =>
      dsimp only
      cases unlisted : limiter.config.unlisted with
      | none => exact .turnedAway known (by simp [offer?, listed, unlisted])
      | some places =>
        dsimp only
        split
        · rename_i room
          exact makeChild_resolves known (by simp [offer?, listed, unlisted, room]) rfl
        · rename_i full
          exact .turnedAway known (by simp [offer?, listed, unlisted, full])

/-- The caller has no key, or one which has no child and may not have one. -/
def Homeless (limiter : Partitioned C κ) (ctx : C) : Prop :=
  ∀ key, limiter.config.key? ctx = some key →
    Table.at? limiter.children key = none ∧ limiter.offer? key = none

/-- What can come of sending a caller on. -/
inductive Routes (limiter : Partitioned C κ) (ctx : C) :
    Partitioned C κ × Except Fault (Route κ) → Prop
  | own {key : String} {child : κ} {next : Partitioned C κ}
      (asks : limiter.config.key? ctx = some key)
      (resolves : Resolves limiter key (next, .ok (some child))) :
    Routes limiter ctx (next, .ok (.partition key child))
  | fallback {name : String} {child : κ} {next : Partitioned C κ}
      (homeless : limiter.Homeless ctx) (falls : limiter.config.fallback = .partition name)
      (resolves : Resolves limiter name (next, .ok (some child))) :
    Routes limiter ctx (next, .ok (.partition name child))
  | unlimited (homeless : limiter.Homeless ctx) (falls : limiter.config.fallback = .unlimited) :
    Routes limiter ctx (limiter, .ok .unlimited)
  | rejected (homeless : limiter.Homeless ctx) (falls : limiter.config.fallback = .reject) :
    Routes limiter ctx (limiter, .ok .reject)
  /-- The fallback is a partition which is not configured. -/
  | nowhere {name : String} (falls : limiter.config.fallback = .partition name)
      (offer : limiter.offer? name = none) : Routes limiter ctx (limiter, .ok .reject)
  /-- The child of the caller's own key cannot be made. -/
  | ownFault {key : String} {next : Partitioned C κ} {fault : Fault}
      (asks : limiter.config.key? ctx = some key)
      (resolves : Resolves limiter key (next, .error fault)) :
    Routes limiter ctx (next, .error fault)
  /-- The child of the fallback cannot be made. -/
  | fallbackFault {name : String} {next : Partitioned C κ} {fault : Fault}
      (homeless : limiter.Homeless ctx) (falls : limiter.config.fallback = .partition name)
      (resolves : Resolves limiter name (next, .error fault)) :
    Routes limiter ctx (next, .error fault)

lemma routeFallback_routes {limiter : Partitioned C κ} {ctx : C}
    (homeless : limiter.Homeless ctx) : Routes limiter ctx limiter.routeFallback := by
  unfold routeFallback
  cases falls : limiter.config.fallback with
  | unlimited => exact .unlimited homeless falls
  | reject => exact .rejected homeless falls
  | «partition» name =>
    have resolves := resolve_resolves limiter name
    dsimp only
    generalize limiter.resolve name = result at resolves ⊢
    cases resolves with
    | found known => exact .fallback homeless falls (.found known)
    | adopted unknown offer part made =>
      exact .fallback homeless falls (.adopted unknown offer part made)
    | turnedAway unknown offer => exact .nowhere falls offer
    | fault unknown offer fails => exact .fallbackFault homeless falls (.fault unknown offer fails)

theorem route_routes (limiter : Partitioned C κ) (ctx : C) :
    Routes limiter ctx (limiter.route ctx) := by
  unfold route
  cases asks : limiter.config.key? ctx with
  | none => exact routeFallback_routes fun key asked => absurd (asks.symm.trans asked) nofun
  | some key =>
    have resolves := resolve_resolves limiter key
    dsimp only
    generalize limiter.resolve key = result at resolves ⊢
    cases resolves with
    | found known => exact .own asks (.found known)
    | adopted unknown offer part made => exact .own asks (.adopted unknown offer part made)
    | turnedAway unknown offer =>
      refine routeFallback_routes fun other asked => ?_
      cases asks.symm.trans asked
      exact ⟨unknown, offer⟩
    | fault unknown offer fails => exact .ownFault asks (.fault unknown offer fails)

/-- A key has got a child. -/
lemma Resolves.child {limiter next : Partitioned C κ} {key : String} {child : κ}
    (resolves : Resolves limiter key (next, .ok (some child))) :
    Table.at? next.children key = some child := by
  cases resolves with
  | found known => exact known
  | adopted unknown _ _ _ =>
    dsimp only [adopt]
    rw [← Table.put_of_at?_none child unknown, Table.at?_put_self]

/-- The children of other keys are as they were. -/
lemma Resolves.others {limiter : Partitioned C κ} {key other : String}
    {result : Partitioned C κ × Except Fault (Option κ)} (resolves : Resolves limiter key result)
    (ne : other ≠ key) :
    Table.at? result.1.children other = Table.at? limiter.children other := by
  cases resolves with
  | found _ | turnedAway _ _ | fault _ _ _ => rfl
  | adopted unknown _ _ _ =>
    dsimp only [adopt]
    rw [← Table.put_of_at?_none _ unknown, Table.at?_put_of_ne _ _ ne]

/-- A key which had a child keeps it. -/
lemma Resolves.keeps {limiter : Partitioned C κ} {key other : String} {child : κ}
    {result : Partitioned C κ × Except Fault (Option κ)} (resolves : Resolves limiter key result)
    (known : Table.at? limiter.children other = some child) :
    Table.at? result.1.children other = some child := by
  by_cases same : other = key
  · subst same
    cases resolves with
    | found _ => exact known
    | adopted unknown _ _ _ | turnedAway unknown _ | fault unknown _ _ =>
      exact absurd (unknown.symm.trans known) nofun
  · rw [resolves.others same, known]

/-- Looking for a child does not change how children are made. -/
lemma Resolves.make {limiter : Partitioned C κ} {key : String}
    {result : Partitioned C κ × Except Fault (Option κ)} (resolves : Resolves limiter key result) :
    result.1.make = limiter.make := by
  cases resolves <;> rfl

lemma Routes.keeps {limiter : Partitioned C κ} {ctx : C} {key : String} {child : κ}
    {result : Partitioned C κ × Except Fault (Route κ)} (routes : Routes limiter ctx result)
    (known : Table.at? limiter.children key = some child) :
    Table.at? result.1.children key = some child := by
  cases routes with
  | own _ resolves | fallback _ _ resolves | ownFault _ resolves | fallbackFault _ _ resolves =>
    exact resolves.keeps known
  | unlimited _ _ | rejected _ _ | nowhere _ _ => exact known

section Asking

variable {G W : Type} [Limiter C κ G W] {limiter next : Partitioned C κ} {ctx : C} {key : String}
  {child : κ} {fault : Fault}

lemma acquireNow_partition (routed : limiter.route ctx = (next, .ok (.partition key child))) :
    limiter.acquireNow ctx = (next.putChild key (Limiter.acquireNow child ctx).1,
      (Limiter.acquireNow child ctx).2.map (Option.map (.within key))) := by
  simp only [acquireNow, routed]

lemma acquireNow_unlimited (routed : limiter.route ctx = (next, .ok .unlimited)) :
    limiter.acquireNow ctx = (next, .ok (some .unlimited)) := by
  simp only [acquireNow, routed]

lemma acquireNow_reject (routed : limiter.route ctx = (next, .ok .reject)) :
    limiter.acquireNow ctx = (next, .ok none) := by
  simp only [acquireNow, routed]

lemma acquireNow_fault (routed : limiter.route ctx = (next, .error fault)) :
    limiter.acquireNow ctx = (next, .error fault) := by
  simp only [acquireNow, routed]

lemma acquire_partition (routed : limiter.route ctx = (next, .ok (.partition key child)))
    (now : Nat) :
    limiter.acquire ctx now = (next.putChild key (Limiter.acquire child ctx now).1,
      (Limiter.acquire child ctx now).2.map (within key)) := by
  simp only [acquire, routed]

lemma acquire_unlimited (routed : limiter.route ctx = (next, .ok .unlimited)) (now : Nat) :
    limiter.acquire ctx now = (next, .ok (.admitted .unlimited)) := by
  simp only [acquire, routed]

lemma acquire_reject (routed : limiter.route ctx = (next, .ok .reject)) (now : Nat) :
    limiter.acquire ctx now = (next, .ok (.refused .rejected)) := by
  simp only [acquire, routed]

lemma acquire_fault (routed : limiter.route ctx = (next, .error fault)) (now : Nat) :
    limiter.acquire ctx now = (next, .error fault) := by
  simp only [acquire, routed]

/-- Asking changes a limiter by routing the caller, and by asking the child to which it leads. -/
lemma asks_cases {limiter next after : Partitioned C κ} {ctx : C} {result : Except Fault (Route κ)}
    (routed : limiter.route ctx = (next, result)) (asks : Asks ctx limiter after) :
    after = next ∨ ∃ key child later, result = .ok (.partition key child) ∧
      Asks ctx child later ∧ after = next.putChild key later := by
  rcases result with fault | ⟨key, child⟩ | _ | _
  · cases asks with
    | acquireNow => exact .inl (congrArg Prod.fst (acquireNow_fault routed))
    | acquire now => exact .inl (congrArg Prod.fst (acquire_fault routed now))
  · refine .inr ⟨key, child, ?_⟩
    cases asks with
    | acquireNow =>
      exact ⟨_, rfl, .acquireNow child, congrArg Prod.fst (acquireNow_partition routed)⟩
    | acquire now =>
      exact ⟨_, rfl, .acquire child now, congrArg Prod.fst (acquire_partition routed now)⟩
  · cases asks with
    | acquireNow => exact .inl (congrArg Prod.fst (acquireNow_unlimited routed))
    | acquire now => exact .inl (congrArg Prod.fst (acquire_unlimited routed now))
  · cases asks with
    | acquireNow => exact .inl (congrArg Prod.fst (acquireNow_reject routed))
    | acquire now => exact .inl (congrArg Prod.fst (acquire_reject routed now))

/-- A call for somebody who has asked before is a call of one child. -/
lemma attends_cases {before after : Partitioned C κ} (attends : Attends C before after) :
    after = before ∨ ∃ key child later, Table.at? before.children key = some child ∧
      Attends C child later ∧ after = before.putChild key later := by
  cases attends with
  | poll ctx place now =>
    change (before.poll ctx place now).1 = before ∨
      ∃ _ _ _, _ ∧ _ ∧ (before.poll ctx place now).1 = _
    unfold poll
    cases known : Table.at? before.children place.1 with
    | none => exact .inl rfl
    | some child => exact .inr ⟨_, _, _, known, .poll child ctx place.2 now, rfl⟩
  | abandon place =>
    change before.abandon place = before ∨ ∃ _ _ _, _ ∧ _ ∧ before.abandon place = _
    unfold abandon
    cases known : Table.at? before.children place.1 with
    | none => exact .inl rfl
    | some child => exact .inr ⟨_, _, _, known, .abandon child place.2, rfl⟩
  | release grant outcome latency =>
    cases grant with
    | unlimited => exact .inl rfl
    | within key grant =>
      change (before.release (.within key grant) outcome latency).1 = before ∨
        ∃ _ _ _, _ ∧ _ ∧ (before.release (.within key grant) outcome latency).1 = _
      unfold release
      dsimp only
      cases known : Table.at? before.children key with
      | none => exact .inl rfl
      | some child => exact .inr ⟨_, _, _, known, .release child grant outcome latency, rfl⟩

end Asking

end Partitioned
end Admission

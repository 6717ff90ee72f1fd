import Admission.Partition.Trial
import Admission.Proofs.Gate.Tally
import Admission.Proofs.Interleaving
import Admission.Proofs.Partition.Routing

/-!
# Crowds

When threads go through a list of keys and everybody keeps what is granted, it does not matter how
the threads are interleaved: the keys are first met in the same order, so the same ones are given
partitions, and a partition admits as many callers as belong to it, up to its limit.
-/

namespace Admission

open Partitioned
open Crowd (FixedLimiter)

section Gates

/-- A fixed limit and the jobs which run, which nobody takes samples of. -/
def steadyTally (limit running : Nat) : Tally (Metered Rule) :=
  ⟨.silent (.fixed ⟨limit⟩), limit, running⟩

/-- The gate which such a limit keeps. -/
def steadyGate (limit running : Nat) : RuleGate := (steadyTally limit running).gate

lemma of_silentGate {limit : Nat} {gate : RuleGate} (made : silentGate limit = .ok gate) :
    1 ≤ limit ∧ limit ≤ maxPermits ∧ gate = steadyGate limit 0 := by
  unfold silentGate Fixed.create at made
  by_cases zero : limit = 0
  · simp [zero, bind, Except.bind] at made
  · rw [if_neg zero] at made
    exact Tally.of_create made

lemma steadyGate_acquireNow (limit running : Nat) (ctx : TaskLabel) :
    Limiter.acquireNow (steadyGate limit running) ctx =
      if running < limit then (steadyGate limit (running + 1), .ok (some ()))
      else (steadyGate limit running, .ok none) := by
  rw [steadyGate, Tally.gate_acquireNow, Tally.acquireNow_eq]
  by_cases room : running < limit <;> simp [room, steadyGate, steadyTally]

/-- Where callers have been let in up to the limit, one more is let in below it. -/
lemma steadyGate_acquireNow_min (limit calls : Nat) (ctx : TaskLabel) :
    Limiter.acquireNow (steadyGate limit (min limit calls)) ctx =
      (steadyGate limit (min limit (calls + 1)),
        .ok (if calls < limit then some () else none)) := by
  rw [steadyGate_acquireNow]
  by_cases room : calls < limit
  · have below : min limit calls < limit := by omega
    have more : min limit calls + 1 = min limit (calls + 1) := by omega
    rw [if_pos below, if_pos room, more]
  · have full : ¬min limit calls < limit := by omega
    have still : min limit calls = min limit (calls + 1) := by omega
    rw [if_neg full, if_neg room, still]

/-- A job which ends gives its permit back; a fixed limit learns nothing. -/
lemma steadyGate_release {limit running : Nat} (outcome : Outcome) (latency : Nat)
    (some_run : 0 < running) (fits : limit ≤ maxPermits) :
    Limiter.release TaskLabel (steadyGate limit running) () outcome latency =
      (steadyGate limit (running - 1), none) := by
  have learned : (steadyTally limit running).leave outcome latency =
      steadyTally limit (running - 1) := by
    by_cases ignored : outcome = .ignore
    · simp [Tally.leave, Tally.learn, ignored, steadyTally]
    · simp [Tally.leave, Tally.learn, ignored, steadyTally, Algorithm.update, Rule.update,
        Metered.silent]
  have counted : ((steadyTally limit running).leave outcome latency).limit - (running - 1) ≤
      maxPermits := by
    rw [learned]
    exact Nat.le_trans (Nat.sub_le _ _) fits
  have chosen : ¬(steadyTally limit running).Fails outcome latency := by
    rintro ⟨-, rule, fault, updates⟩
    cases congrArg Prod.snd updates
  have left := Tally.gate_leave (steadyTally limit running) outcome latency some_run chosen counted
  rw [learned] at left
  exact left

end Gates

/-- The child which is made for a key. -/
def Partitioning.Makes {C κ : Type} (config : Partitioning C) (make : Nat → Except Fault κ)
    (key : String) (child : κ) : Prop :=
  ∃ share, config.HasShare key share ∧ make share = .ok child

lemma Partitioning.Makes.unique {C κ : Type} {config : Partitioning C}
    {make : Nat → Except Fault κ} {key : String} {child child' : κ}
    (makes : config.Makes make key child) (makes' : config.Makes make key child') :
    child' = child := by
  obtain ⟨share, has, made⟩ := makes
  obtain ⟨share', has', made'⟩ := makes'
  cases has.unique has'
  exact Except.ok.inj (made'.symm.trans made)

/-- Callers with the keys `seen` have come one by one and have kept the `grants`. -/
structure Crowded (config : Partitioning TaskLabel) (make : Nat → Except Fault RuleGate)
    (seen : List (Option String)) (grants : List (PartitionGrant Unit)) (limiter : FixedLimiter) :
    Prop where
  settled : Settled config make seen limiter
  /-- A partition has admitted whoever belongs to it, up to its limit. -/
  running : ∀ key child, Table.at? limiter.children key = some child → ∃ limit,
    config.Makes make key (steadyGate limit 0) ∧ limit ≤ maxPermits ∧
    child = steadyGate limit (min limit (config.routed seen (.partition key))) ∧
    grants.count (.within key ()) = min limit (config.routed seen (.partition key))
  unknown : ∀ key, Table.at? limiter.children key = none → grants.count (.within key ()) = 0
  unlimited : grants.count .unlimited = config.routed seen .unlimited

namespace Crowded

variable {config : Partitioning TaskLabel} {make : Nat → Except Fault RuleGate}
  {seen : List (Option String)} {grants : List (PartitionGrant Unit)}
  {limiter next : FixedLimiter} {ctx : TaskLabel}

/-- The child to which a caller is sent, which may be a new one. -/
lemma child (crowded : Crowded config make seen grants limiter)
    (fixed : ∀ share gate, make share = .ok gate → ∃ limit, silentGate limit = .ok gate)
    {key : String} {child : RuleGate} (resolves : Resolves limiter key (next, .ok (some child))) :
    ∃ limit, config.Makes make key (steadyGate limit 0) ∧ limit ≤ maxPermits ∧
      child = steadyGate limit (min limit (config.routed seen (.partition key))) ∧
      grants.count (.within key ()) = min limit (config.routed seen (.partition key)) := by
  cases resolves with
  | found known => exact crowded.running key child known
  | adopted unknown offer part made =>
    rw [crowded.settled.sameMake] at made
    rw [crowded.settled.sameConfig] at part
    have weighs := weight?_of_offer? offer
    rw [crowded.settled.sameConfig] at weighs
    obtain ⟨limit, silent⟩ := fixed _ _ made
    obtain ⟨-, fits, rfl⟩ := of_silentGate silent
    have nobody := Partitioning.routed_of_not_visited (crowded.settled.not_visited unknown)
    refine ⟨limit, ⟨_, ⟨_, weighs, part⟩, made⟩, fits, ?_, ?_⟩
    · rw [nobody, Nat.min_zero]
    · rw [nobody, Nat.min_zero, crowded.unknown key unknown]

/-- A caller who belongs to a partition changes what runs in it, and nothing else. -/
lemma arrive (crowded : Crowded config make seen grants limiter) {came : Option String}
    {key : String} {limit : Nat} {granted : List (PartitionGrant Unit)}
    (sent : config.destination (seen ++ [came]) came = .partition key)
    (settled : Settled config make (seen ++ [came]) next)
    (makes : config.Makes make key (steadyGate limit 0)) (fits : limit ≤ maxPermits)
    (changes : limiter.Changes key
      (steadyGate limit (min limit (config.routed (seen ++ [came]) (.partition key)))) next)
    (own : (grants ++ granted).count (.within key ()) =
      min limit (config.routed (seen ++ [came]) (.partition key)))
    (others : ∀ grant, grant ≠ .within key () → granted.count grant = 0) :
    Crowded config make (seen ++ [came]) (grants ++ granted) next := by
  have elsewhere : ∀ place, place ≠ .partition key →
      config.routed (seen ++ [came]) place = config.routed seen place := by
    intro place ne
    rw [Partitioning.routed_snoc, sent, if_neg (Ne.symm ne), Nat.add_zero]
  have kept : ∀ grant, grant ≠ .within key () →
      (grants ++ granted).count grant = grants.count grant := by
    intro grant ne
    rw [List.count_append, others grant ne, Nat.add_zero]
  refine ⟨settled, ?_, ?_, ?_⟩
  · intro other child found
    by_cases same : other = key
    · subst same
      cases changes.1.symm.trans found
      exact ⟨limit, makes, fits, rfl, own⟩
    · rw [changes.2 other same] at found
      obtain ⟨limit', makes', fits', running, admitted⟩ := crowded.running other child found
      rw [elsewhere (.partition other) (by simpa using same), kept (.within other ()) (by simpa)]
      exact ⟨limit', makes', fits', running, admitted⟩
  · intro other absent
    have ne : other ≠ key := by
      intro same
      subst same
      exact absurd (changes.1.symm.trans absent) nofun
    rw [changes.2 other ne] at absent
    rw [kept (.within other ()) (by simpa)]
    exact crowded.unknown other absent
  · rw [elsewhere .unlimited nofun, kept .unlimited nofun]
    exact crowded.unlimited

/-- A caller who belongs to no partition changes nothing. -/
lemma pass (crowded : Crowded config make seen grants limiter) {came : Option String}
    {place : Destination} {granted : List (PartitionGrant Unit)}
    (sent : config.destination (seen ++ [came]) came = place) (outside : place.key? = none)
    (settled : Settled config make (seen ++ [came]) limiter)
    (none_within : ∀ key, granted.count (.within key ()) = 0)
    (granted_unlimited : granted.count .unlimited = if place = .unlimited then 1 else 0) :
    Crowded config make (seen ++ [came]) (grants ++ granted) limiter := by
  have elsewhere : ∀ key, config.routed (seen ++ [came]) (.partition key) =
      config.routed seen (.partition key) := by
    intro key
    have ne : place ≠ .partition key := by
      intro same
      subst same
      cases outside
    rw [Partitioning.routed_snoc, sent, if_neg ne, Nat.add_zero]
  refine ⟨settled, ?_, ?_, ?_⟩
  · intro key child found
    rw [elsewhere, List.count_append, none_within, Nat.add_zero]
    exact crowded.running key child found
  · intro key absent
    rw [List.count_append, none_within, Nat.add_zero]
    exact crowded.unknown key absent
  · rw [List.count_append, crowded.unlimited, granted_unlimited, Partitioning.routed_snoc, sent]

/-- One more caller comes to a partition and keeps what is granted. -/
lemma enter_partition (crowded : Crowded config make seen grants limiter)
    (fixed : ∀ share gate, make share = .ok gate → ∃ limit, silentGate limit = .ok gate)
    {key : String} {child : RuleGate}
    (routed : limiter.route ctx = (next, .ok (.partition key child))) :
    ∃ final granted, limiter.acquireNow ctx = (final, .ok granted) ∧
      Crowded config make (seen ++ [config.key? ctx]) (grants ++ granted.toList) final := by
  obtain ⟨sent, arrived⟩ := crowded.settled.route routed
  have resolves := resolves_of_route routed
  obtain ⟨limit, makes, fits, rfl, admitted⟩ := crowded.child fixed resolves
  have one_more : config.routed (seen ++ [config.key? ctx]) (.partition key) =
      config.routed seen (.partition key) + 1 := by
    rw [Partitioning.routed_snoc, ← sent]
    exact congrArg _ (if_pos rfl)
  generalize config.routed seen (.partition key) = calls at *
  have asks : Limiter.Asks ctx (steadyGate limit (min limit calls)) _ := .acquireNow _
  have settled := arrived.putChild resolves.child asks.uses
  have changes := resolves.changes (Limiter.acquireNow (steadyGate limit (min limit calls)) ctx).1
  rw [acquireNow_partition routed]
  rw [steadyGate_acquireNow_min, ← one_more] at settled changes ⊢
  refine ⟨_, _, rfl, crowded.arrive sent.symm settled makes fits changes ?_ ?_⟩
  · rw [List.count_append, admitted, one_more]
    by_cases room : calls < limit
    · simp only [if_pos room, Option.map_some, Option.toList_some, List.count_singleton_self]
      omega
    · simp only [if_neg room, Option.map_none, Option.toList_none, List.count_nil]
      omega
  · intro grant ne
    by_cases room : calls < limit
    · simp [room, Ne.symm ne]
    · simp [room]

/-- One more caller comes and keeps what is granted. -/
lemma enter (crowded : Crowded config make seen grants limiter)
    (fixed : ∀ share gate, make share = .ok gate → ∃ limit, silentGate limit = .ok gate)
    {route : Route RuleGate} (routed : limiter.route ctx = (next, .ok route)) :
    ∃ final granted, limiter.acquireNow ctx = (final, .ok granted) ∧
      Crowded config make (seen ++ [config.key? ctx]) (grants ++ granted.toList) final := by
  obtain ⟨sent, arrived⟩ := crowded.settled.route routed
  cases route with
  | «partition» key child => exact crowded.enter_partition fixed routed
  | unlimited =>
    obtain rfl := eq_of_route routed rfl
    refine ⟨_, _, acquireNow_unlimited routed, crowded.pass sent.symm rfl arrived ?_ ?_⟩
    · intro key
      rfl
    · rfl
  | reject =>
    obtain rfl := eq_of_route routed rfl
    refine ⟨_, _, acquireNow_reject routed, crowded.pass sent.symm rfl arrived ?_ ?_⟩
    · intro key
      rfl
    · rfl

lemma create (built : Partitioned.create config make = .ok limiter) :
    Crowded config make [] [] limiter := by
  have settled : Settled config make [] limiter := create_settled built
  have empty : limiter.children = [] := by
    apply List.map_eq_nil_iff.mp
    rw [settled.children]
    rfl
  refine ⟨settled, ?_, fun key _ => rfl, rfl⟩
  intro key child found
  rw [empty] at found
  cases found

/-- What a crowd leaves, if everybody can be sent somewhere. -/
lemma run (crowded : Crowded config make seen grants limiter)
    (fixed : ∀ share gate, make share = .ok gate → ∃ limit, silentGate limit = .ok gate)
    {calls : List (Option String)} {full : FixedLimiter} {granted : List (PartitionGrant Unit)}
    (entered : Crowd.enter limiter calls = .ok (full, granted)) :
    Crowded config make (seen ++ calls.map fun key => config.key? ⟨key⟩) (grants ++ granted)
      full := by
  induction calls generalizing limiter seen grants granted with
  | nil =>
    cases entered
    simpa using crowded
  | cons key rest ih =>
    unfold Crowd.enter at entered
    rcases routed : limiter.route ⟨key⟩ with ⟨next, fault | route⟩
    · rw [acquireNow_fault routed] at entered
      cases entered
    · obtain ⟨final, grant, asked, arrived⟩ := crowded.enter fixed routed
      rw [asked] at entered
      dsimp only at entered
      cases later : Crowd.enter final rest with
      | error fault =>
        rw [later] at entered
        cases entered
      | ok result =>
        rw [later] at entered
        cases entered
        simpa using ih arrived later

/-- A caller can be sent on, where every partition visited so far can have its child. -/
lemma finds (crowded : Crowded config make seen grants limiter)
    (makes : ∀ key ∈ config.visited (seen ++ [config.key? ctx]),
      ∃ child, config.Makes make key child) :
    ∃ next route, limiter.route ctx = (next, .ok route) := by
  have settled := crowded.settled
  have unmade : ∀ {key outcome} {next : FixedLimiter},
      Resolves limiter key (next, .error outcome) →
        config.destination (seen ++ [config.key? ctx]) (config.key? ctx) ≠ .partition key := by
    intro key outcome next resolves sent
    obtain ⟨child, share, ⟨weight, weighs, part⟩, made⟩ := makes key
      (Partitioning.mem_visited.mpr ⟨config.key? ctx, by simp, sent⟩)
    cases resolves with
    | fault unknown offer fails =>
      have weighs' := weight?_of_offer? offer
      rw [settled.sameConfig] at weighs' fails
      rw [settled.sameMake] at fails
      cases weighs.symm.trans weighs'
      exact fails share part child made
  have routes := route_routes limiter ctx
  generalize limiter.route ctx = result at routes ⊢
  cases routes with
  | own _ _ | fallback _ _ _ | unlimited _ _ | rejected _ _ | nowhere _ _ => exact ⟨_, _, rfl⟩
  | @ownFault key next fault asks resolves =>
    rw [settled.sameConfig] at asks
    have elsewhere := unmade resolves
    rw [asks] at elsewhere
    cases resolves with
    | fault unknown offer fails => exact absurd (settled.offered unknown offer).1 elsewhere
  | @fallbackFault name next fault homeless falls resolves =>
    rw [settled.sameConfig] at falls
    have sent := (settled.homeless homeless).1
    rw [falls] at sent
    exact absurd sent (unmade resolves)

lemma enters (crowded : Crowded config make seen grants limiter)
    (fixed : ∀ share gate, make share = .ok gate → ∃ limit, silentGate limit = .ok gate)
    {calls : List (Option String)}
    (makes : ∀ key ∈ config.visited (seen ++ calls.map fun key => config.key? ⟨key⟩),
      ∃ child, config.Makes make key child) :
    ∃ result, Crowd.enter limiter calls = .ok result := by
  induction calls generalizing limiter seen grants with
  | nil => exact ⟨_, rfl⟩
  | cons key rest ih =>
    have order : seen ++ ((key :: rest).map fun key => config.key? ⟨key⟩) =
        (seen ++ [config.key? ⟨key⟩]) ++ rest.map fun key => config.key? ⟨key⟩ := by simp
    rw [order] at makes
    have makes_now : ∀ place ∈ config.visited (seen ++ [config.key? ⟨key⟩]),
        ∃ child, config.Makes make place child :=
      fun place mem => makes place (Partitioning.visited_subset mem)
    obtain ⟨next, route, routed⟩ := crowded.finds makes_now
    obtain ⟨final, grant, asked, arrived⟩ := crowded.enter fixed routed
    obtain ⟨result, entered⟩ := ih arrived makes
    unfold Crowd.enter
    rw [asked]
    dsimp only
    rw [entered]
    exact ⟨_, rfl⟩

/-- Every partition which has been visited could have its child. -/
lemma makes (crowded : Crowded config make seen grants limiter) {key : String}
    (visited : key ∈ config.visited seen) : ∃ child, config.Makes make key child := by
  obtain ⟨child, known⟩ := Option.isSome_iff_exists.mp (crowded.settled.mem_visited_iff.mpr visited)
  obtain ⟨limit, made, -⟩ := crowded.running key child known
  exact ⟨_, made⟩

/-- A crowd can be let in one by one if the partitions which it visits can have their children. -/
lemma enter_iff (built : Partitioned.create config make = .ok limiter)
    (fixed : ∀ share gate, make share = .ok gate → ∃ limit, silentGate limit = .ok gate)
    (calls : List (Option String)) :
    (∃ result, Crowd.enter limiter calls = .ok result) ↔
      ∀ key ∈ config.visited (calls.map fun key => config.key? ⟨key⟩),
        ∃ child, config.Makes make key child := by
  have fresh := create built
  constructor
  · rintro ⟨⟨full, grants⟩, entered⟩ key visited
    exact (fresh.run fixed entered).makes visited
  · intro makes
    exact fresh.enters fixed makes

/-- Crowds of the same callers who met in the same order of first visits leave the same limiter. -/
lemma unique {seen' : List (Option String)} {grants' : List (PartitionGrant Unit)}
    {limiter' : FixedLimiter} (crowded : Crowded config make seen grants limiter)
    (crowded' : Crowded config make seen' grants' limiter')
    (same : seen.eraseDups = seen'.eraseDups) (perm : seen.Perm seen') :
    limiter' = limiter ∧ grants'.Perm grants := by
  have settled := crowded.settled
  have settled' := crowded'.settled
  have visited : config.visited seen = config.visited seen' := Partitioning.visited_congr same
  have routed : ∀ place, config.routed seen place = config.routed seen' place :=
    Partitioning.routed_congr same perm
  have running : ∀ key child child', Table.at? limiter.children key = some child →
      Table.at? limiter'.children key = some child' →
        child' = child ∧ grants'.count (.within key ()) = grants.count (.within key ()) := by
    intro key child child' found found'
    obtain ⟨limit, makes, -, rfl, admitted⟩ := crowded.running key child found
    obtain ⟨limit', makes', -, rfl, admitted'⟩ := crowded'.running key child' found'
    have limits : limit' = limit := congrArg Gate.limit (makes.unique makes')
    subst limits
    rw [admitted, admitted', routed]
    exact ⟨rfl, rfl⟩
  have distinct : Table.Distinct limiter.children := by
    rw [Table.Distinct, settled.children]
    exact config.nodup_visited seen
  have children : limiter.children = limiter'.children := by
    apply distinct.ext
    · rw [settled.children, settled'.children, visited]
    · intro key child child' found found'
      exact (running key child child' found found').1
  have made : limiter.made = limiter'.made := by
    apply Table.Distinct.ext
    · rw [Table.Distinct, settled.made]
      exact config.nodup_visited seen
    · rw [settled.made, settled'.made, visited]
    · intro key share share' found found'
      exact (settled.shares _ (Table.mem_of_at? found)).unique
        (settled'.shares _ (Table.mem_of_at? found'))
  have counted : limiter.unlistedCount = limiter'.unlistedCount := by
    rw [settled.unlistedCount, settled'.unlistedCount, Partitioning.housed_congr same]
  constructor
  · obtain ⟨config', make', children', made', count'⟩ := limiter'
    obtain ⟨config'', make'', children'', made'', count''⟩ := limiter
    obtain rfl : config' = config'' := settled'.sameConfig.trans settled.sameConfig.symm
    obtain rfl : make' = make'' := settled'.sameMake.trans settled.sameMake.symm
    obtain rfl : children'' = children' := children
    obtain rfl : made'' = made' := made
    obtain rfl : count'' = count' := counted
    rfl
  · rw [List.perm_iff_count]
    intro grant
    cases grant with
    | unlimited => rw [crowded.unlimited, crowded'.unlimited, routed]
    | within key grant =>
      cases found : Table.at? limiter.children key with
      | none => rw [crowded.unknown key found, crowded'.unknown key (children ▸ found)]
      | some child => exact (running key child child found (children ▸ found)).2

end Crowded

/-- Every partition runs as many jobs as belong to it, up to its limit, and they were let in. -/
def AdmitsUpToLimits (config : Partitioning TaskLabel) (seen : List (Option String))
    (grants : List (PartitionGrant Unit)) (full : FixedLimiter) : Prop :=
  ∀ key child, Table.at? full.children key = some child →
    child.inFlight = min child.limit (config.routed seen (.partition key)) ∧
      child.available = child.limit - child.inFlight ∧
      grants.count (.within key ()) = child.inFlight

/-- All partitions are still there with their limits, and nothing runs in them. -/
structure Idle (full after : FixedLimiter) : Prop where
  names : after.children.map Prod.fst = full.children.map Prod.fst
  unlistedCount : after.unlistedCount = full.unlistedCount
  free : ∀ key child, Table.at? full.children key = some child → ∃ idle : RuleGate,
    Table.at? after.children key = some idle ∧ idle.limit = child.limit ∧ idle.inFlight = 0 ∧
      idle.available = idle.limit

/-- In every partition those jobs run which hold some grants. -/
def Holds (grants : List (PartitionGrant Unit)) (limiter : FixedLimiter) : Prop :=
  ∀ key child, Table.at? limiter.children key = some child → ∃ limit, limit ≤ maxPermits ∧
    grants.count (.within key ()) ≤ limit ∧
    child = steadyGate limit (grants.count (.within key ()))

namespace Holds

variable {grants : List (PartitionGrant Unit)} {limiter : FixedLimiter} {key : String}

/-- A grant which no partition has given is not missed. -/
lemma skip {grant : PartitionGrant Unit} (holds : Holds (grant :: grants) limiter)
    (other : ∀ key, grant = .within key () → Table.at? limiter.children key = none) :
    Holds grants limiter := by
  intro key child found
  have ne : grant ≠ .within key () := by
    intro same
    exact absurd ((other key same).symm.trans found) nofun
  have counts := holds key child found
  rw [List.count_cons_of_ne ne] at counts
  exact counts

/-- A partition gets back the permit of a job which ends. -/
lemma release (holds : Holds (.within key () :: grants) limiter) {child : RuleGate}
    (found : Table.at? limiter.children key = some child) (outcome : Outcome) :
    ∃ later : RuleGate, later.limit = child.limit ∧
      Partitioned.release limiter (.within key ()) outcome 0 = (limiter.putChild key later, none) ∧
      Holds grants (limiter.putChild key later) := by
  obtain ⟨limit, fits, below, rfl⟩ := holds key child found
  rw [List.count_cons_self] at below found
  have some_run : 0 < grants.count (.within key ()) + 1 := Nat.succ_pos _
  have released := steadyGate_release outcome 0 some_run fits
  refine ⟨steadyGate limit (grants.count (.within key ())), rfl, ?_, ?_⟩
  · simp only [Partitioned.release, found]
    rw [released, Nat.add_sub_cancel]
  · intro other child found'
    by_cases same : other = key
    · subst same
      cases (Table.at?_put_self _ _ _).symm.trans found'
      exact ⟨limit, fits, by omega, rfl⟩
    · have ne : (.within key () : PartitionGrant Unit) ≠ .within other () := by
        simpa using Ne.symm same
      have counts := holds other child ((Table.at?_put_of_ne _ _ same).symm.trans found')
      rw [List.count_cons_of_ne ne] at counts
      exact counts

/-- When all jobs have ended, in whatever order, nothing runs. -/
lemma leave (holds : Holds grants limiter) (outcome : Outcome) :
    ∃ after, Crowd.leave outcome limiter grants = .ok after ∧ Idle limiter after := by
  induction grants generalizing limiter with
  | nil =>
    refine ⟨limiter, rfl, rfl, rfl, fun key child found => ?_⟩
    obtain ⟨limit, -, -, rfl⟩ := holds key child found
    exact ⟨_, found, rfl, rfl, rfl⟩
  | cons grant rest ih =>
    unfold Crowd.leave
    cases grant with
    | unlimited => exact ih (holds.skip nofun)
    | within key grant =>
      cases found : Table.at? limiter.children key with
      | none =>
        have absent : ∀ other, (.within key grant : PartitionGrant Unit) = .within other () →
            Table.at? limiter.children other = none := by
          rintro other ⟨⟩
          exact found
        have released : Partitioned.release limiter (.within key grant) outcome 0 =
            (limiter, none) := by
          simp only [Partitioned.release, found]
        rw [released]
        exact ih (holds.skip absent)
      | some child =>
        obtain ⟨later, limits, released, rest_holds⟩ := holds.release found outcome
        obtain ⟨after, left, idle⟩ := ih rest_holds
        rw [released]
        refine ⟨after, left, idle.names.trans (Table.names_put later found), idle.unlistedCount, ?_⟩
        intro other old found'
        by_cases same : other = key
        · subst same
          cases found.symm.trans found'
          rw [← limits]
          exact idle.free other later (Table.at?_put_self _ _ _)
        · exact idle.free other old ((Table.at?_put_of_ne _ _ same).trans found')

end Holds

lemma Crowded.holds {config : Partitioning TaskLabel} {make : Nat → Except Fault RuleGate}
    {seen : List (Option String)} {grants : List (PartitionGrant Unit)} {limiter : FixedLimiter}
    (crowded : Crowded config make seen grants limiter) : Holds grants limiter := by
  intro key child found
  obtain ⟨limit, -, fits, running, admitted⟩ := crowded.running key child found
  rw [← admitted] at running
  exact ⟨limit, fits, by omega, running⟩

lemma Crowded.admits {config : Partitioning TaskLabel} {make : Nat → Except Fault RuleGate}
    {seen : List (Option String)} {grants : List (PartitionGrant Unit)} {limiter : FixedLimiter}
    (crowded : Crowded config make seen grants limiter) :
    AdmitsUpToLimits config seen grants limiter := by
  intro key child found
  obtain ⟨limit, -, -, rfl, admitted⟩ := crowded.running key child found
  exact ⟨rfl, rfl, admitted⟩

/-- What a crowd comes to does not depend on the order in which its threads go. If some order of
the calls can be gone through, then so can all orders and the threads one after the other, which
takes no more than that the partitions which are visited can have their children; the limiter is
the same in the end, and as many calls are let in. Every partition has let in the calls which
belong to it up to its limit, and when the jobs have ended, in any order, all its permits are
free. -/
theorem crowd_does_not_depend_on_order {config : Partitioning TaskLabel}
    {make : Nat → Except Fault RuleGate} {limiter : FixedLimiter}
    (built : Partitioned.create config make = .ok limiter)
    (fixed : ∀ share gate, make share = .ok gate → ∃ limit, silentGate limit = .ok gate)
    {keys calls : List (Option String)} {threads : Nat}
    (interleaved : Interleaves (List.replicate threads keys) calls) :
    let inTurn := (List.replicate threads keys).flatten
    let seen := calls.map fun key => config.key? ⟨key⟩
    ((∃ result, Crowd.enter limiter calls = .ok result) ↔
      ∀ key ∈ config.visited seen, ∃ child, config.Makes make key child) ∧
    ((∃ result, Crowd.enter limiter inTurn = .ok result) ↔
      ∀ key ∈ config.visited seen, ∃ child, config.Makes make key child) ∧
    ∀ full grants, Crowd.enter limiter calls = .ok (full, grants) →
      (∃ grants', Crowd.enter limiter inTurn = .ok (full, grants') ∧ grants'.Perm grants ∧
        grants'.length = grants.length) ∧
      full.children.map Prod.fst = config.visited seen ∧
      full.unlistedCount = min config.places (config.unlistedKeys seen).length ∧
      AdmitsUpToLimits config seen grants full ∧
      ∀ order, order.Perm grants → ∀ outcome, ∃ after,
        Crowd.leave outcome full order = .ok after ∧ Idle full after := by
  intro inTurn seen
  have fresh := Crowded.create built
  have same : seen.eraseDups = (inTurn.map fun key => config.key? ⟨key⟩).eraseDups :=
    eraseDups_map_congr _ (interleaved.eraseDups_replicate (.flatten _))
  have perm : seen.Perm (inTurn.map fun key => config.key? ⟨key⟩) := interleaved.perm.map _
  have visited : config.visited seen =
      config.visited (inTurn.map fun key => config.key? ⟨key⟩) := Partitioning.visited_congr same
  refine ⟨Crowded.enter_iff built fixed calls, ?_, ?_⟩
  · rw [visited]
    exact Crowded.enter_iff built fixed inTurn
  intro full grants entered
  have crowded : Crowded config make seen grants full := by
    simpa using fresh.run fixed entered
  refine ⟨?_, crowded.settled.children, ?_, crowded.admits, ?_⟩
  · have makes : ∀ key ∈ config.visited seen, ∃ child, config.Makes make key child :=
      fun key mem => crowded.makes mem
    rw [visited] at makes
    obtain ⟨⟨full', grants'⟩, entered'⟩ := (Crowded.enter_iff built fixed inTurn).mpr makes
    have crowded' : Crowded config make (inTurn.map fun key => config.key? ⟨key⟩) grants'
        full' := by
      simpa using fresh.run fixed entered'
    obtain ⟨rfl, granted⟩ := crowded.unique crowded' same perm
    exact ⟨grants', entered', granted, granted.length_eq⟩
  · rw [crowded.settled.unlistedCount, Partitioning.length_housed]
  · intro order permuted outcome
    have holds : Holds order full := by
      intro key child found
      rw [permuted.count_eq]
      exact crowded.holds key child found
    exact holds.leave outcome

/-- Two threads meet two keys which are not configured, but there is a place for one only. -/
def twoThreads : List (Option String) := [some "early", some "late", none, some "main"]

/-- The second thread sets out when the first is half through; six of the eight calls are let in,
as when the second waits until the first is through. -/
theorem crowd_does_not_depend_on_order_at_one_place :
    let calls := [some "early", some "late", some "early", none, some "late", none, some "main",
      some "main"]
    Interleaves (List.replicate 2 twoThreads) calls ∧
    ∃ full grants, Crowd.enter onePlaceLimiter calls = .ok (full, grants) ∧ grants.length = 6 ∧
      (∃ grants', Crowd.enter onePlaceLimiter (twoThreads ++ twoThreads) = .ok (full, grants') ∧
        grants'.length = 6) ∧
      ∃ after, Crowd.leave .success full grants.reverse = .ok after ∧ Idle full after := by
  intro calls
  have interleaved : Interleaves (List.replicate 2 twoThreads) calls :=
    @Interleaves.take _ [] [_] _ _ _ <| @Interleaves.take _ [] [_] _ _ _ <|
    @Interleaves.take _ [_] [] _ _ _ <| @Interleaves.take _ [] [_] _ _ _ <|
    @Interleaves.take _ [_] [] _ _ _ <| @Interleaves.take _ [_] [] _ _ _ <|
    @Interleaves.take _ [] [_] _ _ _ <| @Interleaves.take _ [_] [] _ _ _ <|
    .done (by decide)
  have built : Partitioned.create onePlace silentGate = .ok onePlaceLimiter := rfl
  have let_in : (Crowd.enter onePlaceLimiter calls).toOption.map (·.2.length) = some 6 := by
    decide +kernel
  obtain ⟨⟨full, grants⟩, entered, six⟩ := Option.map_eq_some_iff.mp let_in
  have result : Crowd.enter onePlaceLimiter calls = .ok (full, grants) := by
    cases outcome : Crowd.enter onePlaceLimiter calls with
    | error fault =>
      rw [outcome] at entered
      cases entered
    | ok found =>
      rw [outcome] at entered
      cases entered
      rfl
  obtain ⟨-, -, comes_to⟩ := crowd_does_not_depend_on_order built
    (fun share gate made => ⟨share, made⟩) interleaved
  obtain ⟨⟨grants', in_turn, -, as_many⟩, -, -, -, ends⟩ := comes_to full grants result
  exact ⟨interleaved, full, grants, result, six, ⟨grants', in_turn, as_many.trans six⟩,
    ends _ grants.reverse_perm .success⟩

end Admission

import Admission.Description
import Admission.Proofs.Partition.Resolving

/-!
# First come, first served

Whatever callers do with a partitioned limiter, it sends each of them where the keys of those who
came before say that the caller belongs: its children are those of the partitions which have been
visited, in the order of the first visits, and its count of keys which are not configured is the
number of those which have a place. A child is made once, by the first caller of its partition,
and stays.
-/

namespace Admission

open Relation (ReflTransGen)
open Limiter (Asks Attends Uses)
open Session (Action newcomers start)

variable {C κ G W : Type}

namespace Partitioned

/-- The child which a key has, or else the one which is made for it. -/
def HasOrGets (limiter : Partitioned C κ) (key : String) (child : κ) : Prop :=
  Table.at? limiter.children key = some child ∨
    Table.at? limiter.children key = none ∧ ∃ share, limiter.make share = .ok child

/-- The child of a key has come to be as told, and those of the other keys are as they were. -/
def Changes (before : Partitioned C κ) (key : String) (child : κ) (after : Partitioned C κ) :
    Prop :=
  Table.at? after.children key = some child ∧
    ∀ other ≠ key, Table.at? after.children other = Table.at? before.children other

lemma changes_putChild (limiter : Partitioned C κ) (key : String) (child : κ) :
    limiter.Changes key child (limiter.putChild key child) :=
  ⟨Table.at?_put_self _ _ _, fun _ ne => Table.at?_put_of_ne _ _ ne⟩

/-- The caller can be sent somewhere; no child is needed which cannot be made. -/
def Finds (limiter : Partitioned C κ) (ctx : C) : Prop := ∃ route, (limiter.route ctx).2 = .ok route

instance (limiter : Partitioned C κ) (ctx : C) : Decidable (limiter.Finds ctx) :=
  match found : (limiter.route ctx).2 with
  | .ok route => isTrue ⟨route, found⟩
  | .error _ => isFalse fun ⟨_, fine⟩ => nomatch found.symm.trans fine

lemma Resolves.hasOrGets {limiter next : Partitioned C κ} {key : String} {child : κ}
    (resolves : Resolves limiter key (next, .ok (some child))) : limiter.HasOrGets key child := by
  cases resolves with
  | found known => exact .inl known
  | adopted unknown _ _ made => exact .inr ⟨unknown, _, made⟩

/-- Nothing but a child is written. -/
lemma Resolves.changes {limiter next : Partitioned C κ} {key : String} {child : κ}
    (resolves : Resolves limiter key (next, .ok (some child))) (later : κ) :
    limiter.Changes key later (next.putChild key later) := by
  refine ⟨Table.at?_put_self _ _ _, fun other ne => ?_⟩
  exact (Table.at?_put_of_ne _ _ ne).trans (resolves.others ne)

/-- A caller who is sent to a partition is sent to the child which its key has or gets. -/
lemma resolves_of_route {limiter next : Partitioned C κ} {ctx : C} {key : String} {child : κ}
    (routed : limiter.route ctx = (next, .ok (.partition key child))) :
    Resolves limiter key (next, .ok (some child)) := by
  have routes := route_routes limiter ctx
  rw [routed] at routes
  cases routes with
  | own _ resolves | fallback _ _ resolves => exact resolves

/-- A caller who is sent past all partitions leaves no trace. -/
lemma eq_of_route {limiter next : Partitioned C κ} {ctx : C} {route : Route κ}
    (routed : limiter.route ctx = (next, .ok route)) (outside : route.destination.key? = none) :
    next = limiter := by
  have routes := route_routes limiter ctx
  rw [routed] at routes
  cases routes with
  | own _ _ | fallback _ _ _ => cases outside
  | unlimited _ _ | rejected _ _ | nowhere _ _ => rfl

section Calls

variable [Limiter C κ G W]

/-- What asking at a destination comes to, at once and when willing to wait: the child of a
partition is asked and gives the answer, and outside all partitions nothing is done. -/
def SendsTo (limiter : Partitioned C κ) (ctx : C) : Destination → Prop
  | .partition key => ∃ child, limiter.HasOrGets key child ∧
      ((limiter.acquireNow ctx).2 =
          (Limiter.acquireNow child ctx).2.map (Option.map (PartitionGrant.within key)) ∧
        limiter.Changes key (Limiter.acquireNow child ctx).1 (limiter.acquireNow ctx).1) ∧
      ∀ now, (limiter.acquire ctx now).2 = (Limiter.acquire child ctx now).2.map (within key) ∧
        limiter.Changes key (Limiter.acquire child ctx now).1 (limiter.acquire ctx now).1
  | .unlimited => limiter.acquireNow ctx = (limiter, .ok (some .unlimited)) ∧
      ∀ now, limiter.acquire ctx now = (limiter, .ok (.admitted .unlimited))
  | .rejected => limiter.acquireNow ctx = (limiter, .ok none) ∧
      ∀ now, limiter.acquire ctx now = (limiter, .ok (.refused .rejected))

lemma sendsTo_destination {limiter next : Partitioned C κ} {ctx : C} {route : Route κ}
    (routed : limiter.route ctx = (next, .ok route)) : limiter.SendsTo ctx route.destination := by
  cases route with
  | «partition» key child =>
    have resolves := resolves_of_route routed
    refine ⟨child, resolves.hasOrGets, ?_, fun now => ?_⟩
    · rw [acquireNow_partition routed]
      exact ⟨rfl, resolves.changes _⟩
    · rw [acquire_partition routed]
      exact ⟨rfl, resolves.changes _⟩
  | unlimited =>
    obtain rfl := eq_of_route routed rfl
    exact ⟨acquireNow_unlimited routed, acquire_unlimited routed⟩
  | reject =>
    obtain rfl := eq_of_route routed rfl
    exact ⟨acquireNow_reject routed, acquire_reject routed⟩

/-- Every child is still there under its key, and calls have made it what it is. -/
def Keeps (before after : Partitioned C κ) : Prop :=
  ∀ key child, Table.at? before.children key = some child →
    ∃ later, Table.at? after.children key = some later ∧ Uses C child later

lemma Keeps.refl (limiter : Partitioned C κ) : limiter.Keeps limiter :=
  fun _ child known => ⟨child, known, .refl⟩

lemma Keeps.trans {first second third : Partitioned C κ} (early : first.Keeps second)
    (late : second.Keeps third) : first.Keeps third := by
  intro key child known
  obtain ⟨later, known', uses⟩ := early key child known
  obtain ⟨last, known'', uses'⟩ := late key later known'
  exact ⟨last, known'', uses.trans uses'⟩

lemma keeps_putChild {limiter : Partitioned C κ} {key : String} {child later : κ}
    (known : Table.at? limiter.children key = some child) (uses : Uses C child later) :
    limiter.Keeps (limiter.putChild key later) := by
  intro other old found
  by_cases same : other = key
  · subst same
    cases known.symm.trans found
    exact ⟨later, Table.at?_put_self _ _ _, uses⟩
  · exact ⟨old, (Table.at?_put_of_ne _ _ same).trans found, .refl⟩

lemma Resolves.keepsAll {limiter : Partitioned C κ} {key : String}
    {result : Partitioned C κ × Except Fault (Option κ)} (resolves : Resolves limiter key result) :
    limiter.Keeps result.1 :=
  fun _ child known => ⟨child, resolves.keeps known, .refl⟩

end Calls

/-- A limiter to which callers with the keys `seen` have come. -/
structure Settled [Limiter C κ G W] (config : Partitioning C) (make : Nat → Except Fault κ)
    (seen : List (Option String)) (limiter : Partitioned C κ) : Prop where
  target : ∀ name, config.fallback = .partition name → config.isConfigured name = true
  sameConfig : limiter.config = config
  sameMake : limiter.make = make
  children : limiter.children.map Prod.fst = config.visited seen
  made : limiter.made.map Prod.fst = config.visited seen
  unlistedCount : limiter.unlistedCount = (config.housed seen).length
  shares : ∀ entry ∈ limiter.made, config.HasShare entry.1 entry.2
  /-- What has been made is there, and calls have made it what it is. -/
  bred : ∀ entry ∈ limiter.made, ∃ first child, make entry.2 = .ok first ∧
    Table.at? limiter.children entry.1 = some child ∧ Uses C first child

variable [Limiter C κ G W] {config : Partitioning C} {make : Nat → Except Fault κ}
  {seen : List (Option String)} {limiter next : Partitioned C κ} {key : String} {child : κ}

lemma Settled.mem_visited_iff (settled : Settled config make seen limiter) :
    (Table.at? limiter.children key).isSome = true ↔ key ∈ config.visited seen := by
  rw [Table.at?_isSome_iff, settled.children]

lemma Settled.not_visited (settled : Settled config make seen limiter)
    (unknown : Table.at? limiter.children key = none) : key ∉ config.visited seen := by
  rw [← settled.mem_visited_iff, unknown]
  exact Bool.false_ne_true

lemma Settled.visited (settled : Settled config make seen limiter)
    (known : Table.at? limiter.children key = some child) : key ∈ config.visited seen := by
  rw [← settled.mem_visited_iff, known]
  rfl

/-- A configured key may always have a child and takes no place; another one takes a place, if
there is one left. -/
lemma Settled.offer? (settled : Settled config make seen limiter) (key : String) :
    (config.isConfigured key = true ∧ ∃ weight, limiter.offer? key = some (weight, 0)) ∨
    (config.isConfigured key = false ∧ (config.housed seen).length < config.places ∧
      ∃ weight, limiter.offer? key = some (weight, 1)) ∨
    (config.isConfigured key = false ∧ config.places ≤ (config.housed seen).length ∧
      limiter.offer? key = none) := by
  have counted := settled.unlistedCount
  obtain rfl := settled.sameConfig
  unfold Partitioned.offer? Partitioning.isConfigured Partitioning.places
  cases Table.at? limiter.config.weights key with
  | some weight => exact .inl ⟨rfl, weight, rfl⟩
  | none =>
    refine .inr ?_
    cases unlisted : limiter.config.unlisted with
    | none => exact .inr ⟨rfl, Nat.zero_le _, rfl⟩
    | some places =>
      by_cases room : limiter.unlistedCount < places.cap
      · exact .inl ⟨rfl, counted ▸ room, places.weight, if_pos room⟩
      · exact .inr ⟨rfl, counted ▸ Nat.le_of_not_lt room, if_neg room⟩

/-- A caller who comes to a partition visits it, and keeps the count if the places are. -/
lemma Settled.visit (settled : Settled config make seen limiter) {came : Option String}
    (resolves : Resolves limiter key (next, .ok (some child)))
    (sent : config.destination (seen ++ [came]) came = .partition key)
    (counted : next.unlistedCount = (config.housed (seen ++ [came])).length) :
    Settled config make (seen ++ [came]) next := by
  have visited := config.visited_snoc seen came
  rw [sent] at visited
  dsimp only [Destination.key?] at visited
  cases resolves with
  | found known =>
    rw [if_pos (settled.visited known)] at visited
    exact { settled with
      children := settled.children.trans visited.symm
      made := settled.made.trans visited.symm
      unlistedCount := counted }
  | adopted unknown offer part made =>
    rw [if_neg (settled.not_visited unknown)] at visited
    have keeps := (Resolves.adopted unknown offer part made).keepsAll (C := C)
    refine ⟨settled.target, settled.sameConfig, settled.sameMake, ?_, ?_, counted,
      fun entry mem => ?_, fun entry mem => ?_⟩
    · simp [adopt, settled.children, visited]
    · simp [adopt, settled.made, visited]
    · rcases List.mem_append.mp mem with old | new
      · exact settled.shares entry old
      · obtain rfl := List.mem_singleton.mp new
        rw [← settled.sameConfig]
        exact ⟨_, weight?_of_offer? offer, part⟩
    · rcases List.mem_append.mp mem with old | new
      · obtain ⟨first, old_child, made_first, known, uses⟩ := settled.bred entry old
        obtain ⟨later, known', uses'⟩ := keeps _ _ known
        exact ⟨first, later, made_first, known', uses.trans uses'⟩
      · obtain rfl := List.mem_singleton.mp new
        have got := (Resolves.adopted unknown offer part made).child
        exact ⟨child, child, settled.sameMake ▸ made, got, .refl⟩

/-- A caller who comes to no partition leaves everything as it was. -/
lemma Settled.pass (settled : Settled config make seen limiter) {came : Option String}
    (sent : (config.destination (seen ++ [came]) came).key? = none)
    (same : config.housed (seen ++ [came]) = config.housed seen) :
    Settled config make (seen ++ [came]) limiter := by
  have visited := config.visited_snoc seen came
  rw [sent] at visited
  exact { settled with
    children := settled.children.trans visited.symm
    made := settled.made.trans visited.symm
    unlistedCount := settled.unlistedCount.trans (by rw [same]) }

/-- Whoever may have a child for the own key has a place, and takes it if need be. -/
lemma Settled.offered (settled : Settled config make seen limiter)
    (unknown : Table.at? limiter.children key = none) {weight : Double} {taken : Nat}
    (offer : limiter.offer? key = some (weight, taken)) :
    config.destination (seen ++ [some key]) (some key) = .partition key ∧
      (config.housed (seen ++ [some key])).length = (config.housed seen).length + taken := by
  rcases settled.offer? key with ⟨listed, _, offered⟩ | ⟨unlisted, room, _, offered⟩ |
    ⟨_, _, offered⟩
  · cases offer.symm.trans offered
    refine ⟨Partitioning.destination_of_place (.inl listed), ?_⟩
    rw [Partitioning.housed_snoc_configured listed, Nat.add_zero]
  · cases offer.symm.trans offered
    have no_place : key ∉ config.housed seen := fun place => settled.not_visited unknown
      ((Partitioning.mem_visited_of_unlisted settled.target unlisted).mpr place)
    have housed := Partitioning.housed_snoc_room unlisted no_place room
    exact ⟨Partitioning.destination_of_place (.inr (by simp [housed])), by simp [housed]⟩
  · exact absurd (offer.symm.trans offered) nofun

lemma Settled.own (settled : Settled config make seen limiter)
    (resolves : Resolves limiter key (next, .ok (some child))) :
    config.destination (seen ++ [some key]) (some key) = .partition key ∧
      next.unlistedCount = (config.housed (seen ++ [some key])).length := by
  cases resolves with
  | found known =>
    rw [settled.unlistedCount]
    cases listed : config.isConfigured key with
    | true =>
      exact ⟨Partitioning.destination_of_place (.inl listed),
        by rw [Partitioning.housed_snoc_configured listed]⟩
    | false =>
      have place := (Partitioning.mem_visited_of_unlisted settled.target listed).mp
        (settled.visited known)
      have same := Partitioning.housed_snoc_mem place
      exact ⟨Partitioning.destination_of_place (.inr (same ▸ place)), by rw [same]⟩
  | adopted unknown offer part made =>
    obtain ⟨sent, counted⟩ := settled.offered unknown offer
    refine ⟨sent, ?_⟩
    rw [counted, adopt, settled.unlistedCount]

/-- Whoever has no child for the own key belongs to the fallback. -/
lemma Settled.homeless (settled : Settled config make seen limiter)
    {ctx : C} (homeless : limiter.Homeless ctx) :
    config.destination (seen ++ [config.key? ctx]) (config.key? ctx) = config.fallback.destination ∧
      config.housed (seen ++ [config.key? ctx]) = config.housed seen := by
  cases asked : config.key? ctx with
  | none => exact ⟨rfl, Partitioning.housed_snoc_none⟩
  | some key =>
    obtain ⟨unknown, no_offer⟩ := homeless key (settled.sameConfig ▸ asked)
    rcases settled.offer? key with ⟨_, _, offered⟩ | ⟨_, _, _, offered⟩ |
      ⟨unlisted, full, -⟩
    · exact absurd (no_offer.symm.trans offered) nofun
    · exact absurd (no_offer.symm.trans offered) nofun
    · have same := Partitioning.housed_snoc_full full (some key)
      refine ⟨Partitioning.destination_of_no_place unlisted fun place => ?_, same⟩
      exact settled.not_visited unknown
        ((Partitioning.mem_visited_of_unlisted settled.target unlisted).mpr (same ▸ place))

/-- A configured key takes no place. -/
lemma Settled.listed (settled : Settled config make seen limiter)
    (listed : config.isConfigured key = true)
    (resolves : Resolves limiter key (next, .ok (some child))) :
    next.unlistedCount = limiter.unlistedCount := by
  cases resolves with
  | found _ => rfl
  | adopted unknown offer part made =>
    rcases settled.offer? key with ⟨_, _, offered⟩ | ⟨unlisted, _⟩ | ⟨unlisted, _⟩
    · cases offer.symm.trans offered
      rfl
    · exact absurd (listed.symm.trans unlisted) nofun
    · exact absurd (listed.symm.trans unlisted) nofun

/-- A caller is sent to where it belongs, and the limiter goes on as one to which the caller has
come. -/
theorem Settled.route (settled : Settled config make seen limiter)
    {ctx : C} {route : Route κ} (routed : limiter.route ctx = (next, .ok route)) :
    route.destination = config.destination (seen ++ [config.key? ctx]) (config.key? ctx) ∧
      Settled config make (seen ++ [config.key? ctx]) next := by
  have routes := route_routes limiter ctx
  rw [routed] at routes
  have sameConfig := settled.sameConfig
  cases routes with
  | own asks resolves =>
    rw [← sameConfig, asks, sameConfig]
    obtain ⟨sent, counted⟩ := settled.own resolves
    exact ⟨sent.symm, settled.visit resolves sent counted⟩
  | @«fallback» name child next homeless falls resolves =>
    obtain ⟨sent, same⟩ := settled.homeless homeless
    rw [sameConfig] at falls
    have counted := (settled.listed (settled.target _ falls) resolves).trans settled.unlistedCount
    rw [falls] at sent
    exact ⟨sent.symm, settled.visit resolves sent (by rw [counted, same])⟩
  | unlimited homeless falls | rejected homeless falls =>
    obtain ⟨sent, same⟩ := settled.homeless homeless
    rw [sameConfig] at falls
    rw [falls] at sent
    exact ⟨sent.symm, settled.pass (by rw [sent]; rfl) same⟩
  | nowhere falls offer =>
    rw [sameConfig] at falls
    rcases settled.offer? _ with ⟨_, _, offered⟩ | ⟨unlisted, _⟩ | ⟨unlisted, _⟩
    · exact absurd (offer.symm.trans offered) nofun
    · exact absurd ((settled.target _ falls).symm.trans unlisted) nofun
    · exact absurd ((settled.target _ falls).symm.trans unlisted) nofun

/-- Calls of the child of a key change nothing else. -/
lemma Settled.putChild (settled : Settled config make seen limiter) {later : κ}
    (known : Table.at? limiter.children key = some child) (uses : Uses C child later) :
    Settled config make seen (limiter.putChild key later) := by
  refine { settled with
    children := (Table.names_put later known).trans settled.children
    bred := fun entry mem => ?_ }
  obtain ⟨first, old, made, found, uses'⟩ := settled.bred entry mem
  obtain ⟨last, found', uses''⟩ := keeps_putChild known uses _ _ found
  exact ⟨first, last, made, found', uses'.trans uses''⟩

lemma Settled.attended (settled : Settled config make seen limiter)
    (attended : ReflTransGen (Attends C) limiter next) :
    Settled config make seen next ∧ limiter.Keeps next := by
  induction attended with
  | refl => exact ⟨settled, .refl limiter⟩
  | tail _ attends ih =>
    rcases attends_cases attends with rfl | ⟨key, child, later, known, calls, rfl⟩
    · exact ih
    · have uses : Uses C child later := .single (.inr calls)
      exact ⟨ih.1.putChild known uses, ih.2.trans (keeps_putChild known uses)⟩

lemma Settled.asked (settled : Settled config make seen limiter) {ctx : C}
    (finds : limiter.Finds ctx) (asks : Asks ctx limiter next) :
    Settled config make (seen ++ [config.key? ctx]) next ∧ limiter.Keeps next := by
  obtain ⟨route, sent⟩ := finds
  obtain ⟨middle, routed⟩ : ∃ middle, limiter.route ctx = (middle, .ok route) :=
    ⟨_, Prod.ext rfl sent⟩
  have arrived := (settled.route routed).2
  have routes := route_routes limiter ctx
  rw [routed] at routes
  have keeps : limiter.Keeps middle := fun _ child known => ⟨child, routes.keeps known, .refl⟩
  rcases asks_cases routed asks with rfl | ⟨key, child, later, to_child, calls, rfl⟩
  · exact ⟨arrived, keeps⟩
  · cases to_child
    have known := (resolves_of_route routed).child
    exact ⟨arrived.putChild known calls.uses, keeps.trans (keeps_putChild known calls.uses)⟩

lemma create_settled (built : Partitioned.create config make = .ok limiter) :
    Settled config make [] limiter := by
  unfold create at built
  cases checked : config.check with
  | error fault => simp [checked, Except.map] at built
  | ok _ =>
    rw [checked, Except.map, Except.ok.injEq] at built
    subst built
    exact {
      target := Partitioning.isConfigured_of_check checked
      sameConfig := rfl
      sameMake := rfl
      children := rfl
      made := rfl
      unlistedCount := by simp [Partitioning.housed, Partitioning.unlistedKeys]
      shares := fun entry mem => nomatch mem
      bred := fun entry mem => nomatch mem }

/-- Everybody whom the action brings can be sent somewhere. -/
def FindsRoute (session : Session C (Partitioned C κ) (PartitionGrant G) (String × W))
    (action : Action C) : Prop :=
  ∀ ctx, action.ctx? = some ctx → session.limiter.Finds ctx

instance (session : Session C (Partitioned C κ) (PartitionGrant G) (String × W))
    (action : Action C) : Decidable (FindsRoute session action) :=
  match brings : action.ctx? with
  | none => isTrue fun _ came => nomatch brings.symm.trans came
  | some ctx => decidable_of_iff (session.limiter.Finds ctx)
    ⟨fun finds _ came => Option.some.inj (brings.symm.trans came) ▸ finds,
      fun finds => finds ctx brings⟩

variable {session : Session C (Partitioned C κ) (PartitionGrant G) (String × W)}

lemma Settled.step (settled : Settled config make seen session.limiter) {action : Action C}
    (finds : FindsRoute session action) :
    Settled config make (seen ++ (newcomers [action]).map config.key?)
        (session.step action).1.limiter ∧
      session.limiter.Keeps (session.step action).1.limiter := by
  obtain ⟨asked, asks, attended⟩ := session.step_calls action
  unfold Session.Asked at asks
  cases brings : action.ctx? with
  | none =>
    rw [brings] at asks
    subst asks
    rw [Session.newcomers_cons_of_none brings]
    simpa [newcomers] using settled.attended attended
  | some ctx =>
    rw [brings] at asks
    obtain ⟨arrived, early⟩ := settled.asked (finds ctx brings) asks
    obtain ⟨settled', late⟩ := arrived.attended attended
    rw [Session.newcomers_cons_of_some brings]
    exact ⟨settled', early.trans late⟩

theorem Settled.after (settled : Settled config make seen session.limiter)
    {actions : List (Action C)} (finds : session.Along FindsRoute actions) :
    Settled config make (seen ++ (newcomers actions).map config.key?)
        (session.after actions).limiter ∧
      session.limiter.Keeps (session.after actions).limiter := by
  induction actions generalizing session seen with
  | nil => simpa [newcomers, Session.after] using And.intro settled (Keeps.refl session.limiter)
  | cons action rest ih =>
    obtain ⟨stepped, early⟩ := settled.step finds.1
    obtain ⟨settled', late⟩ := ih stepped finds.2
    have order : newcomers (action :: rest) = newcomers [action] ++ newcomers rest :=
      List.filterMap_append (l := [action])
    rw [order, List.map_append, ← List.append_assoc]
    exact ⟨settled', early.trans late⟩

end Partitioned

open Partitioned

/-- Routing is first come, first served. After any actions, in which callers were sent somewhere
whenever they asked, every caller is sent to the partition of the key if the key is configured or
is among the first of the others, as many as there are places, and to the fallback otherwise; the
limiter counts the places which are taken. Every partition there is has been made once and is what
calls have left of what was made, and whatever happens next, it stays. -/
theorem routing_is_first_come_first_served [Limiter C κ G W] {config : Partitioning C}
    {make : Nat → Except Fault κ} {limiter : Partitioned C κ}
    (built : Partitioned.create config make = .ok limiter) {actions : List (Action C)}
    (routed : (start limiter).Along FindsRoute actions) :
    let seen := (newcomers actions).map config.key?
    let later := ((start limiter).after actions).limiter
    (∀ ctx, later.Finds ctx → later.SendsTo ctx
      (config.destination (seen ++ [config.key? ctx]) (config.key? ctx))) ∧
    (∀ key, config.destination (seen ++ [some key]) (some key) = .partition key ↔
      config.isConfigured key = true ∨
        key ∈ (config.unlistedKeys (seen ++ [some key])).take config.places) ∧
    later.unlistedCount = min config.places (config.unlistedKeys seen).length ∧
    (later.made.map Prod.fst = later.children.map Prod.fst ∧ Table.Distinct later.children ∧
      ∀ entry ∈ later.made, ∃ first child, make entry.2 = .ok first ∧
        Table.at? later.children entry.1 = some child ∧ Uses C first child) ∧
    ∀ more, (start limiter).Along FindsRoute (actions ++ more) →
      later.Keeps ((start limiter).after (actions ++ more)).limiter := by
  intro seen later
  have fresh : Settled config make []
      (start limiter : Session C _ (PartitionGrant G) (String × W)).limiter := create_settled built
  have settled : Settled config make seen later := (fresh.after routed).1
  refine ⟨?_, ?_, ?_, ⟨?_, ?_, settled.bred⟩, ?_⟩
  · rintro ctx ⟨route, sent⟩
    have found : later.route ctx = ((later.route ctx).1, .ok route) := Prod.ext rfl sent
    rw [← (settled.route found).1]
    exact sendsTo_destination found
  · exact fun key => Partitioning.destination_eq_partition_iff settled.target
  · rw [settled.unlistedCount, Partitioning.length_housed]
  · rw [settled.made, settled.children]
  · rw [Table.Distinct, settled.children]
    exact config.nodup_visited seen
  · intro more along
    rw [Session.after_append]
    exact (settled.after (Session.along_append.mp along).2).2

/-- One partition is configured and is the fallback, and there is one place for other keys. -/
def onePlace : Partitioning TaskLabel where
  limit := 4
  weights := [("main", .finite Double.one)]
  resolver := some TaskLabel.key?
  fallback := .partition "main"
  unlisted := some ⟨.finite Double.one, 1⟩

def onePlaceLimiter : Partitioned TaskLabel RuleGate := ⟨onePlace, silentGate, [], [], 0⟩

/-- Two keys which are not configured come one after the other, and then a caller without one. -/
def visits : List (Action TaskLabel) :=
  [.acquireNow "a" ⟨some "early"⟩, .acquire "b" ⟨some "late"⟩ false, .resolve "a" .success,
    .acquireNow "c" ⟨none⟩]

/-- The first key gets the place, and a third one finds none. -/
theorem routing_is_first_come_first_served_at_one_place :
    let later := ((start onePlaceLimiter).after visits).limiter
    Partitioned.create onePlace silentGate = .ok onePlaceLimiter ∧
      (start onePlaceLimiter).Along FindsRoute visits ∧
      later.SendsTo ⟨some "early"⟩ (.partition "early") ∧
      later.SendsTo ⟨some "third"⟩ (.partition "main") ∧ later.unlistedCount = 1 := by
  have built : Partitioned.create onePlace silentGate = .ok onePlaceLimiter := rfl
  have routed : (start onePlaceLimiter).Along FindsRoute visits := by decide +kernel
  obtain ⟨sends, -, counts, -⟩ := routing_is_first_come_first_served built routed
  refine ⟨built, routed, ?_, ?_, counts.trans (by decide +kernel)⟩
  · exact sends ⟨some "early"⟩ (by decide +kernel)
  · exact sends ⟨some "third"⟩ (by decide +kernel)

end Admission

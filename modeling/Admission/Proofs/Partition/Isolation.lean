import Admission.Description
import Admission.Proofs.Partition.Resolving
import Admission.Proofs.Session.Separation

/-!
# Partitions are isolated

What callers of a configured partition see of a limiter depends on nobody else, as long as the
fallback does not send others there: two limiters which agree on the partition's child answer its
callers alike, and calls of others leave the child alone.
-/

namespace Admission

open Session (Action start)

variable {C κ G W : Type}

/-- The callers of a partition, what they are granted and where they wait. -/
def Partitioning.side (config : Partitioning C) (name : String) :
    Side C (PartitionGrant G) (String × W) where
  ctx ctx := decide (config.key? ctx = some name)
  grant
    | .unlimited => false
    | .within key _ => decide (key = name)
  place place := decide (place.1 = name)

namespace Partitioned

/-- Two limiters which are set up alike, and in which a partition is in the same state. -/
structure AgreeOn (config : Partitioning C) (name : String) (whole part : Partitioned C κ) :
    Prop where
  wholeConfig : whole.config = config
  partConfig : part.config = config
  make : part.make = whole.make
  child : Table.at? part.children name = Table.at? whole.children name

namespace AgreeOn

variable {config : Partitioning C} {name key : String} {whole part next : Partitioned C κ}
  {ctx : C} {child : κ}

lemma putChild (agree : AgreeOn config name whole part) (child : κ) :
    AgreeOn config name (whole.putChild name child) (part.putChild name child) :=
  { agree with child := (Table.at?_put_self _ _ _).trans (Table.at?_put_self _ _ _).symm }

lemma putChild_other (agree : AgreeOn config name whole part) (ne : key ≠ name) (child : κ) :
    AgreeOn config name (whole.putChild key child) part :=
  { agree with child := agree.child.trans (Table.at?_put_of_ne _ _ (Ne.symm ne)).symm }

/-- Making the child of the partition comes to the same. -/
lemma makeChild (agree : AgreeOn config name whole part) (share : Except Fault Nat) :
    AgreeOn config name (whole.makeChild name share).1 (part.makeChild name share).1 ∧
      (part.makeChild name share).2 = (whole.makeChild name share).2 ∧
      (whole.makeChild name share).2 ≠ .ok none := by
  cases share with
  | error fault => exact ⟨agree, rfl, nofun⟩
  | ok share =>
    unfold Partitioned.makeChild
    dsimp only
    rw [agree.make]
    have logged : AgreeOn config name { whole with made := whole.made ++ [(name, share)] }
        { part with made := part.made ++ [(name, share)] } := { agree with }
    cases whole.make share with
    | error fault => exact ⟨{ logged with make := rfl }, rfl, nofun⟩
    | ok child => exact ⟨{ logged.putChild child with make := rfl }, rfl, nofun⟩

lemma resolve (agree : AgreeOn config name whole part)
    (configured : config.isConfigured name = true) :
    AgreeOn config name (whole.resolve name).1 (part.resolve name).1 ∧
      (part.resolve name).2 = (whole.resolve name).2 ∧ (whole.resolve name).2 ≠ .ok none := by
  obtain ⟨weight, listed⟩ := Option.isSome_iff_exists.mp configured
  unfold Partitioned.resolve
  rw [agree.child, agree.wholeConfig, agree.partConfig, listed]
  cases Table.at? whole.children name with
  | some child => exact ⟨agree, rfl, nofun⟩
  | none => exact agree.makeChild _

/-- A caller of the partition is sent to its child, the same in both, unless the child cannot be
made. -/
lemma route (agree : AgreeOn config name whole part)
    (configured : config.isConfigured name = true) (own : config.key? ctx = some name) :
    ∃ next next', AgreeOn config name next next' ∧
      ((∃ fault, whole.route ctx = (next, .error fault) ∧ part.route ctx = (next', .error fault)) ∨
      ∃ child, whole.route ctx = (next, .ok (.partition name child)) ∧
        part.route ctx = (next', .ok (.partition name child))) := by
  obtain ⟨resolved, same, found⟩ := agree.resolve configured
  unfold Partitioned.route
  rw [agree.wholeConfig, agree.partConfig, own]
  dsimp only
  generalize whole.resolve name = result at resolved same found ⊢
  generalize part.resolve name = result' at resolved same ⊢
  obtain ⟨next, outcome⟩ := result
  obtain ⟨next', outcome'⟩ := result'
  obtain rfl : outcome' = outcome := same
  rcases outcome' with fault | _ | child
  · exact ⟨next, next', resolved, .inl ⟨fault, rfl, rfl⟩⟩
  · exact absurd rfl found
  · exact ⟨next, next', resolved, .inr ⟨child, rfl, rfl⟩⟩

/-- Other callers are sent elsewhere, and the partition does not notice. -/
lemma route_other (agree : AgreeOn config name whole part)
    (not_target : config.fallback ≠ .partition name) (other : config.key? ctx ≠ some name) :
    AgreeOn config name (whole.route ctx).1 part ∧
      ∀ key child, (whole.route ctx).2 = .ok (.partition key child) → key ≠ name := by
  have elsewhere : ∀ {key outcome} {next : Partitioned C κ},
      Resolves whole key (next, outcome) → key ≠ name → AgreeOn config name next part := by
    intro key outcome next resolves ne
    have untouched := resolves.others (Ne.symm ne)
    cases resolves with
    | found _ | turnedAway _ _ => exact agree
    | adopted _ _ _ _ | fault _ _ _ =>
      exact { agree with child := agree.child.trans untouched.symm }
  have routes := route_routes whole ctx
  generalize whole.route ctx = result at routes ⊢
  cases routes with
  | @own key child next asks resolves =>
    have ne : key ≠ name := fun same => other (agree.wholeConfig ▸ same ▸ asks)
    exact ⟨elsewhere resolves ne, fun key child sent => by cases sent; exact ne⟩
  | @«fallback» key child next homeless falls resolves =>
    have ne : key ≠ name := fun same => not_target (agree.wholeConfig ▸ same ▸ falls)
    exact ⟨elsewhere resolves ne, fun key child sent => by cases sent; exact ne⟩
  | unlimited _ _ | rejected _ _ | nowhere _ _ => exact ⟨agree, nofun⟩
  | @ownFault key next fault asks resolves =>
    have ne : key ≠ name := fun same => other (agree.wholeConfig ▸ same ▸ asks)
    exact ⟨elsewhere resolves ne, nofun⟩
  | @fallbackFault key next fault homeless falls resolves =>
    have ne : key ≠ name := fun same => not_target (agree.wholeConfig ▸ same ▸ falls)
    exact ⟨elsewhere resolves ne, nofun⟩

/-- The callers of the partition are those who are sent to it. -/
lemma sends (agree : AgreeOn config name whole part)
    (configured : config.isConfigured name = true) (not_target : config.fallback ≠ .partition name)
    {route : Route κ} (routed : whole.route ctx = (next, .ok route)) :
    route.destination = .partition name ↔ config.key? ctx = some name := by
  constructor
  · intro sent
    by_contra other
    cases route with
    | «partition» key child =>
      have ne := (agree.route_other not_target other).2 key child (congrArg Prod.snd routed)
      exact ne (Destination.partition.inj sent)
    | unlimited | reject => cases sent
  · intro own
    obtain ⟨_, _, _, ⟨fault, routed', -⟩ | ⟨child, routed', -⟩⟩ := agree.route configured own
    · exact nomatch (congrArg Prod.snd routed).symm.trans (congrArg Prod.snd routed')
    · cases (congrArg Prod.snd routed).symm.trans (congrArg Prod.snd routed')
      rfl

end AgreeOn

section Separation

variable [Limiter C κ G W] {config : Partitioning C} {name : String}

lemma fits_within (config : Partitioning C) {key : String} {inside : Bool}
    (same : decide (key = name) = inside) (progress : Progress G W) :
    (config.side name).Fits inside (within key progress) := by
  cases progress with
  | admitted grant => exact same
  | refused cause => trivial
  | waiting place => exact same

variable {whole part : Partitioned C κ} {ctx : C}

lemma AgreeOn.grant_fits (agree : AgreeOn config name whole part)
    (configured : config.isConfigured name = true) (not_target : config.fallback ≠ .partition name)
    {grant : PartitionGrant G} (granted : (whole.acquireNow ctx).2 = .ok (some grant)) :
    (config.side (W := W) name).grant grant = decide (config.key? ctx = some name) := by
  rcases routed : whole.route ctx with ⟨next, fault | ⟨key, child⟩ | _ | _⟩
  · rw [acquireNow_fault routed] at granted
    cases granted
  · have sends := agree.sends configured not_target routed
    rw [acquireNow_partition routed] at granted
    obtain ⟨answer, -, answered⟩ := exists_of_map_eq_ok granted
    obtain ⟨inner, -, rfl⟩ := Option.map_eq_some_iff.mp answered
    exact decide_eq_decide.mpr (by simpa [Route.destination] using sends)
  · have sends := agree.sends configured not_target routed
    rw [acquireNow_unlimited routed] at granted
    cases granted
    exact (decide_eq_false fun own => nomatch sends.mpr own).symm
  · rw [acquireNow_reject routed] at granted
    cases granted

lemma AgreeOn.progress_fits (agree : AgreeOn config name whole part)
    (configured : config.isConfigured name = true) (not_target : config.fallback ≠ .partition name)
    {now : Nat} {progress : Progress (PartitionGrant G) (String × W)}
    (came : (whole.acquire ctx now).2 = .ok progress) :
    (config.side name).Fits (decide (config.key? ctx = some name)) progress := by
  rcases routed : whole.route ctx with ⟨next, fault | ⟨key, child⟩ | _ | _⟩
  · rw [acquire_fault routed] at came
    cases came
  · have sends := agree.sends configured not_target routed
    rw [acquire_partition routed] at came
    obtain ⟨inner, -, rfl⟩ := exists_of_map_eq_ok came
    exact fits_within config (decide_eq_decide.mpr (by simpa [Route.destination] using sends)) inner
  · have sends := agree.sends configured not_target routed
    rw [acquire_unlimited routed] at came
    cases came
    exact (decide_eq_false fun own => nomatch sends.mpr own).symm
  · rw [acquire_reject routed] at came
    cases came
    trivial

/-- Another caller's first look does not show in the partition. -/
lemma AgreeOn.asked_other (agree : AgreeOn config name whole part)
    (not_target : config.fallback ≠ .partition name) (other : config.key? ctx ≠ some name)
    {after : Partitioned C κ} (asks : Limiter.Asks ctx whole after) :
    AgreeOn config name after part := by
  obtain ⟨moved, elsewhere⟩ := agree.route_other not_target other
  rcases asks_cases rfl asks with rfl | ⟨key, child, later, sent, -, rfl⟩
  · exact moved
  · exact moved.putChild_other (elsewhere key child sent) later

/-- A configured partition to which the fallback does not send anybody is apart from the others. -/
theorem agreeOn_separates (configured : config.isConfigured name = true)
    (not_target : config.fallback ≠ .partition name) :
    (config.side name).Separates (AgreeOn (κ := κ) config name) where
  acquireNow agree ctx inside := by
    obtain ⟨next, next', moved, routes⟩ := agree.route configured (of_decide_eq_true inside)
    change AgreeOn _ _ (acquireNow _ ctx).1 (acquireNow _ ctx).1 ∧
      (acquireNow _ ctx).2 = (acquireNow _ ctx).2
    rcases routes with ⟨fault, routed, routed'⟩ | ⟨child, routed, routed'⟩
    · rw [acquireNow_fault routed, acquireNow_fault routed']
      exact ⟨moved, rfl⟩
    · rw [acquireNow_partition routed, acquireNow_partition routed']
      exact ⟨moved.putChild _, rfl⟩
  acquireNow_other agree ctx outside :=
    agree.asked_other not_target (of_decide_eq_false outside) (.acquireNow _)
  acquireNow_fits agree _ _ granted := agree.grant_fits configured not_target granted
  acquire agree ctx now inside := by
    obtain ⟨next, next', moved, routes⟩ := agree.route configured (of_decide_eq_true inside)
    change AgreeOn _ _ (acquire _ ctx now).1 (acquire _ ctx now).1 ∧
      (acquire _ ctx now).2 = (acquire _ ctx now).2
    rcases routes with ⟨fault, routed, routed'⟩ | ⟨child, routed, routed'⟩
    · rw [acquire_fault routed, acquire_fault routed']
      exact ⟨moved, rfl⟩
    · rw [acquire_partition routed, acquire_partition routed']
      exact ⟨moved.putChild _, rfl⟩
  acquire_other agree ctx now outside :=
    agree.asked_other not_target (of_decide_eq_false outside) (.acquire _ now)
  acquire_fits agree _ _ _ came := agree.progress_fits configured not_target came
  poll {whole part} agree ctx place now inside := by
    obtain ⟨key, place⟩ := place
    obtain rfl : key = name := of_decide_eq_true inside
    change AgreeOn _ _ (poll whole ctx _ now).1 (poll part ctx _ now).1 ∧
      (poll part ctx _ now).2 = (poll whole ctx _ now).2
    unfold poll
    rw [agree.child]
    cases Table.at? whole.children key with
    | none => exact ⟨agree, rfl⟩
    | some child => exact ⟨agree.putChild _, rfl⟩
  poll_other {whole part} agree ctx place now outside := by
    change AgreeOn _ _ (poll whole ctx place now).1 part
    unfold poll
    cases Table.at? whole.children place.1 with
    | none => exact agree
    | some child => exact agree.putChild_other (of_decide_eq_false outside) _
  poll_fits {whole part} agree ctx place now progress came := by
    change (poll whole ctx place now).2 = .ok progress at came
    unfold poll at came
    cases known : Table.at? whole.children place.1 with
    | none =>
      rw [known] at came
      cases came
      rfl
    | some child =>
      rw [known] at came
      obtain ⟨inner, -, rfl⟩ := exists_of_map_eq_ok came
      exact fits_within config rfl inner
  abandon {whole part} agree place inside := by
    obtain ⟨key, place⟩ := place
    obtain rfl : key = name := of_decide_eq_true inside
    change AgreeOn _ _ (abandon whole (key, place)) (abandon part (key, place))
    unfold abandon
    rw [agree.child]
    cases Table.at? whole.children key with
    | none => exact agree
    | some child => exact agree.putChild _
  abandon_other {whole part} agree place outside := by
    change AgreeOn _ _ (abandon whole place) part
    unfold abandon
    cases Table.at? whole.children place.1 with
    | none => exact agree
    | some child => exact agree.putChild_other (of_decide_eq_false outside) _
  release {whole part} agree grant outcome latency inside := by
    cases grant with
    | unlimited => cases inside
    | within key grant =>
      obtain rfl : key = name := of_decide_eq_true inside
      change AgreeOn _ _ (release whole (.within key grant) outcome latency).1
          (release part (.within key grant) outcome latency).1 ∧
        (release part (.within key grant) outcome latency).2 =
          (release whole (.within key grant) outcome latency).2
      simp only [release, agree.child]
      cases Table.at? whole.children key with
      | none => exact ⟨agree, rfl⟩
      | some child => exact ⟨agree.putChild _, rfl⟩
  release_other {whole part} agree grant outcome latency outside := by
    cases grant with
    | unlimited => exact agree
    | within key grant =>
      change AgreeOn _ _ (release whole (.within key grant) outcome latency).1 part
      simp only [release]
      cases Table.at? whole.children key with
      | none => exact agree
      | some child => exact agree.putChild_other (of_decide_eq_false outside) _

end Separation

lemma create_agreeOn {config : Partitioning C} {make : Nat → Except Fault κ}
    {limiter : Partitioned C κ} (built : Partitioned.create config make = .ok limiter)
    (name : String) : AgreeOn config name limiter limiter := by
  have sameConfig : limiter.config = config := by
    obtain ⟨_, -, rfl⟩ := exists_of_map_eq_ok built
    rfl
  exact ⟨sameConfig, sameConfig, rfl, rfl⟩

end Partitioned

open Partitioned

/-- A configured partition is isolated, unless it is the fallback. If the names under which callers
act tell those of the partition from all others, then leaving out everything which the others do,
but for the passing of time, changes no answer which a caller of the partition gets and leaves
the partition's child in the same state. -/
theorem partition_is_isolated [Limiter C κ G W] {config : Partitioning C}
    {make : Nat → Except Fault κ} {limiter : Partitioned C κ}
    (built : Partitioned.create config make = .ok limiter) {name : String}
    (configured : config.isConfigured name = true)
    (not_target : config.fallback ≠ .partition name) {ours : String → Bool}
    {actions : List (Action C)}
    (apart : ∀ action ∈ actions,
      action.KeepsApart (fun ctx => decide (config.key? ctx = some name)) ours) :
    let own := actions.filter (Action.concerns ours)
    (start limiter).answers own = (start limiter).answersTo ours actions ∧
      Table.at? ((start limiter).after own).limiter.children name =
        Table.at? ((start limiter).after actions).limiter.children name := by
  intro own
  have separates : (config.side name).Separates (AgreeOn (κ := κ) config name) :=
    agreeOn_separates configured not_target
  have together : Session.Parallel (AgreeOn config name) (config.side (G := G) (W := W) name) ours
      (start limiter) (start limiter) := .start (create_agreeOn built name)
  obtain ⟨parallel, answers⟩ := together.after separates apart
  exact ⟨answers, parallel.limiter.child⟩

/-- Two partitions of one permit each, in which callers wait for five units of time. -/
def twoLines : Partitioning TaskLabel where
  limit := 2
  weights := [("main", .finite Double.one), ("side", .finite Double.one)]
  resolver := some TaskLabel.key?
  fallback := .partition "side"
  unlisted := none

def twoLinesLimiter : Partitioned TaskLabel (Waiting RuleGate) where
  config := twoLines
  make share := (silentGate share).map (Waiting.create · (some 5))
  children := []
  made := []
  unlistedCount := 0

/-- Both partitions fill up, and somebody waits in each; one wait is over by the time the other
caller is let in. -/
def bothLines : List (Action TaskLabel) :=
  [.acquire "a" ⟨some "main"⟩ false, .acquire "x" ⟨some "side"⟩ false, .acquire "y" ⟨none⟩ false,
    .advance 4, .acquire "b" ⟨some "main"⟩ false, .advance 2, .poll "y", .resolve "a" .success,
    .poll "b", .acquire "c" ⟨some "main"⟩ true, .resolve "x" .dropped]

/-- The one who waits in the partition at the end waits without the others, too. -/
theorem partition_is_isolated_from_another_line :
    let ours := fun id => decide (id ∈ ["a", "b", "c"])
    let child := fun actions : List (Action TaskLabel) =>
      Table.at? ((start twoLinesLimiter).after actions).limiter.children "main"
    (∀ action ∈ bothLines,
      action.KeepsApart (fun ctx => decide (twoLines.key? ctx = some "main")) ours) ∧
    (child bothLines).map (·.queue.waiters.length) = some 1 ∧
    (start twoLinesLimiter).answers (bothLines.filter (Action.concerns ours)) =
      (start twoLinesLimiter).answersTo ours bothLines ∧
    child (bothLines.filter (Action.concerns ours)) = child bothLines := by
  intro ours child
  have built : Partitioned.create twoLines twoLinesLimiter.make = .ok twoLinesLimiter := rfl
  have apart : ∀ action ∈ bothLines,
      action.KeepsApart (fun ctx => decide (twoLines.key? ctx = some "main")) ours := by
    decide +kernel
  have configured : twoLines.isConfigured "main" = true := rfl
  have isolated := partition_is_isolated built configured nofun apart
  exact ⟨apart, by decide +kernel, isolated⟩

end Admission

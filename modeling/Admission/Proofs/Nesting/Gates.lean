import Admission.Proofs.Limiter
import Admission.Proofs.Nesting.Agreement
import Admission.Proofs.Partition.Routing

/-!
# The gates of a nested limiter

A nested limiter has a gate in every partition of its partitions. Whatever is asked of the limiter,
each of its gates is left alone, lets one job in, or sees one job leave; and gates are made, one in
each new partition, where nobody has been yet.
-/

namespace Admission

open Function (update)

variable {C α L G W : Type}

/-- The gates which there are, by the keys of the partitions which lead to them, the outermost
first. -/
abbrev Gates (α : Type) : Type := List String → Option (Gate α)

namespace Gates

variable {P : Gate α → Prop} {before middle after : Gates α}

/-- All gates are as they were, but for new ones, of which `P` is true. -/
def Grows (P : Gate α → Prop) (before after : Gates α) : Prop :=
  ∀ path, after path = before path ∨
    before path = none ∧ ∃ gate, after path = some gate ∧ P gate

/-- A job has got in at a gate, if there is one to which it was sent. -/
inductive Enters (before : Gates α) : Option (List String) → Gates α → Prop
  | nowhere : Enters before none before
  | gate {path : List String} {gate entered : Gate α} (known : before path = some gate)
      (enters : gate.enter? = some entered) :
      Enters before (some path) (update before path (some entered))

/-- A caller has been let in at a gate, or has not. -/
def Takes (P : Gate α → Prop) (before : Gates α) (place : Option (List String))
    (after : Gates α) : Prop :=
  ∃ grown, Grows P before grown ∧ Enters grown place after

/-- A job has left the gate at which it got in. -/
inductive Leaves [Algorithm α] (before : Gates α) (outcome : Outcome) (latency : Nat) :
    Option (List String) → Gates α × Option Fault → Prop
  | outside : Leaves before outcome latency none (before, none)
  | nowhere {path : List String} (absent : before path = none) :
      Leaves before outcome latency (some path) (before, none)
  | gate {path : List String} {gate : Gate α} (known : before path = some gate) :
      Leaves before outcome latency (some path)
        (update before path (some (gate.leave outcome latency).1), (gate.leave outcome latency).2)

/-- The gates in the partition of a key are others. -/
def within (gates : Gates α) (key : String) (inside : Gates α) : Gates α
  | [] => gates []
  | other :: path => if other = key then inside path else gates (other :: path)

/-- One if somebody is at the gate, and nobody if not. -/
def here (place : Option (List String)) (path : List String) : Nat :=
  if place = some path then 1 else 0

@[simp] lemma here_none (path : List String) : here none path = 0 := rfl

lemma here_self (path : List String) : here (some path) path = 1 := if_pos rfl

lemma here_of_ne {path other : List String} (ne : other ≠ path) : here (some path) other = 0 :=
  if_neg fun same => ne (Option.some.inj same).symm

section Within

variable {gates inside inside' : Gates α} {key : String} {place : Option (List String)}

lemma within_self (gates inside : Gates α) (key : String) (path : List String) :
    gates.within key inside (key :: path) = inside path := if_pos rfl

lemma within_of_ne (gates inside : Gates α) {key other : String} (ne : other ≠ key)
    (path : List String) : gates.within key inside (other :: path) = gates (other :: path) :=
  if_neg ne

lemma within_eq_self (same : ∀ path, inside path = gates (key :: path)) :
    gates.within key inside = gates := by
  funext path
  cases path with
  | nil => rfl
  | cons other path =>
    by_cases here : other = key
    · subst here
      exact (within_self gates inside other path).trans (same path)
    · exact within_of_ne gates inside here path

lemma within_update (gates inside : Gates α) (key : String) (path : List String)
    (gate : Option (Gate α)) :
    gates.within key (update inside path gate) =
      update (gates.within key inside) (key :: path) gate := by
  funext other
  cases other with
  | nil => exact (Function.update_of_ne (List.cons_ne_nil key path).symm _ _).symm
  | cons first rest =>
    by_cases here : first = key
    · subst here
      by_cases same : rest = path
      · subst same
        rw [within_self, Function.update_self, Function.update_self]
      · have apart : first :: rest ≠ first :: path := by simpa using same
        rw [within_self, Function.update_of_ne same, Function.update_of_ne apart, within_self]
    · have apart : first :: rest ≠ key :: path := by simp [here]
      rw [within_of_ne _ _ here, Function.update_of_ne apart, within_of_ne _ _ here]

lemma Grows.refl (before : Gates α) : Grows P before before := fun _ => .inl rfl

lemma Grows.trans (early : Grows P before middle) (late : Grows P middle after) :
    Grows P before after := by
  intro path
  rcases late path with same | ⟨unknown, new⟩
  · rw [same]
    exact early path
  · rcases early path with same | ⟨_, gate, known, _⟩
    · exact .inr ⟨same ▸ unknown, new⟩
    · rw [unknown] at known
      nomatch known

lemma Grows.kept (grows : Grows P before after) {path : List String} {gate : Gate α}
    (known : before path = some gate) : after path = some gate := by
  rcases grows path with same | ⟨absent, -⟩
  · exact same.trans known
  · cases absent.symm.trans known

lemma Grows.within (grows : Grows P inside inside') :
    Grows P (gates.within key inside) (gates.within key inside') := by
  intro path
  cases path with
  | nil => exact .inl rfl
  | cons other path =>
    by_cases here : other = key
    · subst here
      rw [within_self, within_self]
      exact grows path
    · rw [within_of_ne _ _ here, within_of_ne _ _ here]
      exact .inl rfl

lemma Enters.within (enters : Enters inside place inside') :
    Enters (gates.within key inside) (place.map (key :: ·)) (gates.within key inside') := by
  cases enters with
  | nowhere => exact .nowhere
  | gate known enters =>
    rw [within_update]
    exact .gate ((within_self _ _ _ _).trans known) enters

lemma Takes.refl (before : Gates α) : Takes P before none before :=
  ⟨before, Grows.refl before, .nowhere⟩

/-- Whoever is not let in changes nothing at the gates there are. -/
lemma Takes.kept (takes : Takes P before none after) {path : List String} {gate : Gate α}
    (known : before path = some gate) : after path = some gate := by
  obtain ⟨grown, grows, enters⟩ := takes
  cases enters
  exact grows.kept known

lemma Takes.within (takes : Takes P inside place inside') :
    Takes P (gates.within key inside) (place.map (key :: ·)) (gates.within key inside') := by
  obtain ⟨grown, grows, enters⟩ := takes
  exact ⟨gates.within key grown, grows.within, enters.within⟩

lemma Takes.of_grows (grows : Grows P before middle) (takes : Takes P middle place after) :
    Takes P before place after := by
  obtain ⟨grown, later, enters⟩ := takes
  exact ⟨grown, grows.trans later, enters⟩

lemma Leaves.within [Algorithm α] {outcome : Outcome} {latency : Nat} {fault : Option Fault}
    (leaves : Leaves inside outcome latency place (inside', fault)) (gates : Gates α)
    (key : String) : Leaves (gates.within key inside) outcome latency (place.map (key :: ·))
      (gates.within key inside', fault) := by
  cases leaves with
  | outside => exact .outside
  | nowhere absent => exact .nowhere ((within_self _ _ _ _).trans absent)
  | gate known =>
    rw [within_update]
    exact .gate ((within_self _ _ _ _).trans known)

end Within

end Gates

variable [Algorithm α] {lim : Limiter C L G W}

namespace Nesting

/-- The gates in a limiter. -/
def gates {L G W : Type} {lim : Limiter C L G W} : Nesting C α lim → L → Gates α
  | gate, limiter, [] => some limiter
  | gate, _, _ :: _ => none
  | waiting inner, limiter, path => inner.gates limiter.inner path
  | partitioned _, _, [] => none
  | partitioned child, limiter, key :: path =>
    (Table.at? limiter.children key).bind (child.gates · path)

/-- The keys which lead to the gate at which the job of a grant got in, if it got in at one. -/
def path? {L G W : Type} {lim : Limiter C L G W} : Nesting C α lim → G → Option (List String)
  | gate, _ => some []
  | waiting inner, grant => inner.path? grant
  | partitioned _, .unlimited => none
  | partitioned child, .within key grant => (child.path? grant).map (key :: ·)

/-- Of the gates which the limiter goes on to make `P` is true. -/
def Breeds (P : Gate α → Prop) {L G W : Type} {lim : Limiter C L G W} :
    Nesting C α lim → L → Prop
  | gate, _ => True
  | waiting inner, limiter => inner.Breeds P limiter.inner
  | partitioned child, limiter =>
    (∀ share inner, limiter.make share = .ok inner →
      child.Breeds P inner ∧ ∀ path gate, child.gates inner path = some gate → P gate) ∧
    ∀ key inner, Table.at? limiter.children key = some inner → child.Breeds P inner

/-- A limiter which has just been made, of whose gates `P` is true, those included which it goes on
to make. -/
def IsBuilt (P : Gate α → Prop) {L G W : Type} {lim : Limiter C L G W} :
    Nesting C α lim → L → Prop
  | gate, limiter => P limiter
  | waiting inner, limiter =>
    ∃ made timeout, limiter = Waiting.create made timeout ∧ inner.IsBuilt P made
  | partitioned child, limiter =>
    ∃ config make, Partitioned.create config make = .ok limiter ∧
      ∀ share inner, make share = .ok inner → child.IsBuilt P inner

variable {P : Gate α → Prop}

lemma IsBuilt.breeds {nest : Nesting C α lim} {limiter : L} (built : nest.IsBuilt P limiter) :
    nest.Breeds P limiter ∧ ∀ path gate, nest.gates limiter path = some gate → P gate := by
  induction nest with
  | gate =>
    refine ⟨trivial, fun path gate known => ?_⟩
    cases path with
    | nil =>
      cases known
      exact built
    | cons key path => cases known
  | waiting inner ih =>
    obtain ⟨made, timeout, rfl, fresh⟩ := built
    exact ih fresh
  | partitioned child ih =>
    obtain ⟨config, make, created, fresh⟩ := built
    obtain rfl := Partitioned.of_create created
    refine ⟨⟨fun share inner made => ih (fresh share inner made), nofun⟩, fun path gate known => ?_⟩
    cases path <;> cases known

section Partitions

variable {child : Nesting C α lim} {limiter after : Partitioned C L} {key : String} {inner later : L}
  {place : Option (List String)}

lemma gates_of_changes (changes : limiter.Changes key later after) :
    (partitioned child).gates after =
      ((partitioned child).gates limiter).within key (child.gates later) := by
  funext path
  cases path with
  | nil => rfl
  | cons other path =>
    by_cases here : other = key
    · subst here
      rw [Gates.within_self, gates, changes.1, Option.bind_some]
    · rw [Gates.within_of_ne _ _ here, gates, changes.2 other here, gates]

lemma within_of_known (known : Table.at? limiter.children key = some inner) :
    ((partitioned child).gates limiter).within key (child.gates inner) =
      (partitioned child).gates limiter := by
  refine Gates.within_eq_self fun path => ?_
  rw [gates, known, Option.bind_some]

lemma Breeds.changes (breeds : (partitioned child).Breeds P limiter)
    (changes : limiter.Changes key later after) (make : after.make = limiter.make)
    (inside : child.Breeds P later) : (partitioned child).Breeds P after := by
  refine ⟨make ▸ breeds.1, fun other inner known => ?_⟩
  by_cases here : other = key
  · subst here
    cases changes.1.symm.trans known
    exact inside
  · exact breeds.2 other inner ((changes.2 other here).symm.trans known)

/-- The child of a key may have come to be just now, and then its gates have. -/
lemma Breeds.hasOrGets (breeds : (partitioned child).Breeds P limiter)
    (has : limiter.HasOrGets key inner) :
    child.Breeds P inner ∧ Gates.Grows P ((partitioned child).gates limiter)
      (((partitioned child).gates limiter).within key (child.gates inner)) := by
  rcases has with known | ⟨unknown, share, made⟩
  · rw [within_of_known known]
    exact ⟨breeds.2 key inner known, Gates.Grows.refl _⟩
  · obtain ⟨inside, fresh⟩ := breeds.1 share inner made
    refine ⟨inside, fun path => ?_⟩
    cases path with
    | nil => exact .inl rfl
    | cons other path =>
      by_cases here : other = key
      · subst here
        have absent : (partitioned child).gates limiter (other :: path) = none := by
          rw [gates, unknown, Option.bind_none]
        rw [Gates.within_self, absent]
        cases gate : child.gates inner path with
        | none => exact .inl rfl
        | some gate' => exact .inr ⟨rfl, gate', rfl, fresh path gate' gate⟩
      · exact .inl (Gates.within_of_ne _ _ here path)

end Partitions

/-- A caller has got a grant, or has not, and of the gates which have been made meanwhile or may be
made later `P` is true. -/
def LetsIn (P : Gate α → Prop) (nest : Nesting C α lim) (before : L) (grant : Option G)
    (after : L) : Prop :=
  nest.Breeds P after ∧ Gates.Takes P (nest.gates before) (grant.bind nest.path?) (nest.gates after)

lemma Breeds.same {nest : Nesting C α lim} {limiter : L} (breeds : nest.Breeds P limiter) :
    nest.LetsIn P limiter none limiter :=
  ⟨breeds, Gates.Takes.refl _⟩

section Partitions

variable {child : Nesting C α lim} {limiter next after : Partitioned C L} {key : String}
  {inner later : L} {grant : Option G} {ctx : C}

/-- Whom a child lets in has been let in to its partition. -/
lemma Breeds.put (breeds : (partitioned child).Breeds P limiter)
    (has : limiter.HasOrGets key inner) (changes : limiter.Changes key later after)
    (make : after.make = limiter.make)
    (inside : child.Breeds P inner → child.LetsIn P inner grant later) :
    (partitioned child).LetsIn P limiter (grant.map (.within key)) after := by
  obtain ⟨breeds_inner, grows⟩ := breeds.hasOrGets has
  obtain ⟨breeds_later, takes⟩ := inside breeds_inner
  have place : (grant.map (PartitionGrant.within key)).bind (partitioned child).path? =
      (grant.bind child.path?).map (key :: ·) := by
    cases grant <;> rfl
  unfold LetsIn
  rw [place, gates_of_changes changes]
  exact ⟨breeds.changes changes make breeds_later, takes.within.of_grows grows⟩

lemma Breeds.routed (breeds : (partitioned child).Breeds P limiter)
    (routed : limiter.route ctx = (next, .ok (.partition key inner)))
    (inside : child.Breeds P inner → child.LetsIn P inner grant later) :
    (partitioned child).LetsIn P limiter (grant.map (.within key)) (next.putChild key later) := by
  have resolves := Partitioned.resolves_of_route routed
  exact breeds.put resolves.hasOrGets (resolves.changes later) resolves.make inside

lemma Breeds.sameChildren (breeds : (partitioned child).Breeds P limiter)
    (children : next.children = limiter.children) (make : next.make = limiter.make) :
    (partitioned child).LetsIn P limiter none next := by
  have same : (partitioned child).gates next = (partitioned child).gates limiter := by
    funext path
    cases path with
    | nil => rfl
    | cons key path => rw [gates, gates, children]
  refine ⟨⟨make ▸ breeds.1, children ▸ breeds.2⟩, ?_⟩
  rw [same]
  exact Gates.Takes.refl _

/-- A caller who is not sent to a partition gets nothing from a gate. -/
lemma Breeds.notRouted (breeds : (partitioned child).Breeds P limiter)
    {route : Except Fault (Route L)} (routed : limiter.route ctx = (next, route))
    (outside : ∀ key inner, route ≠ .ok (.partition key inner)) :
    (partitioned child).LetsIn P limiter none next := by
  have routes := Partitioned.route_routes limiter ctx
  rw [routed] at routes
  cases routes with
  | own | fallback => exact absurd rfl (outside _ _)
  | unlimited | rejected | nowhere => exact breeds.same
  | ownFault _ resolves | fallbackFault _ _ resolves =>
    cases resolves with
    | fault => exact breeds.sameChildren rfl rfl

lemma granted?_within (answer : Except Fault (Option G)) (key : String) :
    granted? (answer.map (Option.map (PartitionGrant.within key))) =
      (granted? answer).map (.within key) := by
  cases answer <;> rfl

lemma admitted?_within (answer : Except Fault (Progress G W)) (key : String) :
    admitted? (answer.map (Partitioned.within key)) = (admitted? answer).map (.within key) := by
  rcases answer with _ | _ | _ | _ <;> rfl

end Partitions

lemma gates_gate (before after : Gate α) :
    (gate : Nesting C α _).gates after =
      update ((gate : Nesting C α _).gates before) [] (some after) := by
  funext path
  cases path with
  | nil =>
    rw [Function.update_self]
    rfl
  | cons key path =>
    rw [Function.update_of_ne (List.cons_ne_nil key path)]
    rfl

/-- A gate lets in whom it has a permit for. -/
lemma letsIn_gate (limiter : Gate α) (ctx : C) :
    (gate : Nesting C α _).LetsIn P limiter (granted? (Limiter.acquireNow limiter ctx).2)
      (Limiter.acquireNow limiter ctx).1 := by
  simp only [Limiter.acquireNow]
  cases enters : limiter.enter? with
  | none => exact Breeds.same trivial
  | some entered =>
    refine ⟨trivial, _, Gates.Grows.refl _, ?_⟩
    rw [gates_gate limiter entered]
    exact .gate rfl enters

theorem Breeds.acquireNow {nest : Nesting C α lim} {limiter : L} (breeds : nest.Breeds P limiter)
    (ctx : C) : nest.LetsIn P limiter (granted? (Limiter.acquireNow limiter ctx).2)
      (Limiter.acquireNow limiter ctx).1 := by
  induction nest with
  | gate => exact letsIn_gate limiter ctx
  | waiting inner ih =>
    rcases asked : Limiter.acquireNow limiter ctx with ⟨next, answer⟩
    rcases Waiting.acquireNow_cases asked with ⟨-, rfl, rfl⟩ | ⟨now_inside, -, answered, rfl⟩
    · exact breeds.same
    · have inside := ih breeds
      rw [answered] at inside
      exact inside
  | partitioned child ih =>
    change (partitioned child).LetsIn P limiter (granted? (limiter.acquireNow ctx).2)
      (limiter.acquireNow ctx).1
    rcases routed : limiter.route ctx with ⟨next, fault | ⟨key, inner⟩ | _ | _⟩
    · rw [Partitioned.acquireNow_fault routed]
      exact breeds.notRouted routed nofun
    · rw [Partitioned.acquireNow_partition routed, granted?_within]
      exact breeds.routed routed ih
    · rw [Partitioned.acquireNow_unlimited routed]
      exact breeds.notRouted routed nofun
    · rw [Partitioned.acquireNow_reject routed]
      exact breeds.notRouted routed nofun

lemma LetsIn.of_inner {nest : Nesting C α lim} {before after : Waiting L} {inner : L}
    {grant : Option G} (letsIn : nest.LetsIn P before.inner grant inner)
    (same : after.inner = inner) : nest.waiting.LetsIn P before grant after := by
  subst same
  exact letsIn

lemma remain_letsIn {nest : Nesting C α lim} {before limiter : Waiting L}
    (letsIn : nest.waiting.LetsIn P before none limiter) (place : Place) (now : Nat) :
    nest.waiting.LetsIn P before (admitted? (limiter.remain (G := G) place now).2)
      (limiter.remain (G := G) place now).1 := by
  generalize remains : limiter.remain (G := G) place now = result
  obtain ⟨after, answer⟩ := result
  rcases Waiting.remain_cases remains with ⟨rfl, rfl⟩ | ⟨rfl, rfl⟩ <;> exact letsIn

theorem Breeds.acquire {nest : Nesting C α lim} {limiter : L} (breeds : nest.Breeds P limiter)
    (ctx : C) (now : Nat) : nest.LetsIn P limiter (admitted? (Limiter.acquire limiter ctx now).2)
      (Limiter.acquire limiter ctx now).1 := by
  induction nest with
  | gate =>
    have letsIn := letsIn_gate (P := P) limiter ctx
    rw [Gate.acquire_eq]
    generalize Limiter.acquireNow limiter ctx = asked at letsIn ⊢
    obtain ⟨next, _ | _ | _⟩ := asked <;> exact letsIn
  | waiting inner ih =>
    have letsIn := breeds.acquireNow ctx
    rw [Waiting.acquire_eq]
    generalize Limiter.acquireNow limiter ctx = asked at letsIn ⊢
    obtain ⟨next, _ | _ | _⟩ := asked
    · exact letsIn
    · have joins : inner.waiting.LetsIn P limiter none
          { next with queue := next.queue.joinBack.1 } := letsIn
      exact remain_letsIn joins _ now
    · exact letsIn
  | partitioned child ih =>
    change (partitioned child).LetsIn P limiter (admitted? (limiter.acquire ctx now).2)
      (limiter.acquire ctx now).1
    rcases routed : limiter.route ctx with ⟨next, fault | ⟨key, inner⟩ | _ | _⟩
    · rw [Partitioned.acquire_fault routed]
      exact breeds.notRouted routed nofun
    · rw [Partitioned.acquire_partition routed, admitted?_within]
      exact breeds.routed routed ih
    · rw [Partitioned.acquire_unlimited routed]
      exact breeds.notRouted routed nofun
    · rw [Partitioned.acquire_reject routed]
      exact breeds.notRouted routed nofun

theorem Breeds.poll {nest : Nesting C α lim} {limiter : L} (breeds : nest.Breeds P limiter)
    (ctx : C) (place : W) (now : Nat) :
    nest.LetsIn P limiter (admitted? (Limiter.poll limiter ctx place now).2)
      (Limiter.poll limiter ctx place now).1 := by
  induction nest with
  | gate => exact nomatch place
  | waiting inner ih =>
    have inside : inner.Breeds P limiter.inner := breeds
    have letsIn := inside.acquireNow ctx
    rcases polled : Limiter.poll limiter ctx place now with ⟨next, answer⟩
    rcases Waiting.poll_cases polled with ⟨-, remains⟩ | ⟨-, next_inside, ⟨fault, asked, rfl, rfl⟩ |
      ⟨grant, asked, rfl, rfl⟩ | ⟨asked, remains⟩⟩
    · have stays := remain_letsIn breeds.same place now
      rw [remains] at stays
      exact stays
    · rw [asked] at letsIn
      exact letsIn.of_inner rfl
    · rw [asked] at letsIn
      exact letsIn.of_inner rfl
    · rw [asked] at letsIn
      have waits : inner.waiting.LetsIn P limiter none { limiter with
          inner := next_inside, queue := (limiter.queue.use place.ticket).joinFront.1 } :=
        letsIn.of_inner rfl
      have stays := remain_letsIn waits { place with ticket := limiter.queue.nextTicket } now
      rw [remains] at stays
      exact stays
  | partitioned child ih =>
    change (partitioned child).LetsIn P limiter (admitted? (limiter.poll ctx place now).2)
      (limiter.poll ctx place now).1
    unfold Partitioned.poll
    cases known : Table.at? limiter.children place.1 with
    | none => exact breeds.same
    | some inner =>
      dsimp only
      rw [admitted?_within]
      exact breeds.put (.inl known) (Partitioned.changes_putChild _ _ _) rfl
        fun inside => ih inside place.2

theorem Breeds.abandon {nest : Nesting C α lim} {limiter : L} (breeds : nest.Breeds P limiter)
    (place : W) : nest.LetsIn P limiter none (Limiter.abandon C limiter place) := by
  induction nest with
  | gate => exact breeds.same
  | waiting inner ih => exact breeds.same
  | partitioned child ih =>
    change (partitioned child).LetsIn P limiter none (limiter.abandon (C := C) place)
    unfold Partitioned.abandon
    cases known : Table.at? limiter.children place.1 with
    | none => exact breeds.same
    | some inner =>
      have letsIn := breeds.put (.inl known) (Partitioned.changes_putChild limiter place.1 _) rfl
        fun inside => ih inside place.2
      exact letsIn

/-- A job leaves the gate at which it got in, if there is one; nothing else is changed. -/
theorem Breeds.release {nest : Nesting C α lim} {limiter : L} (breeds : nest.Breeds P limiter)
    (grant : G) (outcome : Outcome) (latency : Nat) :
    nest.Breeds P (Limiter.release C limiter grant outcome latency).1 ∧
      Gates.Leaves (nest.gates limiter) outcome latency (nest.path? grant)
        (nest.gates (Limiter.release C limiter grant outcome latency).1,
          (Limiter.release C limiter grant outcome latency).2) := by
  induction nest with
  | gate =>
    refine ⟨trivial, ?_⟩
    rw [gates_gate limiter (Limiter.release C limiter grant outcome latency).1]
    exact .gate rfl
  | waiting inner ih =>
    have released := ih breeds grant
    simp only [Limiter.release, Waiting.release]
    generalize Limiter.release C limiter.inner grant outcome latency = result at released ⊢
    obtain ⟨next, _ | fault⟩ := result <;> exact released
  | partitioned child ih =>
    change (partitioned child).Breeds P (limiter.release grant outcome latency).1 ∧
      Gates.Leaves _ outcome latency _ ((partitioned child).gates
        (limiter.release grant outcome latency).1, (limiter.release grant outcome latency).2)
    cases grant with
    | unlimited => exact ⟨breeds, .outside⟩
    | within key grant =>
      unfold Partitioned.release
      dsimp only [path?]
      cases known : Table.at? limiter.children key with
      | none =>
        refine ⟨breeds, ?_⟩
        cases child.path? grant with
        | none => exact .outside
        | some path =>
          have absent : (partitioned child).gates limiter (key :: path) = none := by
            rw [gates, known, Option.bind_none]
          exact .nowhere absent
      | some inner =>
        obtain ⟨breeds_later, leaves⟩ := ih (breeds.2 key inner known) grant
        have changes := Partitioned.changes_putChild limiter key
          (Limiter.release C inner grant outcome latency).1
        refine ⟨breeds.changes changes rfl breeds_later, ?_⟩
        have around := leaves.within ((partitioned child).gates limiter) key
        rw [within_of_known known] at around
        rw [gates_of_changes changes]
        exact around

end Nesting
end Admission

import Admission.Proofs.Nesting.Gates
import Admission.Proofs.Partition.Belonging

/-!
# The way to a gate

A caller who has been let in at a gate is sent to that gate again, as long as nothing else happens.
The same is true of a caller who has been waiting: whatever has happened meanwhile, the caller waits
where the next job of the same kind would be sent.
-/

namespace Admission.Nesting

open Limiter (Uses)

variable {C α L G W : Type} [Algorithm α] {lim : Limiter C L G W}

/-- Whoever asks with a context is sent to the gate to which these keys lead. -/
def Leads {L G W : Type} {lim : Limiter C L G W} : Nesting C α lim → L → C → List String → Prop
  | gate, _, _, path => path = []
  | waiting inner, limiter, ctx, path => inner.Leads limiter.inner ctx path
  | partitioned _, _, _, [] => False
  | partitioned child, limiter, ctx, key :: path => limiter.Belongs ctx key ∧
    ∃ inner, Table.at? limiter.children key = some inner ∧ child.Leads inner ctx path

/-- The place is one in which somebody with the context waits: it is in the partition to which such
callers belong. -/
def Awaits {L G W : Type} {lim : Limiter C L G W} : Nesting C α lim → L → C → W → Prop
  | gate, _, _, _ => False
  | waiting _, _, _, _ => True
  | partitioned child, limiter, ctx, place => limiter.Belongs ctx place.1 ∧
    ∃ inner, Table.at? limiter.children place.1 = some inner ∧ child.Awaits inner ctx place.2

section Leads

variable {nest : Nesting C α lim} {limiter next : L} {ctx : C} {path : List String} {grant : G}

/-- The way on which somebody has been let in. -/
theorem leads_of_granted (asked : Limiter.acquireNow limiter ctx = (next, .ok (some grant)))
    (got : nest.path? grant = some path) : nest.Leads next ctx path := by
  induction nest generalizing path with
  | gate => exact (Option.some.inj got).symm
  | waiting inner ih =>
    obtain ⟨now_inside, -, asked_inside, rfl⟩ := Waiting.acquireNow_granted asked
    exact ih asked_inside got
  | partitioned child ih =>
    cases grant with
    | unlimited => cases got
    | within key inner_grant =>
      obtain ⟨rest, inner_got, rfl⟩ := Option.map_eq_some_iff.mp got
      obtain ⟨middle, inner, routed, granted, rfl⟩ := Partitioned.granted_within asked
      exact ⟨Partitioned.belongs_putChild routed _, _, Table.at?_put_self _ _ _,
        ih (Prod.ext rfl granted) inner_got⟩

/-- Whoever asks again at once is let in at the same gate or nowhere. -/
theorem Leads.acquireNow (leads : nest.Leads limiter ctx path) :
    nest.Leads (Limiter.acquireNow limiter ctx).1 ctx path ∧
      ((Limiter.acquireNow limiter ctx).2 = .ok none ∨ ∃ grant,
        (Limiter.acquireNow limiter ctx).2 = .ok (some grant) ∧ nest.path? grant = some path) := by
  induction nest generalizing path with
  | gate =>
    obtain rfl : path = [] := leads
    refine ⟨rfl, ?_⟩
    simp only [Limiter.acquireNow]
    cases limiter.enter? with
    | none => exact .inl rfl
    | some entered => exact .inr ⟨(), rfl, rfl⟩
  | waiting inner ih =>
    rcases asked : Limiter.acquireNow limiter ctx with ⟨next, answer⟩
    rcases Waiting.acquireNow_cases asked with ⟨-, rfl, rfl⟩ | ⟨now_inside, -, answered, rfl⟩
    · exact ⟨leads, .inl rfl⟩
    · have way : inner.Leads limiter.inner ctx path := leads
      have inside := ih way
      rw [answered] at inside
      exact inside
  | partitioned child ih =>
    cases path with
    | nil => exact leads.elim
    | cons key rest =>
      obtain ⟨belongs, inner, known, way⟩ := leads
      have routed := Partitioned.route_of_belongs belongs known
      change (partitioned child).Leads (limiter.acquireNow ctx).1 ctx (key :: rest) ∧
        ((limiter.acquireNow ctx).2 = .ok none ∨ ∃ grant, (limiter.acquireNow ctx).2 =
          .ok (some grant) ∧ (partitioned child).path? grant = some (key :: rest))
      rw [Partitioned.acquireNow_partition routed]
      obtain ⟨later_way, answers⟩ := ih way
      refine ⟨⟨belongs.extends (Partitioned.extends_putChild known _), _,
        Table.at?_put_self _ _ _, later_way⟩, ?_⟩
      rcases answers with denied | ⟨grant, granted, got⟩
      · rw [denied]
        exact .inl rfl
      · rw [granted]
        exact .inr ⟨.within key grant, rfl, by rw [path?, got, Option.map_some]⟩

/-- The first look of somebody who is willing to wait goes the same way. -/
theorem leads_of_admitted {now : Nat}
    (looked : Limiter.acquire limiter ctx now = (next, .ok (.admitted grant)))
    (got : nest.path? grant = some path) : nest.Leads next ctx path := by
  have agrees := nest.agrees limiter ctx now
  rw [looked] at agrees
  generalize asked : Limiter.acquireNow limiter ctx = once at agrees
  cases agrees with
  | admitted => exact leads_of_granted asked got

end Leads

section Awaits

variable {nest : Nesting C α lim} {limiter next : L} {ctx : C} {place later : W} {now : Nat}

/-- Somebody who waits goes on to wait in the right place, whatever calls are made. -/
theorem Awaits.uses (awaits : nest.Awaits limiter ctx place) (uses : Uses C limiter next) :
    nest.Awaits next ctx place := by
  induction nest with
  | gate => exact awaits
  | waiting inner _ => trivial
  | partitioned child ih =>
    obtain ⟨belongs, inner, known, inside⟩ := awaits
    obtain ⟨grows, keeps⟩ := Partitioned.extends_uses uses
    obtain ⟨inner_later, known_later, inner_uses⟩ := keeps _ _ known
    exact ⟨belongs.extends grows, inner_later, known_later, ih inside inner_uses⟩

/-- Whoever is told to wait is given a place where such callers wait. -/
theorem awaits_of_acquire (looked : Limiter.acquire limiter ctx now = (next, .ok (.waiting place))) :
    nest.Awaits next ctx place := by
  induction nest with
  | gate => exact nomatch place
  | waiting inner _ => trivial
  | partitioned child ih =>
    obtain ⟨middle, inner, routed, waits, rfl⟩ := Partitioned.acquire_waiting looked
    exact ⟨Partitioned.belongs_putChild routed _, _, Table.at?_put_self _ _ _,
      ih (Prod.ext rfl waits)⟩

theorem Awaits.poll (awaits : nest.Awaits limiter ctx place)
    (polled : Limiter.poll limiter ctx place now = (next, .ok (.waiting later))) :
    nest.Awaits next ctx later := by
  induction nest with
  | gate => exact nomatch place
  | waiting inner _ => trivial
  | partitioned child ih =>
    obtain ⟨belongs, inner, known, inside⟩ := awaits
    change limiter.poll ctx place now = (next, .ok (.waiting later)) at polled
    rw [Partitioned.poll_of_known known] at polled
    obtain ⟨rfl, answered⟩ := Prod.mk.inj polled
    obtain ⟨inner_later, waits, rfl⟩ := Partitioned.within_waiting answered
    exact ⟨belongs.extends (Partitioned.extends_putChild known _), _, Table.at?_put_self _ _ _,
      ih inside (Prod.ext rfl waits)⟩

/-- Whoever is let in after having waited has found the way on which the next one is sent. -/
theorem Awaits.leads {grant : G} {path : List String} (awaits : nest.Awaits limiter ctx place)
    (polled : Limiter.poll limiter ctx place now = (next, .ok (.admitted grant)))
    (got : nest.path? grant = some path) : nest.Leads next ctx path := by
  induction nest generalizing path with
  | gate => exact nomatch place
  | waiting inner _ =>
    rcases Waiting.poll_cases polled with ⟨-, remains⟩ | ⟨-, next_inside, ⟨fault, -, wrong, -⟩ |
      ⟨other, asked, same, rfl⟩ | ⟨-, remains⟩⟩
    · exact absurd remains Waiting.not_remain_admitted
    · cases wrong
    · cases same
      have way : inner.Leads next_inside ctx path := leads_of_granted asked got
      exact way
    · exact absurd remains Waiting.not_remain_admitted
  | partitioned child ih =>
    obtain ⟨belongs, inner, known, inside⟩ := awaits
    change limiter.poll ctx place now = (next, .ok (.admitted grant)) at polled
    rw [Partitioned.poll_of_known known] at polled
    obtain ⟨rfl, answered⟩ := Prod.mk.inj polled
    obtain ⟨inner_grant, admitted, rfl⟩ := Partitioned.within_admitted answered
    obtain ⟨rest, inner_got, rfl⟩ := Option.map_eq_some_iff.mp got
    exact ⟨belongs.extends (Partitioned.extends_putChild known _), _, Table.at?_put_self _ _ _,
      ih inside (Prod.ext rfl admitted) inner_got⟩

end Awaits

end Admission.Nesting

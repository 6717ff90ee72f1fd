import Admission.Partitioned
import Admission.Waiting

/-!
# Nested limiters

Limiters are made by putting one into another, as often as one likes: at the bottom is a gate,
and each layer above it has callers wait or splits them into partitions. A nesting says how a type
of limiters has been made, so that what is true of all of them is shown layer by layer.
-/

namespace Admission

/-- How limiters of a type are nested, over gates with an algorithm of type `α`. -/
inductive Nesting (C α : Type) [Algorithm α] : {L G W : Type} → Limiter C L G W → Type 1
  | gate : Nesting C α (inferInstance : Limiter C (Gate α) Unit Empty)
  | waiting {L G W : Type} {lim : Limiter C L G W} (inner : Nesting C α lim) :
    Nesting C α (inferInstance : Limiter C (Waiting L) G Place)
  | partitioned {κ G W : Type} {lim : Limiter C κ G W} (child : Nesting C α lim) :
    Nesting C α (inferInstance : Limiter C (Partitioned C κ) (PartitionGrant G) (String × W))

namespace Nesting

variable {C α : Type} [Algorithm α]

/-- No layer on the way of a caller has callers wait. -/
def IsPrompt {L G W : Type} {lim : Limiter C L G W} : Nesting C α lim → L → C → Prop
  | gate, _, _ => True
  | waiting _, _, _ => False
  | partitioned child, limiter, ctx => ∀ key inner,
      (limiter.route ctx).2 = .ok (.partition key inner) → child.IsPrompt inner ctx

/-- No layer has callers wait. -/
def HasNoQueue {L G W : Type} {lim : Limiter C L G W} : Nesting C α lim → Prop
  | gate => True
  | waiting _ => False
  | partitioned child => child.HasNoQueue

/-- Where no layer has callers wait there is no place to wait in. -/
theorem HasNoQueue.no_place {L G W : Type} {lim : Limiter C L G W} {nest : Nesting C α lim}
    (prompt : nest.HasNoQueue) (place : W) : False := by
  induction nest with
  | gate => exact nomatch place
  | waiting inner _ => exact prompt
  | partitioned child ih => exact ih prompt place.2

end Nesting
end Admission

import Admission.Limiter

/-!
# What a limiter answers

Somebody who asks gets a grant or does not, whatever the way of asking; and somebody who waits may
go away.
-/

namespace Admission

variable {C L G W : Type}

/-- The grant which somebody has got who asked at once. -/
def granted? : Except Fault (Option G) → Option G
  | .ok grant => grant
  | .error _ => none

/-- The grant which somebody has got who is willing to wait. -/
def admitted? : Except Fault (Progress G W) → Option G
  | .ok (.admitted grant) => some grant
  | _ => none

/-- What is left of a limiter by somebody who asks or goes away, and the grant there was. -/
inductive Limiter.Answers (C : Type) [Limiter C L G W] : L → Option G → L → Prop
  | acquireNow (limiter : L) (ctx : C) : Answers C limiter
      (granted? (Limiter.acquireNow limiter ctx).2) (Limiter.acquireNow limiter ctx).1
  | acquire (limiter : L) (ctx : C) (now : Nat) : Answers C limiter
      (admitted? (Limiter.acquire limiter ctx now).2) (Limiter.acquire limiter ctx now).1
  | poll (limiter : L) (ctx : C) (place : W) (now : Nat) : Answers C limiter
      (admitted? (Limiter.poll limiter ctx place now).2) (Limiter.poll limiter ctx place now).1
  | abandon (limiter : L) (place : W) :
    Answers C limiter none (Limiter.abandon C limiter place)

end Admission

import Admission.Fault
import Admission.Gate
import Admission.Refusal
/-!
# Limiters

A limiter decides whether a caller may start a job. Asking at once gives a grant or nothing;
asking and waiting takes several looks at the limiter: a first one, and further ones whenever the
caller is woken. Whatever can be granted, the listener which the caller is given says through the
grant where a permit has to go back.

A limiter keeps its state in a value; every operation gives the next state, also where it ends in
a fault.
-/

namespace Admission

/-- What a look at a limiter came to for a caller who is willing to wait. -/
inductive Progress (G W : Type) where
  | admitted (grant : G)
  | refused (cause : Refusal)
  /-- The caller waits, at this place. -/
  | waiting (place : W)
  deriving DecidableEq, Repr

/-- What is shown of a limiter. -/
inductive LimiterView where
  | gate (state : GateView)
  | waiting (callers : Nat) (inner : LimiterView)
  | partitioned (unlisted : Nat) (partitions : List (String × LimiterView))
  deriving Repr

/-- A limiter of type `L` for callers described by a `C`. It gives grants of type `G` and has
callers wait in places of type `W`. -/
class Limiter (C L : Type) (G W : outParam Type) where
  /-- A grant, if there is capacity right now. -/
  acquireNow : L → C → L × Except Fault (Option G)
  /-- The first look of a caller who is willing to wait, at a time. -/
  acquire : L → C → Nat → L × Except Fault (Progress G W)
  /-- A further look of a caller who waits. -/
  poll : L → C → W → Nat → L × Except Fault (Progress G W)
  /-- The caller goes away without having been admitted. -/
  abandon : L → W → L
  /-- Whether the place holds a wake-up which the caller has not used. -/
  isWoken : L → W → Bool
  /-- The time at which the caller stops waiting. -/
  deadline? : W → Option Nat
  /-- The job of a grant is over, with an outcome and the time it ran. -/
  release : L → G → Outcome → Nat → L × Option Fault

/-- A limiter whose state can be shown. -/
class Observable (L : Type) where
  state : L → LimiterView

variable {C α : Type}

/-- A gate never makes anybody wait: without a free permit the caller is rejected. -/
instance [Algorithm α] : Limiter C (Gate α) Unit Empty where
  acquireNow gate _ :=
    match gate.enter? with
    | some gate => (gate, .ok (some ()))
    | none => (gate, .ok none)
  acquire gate _ _ :=
    match gate.enter? with
    | some gate => (gate, .ok (.admitted ()))
    | none => (gate, .ok (.refused .rejected))
  poll _ _ place _ := nomatch place
  abandon gate _ := gate
  isWoken _ place := nomatch place
  deadline? place := nomatch place
  release gate _ outcome latency := gate.leave outcome latency

instance : Observable (Gate α) where
  state gate := .gate gate.state

end Admission

import Admission.Algorithm.Metered
import Admission.Partitioned
import Admission.Waiting
/-!
# Instrumented limiters

Access to the algorithms inside a limiter: the samples they were given, and the next limit of
those which are told theirs.
-/

namespace Admission

/-- A limiter whose algorithms can be read and directed. -/
class Instrumented (L : Type) where
  /-- Gives every scripted algorithm its next limit. -/
  setNext : Nat → L → L
  samples : L → List Sample
  clear : L → L

instance : Instrumented (Gate (Metered Rule)) where
  setNext next gate :=
    { gate with algorithm := { gate.algorithm with
        algorithm := gate.algorithm.algorithm.setNext next } }
  samples gate := gate.algorithm.samples.getD []
  clear gate := { gate with algorithm := gate.algorithm.clear }

instance {L : Type} [Instrumented L] : Instrumented (Waiting L) where
  setNext next limiter := { limiter with inner := Instrumented.setNext next limiter.inner }
  samples limiter := Instrumented.samples limiter.inner
  clear limiter := { limiter with inner := Instrumented.clear limiter.inner }

instance {C κ : Type} [Instrumented κ] : Instrumented (Partitioned C κ) where
  setNext next limiter :=
    { limiter with children := limiter.children.map fun child =>
        (child.1, Instrumented.setNext next child.2) }
  samples limiter := limiter.children.flatMap fun child => Instrumented.samples child.2
  clear limiter :=
    { limiter with children := limiter.children.map fun child =>
        (child.1, Instrumented.clear child.2) }

end Admission

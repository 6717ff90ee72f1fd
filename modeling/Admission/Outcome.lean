/-!
# Outcomes

What a finished job says about the limit it ran under. A limit algorithm learns from the jobs
which succeeded or were dropped; an ignored job tells it nothing.
-/

namespace Admission

/-- How a job ended, as far as the limit is concerned. -/
inductive Outcome where
  /-- The job did its work: there may be room for more. -/
  | success
  /-- The job says nothing about the limit. -/
  | ignore
  /-- The job was lost to overload: the limit is too high. -/
  | dropped
  deriving DecidableEq, Repr

/-- What a limit algorithm is told about a finished job: how long it ran (in milliseconds), how
many jobs were in flight, itself included, and how it ended. -/
structure Sample where
  latency : Nat
  inFlight : Nat
  outcome : Outcome
  deriving DecidableEq, Repr

end Admission

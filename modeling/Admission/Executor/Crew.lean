import Admission.Executor.Pool
import Admission.Refusal
/-!
# Crews

Whoever carries out the jobs of an executor. Jobs go by the numbers of their tasks.
-/

namespace Admission.Executor

inductive Crew where
  | pool (staff : WorkerPool Nat)
  /-- Looks at every job once, at the moment of taking it, and keeps the ones which have not ended.
  Takes a number of jobs altogether. -/
  | eager (accept taken : Nat) (kept : List Nat)
  /-- Keeps single jobs without looking at them, and fails with every batch after having looked at
  the first of its jobs. -/
  | failing (start : Nat) (error : ExecutorFailure) (kept : List Nat)
  /-- Takes every job; what it does with the jobs is its own business. -/
  | unknown
  deriving Repr

inductive Staffing where
  | pool (workers capacity : Nat)
  | eager (accept : Nat)
  | failing (start : Nat) (error : ExecutorFailure)
  deriving DecidableEq, Repr

namespace Crew

def hire : Staffing → Except Fault Crew
  | .pool workers capacity => return .pool (← WorkerPool.create workers capacity)
  | .eager accept => .ok (.eager accept 0 [])
  | .failing start error => .ok (.failing start error [])

def workers : Crew → List Nat
  | .pool staff => List.range staff.workers.length
  | _ => []

def workersOn : Crew → Nat → List Nat
  | .pool staff, job => staff.workersOn job
  | _, _ => []

/-- Throws away the jobs which are kept outside of a pool: the crew, and those jobs. -/
def discard : Crew → Crew × List Nat
  | .pool staff => (.pool staff, [])
  | .eager accept taken kept => (.eager accept taken [], kept)
  | .failing start error kept => (.failing start error [], kept)
  | .unknown => (.unknown, [])

end Crew
end Admission.Executor

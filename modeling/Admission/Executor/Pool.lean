import Admission.Fault
/-!
# Worker pools

A bounded queue of jobs, and workers who take them out in the order in which they came. One
worker at a time has the turn to take the next job; it passes the turn on when it has one. The
others stand in line for the turn. A worker who has the turn and finds no job listens for the
next one.

This module holds the pool by itself: what the workers do with their jobs is left out.
-/

namespace Admission.Executor

/-- What a worker is doing. -/
inductive Occupation (J : Type) where
  | fresh
  | inLine
  | listening
  | busy (job : J)
  | gone
  deriving DecidableEq, Repr

/-- A worker, and whether it is to go away when it next gets to do something. -/
structure Worker (J : Type) where
  occupation : Occupation J
  dismissed : Bool
  deriving DecidableEq, Repr

/-- A pool of workers for jobs of type `J`. -/
structure WorkerPool (J : Type) where
  capacity : Nat
  queue : List J
  workers : List (Worker J)
  /-- The worker who has the turn. -/
  turn : Option Nat
  line : List Nat
  /-- The worker who is woken by the next job. -/
  listener : Option Nat
  closed : Bool
  deriving Repr

namespace WorkerPool

variable {J : Type}

/-- A pool with a number of workers and room for a number of waiting jobs. -/
def create (workers capacity : Nat) : Except Fault (WorkerPool J) :=
  if workers = 0 then .error .noWorkers
  else if capacity = 0 then .error .noQueue
  else if maxPermits < capacity then .error .tooManyPermits
  else .ok {
    capacity
    queue := []
    workers := List.replicate workers ⟨.fresh, false⟩
    turn := none
    line := []
    listener := none
    closed := false }

/-- Puts a job into the queue, if the pool is open and there is room: the pool, and the worker
who is woken. -/
def push? (pool : WorkerPool J) (job : J) : Option (WorkerPool J × Option Nat) :=
  if pool.closed || pool.capacity ≤ pool.queue.length then none
  else some ({ pool with queue := pool.queue ++ [job], listener := none }, pool.listener)

def setOccupation (pool : WorkerPool J) (worker : Nat) (occupation : Occupation J) :
    WorkerPool J :=
  { pool with workers := pool.workers.modify worker fun w => { w with occupation } }

def occupation (pool : WorkerPool J) (worker : Nat) : Occupation J :=
  (pool.workers[worker]?.map (·.occupation)).getD .gone

def isDismissed (pool : WorkerPool J) (worker : Nat) : Bool :=
  (pool.workers[worker]?.map (·.dismissed)).getD false

/-- Passes the turn to the first in line: the pool, and the worker who is woken. -/
def passTurn (pool : WorkerPool J) : WorkerPool J × Option Nat :=
  match pool.line with
  | [] => ({ pool with turn := none }, none)
  | next :: line => ({ pool with turn := some next, line }, some next)

/-- A worker without a job takes the turn, or stands in line for it; whether it has the turn. -/
def takeTurn (pool : WorkerPool J) (worker : Nat) : WorkerPool J × Bool :=
  match pool.turn with
  | none => ({ pool with turn := some worker }, true)
  | some _ =>
    ({ pool.setOccupation worker .inLine with line := pool.line ++ [worker] }, false)

/-- The worker who has the turn takes a job and passes the turn on, or listens: the pool, and the
worker who is woken. -/
def takeJob (pool : WorkerPool J) (worker : Nat) : WorkerPool J × Option Nat :=
  match pool.queue with
  | [] => ({ pool.setOccupation worker .listening with listener := some worker }, none)
  | job :: queue => passTurn { pool.setOccupation worker (.busy job) with queue }

/-- A worker without a job looks for one: the pool, and the worker who is woken. -/
def seek (pool : WorkerPool J) (worker : Nat) : WorkerPool J × Option Nat :=
  match pool.occupation worker with
  | .fresh =>
    match pool.takeTurn worker with
    | (pool, true) => pool.takeJob worker
    | (pool, false) => (pool, none)
  | .inLine => if pool.turn = some worker then pool.takeJob worker else (pool, none)
  | .listening => pool.takeJob worker
  | .busy _ | .gone => (pool, none)

def jobOf? (pool : WorkerPool J) (worker : Nat) : Option J :=
  match pool.occupation worker with
  | .busy job => some job
  | _ => none

def workersOn [DecidableEq J] (pool : WorkerPool J) (job : J) : List Nat :=
  (List.range pool.workers.length).filter fun worker => pool.jobOf? worker = some job

/-- Has all workers go away when they next get to do something. -/
def dismiss (pool : WorkerPool J) : WorkerPool J :=
  { pool with workers := pool.workers.map fun worker => { worker with dismissed := true } }

def present (pool : WorkerPool J) : List Nat :=
  (List.range pool.workers.length).filter fun worker =>
    match pool.occupation worker with
    | .gone => false
    | _ => true

/-- A worker goes away: the pool, the job which is lost with it, and the worker who is woken. -/
def retire (pool : WorkerPool J) (worker : Nat) : WorkerPool J × Option J × Option Nat :=
  let job := pool.jobOf? worker
  let pool := pool.setOccupation worker .gone
  let pool := { pool with line := pool.line.filter (· ≠ worker) }
  let (pool, woken) := if pool.turn = some worker then pool.passTurn else (pool, none)
  (pool, job, woken)

/-- Closes a pool which has no workers any more: the pool, and the jobs which are lost. -/
def close (pool : WorkerPool J) : WorkerPool J × List J :=
  if pool.present.isEmpty then ({ pool with queue := [], closed := true }, pool.queue)
  else (pool, [])

end WorkerPool
end Admission.Executor

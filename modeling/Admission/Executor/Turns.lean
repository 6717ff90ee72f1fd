import Admission.Executor.Orders
/-!
# Turns

How the workers of a pool take turns with the callers. A worker in its turn goes on with its job,
and when that has ended with one job after the other, until a job is not ready or there are none.
A worker who was dismissed goes away instead, and its job is lost; when all are gone, so are the
jobs in the queue.
-/

namespace Admission.Executor

variable {L G W V : Type}

/-- Takes over what the pool has become, and has the workers go on who were woken. -/
def withPool (executor : Executor L G W V) (pool : WorkerPool Nat) (woken : Option Nat) :
    Executor L G W V :=
  wake { executor with crew := .pool pool } (woken.toList.map .worker)

variable [Limiter TaskLabel L G W]

/-- A worker of a pool goes on, for at most `fuel` jobs. -/
def work (worker : Nat) : Nat → WorkerPool Nat → Executor L G W V → Executor L G W V
  | 0, pool, executor => executor.withPool pool none
  | fuel + 1, pool, executor =>
    let (pool, woken) := pool.seek worker
    let executor := executor.withPool pool woken
    match pool.jobOf? worker with
    | none => executor
    | some number =>
      match executor.look number with
      | (executor, .unfinished none) => executor
      | (executor, .unfinished (some time)) =>
        { executor with agenda := executor.agenda.setAlarm time (.worker worker) }
      | (executor, .ended _) =>
        work worker fuel (pool.setOccupation worker .fresh)
          { executor with agenda := executor.agenda.clearAlarms (.worker worker) }

def retire (worker : Nat) (pool : WorkerPool Nat) (executor : Executor L G W V) :
    Executor L G W V :=
  let (pool, job, woken) := pool.retire worker
  let (pool, lost) := pool.close
  let agenda := executor.agenda.clearAlarms (.worker worker)
  (withPool { executor with agenda } pool woken).dropJobs (job.toList ++ lost)

/-- Has an agent go on. A worker can do no more in a turn than to end the job it has and those
which wait. -/
def goOn (agent : Agent) (executor : Executor L G W V) : Executor L G W V :=
  match agent with
  | .caller id =>
    match executor.order? id with
    | some order => executor.goOnWith order
    | none => executor
  | .worker worker =>
    match executor.crew with
    | .pool pool =>
      if pool.isDismissed worker then executor.retire worker pool
      else executor.work worker (pool.queue.length + 2) pool
    | _ => executor

/-- Every turn ends an order or a job, or uses up a reason to look again; the end of a job gives
everybody at most one more. -/
instance : Agents (Executor L G W V) Agent where
  agenda := Executor.agenda
  setAgenda agenda executor := { executor with agenda }
  goOn := goOn
  turns executor :=
    let size := executor.orders.length + executor.jobs.tasks.length
      + executor.crew.workers.length + executor.agenda.ready.length + 4
    size * size

end Admission.Executor

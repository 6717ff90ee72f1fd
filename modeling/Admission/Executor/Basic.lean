import Admission.Executor.Crew
import Admission.Executor.Jobs
import Admission.Gateway
/-!
# Executors

An executor has tasks admitted at a desk before its crew gets to run them. Orders are what callers
want done: to run one task and wait for its result, to run one in the background, or to run a batch
and wait for all of it.

Callers and workers take turns: each goes on until there is nothing to do but wait, and again when
woken.
-/

namespace Admission
namespace Executor

/-- Somebody who takes turns. -/
inductive Agent where
  | worker (number : Nat)
  | caller (id : String)
  deriving DecidableEq, Repr

/-- What an order is about. Tasks go by their numbers. -/
inductive Demand where
  /-- One task, whose result is waited for. -/
  | submit (number : Nat)
  /-- One task, in the background. -/
  | execute (number : Nat)
  /-- Several tasks, for which the caller waits no longer than some time. -/
  | batch (numbers : List Nat) (timeout : Option Nat)
  deriving DecidableEq, Repr

/-- How far an order has got. -/
inductive Stage (W : Type) where
  /-- There is nothing yet to wait for. -/
  | new
  | asking (place : W)
  /-- A task is accepted, and its handle is waited for. -/
  | awaiting (number : Nat)
  /-- The jobs of the batch are accepted and their reports are waited for, until some time. -/
  | running (deadline : Option Nat)
  /-- The batch is over, and its handles are waited for. -/
  | collecting
  deriving DecidableEq, Repr

structure Order (W : Type) where
  id : String
  ctx : TaskLabel
  demand : Demand
  stage : Stage W

namespace Order

variable {W : Type}

def tasks (order : Order W) : List Nat :=
  match order.demand with
  | .submit number | .execute number => [number]
  | .batch numbers _ => numbers

def isUnderWay (order : Order W) : Bool :=
  match order.stage with
  | .new | .asking _ => false
  | .awaiting _ | .running _ | .collecting => true

end Order

inductive Result (V : Type) where
  /-- The task goes on in the background. -/
  | accepted
  | one (result : HandleResult V)
  | all (results : List (HandleResult V))
  | failed (error : ExecutorFailure)

/-- Whether a crew takes a job. -/
inductive Acceptance where
  | accepted
  | rejected
  | broken (fault : Fault)
  deriving DecidableEq, Repr

end Executor

open Executor in
/-- An executor at work. Orders are kept in the order in which they were given. -/
structure Executor (L G W V : Type) where
  jobs : Jobs L V G
  crew : Crew
  orders : List (Order W)
  /-- The tasks whose handles are kept. -/
  handles : Table Nat
  /-- Passes which are held outside of tasks. -/
  holds : Table (Pass G)
  agenda : Agenda Agent
  /-- The orders which have ended, the latest last. -/
  endings : List (String × Ending (Result V))

namespace Executor

variable {L G W V : Type}

/-- An executor before the first order. All workers start looking for jobs at once. -/
def create (crew : Crew) (limiter : L) : Executor L G W V :=
  { jobs := Jobs.create limiter, crew, orders := [], handles := [], holds := [], endings := []
    agenda := { (Agenda.empty : Agenda Agent) with ready := crew.workers.map .worker } }

def order? (executor : Executor L G W V) (id : String) : Option (Order W) :=
  executor.orders.find? (·.id = id)

def keep (executor : Executor L G W V) (order : Order W) : Executor L G W V :=
  { executor with
    orders := executor.orders.map fun other => if other.id = order.id then order else other }

def remove (executor : Executor L G W V) (id : String) : Executor L G W V :=
  { executor with
    orders := executor.orders.filter (·.id ≠ id)
    agenda := executor.agenda.forget (.caller id) }

def finish (executor : Executor L G W V) (order : Order W) (ending : Ending (Result V)) :
    Executor L G W V :=
  { executor.remove order.id with endings := executor.endings ++ [(order.id, ending)] }

def conclude (executor : Executor L G W V) (order : Order W) (fault : Option Fault)
    (result : Result V) : Executor L G W V :=
  executor.finish order (match fault with
    | some fault => .brokenDown fault.message
    | none => .answered result)

def wake (executor : Executor L G W V) (agents : List Agent) : Executor L G W V :=
  { executor with agenda := agents.foldl Agenda.wake executor.agenda }

def tell (executor : Executor L G W V) (numbers : List Nat) : Executor L G W V :=
  executor.wake ((executor.orders.filter fun order =>
    order.isUnderWay && order.tasks.any numbers.contains).map (.caller ·.id))

/-- Has the workers go on who are busy with one of some tasks. -/
def prod (executor : Executor L G W V) (numbers : List Nat) : Executor L G W V :=
  executor.wake (numbers.flatMap fun number =>
    (executor.crew.workersOn number).map .worker)

variable [Limiter TaskLabel L G W]

def isWoken (executor : Executor L G W V) (order : Order W) : Bool :=
  match order.stage with
  | .asking place => Limiter.isWoken TaskLabel executor.jobs.desk.limiter place
  | _ => false

/-- Has the callers go on who were woken by what happened at the desk. -/
def alert (executor : Executor L G W V) : Executor L G W V :=
  executor.wake ((executor.orders.filter executor.isWoken).map (.caller ·.id))

def dropJobs (executor : Executor L G W V) (numbers : List Nat) : Executor L G W V :=
  let (jobs, _) := executor.jobs.forEach (Jobs.drop executor.agenda.now) false numbers
  (alert { executor with jobs }).tell numbers

def look (executor : Executor L G W V) (number : Nat) : Executor L G W V × Glance :=
  let (jobs, glance) := executor.jobs.look number executor.agenda.now
  let executor := alert { executor with jobs }
  match glance with
  | .unfinished _ => (executor, glance)
  | .ended _ => (executor.tell [number], glance)

def giveJob (executor : Executor L G W V) (number : Nat) : Executor L G W V × Acceptance :=
  match executor.crew with
  | .pool pool =>
    match pool.push? number with
    | none => (executor, .rejected)
    | some (pool, woken) =>
      (wake { executor with crew := .pool pool } (woken.toList.map .worker), .accepted)
  | .eager accept taken kept =>
    if accept ≤ taken then (executor, .rejected)
    else
      match executor.look number with
      | (executor, .unfinished _) =>
        ({ executor with crew := .eager accept (taken + 1) (kept ++ [number]) }, .accepted)
      | (executor, .ended none) =>
        ({ executor with crew := .eager accept (taken + 1) kept }, .accepted)
      | (executor, .ended (some fault)) =>
        ({ executor with crew := .eager accept (taken + 1) kept }, .broken fault)
  | .failing start error kept =>
    ({ executor with crew := .failing start error (kept ++ [number]) }, .accepted)
  | .unknown => (executor, .accepted)

end Executor
end Admission

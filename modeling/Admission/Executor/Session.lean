import Admission.Executor.Turns
/-!
# Sessions with an executor

What can happen to an executor from outside, and what is seen of it after each step: orders are
given and dropped, tasks are told how to end or aborted, handles are dropped, and the crew is shut
down.
-/

namespace Admission.Executor

variable {L G W V : Type}

inductive Action (V : Type) where
  /-- Orders one task, to wait for its result. -/
  | submit (id : String) (ctx : TaskLabel) (name : String) (plan : Plan V V)
  /-- Orders one task, to go on in the background. -/
  | execute (id : String) (ctx : TaskLabel) (name : String) (plan : Plan V V)
  | batch (id : String) (ctx : TaskLabel) (tasks : List (String × Plan V V))
    (timeout : Option Nat)
  | complete (name : String) (reply : Reply V V)
  | abort (id : String)
  | forget (id : String)
  | abandon (id : String)
  | shutdown
  /-- Throws the jobs away which are kept outside of a pool. -/
  | discard
  /-- Takes a pass without a task. -/
  | hold (id : String) (ctx : TaskLabel)
  | release (id : String) (outcome : Outcome)
  | advance (time : Nat)

variable [Limiter TaskLabel L G W]

/-- Gives an order, which goes on until there is nothing to do but wait. -/
def start (executor : Executor L G W V) (id : String) (ctx : TaskLabel) (demand : Demand) :
    Executor L G W V × Gateway.Answer :=
  let order : Order W := ⟨id, ctx, demand, .new⟩
  let executor := goOn (.caller id) { executor with orders := executor.orders ++ [order] }
  match executor.order? id with
  | none => (executor, .done)
  | some _ => (executor.wake [.caller id], .pending)

def complete (executor : Executor L G W V) (name : String) (reply : Reply V V) :
    Executor L G W V × Gateway.Answer :=
  match executor.jobs.openTask? name with
  | none => (executor, .none)
  | some number =>
    let jobs := executor.jobs.update number fun task => { task with mail := some reply }
    (prod { executor with jobs } [number], .ok)

def abort (executor : Executor L G W V) (id : String) : Executor L G W V × Gateway.Answer :=
  match Table.at? executor.handles id with
  | none => (executor, .none)
  | some number => (prod { executor with jobs := executor.jobs.abort number } [number], .ok)

def forget (executor : Executor L G W V) (id : String) : Executor L G W V × Gateway.Answer :=
  match Table.at? executor.handles id with
  | none => (executor, .none)
  | some _ => ({ executor with handles := Table.remove executor.handles id }, .ok)

def abandon (executor : Executor L G W V) (id : String) : Executor L G W V × Gateway.Answer :=
  match executor.order? id with
  | none => (executor, .none)
  | some order =>
    let (executor, fault) := executor.dropOrder order
    (executor, Gateway.Answer.orFault fault .ok)

/-- Dismisses the workers of a pool. Other crews have nobody to dismiss. -/
def shutdown (executor : Executor L G W V) : Executor L G W V :=
  match executor.crew with
  | .pool pool =>
    wake { executor with crew := .pool pool.dismiss } (pool.present.map .worker)
  | _ => executor

def discard (executor : Executor L G W V) : Executor L G W V :=
  let (crew, lost) := executor.crew.discard
  dropJobs { executor with crew } lost

def hold (executor : Executor L G W V) (id : String) (ctx : TaskLabel) :
    Executor L G W V × Gateway.Answer :=
  let (desk, holds, held) :=
    executor.jobs.desk.hold executor.holds id ctx executor.agenda.now
  (alert { executor with jobs := { executor.jobs with desk }, holds },
    Gateway.Answer.ofHold held)

def release (executor : Executor L G W V) (id : String) (outcome : Outcome) :
    Executor L G W V × Gateway.Answer :=
  let (desk, holds, released) :=
    executor.jobs.desk.endHold TaskLabel executor.holds id outcome executor.agenda.now
  (alert { executor with jobs := { executor.jobs with desk }, holds },
    Gateway.Answer.ofRelease released)

/-- Carries out an action, up to what it makes ready. -/
def act (executor : Executor L G W V) : Action V → Executor L G W V × Gateway.Answer
  | .submit id ctx name plan =>
    let (jobs, number) := executor.jobs.add (.new name plan false)
    start { executor with jobs } id ctx (.submit number)
  | .execute id ctx name plan =>
    let (jobs, number) := executor.jobs.add (.new name plan true)
    start { executor with jobs } id ctx (.execute number)
  | .batch id ctx tasks timeout =>
    let (jobs, numbers) := executor.jobs.addAll
      (tasks.map fun (name, plan) => .new name plan false)
    start { executor with jobs } id ctx (.batch numbers timeout)
  | .complete name reply => executor.complete name reply
  | .abort id => executor.abort id
  | .forget id => executor.forget id
  | .abandon id => executor.abandon id
  | .shutdown => (executor.shutdown, .ok)
  | .discard => (executor.discard, .ok)
  | .hold id ctx => executor.hold id ctx
  | .release id outcome => executor.release id outcome
  | .advance time => (Agents.advance time executor, .ok)

/-- Carries out an action and lets everything which is ready go on, unless that is to wait. -/
def step (executor : Executor L G W V) (action : Action V) (settle : Bool) :
    Executor L G W V × Gateway.Answer :=
  let (executor, answer) := executor.act action
  (if settle then Agents.settle executor else executor, answer)

def clear (executor : Executor L G W V) : Executor L G W V :=
  { executor with
    jobs := { executor.jobs with
      desk := { executor.jobs.desk with settled := [] }
      log := [] }
    endings := [] }

/-- What is seen of an executor, with the names of the tasks which were started. -/
def sight [Observable L] (executor : Executor L G W V) : Gateway.Sight String (Result V) :=
  { time := executor.agenda.now
    handedOut := executor.jobs.desk.handedOut
    state := Observable.state executor.jobs.desk.limiter
    endings := executor.endings
    notices := executor.jobs.startedTasks
    outcomes := executor.jobs.desk.outcomes.mergeSort fun a b => a.1 ≤ b.1 }

/-- Carries out actions one after the other, as long as the program goes on, with what is seen after
each. -/
def run [Observable L] (executor : Executor L G W V) :
    List (Action V × Bool) → List (Gateway.Answer × Gateway.Sight String (Result V))
  | [] => []
  | (action, settle) :: rest =>
    let (executor, answer) := executor.clear.step action settle
    if executor.jobs.desk.isOver then [] else (answer, executor.sight) :: run executor rest

end Admission.Executor

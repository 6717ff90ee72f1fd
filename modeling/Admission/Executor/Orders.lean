import Admission.Executor.Basic
/-!
# Orders

How an order goes through an executor: it asks to be admitted, gives the jobs of its tasks to the
crew, and waits for what they come to.

A batch is admitted as a whole. Only its first task waits for capacity, because the others would
wait for what the batch itself holds. When it is over, however it ends, all its tasks are
cancelled, so that none of them goes on.
-/

namespace Admission.Executor

variable {L G W V : Type}

/-- A caller who waits for a handle gets the result, once it is there. A handle which is not kept
any more shows nothing. -/
def await (executor : Executor L G W V) (order : Order W) (number : Nat) :
    Executor L G W V :=
  let handle := (Table.at? executor.handles order.id).filter (· = number)
  match handle.bind executor.jobs.received? with
  | some result => executor.finish order (.answered (.one result))
  | none => executor.keep { order with stage := .awaiting number }

/-- A caller whose batch is over gets the results, once they are all there. -/
def collect (executor : Executor L G W V) (order : Order W) : Executor L G W V :=
  match order.tasks.mapM executor.jobs.received? with
  | some results => executor.finish order (.answered (.all results))
  | none => executor.keep { order with stage := .collecting }

variable [Limiter TaskLabel L G W]

/-- Ends an order which was not admitted: no jobs are made of its tasks. -/
def turnAway (executor : Executor L G W V) (order : Order W) (ending : Ending (Result V)) :
    Executor L G W V :=
  alert (finish { executor with jobs := executor.jobs.forgo order.tasks } order ending)

/-- Ends the waiting for a batch which went well, or whose time is up. -/
def closeBatch (executor : Executor L G W V) (order : Order W) : Executor L G W V :=
  let (jobs, fault) := executor.jobs.closeBatch order.tasks executor.agenda.now
  let agenda := executor.agenda.clearAlarms (.caller order.id)
  let executor := alert (prod { executor with jobs, agenda } order.tasks)
  match fault with
  | none => executor.collect order
  | some fault => executor.finish order (.brokenDown fault.message)

def failBatch (executor : Executor L G W V) (order : Order W) (error : ExecutorFailure) :
    Executor L G W V :=
  let (jobs, fault) := executor.jobs.failBatch order.tasks error executor.agenda.now
  alert ((prod { executor with jobs } order.tasks).conclude order fault (.failed error))

/-- Waits for the jobs of a batch. A job which was dropped never reports that it is through, and
fails the batch when all the others have. -/
def waitForBatch (executor : Executor L G W V) (order : Order W) (deadline : Option Nat) :
    Executor L G W V :=
  let reports := executor.jobs.reports order.tasks
  if reports.contains .awaited then
    if deadline.any (· ≤ executor.agenda.now) then executor.closeBatch order
    else executor.keep { order with stage := .running deadline }
  else if reports.contains .dropped then executor.failBatch order .interrupted
  else executor.closeBatch order

/-- Gives the jobs of a batch to the crew, up to the first which is not taken; it and those after
it are thrown away. -/
def giveJobs (executor : Executor L G W V) : List Nat → Executor L G W V × Acceptance
  | [] => (executor, .accepted)
  | number :: rest =>
    let jobs := executor.jobs.update number fun task => { task with report := .awaited }
    match giveJob { executor with jobs } number with
    | (executor, .accepted) => executor.giveJobs rest
    | (executor, acceptance) => (executor.dropJobs (number :: rest), acceptance)

/-- Looks once at each of some jobs: those which have not ended. -/
def lookAll (executor : Executor L G W V) : List Nat → Executor L G W V × List Nat
  | [] => (executor, [])
  | number :: rest =>
    let (executor, glance) := executor.look number
    let (executor, unfinished) := executor.lookAll rest
    match glance with
    | .unfinished _ => (executor, number :: unfinished)
    | .ended _ => (executor, unfinished)

def runBatch (executor : Executor L G W V) (order : Order W) (numbers : List Nat)
    (timeout : Option Nat) : Executor L G W V :=
  match executor.crew with
  | .failing start error kept =>
    let (executor, unfinished) := executor.lookAll (numbers.take start)
    let crew := .failing start error (kept ++ unfinished)
    failBatch (dropJobs { executor with crew } (numbers.drop start)) order error
  | _ =>
    match executor.giveJobs numbers with
    | (executor, .accepted) =>
      let deadline := timeout.map (executor.agenda.now + ·)
      let agenda := match deadline with
        | some time => executor.agenda.setAlarm time (.caller order.id)
        | none => executor.agenda
      waitForBatch { executor with agenda } order deadline
    | (executor, .rejected) => executor.failBatch order .notTaken
    | (executor, .broken fault) =>
      let (jobs, _) := executor.jobs.forEach (Jobs.letGo executor.agenda.now) true numbers
      alert (finish { executor with jobs } order (.brokenDown fault.message))

def handOver (executor : Executor L G W V) (numbers : List Nat) (passes : List (Pass G)) :
    Executor L G W V :=
  let jobs := (numbers.zip passes).foldl (fun jobs (number, pass) => jobs.handOver number pass)
    executor.jobs
  { executor with jobs }

/-- The tasks of a batch beyond the first are admitted at once or the batch is not admitted. -/
def admitBatch (executor : Executor L G W V) (order : Order W) (numbers : List Nat)
    (timeout : Option Nat) (pass : Pass G) : Executor L G W V :=
  let (desk, admitted) := executor.jobs.desk.acquireMore order.ctx executor.agenda.now [pass]
    (numbers.length - 1)
  let executor := { executor with jobs := { executor.jobs with desk } }
  match admitted with
  | .ok (some passes) => (executor.handOver numbers passes).runBatch order numbers timeout
  | .ok none =>
    executor.turnAway order (.answered (.failed (.refused .rejected)))
  | .error fault => executor.turnAway order (.brokenDown fault.message)

/-- Gives a single task which is admitted to the crew. When it is not taken, that counts as
dropped. -/
def giveOne (executor : Executor L G W V) (number : Nat) (pass : Pass G) :
    Executor L G W V × Acceptance :=
  let now := executor.agenda.now
  let (executor, acceptance) := (executor.handOver [number] [pass]).giveJob number
  let (executor, jobs, fault) := match acceptance with
    | .rejected =>
      let executor := executor.dropJobs [number]
      (executor, executor.jobs.resolve number .dropped now false)
    | .accepted => (executor, executor.jobs.letGo now false number)
    | .broken _ => (executor, executor.jobs.letGo now true number)
  (alert { executor with jobs }, match fault with
    | none => acceptance
    | some fault => .broken fault)

def launch (executor : Executor L G W V) (order : Order W) (pass : Pass G) :
    Executor L G W V :=
  let agenda := executor.agenda.clearAlarms (.caller order.id)
  let order := { order with stage := .new }
  let executor := keep { executor with agenda } order
  match order.demand with
  | .batch numbers timeout => executor.admitBatch order numbers timeout pass
  | .submit number | .execute number =>
    match executor.giveOne number pass, order.demand with
    | (executor, .accepted), .submit _ =>
      await { executor with handles := Table.put executor.handles order.id number } order number
    | (executor, .accepted), _ => executor.finish order (.answered .accepted)
    | (executor, .rejected), _ => executor.finish order (.answered (.failed .notTaken))
    | (executor, .broken fault), _ => executor.finish order (.brokenDown fault.message)

def proceed (executor : Executor L G W V) (order : Order W)
    (result : Desk L × Except Fault (Progress (Pass G) W)) : Executor L G W V :=
  let executor := { executor with jobs := { executor.jobs with desk := result.1 } }
  match result.2 with
  | .error fault => executor.turnAway order (.brokenDown fault.message)
  | .ok (.refused cause) => executor.turnAway order (.answered (.failed (.refused cause)))
  | .ok (.waiting place) => (executor.keep { order with stage := .asking place }).alert
  | .ok (.admitted pass) => executor.launch order pass

/-- The first look of an order at the desk. A batch without tasks needs no admission. -/
def ask (executor : Executor L G W V) (order : Order W) : Executor L G W V :=
  match order.demand with
  | .batch [] timeout => executor.runBatch order [] timeout
  | _ =>
    let result := executor.jobs.desk.acquire order.ctx executor.agenda.now
    let agenda := match result.2 with
      | .ok (.waiting place) =>
        match Limiter.deadline? TaskLabel L place with
        | some time => executor.agenda.setAlarm time (.caller order.id)
        | none => executor.agenda
      | _ => executor.agenda
    proceed { executor with agenda } order result

def goOnWith (executor : Executor L G W V) (order : Order W) : Executor L G W V :=
  match order.stage with
  | .new => executor.ask order
  | .asking place =>
    executor.proceed order (executor.jobs.desk.poll order.ctx place executor.agenda.now)
  | .awaiting number => executor.await order number
  | .running deadline => executor.waitForBatch order deadline
  | .collecting => executor.collect order

/-- Drops an order. A place in the queue is given up; jobs which were accepted are not affected,
except that nobody else can report on them any more. -/
def dropOrder (executor : Executor L G W V) (order : Order W) :
    Executor L G W V × Option Fault :=
  let executor := executor.remove order.id
  match order.stage with
  | .new => ({ executor with jobs := executor.jobs.forgo order.tasks }, none)
  | .asking place =>
    let jobs := executor.jobs.forgo order.tasks
    let desk := jobs.desk.abandon TaskLabel place
    (alert { executor with jobs := { jobs with desk } }, none)
  | .running _ =>
    let (jobs, fault) := executor.jobs.forEach (Jobs.letGo executor.agenda.now) false order.tasks
    (alert { executor with jobs }, fault)
  | .awaiting _ | .collecting => (executor, none)

end Admission.Executor

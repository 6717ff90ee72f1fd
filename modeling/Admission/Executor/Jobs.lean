import Admission.Subject
import Admission.Desk
import Admission.Executor.Task
/-!
# Jobs

All tasks which an executor was given, and the desk where they are admitted. Whoever runs the jobs
may look at them in any order and as often as he likes, keep them, or throw them away; the outcome
of a task is reported once, by whoever is the first to have a reason to.
-/

namespace Admission.Executor

/-- Why none of some tasks is to go on. -/
inductive Dismissal where
  | notAdmitted
  /-- They were a batch which went well, or whose time was up. -/
  | done
  | failed (error : ExecutorFailure)
  deriving DecidableEq, Repr

/-- What is on record about the tasks, by their numbers. -/
inductive Entry (V : Type) where
  /-- The task was admitted, with the listener of a number. -/
  | admitted (task listener : Nat)
  /-- Somebody looked at the task, for the first time or again, and what was seen. -/
  | looked (task : Nat) (first : Bool) (answer : Answer (Except V V))
  /-- Somebody looked at the job of the task after the task was aborted. -/
  | cancelled (task : Nat)
  | dismissed (tasks : List Nat) (why : Dismissal)

/-- The desk, the tasks by number, and what is on record about them, the latest last. -/
structure Jobs (L V G : Type) where
  desk : Desk L
  tasks : List (Task V G)
  log : List (Entry V)

inductive Glance where
  /-- There is more to do. If it is known when, that is said at the first look. -/
  | unfinished (alarm : Option Nat)
  /-- The job has ended, or broken down while it reported. -/
  | ended (fault : Option Fault)
  deriving DecidableEq, Repr

namespace Jobs

variable {L V G W : Type}

def create (limiter : L) : Jobs L V G := ⟨Desk.create limiter, [], []⟩

def add (jobs : Jobs L V G) (task : Task V G) : Jobs L V G × Nat :=
  ({ jobs with tasks := jobs.tasks ++ [task] }, jobs.tasks.length)

def addAll (jobs : Jobs L V G) (tasks : List (Task V G)) : Jobs L V G × List Nat :=
  ({ jobs with tasks := jobs.tasks ++ tasks }, List.range' jobs.tasks.length tasks.length)

def update (jobs : Jobs L V G) (number : Nat) (change : Task V G → Task V G) : Jobs L V G :=
  { jobs with tasks := jobs.tasks.modify number change }

/-- Does something about each of some tasks, in order; the first fault is shown. After it the rest
is done while that fault is on its way up. -/
def forEach (act : Bool → Jobs L V G → Nat → Jobs L V G × Option Fault) (cleaning : Bool)
    (jobs : Jobs L V G) : List Nat → Jobs L V G × Option Fault
  | [] => (jobs, none)
  | number :: rest =>
    let (jobs, fault) := act cleaning jobs number
    let (jobs, later) := forEach act (cleaning || fault.isSome) jobs rest
    (jobs, (fault.map (·.cleanedUp later)).or later)

def note (jobs : Jobs L V G) (entry : Entry V) : Jobs L V G :=
  { jobs with log := jobs.log ++ [entry] }

/-- Throws tasks away which nobody has made jobs of. -/
def forgo (jobs : Jobs L V G) (numbers : List Nat) : Jobs L V G :=
  note (numbers.foldl (fun jobs number =>
    jobs.update number fun task => { task with alive := false }) jobs)
    (.dismissed numbers .notAdmitted)

/-- The names of the tasks which were started, the latest last. -/
def startedTasks (jobs : Jobs L V G) : List String :=
  jobs.log.filterMap fun entry =>
    match entry with
    | .looked number true _ => jobs.tasks[number]?.map (·.name)
    | _ => none

def handOver (jobs : Jobs L V G) (number : Nat) (pass : Pass G) : Jobs L V G :=
  (jobs.update number (·.withPass pass)).note (.admitted number pass.number)

def abort (jobs : Jobs L V G) (number : Nat) : Jobs L V G :=
  jobs.update number fun task => { task with aborted := true }

/-- The last task of a name, if it can still be told how to end. -/
def openTask? (jobs : Jobs L V G) (name : String) : Option Nat :=
  (List.range jobs.tasks.length).reverse.find? (fun number =>
    jobs.tasks[number]?.any (·.name = name)) |>.filter fun number =>
      jobs.tasks[number]?.any (·.isOpen)

def received? (jobs : Jobs L V G) (number : Nat) : Option (HandleResult V) :=
  jobs.tasks[number]?.bind (·.channel.received?)

def reports (jobs : Jobs L V G) (numbers : List Nat) : List BatchReport :=
  numbers.filterMap fun number => jobs.tasks[number]?.map (·.report)

variable [Limiter TaskLabel L G W]

/-- Reports the outcome of a task, unless that was done before. -/
def resolve (jobs : Jobs L V G) (number : Nat) (outcome : Outcome) (now : Nat)
    (cleaning : Bool) : Jobs L V G × Option Fault :=
  match jobs.tasks[number]?.bind (·.pass) with
  | none => (jobs, none)
  | some pass =>
    let (desk, fault) := jobs.desk.resolve TaskLabel pass outcome now cleaning
    (update { jobs with desk } number fun task => { task with pass := none }, fault)

/-- A task ends. Its outcome is reported before its result is sent, and a job which cannot report
sends nothing. -/
def finish (jobs : Jobs L V G) (number : Nat) (outcome : Outcome) (result : HandleResult V)
    (now : Nat) : Jobs L V G × Option Fault :=
  match jobs.resolve number outcome now false with
  | (jobs, none) => (jobs.update number (·.conclude (some result)), none)
  | (jobs, some fault) => (jobs.update number (·.conclude none), some fault)

/-- A job is thrown away, if there is one. Unless the submitter holds the pass too, that is
reported. -/
def drop (now : Nat) (cleaning : Bool) (jobs : Jobs L V G) (number : Nat) :
    Jobs L V G × Option Fault :=
  match jobs.tasks[number]?.filter (·.hasJob) with
  | none => (jobs, none)
  | some task =>
    let (jobs, fault) :=
      if task.held then (jobs, none) else jobs.resolve number task.discarded now cleaning
    (jobs.update number (·.conclude none), fault)

/-- The submitter lets go of the pass of a task. If the job is gone and nothing was reported, that
is reported as if it were thrown away now. -/
def letGo (now : Nat) (cleaning : Bool) (jobs : Jobs L V G) (number : Nat) :
    Jobs L V G × Option Fault :=
  match jobs.tasks[number]? with
  | none => (jobs, none)
  | some task =>
    let jobs := jobs.update number fun task => { task with held := false }
    if task.hasJob then (jobs, none) else jobs.resolve number task.discarded now cleaning

/-- A look at a job, if there is one, in which it does whatever it can. A task which was aborted is
cancelled, even if it was not begun. -/
def look (jobs : Jobs L V G) (number : Nat) (now : Nat) : Jobs L V G × Glance :=
  match jobs.tasks[number]?.filter (·.hasJob) with
  | none => (jobs, .ended none)
  | some task =>
    let jobs := jobs.update number fun task => { task with started := true }
    if task.aborted then
      let (jobs, fault) :=
        (jobs.note (.cancelled number)).finish number .ignore (.error .cancelled) now
      (jobs, .ended fault)
    else
      let work := task.work.getD (Work.begin task.plan now)
      let answer := work.look now task.mail
      let jobs := (jobs.update number fun task => { task with work := some work }).note
        (.looked number task.work.isNone answer)
      match answer with
      | .pending => (jobs, .unfinished (if task.work.isSome then none else work.alarm?))
      | .ready result =>
        let (jobs, fault) := jobs.finish number (task.outcome result) (.ok result) now
        (jobs, .ended fault)
      | .brokenDown _ =>
        let (jobs, fault) := jobs.finish number .ignore (.error .brokenDown) now
        (jobs, .ended fault)

/-- The tasks of a batch which went well: what has not ended is cancelled, and the submitter lets
go. -/
def closeBatch (jobs : Jobs L V G) (numbers : List Nat) (now : Nat) :
    Jobs L V G × Option Fault :=
  let (jobs, fault) := (numbers.foldl abort jobs).forEach (letGo now) false numbers
  (jobs.note (.dismissed numbers .done), fault)

/-- What a batch which failed says about the limit, for a task which has not reported. -/
def failureOutcome (error : ExecutorFailure) (task : Task V G) : Outcome :=
  match error with
  | .interrupted => .ignore
  | _ => task.discarded

/-- The submitter of a batch which failed reports on a task and lets go of it. While something else
is cleaned up there is no report but that which comes of letting go. -/
def callOff (error : ExecutorFailure) (now : Nat) :
    Bool → Jobs L V G → Nat → Jobs L V G × Option Fault
  | true, jobs, number => jobs.letGo now true number
  | false, jobs, number =>
    match jobs.tasks[number]? with
    | none => (jobs, none)
    | some task =>
      resolve (jobs.update number fun task => { task with held := false }) number
        (failureOutcome error task) now false

/-- The tasks of a batch which failed: they are all cancelled, and what they have not reported is
reported now. After a fault nobody is told that the batch has failed. -/
def failBatch (jobs : Jobs L V G) (numbers : List Nat) (error : ExecutorFailure) (now : Nat) :
    Jobs L V G × Option Fault :=
  match (numbers.foldl abort jobs).forEach (callOff error now) false numbers with
  | (jobs, none) => (jobs.note (.dismissed numbers (.failed error)), none)
  | (jobs, some fault) => (jobs, some fault)

end Jobs
end Admission.Executor

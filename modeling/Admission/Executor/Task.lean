import Admission.Refusal
import Admission.Reply
/-!
# Tasks

A task which an executor is to run, from its submission until nobody holds it any more. The task
itself is wrapped in a job. The job holds the task's pass, reports on it when the task ends, and
sends the task's result to its handle. Whoever submits the task holds the pass too until the
executor has taken the job; when both have let go of a pass which was not used, the job is
reported as dropped, or as ignored if it had been started.
-/

namespace Admission.Executor

/-- What a handle shows: the result of the task, or why there is none. -/
abbrev HandleResult (V : Type) := Except NoResult (Except V V)

/-- The way from a job to its handle. -/
inductive Channel (V : Type) where
  | empty
  | sent (result : HandleResult V)
  /-- The job went away without a result. -/
  | closed

/-- What the handle shows, once there is something: a job which went away is cancelled. -/
def Channel.received? {V : Type} : Channel V → Option (HandleResult V)
  | empty => none
  | sent result => some result
  | closed => some (.error .cancelled)

/-- Whether the job of a task ran to its end, as far as a batch has heard. -/
inductive BatchReport where
  /-- Nobody asked. -/
  | unwanted
  | awaited
  | finished
  | dropped
  deriving DecidableEq, Repr

structure Task (V G : Type) where
  name : String
  plan : Plan V V
  /-- Whether only the end of the task matters: an error is as good as a result. -/
  detached : Bool
  /-- The work of the task, once it has been started. -/
  work : Option (Work V V)
  /-- What the task was told to end with. -/
  mail : Option (Reply V V)
  /-- Whether the task has neither ended nor been thrown away. -/
  alive : Bool
  /-- The pass, until it is used. -/
  pass : Option (Pass G)
  /-- Whether the job was looked at. -/
  started : Bool
  aborted : Bool
  /-- Whether there is a job which has not ended. -/
  hasJob : Bool
  /-- Whether the submitter holds the pass. -/
  held : Bool
  channel : Channel V
  report : BatchReport

namespace Task

variable {V G : Type}

def new (name : String) (plan : Plan V V) (detached : Bool) : Task V G :=
  { name, plan, detached, work := none, mail := none, alive := true, pass := none,
    started := false, aborted := false, hasJob := false, held := false, channel := .empty,
    report := .unwanted }

def withPass (task : Task V G) (pass : Pass G) : Task V G :=
  { task with pass := some pass, hasJob := true, held := true }

def isOpen (task : Task V G) : Bool :=
  task.alive && task.mail.isNone && match task.plan with
    | .manual => true
    | .reply .. => false

def outcome (task : Task V G) : Except V V → Outcome
  | .ok _ => .success
  | .error _ => if task.detached then .success else .ignore

def discarded (task : Task V G) : Outcome := if task.started then .ignore else .dropped

/-- The task once its job has ended with a result, or has gone away without one. -/
def conclude (task : Task V G) (result : Option (HandleResult V)) : Task V G :=
  { task with
    alive := false
    hasJob := false
    channel := match result with
      | some result => .sent result
      | none => .closed
    report := match task.report, result with
      | .awaited, some _ => .finished
      | .awaited, none => .dropped
      | report, _ => report }

end Task
end Admission.Executor

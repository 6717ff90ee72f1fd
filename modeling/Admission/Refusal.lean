/-!
# Refusals and failures

What callers are told when they are not admitted, and how each gateway passes that on beside the
failures of the work itself.
-/

namespace Admission

inductive Refusal where
  /-- There is no capacity and the limiter does not wait for it. -/
  | rejected
  /-- No capacity came free in time. -/
  | timedOut
  | cancelled
  deriving DecidableEq, Repr

def Refusal.message : Refusal → String
  | rejected => "concurrency limit exceeded"
  | timedOut => "timed out waiting for concurrency limit capacity"
  | cancelled => "cancelled while waiting for concurrency limit capacity"

/-- Why an executor did not carry out what it was given. -/
inductive ExecutorFailure where
  | refused (cause : Refusal)
  /-- The pool has no room for the task, or is shut down. -/
  | notTaken
  /-- A task of a batch was dropped before it finished. -/
  | interrupted
  deriving DecidableEq, Repr

namespace ExecutorFailure

def message : ExecutorFailure → String
  | refused cause => "concurrency limit exceeded: " ++ cause.message
  | notTaken => "task rejected by the worker pool"
  | interrupted => "interrupted while waiting for tasks to complete"

def source? : ExecutorFailure → Option String
  | refused cause => some cause.message
  | _ => none

end ExecutorFailure

/-- Why a task has no result of its own. -/
inductive NoResult where
  | brokenDown
  | cancelled
  deriving DecidableEq, Repr

def NoResult.message : NoResult → String
  | brokenDown => "task panicked"
  | cancelled => "task cancelled"

/-- An error with its text and the text of the error behind it. -/
structure Described where
  text : String
  source : Option String
  deriving DecidableEq, Repr

/-- Why a remote call has no response: it was not admitted, or failed itself. -/
inductive CallFailure (ε : Type) where
  | refused (cause : Refusal)
  | call (error : ε)
  deriving DecidableEq, Repr

/-- Why a pool gave no resource: the request was not admitted, or the pool itself failed. -/
inductive PoolFailure (ε : Type) where
  | refused (cause : Refusal)
  | pool (error : ε)
  deriving DecidableEq, Repr

namespace CallFailure

def message : CallFailure Described → String
  | refused cause => "concurrency limit exceeded: " ++ cause.message
  | call error => error.text

def source? : CallFailure Described → Option String
  | refused cause => some cause.message
  | call error => error.source

end CallFailure

namespace PoolFailure

def message : PoolFailure Described → String
  | refused cause => "cannot acquire resource: " ++ cause.message
  | pool error => error.text

def source? : PoolFailure Described → Option String
  | refused cause => some cause.message
  | pool error => error.source

end PoolFailure
end Admission

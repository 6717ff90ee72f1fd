import Admission.Quoted
/-!
# Faults

The ways in which building or using a limiter can go wrong for good: a setting which is refused,
or arithmetic on permits and shares which leaves its range. A fault ends the operation it occurs
in; it is not an answer to a caller.
-/

namespace Admission

inductive Fault where
  | zeroLimit
  /-- A limit algorithm which is to start at zero. -/
  | zeroInitialLimit
  /-- A decrease factor outside `[0.5, 1)`. -/
  | decreaseFactor
  | zeroIncrease
  | zeroMaximum
  /-- A utilisation threshold which is not strictly between zero and one. -/
  | utilisation
  /-- A gate over an algorithm whose limit is zero. -/
  | noPermits
  /-- More permits than can be counted, from the start. -/
  | tooManyPermits
  /-- Adding permits would leave more of them than can be counted. -/
  | permitOverflow (added : Nat)
  /-- More permits are added at once than can be counted. -/
  | increaseOverflow
  /-- A weight which is not positive and finite. -/
  | weight
  /-- The fallback names a partition which is not configured. -/
  | unknownFallback (name : String)
  /-- A limit and its increase add up to no 64-bit number. -/
  | sumOverflow
  /-- A share which is no 64-bit number. -/
  | shareOverflow
  | noWorkers
  /-- A worker pool without room for waiting jobs. -/
  | noQueue
  /-- Whatever else code given by the user fails with. -/
  | raised (text : String)
  /-- A fault was met while another one was on its way up, which ends the program. -/
  | aborted
  deriving DecidableEq, Repr

def maxPermits : Nat := Nat.pow 2 61 - 1

def wordSize : Nat := Nat.pow 2 64

def Fault.message : Fault → String
  | zeroLimit => "assertion failed: limit > 0"
  | zeroInitialLimit => "assertion failed: initial_limit > 0"
  | decreaseFactor => "assertion failed: (0.5..1.0).contains(&factor)"
  | zeroIncrease => "assertion failed: increase > 0"
  | zeroMaximum => "assertion failed: max > 0"
  | utilisation => "assertion failed: min_util > 0. && min_util < 1."
  | noPermits => "assertion failed: initial_permits >= 1"
  | tooManyPermits =>
    "a semaphore may not have more than MAX_PERMITS permits (" ++ toString maxPermits ++ ")"
  | permitOverflow added =>
    "number of added permits (" ++ toString added ++ ") would overflow MAX_PERMITS ("
      ++ toString maxPermits ++ ")"
  | increaseOverflow =>
    "cannot add more than MAX_PERMITS permits (" ++ toString maxPermits ++ ")"
  | weight => "weights must be positive"
  | unknownFallback name => "fallback partition " ++ Quoted.quote name ++ " is not configured"
  | sumOverflow => "attempt to add with overflow"
  | shareOverflow => "should be clamped within usize bounds: FloatError::PosOverflow(..)"
  | noWorkers => "assertion failed: workers > 0"
  | noQueue => "assertion failed: queue_capacity > 0"
  | raised text => text
  | aborted => "panic in a destructor during cleanup"

/-- What becomes of a fault over which what was under way is cleaned up, when the cleaning up meets
faults of its own: one of them is one too many. -/
def Fault.cleanedUp (fault : Fault) (more : Option Fault) : Fault :=
  match more with
  | some _ => aborted
  | none => fault

/-- What a fault is taken for which was met, maybe while another one was on its way up. -/
def Fault.met (cleaning : Bool) (fault : Option Fault) : Option Fault :=
  if cleaning then fault.map fun _ => aborted else fault

end Admission

import Admission.Algorithm
/-!
# Gates

A gate admits jobs up to a limit and lets an algorithm choose the limit from how they end. It
counts free permits. When the limit falls below what is in flight, the permits which should go
but are in use become a debt, and jobs which finish pay it before permits come back.
-/

namespace Admission

structure Gate (α : Type) where
  algorithm : α
  limit : Nat
  /-- Permits which are free. -/
  available : Nat
  inFlight : Nat
  /-- Permits in use which are not to come back. -/
  debt : Nat
  deriving Repr

structure GateView where
  limit : Nat
  available : Nat
  inFlight : Nat
  deriving DecidableEq, Repr

namespace Gate

variable {α : Type}

/-- A gate at the algorithm's limit, with all its permits free. -/
def create [Algorithm α] (algorithm : α) : Except Fault (Gate α) :=
  let limit := Algorithm.limit algorithm
  if limit = 0 then .error .noPermits
  else if maxPermits < limit then .error .tooManyPermits
  else .ok { algorithm, limit, available := limit, inFlight := 0, debt := 0 }

def state (gate : Gate α) : GateView :=
  { limit := gate.limit, available := gate.available, inFlight := gate.inFlight }

def enter? (gate : Gate α) : Option (Gate α) :=
  if gate.available = 0 then none
  else some { gate with available := gate.available - 1, inFlight := gate.inFlight + 1 }

/-- Adds free permits, as many as can be counted. -/
def addPermits (gate : Gate α) (added : Nat) : Gate α × Option Fault :=
  if added = 0 then (gate, none)
  else if maxPermits < added then (gate, some .increaseOverflow)
  else
    let gate := { gate with available := gate.available + added }
    if maxPermits < gate.available then (gate, some (.permitOverflow added)) else (gate, none)

/-- Moves to a new limit. A raise cancels debt before it adds permits; a cut takes free permits
and makes a debt of the rest. -/
def moveLimit (gate : Gate α) (limit : Nat) : Gate α × Option Fault :=
  if gate.limit < limit then
    let increase := limit - gate.limit
    let cancelled := min gate.debt increase
    addPermits { gate with limit := limit, debt := gate.debt - cancelled } (increase - cancelled)
  else
    let decrease := gate.limit - limit
    let removed := min gate.available decrease
    ({ gate with
        limit := limit
        available := gate.available - removed
        debt := gate.debt + (decrease - removed) }, none)

/-- Gives back the permit of a finished job, or pays debt with it. -/
def returnPermit (gate : Gate α) : Gate α × Option Fault :=
  if gate.debt = 0 then gate.addPermits 1 else ({ gate with debt := gate.debt - 1 }, none)

/-- Lets the algorithm learn from a finished job, unless it is ignored. -/
def learn [Algorithm α] (gate : Gate α) (outcome : Outcome) (latency : Nat) :
    Gate α × Option Fault :=
  if outcome = .ignore then (gate, none)
  else
    let sample := { latency := latency, inFlight := gate.inFlight, outcome := outcome }
    match Algorithm.update gate.algorithm sample with
    | (algorithm, .ok limit) => moveLimit { gate with algorithm := algorithm } limit
    | (algorithm, .error fault) => ({ gate with algorithm := algorithm }, some fault)

/-- A job leaves: the algorithm learns from it first, while it still counts as in flight. If
choosing or moving the limit fails, the job's permit is free again, whatever is owed, but the job
stays counted. -/
def leave [Algorithm α] (gate : Gate α) (outcome : Outcome) (latency : Nat) :
    Gate α × Option Fault :=
  match gate.learn outcome latency with
  | (gate, some fault) =>
    let (gate, more) := gate.addPermits 1
    (gate, some (fault.cleanedUp more))
  | (gate, none) => returnPermit { gate with inFlight := gate.inFlight - 1 }

end Gate
end Admission

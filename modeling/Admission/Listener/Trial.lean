import Admission.Listener
import Admission.Table
/-!
# Trials of listeners

Listeners by name, made, wrapped and used up one step at a time, until those which are left are
thrown away. A step says what is reported; a fault met over one report is no matter of the others.
In a trial which is logged each listener notes its completion under its name, and a tag for every
time it was wrapped.
-/

namespace Admission.Listener

inductive Step (σ : Type) where
  /-- Makes a listener, in place of one with the same name, which is thrown away. -/
  | new (name : String) (completion : Completion σ)
  /-- Makes a listener whose completion does nothing. -/
  | unlimited (name : String)
  | andThen (name : String) (sequel : Sequel σ)
  | elapsed (name : String)
  | advance (time : Nat)
  | resolve (name : String) (outcome : Outcome)
  | drop (name : String)

inductive Reply where
  | ok
  | none
  | time (elapsed : Nat)
  deriving DecidableEq, Repr

/-- Listeners by name, and the time. -/
structure Trial (σ : Type) where
  now : Nat
  listeners : Table (Listener (Completion σ))

namespace Trial

variable {σ : Type}

def start : Trial σ := ⟨0, []⟩

/-- Puts a listener under a name and throws away the one which was there. -/
def replace (trial : Trial σ) (name : String) (listener : Listener (Completion σ)) :
    Trial σ × List (Report (Completion σ)) :=
  ({ trial with listeners := Table.put trial.listeners name listener },
    ((Table.at? trial.listeners name).bind (·.drop trial.now)).toList)

/-- Takes a listener out, if there is one of that name, to be used up. -/
def use (trial : Trial σ) (name : String)
    (how : Listener (Completion σ) → List (Report (Completion σ))) :
    Trial σ × Reply × List (Report (Completion σ)) :=
  match Table.at? trial.listeners name with
  | some listener =>
    ({ trial with listeners := Table.remove trial.listeners name }, .ok, how listener)
  | none => (trial, .none, [])

/-- Carries out a step: the answer, and what was reported during it. -/
def step (trial : Trial σ) : Step σ → Trial σ × Reply × List (Report (Completion σ))
  | .new name completion =>
    let (trial, reports) := trial.replace name (Listener.new completion trial.now)
    (trial, .ok, reports)
  | .unlimited name =>
    let (trial, reports) := trial.replace name (Listener.unlimited trial.now)
    (trial, .ok, reports)
  | .andThen name sequel =>
    match Table.at? trial.listeners name with
    | some listener =>
      let (listener, report) := listener.followedBy sequel trial.now
      ({ trial with listeners := Table.put trial.listeners name listener }, .ok, report.toList)
    | none => (trial, .none, [])
  | .elapsed name =>
    match Table.at? trial.listeners name with
    | some listener => (trial, .time (listener.elapsed trial.now), [])
    | none => (trial, .none, [])
  | .advance time => ({ trial with now := trial.now + time }, .ok, [])
  | .resolve name outcome => trial.use name (·.resolve outcome trial.now)
  | .drop name => trial.use name fun listener => (listener.drop trial.now).toList

/-- Ends a trial: the listeners which are left are thrown away. -/
def close (trial : Trial σ) : List (Report (Completion σ)) :=
  trial.listeners.flatMap fun entry => (entry.2.drop trial.now).toList

end Trial

/-! Trials which are logged. -/

inductive Notice where
  | complete (name : String) (outcome : Outcome) (latency : Nat)
  | after (tag : String) (outcome : Outcome)
  deriving DecidableEq, Repr

abbrev Action : Type := Step (List Notice)

namespace Action

/-- Makes a listener whose completion is noted under its name. -/
def new (name : String) : Action :=
  Step.new name fun outcome latency log => (log ++ [.complete name outcome latency], none)

/-- Wraps a listener, which is noted by a tag once it is used up. -/
def andThen (name tag : String) : Action :=
  Step.andThen name fun outcome log => (log ++ [.after tag outcome], none)

end Action

/-- Carries out actions one after the other, with the answer to each and what it logged. -/
def Trial.run (trial : Trial (List Notice)) : List Action → List (Reply × List Notice)
  | [] => []
  | action :: rest =>
    let (trial, reply, reports) := trial.step action
    (reply, (inTurn (reports.map Report.carryOut) []).1) :: run trial rest

end Admission.Listener

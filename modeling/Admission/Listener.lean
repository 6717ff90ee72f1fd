import Admission.Fault
import Admission.Outcome
/-!
# Listeners

Every admitted job holds a listener, which waits to hear how the job went. A listener has a
completion until it is used up: resolving it hands the completion the outcome and the time since
the listener was made, and dropping it unused counts as ignoring the job. `andThen` moves the
completion into a new listener which does more afterwards.

What a completion is, is left open. It may be kept as a grant, whose limiter knows what to do with
it, or be what is done itself.
-/

namespace Admission

/-- A completion, until it is used up, and when the listener was made. -/
structure Listener (κ : Type) where
  completion : Option κ
  start : Nat
  deriving DecidableEq, Repr

/-- A completion to be carried out: what it is told. -/
structure Report (κ : Type) where
  completion : κ
  outcome : Outcome
  latency : Nat
  deriving DecidableEq, Repr

namespace Listener

variable {κ : Type}

def new (completion : κ) (now : Nat) : Listener κ := ⟨some completion, now⟩

def elapsed (listener : Listener κ) (now : Nat) : Nat := now - listener.start

/-- Uses the listener up: the report it makes, if it has not made it before, and what is left. -/
def complete (listener : Listener κ) (outcome : Outcome) (now : Nat) :
    Option (Report κ) × Listener κ :=
  (listener.completion.map fun completion => ⟨completion, outcome, listener.elapsed now⟩,
    { listener with completion := none })

/-- Throws the listener away; one which is not used up ignores the job. -/
def drop (listener : Listener κ) (now : Nat) : Option (Report κ) :=
  (listener.complete .ignore now).1

/-- Reports an outcome and throws the listener away: everything which is reported. -/
def resolve (listener : Listener κ) (outcome : Outcome) (now : Nat) : List (Report κ) :=
  let (report, rest) := listener.complete outcome now
  report.toList ++ (rest.drop now).toList

/-- Moves the completion into a new listener, wrapped; the emptied listener is thrown away. The
new one keeps the time at which the first was made. -/
def andThen (listener : Listener κ) (wrap : Option κ → κ) (now : Nat) :
    Listener κ × Option (Report κ) :=
  let emptied := { listener with completion := none }
  (⟨some (wrap listener.completion), listener.start⟩, emptied.drop now)

end Listener

variable {σ : Type}

/-- Something which is done to a state, and which may break off in a fault. -/
abbrev Deed (σ : Type) : Type := σ → σ × Option Fault

/-- What is done when a listener is used up, given the outcome and the time since it was made. -/
abbrev Completion (σ : Type) : Type := Outcome → Nat → Deed σ

/-- What is done after a completion, given the outcome. -/
abbrev Sequel (σ : Type) : Type := Outcome → Deed σ

/-- Deeds one after the other, up to the first fault. -/
def inTurn : List (Deed σ) → Deed σ
  | [], state => (state, none)
  | deed :: rest, state =>
    match deed state with
    | (state, some fault) => (state, some fault)
    | (state, none) => inTurn rest state

namespace Completion

def nothing : Completion σ := fun _ _ state => (state, none)

/-- A completion, if it is still there, and then something more, unless the completion breaks
off. -/
def andThen (inner : Option (Completion σ)) (sequel : Sequel σ) : Completion σ :=
  fun outcome latency state =>
    match inner with
    | some inner =>
      match inner outcome latency state with
      | (state, some fault) => (state, some fault)
      | (state, none) => sequel outcome state
    | none => sequel outcome state

end Completion

namespace Report

def carryOut (report : Report (Completion σ)) : Deed σ :=
  report.completion report.outcome report.latency

end Report

namespace Listener

/-- A listener which nobody waits to hear from. -/
def unlimited (now : Nat) : Listener (Completion σ) := new Completion.nothing now

/-- Has something more done once the outcome has been recorded. -/
def followedBy (listener : Listener (Completion σ)) (sequel : Sequel σ) (now : Nat) :
    Listener (Completion σ) × Option (Report (Completion σ)) :=
  listener.andThen (Completion.andThen · sequel) now

end Listener
end Admission

import Admission.Reply
import Admission.Table
/-!
# Trials of limited work

Pieces of limited work by name, which are looked at and sent their replies one step at a time.
-/

namespace Admission.Limited

variable {C L G W V : Type}

/-- A piece of work under trial. The work itself is the reply it was sent. -/
structure Piece (V G : Type) where
  limited : Limited (Option (Reply V V)) G
  /-- Whether somebody waits to hear of the reply. -/
  watched : Bool
  /-- Whether there has been news since the last look. -/
  woken : Bool
  finished : Bool

/-- A desk and the pieces of work which are not thrown away. -/
structure Trial (L G V : Type) where
  desk : Desk L
  pieces : Table (Piece V G)
  verdictOn : Judge V V

inductive Action (C V : Type) where
  /-- Asks for admission, and makes a piece of work that nobody looks at yet. -/
  | start (id : String) (ctx : C)
  /-- Sends the reply; only the first one counts. -/
  | complete (id : String) (reply : Reply V V)
  | poll (id : String)
  | drop (id : String)

inductive Response (V : Type) where
  | ok
  | none
  | rejected
  | pending
  | ready (result : Except V V)
  | brokenDown (text : String)

structure Sight (V : Type) where
  response : Response V
  outcomes : List (Nat × Outcome)
  state : LimiterView
  /-- The pieces with news, by name. -/
  woken : List String

namespace Trial

def create (limiter : L) (verdictOn : Judge V V) : Trial L G V :=
  ⟨Desk.create limiter, [], verdictOn⟩

def respond (fault : Option Fault) : Response V :=
  match fault with
  | some fault => .brokenDown fault.message
  | Option.none => .ok

/-- A look at a piece of work. One which has ended is not looked at again. -/
def poll (C : Type) [Limiter C L G W] (trial : Trial L G V) (id : String) (piece : Piece V G) :
    Trial L G V × Response V :=
  if piece.finished then (trial, .none)
  else
    let look := fun mail : Option (Reply V V) => (mail, Reply.answer? mail)
    let (limited, desk, answer) := piece.limited.poll C look trial.verdictOn trial.desk 0
    let keep := fun piece => { trial with desk, pieces := Table.put trial.pieces id piece }
    match answer with
    | .pending => (keep ⟨limited, true, false, false⟩, .pending)
    | .ready result => (keep ⟨limited, false, false, true⟩, .ready result)
    | .brokenDown text => (keep ⟨limited, false, false, true⟩, .brokenDown text)

def discard (C : Type) [Limiter C L G W] (trial : Trial L G V) (id : String) :
    Trial L G V × Response V :=
  match Table.at? trial.pieces id with
  | some piece =>
    let (desk, fault) := piece.limited.drop C trial.desk 0 false
    ({ trial with desk, pieces := Table.remove trial.pieces id }, respond fault)
  | none => (trial, .none)

def step [Limiter C L G W] (trial : Trial L G V) : Action C V → Trial L G V × Response V
  | .start id ctx =>
    match trial.desk.acquireNow ctx 0 with
    | (desk, .error fault) => ({ trial with desk }, .brokenDown fault.message)
    | (desk, .ok none) => ({ trial with desk }, .rejected)
    | (desk, .ok (some pass)) =>
      let piece := ⟨Limited.new none pass, false, false, false⟩
      let trial := (discard C { trial with desk } id).1
      ({ trial with pieces := Table.put trial.pieces id piece }, .ok)
  | .complete id reply =>
    match Table.at? trial.pieces id with
    | some piece =>
      if piece.limited.work.isSome || piece.finished then (trial, .none)
      else
        let piece := { piece with
          limited := { piece.limited with work := some reply }
          woken := piece.watched }
        ({ trial with pieces := Table.put trial.pieces id piece }, .ok)
    | none => (trial, .none)
  | .poll id =>
    match Table.at? trial.pieces id with
    | some piece => trial.poll C id piece
    | none => (trial, .none)
  | .drop id => trial.discard C id

def observe [Limiter C L G W] [Observable L] (trial : Trial L G V) (action : Action C V) :
    Trial L G V × Sight V :=
  let trial := { trial with desk := { trial.desk with settled := [] } }
  let (trial, response) := trial.step action
  (trial, {
    response
    outcomes := trial.desk.outcomes
    state := Observable.state trial.desk.limiter
    woken := ((trial.pieces.filter (·.2.woken)).map (·.1)).mergeSort })

/-- Carries out steps one after the other, as long as the program goes on, with what is seen after
each. -/
def run [Limiter C L G W] [Observable L] (trial : Trial L G V) :
    List (Action C V) → List (Sight V)
  | [] => []
  | action :: rest =>
    let (trial, sight) := trial.observe action
    if trial.desk.isOver then [] else sight :: run trial rest

end Trial
end Admission.Limited

import Admission.Limiter
import Admission.Listener
import Admission.Table
/-!
# Desks

A desk is a limiter which many jobs share, with a number for each listener it hands out and a
record of what was reported on them.
-/

namespace Admission

/-- A report on the listener of a number, and the fault which the limiter met over it. -/
structure Settlement where
  number : Nat
  outcome : Outcome
  fault : Option Fault
  deriving DecidableEq, Repr

/-- A limiter, how many listeners it has handed out, and what was reported on them, the latest
last. -/
structure Desk (L : Type) where
  limiter : L
  handedOut : Nat
  settled : List Settlement
  deriving Repr

structure Pass (G : Type) where
  number : Nat
  listener : Listener G
  deriving DecidableEq, Repr

namespace Desk

variable {C L G W : Type}

def create (limiter : L) : Desk L := ⟨limiter, 0, []⟩

def handOut (desk : Desk L) (grant : G) (now : Nat) : Desk L × Pass G :=
  ({ desk with handedOut := desk.handedOut + 1 }, ⟨desk.handedOut, Listener.new grant now⟩)

/-- The outcomes which were reported without a fault, by the numbers of the listeners. -/
def outcomes (desk : Desk L) : List (Nat × Outcome) :=
  (desk.settled.filter (·.fault.isNone)).map fun settlement =>
    (settlement.number, settlement.outcome)

/-- Whether the program has ended over a fault which was met while another one was on its way up. -/
def isOver (desk : Desk L) : Bool := desk.settled.any (·.fault = some .aborted)

/-- Carries out the reports of the listener with a number, up to the first fault. If they are part
of cleaning up after another fault, a fault ends the program. -/
def report [Limiter C L G W] (desk : Desk L) (number : Nat) (cleaning : Bool) :
    List (Report G) → Desk L × Option Fault
  | [] => (desk, none)
  | report :: rest =>
    let (limiter, fault) :=
      Limiter.release C desk.limiter report.completion report.outcome report.latency
    let fault := Fault.met cleaning fault
    let desk := { desk with
      limiter := limiter
      settled := desk.settled ++ [⟨number, report.outcome, fault⟩] }
    match fault with
    | some fault => (desk, some fault)
    | none => desk.report number cleaning rest

variable (C) in
def resolve [Limiter C L G W] (desk : Desk L) (pass : Pass G) (outcome : Outcome) (now : Nat)
    (cleaning : Bool) : Desk L × Option Fault :=
  desk.report (C := C) pass.number cleaning (pass.listener.resolve outcome now)

def acquireNow [Limiter C L G W] (desk : Desk L) (ctx : C) (now : Nat) :
    Desk L × Except Fault (Option (Pass G)) :=
  match Limiter.acquireNow desk.limiter ctx with
  | (limiter, .error fault) => ({ desk with limiter := limiter }, .error fault)
  | (limiter, .ok none) => ({ desk with limiter := limiter }, .ok none)
  | (limiter, .ok (some grant)) =>
    let (desk, pass) := handOut { desk with limiter := limiter } grant now
    (desk, .ok (some pass))

/-- Turns the progress of a caller at the limiter into progress at the desk. -/
def handle (desk : Desk L) (now : Nat) (result : L × Except Fault (Progress G W)) :
    Desk L × Except Fault (Progress (Pass G) W) :=
  let desk := { desk with limiter := result.1 }
  match result.2 with
  | .error fault => (desk, .error fault)
  | .ok (.admitted grant) =>
    let (desk, pass) := desk.handOut grant now
    (desk, .ok (.admitted pass))
  | .ok (.refused cause) => (desk, .ok (.refused cause))
  | .ok (.waiting place) => (desk, .ok (.waiting place))

def acquire [Limiter C L G W] (desk : Desk L) (ctx : C) (now : Nat) :
    Desk L × Except Fault (Progress (Pass G) W) :=
  desk.handle now (Limiter.acquire desk.limiter ctx now)

def poll [Limiter C L G W] (desk : Desk L) (ctx : C) (place : W) (now : Nat) :
    Desk L × Except Fault (Progress (Pass G) W) :=
  desk.handle now (Limiter.poll desk.limiter ctx place now)

variable (C) in
/-- The jobs of some passes are over, one after the other, up to the first fault. The jobs after
that are thrown away while the fault is on its way up, and count as dropped, since nobody has begun
them. -/
def resolveAll [Limiter C L G W] (desk : Desk L) (outcome : Outcome) (now : Nat)
    (cleaning : Bool) : List (Pass G) → Desk L × Option Fault
  | [] => (desk, none)
  | pass :: rest =>
    match desk.resolve C pass outcome now cleaning with
    | (desk, none) => desk.resolveAll outcome now cleaning rest
    | (desk, some fault) =>
      let (desk, more) := desk.resolveAll .dropped now true rest
      (desk, some (fault.cleanedUp more))

/-- A number of passes more for a caller who has some and does not wait. If they are not all to be
had, none is kept: those there were count as ignored, or as dropped after a fault. -/
def acquireMore [Limiter C L G W] (desk : Desk L) (ctx : C) (now : Nat)
    (passes : List (Pass G)) : Nat → Desk L × Except Fault (Option (List (Pass G)))
  | 0 => (desk, .ok (some passes))
  | more + 1 =>
    match desk.acquireNow ctx now with
    | (desk, .ok (some pass)) => desk.acquireMore ctx now (passes ++ [pass]) more
    | (desk, .ok none) =>
      match desk.resolveAll C .ignore now false passes with
      | (desk, none) => (desk, .ok none)
      | (desk, some fault) => (desk, .error fault)
    | (desk, .error fault) =>
      let (desk, more) := desk.resolveAll C .dropped now true passes
      (desk, .error (fault.cleanedUp more))

variable (C) in
def abandon [Limiter C L G W] (desk : Desk L) (place : W) : Desk L :=
  { desk with limiter := Limiter.abandon C desk.limiter place }

/-! Passes which are held under a name. -/

/-- Takes a pass and holds it under a name, if there is one to be had: whether there was. A pass
which was held under that name before counts as ignored. -/
def hold [Limiter C L G W] (desk : Desk L) (holds : Table (Pass G)) (id : String) (ctx : C)
    (now : Nat) : Desk L × Table (Pass G) × Except Fault Bool :=
  match desk.acquireNow ctx now with
  | (desk, .error fault) => (desk, holds, .error fault)
  | (desk, .ok none) => (desk, holds, .ok false)
  | (desk, .ok (some pass)) =>
    match desk.resolveAll C .ignore now false (Table.at? holds id).toList with
    | (desk, none) => (desk, Table.put holds id pass, .ok true)
    | (desk, some fault) => (desk, Table.put holds id pass, .error fault)

variable (C) in
/-- The job of a pass which is held under a name is over: whether there was one. -/
def endHold [Limiter C L G W] (desk : Desk L) (holds : Table (Pass G)) (id : String)
    (outcome : Outcome) (now : Nat) : Desk L × Table (Pass G) × Except Fault Bool :=
  match Table.at? holds id with
  | none => (desk, holds, .ok false)
  | some pass =>
    match desk.resolve C pass outcome now false with
    | (desk, none) => (desk, Table.remove holds id, .ok true)
    | (desk, some fault) => (desk, Table.remove holds id, .error fault)

end Desk
end Admission

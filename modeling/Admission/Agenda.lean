/-!
# Agendas

What a single-threaded run has still to do: who is ready to go on, in the order in which they
became ready, and who is to be woken at which time. Everything which is ready goes on before the
clock moves, and the clock stops at every time at which somebody is to be woken.
-/

namespace Admission

/-- The clock, those who are ready to go on, and the alarms in the order in which they were
set. -/
structure Agenda (F : Type) where
  now : Nat
  ready : List F
  alarms : List (Nat × F)
  deriving Repr

namespace Agenda

variable {F : Type}

def empty : Agenda F := ⟨0, [], []⟩

/-- Puts somebody at the end of those who are ready, unless they are already there. -/
def wake [BEq F] (agenda : Agenda F) (who : F) : Agenda F :=
  if agenda.ready.contains who then agenda else { agenda with ready := agenda.ready ++ [who] }

def setAlarm (agenda : Agenda F) (time : Nat) (who : F) : Agenda F :=
  { agenda with alarms := agenda.alarms ++ [(time, who)] }

def clearAlarms [BEq F] (agenda : Agenda F) (who : F) : Agenda F :=
  { agenda with alarms := agenda.alarms.filter (·.2 != who) }

def forget [BEq F] (agenda : Agenda F) (who : F) : Agenda F :=
  { agenda.clearAlarms who with ready := agenda.ready.filter (· != who) }

def nextAlarm? (agenda : Agenda F) : Option Nat :=
  (agenda.alarms.map (·.1)).min?

/-- Moves the clock, and wakes those whose alarms go off by then. -/
def moveTo [BEq F] (agenda : Agenda F) (time : Nat) : Agenda F :=
  let due := agenda.alarms.filter (·.1 ≤ time)
  let agenda := { agenda with
    now := time
    alarms := agenda.alarms.filter (time < ·.1) }
  due.foldl (fun agenda alarm => agenda.wake alarm.2) agenda

end Agenda

/-- A system of agents `F` which go on one at a time. -/
class Agents (S : Type) (F : outParam Type) where
  agenda : S → Agenda F
  setAgenda : Agenda F → S → S
  /-- One agent goes on as far as it can. -/
  goOn : F → S → S
  /-- How many turns can at most be taken before nobody is ready any more. -/
  turns : S → Nat

namespace Agents

variable {S F : Type} [Agents S F]

/-- Lets those who are ready take turns, at most `fuel` of them. -/
def settleFor : Nat → S → S
  | 0, system => system
  | fuel + 1, system =>
    let agenda := Agents.agenda system
    match agenda.ready with
    | [] => system
    | who :: ready =>
      settleFor fuel (goOn who (setAgenda { agenda with ready := ready } system))

def settle (system : S) : S := settleFor (turns system) system

/-- Moves the clock to a time, stopping for at most `fuel` alarms on the way. -/
def advanceFor [BEq F] (time : Nat) : Nat → S → S
  | 0, system => setAgenda { Agents.agenda system with now := time } system
  | fuel + 1, system =>
    let system := settle system
    let agenda := Agents.agenda system
    match agenda.nextAlarm? with
    | some alarm =>
      if alarm ≤ time then
        advanceFor time fuel (setAgenda (agenda.moveTo (max agenda.now alarm)) system)
      else setAgenda (agenda.moveTo time) system
    | none => setAgenda (agenda.moveTo time) system

/-- Moves the clock on. The alarms on the way, those included which are set meanwhile, are no more
than the turns which can be taken. -/
def advance [BEq F] (time : Nat) (system : S) : S :=
  advanceFor ((Agents.agenda system).now + time) (turns system) system

end Agents
end Admission

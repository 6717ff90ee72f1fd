import Admission.Agenda
import Admission.Reply
import Admission.Table
/-!
# Gateways

A gateway has calls admitted at a desk before it passes them on to a service. A call which is
refused never reaches the service and gets the gateway's own answer. A call which is admitted
reaches it once, and gets its result; the outcome is reported by itself, by a judge's verdict
on the result, or as ignored if the call breaks down or is dropped.

Calls take turns: each goes on until it has to wait, and again when it is woken.
-/

namespace Admission

/-- How a gateway deals with calls for a `κ`, on behalf of a `C`, on a service with state `σ`. -/
structure Trade (C κ σ ν ρ R : Type) where
  verdictOn : Judge String ρ
  /-- The answer to a call which is refused. -/
  refused : Refusal → R
  /-- The answer to a call whose work is done. -/
  passedOn : Except String ρ → R
  /-- The call reaches the service: what the service notes, how the work is to go, and under which
  name replies are sent to it. -/
  invoke : κ → C → σ → σ × List ν × Plan String ρ × String

inductive Phase (G W ρ : Type) where
  | new
  | asking (place : W)
  | working (limited : Limited (Work String ρ) G)

/-- A place for a reply to a call: the name it is sent to, which of the places of that name it is,
and the reply. -/
structure Letterbox (ρ : Type) where
  name : String
  number : Nat
  reply : Option (Reply String ρ)

structure Call (C κ G W ρ : Type) where
  id : String
  ctx : C
  order : κ
  phase : Phase G W ρ
  letterbox : Option (Letterbox ρ)
  /-- Whether the call was made in the background: nobody hears of it if it breaks down. -/
  background : Bool

inductive Ending (R : Type) where
  | answered (answer : R)
  | brokenDown (text : String)
  deriving DecidableEq

/-- What is on record at a gateway, mostly about calls. -/
inductive Gateway.Entry (ν ρ R : Type) where
  /-- A pass was taken without a call, under the listener of a number. -/
  | held (id : String) (listener : Nat)
  | made (id : String)
  /-- The call was not made, because the service was not ready for it; what the caller got. -/
  | unmade (id : String) (answer : R)
  /-- The limiter refused the call. -/
  | refused (id : String) (cause : Refusal)
  /-- The call reached the service, under the listener of a number; what the service noted. -/
  | invoked (id : String) (listener : Nat) (notices : List ν)
  /-- Somebody looked at the work of the call, and what was seen. -/
  | looked (id : String) (answer : Answer (Except String ρ))
  | ended (id : String) (ending : Ending R)
  | dropped (id : String)
  /-- The call was made in the background and broke down. -/
  | unheard (id : String) (text : String)

/-- A gateway at work. Calls are kept in the order in which they were made. -/
structure Gateway (C L G W κ σ ν ρ R : Type) where
  trade : Trade C κ σ ν ρ R
  desk : Desk L
  service : σ
  calls : List (Call C κ G W ρ)
  /-- Passes which are held outside of calls. -/
  holds : Table (Pass G)
  agenda : Agenda String
  /-- How many letterboxes were put up. -/
  letterboxes : Nat
  /-- What is on record, the latest last. -/
  log : List (Gateway.Entry ν ρ R)

namespace Gateway

variable {C L G W κ σ ν ρ R : Type}

def create (trade : Trade C κ σ ν ρ R) (limiter : L) (service : σ) :
    Gateway C L G W κ σ ν ρ R :=
  { trade, desk := Desk.create limiter, service, calls := [], holds := [],
    agenda := Agenda.empty, letterboxes := 0, log := [] }

def endings (gateway : Gateway C L G W κ σ ν ρ R) : List (String × Ending R) :=
  gateway.log.filterMap fun entry =>
    match entry with
    | .unmade id answer => some (id, .answered answer)
    | .ended id ending => some (id, ending)
    | _ => none

def notices (gateway : Gateway C L G W κ σ ν ρ R) : List ν :=
  gateway.log.flatMap fun entry =>
    match entry with
    | .invoked _ _ notices => notices
    | _ => []

def call? (gateway : Gateway C L G W κ σ ν ρ R) (id : String) : Option (Call C κ G W ρ) :=
  gateway.calls.find? (·.id = id)

def make (gateway : Gateway C L G W κ σ ν ρ R) (call : Call C κ G W ρ) :
    Gateway C L G W κ σ ν ρ R :=
  { gateway with
    calls := gateway.calls ++ [call]
    log := gateway.log ++ [Entry.made call.id] }

def keep (gateway : Gateway C L G W κ σ ν ρ R) (call : Call C κ G W ρ) :
    Gateway C L G W κ σ ν ρ R :=
  { gateway with
    calls := gateway.calls.map fun other => if other.id = call.id then call else other }

def remove (gateway : Gateway C L G W κ σ ν ρ R) (id : String) : Gateway C L G W κ σ ν ρ R :=
  { gateway with
    calls := gateway.calls.filter (·.id ≠ id)
    agenda := gateway.agenda.forget id }

def putUp (gateway : Gateway C L G W κ σ ν ρ R) (call : Call C κ G W ρ) (name : String) :
    Gateway C L G W κ σ ν ρ R × Call C κ G W ρ :=
  ({ gateway with letterboxes := gateway.letterboxes + 1 },
    { call with letterbox := some ⟨name, gateway.letterboxes, none⟩ })

def finish (gateway : Gateway C L G W κ σ ν ρ R) (id : String) (ending : Ending R) :
    Gateway C L G W κ σ ν ρ R :=
  { gateway.remove id with log := gateway.log ++ [Entry.ended id ending] }

def decline (gateway : Gateway C L G W κ σ ν ρ R) (id : String) (answer : R) :
    Gateway C L G W κ σ ν ρ R :=
  { gateway with log := gateway.log ++ [Entry.unmade id answer] }

def breakDown (gateway : Gateway C L G W κ σ ν ρ R) (call : Call C κ G W ρ) (text : String) :
    Gateway C L G W κ σ ν ρ R :=
  if call.background then
    { gateway.remove call.id with log := gateway.log ++ [Entry.unheard call.id text] }
  else gateway.finish call.id (.brokenDown text)

def discard (gateway : Gateway C L G W κ σ ν ρ R) (id : String) : Gateway C L G W κ σ ν ρ R :=
  { gateway.remove id with log := gateway.log ++ [Entry.dropped id] }

variable [Limiter C L G W]

def isWoken (gateway : Gateway C L G W κ σ ν ρ R) (call : Call C κ G W ρ) : Bool :=
  match call.phase with
  | .asking place => Limiter.isWoken C gateway.desk.limiter place
  | _ => false

/-- Has the calls go on which were woken by what happened at the desk. -/
def alert (gateway : Gateway C L G W κ σ ν ρ R) : Gateway C L G W κ σ ν ρ R :=
  let woken := gateway.calls.filter gateway.isWoken
  { gateway with
    agenda := woken.foldl (fun agenda call => agenda.wake call.id) gateway.agenda }

def work (gateway : Gateway C L G W κ σ ν ρ R) (call : Call C κ G W ρ)
    (limited : Limited (Work String ρ) G) : Gateway C L G W κ σ ν ρ R :=
  let mail := call.letterbox.bind (·.reply)
  let look := fun work : Work String ρ => (work, work.look gateway.agenda.now mail)
  let seen := limited.work.look gateway.agenda.now mail
  let (limited, desk, answer) :=
    limited.poll C look gateway.trade.verdictOn gateway.desk gateway.agenda.now
  let gateway := { gateway with desk, log := gateway.log ++ [Entry.looked call.id seen] }
  match answer with
  | .pending => gateway.keep { call with phase := .working limited }
  | .ready result => (gateway.finish call.id (.answered (gateway.trade.passedOn result))).alert
  | .brokenDown text =>
    let (desk, _) := limited.drop C gateway.desk gateway.agenda.now true
    (breakDown { gateway with desk } call text).alert

def invoke (gateway : Gateway C L G W κ σ ν ρ R) (call : Call C κ G W ρ) (pass : Pass G) :
    Gateway C L G W κ σ ν ρ R :=
  let (service, notices, plan, name) :=
    gateway.trade.invoke call.order call.ctx gateway.service
  let gateway := { gateway with
    service
    log := gateway.log ++ [Entry.invoked call.id pass.number notices] }
  let work := Work.begin plan gateway.agenda.now
  let agenda := gateway.agenda.clearAlarms call.id
  let agenda := match work.alarm? with
    | some time => if time ≤ agenda.now then agenda else agenda.setAlarm time call.id
    | none => agenda
  let (gateway, call) := match work, call.letterbox with
    | .byMail, none => putUp { gateway with agenda } call name
    | _, _ => ({ gateway with agenda }, call)
  gateway.work call (Limited.new work pass)

def proceed (gateway : Gateway C L G W κ σ ν ρ R) (call : Call C κ G W ρ)
    (result : Desk L × Except Fault (Progress (Pass G) W)) : Gateway C L G W κ σ ν ρ R :=
  let gateway := { gateway with desk := result.1 }
  match result.2 with
  | .error fault => (gateway.breakDown call fault.message).alert
  | .ok (.refused cause) =>
    let gateway := { gateway with log := gateway.log ++ [Entry.refused call.id cause] }
    (gateway.finish call.id (.answered (gateway.trade.refused cause))).alert
  | .ok (.waiting place) => (gateway.keep { call with phase := .asking place }).alert
  | .ok (.admitted pass) => gateway.invoke call pass

/-- The first look of a call at the desk. The time for which it waits begins now. -/
def ask (gateway : Gateway C L G W κ σ ν ρ R) (call : Call C κ G W ρ) :
    Gateway C L G W κ σ ν ρ R :=
  let result := gateway.desk.acquire call.ctx gateway.agenda.now
  let agenda := match result.2 with
    | .ok (.waiting place) =>
      match Limiter.deadline? C L place with
      | some time => gateway.agenda.setAlarm time call.id
      | none => gateway.agenda
    | _ => gateway.agenda
  proceed { gateway with agenda } call result

def goOn (id : String) (gateway : Gateway C L G W κ σ ν ρ R) : Gateway C L G W κ σ ν ρ R :=
  match gateway.call? id with
  | none => gateway
  | some call =>
    match call.phase with
    | .new => gateway.ask call
    | .asking place =>
      gateway.proceed call (gateway.desk.poll call.ctx place gateway.agenda.now)
    | .working limited => gateway.work call limited

/-- Every turn ends a call, or uses up a reason to look again; a call which ends wakes at most
one other. -/
instance : Agents (Gateway C L G W κ σ ν ρ R) String where
  agenda := Gateway.agenda
  setAgenda agenda gateway := { gateway with agenda }
  goOn := goOn
  turns gateway := 4 * (gateway.calls.length + gateway.agenda.ready.length + 4)

inductive Action (C ρ : Type) where
  /-- Takes a pass without a call. -/
  | hold (id : String) (ctx : C)
  | release (id : String) (outcome : Outcome)
  | abandon (id : String)
  /-- Sends a reply to the earliest letterbox of a name which has none. -/
  | reply (name : String) (reply : Reply String ρ)
  | advance (time : Nat)

inductive Answer where
  | ok
  | none
  | done
  | pending
  | admitted
  | rejected
  | fault (fault : Fault)
  deriving DecidableEq, Repr

namespace Answer

def orFault (cause : Option Fault) (answer : Answer) : Answer :=
  match cause with
  | some cause => fault cause
  | Option.none => answer

def ofHold : Except Fault Bool → Answer
  | .ok true => admitted
  | .ok false => rejected
  | .error cause => fault cause

def ofRelease : Except Fault Bool → Answer
  | .ok true => ok
  | .ok false => none
  | .error cause => fault cause

end Answer

def hold (gateway : Gateway C L G W κ σ ν ρ R) (id : String) (ctx : C) :
    Gateway C L G W κ σ ν ρ R × Answer :=
  let (desk, holds, held) := gateway.desk.hold gateway.holds id ctx gateway.agenda.now
  let log :=
    if desk.handedOut = gateway.desk.handedOut then gateway.log
    else gateway.log ++ [Entry.held id gateway.desk.handedOut]
  (alert { gateway with desk, holds, log }, Answer.ofHold held)

def release (gateway : Gateway C L G W κ σ ν ρ R) (id : String) (outcome : Outcome) :
    Gateway C L G W κ σ ν ρ R × Answer :=
  let (desk, holds, released) :=
    gateway.desk.endHold C gateway.holds id outcome gateway.agenda.now
  (alert { gateway with desk, holds }, Answer.ofRelease released)

/-- Drops a call: a place in the queue is given up, and work under way is ignored. -/
def abandon (gateway : Gateway C L G W κ σ ν ρ R) (id : String) :
    Gateway C L G W κ σ ν ρ R × Answer :=
  match gateway.call? id with
  | none => (gateway, .none)
  | some call =>
    let gateway := gateway.discard id
    match call.phase with
    | .new => (gateway, .ok)
    | .asking place => (alert { gateway with desk := gateway.desk.abandon C place }, .ok)
    | .working limited =>
      let (desk, fault) := limited.drop C gateway.desk gateway.agenda.now false
      (alert { gateway with desk }, Answer.orFault fault .ok)

def recipient? (gateway : Gateway C L G W κ σ ν ρ R) (name : String) :
    Option (Call C κ G W ρ × Letterbox ρ) :=
  gateway.calls.foldl (fun best call =>
    match call.letterbox with
    | some box =>
      if box.name = name && box.reply.isNone
          && best.all (fun other : Call C κ G W ρ × Letterbox ρ => box.number < other.2.number)
      then some (call, box) else best
    | none => best) none

def reply (gateway : Gateway C L G W κ σ ν ρ R) (name : String) (reply : Reply String ρ) :
    Gateway C L G W κ σ ν ρ R × Answer :=
  match gateway.recipient? name with
  | none => (gateway, .none)
  | some (call, box) =>
    let gateway := gateway.keep { call with letterbox := some { box with reply := some reply } }
    match call.phase with
    | .working _ => ({ gateway with agenda := gateway.agenda.wake call.id }, .ok)
    | _ => (gateway, .ok)

/-- Carries out an action, up to what it makes ready. -/
def act (gateway : Gateway C L G W κ σ ν ρ R) : Action C ρ → Gateway C L G W κ σ ν ρ R × Answer
  | .hold id ctx => gateway.hold id ctx
  | .release id outcome => gateway.release id outcome
  | .abandon id => gateway.abandon id
  | .reply name reply => gateway.reply name reply
  | .advance time => (Agents.advance time gateway, .ok)

def enqueue (gateway : Gateway C L G W κ σ ν ρ R) (call : Call C κ G W ρ) :
    Gateway C L G W κ σ ν ρ R × Answer :=
  ({ gateway.make call with agenda := gateway.agenda.wake call.id }, .pending)

def start (gateway : Gateway C L G W κ σ ν ρ R) (call : Call C κ G W ρ) :
    Gateway C L G W κ σ ν ρ R × Answer :=
  let gateway := goOn call.id (gateway.make call)
  match gateway.call? call.id with
  | none => (gateway, .done)
  | some _ => ({ gateway with agenda := gateway.agenda.wake call.id }, .pending)

/-- What is seen after a step of any gateway. -/
structure Sight (ν R : Type) where
  time : Nat
  handedOut : Nat
  state : LimiterView
  endings : List (String × Ending R)
  notices : List ν
  /-- The outcomes reported during the step, by the number of the listener. -/
  outcomes : List (Nat × Outcome)

def clear (gateway : Gateway C L G W κ σ ν ρ R) : Gateway C L G W κ σ ν ρ R :=
  { gateway with
    desk := { gateway.desk with settled := [] }
    log := [] }

def sight [Observable L] (gateway : Gateway C L G W κ σ ν ρ R) : Sight ν R :=
  { time := gateway.agenda.now
    handedOut := gateway.desk.handedOut
    state := Observable.state gateway.desk.limiter
    endings := gateway.endings
    notices := gateway.notices
    outcomes := gateway.desk.outcomes.mergeSort fun a b => a.1 ≤ b.1 }

end Gateway
end Admission

import Admission.Instrumented
import Admission.Listener
/-!
# Sessions

A session is one limiter with everything that callers hold of it: the listeners of the jobs which
run, and the callers who wait. It moves by actions, in any order; the clock stands still but for
`advance`. A caller who waits looks at the limiter again only when an action says so.

A script of instructions runs a session from the outside and sees its state after each one.
-/

namespace Admission

structure Caller (C W : Type) where
  id : String
  ctx : C
  place : W
  /-- Whether the caller can be told to give up. -/
  cancellable : Bool
  /-- Whether the caller has been told to. -/
  cancelled : Bool

/-- A limiter in use. Callers are kept in the order in which they came. -/
structure Session (C L G W : Type) where
  limiter : L
  now : Nat
  held : Table (Listener G)
  callers : List (Caller C W)

namespace Session

inductive Action (C : Type) where
  | acquireNow (id : String) (ctx : C)
  /-- Asks for a grant, and waits for it where the limiter lets callers wait. -/
  | acquire (id : String) (ctx : C) (cancellable : Bool)
  /-- Asks for a grant, having been told to give up before. If that is noticed first of all, the
  limiter is not asked. -/
  | acquireCancelled (id : String) (ctx : C) (atOnce : Bool)
  /-- Has a caller who waits look again. -/
  | poll (id : String)
  /-- Has a caller who waits look again, first of all at whether to give up. -/
  | pollCancelled (id : String)
  /-- Has every caller who was woken look again, the earliest first, until none is left. -/
  | pollWoken
  | cancel (id : String)
  /-- A caller goes away. -/
  | abandon (id : String)
  /-- A job ends. -/
  | resolve (id : String) (outcome : Outcome)
  | drop (id : String)
  /-- How long a job has been running. -/
  | elapsed (id : String)
  | advance (time : Nat)

inductive Answer where
  | ok
  | none
  | admitted
  | rejected
  | pending
  | refused (cause : Refusal)
  | time (elapsed : Nat)
  | polled (answers : List (String × Answer))
  | fault (fault : Fault)

variable {C L G W : Type}

def start (limiter : L) : Session C L G W := ⟨limiter, 0, [], []⟩

def caller? (session : Session C L G W) (id : String) : Option (Caller C W) :=
  session.callers.find? (·.id = id)

def forget (session : Session C L G W) (id : String) : Session C L G W :=
  { session with callers := session.callers.filter (·.id ≠ id) }

def update (session : Session C L G W) (caller : Caller C W) : Session C L G W :=
  { session with callers := session.callers.map fun other =>
      if other.id = caller.id then caller else other }

variable [Limiter C L G W]

/-- Whether there is a reason for the caller to look again: a wake-up, the end of the time to
wait, or having been told to give up. -/
def isWoken (session : Session C L G W) (caller : Caller C W) : Bool :=
  Limiter.isWoken C session.limiter caller.place
    || (Limiter.deadline? C L caller.place).any (· ≤ session.now)
    || caller.cancelled

/-- Carries out the reports of a listener, up to the first fault. -/
def report (session : Session C L G W) : List (Report G) → Session C L G W × Option Fault
  | [] => (session, none)
  | report :: rest =>
    match Limiter.release C session.limiter report.completion report.outcome report.latency with
    | (limiter, some fault) => ({ session with limiter := limiter }, some fault)
    | (limiter, .none) => Session.report { session with limiter := limiter } rest

def answer (result : Session C L G W × Option Fault) (answer : Answer) :
    Session C L G W × Answer :=
  match result with
  | (session, some fault) => (session, .fault fault)
  | (session, .none) => (session, answer)

/-- Keeps the listener of a grant. One which was kept under the same name is thrown away. -/
def hold (session : Session C L G W) (id : String) (grant : G) : Session C L G W × Answer :=
  let previous := Table.at? session.held id
  let listener := Listener.new grant session.now
  let session := { session with held := Table.put session.held id listener }
  answer (session.report (previous.bind (·.drop session.now)).toList) .admitted

def acquireNow (session : Session C L G W) (id : String) (ctx : C) : Session C L G W × Answer :=
  match Limiter.acquireNow session.limiter ctx with
  | (limiter, .error fault) => ({ session with limiter := limiter }, .fault fault)
  | (limiter, .ok none) => ({ session with limiter := limiter }, .rejected)
  | (limiter, .ok (some grant)) => hold { session with limiter := limiter } id grant

def dismiss (session : Session C L G W) (caller : Caller C W) : Session C L G W :=
  forget { session with limiter := Limiter.abandon C session.limiter caller.place } caller.id

/-- A caller's first look. One who has to wait joins the others; a caller of the same name who
waits goes away. -/
def acquire (session : Session C L G W) (id : String) (ctx : C) (cancellable : Bool) :
    Session C L G W × Answer :=
  match Limiter.acquire session.limiter ctx session.now with
  | (limiter, .error fault) => ({ session with limiter := limiter }, .fault fault)
  | (limiter, .ok (.admitted grant)) => hold { session with limiter := limiter } id grant
  | (limiter, .ok (.refused cause)) => ({ session with limiter := limiter }, .refused cause)
  | (limiter, .ok (.waiting place)) =>
    let session := { session with limiter := limiter }
    let session := ((session.caller? id).map session.dismiss).getD session
    ({ session with callers := session.callers ++ [⟨id, ctx, place, cancellable, false⟩] },
      .pending)

/-- A first look of a caller who has been told to give up. Which of the two the caller notices
first, that or the limiter, is a matter of chance; whoever has to wait goes away at once. -/
def acquireCancelled (session : Session C L G W) (id : String) (ctx : C) (atOnce : Bool) :
    Session C L G W × Answer :=
  if atOnce then (session, .refused .cancelled)
  else
    match session.acquire id ctx true with
    | (session, .pending) =>
      (((session.caller? id).map session.dismiss).getD session, .refused .cancelled)
    | result => result

/-- A further look of a caller who waits, at the limiter first. One who was told to give up and
still has to wait goes away. -/
def poll (session : Session C L G W) (caller : Caller C W) : Session C L G W × Answer :=
  match Limiter.poll session.limiter caller.ctx caller.place session.now with
  | (limiter, .error fault) =>
    (forget { session with limiter := limiter } caller.id, .fault fault)
  | (limiter, .ok (.admitted grant)) =>
    hold (forget { session with limiter := limiter } caller.id) caller.id grant
  | (limiter, .ok (.refused cause)) =>
    (forget { session with limiter := limiter } caller.id, .refused cause)
  | (limiter, .ok (.waiting place)) =>
    let session := { session with limiter := limiter }
    let caller := { caller with place := place }
    if caller.cancelled then (session.dismiss caller, .refused .cancelled)
    else (session.update caller, .pending)

/-- A further look of a caller who waits, first at whether to give up. One who was told to goes away
without looking at the limiter, whether or not there was a wake-up to use. -/
def pollCancelled (session : Session C L G W) (caller : Caller C W) : Session C L G W × Answer :=
  if caller.cancelled then (session.dismiss caller, .refused .cancelled) else session.poll caller

/-- Has callers who were woken look again, the earliest first, at most `looks` times. -/
def pollWoken : Nat → Session C L G W → List (String × Answer) → Session C L G W × Answer
  | 0, session, answers => (session, .polled answers)
  | looks + 1, session, answers =>
    match session.callers.find? session.isWoken with
    | none => (session, .polled answers)
    | some caller =>
      match session.poll caller with
      | (session, .fault fault) => (session, .fault fault)
      | (session, answer) => pollWoken looks session (answers ++ [(caller.id, answer)])

def use (session : Session C L G W) (id : String) (how : Listener G → List (Report G)) :
    Session C L G W × Answer :=
  match Table.at? session.held id with
  | none => (session, .none)
  | some listener =>
    let session := { session with held := Table.remove session.held id }
    answer (session.report (how listener)) .ok

/-- Carries out an action. Every look of `pollWoken` uses up the only reason for it, and each
caller can be woken at most twice more by those who are admitted meanwhile. -/
def step (session : Session C L G W) :
    Action C → Session C L G W × Answer
  | .acquireNow id ctx => session.acquireNow id ctx
  | .acquire id ctx cancellable => session.acquire id ctx cancellable
  | .acquireCancelled id ctx atOnce => session.acquireCancelled id ctx atOnce
  | .poll id =>
    match session.caller? id with
    | some caller => session.poll caller
    | none => (session, .none)
  | .pollCancelled id =>
    match session.caller? id with
    | some caller => session.pollCancelled caller
    | none => (session, .none)
  | .pollWoken => pollWoken (4 * session.callers.length + 4) session []
  | .cancel id =>
    match session.caller? id with
    | some caller =>
      if caller.cancellable && !caller.cancelled then
        (session.update { caller with cancelled := true }, .ok)
      else (session, .none)
    | none => (session, .none)
  | .abandon id =>
    match session.caller? id with
    | some caller => (session.dismiss caller, .ok)
    | none => (session, .none)
  | .resolve id outcome => session.use id (·.resolve outcome session.now)
  | .drop id => session.use id fun listener => (listener.drop session.now).toList
  | .elapsed id =>
    match Table.at? session.held id with
    | some listener => (session, .time (listener.elapsed session.now))
    | none => (session, .none)
  | .advance time => ({ session with now := session.now + time }, .ok)

/-- What is seen after an action: the answer, the limiter, the callers who have a reason to look
again, and the samples taken during the action. -/
structure Sight where
  answer : Answer
  state : LimiterView
  woken : List String
  samples : List Sample

/-- What a script has happen: an action, or a look inside the limiter. -/
inductive Instruction (C : Type) where
  | act (action : Action C)
  | setNext (limit : Nat)
  /-- Looks for a part of the limiter by name. A session does not open its limiter up, so there
  is no such thing. -/
  | lookUp (name : String)

def follow [Instrumented L] (session : Session C L G W) : Instruction C → Session C L G W × Answer
  | .act action => session.step action
  | .setNext limit =>
    ({ session with limiter := Instrumented.setNext limit session.limiter }, .ok)
  | .lookUp _ => (session, .none)

def observe [Observable L] [Instrumented L] (session : Session C L G W)
    (instruction : Instruction C) : Session C L G W × Sight :=
  let session := { session with limiter := Instrumented.clear session.limiter }
  let (session, answer) := session.follow instruction
  (session, {
    answer
    state := Observable.state session.limiter
    woken := (session.callers.filter session.isWoken).map (·.id)
    samples := Instrumented.samples session.limiter })

/-- Carries out instructions one after the other, up to the first fault: the session at the end,
and what was seen after each of them. -/
def run [Observable L] [Instrumented L] (session : Session C L G W) :
    List (Instruction C) → Session C L G W × List Sight
  | [] => (session, [])
  | instruction :: rest =>
    let (session, sight) := session.observe instruction
    match sight.answer with
    | .fault _ => (session, [sight])
    | _ =>
      let (session, sights) := session.run rest
      (session, sight :: sights)

end Session
end Admission

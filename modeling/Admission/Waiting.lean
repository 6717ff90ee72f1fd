import Admission.Limiter
import Admission.Waiting.Queue
/-!
# Waiting for capacity

A limiter around another one which has callers wait, in the order in which they came, until the
inner limiter has capacity or their time is up. Each job which ends wakes one caller. Nobody
overtakes a caller who waits, whatever capacity is free.
-/

namespace Admission

/-- A limiter whose callers wait, each for `timeout` at most if there is one. -/
structure Waiting (L : Type) where
  inner : L
  timeout : Option Nat
  queue : TicketQueue
  deriving Repr

/-- Where a caller waits: the ticket, and when the caller's time is up. -/
structure Place where
  ticket : Nat
  deadline : Option Nat
  deriving DecidableEq, Repr

namespace Waiting

variable {C L G W : Type} [Limiter C L G W]

def create (inner : L) (timeout : Option Nat) : Waiting L := ⟨inner, timeout, .empty⟩

def acquireNow (limiter : Waiting L) (ctx : C) : Waiting L × Except Fault (Option G) :=
  if limiter.queue.isBusy then (limiter, .ok none)
  else
    let (inner, result) := Limiter.acquireNow limiter.inner ctx
    ({ limiter with inner := inner }, result)

def abandon (limiter : Waiting L) (place : Place) : Waiting L :=
  { limiter with queue := limiter.queue.leave place.ticket }

/-- A caller who did not get in stays, unless the time is up. -/
def remain (limiter : Waiting L) (place : Place) (now : Nat) :
    Waiting L × Except Fault (Progress G Place) :=
  match place.deadline with
  | some deadline =>
    if deadline ≤ now then (limiter.abandon place, .ok (.refused .timedOut))
    else (limiter, .ok (.waiting place))
  | none => (limiter, .ok (.waiting place))

/-- A newcomer who was not let in joins the queue at the back. -/
def join (limiter : Waiting L) (now : Nat) : Waiting L × Except Fault (Progress G Place) :=
  let (queue, ticket) := limiter.queue.joinBack
  remain { limiter with queue := queue } ⟨ticket, limiter.timeout.map (now + ·)⟩ now

/-- The first look: a newcomer tries for capacity only when nobody waits or is on the way back. -/
def acquire (limiter : Waiting L) (ctx : C) (now : Nat) :
    Waiting L × Except Fault (Progress G Place) :=
  if limiter.queue.waiters.isEmpty && limiter.queue.woken == 0 then
    match Limiter.acquireNow limiter.inner ctx with
    | (inner, .error fault) => ({ limiter with inner := inner }, .error fault)
    | (inner, .ok (some grant)) => ({ limiter with inner := inner }, .ok (.admitted grant))
    | (inner, .ok none) => join { limiter with inner := inner } now
  else limiter.join now

/-- A further look: a caller who was woken tries for capacity, and keeps the place at the front
if there is none. -/
def poll (limiter : Waiting L) (ctx : C) (place : Place) (now : Nat) :
    Waiting L × Except Fault (Progress G Place) :=
  if limiter.queue.isSent place.ticket then
    let queue := limiter.queue.use place.ticket
    match Limiter.acquireNow limiter.inner ctx with
    | (inner, .error fault) => ({ limiter with inner := inner, queue := queue }, .error fault)
    | (inner, .ok (some grant)) =>
      ({ limiter with inner := inner, queue := queue }, .ok (.admitted grant))
    | (inner, .ok none) =>
      let (queue, ticket) := queue.joinFront
      remain { limiter with inner := inner, queue := queue } { place with ticket := ticket } now
  else limiter.remain place now

/-- A job ends: its permit goes back first, then the next caller is woken. -/
def release (limiter : Waiting L) (grant : G) (outcome : Outcome) (latency : Nat) :
    Waiting L × Option Fault :=
  match Limiter.release C limiter.inner grant outcome latency with
  | (inner, some fault) => ({ limiter with inner := inner }, some fault)
  | (inner, none) => ({ limiter with inner := inner, queue := limiter.queue.wakeFront }, none)

end Waiting

variable {C L G W : Type}

instance [Limiter C L G W] : Limiter C (Waiting L) G Place where
  acquireNow := Waiting.acquireNow
  acquire := Waiting.acquire
  poll := Waiting.poll
  abandon := Waiting.abandon
  isWoken limiter place := limiter.queue.isSent place.ticket
  deadline? := Place.deadline
  release := Waiting.release (C := C)

instance {L : Type} [Observable L] : Observable (Waiting L) where
  state limiter := .waiting limiter.queue.waiters.length (Observable.state limiter.inner)

end Admission

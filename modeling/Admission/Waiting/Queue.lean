/-!
# The queue of waiting callers

Callers wait under tickets, first come, first served. A wake-up takes the ticket at the front out
of the queue and is owed to its caller until the caller looks again; `woken` counts the wake-ups
on their way. A wake-up only gets to a caller who is still there to receive it.
-/

namespace Admission

/-- The callers waiting for capacity. -/
structure TicketQueue where
  /-- The tickets which wait, the next to be woken first. -/
  waiters : List Nat
  /-- Wake-ups which were sent and not used. -/
  woken : Nat
  nextTicket : Nat
  /-- Tickets to which a wake-up was sent that their callers have not received. -/
  sent : List Nat
  /-- Tickets whose callers are there to receive a wake-up. -/
  attended : List Nat
  deriving DecidableEq, Repr

namespace TicketQueue

def empty : TicketQueue := ⟨[], 0, 0, [], []⟩

/-- Whether somebody waits or is on the way back: newcomers have to queue up. -/
def isBusy (queue : TicketQueue) : Bool := !queue.waiters.isEmpty || 0 < queue.woken

def joinBack (queue : TicketQueue) : TicketQueue × Nat :=
  ({ queue with
      waiters := queue.waiters ++ [queue.nextTicket]
      nextTicket := queue.nextTicket + 1
      attended := queue.nextTicket :: queue.attended }, queue.nextTicket)

/-- A new ticket at the front, for a caller who was woken in vain. -/
def joinFront (queue : TicketQueue) : TicketQueue × Nat :=
  ({ queue with
      waiters := queue.nextTicket :: queue.waiters
      nextTicket := queue.nextTicket + 1
      attended := queue.nextTicket :: queue.attended }, queue.nextTicket)

/-- Sends a wake-up to the first of some tickets which is attended; those before it are lost, and
those behind it wait. -/
def wakeFirst (queue : TicketQueue) : List Nat → TicketQueue
  | [] => { queue with waiters := [] }
  | ticket :: waiters =>
    if queue.attended.contains ticket then
      { queue with waiters := waiters, woken := queue.woken + 1, sent := queue.sent ++ [ticket] }
    else queue.wakeFirst waiters

def wakeFront (queue : TicketQueue) : TicketQueue := queue.wakeFirst queue.waiters

def isSent (queue : TicketQueue) (ticket : Nat) : Bool := queue.sent.contains ticket

/-- The caller of a ticket does not listen for a wake-up any more. -/
def unattend (queue : TicketQueue) (ticket : Nat) : TicketQueue :=
  { queue with attended := queue.attended.erase ticket }

/-- The caller receives the wake-up which was sent to a ticket. -/
def use (queue : TicketQueue) (ticket : Nat) : TicketQueue :=
  { queue.unattend ticket with
    sent := queue.sent.filter (· ≠ ticket), woken := queue.woken - 1 }

/-- The caller goes away: a ticket which waits is taken out, and a wake-up which will not be used
goes to the next in line. -/
def leave (queue : TicketQueue) (ticket : Nat) : TicketQueue :=
  if queue.waiters.contains ticket then
    { queue.unattend ticket with waiters := queue.waiters.erase ticket }
  else (queue.use ticket).wakeFront

end TicketQueue
end Admission

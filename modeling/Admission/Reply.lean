import Admission.Limited
/-!
# Replies

How work which is only acted out answers: with a result or by breaking down, at once, after some
time, or when it is told to.
-/

namespace Admission

/-- The end of a piece of work: its result, or the text with which it broke down. -/
inductive Reply (ε ρ : Type) where
  | result (value : Except ε ρ)
  | breakdown (text : String)

namespace Reply

variable {ε ρ : Type}

def answer : Reply ε ρ → Answer (Except ε ρ)
  | result value => .ready value
  | breakdown text => .brokenDown text

def answer? : Option (Reply ε ρ) → Answer (Except ε ρ)
  | some reply => reply.answer
  | none => .pending

end Reply

/-- How a piece of work is to go: a reply, which may take some time, or whatever it is sent. -/
inductive Plan (ε ρ : Type) where
  | reply (reply : Reply ε ρ) (after : Nat)
  | manual

/-- Work under way: its reply is due at a time, or comes by mail. -/
inductive Work (ε ρ : Type) where
  | due (time : Nat) (reply : Reply ε ρ)
  | byMail

namespace Work

variable {ε ρ : Type}

def begin (plan : Plan ε ρ) (now : Nat) : Work ε ρ :=
  match plan with
  | .reply reply after => due (now + after) reply
  | .manual => byMail

def look (work : Work ε ρ) (now : Nat) (mail : Option (Reply ε ρ)) : Answer (Except ε ρ) :=
  match work with
  | due time reply => if time ≤ now then reply.answer else .pending
  | byMail => Reply.answer? mail

/-- When the work has to be looked at again, if that is known. -/
def alarm? : Work ε ρ → Option Nat
  | due time _ => some time
  | byMail => none

end Work
end Admission

import Admission.Proofs.Session.Kept
import Admission.Waiting

/-!
# Chains of completions

A listener which was wrapped any number of times holds one completion, a chain: the completion it
was made with inside, and around it what it was wrapped with. Carrying out a chain does what is
inside first. The listeners of a limiter whose callers wait are chains of this kind.
-/

namespace Admission

variable {σ : Type}

lemma inTurn_singleton (deed : Deed σ) : inTurn [deed] = deed := by
  funext state
  simp only [inTurn]
  rcases deed state with ⟨next, _ | fault⟩ <;> rfl

lemma inTurn_append (early late : List (Deed σ)) :
    inTurn (early ++ late) = inTurn (inTurn early :: late) := by
  funext state
  induction early generalizing state with
  | nil => rfl
  | cons deed rest ih =>
    rw [List.cons_append]
    simp only [inTurn]
    rcases done : deed state with ⟨next, _ | fault⟩
    · simpa only [inTurn] using ih next
    · rfl

namespace Listener

/-- All that is done when a listener is used up: its completion is carried out, and then what the
listener was wrapped with, in the order of wrapping. -/
def deeds (completion : Completion σ) (sequels : List (Sequel σ)) (outcome : Outcome)
    (latency : Nat) : List (Deed σ) :=
  completion outcome latency :: sequels.map (· outcome)

/-- A completion within all that a listener was wrapped with, the earliest innermost. -/
def chain (completion : Completion σ) (sequels : List (Sequel σ)) : Completion σ :=
  sequels.foldl (fun inner sequel => Completion.andThen (some inner) sequel) completion

/-- A listener which is wrapped at some times, and everything which is reported meanwhile. -/
def wrapped (listener : Listener (Completion σ)) :
    List (Sequel σ × Nat) → Listener (Completion σ) × List (Report (Completion σ))
  | [] => (listener, [])
  | (sequel, now) :: rest =>
    let (outer, report) := listener.followedBy sequel now
    let (outermost, reports) := outer.wrapped rest
    (outermost, report.toList ++ reports)

variable (completion : Completion σ) (outcome : Outcome) (latency : Nat)

lemma andThen_some (sequel : Sequel σ) :
    Completion.andThen (some completion) sequel outcome latency =
      inTurn [completion outcome latency, sequel outcome] := by
  funext state
  rw [Completion.andThen, inTurn, inTurn_singleton]

/-- A chain is carried out from the inside out. -/
lemma chain_eq (sequels : List (Sequel σ)) :
    chain completion sequels outcome latency =
      inTurn (deeds completion sequels outcome latency) := by
  induction sequels generalizing completion with
  | nil => exact (inTurn_singleton (completion outcome latency)).symm
  | cons sequel rest ih =>
    calc chain completion (sequel :: rest) outcome latency
        = chain (Completion.andThen (some completion) sequel) rest outcome latency := rfl
      _ = inTurn (deeds (Completion.andThen (some completion) sequel) rest outcome latency) := ih _
      _ = inTurn (inTurn [completion outcome latency, sequel outcome] ::
            rest.map (· outcome)) := by rw [deeds, andThen_some]
      _ = inTurn (deeds completion (sequel :: rest) outcome latency) :=
        (inTurn_append [completion outcome latency, sequel outcome] _).symm

/-- A chain may be taken for one completion when it is wrapped further. -/
lemma deeds_chain (early late : List (Sequel σ)) :
    inTurn (deeds (chain completion early) late outcome latency) =
      inTurn (deeds completion (early ++ late) outcome latency) := by
  rw [deeds, chain_eq, ← inTurn_append, deeds, deeds, List.cons_append, List.map_append]

/-- Wrapping reports nothing, and what the listener holds afterwards is the chain. -/
lemma wrapped_of_unused (made : Nat) (wraps : List (Sequel σ × Nat)) :
    wrapped ⟨some completion, made⟩ wraps =
      (⟨some (chain completion (wraps.map Prod.fst)), made⟩, []) := by
  induction wraps generalizing completion with
  | nil => rfl
  | cons wrap rest ih =>
    obtain ⟨sequel, now⟩ := wrap
    simp only [wrapped, followedBy, andThen, drop, complete, Option.map_none, Option.toList_none,
      List.nil_append]
    rw [ih]
    rfl

end Listener

/-! The listeners of a limiter whose callers wait. -/

namespace Waiting

variable {C L G W : Type} [Limiter C L G W]

variable (C) in
/-- The completion of a listener of the inner limiter: its grant goes back. -/
def givesBack (grant : G) : Completion (Waiting L) := fun outcome latency limiter =>
  let (inner, fault) := Limiter.release C limiter.inner grant outcome latency
  ({ limiter with inner := inner }, fault)

/-- What such a listener is wrapped with: the next caller is woken. -/
def wakesNext : Sequel (Waiting L) := fun _ limiter =>
  ({ limiter with queue := limiter.queue.wakeFront }, none)

/-- A grant goes back by way of a listener of the inner limiter which is wrapped. -/
theorem release_eq_andThen (limiter : Waiting L) (grant : G) (outcome : Outcome) (latency : Nat) :
    limiter.release (C := C) grant outcome latency =
      Completion.andThen (some (givesBack C grant)) wakesNext outcome latency limiter := by
  simp only [release, Completion.andThen, givesBack]
  rcases Limiter.release C limiter.inner grant outcome latency with ⟨inner, _ | fault⟩ <;> rfl

end Waiting
end Admission

import Admission.Algorithm.Aimd
import Admission.Proofs.Gate.Permits
import Admission.Proofs.Gate.Tally
import Admission.Proofs.Waiting.Bookkeeping

/-!
# Raising the limit while callers wait

A job which ends wakes one caller, whatever becomes free with it. That is enough where the limit
stays or falls, and where a raise is used up by permits which were owed. A raise above that frees
permits of which nobody is told: they lie idle while the others go on waiting.
-/

namespace Admission

namespace TicketQueue

variable {queue : TicketQueue}

lemma Sound.wakeFront_waiters (sound : queue.Sound) :
    queue.wakeFront.waiters = queue.waiters.tail := by
  cases waits : queue.waiters with
  | nil => rw [wakeFront_of_nil waits, waits, List.tail_nil]
  | cons first rest => rw [sound.wakeFront_of_cons waits, List.tail_cons]

lemma Sound.wakeFront_woken (sound : queue.Sound) :
    queue.wakeFront.woken = queue.woken + min 1 queue.waiters.length := by
  cases waits : queue.waiters with
  | nil =>
    rw [wakeFront_of_nil waits]
    rfl
  | cons first rest =>
    rw [sound.wakeFront_of_cons waits, List.length_cons, Nat.min_eq_left (by omega)]

end TicketQueue

namespace Waiting

open Session (Action)

variable {C α : Type} [Algorithm α]

/-- Nobody waits, or every permit which is free is promised to a caller who was woken. -/
def EachPromised (session : Session C (Waiting (Gate α)) Unit Place) : Prop :=
  session.limiter.queue.waiters = [] ∨
    session.limiter.inner.available ≤ session.limiter.queue.woken

instance (session : Session C (Waiting (Gate α)) Unit Place) : Decidable (EachPromised session) :=
  inferInstanceAs (Decidable (_ ∨ _))

variable {session : Session C (Waiting (Gate α)) Unit Place} {id : String} {action : Action C}

/-- A job which ends wakes the first who waits, or meets a fault of the gate and wakes nobody. -/
lemma step_wakes_one (kept : session.Kept) (held : (Table.at? session.held id).isSome = true)
    (resolves : action.Resolves id) :
    (∃ fault, (session.step action).2 = .fault fault ∧
        (session.step action).1.limiter.queue = session.limiter.queue) ∨
      ∃ outcome latency inner, session.limiter.inner.leave outcome latency = (inner, none) ∧
        (session.step action).2 = .ok ∧
        (session.step action).1.limiter = { session.limiter with
          inner := inner, queue := session.limiter.queue.wakeFront } := by
  obtain ⟨listener, found⟩ := Option.isSome_iff_exists.mp held
  obtain ⟨grant, outcome, latency, stepped⟩ := Session.step_of_resolves kept found resolves
  rw [stepped]
  cases released : Limiter.release C session.limiter grant outcome latency with
  | mk limiter fault =>
    cases fault with
    | some fault =>
      obtain ⟨inner, -, rfl⟩ := release_failed released
      exact .inl ⟨fault, rfl, rfl⟩
    | none =>
      obtain ⟨inner, leaves, rfl⟩ := release_fine released
      exact .inr ⟨outcome, latency, inner, leaves, rfl, rfl⟩

/-- An outcome wakes one caller, whatever it frees. Where every free permit was promised before,
what stays free after it without being promised is what the new limit is above the old limit and
the debt. So every free permit is promised again, or nobody waits any more, exactly if at most one
caller waited or the new limit is not above the two. -/
theorem outcome_wakes_one_caller (gate : Gate α) (timeout : Option Nat)
    (actions : List (Action C)) :
    let session := (Session.start (create gate timeout) :
      Session C (Waiting (Gate α)) Unit Place).after actions
    ∀ id action, (Table.at? session.held id).isSome = true → action.Resolves id →
      session.limiter.inner.available = session.limiter.queue.woken →
      let next := (session.step action).1
      (∃ fault, (session.step action).2 = .fault fault ∧
          next.limiter.queue = session.limiter.queue) ∨
        (session.step action).2 = .ok ∧
          next.limiter.queue.waiters = session.limiter.queue.waiters.tail ∧
          next.limiter.queue.woken =
            session.limiter.queue.woken + min 1 session.limiter.queue.waiters.length ∧
          (session.limiter.queue.waiters ≠ [] →
            next.limiter.inner.available - next.limiter.queue.woken =
              next.limiter.inner.limit -
                (session.limiter.inner.limit + session.limiter.inner.debt)) ∧
          (EachPromised next ↔ session.limiter.queue.waiters.length ≤ 1 ∨
            next.limiter.inner.limit ≤
              session.limiter.inner.limit + session.limiter.inner.debt) := by
  intro session id action held resolves promised next
  have kept : session.Kept := Session.after_kept (Session.start_kept _) actions
  have sound : session.limiter.queue.Sound := (after_lined gate timeout actions).sound
  rcases step_wakes_one kept held resolves with failed | ⟨outcome, latency, inner, leaves, fine, left⟩
  · exact .inl failed
  right
  have frees := Gate.leave_frees leaves
  have next_left : next.limiter = { session.limiter with
    inner := inner, queue := session.limiter.queue.wakeFront } := left
  have nobody_left : session.limiter.queue.waiters.tail = [] ↔
      session.limiter.queue.waiters.length ≤ 1 := by
    rw [← List.length_eq_zero_iff, List.length_tail]
    omega
  unfold EachPromised
  rw [next_left]
  dsimp only
  rw [sound.wakeFront_waiters, sound.wakeFront_woken, nobody_left]
  refine ⟨fine, rfl, rfl, fun waits => ?_, ?_⟩
  · have somebody := List.length_pos_of_ne_nil waits
    omega
  · omega

/-- A job succeeds while one caller waits: the limit rises by one, the caller is woken, and nobody
else is there to use the permit which is new. -/
theorem outcome_wakes_one_caller_who_waits_alone :
    ∃ gate, Gate.create (⟨1, Double.ofRatio 1 2, 1, 1000, Double.ofRatio 8 10⟩ : Aimd) = .ok gate ∧
      let session : Session Unit (Waiting (Gate Aimd)) Unit Place :=
        (Session.start (create gate none)).after
          [.acquire "a" () false, .acquire "x" () false]
      session.limiter.inner.available = session.limiter.queue.woken ∧
        (session.step (.resolve "a" .success)).1.limiter.inner.limit = 2 ∧
        (session.step (.resolve "a" .success)).1.limiter.queue.woken = 1 ∧
        EachPromised (session.step (.resolve "a" .success)).1 := by
  let rule : Aimd := ⟨1, Double.ofRatio 1 2, 1, 1000, Double.ofRatio 8 10⟩
  refine ⟨(Tally.start rule).gate, rfl, ?_⟩
  intro session
  have before : session.limiter.inner.available = session.limiter.queue.woken ∧
      (Table.at? session.held "a").isSome = true ∧
      session.limiter.queue.waiters.length ≤ 1 := by decide +kernel
  have raised : (session.step (.resolve "a" .success)).1.limiter.inner.limit = 2 ∧
      (session.step (.resolve "a" .success)).1.limiter.queue.woken = 1 ∧
      (session.step (.resolve "a" .success)).2.isFault = false := by decide +kernel
  obtain ⟨promised, held, alone⟩ := before
  obtain ⟨limit, woken, fine⟩ := raised
  rcases outcome_wakes_one_caller (C := Unit) (Tally.start rule).gate none
    [.acquire "a" () false, .acquire "x" () false] "a" _ held (.resolve .success) promised with
    ⟨fault, failed, -⟩ | ⟨-, -, -, -, settled⟩
  · rw [failed] at fine
    exact absurd fine Bool.noConfusion
  · exact ⟨promised, limit, woken, settled.mpr (.inl alone)⟩

/-- The same with two callers who wait: there is room for both now, and one of them is not told. -/
theorem permit_idle_after_raise :
    ∃ gate, Gate.create (⟨1, Double.ofRatio 1 2, 1, 1000, Double.ofRatio 8 10⟩ : Aimd) = .ok gate ∧
      let session : Session Unit (Waiting (Gate Aimd)) Unit Place :=
        (Session.start (create gate none)).after
          [.acquire "a" () false, .acquire "x" () false, .acquire "y" () false]
      let next := (session.step (.resolve "a" .success)).1
      session.limiter.inner.available = session.limiter.queue.woken ∧
        next.limiter.inner.limit = session.limiter.inner.limit + 1 ∧
        next.limiter.inner.available = 2 ∧ next.limiter.queue.woken = 1 ∧
        next.limiter.queue.waiters ≠ [] ∧ ¬EachPromised next := by
  refine ⟨_, rfl, ?_⟩
  decide +kernel

end Waiting
end Admission

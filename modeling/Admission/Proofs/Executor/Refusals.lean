import Admission.Proofs.Executor.Asking

/-!
# Batches which are refused

When a batch is refused the limiter has nothing for it, unless it is the crew which fails it. Then the
listeners which were handed out for it are ignored, and the gates of a nested limiter are left as they
were.
-/

namespace Admission.Executor

variable {L G W V : Type}

/-- The crew itself fails a batch: it fails every batch, or it does so while the batch runs. -/
inductive CrewFails [Limiter TaskLabel L G W] (order : Order W) (error : ExecutorFailure)
    (before : Executor L G W V) : Executor L G W V → Prop
  | given {after : Executor L G W V} {start : Nat} {kept : List Nat}
      (crew : before.crew = .failing start error kept) : CrewFails order error before after
  | running {deadline : Option Nat} (running : order.stage = .running deadline) :
      CrewFails order error before (before.failBatch order error)

section Moves

variable [lim : Limiter TaskLabel L G W] {batches : Prop} {roles : Nat → Role}
  {before after : Executor L G W V} {order : Order W} {cause : Refusal}

/-- Whatever happens, an order is only refused when the limiter has nothing for it, unless it is the
crew which fails. -/
lemma InOrder.refused (kept : InOrder batches roles before) (move : Move batches before after)
    (mem : order ∈ before.orders) (refused : after.endings =
      before.endings ++ [(order.id, .answered (.failed (.refused cause)))]) :
    CrewFails order (.refused cause) before after ∨
      ∃ desk, Denies before order cause desk ∧ TurnsAway order cause desk before after := by
  cases move.fares with
  | quiet _ same => exact (no_ending (same.symm.trans refused)).elim
  | @goOn other other_mem =>
    cases goOnWith_goesOn before other with
    | concludes concludes =>
      obtain ⟨-, wrong | wrong | ⟨start, kept, crew⟩⟩ := concludes.failed refused
      · cases wrong
      · cases wrong
      · exact .inl (.given crew)
    | waits told => exact (no_ending (told.endings.symm.trans refused)).elim
    | denied denies turned =>
      obtain ⟨id, same⟩ := ending_inj (turned.endings.symm.trans refused)
      obtain rfl := kept.arranged.ids other other_mem order mem id
      cases same
      exact .inr ⟨_, denies, turned⟩
  | @close other =>
    have closed : Concludes (fun _ => False) other.id before _ := closeBatch_concludes before other
    exact (closed.failed refused).2.elim
  | @fail other other_mem error deadline running =>
    have fails : Concludes (· = error) other.id before _ := failBatch_concludes before other rfl
    obtain ⟨id, rfl⟩ := fails.failed refused
    obtain rfl := kept.arranged.ids other other_mem order mem id
    exact .inl (.running running)

end Moves

section Answers

variable [lim : Limiter TaskLabel L G W] {executor : Executor L G W V} {order : Order W}
  {desk looked : Desk L} {pass : Pass G} {cause : Refusal}

/-- What the limiter says is handled at the desk. -/
lemma answer_eq (executor : Executor L G W V) (order : Order W) :
    ∃ result, executor.answer order = executor.jobs.desk.handle executor.agenda.now result ∧
      Limiter.Answers TaskLabel executor.jobs.desk.limiter (admitted? result.2) result.1 := by
  unfold answer
  split
  · next place _ => exact ⟨_, rfl, .poll _ order.ctx place executor.agenda.now⟩
  · exact ⟨_, rfl, .acquire _ order.ctx executor.agenda.now⟩

lemma answer_admitted (answered : executor.answer order = (looked, .ok (.admitted pass))) :
    ∃ limiter grant, Limiter.Answers TaskLabel executor.jobs.desk.limiter (some grant) limiter ∧
      Desk.handOut { executor.jobs.desk with limiter := limiter } grant executor.agenda.now =
        (looked, pass) := by
  obtain ⟨result, same, answers⟩ := answer_eq executor order
  obtain ⟨limiter, grant, rfl, given⟩ := Desk.handle_admitted (same.symm.trans answered)
  exact ⟨limiter, grant, answers, given⟩

lemma answer_refused (answered : executor.answer order = (desk, .ok (.refused cause))) :
    Limiter.Answers TaskLabel executor.jobs.desk.limiter none desk.limiter ∧
      desk = { executor.jobs.desk with limiter := desk.limiter } := by
  obtain ⟨result, same, answers⟩ := answer_eq executor order
  obtain ⟨rfl, quiet⟩ := Desk.handle_refused (same.symm.trans answered)
  exact ⟨answers, quiet⟩

/-- When a batch is denied what it needs, all listeners which it had are ignored. -/
lemma Denies.ignoresAll (denies : Denies executor order cause desk) :
    executor.jobs.desk.IgnoresAll desk := by
  cases denies with
  | first answered =>
    obtain ⟨-, quiet⟩ := answer_refused answered
    rw [quiet]
    exact ⟨Nat.le_refl _, by simp⟩
  | more answered acquires =>
    obtain ⟨limiter, grant, -, given⟩ := answer_admitted answered
    exact Desk.ignoresAll_of_refused given acquires

section Gates

variable {α : Type} [Algorithm α] {P : Gate α → Prop} {nest : Nesting TaskLabel α lim}

lemma starts_of_answer (breeds : nest.Breeds P executor.jobs.desk.limiter)
    (answered : executor.answer order = (looked, .ok (.admitted pass))) :
    nest.Starts P executor.jobs.desk pass looked := by
  obtain ⟨limiter, grant, answers, given⟩ := answer_admitted answered
  cases given
  obtain ⟨later, takes⟩ := breeds.answers answers
  exact ⟨later, takes⟩

/-- When a batch is denied what it needs, the gates are as they were, if none of them had free
permits and debt at the same time. -/
lemma Denies.grows (denies : Denies executor order cause desk) (backs : nest.Backs P executor.held)
    (apart : (nest.gates executor.jobs.desk.limiter).Apart) :
    Gates.Grows P (nest.gates executor.jobs.desk.limiter) (nest.gates desk.limiter) := by
  cases denies with
  | first answered =>
    obtain ⟨answers, -⟩ := answer_refused answered
    obtain ⟨-, grown, grows, enters⟩ := backs.breeds.answers answers
    cases enters with
    | nowhere => exact grows
  | more answered acquires =>
    exact (starts_of_answer backs.breeds answered).refused backs apart acquires

end Gates

end Answers

end Admission.Executor

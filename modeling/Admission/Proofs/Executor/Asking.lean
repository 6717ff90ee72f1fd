import Admission.Proofs.Executor.GoingOn
import Admission.Proofs.Nesting.Together

/-!
# Orders which wait to be admitted

All that an executor does to its limiter is to deal in the passes which its tasks hold and those which are
held outside of tasks. So the gates of a nested limiter always cover these passes, and an order which
waits to be admitted waits where the next caller of its kind would be sent.
-/

namespace Admission

open Limiter (Uses)

variable {C L G W : Type} [Limiter C L G W]

lemma Limiter.Answers.uses {before after : L} {grant : Option G}
    (answers : Limiter.Answers C before grant after) : Uses C before after := by
  cases answers with
  | acquireNow ctx => exact (Limiter.Asks.acquireNow before).uses
  | acquire ctx now => exact (Limiter.Asks.acquire before now).uses
  | poll ctx place now => exact (Limiter.Attends.poll before ctx place now).uses
  | abandon place => exact (Limiter.Attends.abandon before place).uses

/-- Whatever happens at a desk, its limiter is used. -/
theorem Desk.Dealings.uses {before after : Desk L × List (Pass G)}
    (dealings : Desk.Dealings C before after) : Uses C before.1.limiter after.1.limiter := by
  induction dealings with
  | refl => exact .refl
  | tail _ deal ih =>
    refine ih.trans ?_
    cases deal with
    | answer answers | handOut answers => exact answers.uses
    | @report desk pass passes outcome now =>
      cases has : pass.listener.completion with
      | none =>
        rw [Desk.resolve_of_used has]
      | some grant =>
        rw [Desk.resolve_of_completion has]
        exact (Limiter.Attends.release desk.limiter grant outcome _).uses
    | reorder => exact .refl

end Admission

namespace Admission.Executor

open Limiter (Uses)

variable {L G W V α : Type}

/-- The desk, and all passes which are held in a hall. -/
def Hall.held (hall : Hall L V G) : Desk L × List (Pass G) :=
  (hall.jobs.desk, pending hall.jobs.tasks ++ hall.loose)

section Dealings

variable [Limiter TaskLabel L G W] {before after : Hall L V G}

lemma Step.dealings (sound : before.Sound) (step : Step before after) :
    Desk.Dealings TaskLabel before.held after.held := by
  have moved : ∀ {desk : Desk L} {passes others : List (Pass G)}, passes.Perm others →
      Desk.Dealings TaskLabel (desk, passes) (desk, others) :=
    fun same => .single (.reorder same)
  cases step with
  | @deal jobs loose others roles desk dealings =>
    exact ((moved List.perm_append_comm).trans (dealings.beside _)).trans
      (moved List.perm_append_comm)
  | @arrive jobs loose roles tasks new =>
    have nothing : pending tasks = [] :=
      List.filterMap_eq_nil_iff.mpr fun task mem => (new task mem).pass
    have same : pending (jobs.tasks ++ tasks) = pending jobs.tasks := by
      rw [pending, List.filterMap_append]
      exact (congrArg _ nothing).trans (List.append_nil _)
    unfold Hall.held
    rw [same]
  | @letIn jobs loose roles number task pass known waits =>
    obtain ⟨rest, whole, put, -⟩ := pending_split known
    have spent := ((sound.stands number task known).tale.outside_inv (.inl waits)).1
    rw [spent, Option.toList_none, List.nil_append] at whole
    refine moved ((whole.append_right _).trans ?_)
    exact List.perm_middle.trans ((put (task.withPass pass)).append_right loose).symm
  | @turn jobs loose roles number task task' role' entries reports desk known turn hears =>
    obtain ⟨rest, whole, put, -⟩ := pending_split known
    refine ((moved (whole.append_right _)).trans ?_).trans (moved ((put task').append_right _).symm)
    cases hears with
    | nothing =>
      rcases turn.spends with ⟨-, same⟩ | ⟨_, _, _, -, wrong, -⟩
      · rw [same]
      · cases wrong
    | @report pass here outcome now cleaning =>
      rcases turn.spends with ⟨wrong, -⟩ | ⟨_, _, _, -, -, spent⟩
      · cases wrong
      · rw [here, spent]
        exact .single (.report outcome now cleaning)
  | dismiss => exact .refl

/-- A course of steps deals in the passes which are held. -/
theorem Course.dealings (sound : before.Sound) (course : Course before after) :
    Desk.Dealings TaskLabel before.held after.held := by
  induction course with
  | refl => exact .refl
  | tail course step ih => exact ih.trans (step.dealings (sound.course course))

lemma Course.uses (sound : before.Sound) (course : Course before after) :
    Uses TaskLabel before.jobs.desk.limiter after.jobs.desk.limiter :=
  (course.dealings sound).uses

end Dealings

/-- The desk of an executor, and all passes which are held. -/
def held (executor : Executor L G W V) : Desk L × List (Pass G) :=
  (executor.jobs.desk, pending executor.jobs.tasks ++ executor.holds.map Prod.snd)

section Moves

variable [lim : Limiter TaskLabel L G W] {batches : Prop} {roles others : Nat → Role}
  {before after executor : Executor L G W V} {order : Order W} {place : W} {crew : Crew} {limiter : L}
  {looked : Desk L} {pass : Pass G} {path : List String}

lemma InOrder.uses (kept : InOrder batches roles before) (move : Move batches before after) :
    Uses TaskLabel before.jobs.desk.limiter after.jobs.desk.limiter := by
  obtain ⟨others, -, course, -⟩ := kept.move move
  exact course.uses kept.sound

variable [Algorithm α] {nest : Nesting TaskLabel α lim}

/-- Every order which waits to be admitted waits where the next caller of its kind would be sent. -/
def WaitsInPlace (nest : Nesting TaskLabel α lim) (executor : Executor L G W V) : Prop :=
  ∀ order ∈ executor.orders, ∀ place, order.stage = .asking place →
    nest.Awaits executor.jobs.desk.limiter order.ctx place

/-- Whoever is told to wait does so in the right place. -/
lemma WaitsInPlace.told (waits : WaitsInPlace nest before) (mem : order ∈ before.orders)
    (told : (before.answer order).2 = .ok (.waiting place)) :
    nest.Awaits (before.answer order).1.limiter order.ctx place := by
  have answered : before.answer order = ((before.answer order).1, .ok (.waiting place)) :=
    Prod.ext rfl told
  generalize (before.answer order).1 = desk at answered ⊢
  unfold answer at answered
  split at answered
  · next earlier stage =>
    exact (waits order mem earlier stage).poll (Desk.handle_waiting answered)
  · exact Nesting.awaits_of_acquire (Desk.handle_waiting answered)

/-- Whoever is admitted has found the way on which the next one is sent. -/
lemma WaitsInPlace.leads (waits : WaitsInPlace nest before) (mem : order ∈ before.orders)
    (answered : before.answer order = (looked, .ok (.admitted pass)))
    (got : nest.place pass = some path) : nest.Leads looked.limiter order.ctx path := by
  unfold answer at answered
  split at answered
  · next earlier stage =>
    obtain ⟨limiter, grant, polled, given⟩ := Desk.handle_admitted answered
    cases given
    exact (waits order mem earlier stage).leads polled got
  · obtain ⟨limiter, grant, asked, given⟩ := Desk.handle_admitted answered
    cases given
    exact Nesting.leads_of_admitted asked got

lemma WaitsInPlace.move (waits : WaitsInPlace nest before) (kept : InOrder batches roles before)
    (move : Move batches before after) : WaitsInPlace nest after := by
  have uses := kept.uses move
  intro order mem place asks
  rcases move.fares.asks with quiet | ⟨asker, asker_mem, later, told⟩
  · exact (waits order (quiet order mem place asks) place asks).uses uses
  · rw [told.orders] at mem
    rcases Order.mem_replace mem with rfl | ⟨old, -⟩
    · obtain rfl : later = place := Stage.asking.inj asks
      rw [told.desk]
      exact waits.told asker_mem told.told
    · exact (waits order old place asks).uses uses

theorem Moves.waitsInPlace (nest : Nesting TaskLabel α lim)
    (moves : Moves batches (create crew limiter) executor) : WaitsInPlace nest executor := by
  have reached : ∃ roles, InOrder batches roles executor ∧ WaitsInPlace nest executor := by
    induction moves with
    | refl =>
      exact ⟨_, create_inOrder batches crew limiter, fun _ mem => absurd mem List.not_mem_nil⟩
    | tail _ move ih =>
      obtain ⟨roles, kept, waits⟩ := ih
      obtain ⟨others, kept_next, -⟩ := kept.move move
      exact ⟨others, kept_next, waits.move kept move⟩
  obtain ⟨-, -, waits⟩ := reached
  exact waits

/-- The gates always cover the passes which are held. -/
theorem Moves.backs {P : Gate α → Prop} (built : nest.IsBuilt P limiter)
    (fresh : ∀ gate, P gate → gate.IsNew) (moves : Moves batches (create crew limiter) executor) :
    nest.Backs P executor.held := by
  have kept : InOrder batches (fun _ => .waiting) (create crew limiter : Executor L G W V) :=
    create_inOrder batches crew limiter
  obtain ⟨roles, -, course⟩ := kept.moves moves
  have start : nest.Backs P (Desk.create limiter, ([] : List (Pass G))) := built.backs fresh
  exact start.dealings (course.dealings kept.sound)

end Moves

end Admission.Executor

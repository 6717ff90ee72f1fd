import Admission.Algorithm.Aimd
import Admission.Proofs.Executor.Records
import Admission.Proofs.Executor.Staffed

/-!
# What is reported on tasks

For an executor with a pool, whatever happens: there is one report on every task which was admitted,
made when its job has ended or was thrown away. The report tells what the future of the task came to,
and so does the handle.
-/

namespace Admission.Executor

variable {L G W V : Type}

/-- How an executor with a pool answers for a task which was admitted with a listener. -/
structure AnswersFor (executor : Executor L G W V) (number listener : Nat) : Prop where
  /-- Nothing is reported as long as the pool has a job. -/
  kept : executor.jobs.HasJob number → executor.jobs.desk.settledOn listener = [] ∧
    ∃ pool, executor.crew = .pool pool ∧ pool.Keeps number
  /-- There is one report when the job has ended or was thrown away. -/
  once : ¬executor.jobs.HasJob number →
    ∃ outcome fault, executor.jobs.desk.settledOn listener = [⟨listener, outcome, fault⟩]
  success : (∃ fault, ⟨listener, .success, fault⟩ ∈ executor.jobs.desk.settledOn listener) ↔
    executor.jobs.Succeeded number
  dropped : (∃ fault, ⟨listener, .dropped, fault⟩ ∈ executor.jobs.desk.settledOn listener) ↔
    ¬executor.jobs.HasJob number ∧ ¬executor.jobs.PickedUp number
  /-- The handle shows nothing before the report, and something from then on. -/
  silent : executor.jobs.received? number = none ↔ executor.jobs.desk.settledOn listener = []
  result : ∀ result, executor.jobs.received? number = some (.ok result) ↔
    executor.jobs.Completed number result ∧ executor.jobs.desk.Heard listener
  brokenDown : executor.jobs.received? number = some (.error .brokenDown) ↔
    executor.jobs.BrokeDown number ∧ executor.jobs.desk.Heard listener

section Answers

variable {executor : Executor L G W V} {number listener : Nat} {task : Task V G}
  {visits closing : List (Entry V)} {fate : Fate V} {fault : Option Fault}

lemma answersFor_underWay (keeps : Keeps executor)
    (known : executor.jobs.tasks[number]? = some task)
    (entries : executor.jobs.entriesOf number = .admitted number listener :: (visits ++ []))
    (unready : Unready number visits) (unsettled : executor.jobs.desk.settledOn listener = [])
    (job : task.hasJob = true) (channel : task.channel = .empty) :
    AnswersFor executor number listener := by
  obtain ⟨pool, crew, all⟩ := keeps
  have has := (Jobs.hasJob_of_known known).mpr job
  have shown : executor.jobs.received? number = none := by
    rw [received?_of_known known, channel]
    rfl
  have closes : (Fate.thrownAway : Fate V).Closes number [] := .thrownAway
  have completed := completed_iff entries unready closes
  have brokeDown := brokeDown_iff entries unready closes
  refine ⟨fun _ => ⟨unsettled, pool, crew, all number has⟩, fun gone => absurd has gone, ?_, ?_, ?_,
    fun result => ?_, ?_⟩
  · rw [unsettled]
    refine iff_of_false (fun ⟨_, mem⟩ => nomatch mem) ?_
    rintro ⟨_, result, -, came, -⟩
    nomatch (completed result).mp came
  · rw [unsettled]
    exact iff_of_false (fun ⟨_, mem⟩ => nomatch mem) fun ⟨gone, _⟩ => gone has
  · exact iff_of_true shown unsettled
  · rw [shown]
    exact iff_of_false nofun fun ⟨came, _⟩ => nomatch (completed result).mp came
  · rw [shown]
    exact iff_of_false nofun fun ⟨came, _⟩ => nomatch brokeDown.mp came

lemma answersFor_over (known : executor.jobs.tasks[number]? = some task)
    (entries : executor.jobs.entriesOf number = .admitted number listener :: (visits ++ closing))
    (unready : Unready number visits) (closes : fate.Closes number closing)
    (settled : executor.jobs.desk.settledOn listener =
      [⟨listener, fate.outcome task.detached (!visits.isEmpty), fault⟩])
    (job : task.hasJob = false) (channel : task.channel = .ended fault fate.shown) :
    AnswersFor executor number listener := by
  have gone : ¬executor.jobs.HasJob number := by
    rw [Jobs.hasJob_of_known known, job]
    nofun
  have completed := completed_iff entries unready closes
  have brokeDown := brokeDown_iff entries unready closes
  have pickedUp := pickedUp_iff entries unready closes
  have heard : executor.jobs.desk.Heard listener ↔ fault = none := by
    unfold Desk.Heard
    rw [settled]
    simp [eq_comm]
  have shown : executor.jobs.received? number = (Channel.ended fault fate.shown).received? := by
    rw [received?_of_known known, channel]
  have reported : ∀ outcome, (∃ fault, ⟨listener, outcome, fault⟩ ∈
      executor.jobs.desk.settledOn listener) ↔ fate.outcome task.detached (!visits.isEmpty) = outcome := by
    intro outcome
    rw [settled]
    simp [eq_comm]
  refine ⟨fun has => absurd has gone, fun _ => ⟨_, _, settled⟩, ?_, ?_, ?_, fun result => ?_, ?_⟩
  · rw [reported, Fate.outcome_eq_success]
    constructor
    · rintro ⟨result, came, good⟩
      exact ⟨task, result, known, (completed result).mpr came, good⟩
    · rintro ⟨other, result, found, came, good⟩
      obtain rfl := Option.some.inj (known.symm.trans found)
      exact ⟨result, (completed result).mp came, good⟩
  · rw [reported, Fate.outcome_eq_dropped, pickedUp]
    simp [gone, and_comm]
  · refine iff_of_false (fun silent => ?_) (by rw [settled]; exact List.cons_ne_nil _ _)
    have some := fate.received?_ended_isSome fault
    rw [← shown, silent] at some
    nomatch some
  · rw [shown, Fate.received?_ended_eq_ok, completed, heard]
  · rw [shown, Fate.received?_ended_eq_brokenDown, brokeDown, heard]

lemma InOrder.answersFor {roles : Nat → Role} (kept : InOrder False roles executor)
    (keeps : Keeps executor) (admitted : .admitted number listener ∈ executor.jobs.log) :
    AnswersFor executor number listener := by
  obtain ⟨task, known⟩ := kept.sound.known_of_admitted admitted
  have mem := admitted_mem_entriesOf.mpr admitted
  obtain ⟨tale, fits⟩ := kept.sound.stands number task known
  have single := (kept.arranged.alone id).2 number
  dsimp only at tale fits
  generalize entries : executor.jobs.entriesOf number = record at tale mem
  generalize roles number = role at tale fits single
  have only := (tale.listeners_of_admitted mem).1
  cases tale with
  | outside => nomatch mem
  | underWay inside pending unsettled unready started job =>
    rw [listeners_admitted, unready.listener?, List.cons.injEq] at only
    obtain rfl := only.1
    obtain rfl := single.eq_free inside
    obtain ⟨job, channel⟩ | ⟨-, held, -⟩ := job
    · rw [← List.append_nil (Entry.admitted number _ :: _)] at entries
      exact answersFor_underWay keeps known entries unready unsettled job channel
    · rw [fits held] at pending
      nomatch pending
  | ended inside spent unready closes finished settled job channel =>
    rw [listeners_admitted, List.cons.injEq] at only
    obtain rfl := only.1
    exact answersFor_over known entries unready closes settled job channel
  | calledOff => exact single.elim

lemma InOrder.admitted_of_pass {roles : Nat → Role} (kept : InOrder False roles executor)
    (known : executor.jobs.tasks[number]? = some task) {pass : Pass G}
    (has : task.pass = some pass) :
    .admitted number pass.number ∈ executor.jobs.log ∧ task.hasJob = true := by
  obtain ⟨tale, fits⟩ := kept.sound.stands number task known
  have single := (kept.arranged.alone id).2 number
  dsimp only at tale fits
  rw [← admitted_mem_entriesOf]
  generalize executor.jobs.entriesOf number = record at tale ⊢
  generalize roles number = role at tale fits single
  cases tale with
  | outside _ spent | ended _ spent | calledOff spent =>
    rw [has] at spent
    nomatch spent
  | underWay inside pending _ _ _ job =>
    obtain rfl := Option.some.inj (has.symm.trans pending)
    obtain rfl := single.eq_free inside
    obtain ⟨job, -⟩ | ⟨-, held, -⟩ := job
    · exact ⟨List.mem_cons_self, job⟩
    · rw [fits held] at has
      nomatch has

lemma InOrder.accounts {roles : Nat → Role} (kept : InOrder False roles executor)
    (out : listener < executor.jobs.desk.handedOut) :
    (∃ report, executor.jobs.desk.settledOn listener = [report]) ∨
      executor.jobs.desk.settledOn listener = [] ∧
        ((∃ number, .admitted number listener ∈ executor.jobs.log ∧ executor.jobs.HasJob number) ∨
          ∃ hold ∈ executor.holds, hold.2.number = listener) := by
  have balanced := kept.sound.holding.balanced
  rcases balanced.outstanding_or_settled out with outstanding | settled
  swap
  · exact .inl settled
  refine .inr ⟨balanced.settledOn_outstanding outstanding, ?_⟩
  rcases List.mem_append.mp outstanding with pending | held
  · obtain ⟨pass, mem, rfl⟩ := List.mem_map.mp pending
    obtain ⟨task, mem, has⟩ := List.mem_filterMap.mp mem
    obtain ⟨number, known⟩ := List.getElem?_of_mem mem
    obtain ⟨admitted, job⟩ := kept.admitted_of_pass known has
    exact .inl ⟨number, admitted, task, known, job⟩
  · obtain ⟨pass, mem, rfl⟩ := List.mem_map.mp held
    obtain ⟨hold, found, rfl⟩ := List.mem_map.mp mem
    exact .inr ⟨hold, found, rfl⟩

end Answers

variable [Limiter TaskLabel L G W]

/-- There is one report on every task which a pool was given, made by the time its job is gone, and
the report and the handle tell what the future of the task came to. No listener is lost, and none is
used for two tasks. -/
theorem every_task_is_reported_once {workers capacity : Nat} {crew : Crew} {limiter : L}
    {executor : Executor L G W V} (hired : Crew.hire (.pool workers capacity) = .ok crew)
    (moves : Moves False (create crew limiter) executor) :
    (∀ number listener, .admitted number listener ∈ executor.jobs.log →
      AnswersFor executor number listener) ∧
    (∀ number one other, .admitted number one ∈ executor.jobs.log →
      .admitted number other ∈ executor.jobs.log → one = other) ∧
    (executor.jobs.log.filterMap Entry.listener?).Nodup ∧
    ∀ listener < executor.jobs.desk.handedOut,
      (∃ report, executor.jobs.desk.settledOn listener = [report]) ∨
        executor.jobs.desk.settledOn listener = [] ∧
          ((∃ number, .admitted number listener ∈ executor.jobs.log ∧
              executor.jobs.HasJob number) ∨
            ∃ hold ∈ executor.holds, hold.2.number = listener) := by
  obtain ⟨roles, kept⟩ := moves.inOrder
  have keeps := moves.keeps hired
  exact ⟨fun number listener admitted => kept.answersFor keeps admitted,
    fun number one other => kept.sound.admitted_unique, kept.sound.issued,
    fun listener out => kept.accounts out⟩

section Lone

variable {α : Type} [Algorithm α]

def loneWorker : Crew := .pool ⟨1, [], [⟨.fresh, false⟩], none, [], none, false⟩

def quickTask : Action Nat := .submit "a" .anonymous "t" (.reply (.result (.ok 1)) 0)

/-- An executor with a lone worker, after it was given a task which completes at once. -/
def afterOneTask (gate : Gate α) : Executor (Gate α) Unit Empty Nat :=
  ((create loneWorker gate).step quickTask true).1

lemma afterOneTask_moves (gate : Gate α) : Moves False (create loneWorker gate) (afterOneTask gate) :=
  step_moves quickTask (fun _ mem => absurd mem List.not_mem_nil) true

end Lone

theorem every_task_is_reported_once_by_a_lone_worker :
    Crew.hire (.pool 1 1) = .ok loneWorker ∧
      Moves False (create loneWorker ⟨⟨1⟩, 1, 1, 0, 0⟩) (afterOneTask (α := Fixed) ⟨⟨1⟩, 1, 1, 0, 0⟩) ∧
      AnswersFor (afterOneTask (α := Fixed) ⟨⟨1⟩, 1, 1, 0, 0⟩) 0 0 ∧
      (afterOneTask (α := Fixed) ⟨⟨1⟩, 1, 1, 0, 0⟩).jobs.received? 0 = some (.ok (.ok 1)) := by
  have moves := afterOneTask_moves (α := Fixed) ⟨⟨1⟩, 1, 1, 0, 0⟩
  have hired : Crew.hire (.pool 1 1) = .ok loneWorker := rfl
  exact ⟨hired, moves, (every_task_is_reported_once hired moves).1 0 0 (by decide), by decide⟩

/-- A gate as high as permits can be counted, whose algorithm goes on to raise it. -/
def brimful : Gate Aimd :=
  { algorithm := { limit := maxPermits, decreaseFactor := Double.ofRatio 9 10, increase := 1,
                   maximum := maxPermits + 2, minUtilisation := Double.ofRatio 1 (Nat.pow 10 19) }
    limit := maxPermits, available := maxPermits, inFlight := 0, debt := 0 }

/-- Where the limiter meets a fault over the report, the handle of a task which completed with a
result shows that the task was cancelled. -/
theorem handle_shows_no_result_after_fault :
    Gate.create brimful.algorithm = .ok brimful ∧ Crew.hire (.pool 1 1) = .ok loneWorker ∧
      Moves False (create loneWorker brimful) (afterOneTask brimful) ∧
      .admitted 0 0 ∈ (afterOneTask brimful).jobs.log ∧
      (afterOneTask brimful).jobs.Completed 0 (.ok 1) ∧
      (afterOneTask brimful).jobs.received? 0 = some (.error .cancelled) := by
  refine ⟨rfl, rfl, afterOneTask_moves brimful, ?_, ⟨true, ?_⟩, ?_⟩ <;> decide +kernel

end Admission.Executor

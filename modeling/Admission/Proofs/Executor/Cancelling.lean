import Admission.Proofs.Executor.Batches
import Admission.Proofs.Executor.Outcomes

/-!
# Tasks which are cancelled

A task is cancelled through its handle, or because the time of its batch is up. Whoever gets to its job
after that ignores it. But a job which is thrown away before anybody has got to it is reported as
dropped, whether or not its task was cancelled.
-/

namespace Admission.Executor

variable {L G V W : Type}

section Halls

variable {before after : Hall L V G} {number : Nat}

/-- The task was cancelled before it had come to an end by itself, and its caller has let go of it. -/
structure Hall.Cancelled (hall : Hall L V G) (number : Nat) : Prop where
  aborted : ∃ task, hall.jobs.tasks[number]? = some task ∧ task.aborted = true
  left : hall.roles number = .free ∨ hall.roles number = .dismissed .done
  unfinished : ¬hall.jobs.Finished number

/-- What comes out of a task is seen by looking at it. -/
lemma Jobs.Finished.of_append {jobs : Jobs L V G} {desk : Desk L} {tasks : List (Task V G)}
    {entries : List (Entry V)}
    (finished : Jobs.Finished (⟨desk, tasks, jobs.log ++ entries⟩ : Jobs L V G) number) :
    jobs.Finished number ∨ ∃ first answer, .looked number first answer ∈ entries := by
  rcases finished with ⟨result, first, mem⟩ | ⟨first, text, mem⟩
  · rcases List.mem_append.mp mem with old | new
    · exact .inl (.inl ⟨result, first, old⟩)
    · exact .inr ⟨first, _, new⟩
  · rcases List.mem_append.mp mem with old | new
    · exact .inl (.inr ⟨first, text, old⟩)
    · exact .inr ⟨first, _, new⟩

lemma Turn.cancelled {role next : Role} {task task' : Task V G} {entries : List (Entry V)}
    {settled : List Settlement} (turn : Turn number role task entries settled next task')
    (aborted : task.aborted = true) (left : role = .free ∨ role = .dismissed .done) :
    next = role ∧ task'.aborted = true ∧ ∀ first answer, .looked number first answer ∉ entries := by
  have nothing : ∀ first answer, Entry.looked (V := V) number first answer ∉ [] :=
    fun _ _ => List.not_mem_nil
  cases turn with
  | minor _ same => exact ⟨rfl, same.trans aborted, nothing⟩
  | abort => exact ⟨rfl, rfl, nothing⟩
  | leave | drop => exact ⟨rfl, aborted, nothing⟩
  | look _ running =>
    rw [aborted] at running
    nomatch running
  | finish _ _ _ closes running =>
    -- An aborted task can only be cancelled, which nobody sees by looking at it.
    obtain ⟨-, running⟩ | ⟨rfl, -⟩ := running
    · rw [aborted] at running
      nomatch running
    · cases closes
      exact ⟨rfl, aborted, by simp⟩
  | letGo letsGo | letGoLost letsGo => cases letsGo <;> exact left.elim nofun nofun
  | forgo | withdraw | refuse | callOff => exact left.elim nofun nofun

variable [Limiter TaskLabel L G W]

lemma Hall.Cancelled.step (cancelled : before.Cancelled number) (step : Step before after) :
    after.Cancelled number := by
  obtain ⟨⟨task, known, aborted⟩, left, unfinished⟩ := cancelled
  cases step with
  | deal => exact ⟨⟨task, known, aborted⟩, left, unfinished⟩
  | arrive =>
    have below := (List.getElem?_eq_some_iff.mp known).1
    exact ⟨⟨task, (List.getElem?_append_left below).trans known, aborted⟩, left, unfinished⟩
  | @letIn _ _ _ other _ _ found waits =>
    have apart : number ≠ other := by
      rintro rfl
      dsimp only at left
      rw [waits] at left
      exact left.elim nofun nofun
    refine ⟨⟨task, (List.getElem?_set_ne apart.symm).trans known, aborted⟩, ?_, fun finished => ?_⟩
    · dsimp only
      rwa [Function.update_of_ne apart]
    · rcases finished.of_append with old | ⟨_, _, new⟩
      · exact unfinished old
      · nomatch List.mem_singleton.mp new
  | @turn _ _ _ other _ _ _ _ _ _ found turn =>
    by_cases same : number = other
    · subst same
      obtain rfl := Option.some.inj (known.symm.trans found)
      obtain ⟨stays, still, unseen⟩ := turn.cancelled aborted left
      refine ⟨⟨_, Jobs.getElem?_set_known known _, still⟩, ?_, fun finished => ?_⟩
      · dsimp only
        rw [Function.update_self, stays]
        exact left
      · rcases finished.of_append with old | ⟨first, answer, new⟩
        · exact unfinished old
        · exact unseen first answer new
    · refine ⟨⟨task, (List.getElem?_set_ne (Ne.symm same)).trans known, aborted⟩, ?_,
        fun finished => ?_⟩
      · dsimp only
        rwa [Function.update_of_ne same]
      · rcases finished.of_append with old | ⟨first, answer, new⟩
        · exact unfinished old
        · exact same (Option.some.inj (turn.task? _ new))
  | dismiss =>
    refine ⟨⟨task, known, aborted⟩, left, fun finished => ?_⟩
    rcases finished.of_append with old | ⟨_, _, new⟩
    · exact unfinished old
    · nomatch List.mem_singleton.mp new

lemma Hall.Cancelled.course (cancelled : before.Cancelled number) (course : Course before after) :
    after.Cancelled number := by
  induction course with
  | refl => exact cancelled
  | tail _ step ih => exact ih.step step

end Halls

/-- What is reported on a cancelled task, which was admitted with a listener: nothing as long as there
is a job, and from then on once, by whether anybody has got to the job. -/
structure Jobs.ReportsCancelled (jobs : Jobs L V G) (number listener : Nat) : Prop where
  admitted : jobs.IsAdmittedWith number listener
  silent : jobs.desk.settledOn listener = [] ↔ jobs.HasJob number
  ignored : (∃ fault, jobs.desk.settledOn listener = [⟨listener, .ignore, fault⟩]) ↔
    ¬jobs.HasJob number ∧ jobs.PickedUp number
  dropped : (∃ fault, jobs.desk.settledOn listener = [⟨listener, .dropped, fault⟩]) ↔
    ¬jobs.HasJob number ∧ ¬jobs.PickedUp number

section Reports

variable {jobs : Jobs L V G} {loose : List (Pass G)} {roles : Nat → Role} {number : Nat}

/-- A task which has a job has not come to an end, and nothing was reported on it, unless its batch has
failed. -/
lemma Hall.Sound.unfinished_of_hasJob (sound : Hall.Sound ⟨jobs, loose, roles⟩)
    (has : jobs.HasJob number) (wanted : ∀ error, roles number ≠ .dismissed (.failed error)) :
    ∃ listener, jobs.IsAdmittedWith number listener ∧ jobs.desk.settledOn listener = [] ∧
      ¬jobs.Finished number := by
  obtain ⟨task, known, job⟩ := has
  have tale := (sound.stands number task known).tale
  dsimp only at tale
  generalize entries : jobs.entriesOf number = record at tale
  generalize roles number = role at tale wanted
  cases tale with
  | outside _ _ none | ended _ _ _ _ _ _ none => simp [job] at none
  | calledOff => exact absurd rfl (wanted _)
  | @underWay _ _ pass visits _ _ unsettled unready =>
    refine ⟨pass.number, sound.isAdmittedWith entries, unsettled, fun finished => ?_⟩
    rw [← List.append_nil visits] at entries
    exact (finished_iff entries unready .thrownAway).mp finished

lemma Hall.Sound.reportsCancelled (sound : Hall.Sound ⟨jobs, loose, roles⟩)
    (cancelled : Hall.Cancelled ⟨jobs, loose, roles⟩ number) :
    ∃ listener, jobs.ReportsCancelled number listener := by
  obtain ⟨⟨task, known, -⟩, left, unfinished⟩ := cancelled
  obtain ⟨tale, fits⟩ := sound.stands number task known
  dsimp only at known left tale fits
  have has := Jobs.hasJob_of_known known
  have spent : task.held = true → task.pass = none := by
    intro held
    rcases left with role | role
    · rw [role] at fits
      exact fits held
    · rw [role] at fits
      rw [fits.1] at held
      cases held
  generalize entries : jobs.entriesOf number = record at tale
  generalize roles number = role at tale left
  cases tale with
  | outside outside => rcases left with rfl | rfl <;> simp [Role.IsOutside] at outside
  | @underWay _ _ pass visits _ pending unsettled unready _ job =>
    have job : jobs.HasJob number := by
      obtain ⟨job, -⟩ | ⟨-, held, -⟩ := job
      · exact has.mpr job
      · rw [spent held] at pending
        cases pending
    refine ⟨pass.number, sound.isAdmittedWith entries, iff_of_true unsettled job, ?_, ?_⟩
    all_goals
      rw [unsettled]
      exact iff_of_false (by simp) fun both => both.1 job
  | @ended _ _ fate visits closing listener fault _ _ unready closes _ settled job =>
    have gone : ¬jobs.HasJob number := by
      rw [has, job]
      exact Bool.false_ne_true
    have reached := pickedUp_iff entries unready closes
    have unseen : ¬fate.IsFinished := fun end_ => unfinished ((finished_iff entries unready closes).mpr end_)
    refine ⟨listener, sound.isAdmittedWith entries, iff_of_false ?_ gone, ?_, ?_⟩
    · rw [settled]
      exact List.cons_ne_nil _ _
    all_goals
      rw [settled, reached]
      cases fate with
      | completed | brokenDown => exact absurd trivial unseen
      | cancelled => simp [Fate.outcome, gone]
      | thrownAway => cases visits <;> simp [Fate.outcome, gone]
  | calledOff => rcases left with wrong | wrong <;> cases wrong

end Reports

section Runs

variable [Limiter TaskLabel L G W]

/-- A task is cancelled in a move before it has ended: through its handle, or because the time of its
batch is up. -/
inductive Cancels (number : Nat) : Executor L G W V → Executor L G W V → Prop
  | handle {executor} {id : String} (handle : Table.at? executor.handles id = some number)
      (job : executor.jobs.HasJob number) : Cancels number executor (executor.abort id).1
  | timeout {executor} {order : Order W} {deadline : Nat} (mem : order ∈ executor.orders)
      (running : order.stage = .running (some deadline)) (due : deadline ≤ executor.agenda.now)
      (awaited : .awaited ∈ executor.jobs.reports order.tasks) (mine : number ∈ order.tasks)
      (job : executor.jobs.HasJob number) : Cancels number executor (executor.goOnWith order)

variable {number : Nat} {batches : Prop} {roles others : Nat → Role}
  {executor before next after : Executor L G W V} {order : Order W}

lemma Cancels.move (cancels : Cancels number before next) : Move batches before next := by
  cases cancels with
  | handle => exact .abort _
  | timeout mem => exact .goOn mem

lemma Jobs.resolve_log (jobs : Jobs L V G) (outcome : Outcome) (now : Nat) (cleaning : Bool) :
    (jobs.resolve number outcome now cleaning).1.log = jobs.log := by
  unfold Jobs.resolve
  split <;> rfl

lemma Jobs.letGo_log (jobs : Jobs L V G) (now : Nat) (cleaning : Bool) (number : Nat) :
    (jobs.letGo now cleaning number).1.log = jobs.log := by
  unfold Jobs.letGo
  split
  · rfl
  · dsimp only
    split
    · rfl
    · exact Jobs.resolve_log _ _ now cleaning

lemma Jobs.forEach_log {act : Bool → Jobs L V G → Nat → Jobs L V G × Option Fault}
    (each : ∀ cleaning jobs number, (act cleaning jobs number).1.log = jobs.log) (cleaning : Bool)
    (jobs : Jobs L V G) (numbers : List Nat) :
    (jobs.forEach act cleaning numbers).1.log = jobs.log := by
  induction numbers generalizing jobs cleaning with
  | nil => rfl
  | cons number rest ih => exact (ih _ _).trans (each cleaning jobs number)

lemma Jobs.closeBatch_log (jobs : Jobs L V G) (numbers : List Nat) (now : Nat) :
    (jobs.closeBatch numbers now).1.log = jobs.log ++ [.dismissed numbers .done] := by
  have aborted : (numbers.foldl Jobs.abort jobs).log = jobs.log :=
    List.foldlRecOn (motive := fun next : Jobs L V G => next.log = jobs.log) numbers Jobs.abort rfl
      fun _ same _ _ => same
  have let_go := Jobs.forEach_log (fun cleaning jobs number => jobs.letGo_log now cleaning number)
    false (numbers.foldl Jobs.abort jobs) numbers
  unfold Jobs.closeBatch
  dsimp only
  rw [Jobs.note, let_go, aborted]

/-- When the time of a batch is up, its tasks are dismissed. -/
lemma goOnWith_log_of_due {deadline : Nat} (running : order.stage = .running (some deadline))
    (due : deadline ≤ executor.agenda.now)
    (awaited : .awaited ∈ executor.jobs.reports order.tasks) :
    (executor.goOnWith order).jobs.log = executor.jobs.log ++ [.dismissed order.tasks .done] := by
  have closed : executor.goOnWith order = executor.closeBatch order := by
    unfold goOnWith
    rw [running]
    dsimp only
    unfold waitForBatch
    simp [awaited, due]
  rw [closed, ← Jobs.closeBatch_log executor.jobs order.tasks executor.agenda.now]
  unfold closeBatch
  dsimp only
  split
  · unfold collect
    split <;> rfl
  · rfl

lemma InOrder.cancels (kept : InOrder batches roles before) (cancels : Cancels number before next)
    (after : InOrder batches others next) :
    ∃ listener, before.jobs.IsAdmittedWith number listener ∧
      before.jobs.desk.settledOn listener = [] ∧
      Hall.Cancelled ⟨next.jobs, next.holds.map Prod.snd, others⟩ number := by
  cases cancels with
  | @handle id handle job =>
    obtain ⟨one, other, handles, -⟩ := Table.split_of_at? handle
    have mem : (id, number) ∈ before.handles := by
      rw [handles]
      exact List.mem_append_right _ List.mem_cons_self
    have free : roles number = .free := kept.arranged.handles _ mem
    obtain ⟨listener, admitted, unsettled, unfinished⟩ :=
      kept.sound.unfinished_of_hasJob job (by rw [free]; nofun)
    refine ⟨listener, admitted, unsettled, ?_⟩
    have aborts : (before.abort id).1.jobs = before.jobs.abort number ∧
        (before.abort id).1.handles = before.handles := by
      unfold Executor.abort
      rw [handle]
      exact ⟨rfl, rfl⟩
    obtain ⟨task, known, -⟩ := job
    refine ⟨⟨{ task with aborted := true }, ?_, rfl⟩, .inl ?_, ?_⟩
    · dsimp only
      rw [aborts.1, Jobs.abort, Jobs.update_eq known]
      exact Jobs.getElem?_set_known known _
    · exact after.arranged.handles (id, number) (aborts.2 ▸ mem)
    · dsimp only
      rw [aborts.1]
      exact unfinished
  | @timeout order deadline mem running due awaited mine job =>
    have inHand : roles number = .inHand := kept.running mem running number mine
    obtain ⟨listener, admitted, unsettled, unfinished⟩ :=
      kept.sound.unfinished_of_hasJob job (by rw [inHand]; nofun)
    refine ⟨listener, admitted, unsettled, ?_⟩
    have log := goOnWith_log_of_due running due awaited
    have done : .dismissed order.tasks .done ∈ (before.goOnWith order).jobs.log := by
      rw [log]
      exact List.mem_append_right _ (List.mem_singleton_self _)
    have role : others number = .dismissed .done := after.sound.dismissals _ _ done number mine
    obtain ⟨task, known⟩ := Jobs.known_of_lt (after.sound.below role nofun)
    have fits := (after.sound.stands number task known).fits
    dsimp only at fits
    rw [role] at fits
    refine ⟨⟨task, known, fits.2.1⟩, .inr role, fun finished => ?_⟩
    have finished : Jobs.Finished (⟨(before.goOnWith order).jobs.desk,
        (before.goOnWith order).jobs.tasks, before.jobs.log ++ [.dismissed order.tasks .done]⟩ :
        Jobs L V G) number := log ▸ finished
    rcases finished.of_append with old | ⟨_, _, new⟩
    · exact unfinished old
    · nomatch List.mem_singleton.mp new

/-- A task which is cancelled before it has ended is reported once, when its job has gone: it is
ignored if anybody has got to the job, before or after the task was cancelled, and otherwise, if the job
is thrown away unseen, it counts as dropped. -/
theorem cancelled_task_is_ignored_iff_reached {crew : Crew} {limiter : L}
    (moves : Moves True (create crew limiter) before) (cancels : Cancels number before next)
    (later : Moves True next after) :
    ∃ listener, before.jobs.desk.settledOn listener = [] ∧
      after.jobs.ReportsCancelled number listener ∧
      (before.jobs.Started number → after.jobs.PickedUp number) := by
  obtain ⟨roles, kept⟩ := moves.inOrder
  obtain ⟨others, kept_next, course, -⟩ := kept.move cancels.move
  obtain ⟨listener, admitted, unsettled, cancelled⟩ := kept.cancels cancels kept_next
  obtain ⟨last, kept_after, more⟩ := kept_next.moves later
  have recorded : before.jobs.log ⊆ after.jobs.log := Course.log_subset (course.trans more)
  obtain ⟨own, reports⟩ := kept_after.sound.reportsCancelled (cancelled.course more)
  have same : listener = own :=
    (reports.admitted listener).mp (recorded ((admitted listener).mpr rfl))
  refine ⟨listener, unsettled, same ▸ reports, fun ⟨first, answer, mem⟩ => ?_⟩
  exact .inl ⟨first, answer, recorded mem⟩

end Runs

/-- A pool whose only worker is busy with a task, while another task waits in the queue. -/
def behindAnother : Executor (Gate Fixed) Unit Empty Nat :=
  let first := (create loneWorker ⟨⟨3⟩, 3, 3, 0, 0⟩).step (.submit "a" .anonymous "t" .manual) true
  (first.1.step (.submit "b" .anonymous "u" (.reply (.result (.ok 2)) 0)) true).1

lemma behindAnother_moves : Moves True (create loneWorker ⟨⟨3⟩, 3, 3, 0, 0⟩) behindAnother :=
  (step_moves (.submit "a" ..) (fun _ mem => absurd mem List.not_mem_nil) true).trans
    (step_moves (.submit "b" ..) (by simp only [Action.IsFor]; decide) true)

def behindAnotherAborted : Executor (Gate Fixed) Unit Empty Nat := (behindAnother.abort "b").1

lemma behindAnother_cancels : Cancels 1 behindAnother behindAnotherAborted :=
  .handle (by decide) ⟨behindAnother.jobs.tasks[1], rfl, by decide⟩

/-- The worker comes to an end with the first task and gets to the second, which was aborted. -/
def behindAnotherReached : Executor (Gate Fixed) Unit Empty Nat :=
  (behindAnotherAborted.step (.complete "t" (.result (.ok 1))) true).1

theorem cancelled_task_is_ignored_when_the_worker_gets_to_it :
    Crew.hire (.pool 1 1) = .ok loneWorker ∧
      Moves True (create loneWorker ⟨⟨3⟩, 3, 3, 0, 0⟩) behindAnother ∧
      Cancels 1 behindAnother behindAnotherAborted ∧
      Moves True behindAnotherAborted behindAnotherReached ∧
      ∃ fault, behindAnotherReached.jobs.desk.settledOn 1 = [⟨1, .ignore, fault⟩] := by
  have later : Moves True behindAnotherAborted behindAnotherReached :=
    step_moves (.complete "t" _) trivial true
  refine ⟨rfl, behindAnother_moves, behindAnother_cancels, later, ?_⟩
  obtain ⟨listener, -, reports, -⟩ :=
    cancelled_task_is_ignored_iff_reached behindAnother_moves behindAnother_cancels later
  obtain rfl : 1 = listener := (reports.admitted 1).mp (by decide)
  refine reports.ignored.mpr ⟨?_, .inr (by decide)⟩
  rw [← reports.silent]
  decide

/-- The pool is shut down before the worker gets to the second task: although the task was aborted, it
is reported as dropped. -/
theorem discarded_task_is_dropped_although_cancelled :
    Crew.hire (.pool 1 1) = .ok loneWorker ∧
      Moves True (create loneWorker ⟨⟨3⟩, 3, 3, 0, 0⟩) behindAnother ∧
      Cancels 1 behindAnother behindAnotherAborted ∧
      Moves True behindAnotherAborted (behindAnotherAborted.step .shutdown true).1 ∧
      (behindAnotherAborted.step .shutdown true).1.jobs.desk.settledOn 1 = [⟨1, .dropped, none⟩] :=
  ⟨rfl, behindAnother_moves, behindAnother_cancels, step_moves .shutdown trivial true, by decide⟩

end Admission.Executor

import Admission.Algorithm.Aimd
import Admission.Proofs.Executor.Moves
import Admission.Proofs.Executor.Records

/-!
# Batches which are over

Whatever a crew does with the jobs of a batch: once the batch is over, nobody looks at its tasks any
more. If it failed there is one report on each of its tasks, and if it went well their handles show
what they had come to.
-/

namespace Admission.Executor

variable {L G W V : Type}

namespace Jobs

/-- The one listener with which the task was admitted. -/
def IsAdmittedWith (jobs : Jobs L V G) (number listener : Nat) : Prop :=
  ∀ other, .admitted number other ∈ jobs.log ↔ other = listener

/-- There is one report on the task of a batch which failed: what the task had come to, or else
whether it had been started. -/
def IsCalledOff (jobs : Jobs L V G) (error : ExecutorFailure) (number : Nat) : Prop :=
  ∃ listener outcome fault, jobs.IsAdmittedWith number listener ∧
    jobs.desk.settledOn listener = [⟨listener, outcome, fault⟩] ∧
    (∀ value, jobs.Completed number (.ok value) → outcome = .success) ∧
    (∀ value, jobs.Completed number (.error value) → outcome = .ignore) ∧
    (jobs.BrokeDown number → outcome = .ignore) ∧
    (¬jobs.Finished number →
      (error = .interrupted ∨ jobs.Started number → outcome = .ignore) ∧
      (error ≠ .interrupted → ¬jobs.Started number → outcome = .dropped))

/-- The handle of a task shows what the task had come to, if the limiter met no fault over the report
on that, and otherwise that the task was cancelled. -/
def ShowsItsEnd (jobs : Jobs L V G) (number : Nat) : Prop :=
  ∃ listener, jobs.IsAdmittedWith number listener ∧
    (jobs.Finished number → (jobs.received? number).isSome) ∧
    ∀ shown, jobs.received? number = some shown →
      (∀ result, shown = .ok result ↔ jobs.Completed number result ∧ jobs.desk.Heard listener) ∧
      (shown = .error .brokenDown ↔ jobs.BrokeDown number ∧ jobs.desk.Heard listener)

end Jobs

section Tasks

variable {jobs : Jobs L V G} {loose : List (Pass G)} {roles : Nat → Role} {number : Nat}
  {tasks : List Nat}

lemma Left.closes {task : Task V G} {rest : List (Entry V)} (left : Left number task rest) :
    ∃ fate : Fate V, fate.Closes number rest ∧ ¬fate.IsFinished ∧
      ∀ first answer, .looked number first answer ∉ rest := by
  cases left with
  | job | lost => exact ⟨.thrownAway, .thrownAway, id, fun _ _ => List.not_mem_nil⟩
  | cancelled => exact ⟨.cancelled, .cancelled, id, by simp⟩

lemma Hall.Sound.isAdmittedWith (sound : Hall.Sound ⟨jobs, loose, roles⟩) {listener : Nat}
    {rest : List (Entry V)} (entries : jobs.entriesOf number = .admitted number listener :: rest) :
    jobs.IsAdmittedWith number listener := by
  have admitted : .admitted number listener ∈ jobs.log := by
    rw [← admitted_mem_entriesOf, entries]
    exact List.mem_cons_self
  exact fun other => ⟨fun mem => sound.admitted_unique mem admitted, fun same => same ▸ admitted⟩

lemma Hall.Sound.isCalledOff (sound : Hall.Sound ⟨jobs, loose, roles⟩) {error : ExecutorFailure}
    (failed : .dismissed tasks (.failed error) ∈ jobs.log) (mem : number ∈ tasks) :
    jobs.IsCalledOff error number := by
  have role : roles number = .dismissed (.failed error) := sound.dismissals tasks _ failed number mem
  obtain ⟨task, known⟩ := Jobs.known_of_lt (sound.below role nofun)
  obtain ⟨tale, fits⟩ := sound.stands number task known
  dsimp only at tale fits
  rw [role] at tale fits
  obtain ⟨spent, -, attached⟩ := fits
  generalize entries : jobs.entriesOf number = record at tale
  cases tale with
  | outside outside => simp [Role.IsOutside] at outside
  | underWay _ pending =>
    rw [spent] at pending
    cases pending
  | ended _ _ unready closes finished settled job channel =>
    have completed := completed_iff entries unready closes
    have ended := finished_iff entries unready closes
    refine ⟨_, _, _, sound.isAdmittedWith entries, settled, fun value came => ?_,
      fun value came => ?_, fun came => ?_,
      fun unfinished => absurd (ended.mpr (finished trivial)) unfinished⟩
    · rw [(completed _).mp came]
      rfl
    · rw [(completed _).mp came, attached]
      rfl
    · rw [(brokeDown_iff entries unready closes).mp came]
      rfl
  | calledOff _ unready settled left =>
    obtain ⟨fate, closes, unfinished, unseen⟩ := left.closes
    have started := started_iff_visits entries unready unseen
    have never : ∀ {P : Prop}, jobs.Finished number → P :=
      fun ended => absurd ((finished_iff entries unready closes).mp ended) unfinished
    refine ⟨_, _, _, sound.isAdmittedWith entries, settled,
      fun value came => never (.inl ⟨_, came⟩), fun value came => never (.inl ⟨_, came⟩),
      fun came => never (.inr came),
      fun _ => ⟨fun ignored => if_pos ?_, fun other unstarted => if_neg ?_⟩⟩
    · simpa [started] using ignored
    · rw [started, not_not] at unstarted
      simp [other, unstarted]

lemma Hall.Sound.showsItsEnd (sound : Hall.Sound ⟨jobs, loose, roles⟩)
    (done : .dismissed tasks .done ∈ jobs.log) (mem : number ∈ tasks) : jobs.ShowsItsEnd number := by
  have role : roles number = .dismissed .done := sound.dismissals tasks _ done number mem
  obtain ⟨task, known⟩ := Jobs.known_of_lt (sound.below role nofun)
  have tale := (sound.stands number task known).tale
  dsimp only at tale
  rw [role] at tale
  unfold Jobs.ShowsItsEnd
  rw [received?_of_known known]
  generalize entries : jobs.entriesOf number = record at tale
  cases tale with
  | outside outside => simp [Role.IsOutside] at outside
  | @underWay _ _ pass visits _ pending unsettled unready started job =>
    rw [← List.append_nil visits] at entries
    have closes : (Fate.thrownAway : Fate V).Closes number [] := .thrownAway
    have never : ∀ {P : Prop}, jobs.Finished number → P :=
      fun ended => ((finished_iff entries unready closes).mp ended).elim
    refine ⟨pass.number, sound.isAdmittedWith entries, never,
      fun shown received => ⟨fun result => ?_, ?_⟩⟩
    · refine iff_of_false ?_ fun both => never (.inl ⟨result, both.1⟩)
      rintro rfl
      obtain ⟨-, channel⟩ | ⟨-, -, channel⟩ := job <;> simp [channel, Channel.received?] at received
    · refine iff_of_false ?_ fun both => never (.inr both.1)
      rintro rfl
      obtain ⟨-, channel⟩ | ⟨-, -, channel⟩ := job <;> simp [channel, Channel.received?] at received
  | @ended _ _ fate _ _ listener fault _ _ unready closes _ settled _ channel =>
    have heard : jobs.desk.Heard listener ↔ fault = none := by
      unfold Desk.Heard
      rw [settled]
      simp [eq_comm]
    rw [channel]
    refine ⟨listener, sound.isAdmittedWith entries, fun _ => fate.received?_ended_isSome fault,
      fun shown received => ⟨fun result => ?_, ?_⟩⟩
    · rw [completed_iff entries unready closes, heard, ← Fate.received?_ended_eq_ok, received,
        Option.some.injEq]
    · rw [brokeDown_iff entries unready closes, heard, ← Fate.received?_ended_eq_brokenDown, received,
        Option.some.injEq]

end Tasks

section Theorem

variable [Limiter TaskLabel L G W] {batches : Prop} {roles : Nat → Role}
  {executor next : Executor L G W V} {order : Order W}

lemma InOrder.answers_truly (kept : InOrder batches roles executor) (move : Move batches executor next)
    (mem : order ∈ executor.orders) (batch : ¬order.IsSingle) {result : Result V}
    (answered : next.endings = executor.endings ++ [(order.id, .answered result)]) :
    result.IsTrueOf next.jobs order.tasks := by
  obtain ⟨-, -, -, same | ⟨other, other_mem, same | ⟨ending, ended, truly⟩⟩⟩ := kept.move move
  · exact (no_ending (same.symm.trans answered)).elim
  · exact (no_ending (same.symm.trans answered)).elim
  · obtain ⟨id, same⟩ := ending_inj (ended.symm.trans answered)
    obtain rfl := kept.arranged.ids other other_mem order mem id
    exact (truly result same).resolve_left batch

/-- Once a batch is over, whatever the crew goes on to do with its jobs, nobody looks at any of its
tasks again. Whoever is told that it failed finds one report on each of its tasks, and whoever is told
that it went well gets what its tasks had come to. -/
theorem finished_batch_is_over {crew : Crew} {limiter : L}
    (moves : Moves True (create crew limiter) executor) :
    (∀ before after tasks why, executor.jobs.log = before ++ .dismissed tasks why :: after →
      ∀ number ∈ tasks, ∀ entry ∈ after, ¬entry.IsLookAt number) ∧
    (∀ tasks error, .dismissed tasks (.failed error) ∈ executor.jobs.log →
      ∀ number ∈ tasks, executor.jobs.IsCalledOff error number) ∧
    (∀ tasks, .dismissed tasks .done ∈ executor.jobs.log →
      ∀ number ∈ tasks, executor.jobs.ShowsItsEnd number) ∧
    ∀ order ∈ executor.orders, ¬order.IsSingle →
      (order.stage = .collecting → .dismissed order.tasks .done ∈ executor.jobs.log) ∧
      ∀ next, Move True executor next → ∀ result,
        next.endings = executor.endings ++ [(order.id, .answered result)] →
        result.IsTrueOf next.jobs order.tasks := by
  obtain ⟨roles, kept⟩ := moves.inOrder
  refine ⟨fun before after tasks why log number mem entry later => ?_,
    fun tasks error failed number mem => kept.sound.isCalledOff failed mem,
    fun tasks done number mem => kept.sound.showsItsEnd done mem,
    fun order mem batch => ⟨kept.arranged.told order mem, fun next move result answered =>
      kept.answers_truly move mem batch answered⟩⟩
  have ordered := kept.sound.ordered
  dsimp only at ordered
  rw [log, List.pairwise_append, List.pairwise_cons] at ordered
  exact ordered.2.1.1 entry later number mem

end Theorem

section Pairs

variable {α : Type} [Algorithm α]

/-- A pool with one worker, for each of some workers. -/
def workersOf (workers : Nat) : Crew :=
  .pool ⟨2, [], List.replicate workers ⟨.fresh, false⟩, none, [], none, false⟩

/-- A batch of two tasks, the first of which completes at once. -/
def pair (timeout : Option Nat) : Action Nat :=
  .batch "b" .anonymous [("t", .reply (.result (.ok 1)) 0), ("u", .manual)] timeout

def afterPair (gate : Gate α) (crew : Crew) (timeout : Option Nat) :
    Executor (Gate α) Unit Empty Nat :=
  ((create crew gate).step (pair timeout) true).1

lemma afterPair_moves (gate : Gate α) (crew : Crew) (timeout : Option Nat) :
    Moves True (create crew gate) (afterPair gate crew timeout) :=
  step_moves (pair timeout) ⟨trivial, fun _ mem => absurd mem List.not_mem_nil⟩ true

end Pairs

/-- The only worker of a pool leaves while it is busy with the second task of a batch. -/
def afterPairAndShutdown : Executor (Gate Fixed) Unit Empty Nat :=
  ((afterPair ⟨⟨2⟩, 2, 2, 0, 0⟩ (workersOf 1) none).step .shutdown true).1

theorem finished_batch_is_over_when_the_worker_leaves :
    Moves True (create (workersOf 1) ⟨⟨2⟩, 2, 2, 0, 0⟩) afterPairAndShutdown ∧
      .dismissed [0, 1] (.failed .interrupted) ∈ afterPairAndShutdown.jobs.log ∧
      afterPairAndShutdown.jobs.IsCalledOff .interrupted 0 ∧
      afterPairAndShutdown.jobs.IsCalledOff .interrupted 1 ∧
      afterPairAndShutdown.jobs.desk.outcomes = [(0, .success), (1, .ignore)] := by
  have moves : Moves True (create (workersOf 1) ⟨⟨2⟩, 2, 2, 0, 0⟩) afterPairAndShutdown :=
    (afterPair_moves _ _ none).trans (step_moves .shutdown trivial true)
  have failed : .dismissed [0, 1] (.failed .interrupted) ∈ afterPairAndShutdown.jobs.log := by decide
  have calledOff := (finished_batch_is_over moves).2.1 _ _ failed
  exact ⟨moves, failed, calledOff 0 (by decide), calledOff 1 (by decide), by decide⟩

/-- A gate which its algorithm goes on to raise beyond where permits can be counted. -/
def overflowing : Gate Aimd :=
  { algorithm := { limit := maxPermits, decreaseFactor := Double.ofRatio 9 10, increase := 2,
                   maximum := maxPermits + 2, minUtilisation := Double.ofRatio 1 (Nat.pow 10 19) }
    limit := maxPermits, available := maxPermits, inFlight := 0, debt := 0 }

/-- The time of a batch is up when one of its tasks has completed. -/
def afterPairAndTimeout : Executor (Gate Aimd) Unit Empty Nat :=
  ((afterPair overflowing (workersOf 2) (some 5)).step (.advance 10) true).1

/-- Where the limiter meets a fault over the report, the handle of a task which completed with a
result shows that the task was cancelled, although the batch went well. -/
theorem batch_shows_no_result_after_fault :
    Gate.create overflowing.algorithm = .ok overflowing ∧
      Crew.hire (.pool 2 2) = .ok (workersOf 2) ∧
      Moves True (create (workersOf 2) overflowing) afterPairAndTimeout ∧
      .dismissed [0, 1] .done ∈ afterPairAndTimeout.jobs.log ∧
      afterPairAndTimeout.jobs.Completed 0 (.ok 1) ∧
      afterPairAndTimeout.jobs.received? 0 = some (.error .cancelled) := by
  have moves : Moves True (create (workersOf 2) overflowing) afterPairAndTimeout :=
    (afterPair_moves _ _ (some 5)).trans (step_moves (.advance 10) trivial true)
  refine ⟨rfl, rfl, moves, ?_, ⟨true, ?_⟩, ?_⟩ <;> decide +kernel

end Admission.Executor

import Admission.Proofs.Executor.Outcomes
import Admission.Proofs.Executor.Refusals
import Admission.Proofs.Executor.Staffed

/-!
# All or nothing

A batch is admitted as a whole or not at all. While it asks to be admitted it holds nothing, and
when it is refused no trace of it is left: the tasks are as they were, and so are the gates of the
limiter, unless one of them has free permits and debt at the same time, as is possible after a
fault. So a batch which is larger than the limit does not wait for what it holds itself.
-/

namespace Admission.Executor

deriving instance DecidableEq for Result

variable {L G W V : Type}

namespace Jobs

def IsAdmitted (jobs : Jobs L V G) (number : Nat) : Prop :=
  ∃ listener, .admitted number listener ∈ jobs.log

/-- Nothing has happened to the task: it was not admitted, nobody has looked at it, and there is no job
of it. -/
def IsUntouched (jobs : Jobs L V G) (number : Nat) : Prop :=
  jobs.entriesOf number = [] ∧ ¬jobs.HasJob number

end Jobs

/-- Nothing has happened to some tasks, and every listener on which there is no report is held by
somebody else. -/
structure HoldsNothingFor (executor : Executor L G W V) (tasks : List Nat) : Prop where
  untouched : ∀ number ∈ tasks, executor.jobs.IsUntouched number
  others : ∀ listener < executor.jobs.desk.handedOut,
    executor.jobs.desk.settledOn listener = [] →
      (∃ hold ∈ executor.holds, hold.2.number = listener) ∨
        ∃ number ∉ tasks, .admitted number listener ∈ executor.jobs.log

section Tasks

variable {jobs : Jobs L V G} {loose : List (Pass G)} {roles : Nat → Role} {number : Nat}

lemma Hall.Sound.untouched (sound : Hall.Sound ⟨jobs, loose, roles⟩)
    (outside : (roles number).IsOutside) : jobs.IsUntouched number := by
  rcases Nat.lt_or_ge number jobs.tasks.length with below | above
  · obtain ⟨task, known⟩ := Jobs.known_of_lt below
    obtain ⟨-, job, -, entries⟩ := (sound.stands number task known).tale.outside_inv outside
    refine ⟨entries, ?_⟩
    rw [Jobs.hasJob_of_known known, job]
    nofun
  · refine ⟨(sound.beyond number above).2, ?_⟩
    rintro ⟨task, known, -⟩
    rw [List.getElem?_eq_none above] at known
    cases known

lemma Hall.Sound.admitted (sound : Hall.Sound ⟨jobs, loose, roles⟩)
    (inside : ¬(roles number).IsOutside) : jobs.IsAdmitted number := by
  have active : roles number ≠ .waiting := fun waits => inside (.inl waits)
  obtain ⟨task, known⟩ := Jobs.known_of_lt (sound.below rfl active)
  have tale := (sound.stands number task known).tale
  have mem : ∃ listener, .admitted number listener ∈ jobs.entriesOf number := by
    dsimp only at tale
    generalize jobs.entriesOf number = entries at tale ⊢
    generalize roles number = role at tale inside
    cases tale with
    | outside outside => exact absurd outside inside
    | underWay | ended | calledOff => exact ⟨_, List.mem_cons_self⟩
  obtain ⟨listener, mem⟩ := mem
  exact ⟨listener, admitted_mem_entriesOf.mp mem⟩

/-- A pass which a task holds is the one with which it was admitted. -/
lemma Hall.Sound.admitted_of_pending (sound : Hall.Sound ⟨jobs, loose, roles⟩) {pass : Pass G}
    (mem : pass ∈ pending jobs.tasks) :
    ∃ number, .admitted number pass.number ∈ jobs.log ∧ ¬(roles number).IsOutside := by
  obtain ⟨task, task_mem, has⟩ := List.mem_filterMap.mp mem
  obtain ⟨number, known⟩ := List.getElem?_of_mem task_mem
  have tale := (sound.stands number task known).tale
  refine ⟨number, ?_⟩
  rw [← admitted_mem_entriesOf]
  dsimp only at tale
  generalize jobs.entriesOf number = entries at tale ⊢
  generalize roles number = role at tale ⊢
  cases tale with
  | outside _ spent | ended _ spent | calledOff spent => cases has.symm.trans spent
  | underWay inside pending =>
    cases has.symm.trans pending
    exact ⟨List.mem_cons_self, inside⟩

end Tasks

section Stages

variable {batches : Prop} {roles : Nat → Role} {executor : Executor L G W V} {order : Order W}
  {tasks : List Nat} {timeout : Option Nat}

lemma not_isSingle_of_batch (batch : order.demand = .batch tasks timeout) : ¬order.IsSingle :=
  fun single => single tasks timeout batch

/-- The tasks of an order which is not under way wait. -/
lemma InOrder.waits (kept : InOrder batches roles executor) (mem : order ∈ executor.orders)
    (asks : order.isUnderWay = false) : ∀ number ∈ order.tasks, roles number = .waiting := by
  have fits := kept.arranged.fits order mem
  unfold Order.Fits at fits
  unfold Order.isUnderWay at asks
  cases stage : order.stage with
  | new =>
    rw [stage] at fits
    exact fits
  | asking place =>
    rw [stage] at fits
    exact fits.2
  | awaiting | running | collecting =>
    rw [stage] at asks
    cases asks

/-- The tasks of a batch which is under way are admitted. -/
lemma InOrder.admitted (kept : InOrder batches roles executor) (mem : order ∈ executor.orders)
    (batch : ¬order.IsSingle) (underWay : order.isUnderWay = true) :
    ∀ number ∈ order.tasks, executor.jobs.IsAdmitted number := by
  intro number mine
  refine kept.sound.admitted ?_
  have fits := kept.arranged.fits order mem
  have told := kept.arranged.told order mem
  unfold Order.Fits at fits
  unfold Order.isUnderWay at underWay
  cases stage : order.stage with
  | new | asking =>
    rw [stage] at underWay
    cases underWay
  | awaiting =>
    rw [stage] at fits
    exact absurd fits.1 batch
  | running =>
    rw [stage] at fits
    rw [fits number mine]
    exact fun outside => outside.elim nofun nofun
  | collecting =>
    have done : roles number = .dismissed .done :=
      kept.sound.dismissals _ _ (told stage) number mine
    rw [done]
    exact fun outside => outside.elim nofun nofun

lemma InOrder.holdsNothing (kept : InOrder batches roles executor) (mem : order ∈ executor.orders)
    (asks : order.isUnderWay = false) : executor.HoldsNothingFor order.tasks := by
  have waits := kept.waits mem asks
  refine ⟨fun number mine => kept.sound.untouched (.inl (waits number mine)),
    fun listener out unsettled => ?_⟩
  have balanced := kept.sound.holding.balanced
  rcases balanced.outstanding_or_settled out with outstanding | ⟨report, settled⟩
  · rcases List.mem_append.mp outstanding with pending | held
    · obtain ⟨pass, pass_mem, rfl⟩ := List.mem_map.mp pending
      obtain ⟨number, admitted, inside⟩ := kept.sound.admitted_of_pending pass_mem
      exact .inr ⟨number, fun mine => inside (.inl (waits number mine)), admitted⟩
    · obtain ⟨pass, pass_mem, rfl⟩ := List.mem_map.mp held
      obtain ⟨hold, hold_mem, rfl⟩ := List.mem_map.mp pass_mem
      exact .inl ⟨hold, hold_mem, rfl⟩
  · cases unsettled.symm.trans settled

end Stages

section Tracks

/-- Some tasks were turned away and nothing is left of that: they stay untouched for good, the crew
has not heard of them, all listeners which they had are ignored, and all gates are as they were,
with their algorithms, but for new ones, if none of them had free permits and debt at the same time.
-/
structure LeavesNoTrace [lim : Limiter TaskLabel L G W] (limiter : L) (tasks : List Nat)
    (before after : Executor L G W V) : Prop where
  untouched : ∀ later, Moves True after later → ∀ number ∈ tasks, later.jobs.IsUntouched number
  crew : after.crew = before.crew
  ignored : before.jobs.desk.IgnoresAll after.jobs.desk
  gates : ∀ (α : Type) [Algorithm α] (P : Gate α → Prop) (nest : Nesting TaskLabel α lim),
    (∀ gate, P gate → gate.IsNew) → nest.IsBuilt P limiter →
      (nest.gates before.jobs.desk.limiter).Apart →
      Gates.Grows P (nest.gates before.jobs.desk.limiter) (nest.gates after.jobs.desk.limiter)

lemma forgo_desk (jobs : Jobs L V G) (tasks : List Nat) : (jobs.forgo tasks).desk = jobs.desk := by
  change (tasks.foldl (fun jobs number =>
    jobs.update number fun task => { task with alive := false }) jobs).desk = jobs.desk
  induction tasks generalizing jobs with
  | nil => rfl
  | cons number rest ih => exact ih _

variable [lim : Limiter TaskLabel L G W] {roles : Nat → Role} {crew : Crew} {limiter : L}
  {executor before after : Executor L G W V} {order : Order W} {tasks : List Nat}
  {timeout : Option Nat} {cause : Refusal} {desk looked : Desk L} {pass : Pass G}

/-- Tasks which are turned away are never touched. -/
lemma TurnsAway.untouched (turned : TurnsAway order cause desk before after)
    (kept : InOrder True roles after) {later : Executor L G W V} (moves : Moves True after later) :
    ∀ number ∈ order.tasks, later.jobs.IsUntouched number := by
  have dismissed : .dismissed order.tasks .notAdmitted ∈ after.jobs.log := by
    rw [turned.jobs]
    exact List.mem_append_right _ (List.mem_singleton_self _)
  obtain ⟨others, kept_later, course⟩ := kept.moves moves
  intro number mine
  have outside := kept_later.sound.dismissals _ _ (course.log_subset dismissed) number mine
  exact kept_later.sound.untouched (.inr outside)

lemma Denies.leavesNoTrace (denies : Denies before order cause desk)
    (turned : TurnsAway order cause desk before after) (kept : InOrder True roles after)
    (moves : Moves True (create crew limiter) before) :
    LeavesNoTrace limiter order.tasks before after := by
  have same : after.jobs.desk = desk := by
    rw [turned.jobs]
    exact forgo_desk _ order.tasks
  refine ⟨fun later more => turned.untouched kept more, turned.crew, ?_, ?_⟩
  · rw [same]
    exact denies.ignoresAll
  · intro α rule P nest fresh built apart
    rw [same]
    exact denies.grows (moves.backs built fresh) apart

section Limits

variable {α : Type} [Algorithm α] {nest : Nesting TaskLabel α lim} {path : List String}
  {gate : Gate α}

/-- A batch which is larger than the limit ends as soon as its first task is admitted. -/
lemma WaitsInPlace.exceeds (waits : WaitsInPlace nest executor)
    (backs : nest.Backs Gate.IsNew executor.held)
    (apart : (nest.gates executor.jobs.desk.limiter).Apart) (mem : order ∈ executor.orders)
    (batch : order.demand = .batch tasks timeout) (asks : order.isUnderWay = false)
    (answered : executor.answer order = (looked, .ok (.admitted pass)))
    (place : nest.place pass = some path) (known : nest.gates looked.limiter path = some gate)
    (larger : gate.limit < tasks.length) :
    (executor.goOnWith order).endings =
        executor.endings ++ [(order.id, .answered (.failed (.refused .rejected)))] ∨
      maxPermits < gate.limit ∧ ∃ fault, (executor.goOnWith order).endings =
        executor.endings ++ [(order.id, .brokenDown (Fault.message fault))] := by
  have starts := starts_of_answer backs.breeds answered
  have leads := waits.leads mem answered place
  have more : gate.limit < tasks.length - 1 + 1 := by omega
  rcases goOnWith_of_asks executor asks with ⟨timeout, none, -⟩ | ⟨agenda, -, goes⟩
  · cases batch.symm.trans none
    exact absurd larger (Nat.not_lt_zero _)
  rw [goes, answered, proceed_batch batch]
  have acquires :=
    Desk.acquireMore_acquiresMore looked order.ctx agenda.now [pass] (tasks.length - 1)
  have ends := starts.exceeds backs apart leads place known more acquires
  unfold admitBatch
  dsimp only [keep, Agenda.clearAlarms]
  rcases ends with ⟨back, denied⟩ | ⟨uncountable, back, fault, broken⟩
  · rw [denied]
    exact .inl rfl
  · rw [broken]
    exact .inr ⟨uncountable, fault, rfl⟩

end Limits

/-- A batch is admitted as a whole or not at all. Once it is under way all its tasks are admitted,
and before that it holds no listener, whether it has just been placed or waits. If it is refused,
and it is not the crew which fails it so, no trace is left of it; and where no layer of the limiter
has callers wait that happens at once. If it is larger than the limit of the gate at which its first
task is let in, it is rejected there and then, unless the limit is beyond where permits can be
counted. Both take for granted that no gate has free permits and debt at the same time, which is so
as long as no fault was met over a report, and always so where the algorithms never fail to choose a
limit. -/
theorem batch_is_admitted_whole_or_not_at_all (moves : Moves True (create crew limiter) executor)
    (mem : order ∈ executor.orders) (batch : order.demand = .batch tasks timeout) :
    (order.isUnderWay = true → ∀ number ∈ tasks, executor.jobs.IsAdmitted number) ∧
    (order.isUnderWay = false → executor.HoldsNothingFor tasks) ∧
    (∀ next cause, Move True executor next →
      next.endings = executor.endings ++ [(order.id, .answered (.failed (.refused cause)))] →
      CrewFails order (.refused cause) executor next ∨ LeavesNoTrace limiter tasks executor next) ∧
    ∀ (α : Type) [Algorithm α] (nest : Nesting TaskLabel α lim), nest.IsBuilt Gate.IsNew limiter →
      (Algorithm.AlwaysChooses α ∨ executor.jobs.desk.IsFaultless →
        (nest.gates executor.jobs.desk.limiter).Apart) ∧
      (nest.HasNoQueue → ∀ place, order.stage ≠ .asking place) ∧
      ∀ looked pass path, order.isUnderWay = false →
        executor.answer order = (looked, .ok (.admitted pass)) → nest.place pass = some path →
        ∃ gate, nest.gates looked.limiter path = some gate ∧
        ((nest.gates executor.jobs.desk.limiter).Apart → gate.limit < tasks.length →
          (executor.goOnWith order).endings =
              executor.endings ++ [(order.id, .answered (.failed (.refused .rejected)))] ∨
            maxPermits < gate.limit ∧ ∃ fault, (executor.goOnWith order).endings =
              executor.endings ++ [(order.id, .brokenDown (Fault.message fault))]) := by
  obtain ⟨roles, kept⟩ := moves.inOrder
  have mine : order.tasks = tasks := tasks_of_batch batch
  refine ⟨fun underWay => ?_, fun asks => ?_, fun next cause move refused => ?_,
    fun α rule nest built => ?_⟩
  · rw [← mine]
    exact kept.admitted mem (not_isSingle_of_batch batch) underWay
  · rw [← mine]
    exact kept.holdsNothing mem asks
  · refine (kept.refused move mem refused).imp_right ?_
    rintro ⟨desk, denies, turned⟩
    obtain ⟨others, kept_next, -⟩ := kept.move move
    rw [← mine]
    exact denies.leavesNoTrace turned kept_next moves
  · have backs := moves.backs built fun _ new => new
    refine ⟨backs.apart, fun prompt place _ => prompt.no_place place, ?_⟩
    intro looked pass path asks answered place
    obtain ⟨gate, known⟩ := (starts_of_answer backs.breeds answered).known place
    exact ⟨gate, known, fun apart =>
      (moves.waitsInPlace nest).exceeds backs apart mem batch asks answered place known⟩

end Tracks

/-- A gate with one permit, at which callers wait. -/
def onePermit : Waiting (Gate Fixed) := Waiting.create ⟨⟨1⟩, 1, 1, 0, 0⟩ none

/-- A batch of two tasks which waits for its first permit. -/
def waitingBatch : Order Place := ⟨"b", .anonymous, .batch [0, 1] none, .asking ⟨0, none⟩⟩

/-- The batch was given while somebody held the permit, which has just come back. -/
def afterReturn : Executor (Waiting (Gate Fixed)) Unit Place Nat :=
  let held := ((create loneWorker onePermit).step (.hold "h" .anonymous) true).1
  let given := (held.step (.batch "b" .anonymous [("t", .manual), ("u", .manual)] none) true).1
  (given.step (.release "h" .success) false).1

lemma afterReturn_moves : Moves True (create loneWorker onePermit) afterReturn := by
  refine ((step_moves (.hold "h" .anonymous) trivial true).trans (step_moves
    (.batch "b" .anonymous [("t", .manual), ("u", .manual)] none) ⟨trivial, ?_⟩ true)).trans
    (step_moves (.release "h" .success) trivial false)
  decide

/-- A batch which is larger than the limit waits without holding anything. Then it is rejected at once,
and the listener which it got is ignored. -/
theorem batch_larger_than_the_limit_leaves_no_trace :
    Moves True (create loneWorker onePermit) afterReturn ∧ waitingBatch ∈ afterReturn.orders ∧
      afterReturn.HoldsNothingFor [0, 1] ∧
      (afterReturn.goOnWith waitingBatch).endings =
        [("b", .answered (.failed (.refused .rejected)))] ∧
      LeavesNoTrace onePermit [0, 1] afterReturn (afterReturn.goOnWith waitingBatch) ∧
      (afterReturn.goOnWith waitingBatch).jobs.desk.outcomes = [(0, .success), (1, .ignore)] := by
  have mem : waitingBatch ∈ afterReturn.orders := by
    have same : afterReturn.orders = [waitingBatch] := rfl
    rw [same]
    exact List.mem_singleton_self waitingBatch
  have built : (Nesting.waiting (.gate : Nesting TaskLabel Fixed _)).IsBuilt Gate.IsNew onePermit :=
    ⟨_, none, rfl, ⟨1⟩, rfl⟩
  obtain ⟨-, waits, refused, gates⟩ := batch_is_admitted_whole_or_not_at_all afterReturn_moves mem rfl
  -- The first task gets the permit which has come back.
  obtain ⟨apart, -, first⟩ := gates Fixed _ built
  obtain ⟨gate, known, rejected⟩ := first (afterReturn.answer waitingBatch).1 _ [] rfl rfl rfl
  obtain rfl : ⟨⟨1⟩, 1, 0, 1, 0⟩ = gate := Option.some.inj known
  have apart := apart (.inl fun rule _ => ⟨rule.limit, rfl⟩)
  have ends := (rejected apart (by decide)).resolve_right fun beyond => absurd beyond.1 (by decide)
  refine ⟨afterReturn_moves, mem, waits rfl, ends, ?_, by decide⟩
  refine (refused _ .rejected (.goOn mem) ends).resolve_left fun crew => ?_
  generalize afterReturn.goOnWith waitingBatch = next at crew
  cases crew with
  | given failing => cases failing
  | running running => cases running

/-- A gate whose algorithm halves the limit over a dropped job, and fails over one which succeeds.
-/
def halving : Gate Aimd :=
  let rule : Aimd :=
    { limit := 5, decreaseFactor := Double.ofRatio 1 2, increase := wordSize - 1
      maximum := 1000, minUtilisation := Double.ofRatio 4 5 }
  { algorithm := rule, limit := 5, available := 5, inFlight := 0, debt := 0 }

/-- A pool of three workers with room for one more job. -/
def threeWorkers : Crew := .pool ⟨1, [], List.replicate 3 ⟨.fresh, false⟩, none, [], none, false⟩

/-- The pool does not take the last of five tasks, which lowers the limit, and the first task
succeeds. -/
def halvedAndFailed : List (Action Nat) :=
  [.submit "a" .anonymous "t1" .manual, .submit "b" .anonymous "t2" .manual,
    .submit "c" .anonymous "t3" .manual, .submit "d" .anonymous "t4" .manual,
    .submit "e" .anonymous "t5" .manual, .complete "t1" (.result (.ok 1))]

/-- A batch of two tasks, which nothing is wanted for but two permits. -/
def twoMore : Action Nat := .batch "b2" .anonymous [("u1", .manual), ("u2", .manual)] none

def stepAll (executor : Executor (Gate Aimd) Unit Empty Nat) (actions : List (Action Nat)) :
    Executor (Gate Aimd) Unit Empty Nat :=
  actions.foldl (fun executor action => (executor.step action true).1) executor

/-- The algorithm failed over a job at a gate with debt, so that there is a free permit beside the
debt. A batch of two tasks is refused then, and what it leaves is a gate without the permit. -/
theorem refused_batch_leaves_a_trace_after_a_fault :
    Gate.create halving.algorithm = .ok halving ∧ Crew.hire (.pool 3 1) = .ok threeWorkers ∧
      let before := stepAll (create threeWorkers halving) halvedAndFailed
      let after := (before.step twoMore true).1
      after.endings = before.endings ++ [("b2", .answered (.failed (.refused .rejected)))] ∧
        before.jobs.desk.limiter.available = 1 ∧ after.jobs.desk.limiter.available = 0 := by
  refine ⟨rfl, rfl, ?_⟩
  decide +kernel

end Admission.Executor

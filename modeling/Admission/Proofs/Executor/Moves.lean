import Admission.Proofs.Agenda
import Admission.Proofs.Executor.Orders

/-!
# What can happen to an executor

Orders are given, go on and are dropped, workers look for jobs and go away, tasks are told how to
end, and so on, in any order: each is a move. A crew which is not a pool may do with its jobs what
it likes. Every move keeps all tales and all orders as they have to be.
-/

namespace Admission.Executor

variable {L G W V : Type}

section Moves

variable [Limiter TaskLabel L G W]

/-- What can happen to an executor at any time, whoever is ready to go on. Where there are batches,
somebody may look at any job or throw it away, and may end a batch which runs. -/
inductive Move (batches : Prop) : Executor L G W V → Executor L G W V → Prop
  | pass {executor} (agenda : Agenda Agent) : Move batches executor { executor with agenda := agenda }
  | place {executor} {order : Order W} {tasks : List (Task V G)} (stage : order.stage = .new)
      (fresh : ∀ other ∈ executor.orders, other.id ≠ order.id) (new : ∀ task ∈ tasks, task.IsNew)
      (numbers : order.tasks = List.range' executor.jobs.tasks.length tasks.length)
      (attached : ¬order.IsSingle → ∀ task ∈ tasks, task.detached = false)
      (allowed : ¬batches → order.IsSingle) :
      Move batches executor { executor with
        jobs := { executor.jobs with tasks := executor.jobs.tasks ++ tasks }
        orders := executor.orders ++ [order] }
  | goOn {executor} {order : Order W} (mem : order ∈ executor.orders) :
      Move batches executor (executor.goOnWith order)
  | abandon {executor} {order : Order W} (mem : order ∈ executor.orders) :
      Move batches executor (executor.dropOrder order).1
  | work {executor} (worker fuel : Nat) {pool : WorkerPool Nat} (crew : executor.crew = .pool pool) :
      Move batches executor (executor.work worker fuel pool)
  | retire {executor} (worker : Nat) {pool : WorkerPool Nat} (crew : executor.crew = .pool pool) :
      Move batches executor (executor.retire worker pool)
  | complete {executor} (name : String) (reply : Reply V V) :
      Move batches executor (executor.complete name reply).1
  | abort {executor} (id : String) : Move batches executor (executor.abort id).1
  | forget {executor} (id : String) : Move batches executor (executor.forget id).1
  | shutdown {executor} : Move batches executor executor.shutdown
  | discard {executor} : Move batches executor executor.discard
  | hold {executor} (id : String) (ctx : TaskLabel) : Move batches executor (executor.hold id ctx).1
  | release {executor} (id : String) (outcome : Outcome) :
      Move batches executor (executor.release id outcome).1
  | look {executor} (crews : batches) (number : Nat) : Move batches executor (executor.look number).1
  | toss {executor} (crews : batches) (numbers : List Nat) :
      Move batches executor (executor.dropJobs numbers)
  | close {executor} (crews : batches) {order : Order W} (mem : order ∈ executor.orders)
      {deadline : Option Nat} (running : order.stage = .running deadline) :
      Move batches executor (executor.closeBatch order)
  | fail {executor} (crews : batches) {order : Order W} (mem : order ∈ executor.orders)
      {deadline : Option Nat} (running : order.stage = .running deadline) (error : ExecutorFailure) :
      Move batches executor (executor.failBatch order error)

variable (batches : Prop) in
abbrev Moves (before after : Executor L G W V) : Prop :=
  Relation.ReflTransGen (Move batches) before after

end Moves

/-- Every task has its tale, and every order its tasks. -/
structure InOrder (batches : Prop) (roles : Nat → Role) (executor : Executor L G W V) : Prop where
  sound : Hall.Sound ⟨executor.jobs, executor.holds.map Prod.snd, roles⟩
  arranged : Arranged batches roles executor

section Kept

variable {batches : Prop} {roles others : Nat → Role} {executor before after : Executor L G W V}
  {order : Order W}

lemma Beside.withPool (beside : Beside before after) (pool : WorkerPool Nat) (woken : Option Nat) :
    Beside before (after.withPool pool woken) :=
  ⟨beside.orders, beside.handles, beside.holds, beside.endings⟩

lemma shutdown_beside (executor : Executor L G W V) :
    executor.shutdown.jobs = executor.jobs ∧ Beside executor executor.shutdown := by
  unfold Executor.shutdown
  split <;> exact ⟨rfl, rfl, rfl, rfl, rfl⟩

lemma InOrder.running (kept : InOrder batches roles executor) (mem : order ∈ executor.orders)
    {deadline : Option Nat} (running : order.stage = .running deadline) :
    ∀ number ∈ order.tasks, roles number = .inHand := by
  have fits := kept.arranged.fits order mem
  unfold Order.Fits at fits
  rw [running] at fits
  exact fits

variable [Limiter TaskLabel L G W]

lemma Arranged.beside (arranged : Arranged batches roles before)
    (holds : Table.Distinct after.holds) (orders : after.orders = before.orders)
    (handles : ∀ entry ∈ after.handles, entry ∈ before.handles) {loose left : List (Pass G)}
    (course : Course ⟨before.jobs, loose, roles⟩ ⟨after.jobs, left, roles⟩) :
    Arranged batches roles after where
  holds := holds
  ids := orders ▸ arranged.ids
  apart := orders ▸ arranged.apart
  distinct := orders ▸ arranged.distinct
  below := orders ▸ fun order mem number mine =>
    (arranged.below order mem number mine).trans_le course.length_le
  fits := orders ▸ arranged.fits
  told := orders ▸ fun order mem collecting => course.log_subset (arranged.told order mem collecting)
  handles := fun entry mem => arranged.handles entry (handles entry mem)
  owned := orders ▸ arranged.owned
  stays := arranged.stays
  single := orders ▸ arranged.single
  attached := orders ▸ fun order mem batch number mine =>
    course.attached (arranged.attached order mem batch number mine)
  alone := orders ▸ arranged.alone

lemma InOrder.deal (kept : InOrder batches roles before)
    (course : Course ⟨before.jobs, before.holds.map Prod.snd, roles⟩
      ⟨after.jobs, after.holds.map Prod.snd, roles⟩) (holds : Table.Distinct after.holds)
    (orders : after.orders = before.orders)
    (handles : ∀ entry ∈ after.handles, entry ∈ before.handles) : InOrder batches roles after :=
  ⟨kept.sound.course course,
    kept.arranged.beside holds orders handles course⟩

lemma InOrder.beside (kept : InOrder batches roles before)
    (course : Course ⟨before.jobs, before.holds.map Prod.snd, roles⟩
      ⟨after.jobs, before.holds.map Prod.snd, roles⟩) (beside : Beside before after) :
    InOrder batches roles after := by
  rw [← beside.holds] at course
  exact kept.deal (beside.holds ▸ course) (beside.holds ▸ kept.arranged.holds) beside.orders
    fun entry mem => beside.handles ▸ mem

lemma InOrder.proceed (kept : InOrder batches roles before) (mem : order ∈ before.orders)
    (proceeds : Proceeds order roles (before.holds.map Prod.snd) (before.holds.map Prod.snd)
      before after) :
    ∃ others, InOrder batches others after ∧
      Course ⟨before.jobs, before.holds.map Prod.snd, roles⟩
        ⟨after.jobs, after.holds.map Prod.snd, others⟩ ∧ order.Ends before after := by
  obtain ⟨others, course, goes⟩ := proceeds
  refine ⟨others, ⟨goes.holds ▸ kept.sound.course course,
    kept.arranged.go mem goes course⟩, goes.holds ▸ course, ?_⟩
  rcases goes.becomes with ⟨-, -, ends⟩ | ⟨-, -, -, -, -, -, endings⟩
  · exact ends
  · exact .inl endings

lemma InOrder.place (kept : InOrder batches roles executor) {tasks : List (Task V G)}
    (stage : order.stage = .new) (fresh : ∀ other ∈ executor.orders, other.id ≠ order.id)
    (new : ∀ task ∈ tasks, task.IsNew)
    (numbers : order.tasks = List.range' executor.jobs.tasks.length tasks.length)
    (attached : ¬order.IsSingle → ∀ task ∈ tasks, task.detached = false)
    (allowed : ¬batches → order.IsSingle) :
    InOrder batches roles { executor with
      jobs := { executor.jobs with tasks := executor.jobs.tasks ++ tasks }
      orders := executor.orders ++ [order] } := by
  obtain ⟨sound, arranged⟩ := kept
  have waits : ∀ number ∈ order.tasks, roles number = .waiting := by
    intro number mem
    rw [numbers, List.mem_range'_1] at mem
    exact (sound.beyond number mem.1).1
  have apart : ∀ other ∈ executor.orders, ∀ number ∈ other.tasks, number ∉ order.tasks := by
    intro other mem number theirs mine
    rw [numbers, List.mem_range'_1] at mine
    exact absurd (arranged.below other mem number theirs) (Nat.not_lt.mpr mine.1)
  -- Whatever is known of each order is known of the old ones and of the new one.
  have each : ∀ {P : Order W → Prop}, (∀ other ∈ executor.orders, P other) → P order →
      ∀ other ∈ executor.orders ++ [order], P other := by
    intro P old mine other mem
    rcases List.mem_append.mp mem with kept | added
    · exact old other kept
    · exact List.mem_singleton.mp added ▸ mine
  exact {
    sound := sound.step (.arrive new)
    arranged.holds := arranged.holds
    arranged.ids := by
      refine each (fun one one_mem => each (arranged.ids one one_mem) ?_) (each ?_ fun _ => rfl)
      · exact fun same => absurd same (fresh one one_mem)
      · exact fun two two_mem same => absurd same.symm (fresh two two_mem)
    arranged.apart := by
      refine each (fun one one_mem => each (arranged.apart one one_mem) ?_)
        (each ?_ fun _ _ _ => rfl)
      · exact fun number theirs mine => absurd mine (apart one one_mem number theirs)
      · exact fun two two_mem number mine theirs => absurd mine (apart two two_mem number theirs)
    arranged.distinct := each arranged.distinct (numbers ▸ List.nodup_range')
    arranged.below := by
      refine each (fun other mem number mine => ?_) fun number mine => ?_
      · exact (arranged.below other mem number mine).trans_le (by simp)
      · rw [numbers, List.mem_range'_1] at mine
        simpa using mine.2
    arranged.fits := by
      refine each arranged.fits ?_
      unfold Order.Fits
      rw [stage]
      exact waits
    arranged.told := by
      refine each arranged.told fun collecting => ?_
      rw [stage] at collecting
      nomatch collecting
    arranged.handles := arranged.handles
    arranged.owned := by
      intro number inHand
      obtain ⟨other, mem, theirs⟩ := arranged.owned number inHand
      exact ⟨other, List.mem_append_left _ mem, theirs⟩
    arranged.stays := arranged.stays
    arranged.single := by
      refine each arranged.single fun _ number mine => ?_
      rw [waits number mine]
      trivial
    arranged.attached := by
      have arrived : Step ⟨executor.jobs, executor.holds.map Prod.snd, roles⟩ _ := .arrive new
      refine each (fun other mem batch number mine => ?_) fun batch number mine => ?_
      · exact arrived.attached (arranged.attached other mem batch number mine)
      · rw [numbers, List.mem_range'_1] at mine
        have above : number - executor.jobs.tasks.length < tasks.length := by omega
        refine ⟨tasks[number - executor.jobs.tasks.length], ?_,
          attached batch _ (List.getElem_mem above)⟩
        rw [List.getElem?_append_right mine.1, List.getElem?_eq_getElem above]
    arranged.alone := fun alone =>
      ⟨each (arranged.alone alone).1 (allowed alone), (arranged.alone alone).2⟩ }

section Turns

variable {loose : List (Pass G)}

lemma complete_course (name : String) (reply : Reply V V) :
    Course ⟨executor.jobs, loose, roles⟩ ⟨(executor.complete name reply).1.jobs, loose, roles⟩ ∧
      Beside executor (executor.complete name reply).1 := by
  unfold Executor.complete
  split
  · exact ⟨.refl, .refl executor⟩
  · next number _ =>
    have course : Course ⟨executor.jobs, loose, roles⟩ _ := minor_course
      (fun task => { task with mail := some reply })
      (fun _ => ⟨rfl, rfl, rfl, rfl, rfl, rfl⟩) (fun _ => rfl) number
    exact ⟨course, ⟨rfl, rfl, rfl, rfl⟩⟩

lemma abort_handle_course (sound : Hall.Sound ⟨executor.jobs, loose, roles⟩)
    (free : ∀ entry ∈ executor.handles, roles entry.2 = .free) (id : String) :
    Course ⟨executor.jobs, loose, roles⟩ ⟨(executor.abort id).1.jobs, loose, roles⟩ ∧
      Beside executor (executor.abort id).1 := by
  unfold Executor.abort
  cases found : Table.at? executor.handles id with
  | none => exact ⟨.refl, .refl executor⟩
  | some number =>
    obtain ⟨before, after, handles, -⟩ := Table.split_of_at? found
    have mem : (id, number) ∈ executor.handles := by
      rw [handles]
      exact List.mem_append_right _ List.mem_cons_self
    exact ⟨abort_course sound (free _ mem), ⟨rfl, rfl, rfl, rfl⟩⟩

lemma InOrder.forget (kept : InOrder batches roles executor) (id : String) :
    InOrder batches roles (executor.forget id).1 := by
  unfold Executor.forget
  split
  · exact kept
  · exact kept.deal .refl kept.arranged.holds rfl fun _ mem => (List.mem_filter.mp mem).1

lemma dropJobs_course (executor : Executor L G W V) (numbers : List Nat) :
    Course ⟨executor.jobs, loose, roles⟩ ⟨(executor.dropJobs numbers).jobs, loose, roles⟩ ∧
      Beside executor (executor.dropJobs numbers) :=
  ⟨dropAll_course executor.agenda.now false numbers, ⟨rfl, rfl, rfl, rfl⟩⟩

lemma work_course (executor : Executor L G W V)
    (stays : ∀ number, roles number ≠ .leaving) (worker fuel : Nat) (pool : WorkerPool Nat) :
    Course ⟨executor.jobs, loose, roles⟩
        ⟨(executor.work worker fuel pool).jobs, loose, roles⟩ ∧
      Beside executor (executor.work worker fuel pool) := by
  induction fuel generalizing executor pool with
  | zero => exact ⟨.refl, (Beside.refl executor).withPool pool none⟩
  | succ fuel ih =>
    unfold Executor.work
    dsimp only
    generalize pool.seek worker = found
    obtain ⟨next_pool, woken⟩ := found
    dsimp only
    cases next_pool.jobOf? worker with
    | none => exact ⟨.refl, (Beside.refl executor).withPool _ _⟩
    | some number =>
      have looked : Course ⟨executor.jobs, loose, roles⟩ _ :=
        lookAt_course (executor.withPool next_pool woken) (stays number)
      have beside := (look_jobs (executor.withPool next_pool woken) number).2
      dsimp only
      generalize (executor.withPool next_pool woken).look number = result at looked beside ⊢
      obtain ⟨next, alarm | fault⟩ := result
      · obtain ⟨orders, handles, holds, endings⟩ := beside
        cases alarm with
        | none => exact ⟨looked, ⟨orders, handles, holds, endings⟩⟩
        | some time => exact ⟨looked, ⟨orders, handles, holds, endings⟩⟩
      · obtain ⟨orders, handles, holds, endings⟩ := beside
        have beside : Beside executor { next with
          agenda := next.agenda.clearAlarms (.worker worker) } := ⟨orders, handles, holds, endings⟩
        obtain ⟨course, rest⟩ := ih { next with agenda := next.agenda.clearAlarms (.worker worker) }
          (next_pool.setOccupation worker .fresh)
        exact ⟨looked.trans course, beside.trans rest⟩

lemma retire_course (worker : Nat) (pool : WorkerPool Nat) :
    Course ⟨executor.jobs, loose, roles⟩
        ⟨(executor.retire worker pool).jobs, loose, roles⟩ ∧
      Beside executor (executor.retire worker pool) := by
  unfold Executor.retire
  dsimp only
  generalize pool.retire worker = left
  obtain ⟨next_pool, job, woken⟩ := left
  dsimp only
  generalize next_pool.close = closed
  obtain ⟨last_pool, lost⟩ := closed
  obtain ⟨course, orders, handles, holds, endings⟩ := dropJobs_course (withPool { executor with
    agenda := executor.agenda.clearAlarms (.worker worker) } last_pool woken)
    (job.toList ++ lost)
  exact ⟨course, orders, handles, holds, endings⟩

lemma discard_course :
    Course ⟨executor.jobs, loose, roles⟩ ⟨executor.discard.jobs, loose, roles⟩ ∧
      Beside executor executor.discard := by
  unfold Executor.discard
  generalize executor.crew.discard = discarded
  obtain ⟨crew, lost⟩ := discarded
  obtain ⟨course, orders, handles, holds, endings⟩ :=
    dropJobs_course { executor with crew := crew } lost
  exact ⟨course, orders, handles, holds, endings⟩

lemma InOrder.hold (kept : InOrder batches roles executor) (id : String) (ctx : TaskLabel) :
    InOrder batches roles (executor.hold id ctx).1 ∧
      Course ⟨executor.jobs, executor.holds.map Prod.snd, roles⟩
        ⟨(executor.hold id ctx).1.jobs, (executor.hold id ctx).1.holds.map Prod.snd, roles⟩ := by
  have deals := Desk.hold_deals executor.jobs.desk kept.arranged.holds id ctx executor.agenda.now
  unfold Executor.hold
  dsimp only at deals ⊢
  generalize executor.jobs.desk.hold executor.holds id ctx executor.agenda.now = result at deals ⊢
  exact ⟨kept.deal (.single (.deal deals.1)) deals.2 rfl fun _ mem => mem, .single (.deal deals.1)⟩

lemma InOrder.release (kept : InOrder batches roles executor) (id : String) (outcome : Outcome) :
    InOrder batches roles (executor.release id outcome).1 ∧
      Course ⟨executor.jobs, executor.holds.map Prod.snd, roles⟩
        ⟨(executor.release id outcome).1.jobs,
          (executor.release id outcome).1.holds.map Prod.snd, roles⟩ := by
  have deals := Desk.endHold_deals (C := TaskLabel) executor.jobs.desk kept.arranged.holds id
    outcome executor.agenda.now
  unfold Executor.release
  dsimp only at deals ⊢
  generalize executor.jobs.desk.endHold TaskLabel executor.holds id outcome executor.agenda.now =
    result at deals ⊢
  exact ⟨kept.deal (.single (.deal deals.1)) deals.2 rfl fun _ mem => mem, .single (.deal deals.1)⟩

/-- What a move does about the tasks is a course of steps which keeps everything in order, and it ends
at most one order. -/
def Follows (batches : Prop) (roles : Nat → Role) (before after : Executor L G W V) : Prop :=
  ∃ others, InOrder batches others after ∧
    Course ⟨before.jobs, before.holds.map Prod.snd, roles⟩
      ⟨after.jobs, after.holds.map Prod.snd, others⟩ ∧
    (after.endings = before.endings ∨ ∃ order ∈ before.orders, order.Ends before after)

/-- Every move keeps everything in order, and ends at most one order. -/
theorem InOrder.move (kept : InOrder batches roles before) (move : Move batches before after) :
    Follows batches roles before after := by
  have sound := kept.sound
  have stays := kept.arranged.stays
  have quiet : ∀ {next : Executor L G W V}, Course ⟨before.jobs, before.holds.map Prod.snd, roles⟩
      ⟨next.jobs, before.holds.map Prod.snd, roles⟩ ∧ Beside before next →
      Follows batches roles before next :=
    fun ⟨course, beside⟩ =>
      ⟨roles, kept.beside course beside, beside.holds ▸ course, .inl beside.endings⟩
  have proceed : ∀ {next : Executor L G W V} {order : Order W}, order ∈ before.orders →
      Proceeds order roles (before.holds.map Prod.snd) (before.holds.map Prod.snd) before next →
      Follows batches roles before next := by
    intro next order mem proceeds
    obtain ⟨others, kept, course, ends⟩ := kept.proceed mem proceeds
    exact ⟨others, kept, course, .inr ⟨order, mem, ends⟩⟩
  cases move with
  | pass agenda => exact quiet ⟨.refl, ⟨rfl, rfl, rfl, rfl⟩⟩
  | place stage fresh new numbers attached allowed =>
    exact ⟨roles, kept.place stage fresh new numbers attached allowed, .single (.arrive new), .inl rfl⟩
  | goOn mem => exact proceed mem (goOnWith_proceeds sound kept.arranged mem)
  | abandon mem => exact proceed mem (dropOrder_proceeds sound kept.arranged mem)
  | work worker fuel crew => exact quiet (work_course before stays worker fuel _)
  | retire worker crew => exact quiet (retire_course worker _)
  | complete name reply => exact quiet (complete_course name reply)
  | abort id => exact quiet (abort_handle_course sound kept.arranged.handles id)
  | forget id =>
    have beside : (before.forget id).1.jobs = before.jobs ∧ (before.forget id).1.holds = before.holds ∧
        (before.forget id).1.endings = before.endings := by
      unfold Executor.forget
      split <;> exact ⟨rfl, rfl, rfl⟩
    obtain ⟨jobs, holds, endings⟩ := beside
    exact ⟨roles, kept.forget id, by rw [jobs, holds], .inl endings⟩
  | shutdown =>
    obtain ⟨same, beside⟩ := shutdown_beside before
    exact quiet ⟨same ▸ .refl, beside⟩
  | discard => exact quiet discard_course
  | hold id ctx =>
    obtain ⟨kept, course⟩ := kept.hold id ctx
    exact ⟨roles, kept, course, .inl rfl⟩
  | release id outcome =>
    obtain ⟨kept, course⟩ := kept.release id outcome
    exact ⟨roles, kept, course, .inl rfl⟩
  | look crews number =>
    exact quiet ⟨lookAt_course before (stays number), (look_jobs before number).2⟩
  | toss crews numbers => exact quiet (dropJobs_course before numbers)
  | close crews mem running =>
    have inHand := kept.running mem running
    have batch := kept.arranged.isBatch_of_inHand mem inHand
    exact proceed mem (closeBatch_proceeds sound (kept.arranged.distinct _ mem) inHand
      (kept.arranged.attached _ mem batch) batch)
  | fail crews mem running error =>
    have inHand := kept.running mem running
    have batch := kept.arranged.isBatch_of_inHand mem inHand
    exact proceed mem (failBatch_proceeds sound (kept.arranged.distinct _ mem) inHand
      (kept.arranged.attached _ mem batch) batch error)

end Turns

end Kept

section Runs

variable {batches : Prop} {executor before after : Executor L G W V}

lemma create_inOrder (batches : Prop) (crew : Crew) (limiter : L) :
    InOrder batches (fun _ => .waiting) (create crew limiter : Executor L G W V) := by
  have nothing : ∀ {α : Type} {P : α → Prop}, ∀ x ∈ ([] : List α), P x :=
    fun _ mem => absurd mem List.not_mem_nil
  constructor
  · refine ⟨⟨Desk.create_balanced limiter, nothing⟩, nothing, fun number task known => ?_,
      fun _ _ => ⟨rfl, rfl⟩, fun _ _ mem => nothing (P := fun _ => _) _ mem, .nil, .nil⟩
    simp [create, Jobs.create] at known
  · exact ⟨.nil, nothing, nothing, nothing, nothing, nothing, nothing, nothing,
      (fun _ inHand => nomatch inHand), (fun _ => nofun), nothing, nothing,
      fun _ => ⟨nothing, fun _ => trivial⟩⟩

variable [Limiter TaskLabel L G W]

/-- Whatever happens to an executor is a course of steps about its tasks, and everything stays in
order. -/
theorem InOrder.moves {roles : Nat → Role} (kept : InOrder batches roles before)
    (moves : Moves batches before after) :
    ∃ others, InOrder batches others after ∧
      Course ⟨before.jobs, before.holds.map Prod.snd, roles⟩
        ⟨after.jobs, after.holds.map Prod.snd, others⟩ := by
  induction moves with
  | refl => exact ⟨roles, kept, .refl⟩
  | tail _ move ih =>
    obtain ⟨others, kept, course⟩ := ih
    obtain ⟨last, kept, more, -⟩ := kept.move move
    exact ⟨last, kept, course.trans more⟩

theorem Moves.inOrder {crew : Crew} {limiter : L}
    (moves : Moves batches (create crew limiter) executor) :
    ∃ roles, InOrder batches roles executor := by
  obtain ⟨roles, kept, -⟩ := (create_inOrder batches crew limiter).moves moves
  exact ⟨roles, kept⟩

lemma goOn_moves (agent : Agent) (executor : Executor L G W V) :
    Moves batches executor (executor.goOn agent) := by
  unfold goOn
  cases agent with
  | caller id =>
    dsimp only
    cases found : executor.order? id with
    | none => exact .refl
    | some order => exact .single (.goOn (List.mem_of_find?_eq_some found))
  | worker worker =>
    dsimp only
    cases crew : executor.crew with
    | pool pool =>
      dsimp only
      split
      · exact .single (.retire worker crew)
      · exact .single (.work worker _ crew)
    | eager | failing | unknown => exact .refl

/-- An action can be taken at a time: orders go by new names, and are batches only where there are
batches. -/
def Action.IsFor (batches : Prop) (executor : Executor L G W V) : Action V → Prop
  | .submit id .. | .execute id .. => ∀ order ∈ executor.orders, order.id ≠ id
  | .batch id .. => batches ∧ ∀ order ∈ executor.orders, order.id ≠ id
  | _ => True

lemma start_moves (order : Order W) (tasks : List (Task V G)) (stage : order.stage = .new)
    (fresh : ∀ other ∈ executor.orders, other.id ≠ order.id) (new : ∀ task ∈ tasks, task.IsNew)
    (numbers : order.tasks = List.range' executor.jobs.tasks.length tasks.length)
    (attached : ¬order.IsSingle → ∀ task ∈ tasks, task.detached = false)
    (allowed : ¬batches → order.IsSingle) :
    Moves batches executor (start { executor with
      jobs := { executor.jobs with tasks := executor.jobs.tasks ++ tasks } }
      order.id order.ctx order.demand).1 := by
  have placed := Move.place stage fresh new numbers attached allowed
  obtain ⟨id, ctx, demand, _⟩ := order
  obtain rfl := stage
  have went := (Relation.ReflTransGen.single placed).trans (goOn_moves (.caller id) _)
  unfold start
  dsimp only at went ⊢
  split
  · exact went
  · exact went.tail (.pass _)

lemma Task.new_isNew (name : String) (plan : Plan V V) (detached : Bool) :
    (Task.new name plan detached : Task V G).IsNew := ⟨rfl, rfl, rfl, rfl, rfl⟩

lemma act_moves {action : Action V} (allowed : action.IsFor batches executor) :
    Moves batches executor (executor.act action).1 := by
  have one : ∀ (number : Nat), [number] = List.range' number 1 := fun _ => rfl
  have alone : ∀ {order : Order W} {P : Prop}, order.IsSingle → ¬order.IsSingle → P :=
    fun single batch => absurd single batch
  cases action with
  | submit id ctx name plan =>
    exact start_moves ⟨id, ctx, .submit executor.jobs.tasks.length, .new⟩
      [.new name plan false] rfl allowed (by simp [Task.new_isNew]) (one _) (alone nofun)
      (fun _ => nofun)
  | execute id ctx name plan =>
    exact start_moves ⟨id, ctx, .execute executor.jobs.tasks.length, .new⟩
      [.new name plan true] rfl allowed (by simp [Task.new_isNew]) (one _) (alone nofun)
      (fun _ => nofun)
  | batch id ctx tasks timeout =>
    obtain ⟨batches, fresh⟩ := allowed
    refine start_moves ⟨id, ctx, .batch _ timeout, .new⟩ _ rfl fresh (fun task mem => ?_) rfl
      (fun _ task mem => ?_) fun none => absurd batches none
    · obtain ⟨⟨name, plan⟩, -, rfl⟩ := List.mem_map.mp mem
      exact Task.new_isNew name plan false
    · obtain ⟨⟨name, plan⟩, -, rfl⟩ := List.mem_map.mp mem
      rfl
  | complete name reply => exact .single (.complete name reply)
  | abort id => exact .single (.abort id)
  | forget id => exact .single (.forget id)
  | abandon id =>
    change Moves batches executor (executor.abandon id).1
    unfold Executor.abandon
    cases found : executor.order? id with
    | none => exact .refl
    | some order => exact .single (.abandon (List.mem_of_find?_eq_some found))
  | shutdown => exact .single .shutdown
  | discard => exact .single .discard
  | hold id ctx => exact .single (.hold id ctx)
  | release id outcome => exact .single (.release id outcome)
  | advance time => exact Agents.advance_steps (fun agenda _ => .pass agenda) goOn_moves time executor

/-- What an executor does in a step of a session is a sequence of moves. -/
theorem step_moves (action : Action V) (allowed : action.IsFor batches executor) (settle : Bool) :
    Moves batches executor (executor.step action settle).1 := by
  have acted := act_moves allowed
  unfold step
  cases settle with
  | false => exact acted
  | true => exact acted.trans (Agents.settle_steps (fun agenda _ => .pass agenda) goOn_moves _)

end Runs

end Admission.Executor

import Admission.Proofs.Executor.Moves

/-!
# Where the jobs are

Every job of an executor with a pool waits in the queue of the pool, or a worker has it.
-/

namespace Admission.Executor

variable {J L G W V : Type}

namespace WorkerPool

/-- The job waits in the queue, or a worker has it. -/
def Keeps (pool : WorkerPool J) (job : J) : Prop :=
  job ∈ pool.queue ∨ ∃ worker, pool.occupation worker = .busy job

variable {pool next : WorkerPool J} {job other : J} {worker : Nat}

lemma occupation_setOccupation (pool : WorkerPool J) (worker : Nat) (occupation : Occupation J)
    (asked : Nat) :
    (pool.setOccupation worker occupation).occupation asked =
      if worker = asked ∧ asked < pool.workers.length then occupation else pool.occupation asked := by
  unfold setOccupation WorkerPool.occupation
  rw [List.getElem?_modify]
  by_cases same : worker = asked
  · by_cases below : asked < pool.workers.length
    · simp [same, below]
    · simp [same, below]
  · simp [same]

/-- What a worker does only matters for the job which it has. -/
lemma Keeps.setOccupation (keeps : pool.Keeps job) {occupation : Occupation J}
    (free : pool.occupation worker ≠ .busy job) : (pool.setOccupation worker occupation).Keeps job := by
  refine keeps.imp id fun ⟨other, busy⟩ => ⟨other, ?_⟩
  rw [occupation_setOccupation, if_neg fun ⟨same, _⟩ => free (same ▸ busy)]
  exact busy

lemma Keeps.congr (keeps : pool.Keeps job) (queue : next.queue = pool.queue)
    (workers : next.workers = pool.workers) : next.Keeps job := by
  unfold Keeps WorkerPool.occupation at *
  rw [queue, workers]
  exact keeps

lemma Keeps.passTurn (keeps : pool.Keeps job) : pool.passTurn.1.Keeps job := by
  unfold WorkerPool.passTurn
  split <;> exact keeps.congr rfl rfl

lemma push?_keeps {woken : Option Nat} (pushed : pool.push? job = some (next, woken)) :
    next.Keeps job ∧ ∀ other, pool.Keeps other → next.Keeps other := by
  unfold push? at pushed
  split at pushed
  · nomatch pushed
  · obtain ⟨rfl, -⟩ := Prod.mk.inj (Option.some.inj pushed)
    exact ⟨.inl (List.mem_append_right _ (List.mem_singleton_self _)),
      fun other keeps => keeps.imp (List.mem_append_left _) id⟩

lemma Keeps.takeJob (keeps : pool.Keeps job) (present : worker < pool.workers.length)
    (free : ∀ job, pool.occupation worker ≠ .busy job) : (pool.takeJob worker).1.Keeps job := by
  unfold WorkerPool.takeJob
  cases queue : pool.queue with
  | nil => exact (keeps.setOccupation (free job)).congr rfl rfl
  | cons first rest =>
    refine Keeps.passTurn ?_
    rcases keeps with waiting | ⟨other, busy⟩
    · rw [queue, List.mem_cons] at waiting
      rcases waiting with rfl | later
      · refine .inr ⟨worker, ?_⟩
        have taken := occupation_setOccupation pool worker (.busy job) worker
        rw [if_pos ⟨rfl, present⟩] at taken
        exact taken
      · exact .inl later
    · have kept : (pool.setOccupation worker (.busy first)).occupation other = .busy job := by
        rw [occupation_setOccupation, if_neg fun ⟨same, _⟩ => free job (same ▸ busy)]
        exact busy
      exact .inr ⟨other, kept⟩

lemma present_of_occupation (pool : WorkerPool J) (worker : Nat) (here : pool.occupation worker ≠ .gone) :
    worker < pool.workers.length := by
  by_contra above
  unfold WorkerPool.occupation at here
  rw [List.getElem?_eq_none (Nat.le_of_not_lt above)] at here
  exact here rfl

lemma Keeps.seek (keeps : pool.Keeps job) : (pool.seek worker).1.Keeps job := by
  unfold WorkerPool.seek
  split
  · next fresh =>
    have free : ∀ job, pool.occupation worker ≠ .busy job := by rw [fresh]; nofun
    have present := present_of_occupation pool worker (by rw [fresh]; nofun)
    unfold takeTurn
    cases pool.turn with
    | none =>
      have started : Keeps { pool with turn := some worker } job := keeps.congr rfl rfl
      exact started.takeJob present free
    | some _ => exact (keeps.setOccupation (free job)).congr rfl rfl
  · next inLine =>
    have free : ∀ job, pool.occupation worker ≠ .busy job := by rw [inLine]; nofun
    have present := present_of_occupation pool worker (by rw [inLine]; nofun)
    split
    · exact keeps.takeJob present free
    · exact keeps
  · next listening =>
    have free : ∀ job, pool.occupation worker ≠ .busy job := by rw [listening]; nofun
    have present := present_of_occupation pool worker (by rw [listening]; nofun)
    exact keeps.takeJob present free
  · exact keeps
  · exact keeps

lemma occupation_of_jobOf? (has : pool.jobOf? worker = some job) :
    pool.occupation worker = .busy job := by
  unfold jobOf? at has
  split at has
  · next busy => rw [busy, Option.some.inj has]
  · nomatch has

lemma Keeps.retire (keeps : pool.Keeps job) :
    (pool.retire worker).1.Keeps job ∨ (pool.retire worker).2.1 = some job := by
  by_cases mine : pool.occupation worker = .busy job
  · refine .inr ?_
    unfold WorkerPool.retire jobOf?
    simp only [mine]
  · refine .inl ?_
    have left : Keeps { pool.setOccupation worker .gone with
        line := pool.line.filter (· ≠ worker) } job := (keeps.setOccupation mine).congr rfl rfl
    unfold WorkerPool.retire
    dsimp only
    split
    · exact left.passTurn
    · exact left

lemma Keeps.close (keeps : pool.Keeps job) : pool.close.1.Keeps job ∨ job ∈ pool.close.2 := by
  unfold WorkerPool.close
  by_cases empty : pool.present.isEmpty
  · rw [if_pos empty]
    refine keeps.elim .inr fun ⟨worker, busy⟩ => ?_
    have present := present_of_occupation pool worker (by rw [busy]; nofun)
    have mem : worker ∈ pool.present :=
      List.mem_filter.mpr ⟨List.mem_range.mpr present, by rw [busy]⟩
    rw [List.isEmpty_iff.mp empty] at mem
    nomatch mem
  · rw [if_neg empty]
    exact .inl keeps

lemma Keeps.dismiss (keeps : pool.Keeps job) : pool.dismiss.Keeps job := by
  refine keeps.imp id fun ⟨worker, busy⟩ => ⟨worker, ?_⟩
  unfold WorkerPool.occupation WorkerPool.dismiss at *
  dsimp only
  rw [List.getElem?_map, Option.map_map]
  exact busy

end WorkerPool

/-- The task has a job which has not ended. -/
def Jobs.HasJob (jobs : Jobs L V G) (number : Nat) : Prop :=
  ∃ task, jobs.tasks[number]? = some task ∧ task.hasJob = true

namespace Jobs

variable {jobs : Jobs L V G} {number other : Nat}

lemma hasJob_of_known {task : Task V G} (known : jobs.tasks[number]? = some task) :
    jobs.HasJob number ↔ task.hasJob = true := by
  refine ⟨fun ⟨other, found, job⟩ => ?_, fun job => ⟨task, known, job⟩⟩
  rwa [Option.some.inj (known.symm.trans found)]

lemma HasJob.of_update {change : Task V G → Task V G}
    (has : (jobs.update other change).HasJob number)
    (kept : ∀ task, (change task).hasJob = true → task.hasJob = true) : jobs.HasJob number := by
  obtain ⟨task, known, job⟩ := has
  unfold update at known
  rw [List.getElem?_modify] at known
  obtain ⟨before, found, rfl⟩ := Option.map_eq_some_iff.mp known
  refine ⟨before, found, ?_⟩
  split at job
  · exact kept before job
  · exact job

lemma not_hasJob_update {change : Task V G → Task V G} (ends : ∀ task, (change task).hasJob = false) :
    ¬(jobs.update number change).HasJob number := by
  rintro ⟨task, known, job⟩
  unfold update at known
  rw [List.getElem?_modify_eq] at known
  obtain ⟨before, -, rfl⟩ := Option.map_eq_some_iff.mp known
  rw [ends before] at job
  nomatch job

lemma HasJob.of_forEach {act : Bool → Jobs L V G → Nat → Jobs L V G × Option Fault}
    (each : ∀ cleaning jobs number other,
      (act cleaning jobs number).1.HasJob other → jobs.HasJob other)
    {cleaning : Bool} {numbers : List Nat}
    (has : (jobs.forEach act cleaning numbers).1.HasJob other) : jobs.HasJob other := by
  induction numbers generalizing jobs cleaning with
  | nil => exact has
  | cons number rest ih => exact each cleaning jobs number other (ih has)

lemma HasJob.of_forgo {numbers : List Nat} (has : (jobs.forgo numbers).HasJob other) :
    jobs.HasJob other := by
  change (numbers.foldl (fun jobs number =>
    jobs.update number fun task => { task with alive := false }) jobs).HasJob other at has
  induction numbers generalizing jobs with
  | nil => exact has
  | cons number rest ih => exact (ih has).of_update fun _ job => job

variable [Limiter TaskLabel L G W] {outcome : Outcome} {result : HandleResult V} {now : Nat}
  {cleaning : Bool}

lemma HasJob.of_resolve (has : (jobs.resolve number outcome now cleaning).1.HasJob other) :
    jobs.HasJob other := by
  unfold resolve at has
  split at has
  · exact has
  · exact has.of_update fun _ job => job

lemma HasJob.of_letGo (has : (jobs.letGo now cleaning number).1.HasJob other) :
    jobs.HasJob other := by
  unfold letGo at has
  split at has
  · exact has
  · dsimp only at has
    split at has
    · exact has.of_update fun _ job => job
    · exact has.of_resolve.of_update fun _ job => job

lemma HasJob.of_finish (has : (jobs.finish number outcome result now).1.HasJob other) :
    other ≠ number ∧ jobs.HasJob other := by
  unfold finish at has
  have resolved : ∀ other,
      (jobs.resolve number outcome now false).1.HasJob other → jobs.HasJob other :=
    fun _ has => has.of_resolve
  generalize jobs.resolve number outcome now false = after at has resolved
  obtain ⟨after, _ | fault⟩ := after
  all_goals
    refine ⟨?_, resolved other (has.of_update fun _ job => nomatch job)⟩
    rintro rfl
    exact not_hasJob_update (fun _ => rfl) has

lemma HasJob.of_drop (has : (jobs.drop now cleaning number).1.HasJob other) :
    other ≠ number ∧ jobs.HasJob other := by
  unfold drop at has
  split at has
  · next absent =>
    refine ⟨?_, has⟩
    rintro rfl
    obtain ⟨task, known, job⟩ := has
    rw [known, Option.filter_some_pos job] at absent
    nomatch absent
  · next task known =>
    dsimp only at has
    constructor
    · rintro rfl
      exact not_hasJob_update (fun _ => rfl) has
    · have has := has.of_update fun _ job => nomatch job
      split at has
      · exact has
      · exact has.of_resolve

lemma HasJob.of_look (has : (jobs.look number now).1.HasJob other) :
    jobs.HasJob other ∧ ((∃ fault, (jobs.look number now).2 = .ended fault) → other ≠ number) := by
  have of_finish : ∀ {before : Jobs L V G} {outcome : Outcome} {result : HandleResult V},
      (before.finish number outcome result now).1.HasJob other →
      (before.HasJob other → jobs.HasJob other) → jobs.HasJob other ∧ other ≠ number :=
    fun has old => ⟨old has.of_finish.2, has.of_finish.1⟩
  unfold look at *
  split at has
  · next absent =>
    refine ⟨has, fun _ => ?_⟩
    rintro rfl
    obtain ⟨task, known, job⟩ := has
    rw [known, Option.filter_some_pos job] at absent
    nomatch absent
  · next task known =>
    dsimp only at has ⊢
    by_cases aborted : task.aborted = true
    · rw [if_pos aborted] at has
      obtain ⟨old, apart⟩ := of_finish has fun has => HasJob.of_update has fun _ job => job
      exact ⟨old, fun _ => apart⟩
    · have begun : ∀ {change : Task V G → Task V G} {entry : Entry V},
          (((jobs.update number fun task => { task with started := true }).update number
            change).note entry).HasJob other →
          (∀ task, (change task).hasJob = true → task.hasJob = true) → jobs.HasJob other :=
        fun has kept => (HasJob.of_update has kept).of_update fun _ job => job
      rw [if_neg aborted] at has ⊢
      cases answer : (task.work.getD (Work.begin task.plan now)).look now task.mail with
      | pending =>
        rw [answer] at has
        exact ⟨begun has fun _ job => job, nofun⟩
      | ready result | brokenDown text =>
        rw [answer] at has
        obtain ⟨old, apart⟩ := of_finish has fun has => begun has fun _ job => job
        exact ⟨old, fun _ => apart⟩

end Jobs

/-- Every job waits in the queue of the pool, or a worker has it. -/
def Keeps (executor : Executor L G W V) : Prop :=
  ∃ pool, executor.crew = .pool pool ∧ ∀ number, executor.jobs.HasJob number → pool.Keeps number

section Turns

variable {executor before after : Executor L G W V} {order : Order W} {number : Nat}

lemma Keeps.fewer (keeps : Keeps before) (crew : after.crew = before.crew)
    (fewer : ∀ number, after.jobs.HasJob number → before.jobs.HasJob number) : Keeps after := by
  obtain ⟨pool, staffed, all⟩ := keeps
  exact ⟨pool, crew.trans staffed, fun number has => all number (fewer number has)⟩

lemma Keeps.same (keeps : Keeps before) (crew : after.crew = before.crew)
    (jobs : after.jobs.tasks = before.jobs.tasks) : Keeps after := by
  refine keeps.fewer crew fun number has => ?_
  unfold Jobs.HasJob at *
  rwa [jobs] at has

lemma Keeps.await (keeps : Keeps executor) (order : Order W) (number : Nat) :
    Keeps (executor.await order number) := by
  unfold Executor.await
  dsimp only
  split <;> exact keeps.same rfl rfl

variable [Limiter TaskLabel L G W]

lemma hasJob_of_dropJobs {numbers : List Nat}
    (has : (executor.dropJobs numbers).jobs.HasJob number) :
    number ∉ numbers ∧ executor.jobs.HasJob number := by
  have dropped : (executor.dropJobs numbers).jobs =
      (executor.jobs.forEach (Jobs.drop executor.agenda.now) false numbers).1 := rfl
  rw [dropped] at has
  clear dropped
  generalize executor.jobs = jobs at has ⊢
  generalize false = cleaning at has
  induction numbers generalizing jobs cleaning with
  | nil => exact ⟨List.not_mem_nil, has⟩
  | cons first rest ih =>
    obtain ⟨apart, has⟩ := ih _ _ has
    obtain ⟨different, has⟩ := has.of_drop
    exact ⟨fun mem => (List.mem_cons.mp mem).elim different apart, has⟩

lemma hasJob_of_look (executor : Executor L G W V) (number other : Nat)
    (has : (executor.look number).1.jobs.HasJob other) :
    executor.jobs.HasJob other ∧
      ((∃ fault, (executor.look number).2 = .ended fault) → other ≠ number) := by
  rw [(look_jobs executor number).1] at has
  obtain ⟨old, ended⟩ := has.of_look
  refine ⟨old, fun ⟨fault, same⟩ => ended ⟨fault, ?_⟩⟩
  unfold Executor.look at same
  dsimp only at same
  split at same
  · next alarm shown => nomatch shown.symm.trans same
  · exact same

lemma Keeps.giveOne (keeps : Keeps executor) (number : Nat) (pass : Pass G) :
    Keeps (executor.giveOne number pass).1 := by
  obtain ⟨pool, crew, all⟩ := keeps
  have given : ∀ other, (executor.handOver [number] [pass]).jobs.HasJob other →
      other = number ∨ executor.jobs.HasJob other := by
    intro other has
    by_cases same : other = number
    · exact .inl same
    · obtain ⟨task, known, job⟩ := has
      change (executor.jobs.tasks.modify number _)[other]? = some task at known
      rw [List.getElem?_modify_ne _ _ (Ne.symm same)] at known
      exact .inr ⟨task, known, job⟩
  have taken : (executor.handOver [number] [pass]).crew = .pool pool := crew
  unfold Executor.giveOne giveJob
  dsimp only
  rw [taken]
  dsimp only
  cases pushed : pool.push? number with
  | none =>
    refine ⟨pool, crew, fun other has => ?_⟩
    obtain ⟨apart, has⟩ := hasJob_of_dropJobs has.of_resolve
    rcases given other has with rfl | old
    · exact absurd (List.mem_singleton_self _) apart
    · exact all other old
  | some result =>
    obtain ⟨next, woken⟩ := result
    obtain ⟨new, old⟩ := WorkerPool.push?_keeps pushed
    refine ⟨next, rfl, fun other has => ?_⟩
    rcases given other has.of_letGo with rfl | has
    · exact new
    · exact old other (all other has)

lemma Keeps.turnAway (keeps : Keeps executor) (order : Order W) (ending : Ending (Result V)) :
    Keeps (executor.turnAway order ending) := by
  refine keeps.fewer rfl fun number has => ?_
  change (executor.jobs.forgo order.tasks).HasJob number at has
  exact has.of_forgo

lemma Keeps.launch (keeps : Keeps executor) (single : order.IsSingle) (pass : Pass G) :
    Keeps (executor.launch order pass) := by
  obtain ⟨id, ctx, demand, stage⟩ := order
  have put_back : ∀ agenda, Keeps (keep { executor with agenda := agenda } ⟨id, ctx, demand, .new⟩) :=
    fun _ => keeps.same rfl rfl
  have given := fun agenda number => (put_back agenda).giveOne number pass
  unfold Executor.launch
  dsimp only
  cases demand with
  | batch tasks timeout => exact absurd rfl (single tasks timeout)
  | submit number =>
    have given := given (executor.agenda.clearAlarms (.caller id)) number
    dsimp only at given ⊢
    generalize Executor.giveOne (_ : Executor L G W V) number pass = result at given ⊢
    obtain ⟨next, _ | _ | fault⟩ := result
    · have listed : Keeps { next with handles := Table.put next.handles id number } :=
        given.same rfl rfl
      exact listed.await _ number
    · exact given.same rfl rfl
    · exact given.same rfl rfl
  | execute number =>
    have given := given (executor.agenda.clearAlarms (.caller id)) number
    dsimp only at given ⊢
    generalize Executor.giveOne (_ : Executor L G W V) number pass = result at given ⊢
    obtain ⟨next, _ | _ | fault⟩ := result <;> exact given.same rfl rfl

lemma Keeps.proceed (keeps : Keeps executor) (single : order.IsSingle)
    (result : Desk L × Except Fault (Progress (Pass G) W)) :
    Keeps (executor.proceed order result) := by
  have dealt : Keeps { executor with jobs := { executor.jobs with desk := result.1 } } :=
    keeps.same rfl rfl
  obtain ⟨desk, fault | pass | cause | place⟩ := result
  · exact dealt.turnAway order _
  · exact dealt.launch single pass
  · exact dealt.turnAway order _
  · exact dealt.same rfl rfl

lemma Keeps.goOnWith (keeps : Keeps executor) (single : order.IsSingle)
    (stage : ∀ deadline, order.stage ≠ .running deadline) (collects : order.stage ≠ .collecting) :
    Keeps (executor.goOnWith order) := by
  unfold Executor.goOnWith
  cases reached : order.stage with
  | new =>
    dsimp only
    unfold Executor.ask
    split
    · next timeout demand => exact absurd demand (single _ _)
    · have planned : ∀ agenda, Keeps { executor with agenda := agenda } := fun _ => keeps.same rfl rfl
      exact (planned _).proceed single (executor.jobs.desk.acquire order.ctx executor.agenda.now)
  | asking place => exact keeps.proceed single _
  | awaiting number => exact keeps.await order number
  | running deadline => exact absurd reached (stage deadline)
  | collecting => exact absurd reached collects

lemma Keeps.dropOrder (keeps : Keeps executor) (order : Order W) :
    Keeps (executor.dropOrder order).1 := by
  unfold Executor.dropOrder
  cases order.stage with
  | new => exact keeps.fewer rfl fun number has => Jobs.HasJob.of_forgo has
  | asking place =>
    refine keeps.fewer rfl fun number has => ?_
    have has : (executor.jobs.forgo order.tasks).HasJob number := has
    exact has.of_forgo
  | running deadline =>
    exact keeps.fewer rfl fun number has =>
      Jobs.HasJob.of_forEach (fun _ _ _ _ has => has.of_letGo) has
  | awaiting number | collecting => exact keeps.same rfl rfl

lemma Keeps.work {pool : WorkerPool Nat}
    (all : ∀ number, executor.jobs.HasJob number → pool.Keeps number) (worker fuel : Nat) :
    Keeps (executor.work worker fuel pool) := by
  induction fuel generalizing executor pool with
  | zero => exact ⟨pool, rfl, all⟩
  | succ fuel ih =>
    have found : ∀ number, executor.jobs.HasJob number → (pool.seek worker).1.Keeps number :=
      fun number has => (all number has).seek
    unfold Executor.work
    dsimp only
    generalize pool.seek worker = result at found ⊢
    obtain ⟨next_pool, woken⟩ := result
    dsimp only at found ⊢
    cases mine : next_pool.jobOf? worker with
    | none => exact ⟨next_pool, rfl, found⟩
    | some number =>
      have looked := fun other =>
        hasJob_of_look (executor.withPool next_pool woken) number other
      have same : ((executor.withPool next_pool woken).look number).1.crew = .pool next_pool := by
        unfold Executor.look
        dsimp only
        split <;> rfl
      dsimp only
      generalize (executor.withPool next_pool woken).look number = result at looked same ⊢
      obtain ⟨next, alarm | fault⟩ := result
      · have kept : Keeps next := ⟨next_pool, same, fun other has => found other (looked other has).1⟩
        cases alarm with
        | none => exact kept
        | some time => exact kept.same rfl rfl
      · refine ih fun other has => ?_
        obtain ⟨old, apart⟩ := looked other has
        refine (found other old).setOccupation fun busy => ?_
        rw [WorkerPool.occupation_of_jobOf? mine] at busy
        exact apart ⟨fault, rfl⟩ (Occupation.busy.inj busy).symm

lemma Keeps.retire {pool : WorkerPool Nat}
    (all : ∀ number, executor.jobs.HasJob number → pool.Keeps number) (worker : Nat) :
    Keeps (executor.retire worker pool) := by
  have left : ∀ number, executor.jobs.HasJob number →
      (pool.retire worker).1.Keeps number ∨ (pool.retire worker).2.1 = some number :=
    fun number has => (all number has).retire
  unfold Executor.retire
  dsimp only
  generalize pool.retire worker = result at left ⊢
  obtain ⟨next, job, woken⟩ := result
  dsimp only at left ⊢
  refine ⟨next.close.1, rfl, fun number has => ?_⟩
  obtain ⟨apart, has⟩ := hasJob_of_dropJobs has
  rw [List.mem_append, not_or] at apart
  rcases left number has with kept | rfl
  · exact kept.close.resolve_right apart.2
  · exact absurd (by simp) apart.1

/-- A pool keeps all its jobs, whatever happens. -/
theorem Keeps.move (keeps : Keeps before) {roles : Nat → Role}
    (kept : InOrder False roles before) (move : Move False before after) : Keeps after := by
  have single := (kept.arranged.alone id).1
  have fits := kept.arranged.fits
  cases move with
  | pass agenda => exact keeps.same rfl rfl
  | place stage fresh new numbers attached allowed =>
    refine keeps.fewer rfl fun number ⟨task, known, job⟩ => ?_
    rcases Nat.lt_or_ge number before.jobs.tasks.length with below | above
    · exact ⟨task, by rwa [List.getElem?_append_left below] at known, job⟩
    · rw [List.getElem?_append_right above] at known
      rw [(new task (List.mem_of_getElem? known)).hasJob] at job
      nomatch job
  | goOn mem =>
    refine keeps.goOnWith (single _ mem) (fun deadline running => ?_) fun collecting => ?_
    · exact kept.arranged.isBatch_of_inHand mem (kept.running mem running) (single _ mem)
    · have told := kept.arranged.told _ mem collecting
      refine kept.arranged.isBatch mem (fun number mine => ?_) (single _ mem)
      rw [show roles number = .dismissed .done from kept.sound.dismissals _ _ told number mine]
      exact id
  | abandon mem => exact keeps.dropOrder _
  | work worker fuel crew =>
    obtain ⟨pool, staffed, all⟩ := keeps
    obtain rfl := Crew.pool.inj (staffed.symm.trans crew)
    exact Keeps.work all worker fuel
  | retire worker crew =>
    obtain ⟨pool, staffed, all⟩ := keeps
    obtain rfl := Crew.pool.inj (staffed.symm.trans crew)
    exact Keeps.retire all worker
  | complete name reply =>
    unfold Executor.complete
    split
    · exact keeps
    · exact keeps.fewer rfl fun number has => Jobs.HasJob.of_update has fun _ job => job
  | abort id =>
    unfold Executor.abort
    split
    · exact keeps
    · exact keeps.fewer rfl fun number has => Jobs.HasJob.of_update has fun _ job => job
  | forget id =>
    unfold Executor.forget
    split
    · exact keeps
    · exact keeps.same rfl rfl
  | shutdown =>
    obtain ⟨pool, staffed, all⟩ := keeps
    unfold Executor.shutdown
    simp only [staffed]
    exact ⟨pool.dismiss, rfl, fun number has => (all number has).dismiss⟩
  | discard =>
    obtain ⟨pool, staffed, all⟩ := keeps
    unfold Executor.discard
    simp only [staffed, Crew.discard]
    exact ⟨pool, rfl, fun number has => all number (hasJob_of_dropJobs has).2⟩
  | hold id ctx => exact keeps.same rfl rfl
  | release id outcome => exact keeps.same rfl rfl
  | look crews => exact crews.elim
  | toss crews => exact crews.elim
  | close crews => exact crews.elim
  | fail crews => exact crews.elim

end Turns

variable [Limiter TaskLabel L G W]

/-- A pool keeps all jobs which it was given and which have not ended. -/
theorem Moves.keeps {workers capacity : Nat} {crew : Crew} {limiter : L}
    {executor : Executor L G W V} (hired : Crew.hire (.pool workers capacity) = .ok crew)
    (moves : Moves False (create crew limiter) executor) : Keeps executor := by
  induction moves with
  | refl =>
    unfold Crew.hire at hired
    dsimp only at hired
    cases made : WorkerPool.create (J := Nat) workers capacity with
    | error fault =>
      rw [made] at hired
      nomatch hired
    | ok pool =>
      rw [made] at hired
      refine ⟨pool, (Except.ok.inj hired).symm, fun number ⟨task, known, _⟩ => ?_⟩
      simp [create, Jobs.create] at known
  | tail moves move keeps =>
    obtain ⟨roles, kept⟩ := Moves.inOrder moves
    exact keeps.move kept move

end Admission.Executor

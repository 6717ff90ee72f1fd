import Admission.Proofs.Executor.Shifts

/-!
# Executors at work

What an executor with a pool does is what can happen in the pool: it gives jobs to the pool, and its
workers take their turns when they are ready to go on. Whoever is awake in the pool is among those who
are ready.
-/

namespace Admission.Executor

variable {L G W V : Type}

/-- Whoever is awake is ready to go on. -/
def Attends (awake : Finset Nat) (executor : Executor L G W V) : Prop :=
  ∀ worker ∈ awake, .worker worker ∈ executor.agenda.ready

/-- The pool of the executor is where the shift has got to, and whoever is awake is ready to go on. -/
structure Serves (shift : Shift Nat) (executor : Executor L G W V) : Prop where
  crew : executor.crew = .pool shift.pool
  attends : Attends shift.awake executor

/-- Nothing happens to the crew, and the workers who are ready stay so. -/
structure Calm (before after : Executor L G W V) : Prop where
  crew : after.crew = before.crew
  ready : ∀ worker, .worker worker ∈ before.agenda.ready → .worker worker ∈ after.agenda.ready

variable {executor before between after : Executor L G W V} {order : Order W}

namespace Calm

lemma refl (executor : Executor L G W V) : Calm executor executor := ⟨rfl, fun _ mem => mem⟩

lemma wake (calm : Calm before after) (agents : List Agent) : Calm before (after.wake agents) :=
  ⟨calm.crew, fun worker mem => Agenda.mem_ready_foldl_wake id (calm.ready worker mem) agents⟩

lemma remove (calm : Calm before after) (id : String) : Calm before (after.remove id) :=
  ⟨calm.crew, fun worker mem => List.mem_filter.mpr ⟨calm.ready worker mem, by simp⟩⟩

lemma keep (calm : Calm before after) (order : Order W) : Calm before (after.keep order) :=
  ⟨calm.crew, calm.ready⟩

lemma finish (calm : Calm before after) (order : Order W) (ending : Ending (Result V)) :
    Calm before (after.finish order ending) :=
  ⟨calm.crew, (calm.remove order.id).ready⟩

lemma await (calm : Calm before after) (order : Order W) (number : Nat) :
    Calm before (after.await order number) := by
  unfold Executor.await
  dsimp only
  split
  · exact calm.finish order _
  · exact calm.keep _

lemma collect (calm : Calm before after) (order : Order W) : Calm before (after.collect order) := by
  unfold Executor.collect
  split
  · exact calm.finish order _
  · exact calm.keep _

lemma jobs (calm : Calm before after) (jobs : Jobs L V G) :
    Calm before { after with jobs := jobs } := ⟨calm.crew, calm.ready⟩

/-- Alarms do not matter. -/
lemma plan (calm : Calm before after) (agenda : Agenda Agent)
    (same : agenda.ready = after.agenda.ready) : Calm before { after with agenda := agenda } :=
  ⟨calm.crew, fun worker mem => same ▸ calm.ready worker mem⟩

variable [Limiter TaskLabel L G W]

lemma dropJobs (calm : Calm before after) (numbers : List Nat) :
    Calm before (after.dropJobs numbers) := ((calm.jobs _).wake _).wake _

lemma look (calm : Calm before after) (number : Nat) : Calm before (after.look number).1 := by
  have alert := (calm.jobs (after.jobs.look number after.agenda.now).1).wake
  unfold Executor.look
  dsimp only
  split
  · exact alert _
  · exact (alert _).wake _

lemma turnAway (calm : Calm before after) (order : Order W) (ending : Ending (Result V)) :
    Calm before (after.turnAway order ending) :=
  ((calm.jobs _).finish order ending).wake _

lemma closeBatch (calm : Calm before after) (order : Order W) :
    Calm before (after.closeBatch order) := by
  have closed := fun jobs agents => ((calm.jobs jobs).plan
    (after.agenda.clearAlarms (.caller order.id)) rfl).wake agents
  unfold Executor.closeBatch
  dsimp only
  split
  · exact ((closed _ _).wake _).collect order
  · exact ((closed _ _).wake _).finish order _

lemma failBatch (calm : Calm before after) (order : Order W) (error : ExecutorFailure) :
    Calm before (after.failBatch order error) :=
  (((calm.jobs _).wake _).finish order _).wake _

lemma waitForBatch (calm : Calm before after) (order : Order W) (deadline : Option Nat) :
    Calm before (after.waitForBatch order deadline) := by
  unfold Executor.waitForBatch
  dsimp only
  split
  · split
    · exact calm.closeBatch order
    · exact calm.keep _
  · split
    · exact calm.failBatch order _
    · exact calm.closeBatch order

lemma dropOrder (calm : Calm before after) (order : Order W) :
    Calm before (after.dropOrder order).1 := by
  have removed := calm.remove order.id
  unfold Executor.dropOrder
  split
  · exact removed.jobs _
  · exact (removed.jobs _).wake _
  · exact (removed.jobs _).wake _
  · exact removed
  · exact removed

end Calm

section Attends

variable {awake fewer : Finset Nat}

lemma Attends.mono (attends : Attends awake executor) (sub : fewer ⊆ awake) :
    Attends fewer executor :=
  fun worker mem => attends worker (sub mem)

lemma Attends.calm (attends : Attends awake before) (calm : Calm before after) :
    Attends awake after :=
  fun worker mem => calm.ready worker (attends worker mem)

lemma Calm.serves (calm : Calm before after) {shift : Shift Nat} (serves : Serves shift before) :
    Serves shift after :=
  ⟨calm.crew.trans serves.crew, serves.attends.calm calm⟩

/-- Whoever is woken by what has become of the pool is ready. -/
lemma Attends.withPool (attends : Attends awake executor) (pool : WorkerPool Nat)
    {woken : Option Nat} : Attends (awake ∪ woken.toFinset) (executor.withPool pool woken) := by
  intro worker mem
  cases woken with
  | none =>
    exact attends worker ((Finset.mem_union.mp mem).resolve_right (Finset.notMem_empty worker))
  | some next =>
    change .worker worker ∈ (executor.agenda.wake (.worker next)).ready
    rcases Finset.mem_union.mp mem with awake | woken
    · exact Agenda.mem_ready_wake (attends worker awake) _
    · obtain rfl : next = worker := Option.mem_some_iff.mp (Option.mem_toFinset.mp woken)
      exact Agenda.self_mem_ready_wake _ _

/-- The others stay ready while a worker looks for a job. -/
lemma Attends.seek {worker : Nat} {pool : WorkerPool Nat}
    (attends : Attends (awake.erase worker) executor)
    (sub : fewer ⊆ awake ∪ (pool.seek worker).2.toFinset) :
    Attends (fewer.erase worker)
      (executor.withPool (pool.seek worker).1 (pool.seek worker).2) := by
  refine (attends.withPool _).mono ((Finset.erase_subset_erase worker sub).trans ?_)
  rw [Finset.erase_union_distrib]
  exact Finset.union_subset_union_right (Finset.erase_subset worker _)

end Attends

section Work

variable [Limiter TaskLabel L G W] {worker workers capacity fuel : Nat} {shift : Shift Nat}

/-- The ways in which a worker goes on: it has no job, its job has not ended, or it goes on when its
job has ended, however it did. -/
inductive Works (worker fuel : Nat) (pool : WorkerPool Nat) (executor : Executor L G W V) :
    Executor L G W V → Prop
  | rests (idle : (pool.seek worker).1.jobOf? worker = none) :
      Works worker fuel pool executor
        (executor.withPool (pool.seek worker).1 (pool.seek worker).2)
  | waits {number : Nat} {alarm : Option Nat} {after : Executor L G W V}
      (busy : (pool.seek worker).1.jobOf? worker = some number)
      (shown : ((executor.withPool (pool.seek worker).1 (pool.seek worker).2).look number).2 =
        .unfinished alarm)
      (calm : Calm (executor.withPool (pool.seek worker).1 (pool.seek worker).2) after) :
      Works worker fuel pool executor after
  | ends {number : Nat} {fault : Option Fault} {looked : Executor L G W V}
      (busy : (pool.seek worker).1.jobOf? worker = some number)
      (shown : ((executor.withPool (pool.seek worker).1 (pool.seek worker).2).look number).2 =
        .ended fault)
      (calm : Calm (executor.withPool (pool.seek worker).1 (pool.seek worker).2) looked) :
      Works worker fuel pool executor
        (looked.work worker fuel ((pool.seek worker).1.setOccupation worker .fresh))

lemma work_works (worker fuel : Nat) (pool : WorkerPool Nat) (executor : Executor L G W V) :
    Works worker fuel pool executor (executor.work worker (fuel + 1) pool) := by
  have looks := fun number => (Calm.refl
    (executor.withPool (pool.seek worker).1 (pool.seek worker).2)).look number
  unfold Executor.work
  dsimp only
  split
  · next idle => exact .rests idle
  · next number busy =>
    have looks := looks number
    generalize seen : Executor.look (_ : Executor L G W V) number = result at looks ⊢
    obtain ⟨looked, (_ | time) | fault⟩ := result
    · exact .waits busy (congrArg Prod.snd seen) looks
    · exact .waits busy (congrArg Prod.snd seen)
        (looks.plan (looked.agenda.setAlarm time (.worker worker)) rfl)
    · exact .ends busy (congrArg Prod.snd seen)
        (looks.plan (looked.agenda.clearAlarms (.worker worker)) rfl)

/-- A worker who may end all jobs which wait, and the one it has, goes on until it sleeps. -/
theorem Attends.work (attends : Attends (shift.awake.erase worker) executor)
    (sound : shift.Sound workers capacity) (mem : worker ∈ shift.awake)
    (enough : shift.pool.queue.length + (shift.pool.jobOf? worker).toList.length < fuel) :
    ∃ events, Serves (shift.after events) (executor.work worker fuel shift.pool) := by
  induction fuel generalizing shift executor with
  | zero => exact absurd enough (Nat.not_lt_zero _)
  | succ fuel ih =>
    have works := work_works worker fuel shift.pool executor
    generalize executor.work worker (fuel + 1) shift.pool = result at works ⊢
    cases works with
    | rests idle =>
      have found : shift.after [.seek worker] = _ := Shift.step_seek_of_none mem idle
      refine ⟨[.seek worker], ?_⟩
      rw [found]
      exact ⟨rfl, attends.seek (Finset.Subset.refl _)⟩
    | @waits number alarm after busy shown calm =>
      obtain ⟨events, between, reached, -, -, pool, sub, -⟩ :=
        sound.looks mem busy (.unfinished alarm)
      refine ⟨events, ?_⟩
      rw [reached]
      exact ⟨calm.crew.trans (congrArg Crew.pool pool.symm), (attends.seek sub).calm calm⟩
    | @ends number fault looked busy shown calm =>
      obtain ⟨events, between, reached, sound, there, pool, sub, fewer⟩ :=
        sound.looks mem busy (.ended fault)
      have others : Attends ((between.look worker number (.ended fault)).awake.erase worker)
          looked := (attends.seek sub).calm calm
      -- The job has ended, so that the worker has only those left which wait.
      have idle : (between.look worker number (.ended fault)).pool.jobOf? worker = none :=
        (WorkerPool.turnsTo_fresh (pool ▸ busy)).jobOf?_idle nofun
      obtain ⟨more, serves⟩ := ih others sound there (by
        rw [idle]
        exact fewer.trans_le (Nat.le_of_lt_succ enough))
      refine ⟨events ++ more, ?_⟩
      rw [Shift.after_append, reached, ← pool]
      exact serves

end Work

/-- Whatever shift the executor has served, it serves that shift when more has happened in it. -/
def Continues (before after : Executor L G W V) : Prop :=
  ∀ (workers capacity : Nat) (shift : Shift Nat), shift.Sound workers capacity →
    Serves shift before → ∃ events, Serves (shift.after events) after

lemma Calm.continues (calm : Calm before after) : Continues before after :=
  fun _ _ _ _ serves => ⟨[], calm.serves serves⟩

namespace Continues

lemma refl (executor : Executor L G W V) : Continues executor executor :=
  (Calm.refl executor).continues

lemma trans (first : Continues before between) (second : Continues between after) :
    Continues before after := by
  intro workers capacity shift sound serves
  obtain ⟨events, served⟩ := first workers capacity shift sound serves
  obtain ⟨more, served⟩ := second workers capacity _ (sound.after events) served
  refine ⟨events ++ more, ?_⟩
  rwa [Shift.after_append]

/-- What happens next may depend on the crew, which is a pool. -/
lemma of_pool (continues : ∀ pool, before.crew = .pool pool → Continues before after) :
    Continues before after :=
  fun workers capacity shift sound serves =>
    continues shift.pool serves.crew workers capacity shift sound serves

lemma of_steps (steps : Relation.ReflTransGen Continues before after) : Continues before after := by
  induction steps with
  | refl => exact .refl before
  | tail _ last ih => exact ih.trans last

variable [Limiter TaskLabel L G W]

lemma giveJob (executor : Executor L G W V) (number : Nat) :
    Continues executor (executor.giveJob number).1 := by
  intro workers capacity shift sound serves
  refine ⟨[.spawn number], ?_⟩
  unfold Executor.giveJob
  simp only [serves.crew]
  change Serves (shift.spawn number) _
  unfold Shift.spawn
  cases shift.pool.push? number with
  | none => exact serves
  | some result =>
    obtain ⟨pool, woken⟩ := result
    exact ⟨rfl, serves.attends.withPool pool⟩

lemma giveJobs (executor : Executor L G W V) (numbers : List Nat) :
    Continues executor (executor.giveJobs numbers).1 := by
  induction numbers generalizing executor with
  | nil => exact refl executor
  | cons number rest ih =>
    have asked := ((Calm.refl executor).jobs (executor.jobs.update number fun task =>
      { task with report := .awaited })).continues.trans (giveJob _ number)
    unfold Executor.giveJobs
    dsimp only
    generalize Executor.giveJob (_ : Executor L G W V) number = result at asked ⊢
    obtain ⟨next, _ | _ | fault⟩ := result
    · exact asked.trans (ih next)
    · exact asked.trans ((Calm.refl next).dropJobs (number :: rest)).continues
    · exact asked.trans ((Calm.refl next).dropJobs (number :: rest)).continues

lemma runBatch (executor : Executor L G W V) (order : Order W) (numbers : List Nat)
    (timeout : Option Nat) : Continues executor (executor.runBatch order numbers timeout) := by
  refine of_pool fun pool crew => ?_
  have given := giveJobs executor numbers
  unfold Executor.runBatch
  simp only [crew]
  generalize executor.giveJobs numbers = result at given ⊢
  obtain ⟨next, _ | _ | fault⟩ := result
  · have planned := (Calm.refl next).plan
    dsimp only
    refine given.trans (Calm.waitForBatch (planned _ ?_) order _).continues
    cases timeout <;> rfl
  · exact given.trans ((Calm.refl next).failBatch order _).continues
  · exact given.trans (((Calm.refl next).jobs _).finish order _ |>.wake _).continues

lemma giveOne (executor : Executor L G W V) (number : Nat) (pass : Pass G) :
    Continues executor (executor.giveOne number pass).1 := by
  have handed : Calm executor (executor.handOver [number] [pass]) := (Calm.refl executor).jobs _
  have given := handed.continues.trans (giveJob _ number)
  unfold Executor.giveOne
  dsimp only
  generalize Executor.giveJob (_ : Executor L G W V) number = result at given ⊢
  obtain ⟨next, _ | _ | fault⟩ := result
  · exact given.trans (((Calm.refl next).jobs _).wake _).continues
  · exact given.trans ((((Calm.refl next).dropJobs _).jobs _).wake _).continues
  · exact given.trans (((Calm.refl next).jobs _).wake _).continues

lemma admitBatch (executor : Executor L G W V) (order : Order W) (numbers : List Nat)
    (timeout : Option Nat) (pass : Pass G) :
    Continues executor (executor.admitBatch order numbers timeout pass) := by
  have asked := (Calm.refl executor).jobs
  unfold Executor.admitBatch
  dsimp only
  split
  · exact ((asked _).jobs _).continues.trans (runBatch _ order numbers timeout)
  · exact ((asked _).turnAway order _).continues
  · exact ((asked _).turnAway order _).continues

lemma launch (executor : Executor L G W V) (order : Order W) (pass : Pass G) :
    Continues executor (executor.launch order pass) := by
  have kept := fun order : Order W => (((Calm.refl executor).plan
    (executor.agenda.clearAlarms (.caller order.id)) rfl).keep order).continues
  have given := fun order number => (kept order).trans (giveOne _ number pass)
  obtain ⟨id, ctx, demand, stage⟩ := order
  unfold Executor.launch
  dsimp only
  cases demand with
  | batch numbers timeout => exact (kept _).trans (admitBatch _ _ numbers timeout pass)
  | submit number =>
    have given := given ⟨id, ctx, .submit number, .new⟩ number
    dsimp only at given ⊢
    generalize Executor.giveOne (_ : Executor L G W V) number pass = result at given ⊢
    obtain ⟨next, _ | _ | fault⟩ := result
    · have listed : Calm next { next with handles := Table.put next.handles id number } :=
        ⟨rfl, fun _ mem => mem⟩
      exact given.trans (listed.await _ number).continues
    · exact given.trans ((Calm.refl next).finish _ _).continues
    · exact given.trans ((Calm.refl next).finish _ _).continues
  | execute number =>
    have given := given ⟨id, ctx, .execute number, .new⟩ number
    dsimp only at given ⊢
    generalize Executor.giveOne (_ : Executor L G W V) number pass = result at given ⊢
    obtain ⟨next, _ | _ | fault⟩ := result <;>
      exact given.trans ((Calm.refl next).finish _ _).continues

lemma proceed (executor : Executor L G W V) (order : Order W)
    (result : Desk L × Except Fault (Progress (Pass G) W)) :
    Continues executor (executor.proceed order result) := by
  obtain ⟨desk, seen⟩ := result
  have asked := (Calm.refl executor).jobs { executor.jobs with desk := desk }
  rcases seen with fault | pass | cause | place
  · exact (asked.turnAway order _).continues
  · exact asked.continues.trans (launch _ order pass)
  · exact (asked.turnAway order _).continues
  · exact ((asked.keep _).wake _).continues

lemma ask (executor : Executor L G W V) (order : Order W) :
    Continues executor (executor.ask order) := by
  unfold Executor.ask
  split
  · exact runBatch executor order [] _
  · refine ((Calm.refl executor).plan _ ?_).continues.trans (proceed _ order _)
    split
    · split <;> rfl
    · rfl

theorem goOnWith (executor : Executor L G W V) (order : Order W) :
    Continues executor (executor.goOnWith order) := by
  unfold Executor.goOnWith
  cases order.stage with
  | new => exact ask executor order
  | asking place => exact proceed executor order _
  | awaiting number => exact ((Calm.refl executor).await order number).continues
  | running deadline => exact ((Calm.refl executor).waitForBatch order deadline).continues
  | collecting => exact ((Calm.refl executor).collect order).continues

lemma caller (executor : Executor L G W V) (id : String) :
    Continues executor (executor.goOn (.caller id)) := by
  unfold goOn
  dsimp only
  split
  · exact goOnWith executor _
  · exact refl executor

/-- A worker who is not awake is woken by chance. -/
lemma worker {worker : Nat} {rest : List Agent}
    (ready : executor.agenda.ready = .worker worker :: rest) :
    Continues executor (goOn (.worker worker)
      { executor with agenda := { executor.agenda with ready := rest } }) := by
  intro workers capacity shift sound serves
  have attends : Attends ((shift.after [.wake worker]).awake.erase worker)
      { executor with agenda := { executor.agenda with ready := rest } } := by
    intro other mem
    obtain ⟨apart, mem⟩ := Finset.mem_erase.mp mem
    have mem := serves.attends other ((Finset.mem_insert.mp mem).resolve_left apart)
    rw [ready, List.mem_cons] at mem
    exact mem.resolve_left fun same => apart (Agent.worker.inj same)
  have enough : shift.pool.queue.length + (shift.pool.jobOf? worker).toList.length <
      shift.pool.queue.length + 2 := by
    cases shift.pool.jobOf? worker <;> simp
  obtain ⟨events, worked⟩ :=
    attends.work (sound.step (.wake worker)) (Finset.mem_insert_self _ _) enough
  refine ⟨[.wake worker] ++ events, ?_⟩
  rw [Shift.after_append]
  unfold goOn
  simp only [serves.crew, sound.staffed.stays worker]
  exact worked

lemma turn (who : Agent) (rest : List Agent) (executor : Executor L G W V)
    (ready : executor.agenda.ready = who :: rest) :
    Continues executor
      (goOn who { executor with agenda := { executor.agenda with ready := rest } }) := by
  cases who with
  | worker number => exact worker ready
  | caller id =>
    have popped : Calm executor
        { executor with agenda := { executor.agenda with ready := rest } } := by
      refine ⟨rfl, fun number mem => ?_⟩
      rw [ready, List.mem_cons] at mem
      exact mem.resolve_left nofun
    exact popped.continues.trans (caller _ id)

omit [Limiter TaskLabel L G W] in
lemma later (agenda : Agenda Agent) (executor : Executor L G W V)
    (kept : ∀ who ∈ executor.agenda.ready, who ∈ agenda.ready) :
    Continues executor { executor with agenda := agenda } :=
  Calm.continues ⟨rfl, fun _ mem => kept _ mem⟩

lemma settle (executor : Executor L G W V) : Continues executor (Agents.settle executor) :=
  of_steps (Agents.settle_turns (fun _ _ _ ready => .single (turn _ _ _ ready)) executor)

lemma advance (time : Nat) (executor : Executor L G W V) :
    Continues executor (Agents.advance time executor) :=
  of_steps (Agents.advance_turns later (fun _ _ _ ready => .single (turn _ _ _ ready)) time executor)

lemma start (executor : Executor L G W V) (id : String) (ctx : TaskLabel) (demand : Demand) :
    Continues executor (executor.start id ctx demand).1 := by
  have placed : Calm executor
      { executor with orders := executor.orders ++ [⟨id, ctx, demand, .new⟩] } :=
    ⟨rfl, fun _ mem => mem⟩
  have went := placed.continues.trans (caller _ id)
  unfold Executor.start
  dsimp only
  split
  · exact went
  · exact went.trans ((Calm.refl _).wake _).continues

lemma act (executor : Executor L G W V) (action : Action V) (isOpen : action ≠ .shutdown) :
    Continues executor (executor.act action).1 := by
  have same := Calm.refl executor
  have held : ∀ jobs holds, Calm executor { executor with jobs := jobs, holds := holds } :=
    fun _ _ => ⟨rfl, fun _ mem => mem⟩
  cases action with
  | submit id ctx name plan => exact (same.jobs _).continues.trans (start _ id ctx _)
  | execute id ctx name plan => exact (same.jobs _).continues.trans (start _ id ctx _)
  | batch id ctx tasks timeout => exact (same.jobs _).continues.trans (start _ id ctx _)
  | complete name reply =>
    change Continues executor (executor.complete name reply).1
    unfold Executor.complete
    split
    · exact refl executor
    · exact ((same.jobs _).wake _).continues
  | abort id =>
    change Continues executor (executor.abort id).1
    unfold Executor.abort
    split
    · exact refl executor
    · exact ((same.jobs _).wake _).continues
  | forget id =>
    change Continues executor (executor.forget id).1
    unfold Executor.forget
    split
    · exact refl executor
    · exact Calm.continues ⟨rfl, fun _ mem => mem⟩
  | abandon id =>
    change Continues executor (executor.abandon id).1
    unfold Executor.abandon
    split
    · exact refl executor
    · exact (same.dropOrder _).continues
  | shutdown => exact absurd rfl isOpen
  | discard =>
    refine of_pool fun pool crew => ?_
    change Continues executor executor.discard
    unfold Executor.discard
    simp only [crew, Crew.discard]
    have kept : Calm executor { executor with crew := .pool pool } :=
      ⟨crew.symm, fun _ mem => mem⟩
    exact (kept.dropJobs []).continues
  | hold id ctx => exact ((held _ _).wake _).continues
  | release id outcome => exact ((held _ _).wake _).continues
  | advance time => exact advance time executor

lemma step (executor : Executor L G W V) (action : Action V) (isOpen : action ≠ .shutdown)
    (settles : Bool) : Continues executor (executor.step action settles).1 := by
  have acted := act executor action isOpen
  unfold Executor.step
  cases settles with
  | false => exact acted
  | true => exact acted.trans (settle _)

end Continues

section Sessions

variable [Limiter TaskLabel L G W]

end Sessions

/-- A task is told to break down while it runs. -/
def breakdown : List (Action Nat × Bool) :=
  [(.execute "a" .anonymous "task" .manual, true), (.complete "task" (.breakdown "panic"), true)]

end Admission.Executor

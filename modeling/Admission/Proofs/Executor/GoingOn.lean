import Admission.Proofs.Executor.Moves

/-!
# What an order comes to

An order which goes on has something happen to it in one of three ways: it goes on without having to be
admitted, or is over; it is told to wait until it is admitted; or the limiter has nothing for it, and it
is turned away.
-/

namespace Admission.Executor

variable {L G W V : Type}

/-- The failures which a crew meets when it is given a batch: those which crews say they meet, or the
one which it always meets. -/
def Crew.FailsWith (crew : Crew) (error : ExecutorFailure) : Prop :=
  error = .notTaken ∨ error = .interrupted ∨ ∃ start kept, crew = .failing start error kept

/-- An order goes on without having to be admitted, or is over; if it fails there is a reason. -/
inductive Concludes (reason : ExecutorFailure → Prop) (id : String)
    (before after : Executor L G W V) : Prop
  | stays {next : Order W} (same : next.id = id) (settled : ∀ place, next.stage ≠ .asking place)
      (orders : after.orders = Order.replace before.orders next)
      (endings : after.endings = before.endings)
  | ends {ending : Ending (Result V)}
      (fails : ∀ error, ending = .answered (.failed error) → reason error)
      (orders : after.orders = Order.without before.orders id)
      (endings : after.endings = before.endings ++ [(id, ending)])

section Concluding

variable {reason : ExecutorFailure → Prop} {executor before near after : Executor L G W V}
  {order : Order W}

lemma Concludes.after_near (concludes : Concludes reason order.id near after)
    (close : Near order before near) : Concludes reason order.id before after := by
  cases concludes with
  | stays same settled orders endings =>
    exact .stays same settled (orders.trans (close.replace same)) (endings.trans close.endings)
  | ends fails orders endings =>
    rw [close.endings] at endings
    exact .ends fails (orders.trans close.without) endings

/-- Which handles are kept does not matter. -/
lemma Concludes.after_handles {handles : Table Nat}
    (concludes : Concludes reason order.id { before with handles := handles } after) :
    Concludes reason order.id before after := by
  cases concludes with
  | stays same settled orders endings => exact .stays same settled orders endings
  | ends fails orders endings => exact .ends fails orders endings

/-- Whatever does not end in a failure needs no reason. -/
lemma Concludes.over {ending : Ending (Result V)}
    (orders : after.orders = Order.without before.orders order.id)
    (endings : after.endings = before.endings ++ [(order.id, ending)])
    (fine : ∀ error, ending ≠ .answered (.failed error)) : Concludes reason order.id before after :=
  .ends (fun error failed => absurd failed (fine error)) orders endings

/-- What has concluded has not failed but for a reason. -/
lemma Concludes.failed {reason : ExecutorFailure → Prop} {id other : String} {error : ExecutorFailure}
    (concludes : Concludes reason id before after)
    (failed : after.endings = before.endings ++ [(other, .answered (.failed error))]) :
    id = other ∧ reason error := by
  cases concludes with
  | stays _ _ _ same => exact (no_ending (same.symm.trans failed)).elim
  | ends fails _ ended =>
    obtain ⟨same, answered⟩ := ending_inj (ended.symm.trans failed)
    exact ⟨same, fails error answered⟩

lemma keep_concludes (executor : Executor L G W V) (order : Order W) {stage : Stage W}
    (settled : ∀ place, stage ≠ .asking place) :
    Concludes reason order.id executor (executor.keep { order with stage := stage }) := by
  have same : ({ order with stage := stage } : Order W).id = order.id := rfl
  exact .stays same settled rfl rfl

lemma await_concludes (executor : Executor L G W V) (order : Order W) (number : Nat) :
    Concludes reason order.id executor (executor.await order number) := by
  unfold await
  dsimp only
  split
  · exact .over rfl rfl nofun
  · exact keep_concludes executor order nofun

lemma collect_concludes (executor : Executor L G W V) (order : Order W) :
    Concludes reason order.id executor (executor.collect order) := by
  unfold collect
  split
  · exact .over rfl rfl nofun
  · exact keep_concludes executor order nofun

variable [Limiter TaskLabel L G W]

lemma closeBatch_concludes (executor : Executor L G W V) (order : Order W) :
    Concludes reason order.id executor (executor.closeBatch order) := by
  unfold closeBatch
  dsimp only
  split
  · exact (collect_concludes _ order).after_near ⟨.inl rfl, rfl, rfl, rfl⟩
  · exact .over rfl rfl nofun

lemma failBatch_concludes (executor : Executor L G W V) (order : Order W) {error : ExecutorFailure}
    (mine : reason error) : Concludes reason order.id executor (executor.failBatch order error) := by
  refine .ends (fun other same => ?_) rfl rfl
  split at same
  · cases same
  · cases same
    exact mine

lemma waitForBatch_concludes (executor : Executor L G W V) (order : Order W) (deadline : Option Nat)
    (mine : reason .interrupted) :
    Concludes reason order.id executor (executor.waitForBatch order deadline) := by
  unfold waitForBatch
  dsimp only
  split
  · split
    · exact closeBatch_concludes executor order
    · exact keep_concludes executor order nofun
  · split
    · exact failBatch_concludes executor order mine
    · exact closeBatch_concludes executor order

lemma giveJob_beside (executor : Executor L G W V) (number : Nat) :
    Beside executor (executor.giveJob number).1 := by
  have given : Course ⟨executor.jobs, [], fun _ => .waiting⟩ _ ∧ _ :=
    giveJob_course executor number nofun
  exact given.2

lemma giveJobs_beside (executor : Executor L G W V) (tasks : List Nat) :
    Beside executor (executor.giveJobs tasks).1 := by
  have given : Course ⟨executor.jobs, [], fun _ => .waiting⟩ _ ∧ _ :=
    giveJobs_course executor fun number (_ : number ∈ tasks) => nofun
  exact given.2

lemma lookAll_beside (executor : Executor L G W V) (tasks : List Nat) :
    Beside executor (executor.lookAll tasks).1 := by
  have looked : Course ⟨executor.jobs, [], fun _ => .waiting⟩ _ ∧ _ :=
    lookAll_course executor tasks fun _ _ => nofun
  exact looked.2

lemma giveOne_beside (executor : Executor L G W V) (number : Nat) (pass : Pass G) :
    Beside executor (executor.giveOne number pass).1 := by
  have beside := giveJob_beside (executor.handOver [number] [pass]) number
  unfold giveOne
  dsimp only
  generalize (executor.handOver [number] [pass]).giveJob number = result at beside ⊢
  obtain ⟨orders, handles, holds, endings⟩ := beside
  obtain ⟨next, _ | _ | fault⟩ := result <;> exact ⟨orders, handles, holds, endings⟩

/-- A batch which the crew is given fails only as its crew does. -/
lemma runBatch_concludes (executor : Executor L G W V) (order : Order W) (numbers : List Nat)
    (timeout : Option Nat) : Concludes executor.crew.FailsWith order.id executor
      (executor.runBatch order numbers timeout) := by
  have interrupted : executor.crew.FailsWith .interrupted := .inr (.inl rfl)
  unfold runBatch
  split
  · next start error kept crew =>
    have own : executor.crew.FailsWith error := .inr (.inr ⟨start, kept, crew⟩)
    have beside := lookAll_beside executor (numbers.take start)
    generalize executor.lookAll (numbers.take start) = result at beside ⊢
    obtain ⟨next, unfinished⟩ := result
    dsimp only at beside ⊢
    have fails : ∀ crew, Concludes executor.crew.FailsWith order.id next
        (failBatch (dropJobs { next with crew := crew } (numbers.drop start)) order error) :=
      fun crew => (failBatch_concludes (dropJobs { next with crew := crew } _) order own).after_near
        ⟨.inl rfl, rfl, rfl, rfl⟩
    exact (fails _).after_near (beside.near order)
  · have beside := giveJobs_beside executor numbers
    generalize executor.giveJobs numbers = result at beside ⊢
    obtain ⟨next, _ | _ | fault⟩ := result
    · have waits : ∀ agenda deadline, Concludes executor.crew.FailsWith order.id next
          (waitForBatch { next with agenda := agenda } order deadline) :=
        fun agenda deadline =>
          (waitForBatch_concludes { next with agenda := agenda } order deadline
            interrupted).after_near ⟨.inl rfl, rfl, rfl, rfl⟩
      exact (waits _ _).after_near (beside.near order)
    · exact (failBatch_concludes next order (.inl rfl)).after_near (beside.near order)
    · have breaks : ∀ jobs, Concludes executor.crew.FailsWith order.id next
          (alert (finish { next with jobs := jobs } order (.brokenDown fault.message))) :=
        fun _ => .over rfl rfl nofun
      exact (breaks _).after_near (beside.near order)

end Concluding

section GoingOn

variable [Limiter TaskLabel L G W]

/-- What the limiter says to an order which asks to be admitted, for the first time or again. -/
def answer (executor : Executor L G W V) (order : Order W) :
    Desk L × Except Fault (Progress (Pass G) W) :=
  match order.stage with
  | .asking place => executor.jobs.desk.poll order.ctx place executor.agenda.now
  | _ => executor.jobs.desk.acquire order.ctx executor.agenda.now

/-- The order has been told to wait at a place. -/
structure TellsToWait (order : Order W) (place : W) (before after : Executor L G W V) : Prop where
  told : (before.answer order).2 = .ok (.waiting place)
  desk : after.jobs.desk = (before.answer order).1
  orders : after.orders = Order.replace before.orders { order with stage := .asking place }
  endings : after.endings = before.endings

/-- The limiter has nothing for an order: not for its first task, or not for all the others. -/
inductive Denies (executor : Executor L G W V) (order : Order W) : Refusal → Desk L → Prop
  | first {desk : Desk L} {cause : Refusal}
      (answered : executor.answer order = (desk, .ok (.refused cause))) :
      Denies executor order cause desk
  | more {looked back : Desk L} {pass : Pass G}
      (answered : executor.answer order = (looked, .ok (.admitted pass)))
      (acquires : looked.AcquiresMore order.ctx executor.agenda.now [pass] (order.tasks.length - 1)
        (back, .ok none)) :
      Denies executor order .rejected back

/-- The order is over, and its tasks are thrown away before there are jobs of them. But for what has
happened at the desk that is all. -/
structure TurnsAway (order : Order W) (cause : Refusal) (desk : Desk L)
    (before after : Executor L G W V) : Prop where
  jobs : after.jobs = Jobs.forgo { before.jobs with desk := desk } order.tasks
  crew : after.crew = before.crew
  orders : after.orders = Order.without before.orders order.id
  endings : after.endings = before.endings ++ [(order.id, .answered (.failed (.refused cause)))]

/-- What an order comes to which goes on. -/
inductive GoesOn (order : Order W) (before after : Executor L G W V) : Prop
  | concludes (concludes : Concludes before.crew.FailsWith order.id before after)
  | waits {place : W} (waits : TellsToWait order place before after)
  | denied {cause : Refusal} {desk : Desk L} (denies : Denies before order cause desk)
      (turned : TurnsAway order cause desk before after)

variable {executor : Executor L G W V} {order : Order W} {tasks : List Nat} {timeout : Option Nat}

lemma tasks_of_batch (batch : order.demand = .batch tasks timeout) : order.tasks = tasks := by
  unfold Order.tasks
  rw [batch]

/-- An order which is not under way goes on by asking for its first task, if it has tasks. -/
lemma goOnWith_of_asks (executor : Executor L G W V) (asks : order.isUnderWay = false) :
    (∃ timeout, order.demand = .batch [] timeout ∧
      executor.goOnWith order = executor.runBatch order [] timeout) ∨
    ∃ agenda : Agenda Agent, agenda.now = executor.agenda.now ∧ executor.goOnWith order =
      proceed { executor with agenda := agenda } order (executor.answer order) := by
  unfold Order.isUnderWay at asks
  unfold goOnWith answer
  cases stage : order.stage with
  | new =>
    dsimp only
    unfold ask
    split
    · next timeout batch => exact .inl ⟨timeout, batch, rfl⟩
    · refine .inr ⟨_, ?_, rfl⟩
      split
      · split <;> rfl
      · rfl
  | asking place => exact .inr ⟨executor.agenda, rfl, rfl⟩
  | awaiting | running | collecting =>
    rw [stage] at asks
    cases asks

/-- A batch which is admitted is launched as an order which has only just been placed. -/
lemma proceed_batch (batch : order.demand = .batch tasks timeout) (looked : Desk L) (pass : Pass G) :
    executor.proceed order (looked, .ok (.admitted pass)) =
      admitBatch (keep { executor with
        jobs := { executor.jobs with desk := looked }
        agenda := executor.agenda.clearAlarms (.caller order.id) } { order with stage := .new })
        { order with stage := .new } tasks timeout pass := by
  unfold proceed launch
  dsimp only
  rw [batch]

lemma admitBatch_comes (executor : Executor L G W V) (order : Order W) (timeout : Option Nat)
    (pass : Pass G) :
    Concludes executor.crew.FailsWith order.id executor
        (executor.admitBatch order order.tasks timeout pass) ∨
      ∃ back, executor.jobs.desk.AcquiresMore order.ctx executor.agenda.now [pass]
        (order.tasks.length - 1) (back, .ok none) ∧
        TurnsAway order .rejected back executor
          (executor.admitBatch order order.tasks timeout pass) := by
  have acquires := Desk.acquireMore_acquiresMore executor.jobs.desk order.ctx executor.agenda.now
    [pass] (order.tasks.length - 1)
  unfold admitBatch
  dsimp only
  generalize executor.jobs.desk.acquireMore order.ctx executor.agenda.now [pass]
    (order.tasks.length - 1) = result at acquires ⊢
  obtain ⟨desk, fault | _ | passes⟩ := result
  · exact .inl (.over rfl rfl nofun)
  · exact .inr ⟨desk, acquires, rfl, rfl, rfl, rfl⟩
  · have runs := runBatch_concludes
      (handOver { executor with jobs := { executor.jobs with desk := desk } } order.tasks passes)
      order order.tasks timeout
    exact .inl (runs.after_near ⟨.inl rfl, rfl, rfl, rfl⟩)

/-- An order for one task which is admitted is never short of capacity any more. -/
lemma launch_concludes (executor : Executor L G W V) (pass : Pass G) (single : order.IsSingle) :
    Concludes executor.crew.FailsWith order.id executor (executor.launch order pass) := by
  have notTaken : executor.crew.FailsWith .notTaken := .inl rfl
  have put : Near order executor (keep { executor with
      agenda := executor.agenda.clearAlarms (.caller order.id) } { order with stage := .new }) :=
    ⟨.inr ⟨{ order with stage := .new }, rfl, rfl⟩, rfl, rfl, rfl⟩
  unfold launch
  dsimp only
  refine Concludes.after_near ?_ put
  split
  · next numbers timeout batch => exact absurd batch (single numbers timeout)
  all_goals
    next number demand =>
      have beside := giveOne_beside (keep { executor with
        agenda := executor.agenda.clearAlarms (.caller order.id) } { order with stage := .new })
        number pass
      generalize giveOne (_ : Executor L G W V) number pass = result at beside ⊢
      refine Concludes.after_near ?_ (beside.near order)
      split
      · exact (await_concludes _ order number).after_handles
      · exact .over rfl rfl nofun
      · refine .ends (fun error same => ?_) rfl rfl
        cases same
        exact notTaken
      · exact .over rfl rfl nofun

/-- A batch whose first task is admitted is given to the crew, or denied the others. -/
lemma proceed_batch_goesOn (batch : order.demand = .batch tasks timeout) {looked : Desk L}
    {pass : Pass G} (answered : executor.answer order = (looked, .ok (.admitted pass)))
    {agenda : Agenda Agent} (now : agenda.now = executor.agenda.now) : GoesOn order executor
      (proceed { executor with agenda := agenda } order (looked, .ok (.admitted pass))) := by
  rw [proceed_batch batch, ← tasks_of_batch batch]
  have put : Near order executor (keep { executor with
      jobs := { executor.jobs with desk := looked }
      agenda := agenda.clearAlarms (.caller order.id) } { order with stage := .new }) :=
    ⟨.inr ⟨{ order with stage := .new }, rfl, rfl⟩, rfl, rfl, rfl⟩
  rcases admitBatch_comes (keep { executor with
      jobs := { executor.jobs with desk := looked }
      agenda := agenda.clearAlarms (.caller order.id) } { order with stage := .new })
      { order with stage := .new } timeout pass with runs | ⟨back, acquires, turned⟩
  · have launched : Concludes executor.crew.FailsWith order.id _ _ := runs
    exact .concludes (launched.after_near put)
  · have asked : looked.AcquiresMore order.ctx agenda.now [pass] (order.tasks.length - 1)
      (back, .ok none) := acquires
    rw [now] at asked
    exact .denied (.more answered asked)
      ⟨turned.jobs, turned.crew, turned.orders.trans put.without, turned.endings⟩

lemma proceed_goesOn (executor : Executor L G W V) (order : Order W) {agenda : Agenda Agent}
    (now : agenda.now = executor.agenda.now) : GoesOn order executor
      (proceed { executor with agenda := agenda } order (executor.answer order)) := by
  rcases answered : executor.answer order with ⟨desk, fault | pass | cause | place⟩
  · exact .concludes (.over rfl rfl nofun)
  · by_cases single : order.IsSingle
    · have launched := launch_concludes
        { executor with agenda := agenda, jobs := { executor.jobs with desk := desk } } pass single
      exact .concludes (launched.after_near ⟨.inl rfl, rfl, rfl, rfl⟩)
    · obtain ⟨tasks, timeout, batch⟩ : ∃ tasks timeout, order.demand = .batch tasks timeout := by
        simpa only [Order.IsSingle, not_forall, not_not] using single
      exact proceed_batch_goesOn batch answered now
  · exact .denied (.first answered) ⟨rfl, rfl, rfl, rfl⟩
  · refine .waits ⟨congrArg Prod.snd answered, ?_, rfl, rfl⟩
    rw [answered]
    rfl

/-- What can come of an order which goes on. -/
theorem goOnWith_goesOn (executor : Executor L G W V) (order : Order W) :
    GoesOn order executor (executor.goOnWith order) := by
  cases asks : order.isUnderWay with
  | false =>
    rcases goOnWith_of_asks executor asks with ⟨timeout, -, goes⟩ | ⟨agenda, now, goes⟩
    · rw [goes]
      exact .concludes (runBatch_concludes executor order [] timeout)
    · rw [goes]
      exact proceed_goesOn executor order now
  | true =>
    unfold Order.isUnderWay at asks
    unfold goOnWith
    cases stage : order.stage with
    | new | asking =>
      rw [stage] at asks
      cases asks
    | awaiting number => exact .concludes (await_concludes executor order number)
    | running deadline =>
      exact .concludes (waitForBatch_concludes executor order deadline (.inr (.inl rfl)))
    | collecting => exact .concludes (collect_concludes executor order)

end GoingOn

section Moves

variable {batches : Prop} {before after : Executor L G W V} {order : Order W}

/-- No order waits to be admitted which did not wait so before. -/
def AsksNoMore (before after : Executor L G W V) : Prop :=
  ∀ order ∈ after.orders, ∀ place, order.stage = .asking place → order ∈ before.orders

lemma Beside.asksNoMore (beside : Beside before after) : AsksNoMore before after :=
  fun _ mem _ _ => beside.orders ▸ mem

lemma asksNoMore_without {id : String} (orders : after.orders = Order.without before.orders id) :
    AsksNoMore before after :=
  fun _ mem _ _ => (Order.mem_without.mp (orders ▸ mem)).1

lemma Concludes.asksNoMore {reason : ExecutorFailure → Prop} {id : String}
    (concludes : Concludes reason id before after) : AsksNoMore before after := by
  cases concludes with
  | ends _ orders _ => exact asksNoMore_without orders
  | stays _ settled orders _ =>
    intro other mem place asks
    rw [orders] at mem
    rcases Order.mem_replace mem with rfl | ⟨old, -⟩
    · exact absurd asks (settled place)
    · exact old

variable [Limiter TaskLabel L G W]

lemma dropOrder_drops (executor : Executor L G W V) (order : Order W) :
    (executor.dropOrder order).1.orders = Order.without executor.orders order.id ∧
      (executor.dropOrder order).1.endings = executor.endings := by
  unfold dropOrder
  dsimp only
  split <;> exact ⟨rfl, rfl⟩

/-- What a move comes to for the orders: one of them goes on, or a batch which runs is over, or at most
some of them are dropped. -/
inductive Fares (before : Executor L G W V) : Executor L G W V → Prop
  | quiet {next : Executor L G W V} (asks : AsksNoMore before next)
      (endings : next.endings = before.endings) : Fares before next
  | goOn {order : Order W} (mem : order ∈ before.orders) : Fares before (before.goOnWith order)
  | close {order : Order W} (mem : order ∈ before.orders) : Fares before (before.closeBatch order)
  | fail {order : Order W} (mem : order ∈ before.orders) (error : ExecutorFailure)
      {deadline : Option Nat} (running : order.stage = .running deadline) :
      Fares before (before.failBatch order error)

theorem Move.fares (move : Move batches before after) : Fares before after := by
  have quiet : ∀ {next : Executor L G W V}, Course ⟨before.jobs, [], fun _ => .waiting⟩
      ⟨next.jobs, [], fun _ => .waiting⟩ ∧ Beside before next → Fares before next :=
    fun ⟨_, beside⟩ => .quiet beside.asksNoMore beside.endings
  cases move with
  | pass => exact .quiet (fun _ mem _ _ => mem) rfl
  | @place order tasks stage =>
    refine .quiet (fun other mem place asks => ?_) rfl
    rcases List.mem_append.mp mem with old | new
    · exact old
    · rw [List.mem_singleton.mp new, stage] at asks
      cases asks
  | goOn mem => exact .goOn mem
  | @abandon order mem =>
    obtain ⟨orders, endings⟩ := dropOrder_drops before order
    exact .quiet (asksNoMore_without orders) endings
  | @work worker fuel pool =>
    have stays : ∀ number : Nat, (fun _ => Role.waiting) number ≠ .leaving := fun _ => nofun
    exact quiet (work_course before stays worker fuel pool)
  | retire worker => exact quiet (retire_course worker _)
  | complete name reply => exact quiet (complete_course name reply)
  | abort id =>
    unfold Executor.abort
    split <;> exact .quiet (fun _ mem _ _ => mem) rfl
  | forget id =>
    unfold Executor.forget
    split <;> exact .quiet (fun _ mem _ _ => mem) rfl
  | shutdown =>
    have beside := (shutdown_beside before).2
    exact .quiet beside.asksNoMore beside.endings
  | discard => exact quiet discard_course
  | hold | release => exact .quiet (fun _ mem _ _ => mem) rfl
  | look crews number =>
    have beside := (look_jobs before number).2
    exact .quiet beside.asksNoMore beside.endings
  | toss crews numbers => exact quiet (dropJobs_course before numbers)
  | close crews mem => exact .close mem
  | fail crews mem running error => exact .fail mem error running

/-- Only an order which goes on and is told to wait does wait to be admitted. -/
lemma Fares.asks (fares : Fares before after) :
    AsksNoMore before after ∨
      ∃ order ∈ before.orders, ∃ place, TellsToWait order place before after := by
  cases fares with
  | quiet asks => exact .inl asks
  | @goOn order mem =>
    cases goOnWith_goesOn before order with
    | concludes concludes => exact .inl concludes.asksNoMore
    | waits told => exact .inr ⟨order, mem, _, told⟩
    | denied _ turned => exact .inl (asksNoMore_without turned.orders)
  | @close order mem =>
    have closed : Concludes (fun _ => False) order.id before _ := closeBatch_concludes before order
    exact .inl closed.asksNoMore
  | @fail order mem error =>
    have failed : Concludes (· = error) order.id before _ := failBatch_concludes before order rfl
    exact .inl failed.asksNoMore

end Moves

end Admission.Executor

import Admission.Proofs.Desk.Calls
import Admission.Proofs.Executor.Arrangement

/-!
# How an order goes on

Every function by which an executor goes on with an order is a course of steps in the hall, and
changes nothing for the other orders.
-/

namespace Admission.Executor

open Function (update)

variable {L G W V : Type}

/-- Nothing has changed but for tasks and who is to go on. -/
structure Beside (before after : Executor L G W V) : Prop where
  orders : after.orders = before.orders
  handles : after.handles = before.handles
  holds : after.holds = before.holds
  endings : after.endings = before.endings

/-- The order has not got anywhere else than to itself, and nothing else has changed. -/
structure Near (order : Order W) (before after : Executor L G W V) : Prop where
  orders : after.orders = before.orders ∨
    ∃ next : Order W, next.id = order.id ∧ after.orders = Order.replace before.orders next
  handles : after.handles = before.handles
  holds : after.holds = before.holds
  endings : after.endings = before.endings

section Compose

variable {roles middle others : Nat → Role} {before between after : Executor L G W V}
  {order : Order W}

lemma Beside.refl (executor : Executor L G W V) : Beside executor executor := ⟨rfl, rfl, rfl, rfl⟩

lemma Beside.trans (first : Beside before between) (second : Beside between after) :
    Beside before after :=
  ⟨second.orders.trans first.orders, second.handles.trans first.handles,
    second.holds.trans first.holds, second.endings.trans first.endings⟩

lemma Beside.near (beside : Beside before after) (order : Order W) : Near order before after :=
  ⟨.inl beside.orders, beside.handles, beside.holds, beside.endings⟩

lemma Near.without (near : Near order before after) :
    Order.without after.orders order.id = Order.without before.orders order.id := by
  rcases near.orders with unchanged | ⟨put, id, replaced⟩
  · rw [unchanged]
  · rw [replaced, ← id, Order.without_replace]

lemma Near.replace (near : Near order before after) {next : Order W} (same : next.id = order.id) :
    Order.replace after.orders next = Order.replace before.orders next := by
  rcases near.orders with unchanged | ⟨put, id, replaced⟩
  · rw [unchanged]
  · rw [replaced, Order.replace_replace _ (id.trans same.symm)]

lemma Goes.after_near (near : Near order before between)
    (same : ∀ number, number ∉ order.tasks ∨ roles number = .free → middle number = roles number)
    (goes : Goes order middle others between after) : Goes order roles others before after := by
  refine ⟨fun number kept => ?_, goes.holds.trans near.holds, fun entry mem => ?_, goes.stays,
    goes.single, ?_⟩
  · have first := same number kept
    rw [goes.same number (kept.imp id first.trans), first]
  · rw [← near.handles]
    exact goes.handles entry mem
  · rcases goes.becomes with ⟨left, free, ends⟩ | ⟨next, id, demand, orders, fits, told, endings⟩
    · refine .gone (left.trans near.without) free ?_
      unfold Order.Ends
      rw [← near.endings]
      exact ends
    · exact .next next id demand (orders.trans (near.replace id)) fits told
        (endings.trans near.endings)

/-- An order ends, and with it its tasks get other roles. -/
lemma Goes.ended (bound : ∀ number ∈ order.tasks, roles number ≠ .free)
    (apart : ∀ number ∉ order.tasks, others number = roles number)
    (left : ∀ number ∈ order.tasks, others number ≠ .leaving ∧ others number ≠ .inHand)
    (single : order.IsSingle → ∀ number ∈ order.tasks, (others number).IsSingle)
    (handles : after.handles = before.handles) (holds : after.holds = before.holds)
    (orders : after.orders = Order.without before.orders order.id) (ends : order.Ends before after) :
    Goes order roles others before after := by
  refine ⟨fun number kept => apart number fun mem => ?_, holds,
    fun entry mem => .inl (handles ▸ mem), fun number mem => (left number mem).1, single,
    .gone orders (fun number mem => (left number mem).2) ends⟩
  rcases kept with other | free
  · exact other mem
  · exact bound number mem free

lemma Goes.reassigned {role : Role} (bound : ∀ number ∈ order.tasks, roles number ≠ .free)
    (stays : role ≠ .leaving) (inHand : role ≠ .inHand) (single : order.IsSingle → role.IsSingle)
    (handles : after.handles = before.handles) (holds : after.holds = before.holds)
    (orders : after.orders = Order.without before.orders order.id) (ends : order.Ends before after) :
    Goes order roles (reassign roles order.tasks role) before after := by
  refine .ended bound (fun _ other => reassign_of_not_mem other) (fun number mem => ?_)
    (fun alone number mem => ?_) handles holds orders ends
  · rw [reassign_of_mem mem]
    exact ⟨stays, inHand⟩
  · rw [reassign_of_mem mem]
    exact single alone

lemma Goes.unchanged (bound : ∀ number ∈ order.tasks, roles number ≠ .leaving)
    (single : order.IsSingle → ∀ number ∈ order.tasks, (roles number).IsSingle)
    (handles : after.handles = before.handles) (holds : after.holds = before.holds)
    (becomes : order.Becomes roles before after) : Goes order roles roles before after :=
  ⟨fun _ _ => rfl, holds, fun _ mem => .inl (handles ▸ mem), bound, single, becomes⟩

lemma Order.ends_brokenDown {text : String}
    (endings : after.endings = before.endings ++ [(order.id, .brokenDown text)]) :
    order.Ends before after := .inr ⟨_, endings, nofun⟩

lemma Order.ends_answered {result : Result V}
    (endings : after.endings = before.endings ++ [(order.id, .answered result)])
    (told : order.IsSingle ∨ result.IsTrueOf after.jobs order.tasks) : order.Ends before after :=
  .inr ⟨_, endings, fun _ same => Ending.answered.inj same ▸ told⟩

end Compose

section Jobs

variable [Limiter TaskLabel L G W] {loose : List (Pass G)} {roles : Nat → Role} {number : Nat}
  {tasks : List Nat} {executor : Executor L G W V}

lemma ask_for_report_course (executor : Executor L G W V) (number : Nat) :
    Course ⟨executor.jobs, loose, roles⟩
      ⟨executor.jobs.update number fun task => { task with report := .awaited }, loose, roles⟩ :=
  minor_course (fun task => { task with report := .awaited })
    (fun _ => ⟨rfl, rfl, rfl, rfl, rfl, rfl⟩) (fun _ => rfl) number

lemma look_jobs (executor : Executor L G W V) (number : Nat) :
    (executor.look number).1.jobs = (executor.jobs.look number executor.agenda.now).1 ∧
      Beside executor (executor.look number).1 := by
  unfold Executor.look
  dsimp only
  split <;> exact ⟨rfl, ⟨rfl, rfl, rfl, rfl⟩⟩

lemma lookAt_course (executor : Executor L G W V) (stays : roles number ≠ .leaving) :
    Course ⟨executor.jobs, loose, roles⟩ ⟨(executor.look number).1.jobs, loose, roles⟩ := by
  rw [(look_jobs executor number).1]
  exact look_course stays _

lemma lookAll_course (executor : Executor L G W V) (tasks : List Nat)
    (stays : ∀ number ∈ tasks, roles number ≠ .leaving) :
    Course ⟨executor.jobs, loose, roles⟩ ⟨(executor.lookAll tasks).1.jobs, loose, roles⟩ ∧
      Beside executor (executor.lookAll tasks).1 := by
  induction tasks generalizing executor with
  | nil => exact ⟨.refl, .refl executor⟩
  | cons number rest ih =>
    obtain ⟨first, others⟩ := List.forall_mem_cons.mp stays
    have looked : Course ⟨executor.jobs, loose, roles⟩ _ := lookAt_course executor first
    have beside := (look_jobs executor number).2
    unfold lookAll
    generalize executor.look number = result at looked beside ⊢
    obtain ⟨next, glance⟩ := result
    obtain ⟨rest_looked, rest_beside⟩ := ih next others
    dsimp only at looked beside ⊢
    generalize next.lookAll rest = result at rest_looked rest_beside ⊢
    obtain ⟨last, unfinished⟩ := result
    cases glance <;> exact ⟨looked.trans rest_looked, beside.trans rest_beside⟩

lemma giveJob_rejected (executor : Executor L G W V) (number : Nat)
    (rejected : (executor.giveJob number).2 = .rejected) :
    (executor.giveJob number).1 = executor := by
  unfold giveJob at *
  cases crew : executor.crew with
  | pool pool =>
    simp only [crew] at rejected ⊢
    generalize pool.push? number = pushed at rejected ⊢
    cases pushed with
    | none => rfl
    | some pushed => nomatch rejected
  | eager accept taken kept =>
    simp only [crew] at rejected ⊢
    by_cases full : accept ≤ taken
    · rw [if_pos full]
    · rw [if_neg full] at rejected
      generalize executor.look number = result at rejected
      obtain ⟨next, _ | _ | _⟩ := result <;> nomatch rejected
  | failing | unknown => simp [crew] at rejected

lemma giveJob_course (executor : Executor L G W V) (number : Nat)
    (stays : roles number ≠ .leaving) :
    Course ⟨executor.jobs, loose, roles⟩ ⟨(executor.giveJob number).1.jobs, loose, roles⟩ ∧
      Beside executor (executor.giveJob number).1 := by
  unfold giveJob
  split
  · next pool _ =>
    cases pool.push? number with
    | none => exact ⟨.refl, .refl executor⟩
    | some pushed => exact ⟨.refl, ⟨rfl, rfl, rfl, rfl⟩⟩
  · next accept taken kept _ =>
    by_cases full : accept ≤ taken
    · rw [if_pos full]
      exact ⟨.refl, .refl executor⟩
    · rw [if_neg full]
      have looked : Course ⟨executor.jobs, loose, roles⟩ _ := lookAt_course executor stays
      have beside := (look_jobs executor number).2
      generalize executor.look number = result at looked beside
      obtain ⟨orders, handles, holds, endings⟩ := beside
      obtain ⟨next, _ | _ | _⟩ := result <;> exact ⟨looked, ⟨orders, handles, holds, endings⟩⟩
  · exact ⟨.refl, ⟨rfl, rfl, rfl, rfl⟩⟩
  · exact ⟨.refl, .refl executor⟩

lemma giveJobs_course (executor : Executor L G W V)
    (stays : ∀ number ∈ tasks, roles number ≠ .leaving) :
    Course ⟨executor.jobs, loose, roles⟩ ⟨(executor.giveJobs tasks).1.jobs, loose, roles⟩ ∧
      Beside executor (executor.giveJobs tasks).1 := by
  induction tasks generalizing executor with
  | nil => exact ⟨.refl, .refl executor⟩
  | cons number rest ih =>
    obtain ⟨first, others⟩ := List.forall_mem_cons.mp stays
    have asked : Course ⟨executor.jobs, loose, roles⟩ _ := ask_for_report_course executor number
    obtain ⟨given, beside⟩ := giveJob_course { executor with
      jobs := executor.jobs.update number fun task => { task with report := .awaited } } number first
    have course := asked.trans given
    obtain ⟨orders, handles, holds, endings⟩ := beside
    have beside : Beside executor _ := ⟨orders, handles, holds, endings⟩
    unfold giveJobs
    dsimp only
    generalize giveJob (_ : Executor L G W V) number = result at course beside ⊢
    obtain ⟨next, _ | _ | fault⟩ := result
    · obtain ⟨rest_course, rest_beside⟩ := ih next others
      exact ⟨course.trans rest_course, beside.trans rest_beside⟩
    · have dropped : Course ⟨next.jobs, loose, roles⟩ _ :=
        dropAll_course next.agenda.now false (number :: rest)
      exact ⟨course.trans dropped, ⟨beside.orders, beside.handles, beside.holds, beside.endings⟩⟩
    · have dropped : Course ⟨next.jobs, loose, roles⟩ _ :=
        dropAll_course next.agenda.now false (number :: rest)
      exact ⟨course.trans dropped, ⟨beside.orders, beside.handles, beside.holds, beside.endings⟩⟩

lemma handOver_step {jobs : Jobs L V G} {pass : Pass G} (waits : roles number = .waiting)
    (below : number < jobs.tasks.length) :
    Step ⟨jobs, pass :: loose, roles⟩
      ⟨jobs.handOver number pass, loose, update roles number .inHand⟩ := by
  obtain ⟨task, known⟩ := Jobs.known_of_lt below
  have step : Step ⟨jobs, pass :: loose, roles⟩ _ := .letIn known waits
  rwa [Jobs.handOver, Jobs.update_eq known]

lemma handOver_course {jobs : Jobs L V G} {passes : List (Pass G)}
    (same : tasks.length = passes.length) (distinct : tasks.Nodup)
    (waits : ∀ number ∈ tasks, roles number = .waiting)
    (below : ∀ number ∈ tasks, number < jobs.tasks.length) :
    Course ⟨jobs, passes ++ loose, roles⟩
      ⟨(tasks.zip passes).foldl (fun jobs (number, pass) => jobs.handOver number pass) jobs, loose,
        reassign roles tasks .inHand⟩ := by
  induction tasks generalizing jobs passes roles with
  | nil =>
    obtain rfl := List.length_eq_zero_iff.mp same.symm
    rw [reassign_nil]
    exact .refl
  | cons number rest ih =>
    obtain ⟨new, distinct⟩ := List.nodup_cons.mp distinct
    obtain ⟨first_waits, rest_waits⟩ := List.forall_mem_cons.mp waits
    obtain ⟨first_below, rest_below⟩ := List.forall_mem_cons.mp below
    cases passes with
    | nil => nomatch same
    | cons pass passes =>
      have step : Step ⟨jobs, pass :: (passes ++ loose), roles⟩ _ :=
        handOver_step first_waits first_below
      have others : ∀ other ∈ rest, update roles number .inHand other = .waiting := by
        intro other mem
        rw [Function.update_of_ne (ne_of_mem_of_not_mem mem new)]
        exact rest_waits other mem
      have rest_course := ih (Nat.succ.inj same) distinct others
        fun other mem => (rest_below other mem).trans_le step.length_le
      rw [reassign_update] at rest_course
      exact .head step rest_course

lemma drop_held {jobs : Jobs L V G} {task : Task V G}
    (known : jobs.tasks[number]? = some task) (job : task.hasJob = true) (held : task.held = true)
    (now : Nat) (cleaning : Bool) :
    (jobs.drop now cleaning number).1 =
      ⟨jobs.desk, jobs.tasks.set number (task.conclude none), jobs.log⟩ := by
  unfold Jobs.drop
  rw [known, Option.filter_some_pos job]
  dsimp only
  rw [if_pos held]
  exact Jobs.update_eq known _

/-- A single task is given to the crew: it runs by itself then, or there is a report on it. -/
theorem giveOne_course (executor : Executor L G W V) {pass : Pass G}
    (sound : Hall.Sound ⟨executor.jobs, pass :: loose, roles⟩) (waits : roles number = .waiting)
    (below : number < executor.jobs.tasks.length) :
    Course ⟨executor.jobs, pass :: loose, roles⟩
        ⟨(executor.giveOne number pass).1.jobs, loose, update roles number .free⟩ ∧
      Beside executor (executor.giveOne number pass).1 := by
  have handed : Course ⟨executor.jobs, pass :: loose, roles⟩
      ⟨executor.jobs.handOver number pass, loose, update roles number .inHand⟩ :=
    .single (handOver_step waits below)
  have inHand : update roles number Role.inHand number = .inHand := Function.update_self _ _ _
  have stays : update roles number Role.inHand number ≠ .leaving := by
    rw [inHand]
    nofun
  have rejected_same := giveJob_rejected (executor.handOver [number] [pass]) number
  obtain ⟨course, beside⟩ := giveJob_course (executor.handOver [number] [pass]) number stays
  have so_far := handed.trans course
  have sound_so_far := sound.course so_far
  unfold giveOne
  dsimp only
  generalize (executor.handOver [number] [pass]).giveJob number = result at *
  obtain ⟨next, acceptance⟩ := result
  dsimp only at *
  obtain ⟨orders, handles, holds, endings⟩ := beside
  have let_go := fun cleaning =>
    letGo_course sound_so_far inHand .free executor.agenda.now cleaning
  simp only [Function.update_idem] at let_go
  cases acceptance with
  | accepted => exact ⟨so_far.trans (let_go false), ⟨orders, handles, holds, endings⟩⟩
  | broken fault => exact ⟨so_far.trans (let_go true), ⟨orders, handles, holds, endings⟩⟩
  | rejected =>
    obtain rfl := rejected_same rfl
    refine ⟨so_far.trans ?_, ⟨orders, handles, holds, endings⟩⟩
    obtain ⟨task, known⟩ := Jobs.known_of_lt below
    obtain ⟨-, -, unseen, -⟩ := (sound.stands number task known).tale.outside_inv (.inl waits)
    have given : (executor.handOver [number] [pass]).jobs.tasks[number]? =
        some (task.withPass pass) := by
      change ((executor.jobs.update number _).note _).tasks[number]? = _
      rw [Jobs.update_eq known]
      exact Jobs.getElem?_set_known known _
    have dropped : Course
        ⟨(executor.handOver [number] [pass]).jobs, loose, update roles number .inHand⟩ _ :=
      drop_course executor.agenda.now false number
    have kept : ((executor.handOver [number] [pass]).jobs.drop executor.agenda.now false
        number).1.tasks[number]? = some ((task.withPass pass).conclude none) := by
      rw [drop_held given rfl rfl]
      exact Jobs.getElem?_set_known given _
    have refused : Course ⟨_, loose, update roles number .inHand⟩ _ :=
      refuse_course inHand kept rfl unseen executor.agenda.now
    rw [Function.update_idem] at refused
    exact dropped.trans refused

end Jobs

/-- The order goes on by a course of steps, and changes nothing for the others. The passes outside of
tasks are told apart before and after. -/
def Proceeds [Limiter TaskLabel L G W] (order : Order W) (roles : Nat → Role)
    (loose left : List (Pass G)) (before after : Executor L G W V) : Prop :=
  ∃ others, Course ⟨before.jobs, loose, roles⟩ ⟨after.jobs, left, others⟩ ∧
    Goes order roles others before after

section Orders

variable [Limiter TaskLabel L G W] {loose between left : List (Pass G)}
  {roles middle : Nat → Role} {order : Order W} {executor near after : Executor L G W V}

lemma Proceeds.after_near (proceeds : Proceeds order middle between left near after)
    (course : Course ⟨executor.jobs, loose, roles⟩ ⟨near.jobs, between, middle⟩)
    (beside : Near order executor near)
    (same : ∀ number, number ∉ order.tasks ∨ roles number = .free → middle number = roles number) :
    Proceeds order roles loose left executor after := by
  obtain ⟨others, rest, goes⟩ := proceeds
  exact ⟨others, course.trans rest, goes.after_near beside same⟩

lemma Proceeds.after_beside (proceeds : Proceeds order roles loose loose near after)
    (course : Course ⟨executor.jobs, loose, roles⟩ ⟨near.jobs, loose, roles⟩)
    (beside : Beside executor near) :
    Proceeds order roles loose loose executor after :=
  proceeds.after_near course (beside.near order) fun _ _ => rfl

section Handles

variable (bound : ∀ number ∈ order.tasks, roles number ≠ .leaving ∧ roles number ≠ .inHand)

include bound

lemma await_proceeds (alone : order.IsSingle)
    (single : ∀ number ∈ order.tasks, (roles number).IsSingle) (number : Nat) :
    Proceeds order roles loose loose executor (executor.await order number) := by
  have stays := fun number mem => (bound number mem).1
  have free := fun number mem => (bound number mem).2
  unfold await
  dsimp only
  split
  · exact ⟨roles, .refl, .unchanged stays (fun _ => single) rfl rfl
      (.gone rfl free (Order.ends_answered rfl (.inl alone)))⟩
  · exact ⟨roles, .refl, .unchanged stays (fun _ => single) rfl rfl
      (.next { order with stage := .awaiting number } rfl rfl rfl ⟨alone, free⟩ nofun rfl)⟩

lemma collect_proceeds (single : order.IsSingle → ∀ number ∈ order.tasks, (roles number).IsSingle)
    (told : .dismissed order.tasks .done ∈ executor.jobs.log) :
    Proceeds order roles loose loose executor (executor.collect order) := by
  have stays := fun number mem => (bound number mem).1
  have free := fun number mem => (bound number mem).2
  unfold collect
  split
  · next results shown =>
    exact ⟨roles, .refl, .unchanged stays single rfl rfl
      (.gone rfl free (Order.ends_answered rfl (.inr ⟨told, shown⟩)))⟩
  · exact ⟨roles, .refl, .unchanged stays single rfl rfl
      (.next { order with stage := .collecting } rfl rfl rfl free (fun _ => told) rfl)⟩

end Handles

lemma Proceeds.put_back {stage : Stage W} {agenda : Agenda Agent}
    (proceeds : Proceeds { order with stage := stage } roles loose left
      (keep { executor with agenda := agenda } { order with stage := stage }) after) :
    Proceeds order roles loose left executor after := by
  have near : Near { order with stage := stage } executor
      (keep { executor with agenda := agenda } { order with stage := stage }) :=
    ⟨.inr ⟨{ order with stage := stage }, rfl, rfl⟩, rfl, rfl, rfl⟩
  obtain ⟨others, course, goes⟩ : Proceeds _ roles loose left executor after :=
    proceeds.after_near .refl near fun _ _ => rfl
  refine ⟨others, course, goes.same, goes.holds, goes.handles, goes.stays, goes.single, ?_⟩
  rcases goes.becomes with ⟨left, free, ends⟩ | ⟨next, id, demand, orders, fits, told, endings⟩
  · exact .gone left free ends
  · exact .next next id demand orders fits told endings

lemma mem_put {α : Type} {entries : Table α} {name : String} {value : α} {entry : String × α}
    (mem : entry ∈ Table.put entries name value) : entry ∈ entries ∨ entry = (name, value) := by
  induction entries with
  | nil => exact .inr (List.mem_singleton.mp mem)
  | cons first rest ih =>
    unfold Table.put at mem
    by_cases same : first.1 = name
    · rw [if_pos same] at mem
      rcases List.mem_cons.mp mem with rfl | old
      · exact .inr rfl
      · exact .inl (List.mem_cons_of_mem _ old)
    · rw [if_neg same] at mem
      rcases List.mem_cons.mp mem with rfl | later
      · exact .inl List.mem_cons_self
      · exact (ih later).imp_left (List.mem_cons_of_mem _)

/-- A single task which is admitted is given to the crew. Then its caller keeps a handle and waits,
or is through. -/
lemma launch_single {pass : Pass G} {number : Nat} {given : Executor L G W V}
    (course : Course ⟨executor.jobs, pass :: loose, roles⟩
      ⟨given.jobs, loose, update roles number .free⟩) (near : Near order executor given)
    (alone : order.IsSingle) (only : order.tasks = [number]) (waits : roles number = .waiting) :
    (∀ ending, Proceeds order roles (pass :: loose) loose executor (given.finish order ending)) ∧
      Proceeds order roles (pass :: loose) loose executor
        (await { given with handles := Table.put given.handles order.id number } order number) := by
  have same : ∀ other, other ∉ order.tasks ∨ roles other = .free →
      update roles number .free other = roles other := by
    rintro other (apart | free)
    · refine Function.update_of_ne (fun same => apart ?_) _ _
      rw [only, same]
      exact List.mem_singleton_self _
    · refine Function.update_of_ne (fun same => ?_) _ _
      rw [same, waits] at free
      nomatch free
  have free : ∀ other ∈ order.tasks, update roles number .free other = .free := by
    intro other mem
    rw [only, List.mem_singleton] at mem
    rw [mem]
    exact Function.update_self _ _ _
  have bound : ∀ other ∈ order.tasks, update roles number .free other ≠ .leaving ∧
      update roles number .free other ≠ .inHand := by
    intro other mem
    rw [free other mem]
    exact ⟨nofun, nofun⟩
  have single : ∀ other ∈ order.tasks, (update roles number .free other).IsSingle := by
    intro other mem
    rw [free other mem]
    trivial
  constructor
  · intro ending
    have ends : Proceeds order (update roles number .free) loose loose given
        (given.finish order ending) :=
      ⟨_, .refl, .unchanged (fun other mem => (bound other mem).1) (fun _ => single) rfl rfl
        (.gone rfl (fun other mem => (bound other mem).2)
          (.inr ⟨ending, rfl, fun _ _ => .inl alone⟩))⟩
    exact ends.after_near course near same
  · obtain ⟨others, rest, goes⟩ : Proceeds order (update roles number .free) loose loose
        { given with handles := Table.put given.handles order.id number } _ :=
      await_proceeds bound alone single number
    have mine : number ∈ order.tasks := by
      rw [only]
      exact List.mem_singleton_self _
    have handles : ∀ entry ∈ (await { given with
        handles := Table.put given.handles order.id number } order number).handles,
        entry ∈ given.handles ∨ others entry.2 = .free := by
      intro entry mem
      rcases goes.handles entry mem with put | free
      · rcases mem_put put with old | rfl
        · exact .inl old
        · exact .inr ((goes.same number (.inr (free number mine))).trans (free number mine))
      · exact .inr free
    have becomes : order.Becomes others given (await { given with
        handles := Table.put given.handles order.id number } order number) := by
      rcases goes.becomes with ⟨left, free, ends⟩ | ⟨next, id, demand, orders, fits, told, endings⟩
      · exact .gone left free ends
      · exact .next next id demand orders fits told endings
    have waits : Proceeds order (update roles number .free) loose loose given _ :=
      ⟨others, rest, goes.same, goes.holds, handles, goes.stays, goes.single, becomes⟩
    exact waits.after_near course near same

lemma turnAway_proceeds (executor : Executor L G W V)
    (sound : Hall.Sound ⟨executor.jobs, loose, roles⟩)
    (distinct : order.tasks.Nodup) (waits : ∀ number ∈ order.tasks, roles number = .waiting)
    (below : ∀ number ∈ order.tasks, number < executor.jobs.tasks.length)
    {ending : Ending (Result V)}
    (refused : ∀ result, ending = .answered result → ∃ cause, result = .failed (.refused cause)) :
    Proceeds order roles loose loose executor (executor.turnAway order ending) := by
  have ends : order.Ends executor (executor.turnAway order ending) := by
    refine .inr ⟨ending, rfl, fun result answered => ?_⟩
    obtain ⟨cause, rfl⟩ := refused result answered
    exact .inr (.inr ⟨cause, rfl, List.mem_append_right _ (List.mem_singleton_self _)⟩)
  refine ⟨_, forgo_course sound distinct waits below, .reassigned (fun number mem => ?_) nofun nofun
    (fun _ => trivial) rfl rfl rfl ends⟩
  rw [waits number mem]
  nofun

section Batches

variable (sound : Hall.Sound ⟨executor.jobs, loose, roles⟩) (distinct : order.tasks.Nodup)
  (inHand : ∀ number ∈ order.tasks, roles number = .inHand)
  (attached : ∀ number ∈ order.tasks, executor.jobs.IsAttached number) (batch : ¬order.IsSingle)

include sound distinct inHand attached batch

lemma closeBatch_proceeds :
    Proceeds order roles loose loose executor (executor.closeBatch order) := by
  have closed := closeBatch_course sound distinct inHand attached executor.agenda.now
  have bound : ∀ number ∈ order.tasks, roles number ≠ .free := by
    intro number mem
    rw [inHand number mem]
    nofun
  have told : .dismissed order.tasks .done ∈
      (executor.jobs.closeBatch order.tasks executor.agenda.now).1.log :=
    List.mem_append_right _ (List.mem_singleton_self _)
  unfold closeBatch
  dsimp only
  generalize executor.jobs.closeBatch order.tasks executor.agenda.now = result at closed told ⊢
  obtain ⟨jobs, _ | fault⟩ := result
  · dsimp only at closed told ⊢
    refine Proceeds.after_near (collect_proceeds (fun number mem => ?_)
      (fun single => absurd single batch) told) closed ⟨.inl rfl, rfl, rfl, rfl⟩ ?_
    · rw [reassign_of_mem mem]
      exact ⟨nofun, nofun⟩
    · rintro number (other | free)
      · exact reassign_of_not_mem other
      · exact reassign_of_not_mem fun mem => bound number mem free
  · exact ⟨_, closed, .reassigned bound nofun nofun (fun single => absurd single batch) rfl rfl rfl
      (Order.ends_brokenDown rfl)⟩

lemma failBatch_proceeds (error : ExecutorFailure) :
    Proceeds order roles loose loose executor (executor.failBatch order error) := by
  obtain ⟨others, failed, apart, dismissed, told⟩ :=
    failBatch_course sound distinct inHand attached error executor.agenda.now
  unfold failBatch
  dsimp only
  generalize executor.jobs.failBatch order.tasks error executor.agenda.now = result at failed told ⊢
  obtain ⟨jobs, fault⟩ := result
  have ends : order.Ends executor
      (alert ((prod { executor with jobs } order.tasks).conclude order fault (.failed error))) := by
    cases fault with
    | none => exact Order.ends_answered rfl (.inr (.inl (told rfl)))
    | some fault => exact Order.ends_brokenDown rfl
  refine ⟨others, failed, .ended (fun number mem => ?_) apart (fun number mem => ?_)
    (fun single => absurd single batch) rfl rfl rfl ends⟩
  · rw [inHand number mem]
    nofun
  · obtain ⟨why, role⟩ := dismissed number mem
    rw [role]
    exact ⟨nofun, nofun⟩

lemma waitForBatch_proceeds (deadline : Option Nat) :
    Proceeds order roles loose loose executor (executor.waitForBatch order deadline) := by
  unfold waitForBatch
  dsimp only
  split
  · split
    · exact closeBatch_proceeds sound distinct inHand attached batch
    · refine ⟨roles, .refl, .unchanged (fun number mem => ?_) (fun single => absurd single batch) rfl
        rfl (.next { order with stage := .running deadline } rfl rfl rfl inHand nofun rfl)⟩
      rw [inHand number mem]
      nofun
  · split
    · exact failBatch_proceeds sound distinct inHand attached batch .interrupted
    · exact closeBatch_proceeds sound distinct inHand attached batch

lemma runBatch_proceeds (timeout : Option Nat) :
    Proceeds order roles loose loose executor (executor.runBatch order order.tasks timeout) := by
  have stays : ∀ number ∈ order.tasks, roles number ≠ .leaving := by
    intro number mem
    rw [inHand number mem]
    nofun
  unfold runBatch
  split
  · next start error kept _ =>
    obtain ⟨looked, beside⟩ := lookAll_course executor (order.tasks.take start)
      fun number mem => stays number (List.mem_of_mem_take mem)
    generalize executor.lookAll (order.tasks.take start) = result at looked beside ⊢
    obtain ⟨next, unfinished⟩ := result
    dsimp only at looked beside ⊢
    have dropped : Course ⟨next.jobs, loose, roles⟩ _ :=
      dropAll_course next.agenda.now false (order.tasks.drop start)
    have course : Course _ _ := looked.trans dropped
    have fails : ∀ crew, Proceeds order roles loose loose
        (dropJobs { next with crew := crew } (order.tasks.drop start)) _ := fun crew =>
      failBatch_proceeds (sound.course course) distinct inHand
        (fun number mem => course.attached (attached number mem)) batch error
    exact (fails _).after_beside course ⟨beside.orders, beside.handles, beside.holds, beside.endings⟩
  · obtain ⟨course, beside⟩ := giveJobs_course executor stays
    generalize executor.giveJobs order.tasks = result at course beside ⊢
    obtain ⟨next, acceptance⟩ := result
    dsimp only at course beside ⊢
    have sound_next := sound.course course
    have attached_next := fun number mem => course.attached (attached number mem)
    cases acceptance with
    | accepted =>
      have waits : ∀ agenda deadline, Proceeds order roles loose loose
          { next with agenda := agenda } _ := fun agenda =>
        waitForBatch_proceeds sound_next distinct inHand attached_next batch
      exact (waits _ _).after_beside course ⟨beside.orders, beside.handles, beside.holds, beside.endings⟩
    | rejected =>
      exact (failBatch_proceeds sound_next distinct inHand attached_next batch _).after_beside course beside
    | broken fault =>
      have let_go := letGoAll_course sound_next distinct inHand next.agenda.now true
      refine ⟨_, course.trans let_go, .reassigned (fun number mem => ?_) nofun nofun
        (fun single => absurd single batch) beside.handles beside.holds
        (congrArg (Order.without · order.id) beside.orders)
        (Order.ends_brokenDown (congrArg (· ++ [_]) beside.endings))⟩
      rw [inHand number mem]
      nofun

end Batches

lemma admitBatch_proceeds (executor : Executor L G W V) (order : Order W) {pass : Pass G}
    (sound : Hall.Sound ⟨executor.jobs, pass :: loose, roles⟩)
    (distinct : order.tasks.Nodup) (some_task : order.tasks ≠ [])
    (waits : ∀ number ∈ order.tasks, roles number = .waiting)
    (below : ∀ number ∈ order.tasks, number < executor.jobs.tasks.length)
    (attached : ∀ number ∈ order.tasks, executor.jobs.IsAttached number) (batch : ¬order.IsSingle)
    (timeout : Option Nat) :
    Proceeds order roles (pass :: loose) loose executor
      (executor.admitBatch order order.tasks timeout pass) := by
  have asked := Desk.acquireMore_deals order.ctx executor.agenda.now (order.tasks.length - 1) [pass]
    loose executor.jobs.desk
  have turned_away : ∀ {desk : Desk L} {ending : Ending (Result V)},
      (∀ result, ending = .answered result → ∃ cause, result = .failed (.refused cause)) →
      Desk.Dealings TaskLabel (executor.jobs.desk, [pass] ++ loose) (desk, loose) →
      Proceeds order roles (pass :: loose) loose executor
        (turnAway { executor with jobs := { executor.jobs with desk := desk } } order ending) := by
    intro desk ending refused deals
    have dealt : Course ⟨executor.jobs, pass :: loose, roles⟩
        ⟨{ executor.jobs with desk := desk }, loose, roles⟩ := .single (.deal deals)
    have turned := turnAway_proceeds { executor with jobs := { executor.jobs with desk := desk } }
      (sound.course dealt) distinct waits below refused
    exact turned.after_near dealt ⟨.inl rfl, rfl, rfl, rfl⟩ fun _ _ => rfl
  unfold admitBatch
  dsimp only
  generalize executor.jobs.desk.acquireMore order.ctx executor.agenda.now [pass]
    (order.tasks.length - 1) = result at asked ⊢
  obtain ⟨desk, fault | _ | passes⟩ := result
  · obtain ⟨_, wrong, -⟩ | ⟨-, deals⟩ := asked
    · nomatch wrong
    · exact turned_away nofun deals
  · obtain ⟨_, wrong, -⟩ | ⟨-, deals⟩ := asked
    · nomatch wrong
    · exact turned_away (by rintro _ ⟨⟩; exact ⟨_, rfl⟩) deals
  · obtain ⟨_, same, length, deals⟩ | ⟨wrong, -⟩ := asked
    swap
    · exact absurd rfl (wrong passes)
    obtain rfl := Option.some.inj (Except.ok.inj same)
    have dealt : Course ⟨executor.jobs, pass :: loose, roles⟩
        ⟨{ executor.jobs with desk := desk }, passes ++ loose, roles⟩ := .single (.deal deals)
    have enough : order.tasks.length = passes.length := by
      have positive := List.length_pos_iff.mpr some_task
      rw [length, List.length_singleton]
      omega
    have handed : Course _ _ := dealt.trans (handOver_course enough distinct waits below)
    have inHand : ∀ number ∈ order.tasks, reassign roles order.tasks .inHand number = .inHand :=
      reassign_all _
    have runs : Proceeds order (reassign roles order.tasks .inHand) loose loose (handOver
        { executor with jobs := { executor.jobs with desk := desk } } order.tasks passes) _ :=
      runBatch_proceeds (sound.course handed) distinct inHand
        (fun number mem => handed.attached (attached number mem)) batch timeout
    refine runs.after_near handed ⟨.inl rfl, rfl, rfl, rfl⟩ ?_
    rintro number (other | free)
    · exact reassign_of_not_mem other
    · refine reassign_of_not_mem fun mem => ?_
      rw [waits number mem] at free
      nomatch free

lemma launch_proceeds {pass : Pass G} (sound : Hall.Sound ⟨executor.jobs, pass :: loose, roles⟩)
    (distinct : order.tasks.Nodup) (some_task : order.tasks ≠ [])
    (waits : ∀ number ∈ order.tasks, roles number = .waiting)
    (below : ∀ number ∈ order.tasks, number < executor.jobs.tasks.length)
    (attached : ¬order.IsSingle → ∀ number ∈ order.tasks, executor.jobs.IsAttached number) :
    Proceeds order roles (pass :: loose) loose executor (executor.launch order pass) := by
  obtain ⟨id, ctx, demand, stage⟩ := order
  unfold launch
  dsimp only
  generalize executor.agenda.clearAlarms (.caller id) = agenda
  have put_back : ∀ {after}, Proceeds ⟨id, ctx, demand, .new⟩ roles (pass :: loose) loose
      (keep { executor with agenda := agenda } ⟨id, ctx, demand, .new⟩) after →
      Proceeds ⟨id, ctx, demand, stage⟩ roles (pass :: loose) loose executor after :=
    fun {_} proceeds => Proceeds.put_back proceeds
  -- Either single order gives its one task to the crew.
  have single : ∀ number, Order.IsSingle ⟨id, ctx, demand, stage⟩ →
      Order.tasks ⟨id, ctx, demand, stage⟩ = [number] → ∀ given,
        (keep { executor with agenda := agenda } ⟨id, ctx, demand, .new⟩).giveOne number pass = given →
      (∀ ending, Proceeds ⟨id, ctx, demand, stage⟩ roles (pass :: loose) loose executor
        (given.1.finish ⟨id, ctx, demand, .new⟩ ending)) ∧
      Proceeds ⟨id, ctx, demand, stage⟩ roles (pass :: loose) loose executor
        (await { given.1 with handles := Table.put given.1.handles id number }
          ⟨id, ctx, demand, .new⟩ number) := by
    rintro number alone only _ rfl
    have mine : number ∈ Order.tasks ⟨id, ctx, demand, stage⟩ := by
      rw [only]
      exact List.mem_singleton_self _
    obtain ⟨course, beside⟩ := giveOne_course
      (keep { executor with agenda := agenda } ⟨id, ctx, demand, .new⟩) sound
      (waits number mine) (below number mine)
    obtain ⟨finishes, awaits⟩ := launch_single course (beside.near ⟨id, ctx, demand, .new⟩) alone
      only (waits number mine)
    exact ⟨fun ending => put_back (finishes ending), put_back awaits⟩
  cases demand with
  | batch tasks timeout =>
    exact put_back (admitBatch_proceeds
      (keep { executor with agenda := agenda } ⟨id, ctx, .batch tasks timeout, .new⟩)
      ⟨id, ctx, .batch tasks timeout, .new⟩ sound distinct some_task waits below
      (attached fun single => single _ _ rfl)
      (fun single => single _ _ rfl) timeout)
  | submit number =>
    obtain ⟨finishes, awaits⟩ := single number nofun rfl _ rfl
    dsimp only
    generalize giveOne (_ : Executor L G W V) number pass = given at finishes awaits ⊢
    obtain ⟨given, _ | _ | fault⟩ := given
    · exact awaits
    · exact finishes _
    · exact finishes _
  | execute number =>
    obtain ⟨finishes, -⟩ := single number nofun rfl _ rfl
    dsimp only
    generalize giveOne (_ : Executor L G W V) number pass = given at finishes ⊢
    obtain ⟨given, _ | _ | fault⟩ := given <;> exact finishes _

lemma proceed_proceeds {desk : Desk L} {seen : Except Fault (Progress (Pass G) W)}
    (sound : Hall.Sound ⟨executor.jobs, loose, roles⟩)
    (dealings : Desk.Dealings TaskLabel (executor.jobs.desk, loose) (desk, Desk.passOf seen ++ loose))
    (distinct : order.tasks.Nodup) (some_task : order.tasks ≠ [])
    (waits : ∀ number ∈ order.tasks, roles number = .waiting)
    (below : ∀ number ∈ order.tasks, number < executor.jobs.tasks.length)
    (attached : ¬order.IsSingle → ∀ number ∈ order.tasks, executor.jobs.IsAttached number) :
    Proceeds order roles loose loose executor (executor.proceed order (desk, seen)) := by
  have dealt : Course ⟨executor.jobs, loose, roles⟩
      ⟨{ executor.jobs with desk := desk }, Desk.passOf seen ++ loose, roles⟩ :=
    .single (.deal dealings)
  have sound_dealt := sound.course dealt
  have near : Near order executor { executor with jobs := { executor.jobs with desk := desk } } :=
    ⟨.inl rfl, rfl, rfl, rfl⟩
  unfold proceed
  dsimp only
  have turned_away : ∀ {ending : Ending (Result V)},
      (∀ result, ending = .answered result → ∃ cause, result = .failed (.refused cause)) →
      Desk.passOf seen = [] → Proceeds order roles loose loose executor
        (turnAway { executor with jobs := { executor.jobs with desk := desk } } order ending) := by
    intro ending refused nothing
    rw [nothing] at dealt sound_dealt
    have turned := turnAway_proceeds { executor with jobs := { executor.jobs with desk := desk } }
      sound_dealt distinct waits below refused
    exact turned.after_near dealt near fun _ _ => rfl
  rcases seen with fault | pass | cause | place
  · exact turned_away nofun rfl
  · have launched : Proceeds order roles (pass :: loose) loose
        { executor with jobs := { executor.jobs with desk := desk } } _ :=
      launch_proceeds sound_dealt distinct some_task waits below attached
    exact launched.after_near dealt near fun _ _ => rfl
  · exact turned_away (by rintro _ ⟨⟩; exact ⟨cause, rfl⟩) rfl
  · refine ⟨roles, dealt, .unchanged (fun number mem => ?_) (fun _ number mem => ?_) rfl rfl
      (.next { order with stage := .asking place } rfl rfl rfl ⟨some_task, waits⟩ nofun rfl)⟩
    · rw [waits number mem]
      nofun
    · rw [waits number mem]
      trivial

lemma ask_proceeds (sound : Hall.Sound ⟨executor.jobs, loose, roles⟩)
    (distinct : order.tasks.Nodup) (waits : ∀ number ∈ order.tasks, roles number = .waiting)
    (below : ∀ number ∈ order.tasks, number < executor.jobs.tasks.length)
    (attached : ¬order.IsSingle → ∀ number ∈ order.tasks, executor.jobs.IsAttached number) :
    Proceeds order roles loose loose executor (executor.ask order) := by
  have asks : ∀ agenda, order.tasks ≠ [] → Proceeds order roles loose loose executor
      (proceed { executor with agenda := agenda } order
        (executor.jobs.desk.acquire order.ctx executor.agenda.now)) := by
    intro agenda some_task
    have proceeds : Proceeds order roles loose loose { executor with agenda := agenda } _ :=
      proceed_proceeds sound (Desk.handle_deals executor.jobs.desk executor.agenda.now
        (.acquire executor.jobs.desk.limiter order.ctx executor.agenda.now) loose)
      distinct some_task waits below attached
    exact proceeds.after_near .refl ⟨.inl rfl, rfl, rfl, rfl⟩ fun _ _ => rfl
  obtain ⟨id, ctx, demand, stage⟩ := order
  cases demand with
  | submit number => exact asks _ (List.cons_ne_nil _ _)
  | execute number => exact asks _ (List.cons_ne_nil _ _)
  | batch tasks timeout =>
    cases tasks with
    | nil => exact runBatch_proceeds sound distinct nofun nofun (fun single => single _ _ rfl) timeout
    | cons number rest => exact asks _ (List.cons_ne_nil _ _)

/-- Whatever an order has got to, it goes on from there. -/
theorem goOnWith_proceeds {batches : Prop} (sound : Hall.Sound ⟨executor.jobs, loose, roles⟩)
    (arranged : Arranged batches roles executor) (mem : order ∈ executor.orders) :
    Proceeds order roles loose loose executor (executor.goOnWith order) := by
  have distinct := arranged.distinct order mem
  have below := arranged.below order mem
  have fits := arranged.fits order mem
  have single := arranged.single order mem
  have attached := arranged.attached order mem
  have through : (∀ number ∈ order.tasks, roles number ≠ .inHand) →
      ∀ number ∈ order.tasks, roles number ≠ .leaving ∧ roles number ≠ .inHand :=
    fun free number mem => ⟨arranged.stays number, free number mem⟩
  unfold goOnWith
  unfold Order.Fits at fits
  cases stage : order.stage with
  | new =>
    simp only [stage] at fits ⊢
    exact ask_proceeds sound distinct fits below attached
  | asking place =>
    simp only [stage] at fits ⊢
    exact proceed_proceeds sound (Desk.handle_deals executor.jobs.desk executor.agenda.now
      (.poll executor.jobs.desk.limiter order.ctx place executor.agenda.now) loose)
      distinct fits.1 fits.2 below attached
  | awaiting number =>
    simp only [stage] at fits ⊢
    exact await_proceeds (through fits.2) fits.1 (single fits.1) number
  | running deadline =>
    simp only [stage] at fits ⊢
    have batch := arranged.isBatch_of_inHand mem fits
    exact waitForBatch_proceeds sound distinct fits (attached batch) batch deadline
  | collecting =>
    simp only [stage] at fits ⊢
    exact collect_proceeds (through fits) single (arranged.told order mem stage)

/-- Whoever drops an order gives up what it has not got yet. -/
theorem dropOrder_proceeds {batches : Prop} (sound : Hall.Sound ⟨executor.jobs, loose, roles⟩)
    (arranged : Arranged batches roles executor) (mem : order ∈ executor.orders) :
    Proceeds order roles loose loose executor (executor.dropOrder order).1 := by
  have distinct := arranged.distinct order mem
  have below := arranged.below order mem
  have fits := arranged.fits order mem
  have single := arranged.single order mem
  have left : ∀ {next : Executor L G W V} {role : Role},
      Course ⟨executor.jobs, loose, roles⟩ ⟨next.jobs, loose, reassign roles order.tasks role⟩ →
      (∀ number ∈ order.tasks, roles number ≠ .free) → role ≠ .leaving → role ≠ .inHand →
      (order.IsSingle → role.IsSingle) → next.handles = executor.handles →
      next.holds = executor.holds → next.orders = Order.without executor.orders order.id →
      next.endings = executor.endings → Proceeds order roles loose loose executor next :=
    fun course bound stays free single handles holds orders endings =>
      ⟨_, course, .reassigned bound stays free single handles holds orders (.inl endings)⟩
  have forgone := fun waits => forgo_course sound distinct waits below
  unfold dropOrder
  dsimp only
  unfold Order.Fits at fits
  cases stage : order.stage with
  | new =>
    simp only [stage] at fits ⊢
    refine left (forgone fits) (fun number mem => ?_) nofun nofun (fun _ => trivial) rfl rfl rfl rfl
    rw [fits number mem]
    nofun
  | asking place =>
    simp only [stage] at fits ⊢
    refine left ((forgone fits.2).tail (.deal (.single (.answer (.abandon _ place))))) (fun number mem => ?_) nofun
      nofun (fun _ => trivial) rfl rfl rfl rfl
    rw [fits.2 number mem]
    nofun
  | running deadline =>
    simp only [stage] at fits ⊢
    have let_go := letGoAll_course sound distinct fits executor.agenda.now false
    refine left let_go (fun number mem => ?_) nofun nofun (fun _ => trivial) rfl rfl rfl rfl
    rw [fits number mem]
    nofun
  | awaiting number =>
    simp only [stage] at fits ⊢
    exact ⟨roles, .refl, .unchanged (fun number _ => arranged.stays number) single rfl rfl
      (.gone rfl fits.2 (.inl rfl))⟩
  | collecting =>
    simp only [stage] at fits ⊢
    exact ⟨roles, .refl, .unchanged (fun number _ => arranged.stays number) single rfl rfl
      (.gone rfl fits (.inl rfl))⟩

end Orders

end Admission.Executor

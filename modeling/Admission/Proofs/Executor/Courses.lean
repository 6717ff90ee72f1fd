import Admission.Proofs.Executor.Halls

/-!
# What is done about tasks, step by step

Whatever an executor does about its tasks is a course of steps in the hall: to look at a job, to
throw it away, to let go of it, to abort tasks, and to end a batch.
-/

namespace Admission.Executor

open Function (update)

variable {L V G W : Type}

/-- Some tasks get another role. -/
def reassign (roles : Nat → Role) (tasks : List Nat) (role : Role) (number : Nat) : Role :=
  if number ∈ tasks then role else roles number

section Roles

variable {roles : Nat → Role} {role : Role} {number : Nat}

@[simp] lemma reassign_nil (roles : Nat → Role) (role : Role) : reassign roles [] role = roles := by
  funext number
  simp [reassign]

lemma reassign_of_mem {tasks : List Nat} (mem : number ∈ tasks) :
    reassign roles tasks role number = role := if_pos mem

lemma reassign_of_not_mem {tasks : List Nat} (other : number ∉ tasks) :
    reassign roles tasks role number = roles number := if_neg other

lemma reassign_update (roles : Nat → Role) (number : Nat) (rest : List Nat) (role : Role) :
    reassign (update roles number role) rest role = reassign roles (number :: rest) role := by
  funext other
  by_cases mem : other ∈ rest
  · simp [reassign, mem]
  · by_cases same : other = number <;> simp [reassign, mem, same]

lemma reassign_reassign (roles : Nat → Role) (tasks : List Nat) (first second : Role) :
    reassign (reassign roles tasks first) tasks second = reassign roles tasks second := by
  funext other
  by_cases mem : other ∈ tasks <;> simp [reassign, mem]

end Roles

namespace Jobs

variable {jobs : Jobs L V G} {number : Nat} {task : Task V G}

lemma update_eq (known : jobs.tasks[number]? = some task) (change : Task V G → Task V G) :
    jobs.update number change =
      ⟨jobs.desk, jobs.tasks.set number (change task), jobs.log⟩ := by
  have tasks : jobs.tasks.modify number change = jobs.tasks.set number (change task) := by
    rw [List.modify_eq_set_getElem?, known]
    rfl
  rw [update, tasks]

lemma update_of_unknown (unknown : jobs.tasks[number]? = none) (change : Task V G → Task V G) :
    jobs.update number change = jobs := by
  have tasks : jobs.tasks.modify number change = jobs.tasks := by
    rw [List.modify_eq_set_getElem?, unknown]
    rfl
  rw [update, tasks]

lemma getElem?_set_known (known : jobs.tasks[number]? = some task) (next : Task V G) :
    (jobs.tasks.set number next)[number]? = some next :=
  List.getElem?_set_self (List.getElem?_eq_some_iff.mp known).1

lemma known_of_set (jobs : Jobs L V G) (desk : Desk L) (log : List (Entry V))
    (known : jobs.tasks[number]? = some task) (next : Task V G) :
    (⟨desk, jobs.tasks.set number next, log⟩ : Jobs L V G).tasks[number]? = some next :=
  getElem?_set_known known next

lemma set_known (known : jobs.tasks[number]? = some task) : jobs.tasks.set number task = jobs.tasks := by
  obtain ⟨below, rfl⟩ := List.getElem?_eq_some_iff.mp known
  exact List.set_getElem_self below

lemma known_of_lt (below : number < jobs.tasks.length) : ∃ task, jobs.tasks[number]? = some task :=
  ⟨_, List.getElem?_eq_getElem below⟩

variable [Limiter TaskLabel L G W]

/-- Whether or not the pass is still there, it is used up then, and if it was there, there is a report
on it. -/
lemma resolve_eq (known : jobs.tasks[number]? = some task) (outcome : Outcome) (now : Nat)
    (cleaning : Bool) :
    ∃ desk fault, jobs.resolve number outcome now cleaning =
        (⟨desk, jobs.tasks.set number { task with pass := none }, jobs.log⟩, fault) ∧
      Desk.Hears TaskLabel jobs.desk task.pass (task.reported outcome fault) desk ∧
      (task.pass = none → fault = none) := by
  unfold resolve
  rw [known, Option.bind_some]
  cases has : task.pass with
  | none =>
    have same : { task with pass := none } = task := by rw [← has]
    have silent : task.reported outcome none = [] := by simp [Task.reported, has]
    refine ⟨jobs.desk, none, ?_, silent ▸ .nothing, fun _ => rfl⟩
    rw [same, set_known known]
  | some pass =>
    have told : ∀ fault, task.reported outcome fault = [⟨pass.number, outcome, fault⟩] := by
      simp [Task.reported, has]
    refine ⟨(jobs.desk.resolve TaskLabel pass outcome now cleaning).1,
      (jobs.desk.resolve TaskLabel pass outcome now cleaning).2, ?_, ?_, by simp⟩
    · have still : (⟨(jobs.desk.resolve TaskLabel pass outcome now cleaning).1, jobs.tasks,
          jobs.log⟩ : Jobs L V G).tasks[number]? = some task := known
      exact Prod.ext (update_eq still fun task => { task with pass := none }) rfl
    · rw [told]
      exact .report rfl outcome now cleaning

lemma finish_eq (known : jobs.tasks[number]? = some task) (outcome : Outcome)
    (result : HandleResult V) (now : Nat) :
    ∃ desk fault, jobs.finish number outcome result now =
        (⟨desk, jobs.tasks.set number (Task.conclude ({ task with pass := none } : Task V G)
          (if fault.isNone then some result else none)), jobs.log⟩, fault) ∧
      Desk.Hears TaskLabel jobs.desk task.pass (task.reported outcome fault) desk ∧
      (task.pass = none → fault = none) := by
  obtain ⟨desk, fault, resolved, hears, heard⟩ := resolve_eq known outcome now false
  refine ⟨desk, fault, ?_, hears, heard⟩
  unfold finish
  rw [resolved]
  cases fault with
  | none =>
    dsimp only
    rw [update_eq (getElem?_set_known known _)]
    simp only [List.set_set]
    rfl
  | some fault =>
    dsimp only
    rw [update_eq (getElem?_set_known known _)]
    simp only [List.set_set]
    rfl

end Jobs

section Courses

variable [Limiter TaskLabel L G W] {jobs : Jobs L V G} {loose : List (Pass G)}
  {roles : Nat → Role} {number : Nat} {task : Task V G}

lemma Step.same_role {task' : Task V G} {entries : List (Entry V)} {reports : List Settlement}
    {desk : Desk L} (known : jobs.tasks[number]? = some task)
    (turn : Turn number (roles number) task entries reports (roles number) task')
    (hears : Desk.Hears TaskLabel jobs.desk task.pass reports desk) :
    Step ⟨jobs, loose, roles⟩
      ⟨⟨desk, jobs.tasks.set number task', jobs.log ++ entries⟩, loose, roles⟩ := by
  have step : Step ⟨jobs, loose, roles⟩ _ := .turn known turn hears
  rwa [Function.update_eq_self] at step

lemma Hall.Sound.below (sound : Hall.Sound ⟨jobs, loose, roles⟩) {role : Role}
    (same : roles number = role) (active : role ≠ .waiting) : number < jobs.tasks.length := by
  rcases Nat.lt_or_ge number jobs.tasks.length with below | above
  · exact below
  · exact absurd (same.symm.trans (sound.beyond number above).1) active

lemma Step.of_role {first second : Role} (role : roles number = first) {task' : Task V G}
    {entries : List (Entry V)} {reports : List Settlement} {desk : Desk L}
    (known : jobs.tasks[number]? = some task)
    (turn : Turn number first task entries reports second task')
    (hears : Desk.Hears TaskLabel jobs.desk task.pass reports desk) :
    Step ⟨jobs, loose, roles⟩
      ⟨⟨desk, jobs.tasks.set number task', jobs.log ++ entries⟩, loose,
        update roles number second⟩ := by
  subst role
  exact .turn known turn hears

lemma finish_step (stays : roles number ≠ .leaving)
    (known : jobs.tasks[number]? = some task) (job : task.hasJob = true) {fate : Fate V}
    {closing : List (Entry V)} {result : HandleResult V} {outcome : Outcome}
    (work : Option (Work V V)) (closes : fate.Closes number closing)
    (running : fate.IsFinished ∧ task.aborted = false ∨ fate = .cancelled ∧ task.aborted = true)
    (shown : fate.shown = some result) (told : fate.outcome task.detached true = outcome)
    (now : Nat) :
    Step ⟨jobs, loose, roles⟩
      ⟨(Jobs.finish ⟨jobs.desk,
          jobs.tasks.set number ({ task with started := true, work := work } : Task V G),
          jobs.log ++ closing⟩ number outcome result now).1, loose, roles⟩ := by
  obtain ⟨desk, fault, finished, hears, heard⟩ := Jobs.finish_eq
    (jobs.known_of_set jobs.desk (jobs.log ++ closing) known
      { task with started := true, work := work }) outcome result now
  have step : Step ⟨jobs, loose, roles⟩ _ := 
    .same_role known (.finish work stays job closes running heard) (told ▸ hears)
  rw [finished]
  simpa only [List.set_set, shown] using step

/-- Whoever has the job of a task may look at it. -/
theorem look_course (stays : roles number ≠ .leaving) (now : Nat) :
    Course ⟨jobs, loose, roles⟩ ⟨(jobs.look number now).1, loose, roles⟩ := by
  unfold Jobs.look
  cases known : jobs.tasks[number]? with
  | none => exact .refl
  | some task =>
    cases job : task.hasJob with
    | false =>
      rw [Option.filter_some_neg job]
    | true =>
      rw [Option.filter_some_pos job]
      dsimp only
      rw [Jobs.update_eq known]
      by_cases aborted : task.aborted = true
      · rw [if_pos aborted]
        exact .single (finish_step stays known job task.work .cancelled
          (.inr ⟨rfl, aborted⟩) rfl rfl now)
      · rw [if_neg aborted, Jobs.update_eq (Jobs.getElem?_set_known known _)]
        have running : task.aborted = false := Bool.eq_false_iff.mpr aborted
        simp only [List.set_set]
        cases (task.work.getD (Work.begin task.plan now)).look now task.mail with
        | pending =>
          exact .single (Step.same_role known (.look job running) .nothing)
        | ready result =>
          exact .single (finish_step stays known job _ (.completed _ result)
            (.inl ⟨trivial, running⟩) rfl (by cases result <;> rfl) now)
        | brokenDown text =>
          exact .single (finish_step stays known job _ (.brokenDown _ text)
            (.inl ⟨trivial, running⟩) rfl rfl now)

/-- Whoever has the job of a task may throw it away. -/
theorem drop_course (now : Nat) (cleaning : Bool) (number : Nat) :
    Course ⟨jobs, loose, roles⟩ ⟨(jobs.drop now cleaning number).1, loose, roles⟩ := by
  unfold Jobs.drop
  cases known : jobs.tasks[number]? with
  | none => exact .refl
  | some task =>
    cases job : task.hasJob with
    | false => rw [Option.filter_some_neg job]
    | true =>
      rw [Option.filter_some_pos job]
      dsimp only
      by_cases held : task.held = true
      · rw [if_pos held]
        dsimp only
        rw [Jobs.update_eq known]
        have step : Step ⟨jobs, loose, roles⟩ _ := .same_role known (.leave job held)
          .nothing
        rw [List.append_nil] at step
        exact .single step
      · rw [if_neg held]
        obtain ⟨desk, fault, resolved, hears, -⟩ := Jobs.resolve_eq known task.discarded now cleaning
        rw [resolved]
        dsimp only
        rw [Jobs.update_eq (Jobs.getElem?_set_known known _)]
        have step : Step ⟨jobs, loose, roles⟩ _ := .same_role known
          (.drop job (Bool.eq_false_iff.mpr held)) hears
        rw [List.append_nil] at step
        simpa only [List.set_set] using Relation.ReflTransGen.single step

/-- The caller lets go of a task which is in hand, or which is leaving. -/
theorem letGo_course {first second : Role} (sound : Hall.Sound ⟨jobs, loose, roles⟩)
    (role : roles number = first) (letsGo : LetsGo first second) (now : Nat) (cleaning : Bool) :
    Course ⟨jobs, loose, roles⟩
      ⟨(jobs.letGo now cleaning number).1, loose, update roles number second⟩ := by
  have active : first ≠ .waiting := by cases letsGo <;> nofun
  obtain ⟨task, known⟩ := Jobs.known_of_lt (sound.below role active)
  unfold Jobs.letGo
  rw [known]
  dsimp only
  rw [Jobs.update_eq known]
  by_cases job : task.hasJob = true
  · rw [if_pos job]
    have step : Step ⟨jobs, loose, roles⟩ _ := .of_role role known (.letGo letsGo job)
      .nothing
    rw [List.append_nil] at step
    exact .single step
  · rw [if_neg job]
    obtain ⟨desk, fault, resolved, hears, -⟩ := Jobs.resolve_eq
      (jobs.known_of_set jobs.desk jobs.log known { task with held := false }) task.discarded now
      cleaning
    rw [resolved]
    have step : Step ⟨jobs, loose, roles⟩ _ := .of_role role known
      (.letGoLost letsGo (Bool.eq_false_iff.mpr job)) hears
    rw [List.append_nil] at step
    simpa only [List.set_set] using Relation.ReflTransGen.single step

/-- The executor did not take the job of a single task. -/
theorem refuse_course (inHand : roles number = .inHand)
    (known : jobs.tasks[number]? = some task) (job : task.hasJob = false)
    (unseen : task.started = false) (now : Nat) :
    Course ⟨jobs, loose, roles⟩
      ⟨(jobs.resolve number .dropped now false).1, loose, update roles number .free⟩ := by
  obtain ⟨desk, fault, resolved, hears, -⟩ := Jobs.resolve_eq known .dropped now false
  have step : Step ⟨jobs, loose, roles⟩ _ := .of_role inHand known (.refuse job unseen) hears
  rw [List.append_nil] at step
  rw [resolved]
  exact .single step

lemma update_course {first second : Role} {change : Task V G → Task V G}
    (role : roles number = first) (below : number < jobs.tasks.length)
    (turn : ∀ task, jobs.tasks[number]? = some task →
      Turn number first task [] [] second (change task)) :
    Course ⟨jobs, loose, roles⟩
      ⟨jobs.update number change, loose, update roles number second⟩ := by
  have known := List.getElem?_eq_getElem below
  have step : Step ⟨jobs, loose, roles⟩ _ := .of_role role known (turn _ known)
    .nothing
  rw [List.append_nil] at step
  rw [Jobs.update_eq known]
  exact .single step

lemma minor_course (change : Task V G → Task V G) (alike : ∀ task, Task.Alike task (change task))
    (aborted : ∀ task, (change task).aborted = task.aborted) (number : Nat) :
    Course ⟨jobs, loose, roles⟩ ⟨jobs.update number change, loose, roles⟩ := by
  rcases Nat.lt_or_ge number jobs.tasks.length with below | above
  · have course : Course ⟨jobs, loose, roles⟩ _ := update_course rfl below
      fun task _ => .minor (alike task) (aborted task)
    rwa [Function.update_eq_self] at course
  · rw [Jobs.update_of_unknown (List.getElem?_eq_none above)]

/-- A task is aborted through its handle. -/
theorem abort_course (sound : Hall.Sound ⟨jobs, loose, roles⟩) (free : roles number = .free) :
    Course ⟨jobs, loose, roles⟩ ⟨jobs.abort number, loose, roles⟩ := by
  have course : Course ⟨jobs, loose, roles⟩ ⟨jobs.abort number, loose, update roles number .free⟩ :=
    update_course free (sound.below free nofun) fun _ _ => .abort
  rwa [← free, Function.update_eq_self] at course

section Batches

variable {tasks : List Nat}

lemma foldl_course {act : Jobs L V G → Nat → Jobs L V G} {first second : Role}
    (each : ∀ (next : Jobs L V G) (others : Nat → Role), ∀ number ∈ tasks,
      Course ⟨jobs, loose, roles⟩ ⟨next, loose, others⟩ → Hall.Sound ⟨next, loose, others⟩ →
      others number = first → number < next.tasks.length →
      Course ⟨next, loose, others⟩ ⟨act next number, loose, update others number second⟩)
    (sound : Hall.Sound ⟨jobs, loose, roles⟩) (distinct : tasks.Nodup)
    (all : ∀ number ∈ tasks, roles number = first)
    (below : ∀ number ∈ tasks, number < jobs.tasks.length) :
    Course ⟨jobs, loose, roles⟩ ⟨tasks.foldl act jobs, loose, reassign roles tasks second⟩ := by
  induction tasks generalizing jobs roles with
  | nil =>
    rw [reassign_nil]
    exact .refl
  | cons number rest ih =>
    obtain ⟨new, distinct⟩ := List.nodup_cons.mp distinct
    obtain ⟨first_role, rest_roles⟩ := List.forall_mem_cons.mp all
    obtain ⟨first_below, rest_below⟩ := List.forall_mem_cons.mp below
    have course := each jobs roles number List.mem_cons_self .refl sound first_role first_below
    have others : ∀ other ∈ rest, update roles number second other = first := by
      intro other mem
      rw [Function.update_of_ne (ne_of_mem_of_not_mem mem new)]
      exact rest_roles other mem
    have rest_course := ih (fun next others other mem later =>
      each next others other (List.mem_cons_of_mem _ mem) (course.trans later)) (sound.course course) distinct others
      fun other mem => (rest_below other mem).trans_le course.length_le
    rw [reassign_update] at rest_course
    exact course.trans rest_course

lemma forEach_cons (act : Bool → Jobs L V G → Nat → Jobs L V G × Option Fault) (cleaning : Bool)
    (jobs : Jobs L V G) (number : Nat) (rest : List Nat) :
    ∃ later, (jobs.forEach act cleaning (number :: rest)).1 =
        ((act cleaning jobs number).1.forEach act later rest).1 ∧
      ((jobs.forEach act cleaning (number :: rest)).2 = none →
        later = cleaning ∧ ((act cleaning jobs number).1.forEach act cleaning rest).2 = none) := by
  refine ⟨cleaning || (act cleaning jobs number).2.isSome, rfl, fun fine => ?_⟩
  obtain ⟨first, later⟩ := Option.or_eq_none_iff.mp fine
  have here : (cleaning || (act cleaning jobs number).2.isSome) = cleaning := by
    rw [Option.map_eq_none_iff.mp first, Option.isSome_none, Bool.or_false]
  refine ⟨here, ?_⟩
  rwa [here] at later

/-- Something is done about each of some tasks, which gives them other roles; which ones may depend
on whether there was a fault before. -/
lemma forEach_course {act : Bool → Jobs L V G → Nat → Jobs L V G × Option Fault} {first : Role}
    (second : Bool → Role) (cleaning : Bool)
    (each : ∀ (cleaning : Bool) (jobs : Jobs L V G) (roles : Nat → Role) (number : Nat),
      Hall.Sound ⟨jobs, loose, roles⟩ → roles number = first → number < jobs.tasks.length →
      Course ⟨jobs, loose, roles⟩
        ⟨(act cleaning jobs number).1, loose, update roles number (second cleaning)⟩)
    (sound : Hall.Sound ⟨jobs, loose, roles⟩) (distinct : tasks.Nodup)
    (all : ∀ number ∈ tasks, roles number = first)
    (below : ∀ number ∈ tasks, number < jobs.tasks.length) :
    ∃ others, Course ⟨jobs, loose, roles⟩ ⟨(jobs.forEach act cleaning tasks).1, loose, others⟩ ∧
      (∀ number ∉ tasks, others number = roles number) ∧
      (∀ number ∈ tasks, ∃ cleaning, others number = second cleaning) ∧
      ((jobs.forEach act cleaning tasks).2 = none →
        others = reassign roles tasks (second cleaning)) := by
  induction tasks generalizing jobs roles cleaning with
  | nil => exact ⟨roles, .refl, fun _ _ => rfl, nofun, fun _ => (reassign_nil _ _).symm⟩
  | cons number rest ih =>
    obtain ⟨new, distinct⟩ := List.nodup_cons.mp distinct
    obtain ⟨first_role, rest_roles⟩ := List.forall_mem_cons.mp all
    obtain ⟨first_below, rest_below⟩ := List.forall_mem_cons.mp below
    have course := each cleaning jobs roles number sound first_role first_below
    have unchanged : ∀ other ∈ rest, update roles number (second cleaning) other = first := by
      intro other mem
      rw [Function.update_of_ne (ne_of_mem_of_not_mem mem new)]
      exact rest_roles other mem
    obtain ⟨later, same, fine⟩ := forEach_cons act cleaning jobs number rest
    obtain ⟨others, rest_course, apart, told, settled⟩ :=
      ih later (sound.course course) distinct unchanged
        fun other mem => (rest_below other mem).trans_le course.length_le
    refine ⟨others, ?_, fun other apart_all => ?_, fun other mem => ?_, fun none => ?_⟩
    · rw [same]
      exact course.trans rest_course
    · obtain ⟨ne, apart_rest⟩ := not_or.mp (mt List.mem_cons.mpr apart_all)
      rw [apart other apart_rest, Function.update_of_ne ne]
    · rcases List.mem_cons.mp mem with rfl | mem
      · exact ⟨cleaning, (apart other new).trans (Function.update_self _ _ _)⟩
      · exact told other mem
    · obtain ⟨rfl, rest_fine⟩ := fine none
      rw [settled rest_fine, reassign_update]

/-- Something is done about each of some tasks, which gives them another role. -/
lemma forEach_course_same {act : Bool → Jobs L V G → Nat → Jobs L V G × Option Fault}
    {first second : Role} (cleaning : Bool)
    (each : ∀ (cleaning : Bool) (jobs : Jobs L V G) (roles : Nat → Role) (number : Nat),
      Hall.Sound ⟨jobs, loose, roles⟩ → roles number = first → number < jobs.tasks.length →
      Course ⟨jobs, loose, roles⟩
        ⟨(act cleaning jobs number).1, loose, update roles number second⟩)
    (sound : Hall.Sound ⟨jobs, loose, roles⟩) (distinct : tasks.Nodup)
    (all : ∀ number ∈ tasks, roles number = first)
    (below : ∀ number ∈ tasks, number < jobs.tasks.length) :
    Course ⟨jobs, loose, roles⟩
      ⟨(jobs.forEach act cleaning tasks).1, loose, reassign roles tasks second⟩ := by
  obtain ⟨others, course, apart, told, -⟩ := forEach_course (fun _ => second)
    cleaning each sound distinct all below
  have same : others = reassign roles tasks second := by
    funext number
    by_cases mem : number ∈ tasks
    · obtain ⟨_, role⟩ := told number mem
      rw [role, reassign_of_mem mem]
    · rw [apart number mem, reassign_of_not_mem mem]
  rwa [← same]

lemma dropAll_course (now : Nat) (cleaning : Bool) (tasks : List Nat) :
    Course ⟨jobs, loose, roles⟩ ⟨(jobs.forEach (Jobs.drop now) cleaning tasks).1, loose, roles⟩ := by
  induction tasks generalizing jobs cleaning with
  | nil => exact .refl
  | cons number rest ih =>
    obtain ⟨later, same, -⟩ := forEach_cons (Jobs.drop now) cleaning jobs number rest
    rw [same]
    exact (drop_course now cleaning number).trans (ih later)

lemma Hall.Sound.all_below (sound : Hall.Sound ⟨jobs, loose, roles⟩) {role : Role}
    (all : ∀ number ∈ tasks, roles number = role) (active : role ≠ .waiting) :
    ∀ number ∈ tasks, number < jobs.tasks.length :=
  fun number mem => sound.below (all number mem) active

lemma reassign_all (role : Role) : ∀ number ∈ tasks, reassign roles tasks role number = role :=
  fun _ mem => reassign_of_mem mem

lemma note_step {why : Dismissal} :
    Step ⟨jobs, loose, reassign roles tasks (.dismissed why)⟩
      ⟨jobs.note (.dismissed tasks why), loose, reassign roles tasks (.dismissed why)⟩ :=
  .dismiss (reassign_all _)

/-- The caller lets go of the tasks of a batch which goes on, or broke down. -/
theorem letGoAll_course (sound : Hall.Sound ⟨jobs, loose, roles⟩) (distinct : tasks.Nodup)
    (inHand : ∀ number ∈ tasks, roles number = .inHand) (now : Nat) (cleaning : Bool) :
    Course ⟨jobs, loose, roles⟩
      ⟨(jobs.forEach (Jobs.letGo now) cleaning tasks).1, loose, reassign roles tasks .free⟩ :=
  forEach_course_same cleaning
    (fun cleaning _ _ _ sound role _ => letGo_course sound role .free now cleaning) sound distinct
    inHand (sound.all_below inHand nofun)

/-- Nobody will make jobs of some tasks. -/
theorem forgo_course (sound : Hall.Sound ⟨jobs, loose, roles⟩) (distinct : tasks.Nodup)
    (waits : ∀ number ∈ tasks, roles number = .waiting)
    (below : ∀ number ∈ tasks, number < jobs.tasks.length) :
    Course ⟨jobs, loose, roles⟩
      ⟨jobs.forgo tasks, loose, reassign roles tasks (.dismissed .notAdmitted)⟩ := by
  have forgone : Course ⟨jobs, loose, roles⟩ ⟨tasks.foldl (fun jobs number =>
      jobs.update number fun task => { task with alive := false }) jobs, loose,
      reassign roles tasks (.dismissed .notAdmitted)⟩ :=
    foldl_course (fun _ _ _ _ _ _ role below => update_course role below fun _ _ => .forgo) sound
      distinct waits below
  exact forgone.tail note_step

lemma withdrawAll_course (sound : Hall.Sound ⟨jobs, loose, roles⟩) (distinct : tasks.Nodup)
    (inHand : ∀ number ∈ tasks, roles number = .inHand)
    (attached : ∀ number ∈ tasks, jobs.IsAttached number) :
    Course ⟨jobs, loose, roles⟩
      ⟨tasks.foldl Jobs.abort jobs, loose, reassign roles tasks .leaving⟩ := by
  refine foldl_course (fun next others number mem course _ role below => ?_) sound distinct inHand
    (sound.all_below inHand nofun)
  obtain ⟨_, found, kept⟩ := course.attached (attached number mem)
  refine update_course role below fun task known => .withdraw ?_
  rwa [Option.some.inj (found.symm.trans known)] at kept

/-- A batch went well: none of its tasks is to go on. -/
theorem closeBatch_course (sound : Hall.Sound ⟨jobs, loose, roles⟩) (distinct : tasks.Nodup)
    (inHand : ∀ number ∈ tasks, roles number = .inHand)
    (attached : ∀ number ∈ tasks, jobs.IsAttached number) (now : Nat) :
    Course ⟨jobs, loose, roles⟩
      ⟨(jobs.closeBatch tasks now).1, loose, reassign roles tasks (.dismissed .done)⟩ := by
  have withdrawn := withdrawAll_course sound distinct inHand attached
  have leaving := sound.course withdrawn
  have let_go := forEach_course_same false
    (fun cleaning _ _ _ sound role _ => letGo_course sound role .done now cleaning) leaving distinct
    (reassign_all _) (leaving.all_below (reassign_all _) nofun)
  rw [reassign_reassign] at let_go
  exact (withdrawn.trans let_go).tail note_step

/-- The role of a task after the submitter of a batch which failed has let go of it. -/
def calledOff (error : ExecutorFailure) : Bool → Role
  | true => .dismissed .done
  | false => .dismissed (.failed error)

lemma callOff_course (sound : Hall.Sound ⟨jobs, loose, roles⟩) (leaving : roles number = .leaving)
    (error : ExecutorFailure) (now : Nat) (cleaning : Bool) :
    Course ⟨jobs, loose, roles⟩
      ⟨(jobs.callOff error now cleaning number).1, loose,
        update roles number (calledOff error cleaning)⟩ := by
  cases cleaning with
  | true => exact letGo_course sound leaving .done now true
  | false =>
    obtain ⟨task, known⟩ := Jobs.known_of_lt (sound.below leaving nofun)
    unfold Jobs.callOff
    dsimp only
    rw [known]
    dsimp only
    rw [Jobs.update_eq known]
    obtain ⟨desk, fault, resolved, hears, -⟩ := Jobs.resolve_eq
      (jobs.known_of_set jobs.desk jobs.log known { task with held := false })
      (Jobs.failureOutcome error task) now false
    rw [resolved]
    have step : Step ⟨jobs, loose, roles⟩ _ := .of_role leaving known .callOff hears
    rw [List.append_nil] at step
    simpa only [List.set_set, calledOff] using Relation.ReflTransGen.single step

/-- A batch failed: none of its tasks is to go on, and there is a report on each of them, unless a
fault keeps its submitter from telling that. -/
theorem failBatch_course (sound : Hall.Sound ⟨jobs, loose, roles⟩) (distinct : tasks.Nodup)
    (inHand : ∀ number ∈ tasks, roles number = .inHand)
    (attached : ∀ number ∈ tasks, jobs.IsAttached number) (error : ExecutorFailure) (now : Nat) :
    ∃ others, Course ⟨jobs, loose, roles⟩ ⟨(jobs.failBatch tasks error now).1, loose, others⟩ ∧
      (∀ number ∉ tasks, others number = roles number) ∧
      (∀ number ∈ tasks, ∃ why, others number = .dismissed why) ∧
      ((jobs.failBatch tasks error now).2 = none →
        .dismissed tasks (.failed error) ∈ (jobs.failBatch tasks error now).1.log) := by
  have withdrawn := withdrawAll_course sound distinct inHand attached
  have leaving := sound.course withdrawn
  obtain ⟨others, course, apart, told, settled⟩ := forEach_course _ false
    (fun cleaning _ _ _ sound role _ => callOff_course sound role error now cleaning) leaving distinct
    (reassign_all _) (leaving.all_below (reassign_all _) nofun)
  have apart_all : ∀ number ∉ tasks, others number = roles number := fun number other =>
    (apart number other).trans (reassign_of_not_mem other)
  have dismissed : ∀ number ∈ tasks, ∃ why, others number = .dismissed why := by
    intro number mem
    obtain ⟨cleaning, role⟩ := told number mem
    cases cleaning with
    | true | false => exact ⟨_, role⟩
  have so_far := withdrawn.trans course
  unfold Jobs.failBatch
  generalize Jobs.forEach (Jobs.callOff error now) false (tasks.foldl Jobs.abort jobs) tasks = result
    at so_far settled ⊢
  obtain ⟨next, _ | fault⟩ := result
  · obtain rfl := settled rfl
    exact ⟨_, so_far.tail note_step, apart_all, dismissed, fun _ =>
      List.mem_append_right _ (List.mem_singleton_self _)⟩
  · exact ⟨others, so_far, apart_all, dismissed, nofun⟩

end Batches

end Courses

end Admission.Executor

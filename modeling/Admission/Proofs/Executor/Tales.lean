import Admission.Executor.Jobs
import Mathlib.Tactic.Lemma

/-!
# The tale of a task

What is on record about one task, what was reported on its listener, what its handle shows and what
the task itself looks like fit together at any time. Here this is told for one task alone: the
states it can be in, the turns its tale can take, and that each turn leads from a tale to a tale.
-/

namespace Admission.Executor

variable {V G : Type}

/-- The part of a task in what its caller ordered. -/
inductive Role where
  | waiting
  /-- The task is admitted, and its caller has the pass too. -/
  | inHand
  /-- The caller of the batch cancels all its tasks. -/
  | leaving
  | free
  | dismissed (why : Dismissal)
  deriving DecidableEq

namespace Role

/-- The task can be admitted, or can never be admitted. -/
def IsOutside (role : Role) : Prop := role = waiting ∨ role = dismissed .notAdmitted

/-- The caller of a batch is responsible for the report on the task. -/
def IsAnswered : Role → Prop
  | inHand | leaving | dismissed (.failed _) => True
  | _ => False

/-- What a task of the role looks like. -/
def Fits (task : Task V G) : Role → Prop
  | waiting => task.aborted = false
  | inHand => task.held = true ∧ task.aborted = false
  | leaving => task.held = true ∧ task.aborted = true ∧ task.detached = false
  | free => task.held = true → task.pass = none
  | dismissed .notAdmitted => True
  | dismissed .done => task.held = false ∧ task.aborted = true ∧ task.detached = false
  | dismissed (.failed _) => task.pass = none ∧ task.aborted = true ∧ task.detached = false

end Role

/-- How the job of a task ended, for a reason of its own. -/
inductive Fate (V : Type) where
  | completed (result : Except V V)
  | brokenDown
  | cancelled
  | thrownAway

namespace Fate

/-- What is reported at the end of a task, by whether only its end matters and whether it was looked
at. -/
def outcome (detached visited : Bool) : Fate V → Outcome
  | completed (.ok _) => .success
  | completed (.error _) => if detached then .success else .ignore
  | brokenDown | cancelled => .ignore
  | thrownAway => if visited then .ignore else .dropped

def shown : Fate V → Option (HandleResult V)
  | completed result => some (.ok result)
  | brokenDown => some (.error .brokenDown)
  | cancelled => some (.error .cancelled)
  | thrownAway => none

/-- The task itself came to an end. -/
def IsFinished : Fate V → Prop
  | completed _ | brokenDown => True
  | cancelled | thrownAway => False

lemma outcome_of_seen {fate : Fate V} (seen : fate ≠ thrownAway) (detached visited : Bool) :
    fate.outcome detached visited = fate.outcome detached true := by
  cases fate with
  | completed result => cases result <;> rfl
  | brokenDown | cancelled => rfl
  | thrownAway => exact absurd rfl seen

/-- The last entry about a task which ended so. -/
inductive Closes (number : Nat) : Fate V → List (Entry V) → Prop
  | completed (first : Bool) (result : Except V V) :
      Closes number (.completed result) [.looked number first (.ready result)]
  | brokenDown (first : Bool) (text : String) :
      Closes number .brokenDown [.looked number first (.brokenDown text)]
  | cancelled : Closes number .cancelled [.cancelled number]
  | thrownAway : Closes number .thrownAway []

end Fate

/-- The looks at a task before the last, which showed nothing. -/
def Unready (number : Nat) (visits : List (Entry V)) : Prop :=
  ∀ entry ∈ visits, ∃ first, entry = .looked number first .pending

/-- What a batch which failed says about the limit, for a task which was looked at, or not. -/
def failureOutcome (error : ExecutorFailure) (visited : Bool) : Outcome :=
  if error = .interrupted ∨ visited = true then .ignore else .dropped

/-- What the handle of a task has heard when the job has ended: nothing, if the limiter met a fault
over the report. -/
def Channel.ended (fault : Option Fault) (result : Option (HandleResult V)) : Channel V :=
  match fault, result with
  | none, some result => .sent result
  | _, _ => .closed

/-- What is left of the job of a task which its batch has reported on, and the entry about its end. -/
inductive Left (number : Nat) (task : Task V G) : List (Entry V) → Prop
  | job (job : task.hasJob = true) (channel : task.channel = .empty) : Left number task []
  | lost (job : task.hasJob = false) (channel : task.channel = .closed) : Left number task []
  | cancelled (job : task.hasJob = false) (channel : task.channel = .sent (.error .cancelled)) :
      Left number task [.cancelled number]

/-- The tale of a task: the entries about it, given the reports on each listener. -/
inductive Tale (number : Nat) (reports : Nat → List Settlement) :
    Role → Task V G → List (Entry V) → Prop
  | outside {role : Role} {task : Task V G} (outside : role.IsOutside) (pass : task.pass = none)
      (job : task.hasJob = false) (started : task.started = false)
      (channel : task.channel = .empty) : Tale number reports role task []
  | underWay {role : Role} {task : Task V G} {pass : Pass G} {visits : List (Entry V)}
      (admitted : ¬role.IsOutside) (pending : task.pass = some pass)
      (unsettled : reports pass.number = []) (unready : Unready number visits)
      (started : task.started = !visits.isEmpty)
      (job : task.hasJob = true ∧ task.channel = .empty ∨
        task.hasJob = false ∧ task.held = true ∧ task.channel = .closed) :
      Tale number reports role task (.admitted number pass.number :: visits)
  | ended {role : Role} {task : Task V G} {fate : Fate V} {visits closing : List (Entry V)}
      {listener : Nat} {fault : Option Fault} (admitted : ¬role.IsOutside)
      (spent : task.pass = none) (unready : Unready number visits)
      (closes : fate.Closes number closing) (finished : role.IsAnswered → fate.IsFinished)
      (settled : reports listener = [⟨listener, fate.outcome task.detached (!visits.isEmpty), fault⟩])
      (job : task.hasJob = false) (channel : task.channel = .ended fault fate.shown) :
      Tale number reports role task (.admitted number listener :: (visits ++ closing))
  | calledOff {error : ExecutorFailure} {task : Task V G} {visits rest : List (Entry V)}
      {listener : Nat} {fault : Option Fault} (spent : task.pass = none)
      (unready : Unready number visits)
      (settled : reports listener = [⟨listener, failureOutcome error (!visits.isEmpty), fault⟩])
      (left : Left number task rest) :
      Tale number reports (.dismissed (.failed error)) task
        (.admitted number listener :: (visits ++ rest))

/-- A task which stands as its role says has a tale. -/
structure Stands (number : Nat) (reports : Nat → List Settlement) (role : Role) (task : Task V G)
    (entries : List (Entry V)) : Prop where
  tale : Tale number reports role task entries
  fits : role.Fits task

/-- The tasks differ in nothing which their tales tell of. -/
structure Task.Alike (task next : Task V G) : Prop where
  detached : next.detached = task.detached
  pass : next.pass = task.pass
  started : next.started = task.started
  hasJob : next.hasJob = task.hasJob
  held : next.held = task.held
  channel : next.channel = task.channel

/-- The report on the pass of a task, if it has not been used. -/
def Task.reported (task : Task V G) (outcome : Outcome) (fault : Option Fault) : List Settlement :=
  task.pass.toList.map fun pass => ⟨pass.number, outcome, fault⟩

/-- How a caller lets go of a task. -/
inductive LetsGo : Role → Role → Prop
  | free : LetsGo .inHand .free
  | done : LetsGo .leaving (.dismissed .done)

/-- A turn of the tale of a task: the entries and the reports it adds. -/
inductive Turn (number : Nat) :
    Role → Task V G → List (Entry V) → List Settlement → Role → Task V G → Prop
  | minor {role : Role} {task next : Task V G} (alike : task.Alike next)
      (aborted : next.aborted = task.aborted) : Turn number role task [] [] role next
  | forgo {task : Task V G} :
      Turn number .waiting task [] [] (.dismissed .notAdmitted) { task with alive := false }
  | abort {task : Task V G} : Turn number .free task [] [] .free { task with aborted := true }
  | withdraw {task : Task V G} (attached : task.detached = false) :
      Turn number .inHand task [] [] .leaving { task with aborted := true }
  | look {role : Role} {task : Task V G} {first : Bool} {work : Option (Work V V)}
      (job : task.hasJob = true) (running : task.aborted = false) :
      Turn number role task [.looked number first .pending] [] role
        { task with started := true, work := work }
  | finish {role : Role} {task : Task V G} {fate : Fate V} {closing : List (Entry V)}
      {fault : Option Fault} (work : Option (Work V V)) (stays : role ≠ .leaving)
      (job : task.hasJob = true)
      (closes : fate.Closes number closing) (running : fate.IsFinished ∧ task.aborted = false ∨
        fate = .cancelled ∧ task.aborted = true) (heard : task.pass = none → fault = none) :
      Turn number role task closing (task.reported (fate.outcome task.detached true) fault) role
        (Task.conclude { task with started := true, work := work, pass := none }
          (if fault.isNone then fate.shown else none))
  | leave {role : Role} {task : Task V G} (job : task.hasJob = true) (held : task.held = true) :
      Turn number role task [] [] role (task.conclude none)
  | drop {role : Role} {task : Task V G} {fault : Option Fault} (job : task.hasJob = true)
      (held : task.held = false) :
      Turn number role task [] (task.reported task.discarded fault) role
        (Task.conclude { task with pass := none } none)
  | letGo {role next : Role} {task : Task V G} (letsGo : LetsGo role next)
      (job : task.hasJob = true) :
      Turn number role task [] [] next { task with held := false }
  | letGoLost {role next : Role} {task : Task V G} {fault : Option Fault}
      (letsGo : LetsGo role next) (job : task.hasJob = false) :
      Turn number role task [] (task.reported task.discarded fault) next
        { task with held := false, pass := none }
  | refuse {task : Task V G} {fault : Option Fault} (job : task.hasJob = false)
      (unseen : task.started = false) :
      Turn number .inHand task [] (task.reported .dropped fault) .free { task with pass := none }
  | callOff {error : ExecutorFailure} {task : Task V G} {fault : Option Fault} :
      Turn number .leaving task [] (task.reported (Jobs.failureOutcome error task) fault)
        (.dismissed (.failed error)) { task with held := false, pass := none }

section Turns

variable {number : Nat} {reports : Nat → List Settlement} {role next : Role} {task task' : Task V G}
  {entries new : List (Entry V)} {settled : List Settlement}

/-- The reports on each listener after some more. -/
def withReports (reports : Nat → List Settlement) (more : List Settlement) (number : Nat) :
    List Settlement :=
  reports number ++ more.filter (·.number = number)

@[simp] lemma withReports_nil (reports : Nat → List Settlement) : withReports reports [] = reports := by
  funext number
  simp [withReports]

lemma withReports_own {pass : Pass G} (pending : task.pass = some pass)
    (unsettled : reports pass.number = []) (outcome : Outcome) (fault : Option Fault) :
    withReports reports (task.reported outcome fault) pass.number =
      [⟨pass.number, outcome, fault⟩] := by
  simp [withReports, Task.reported, pending, unsettled]

lemma reported_of_spent (spent : task.pass = none) (outcome : Outcome) (fault : Option Fault) :
    task.reported outcome fault = [] := by
  simp [Task.reported, spent]

lemma Unready.snoc {visits : List (Entry V)} (unready : Unready number visits) (first : Bool) :
    Unready number (visits ++ [.looked number first .pending]) := by
  intro entry mem
  rcases List.mem_append.mp mem with old | new
  · exact unready entry old
  · exact ⟨first, List.mem_singleton.mp new⟩

lemma Tale.of_alike (tale : Tale number reports role task entries) (alike : task.Alike task') :
    Tale number reports role task' entries := by
  obtain ⟨detached, pass, started, hasJob, held, channel⟩ := alike
  cases tale with
  | outside outside spent job fresh empty =>
    exact .outside outside (pass.trans spent) (hasJob.trans job) (started.trans fresh)
      (channel.trans empty)
  | underWay admitted pending unsettled unready begun job =>
    refine .underWay admitted (pass.trans pending) unsettled unready (started.trans begun) ?_
    rw [hasJob, held, channel]
    exact job
  | ended admitted spent unready closes finished settled job shown =>
    refine .ended admitted (pass.trans spent) unready closes finished ?_ (hasJob.trans job)
      (channel.trans shown)
    rw [detached]
    exact settled
  | calledOff spent unready settled left =>
    refine .calledOff (pass.trans spent) unready settled ?_
    cases left with
    | job job empty => exact .job (hasJob.trans job) (channel.trans empty)
    | lost job closed => exact .lost (hasJob.trans job) (channel.trans closed)
    | cancelled job sent => exact .cancelled (hasJob.trans job) (channel.trans sent)

lemma Tale.outside_inv (tale : Tale number reports role task entries) (outside : role.IsOutside) :
    task.pass = none ∧ task.hasJob = false ∧ task.started = false ∧ entries = [] := by
  cases tale with
  | outside _ pass job started => exact ⟨pass, job, started, rfl⟩
  | underWay admitted => exact absurd outside admitted
  | ended admitted => exact absurd outside admitted
  | calledOff => simp [Role.IsOutside] at outside

lemma Tale.become (tale : Tale number reports role task entries) (inside : ¬role.IsOutside)
    (wanted : ∀ error, role ≠ .dismissed (.failed error)) (inside_next : ¬next.IsOutside)
    (answered : next.IsAnswered → role.IsAnswered) : Tale number reports next task entries := by
  cases tale with
  | outside outside => exact absurd outside inside
  | underWay _ pending unsettled unready started job =>
    exact .underWay inside_next pending unsettled unready started job
  | ended _ spent unready closes finished settled job channel =>
    exact .ended inside_next spent unready closes (fun next => finished (answered next)) settled job
      channel
  | calledOff => exact absurd rfl (wanted _)

lemma Role.fits_of_same (fits : role.Fits task) (held : task'.held = task.held)
    (aborted : task'.aborted = task.aborted) (detached : task'.detached = task.detached)
    (pass : task.pass = none → task'.pass = none) :
    role.Fits task' := by
  cases role with
  | waiting => exact aborted.trans fits
  | inHand => exact ⟨held.trans fits.1, aborted.trans fits.2⟩
  | leaving => exact ⟨held.trans fits.1, aborted.trans fits.2.1, detached.trans fits.2.2⟩
  | free => exact fun still => pass (fits (held.symm.trans still))
  | dismissed why =>
    cases why with
    | notAdmitted => trivial
    | done => exact ⟨held.trans fits.1, aborted.trans fits.2.1, detached.trans fits.2.2⟩
    | failed error => exact ⟨pass fits.1, aborted.trans fits.2.1, detached.trans fits.2.2⟩

lemma LetsGo.become (letsGo : LetsGo role next) (tale : Tale number reports role task entries) :
    Tale number reports next task entries := by
  cases letsGo with
  | free => exact tale.become (by simp [Role.IsOutside]) nofun (by simp [Role.IsOutside]) nofun
  | done => exact tale.become (by simp [Role.IsOutside]) nofun (by simp [Role.IsOutside]) nofun

lemma discarded_eq (started : task.started = visited) :
    task.discarded = Fate.outcome task.detached visited (.thrownAway : Fate V) := by
  rw [Task.discarded, started]
  rfl

lemma failureOutcome_eq (error : ExecutorFailure) (started : task.started = visited) :
    Jobs.failureOutcome error task = failureOutcome error visited := by
  subst started
  cases error <;> simp [Jobs.failureOutcome, failureOutcome, Task.discarded]

lemma Tale.lose {visits : List (Entry V)} {pass : Pass G} {fault : Option Fault}
    (inside : ¬next.IsOutside) (free : ¬next.IsAnswered) (pending : task.pass = some pass)
    (unsettled : reports pass.number = []) (unready : Unready number visits)
    (started : task.started = !visits.isEmpty) (spent : task'.pass = none)
    (job : task'.hasJob = false) (closed : task'.channel = .closed) :
    Tale number (withReports reports (task.reported task.discarded fault)) next task'
      (.admitted number pass.number :: visits) := by
  have settled : withReports reports (task.reported task.discarded fault) pass.number =
      [⟨pass.number, Fate.outcome task'.detached (!visits.isEmpty)
        (.thrownAway : Fate V), fault⟩] := by
    rw [withReports_own pending unsettled, discarded_eq (V := V) started]
    rfl
  have shown : task'.channel = .ended fault (.thrownAway : Fate V).shown := by
    rw [closed]
    cases fault <;> rfl
  have tale := Tale.ended inside spent unready .thrownAway (fun answered => absurd answered free)
    settled job shown
  rwa [List.append_nil] at tale

lemma Stands.look (stands : Stands number reports role task entries) {first : Bool}
    {work : Option (Work V V)} (job : task.hasJob = true) (running : task.aborted = false) :
    Stands number reports role { task with started := true, work := work }
      (entries ++ [.looked number first .pending]) := by
  obtain ⟨tale, fits⟩ := stands
  refine ⟨?_, role.fits_of_same fits rfl rfl rfl id⟩
  cases tale with
  | outside _ _ none => simp [job] at none
  | underWay admitted pending unsettled unready started kept =>
    exact .underWay admitted pending unsettled (unready.snoc first) (by simp) kept
  | ended _ _ _ _ _ _ none => simp [job] at none
  | calledOff =>
    rw [fits.2.1] at running
    contradiction

lemma Stands.finish (stands : Stands number reports role task entries) {fate : Fate V}
    {closing : List (Entry V)} {work : Option (Work V V)} {fault : Option Fault}
    (stays : role ≠ .leaving) (job : task.hasJob = true) (closes : fate.Closes number closing)
    (running : fate.IsFinished ∧ task.aborted = false ∨ fate = .cancelled ∧ task.aborted = true)
    (heard : task.pass = none → fault = none) :
    Stands number (withReports reports (task.reported (fate.outcome task.detached true) fault)) role
      (Task.conclude ({ task with started := true, work := work, pass := none } : Task V G)
        (if fault.isNone then fate.shown else none)) (entries ++ closing) := by
  obtain ⟨tale, fits⟩ := stands
  refine ⟨?_, role.fits_of_same fits rfl rfl rfl fun _ => rfl⟩
  have shown : (Task.conclude ({ task with started := true, work := work, pass := none } : Task V G)
      (if fault.isNone then fate.shown else none)).channel = .ended fault fate.shown := by
    cases fault <;> cases fate <;> rfl
  cases tale with
  | outside _ _ none => simp [job] at none
  | @underWay _ _ pass visits admitted pending unsettled unready started kept =>
    refine .ended admitted rfl unready closes ?_ ?_ rfl shown
    · -- A task which somebody answers for is not cancelled before that.
      intro answered
      obtain ⟨finished, -⟩ | ⟨-, aborted⟩ := running
      · exact finished
      cases role with
      | inHand => simp [fits.2] at aborted
      | leaving => exact absurd rfl stays
      | dismissed why => cases why with
        | failed error => simp [fits.1] at pending
        | notAdmitted | done => exact answered.elim
      | waiting | free => exact answered.elim
    · have seen : fate ≠ .thrownAway := by
        rintro rfl
        obtain ⟨finished, -⟩ | ⟨wrong, -⟩ := running
        · exact finished
        · nomatch wrong
      rw [withReports_own pending unsettled, ← Fate.outcome_of_seen seen _ (!visits.isEmpty)]
      rfl
  | ended _ _ _ _ _ _ none => simp [job] at none
  | calledOff spent unready settled left =>
    obtain ⟨-, running⟩ | ⟨rfl, -⟩ := running
    · rw [fits.2.1] at running
      contradiction
    rw [reported_of_spent spent, withReports_nil]
    cases closes
    cases left with
    | job job channel =>
      rw [List.append_nil, List.cons_append]
      refine .calledOff rfl unready settled (.cancelled rfl ?_)
      rw [shown, heard spent]
      rfl
    | lost none | cancelled none => simp [job] at none

lemma Stands.leave (stands : Stands number reports role task entries) (job : task.hasJob = true)
    (held : task.held = true) : Stands number reports role (task.conclude none) entries := by
  obtain ⟨tale, fits⟩ := stands
  refine ⟨?_, role.fits_of_same fits rfl rfl rfl id⟩
  cases tale with
  | outside _ _ none => simp [job] at none
  | underWay admitted pending unsettled unready started kept =>
    exact .underWay admitted pending unsettled unready started (.inr ⟨rfl, held, rfl⟩)
  | ended _ _ _ _ _ _ none => simp [job] at none
  | calledOff spent unready settled left =>
    cases left with
    | job job channel => exact .calledOff spent unready settled (.lost rfl rfl)
    | lost none | cancelled none => simp [job] at none

lemma Stands.drop (stands : Stands number reports role task entries) {fault : Option Fault}
    (job : task.hasJob = true) (held : task.held = false) :
    Stands number (withReports reports (task.reported task.discarded fault)) role
      (Task.conclude ({ task with pass := none } : Task V G) none) entries := by
  obtain ⟨tale, fits⟩ := stands
  refine ⟨?_, role.fits_of_same fits rfl rfl rfl fun _ => rfl⟩
  cases tale with
  | outside _ _ none => simp [job] at none
  | underWay admitted pending unsettled unready started kept =>
    refine Tale.lose admitted (fun answered => ?_) pending unsettled unready started rfl rfl rfl
    cases role with
    | inHand => simp [fits.1] at held
    | leaving => simp [fits.1] at held
    | dismissed why => cases why with
      | failed error => simp [fits.1] at pending
      | notAdmitted | done => exact answered.elim
    | waiting | free => exact answered.elim
  | ended _ _ _ _ _ _ none => simp [job] at none
  | calledOff spent unready settled left =>
    rw [reported_of_spent spent, withReports_nil]
    cases left with
    | job job channel => exact .calledOff rfl unready settled (.lost rfl rfl)
    | lost none | cancelled none => simp [job] at none

lemma LetsGo.fits (letsGo : LetsGo role next) (fits : role.Fits task)
    (aborted : task'.aborted = task.aborted) (detached : task'.detached = task.detached)
    (held : task'.held = false) : next.Fits task' := by
  cases letsGo with
  | free => simp [Role.Fits, held]
  | done => exact ⟨held, aborted.trans fits.2.1, detached.trans fits.2.2⟩

lemma LetsGo.roles (letsGo : LetsGo role next) :
    ¬role.IsOutside ∧ (∀ error, role ≠ .dismissed (.failed error)) ∧ ¬next.IsOutside ∧
      ¬next.IsAnswered := by
  cases letsGo <;> simp [Role.IsOutside, Role.IsAnswered]

lemma Stands.letGo (stands : Stands number reports role task entries) (letsGo : LetsGo role next)
    (job : task.hasJob = true) : Stands number reports next { task with held := false } entries := by
  obtain ⟨tale, fits⟩ := stands
  obtain ⟨inside, wanted, inside_next, free⟩ := letsGo.roles
  refine ⟨?_, letsGo.fits fits rfl rfl rfl⟩
  have tale := tale.become inside wanted inside_next (fun answered => absurd answered free)
  cases tale with
  | outside outside => exact absurd outside inside_next
  | underWay admitted pending unsettled unready started kept =>
    refine .underWay admitted pending unsettled unready started (.inl ⟨job, ?_⟩)
    obtain ⟨-, channel⟩ | ⟨none, -⟩ := kept
    · exact channel
    · simp [job] at none
  | ended _ _ _ _ _ _ none => simp [job] at none
  | calledOff => exact absurd trivial free

lemma Stands.letGoLost (stands : Stands number reports role task entries)
    (letsGo : LetsGo role next) (job : task.hasJob = false) {fault : Option Fault} :
    Stands number (withReports reports (task.reported task.discarded fault)) next
      ({ task with held := false, pass := none } : Task V G) entries := by
  obtain ⟨tale, fits⟩ := stands
  obtain ⟨inside, wanted, inside_next, free⟩ := letsGo.roles
  refine ⟨?_, letsGo.fits fits rfl rfl rfl⟩
  have tale := tale.become inside wanted inside_next (fun answered => absurd answered free)
  cases tale with
  | outside outside => exact absurd outside inside_next
  | underWay admitted pending unsettled unready started kept =>
    refine Tale.lose admitted free pending unsettled unready started rfl job ?_
    obtain ⟨some, -⟩ | ⟨-, -, channel⟩ := kept
    · simp [job] at some
    · exact channel
  | ended admitted spent unready closes finished settled job channel =>
    rw [reported_of_spent spent, withReports_nil]
    exact .ended admitted rfl unready closes finished settled job channel
  | calledOff => exact absurd trivial free

lemma Stands.refuse (stands : Stands number reports .inHand task entries)
    (job : task.hasJob = false) (unseen : task.started = false) {fault : Option Fault} :
    Stands number (withReports reports (task.reported .dropped fault)) .free
      ({ task with pass := none } : Task V G) entries := by
  obtain ⟨tale, fits⟩ := stands
  refine ⟨?_, fun _ => rfl⟩
  obtain ⟨inside, wanted, inside_next, free⟩ := LetsGo.free.roles
  have tale := tale.become inside wanted inside_next (fun answered => absurd answered free)
  cases tale with
  | outside outside => exact absurd outside inside_next
  | underWay admitted pending unsettled unready started kept =>
    have dropped : Outcome.dropped = task.discarded := by simp [Task.discarded, unseen]
    rw [dropped]
    refine Tale.lose admitted free pending unsettled unready started rfl job ?_
    obtain ⟨some, -⟩ | ⟨-, -, channel⟩ := kept
    · simp [job] at some
    · exact channel
  | ended admitted spent unready closes finished settled job channel =>
    rw [reported_of_spent spent, withReports_nil]
    exact .ended admitted rfl unready closes finished settled job channel

lemma Stands.callOff (stands : Stands number reports .leaving task entries)
    (error : ExecutorFailure) {fault : Option Fault} :
    Stands number (withReports reports (task.reported (Jobs.failureOutcome error task) fault))
      (.dismissed (.failed error)) ({ task with held := false, pass := none } : Task V G)
      entries := by
  obtain ⟨tale, fits⟩ := stands
  refine ⟨?_, rfl, fits.2⟩
  cases tale with
  | outside outside => simp [Role.IsOutside] at outside
  | @underWay _ _ pass visits admitted pending unsettled unready started kept =>
    have settled : withReports reports (task.reported (Jobs.failureOutcome error task) fault)
        pass.number = [⟨pass.number, failureOutcome error (!visits.isEmpty), fault⟩] := by
      rw [withReports_own pending unsettled, failureOutcome_eq error started]
    have left : Left number ({ task with held := false, pass := none } : Task V G) [] := by
      obtain ⟨job, channel⟩ | ⟨job, -, channel⟩ := kept
      · exact .job job channel
      · exact .lost job channel
    have tale := Tale.calledOff rfl unready settled left
    rwa [List.append_nil] at tale
  | ended admitted spent unready closes finished settled job channel =>
    rw [reported_of_spent spent, withReports_nil]
    exact .ended (by simp [Role.IsOutside]) rfl unready closes (fun _ => finished trivial) settled
      job channel

lemma Stands.letIn (stands : Stands number reports .waiting task entries) {pass : Pass G}
    (unsettled : reports pass.number = []) :
    Stands number reports .inHand (task.withPass pass)
      (entries ++ [.admitted number pass.number]) := by
  obtain ⟨tale, fits⟩ := stands
  refine ⟨?_, rfl, fits⟩
  cases tale with
  | outside _ _ _ started channel =>
    exact .underWay (by simp [Role.IsOutside]) rfl unsettled nofun started
      (.inl ⟨rfl, channel⟩)
  | underWay admitted => exact absurd (.inl rfl) admitted
  | ended admitted => exact absurd (.inl rfl) admitted

/-- Every turn leads from a tale to a tale. -/
theorem Turn.stands (turn : Turn number role task new settled next task')
    (stands : Stands number reports role task entries) :
    Stands number (withReports reports settled) next task' (entries ++ new) := by
  have still : entries ++ [] = entries := List.append_nil entries
  cases turn with
  | minor alike aborted =>
    rw [still, withReports_nil]
    exact ⟨stands.tale.of_alike alike,
      role.fits_of_same stands.fits alike.held aborted alike.detached alike.pass.trans⟩
  | forgo =>
    rw [still, withReports_nil]
    refine ⟨?_, trivial⟩
    cases stands.tale with
    | outside _ pass job started channel => exact .outside (.inr rfl) pass job started channel
    | underWay admitted => exact absurd (.inl rfl) admitted
    | ended admitted => exact absurd (.inl rfl) admitted
  | abort =>
    rw [still, withReports_nil]
    exact ⟨stands.tale.of_alike ⟨rfl, rfl, rfl, rfl, rfl, rfl⟩, stands.fits⟩
  | withdraw attached =>
    rw [still, withReports_nil]
    refine ⟨?_, stands.fits.1, rfl, attached⟩
    have tale : Tale number reports .leaving task entries :=
      stands.tale.become (by simp [Role.IsOutside]) nofun
      (by simp [Role.IsOutside]) (fun _ => trivial)
    exact tale.of_alike ⟨rfl, rfl, rfl, rfl, rfl, rfl⟩
  | look job running =>
    rw [withReports_nil]
    exact stands.look job running
  | finish work stays job closes running heard => exact stands.finish stays job closes running heard
  | leave job held =>
    rw [still, withReports_nil]
    exact stands.leave job held
  | drop job held =>
    rw [still]
    exact stands.drop job held
  | letGo letsGo job =>
    rw [still, withReports_nil]
    exact stands.letGo letsGo job
  | letGoLost letsGo job =>
    rw [still]
    exact stands.letGoLost letsGo job
  | refuse job unseen =>
    rw [still]
    exact stands.refuse job unseen
  | callOff =>
    rw [still]
    exact stands.callOff _

end Turns

end Admission.Executor

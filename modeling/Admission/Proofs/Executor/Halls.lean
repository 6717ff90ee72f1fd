import Admission.Proofs.Desk
import Admission.Proofs.Executor.Tales
import Mathlib.Data.List.Perm.Basic
import Mathlib.Logic.Function.Basic

/-!
# All tasks at once

A hall is all tasks with the desk where they are admitted, the passes which are held outside of
tasks, and the role of each task. In every step either something happens at the desk, or one task
takes a turn. So every task keeps its tale whatever happens to the others, and a task which was
dismissed is not looked at any more.
-/

namespace Admission.Executor

open Function (update)

variable {L V G W : Type}

namespace Entry

/-- The task which the entry is about, if it is about one. -/
def task? : Entry V → Option Nat
  | admitted task _ | looked task _ _ | cancelled task => some task
  | dismissed .. => none

/-- The listener with which a task was admitted. -/
def listener? : Entry V → Option Nat
  | admitted _ listener => some listener
  | _ => none

def IsLookAt (number : Nat) : Entry V → Prop
  | looked task _ _ => task = number
  | _ => False

/-- The second entry is not about a look at a task which was dismissed by the first. -/
def Precedes (earlier later : Entry V) : Prop :=
  match earlier with
  | dismissed tasks _ => ∀ number ∈ tasks, ¬later.IsLookAt number
  | _ => True

end Entry

/-- The entries about one task. -/
def Jobs.entriesOf (jobs : Jobs L V G) (number : Nat) : List (Entry V) :=
  jobs.log.filter (·.task? = some number)

lemma mem_entriesOf {jobs : Jobs L V G} {number : Nat} {entry : Entry V}
    (about : entry.task? = some number) : entry ∈ jobs.entriesOf number ↔ entry ∈ jobs.log := by
  simp [Jobs.entriesOf, about]

lemma admitted_mem_entriesOf {jobs : Jobs L V G} {number listener : Nat} :
    .admitted number listener ∈ jobs.entriesOf number ↔ .admitted number listener ∈ jobs.log :=
  mem_entriesOf rfl

/-- The passes which tasks have not used. -/
def pending (tasks : List (Task V G)) : List (Pass G) := tasks.filterMap (·.pass)

/-- The tasks, the passes outside of tasks, and the roles. -/
structure Hall (L V G : Type) where
  jobs : Jobs L V G
  loose : List (Pass G)
  roles : Nat → Role

/-- Every task has a tale which fits its role, and the books of the desk are balanced. -/
structure Hall.Sound (hall : Hall L V G) : Prop where
  holding : Desk.Holding ((pending hall.jobs.tasks).map Pass.number) (hall.jobs.desk, hall.loose)
  unused : ∀ pass ∈ pending hall.jobs.tasks, pass.Unused
  stands : ∀ number task, hall.jobs.tasks[number]? = some task →
    Stands number hall.jobs.desk.settledOn (hall.roles number) task (hall.jobs.entriesOf number)
  beyond : ∀ number, hall.jobs.tasks.length ≤ number →
    hall.roles number = .waiting ∧ hall.jobs.entriesOf number = []
  dismissals : ∀ tasks why, .dismissed tasks why ∈ hall.jobs.log →
    ∀ number ∈ tasks, hall.roles number = .dismissed why
  ordered : hall.jobs.log.Pairwise Entry.Precedes
  issued : (hall.jobs.log.filterMap Entry.listener?).Nodup

/-- The task has not been touched since it was made. -/
structure Task.IsNew (task : Task V G) : Prop where
  pass : task.pass = none
  started : task.started = false
  aborted : task.aborted = false
  hasJob : task.hasJob = false
  channel : task.channel = .empty

section Steps

variable [Limiter TaskLabel L G W]

/-- What can happen in a hall. -/
inductive Step : Hall L V G → Hall L V G → Prop
  | deal {jobs : Jobs L V G} {loose others : List (Pass G)} {roles : Nat → Role} {desk : Desk L}
      (dealings : Desk.Dealings TaskLabel (jobs.desk, loose) (desk, others)) :
      Step ⟨jobs, loose, roles⟩ ⟨{ jobs with desk := desk }, others, roles⟩
  | arrive {jobs : Jobs L V G} {loose : List (Pass G)} {roles : Nat → Role}
      {tasks : List (Task V G)} (new : ∀ task ∈ tasks, task.IsNew) :
      Step ⟨jobs, loose, roles⟩ ⟨{ jobs with tasks := jobs.tasks ++ tasks }, loose, roles⟩
  | letIn {jobs : Jobs L V G} {loose : List (Pass G)} {roles : Nat → Role} {number : Nat}
      {task : Task V G} {pass : Pass G} (known : jobs.tasks[number]? = some task)
      (waits : roles number = .waiting) :
      Step ⟨jobs, pass :: loose, roles⟩
        ⟨⟨jobs.desk, jobs.tasks.set number (task.withPass pass),
          jobs.log ++ [.admitted number pass.number]⟩, loose, update roles number .inHand⟩
  | turn {jobs : Jobs L V G} {loose : List (Pass G)} {roles : Nat → Role} {number : Nat}
      {task task' : Task V G} {role' : Role} {entries : List (Entry V)}
      {reports : List Settlement} {desk : Desk L} (known : jobs.tasks[number]? = some task)
      (turn : Turn number (roles number) task entries reports role' task')
      (hears : Desk.Hears TaskLabel jobs.desk task.pass reports desk) :
      Step ⟨jobs, loose, roles⟩
        ⟨⟨desk, jobs.tasks.set number task', jobs.log ++ entries⟩, loose,
          update roles number role'⟩
  | dismiss {jobs : Jobs L V G} {loose : List (Pass G)} {roles : Nat → Role} {tasks : List Nat}
      {why : Dismissal} (gone : ∀ number ∈ tasks, roles number = .dismissed why) :
      Step ⟨jobs, loose, roles⟩ ⟨jobs.note (.dismissed tasks why), loose, roles⟩

abbrev Course (before after : Hall L V G) : Prop := Relation.ReflTransGen Step before after

end Steps

section Turns

variable {number : Nat} {reports : Nat → List Settlement} {role next : Role} {task task' : Task V G}
  {entries new : List (Entry V)} {settled : List Settlement}

lemma Fate.Closes.task? {fate : Fate V} (closes : fate.Closes number entries) :
    ∀ entry ∈ entries, entry.task? = some number := by
  cases closes <;> simp [Entry.task?]

/-- A turn adds only entries about its task. -/
lemma Turn.task? (turn : Turn number role task new settled next task') :
    ∀ entry ∈ new, entry.task? = some number := by
  cases turn with
  | look => simp [Entry.task?]
  | finish _ _ _ closes => exact closes.task?
  | _ => simp

lemma listeners_admitted (number listener : Nat) (rest : List (Entry V)) :
    (.admitted number listener :: rest).filterMap Entry.listener? =
      listener :: rest.filterMap Entry.listener? := rfl

lemma Unready.listener? (unready : Unready number entries) :
    entries.filterMap Entry.listener? = [] := by
  refine List.filterMap_eq_nil_iff.mpr fun entry mem => ?_
  obtain ⟨first, rfl⟩ := unready entry mem
  rfl

lemma Fate.Closes.listener? {fate : Fate V} (closes : fate.Closes number entries) :
    entries.filterMap Entry.listener? = [] := by
  cases closes <;> rfl

lemma Turn.listener? (turn : Turn number role task new settled next task') :
    new.filterMap Entry.listener? = [] := by
  cases turn with
  | finish _ _ _ closes => exact closes.listener?
  | _ => rfl

lemma Tale.listeners (tale : Tale number reports role task entries) :
    entries = [] ∨ ∃ listener, entries.filterMap Entry.listener? = [listener] ∧
      ((∃ pass, task.pass = some pass ∧ pass.number = listener) ∨ reports listener ≠ []) := by
  cases tale with
  | outside => exact .inl rfl
  | underWay _ pending _ unready =>
    refine .inr ⟨_, ?_, .inl ⟨_, pending, rfl⟩⟩
    rw [listeners_admitted, unready.listener?]
  | ended _ _ unready closes _ settled =>
    refine .inr ⟨_, ?_, .inr (by rw [settled]; exact List.cons_ne_nil _ _)⟩
    rw [listeners_admitted, List.filterMap_append, unready.listener?, closes.listener?]
    rfl
  | calledOff _ unready settled left =>
    refine .inr ⟨_, ?_, .inr (by rw [settled]; exact List.cons_ne_nil _ _)⟩
    rw [listeners_admitted, List.filterMap_append, unready.listener?]
    cases left <;> rfl

lemma Tale.listeners_of_admitted (tale : Tale number reports role task entries) {listener : Nat}
    (admitted : .admitted number listener ∈ entries) :
    entries.filterMap Entry.listener? = [listener] ∧
      ((∃ pass, task.pass = some pass ∧ pass.number = listener) ∨ reports listener ≠ []) := by
  have issued : listener ∈ entries.filterMap Entry.listener? :=
    List.mem_filterMap.mpr ⟨_, admitted, rfl⟩
  rcases tale.listeners with rfl | ⟨own, only, has⟩
  · nomatch admitted
  · rw [only, List.mem_singleton] at issued
    exact ⟨issued ▸ only, issued ▸ has⟩

lemma Turn.spends (turn : Turn number role task new settled next task') :
    settled = [] ∧ task'.pass = task.pass ∨
      ∃ pass outcome fault, task.pass = some pass ∧ settled = [⟨pass.number, outcome, fault⟩] ∧
        task'.pass = none := by
  have spend : ∀ outcome fault, task'.pass = none →
      task.reported outcome fault = [] ∧ task'.pass = task.pass ∨
        ∃ pass outcome' fault', task.pass = some pass ∧
          task.reported outcome fault = [⟨pass.number, outcome', fault'⟩] ∧ task'.pass = none := by
    intro outcome fault spent
    cases pending : task.pass with
    | none => exact .inl ⟨reported_of_spent pending outcome fault, spent⟩
    | some pass => exact .inr ⟨pass, outcome, fault, rfl, by simp [Task.reported, pending], spent⟩
  cases turn with
  | minor alike => exact .inl ⟨rfl, alike.pass⟩
  | finish | drop | letGoLost | refuse | callOff => exact spend _ _ rfl
  | forgo | abort | withdraw | look | leave | letGo => exact .inl ⟨rfl, rfl⟩

lemma Turn.dismissed {why : Dismissal}
    (turn : Turn number (.dismissed why) task new settled next task') : next = .dismissed why := by
  cases turn with
  | minor | look | finish | leave | drop => rfl
  | letGo letsGo | letGoLost letsGo => nomatch letsGo

/-- Whether only the end of a task matters does not change. -/
lemma Turn.detached (turn : Turn number role task new settled next task') :
    task'.detached = task.detached := by
  cases turn with
  | minor alike => exact alike.detached
  | _ => rfl

lemma Turn.quiet {why : Dismissal} (turn : Turn number (.dismissed why) task new settled next task')
    (stands : Stands number reports (.dismissed why) task entries) :
    ∀ entry ∈ new, ∀ other, ¬entry.IsLookAt other := by
  have stopped : task.hasJob = true → task.aborted = true := by
    intro job
    obtain ⟨tale, fits⟩ := stands
    cases why with
    | notAdmitted => cases tale with
      | outside _ _ none => simp [job] at none
      | underWay admitted => exact absurd (.inr rfl) admitted
      | ended admitted => exact absurd (.inr rfl) admitted
    | done => exact fits.2.1
    | failed error => exact fits.2.1
  cases turn with
  | look job running => simp [stopped job] at running
  | finish _ _ job closes running =>
    obtain ⟨-, running⟩ | ⟨rfl, -⟩ := running
    · simp [stopped job] at running
    · cases closes
      simp [Entry.IsLookAt]
  | _ => simp

/-- A tale depends only on the reports on the listener which it is about. -/
lemma Tale.congr_reports (tale : Tale number reports role task entries)
    {others : Nat → List Settlement}
    (same : ∀ listener, (∃ pass, task.pass = some pass ∧ pass.number = listener) ∨
      reports listener ≠ [] → others listener = reports listener) :
    Tale number others role task entries := by
  cases tale with
  | outside outside pass job started channel => exact .outside outside pass job started channel
  | underWay admitted pending unsettled unready started job =>
    exact .underWay admitted pending ((same _ (.inl ⟨_, pending, rfl⟩)).trans unsettled) unready
      started job
  | ended admitted spent unready closes finished settled job channel =>
    have known := same _ (.inr (by rw [settled]; exact List.cons_ne_nil _ _))
    exact .ended admitted spent unready closes finished (known.trans settled) job channel
  | calledOff spent unready settled left =>
    have known := same _ (.inr (by rw [settled]; exact List.cons_ne_nil _ _))
    exact .calledOff spent unready (known.trans settled) left

end Turns

section Lists

variable {tasks : List (Task V G)} {number : Nat} {task : Task V G}

lemma pending_split (known : tasks[number]? = some task) :
    ∃ rest : List (Pass G), (pending tasks).Perm (task.pass.toList ++ rest) ∧
      (∀ task', (pending (tasks.set number task')).Perm (task'.pass.toList ++ rest)) ∧
      ∀ other, other ≠ number → ∀ another, tasks[other]? = some another →
        ∀ pass, another.pass = some pass → pass ∈ rest := by
  obtain ⟨below, found⟩ := List.getElem?_eq_some_iff.mp known
  have set : ∀ task', (pending (tasks.set number task')).Perm
      (task'.pass.toList ++ pending (tasks.eraseIdx number)) := by
    intro task'
    refine ((List.set_perm_cons_eraseIdx below task').filterMap _).trans (List.Perm.of_eq ?_)
    cases pass : task'.pass with
    | none => rw [List.filterMap_cons_none pass]; rfl
    | some _ => rw [List.filterMap_cons_some pass]; rfl
  refine ⟨pending (tasks.eraseIdx number), ?_, set, fun other apart another there pass has => ?_⟩
  · have unchanged := set task
    rwa [← found, List.set_getElem_self, found] at unchanged
  · have mem : another ∈ tasks.eraseIdx number :=
      List.mem_eraseIdx_iff_getElem?.mpr ⟨other, apart, there⟩
    exact List.mem_filterMap.mpr ⟨another, mem, has⟩

lemma mem_pending (known : tasks[number]? = some task) {pass : Pass G}
    (has : task.pass = some pass) : pass ∈ pending tasks :=
  List.mem_filterMap.mpr ⟨task, List.mem_of_getElem? known, has⟩

end Lists

namespace Hall.Sound

variable {desk next : Desk L} {tasks : List (Task V G)} {log : List (Entry V)}
  {loose : List (Pass G)} {roles : Nat → Role} {number : Nat} {task task' : Task V G} {role' : Role}
  {entries : List (Entry V)} {reports : List Settlement}

/-- Where a task had no report but might have had one, there was none on its listener. -/
lemma listener_ne {hall : Hall L V G} (sound : hall.Sound) {pass : Pass G}
    (mem : pass ∈ hall.loose ∨ pass ∈ pending hall.jobs.tasks) {listener : Nat}
    (settled : hall.jobs.desk.settledOn listener ≠ []) : pass.number ≠ listener := by
  rintro rfl
  apply settled
  apply sound.holding.balanced.settledOn_outstanding
  rcases mem with loose | pending
  · exact List.mem_append_right _ (List.mem_map_of_mem loose)
  · exact List.mem_append_left _ (List.mem_map_of_mem pending)

lemma deal [Limiter TaskLabel L G W] {jobs : Jobs L V G} {others : List (Pass G)}
    (sound : Hall.Sound ⟨jobs, loose, roles⟩)
    (dealings : Desk.Dealings TaskLabel (jobs.desk, loose) (next, others)) :
    Hall.Sound ⟨{ jobs with desk := next }, others, roles⟩ := by
  refine ⟨sound.holding.dealings dealings, sound.unused, fun number task known => ?_, sound.beyond,
    sound.dismissals, sound.ordered, sound.issued⟩
  obtain ⟨tale, fits⟩ := sound.stands number task known
  refine ⟨tale.congr_reports fun listener own => ?_, fits⟩
  have outstanding := sound.holding.balanced.outstanding_nodup
  rcases own with ⟨pass, has, rfl⟩ | settled
  · have mem := List.mem_map_of_mem (f := Pass.number) (mem_pending known has)
    have apart : pass.number ∉ loose.map Pass.number := fun other =>
      (List.nodup_append.mp outstanding).2.2 _ mem _ other rfl
    exact (dealings.settledOn
      (sound.holding.balanced.lt_of_outstanding (List.mem_append_left _ mem)) apart).1
  · obtain ⟨settlement, mem⟩ := List.exists_mem_of_ne_nil _ settled
    obtain ⟨filed, rfl⟩ := Desk.mem_of_mem_settledOn mem
    have apart : settlement.number ∉ loose.map Pass.number := by
      intro other
      obtain ⟨pass, loose_mem, same⟩ := List.mem_map.mp other
      exact sound.listener_ne (.inl loose_mem) settled same
    exact (dealings.settledOn (sound.holding.balanced.lt_of_settled filed) apart).1

lemma arrive {jobs : Jobs L V G} (sound : Hall.Sound ⟨jobs, loose, roles⟩)
    {more : List (Task V G)} (new : ∀ task ∈ more, task.IsNew) :
    Hall.Sound ⟨{ jobs with tasks := jobs.tasks ++ more }, loose, roles⟩ := by
  have nothing : pending more = [] := by
    refine List.filterMap_eq_nil_iff.mpr fun task mem => (new task mem).pass
  have same : pending (jobs.tasks ++ more) = pending jobs.tasks := by
    rw [pending, List.filterMap_append]
    exact (congrArg _ nothing).trans (List.append_nil _)
  refine ⟨?_, ?_, fun number task known => ?_, fun number above => ?_, sound.dismissals,
    sound.ordered, sound.issued⟩
  · exact same.symm ▸ sound.holding
  · exact same.symm ▸ sound.unused
  · rcases Nat.lt_or_ge number jobs.tasks.length with below | above
    · exact sound.stands number task (by rwa [List.getElem?_append_left below] at known)
    · obtain ⟨waits, silent⟩ := sound.beyond number above
      have mem : task ∈ more := by
        rw [List.getElem?_append_right above] at known
        exact List.mem_of_getElem? known
      obtain ⟨pass, started, aborted, job, channel⟩ := new task mem
      change Stands number _ (roles number) task (jobs.entriesOf number)
      rw [silent, show roles number = .waiting from waits]
      exact ⟨.outside (.inl rfl) pass job started channel, aborted⟩
  · rw [List.length_append] at above
    exact sound.beyond number (Nat.le_trans (Nat.le_add_right _ _) above)

lemma entriesOf_append {jobs : Jobs L V G} (about : ∀ entry ∈ entries, entry.task? = some number)
    (other : Nat) {desk : Desk L} {tasks : List (Task V G)} :
    Jobs.entriesOf ⟨desk, tasks, jobs.log ++ entries⟩ other =
      jobs.entriesOf other ++ if other = number then entries else [] := by
  unfold Jobs.entriesOf
  rw [List.filter_append]
  congr 1
  split
  · next same =>
    subst same
    exact List.filter_eq_self.mpr fun entry mem => by simp [about entry mem]
  · next different =>
    refine List.filter_eq_nil_iff.mpr fun entry mem => ?_
    simpa [about entry mem] using Ne.symm different

lemma ordered_append {jobs : Jobs L V G} (sound : Hall.Sound ⟨jobs, loose, roles⟩)
    (about : ∀ entry ∈ entries, entry.task? = some number)
    (quiet : ∀ why, roles number = .dismissed why → ∀ entry ∈ entries, ∀ other,
      ¬entry.IsLookAt other) : (jobs.log ++ entries).Pairwise Entry.Precedes := by
  refine List.pairwise_append.mpr ⟨sound.ordered, ?_, fun earlier old later new => ?_⟩
  · refine List.Pairwise.imp_of_mem (R := fun _ _ => True) (fun {earlier _} mem _ _ => ?_)
      (List.pairwise_of_forall fun _ _ => trivial)
    have mine := about earlier mem
    cases earlier with
    | dismissed tasks why => simp [Entry.task?] at mine
    | admitted | looked | cancelled => trivial
  · cases earlier with
    | dismissed tasks why =>
      intro other mem looks
      have mine := about later new
      cases later with
      | looked task first answer =>
        obtain rfl := Option.some.inj mine
        obtain rfl : task = other := looks
        exact quiet why (sound.dismissals tasks why old task mem) _ new task rfl
      | admitted | cancelled | dismissed => exact looks
    | admitted | looked | cancelled => trivial

/-- When one task has gone on, it stands where it has got, and each other where it stood. -/
lemma stands_append {jobs : Jobs L V G} {role' : Role} {task' : Task V G}
    {settled : Nat → List Settlement} (below : number < jobs.tasks.length)
    (about : ∀ entry ∈ entries, entry.task? = some number)
    (own : Stands number settled role' task' (jobs.entriesOf number ++ entries))
    (others : ∀ other another, other ≠ number → jobs.tasks[other]? = some another →
      Stands other settled (roles other) another (jobs.entriesOf other))
    {desk : Desk L} {tasks : List (Task V G)} {other : Nat} {another : Task V G}
    (there : (jobs.tasks.set number task')[other]? = some another) :
    Stands other settled (update roles number role' other) another
      (Jobs.entriesOf ⟨desk, tasks, jobs.log ++ entries⟩ other) := by
  rw [entriesOf_append about other]
  rcases eq_or_ne other number with rfl | different
  · obtain rfl : task' = another := by
      rw [List.getElem?_set_self below] at there
      exact Option.some.inj there
    rw [Function.update_self, if_pos rfl]
    exact own
  · rw [List.getElem?_set_ne different.symm] at there
    rw [Function.update_of_ne different, if_neg different, List.append_nil]
    exact others other another different there

lemma beyond_append {jobs : Jobs L V G} {role' : Role} {task' : Task V G}
    (sound : Hall.Sound ⟨jobs, loose, roles⟩) (below : number < jobs.tasks.length)
    (about : ∀ entry ∈ entries, entry.task? = some number)
    {desk : Desk L} {tasks : List (Task V G)} {other : Nat}
    (above : (jobs.tasks.set number task').length ≤ other) :
    update roles number role' other = .waiting ∧
      Jobs.entriesOf ⟨desk, tasks, jobs.log ++ entries⟩ other = [] := by
  rw [List.length_set] at above
  have different : other ≠ number := by
    rintro rfl
    exact absurd below (Nat.not_lt.mpr above)
  rw [entriesOf_append about other, if_neg different, List.append_nil,
    Function.update_of_ne different]
  exact sound.beyond other above

/-- Tasks which were dismissed stay so when one task goes on. -/
lemma dismissals_append {jobs : Jobs L V G} {role' : Role}
    (sound : Hall.Sound ⟨jobs, loose, roles⟩)
    (about : ∀ entry ∈ entries, entry.task? = some number)
    (stays : ∀ why, roles number = .dismissed why → role' = .dismissed why)
    {gone : List Nat} {why : Dismissal} (mem : .dismissed gone why ∈ jobs.log ++ entries)
    {other : Nat} (other_gone : other ∈ gone) :
    update roles number role' other = .dismissed why := by
  rcases List.mem_append.mp mem with old | new
  · have role := sound.dismissals gone why old other other_gone
    rcases eq_or_ne other number with rfl | different
    · rw [Function.update_self]
      exact stays why role
    · rw [Function.update_of_ne different]
      exact role
  · cases about _ new

/-- The listener on which a task reports is not that of another task. -/
lemma stands_withReports {jobs : Jobs L V G} (sound : Hall.Sound ⟨jobs, loose, roles⟩)
    (known : jobs.tasks[number]? = some task)
    (turn : Turn number (roles number) task entries reports role' task')
    {other : Nat} {another : Task V G} (different : other ≠ number)
    (there : jobs.tasks[other]? = some another) :
    Stands other (withReports jobs.desk.settledOn reports) (roles other) another
      (jobs.entriesOf other) := by
  obtain ⟨tale, fits⟩ := sound.stands other another there
  refine ⟨tale.congr_reports fun listener own => ?_, fits⟩
  rcases turn.spends with ⟨rfl, -⟩ | ⟨pass, outcome, fault, has, rfl, -⟩
  · rw [withReports_nil]
  obtain ⟨rest, before, -, others⟩ := pending_split known
  have apart : pass.number ≠ listener := by
    rcases own with ⟨theirs, has_theirs, rfl⟩ | settled
    · intro same
      have nodup := (List.nodup_append.mp sound.holding.balanced.outstanding_nodup).1
      have nodup := ((before.map Pass.number).nodup_iff).mp nodup
      rw [has, Option.toList_some, List.singleton_append, List.map_cons, List.nodup_cons] at nodup
      apply nodup.1
      rw [same]
      exact List.mem_map_of_mem (others other different another there theirs has_theirs)
    · exact sound.listener_ne (.inr (mem_pending known has)) settled
  simp [withReports, apart]

lemma turn [Limiter TaskLabel L G W] {jobs : Jobs L V G}
    (sound : Hall.Sound ⟨jobs, loose, roles⟩) (known : jobs.tasks[number]? = some task)
    (turn : Turn number (roles number) task entries reports role' task')
    (hears : Desk.Hears TaskLabel jobs.desk task.pass reports next) :
    Hall.Sound ⟨⟨next, jobs.tasks.set number task', jobs.log ++ entries⟩, loose,
      update roles number role'⟩ := by
  obtain ⟨below, found⟩ := List.getElem?_eq_some_iff.mp known
  have stands := sound.stands number task known
  have about := turn.task?
  have settles := hears.settles fun pass has => sound.unused pass (mem_pending known has)
  have reported : next.settledOn = withReports jobs.desk.settledOn reports :=
    funext settles.settledOn
  obtain ⟨rest, before, after, -⟩ := pending_split known
  exact {
    holding := by
      refine ⟨?_, sound.holding.unused⟩
      have balanced := sound.holding.balanced.congr ((before.map Pass.number).append_right _)
      refine Desk.Balanced.congr ?_ (((after task').map Pass.number).append_right _).symm
      rcases turn.spends with ⟨rfl, same⟩ | ⟨pass, outcome, fault, has, rfl, spent⟩
      · rw [same]
        exact balanced.same settles
      · rw [spent]
        rw [has] at balanced
        exact balanced.report settles
    unused := by
      intro pass mem
      refine sound.unused pass (before.mem_iff.mpr ?_)
      rcases List.mem_append.mp ((after task').mem_iff.mp mem) with own | other
      · rcases turn.spends with ⟨-, same⟩ | ⟨_, _, _, _, -, spent⟩
        · exact List.mem_append_left _ (same ▸ own)
        · simp [spent] at own
      · exact List.mem_append_right _ other
    stands := fun other another there => stands_append below about
      (reported ▸ turn.stands stands)
      (fun other another different there =>
        reported ▸ sound.stands_withReports known turn different there) there
    beyond := fun other above => sound.beyond_append below about above
    dismissals := by
      intro gone why mem other other_gone
      refine sound.dismissals_append about (fun why role => ?_) mem other_gone
      rw [role] at turn
      exact turn.dismissed
    ordered := by
      refine sound.ordered_append about fun why role => ?_
      dsimp only at stands
      rw [role] at turn stands
      exact turn.quiet stands
    issued := by
      dsimp only
      rw [List.filterMap_append, turn.listener?, List.append_nil]
      exact sound.issued }

lemma known_of_admitted {hall : Hall L V G} (sound : hall.Sound) {listener : Nat}
    (admitted : .admitted number listener ∈ hall.jobs.log) :
    ∃ task, hall.jobs.tasks[number]? = some task := by
  rcases Nat.lt_or_ge number hall.jobs.tasks.length with below | above
  · exact ⟨_, List.getElem?_eq_getElem below⟩
  · rw [← admitted_mem_entriesOf, (sound.beyond number above).2] at admitted
    nomatch admitted

lemma admitted_unique {hall : Hall L V G} (sound : hall.Sound) {one other : Nat}
    (first : .admitted number one ∈ hall.jobs.log) (second : .admitted number other ∈ hall.jobs.log) :
    one = other := by
  obtain ⟨task, known⟩ := sound.known_of_admitted first
  have tale := (sound.stands number task known).tale
  have only := (tale.listeners_of_admitted (admitted_mem_entriesOf.mpr first)).1
  rw [(tale.listeners_of_admitted (admitted_mem_entriesOf.mpr second)).1] at only
  exact (List.cons.inj only).1.symm

/-- No task was ever admitted with the listener of a pass which is held outside of tasks. -/
lemma issued_ne {jobs : Jobs L V G} {pass : Pass G}
    (sound : Hall.Sound ⟨jobs, pass :: loose, roles⟩) {listener : Nat}
    (issued : listener ∈ jobs.log.filterMap Entry.listener?) : listener ≠ pass.number := by
  obtain ⟨entry, mem, same⟩ := List.mem_filterMap.mp issued
  cases entry with
  | looked | cancelled | dismissed => nomatch same
  | admitted number own =>
    obtain rfl : own = listener := Option.some.inj same
    obtain ⟨task, known⟩ := sound.known_of_admitted mem
    have tale := (sound.stands number _ known).tale
    rcases (tale.listeners_of_admitted (admitted_mem_entriesOf.mpr mem)).2
      with ⟨kept, has, rfl⟩ | settled
    · have nodup := List.nodup_append.mp sound.holding.balanced.outstanding_nodup
      exact nodup.2.2 _ (List.mem_map_of_mem (mem_pending known has)) _ List.mem_cons_self
    · exact (sound.listener_ne (.inl List.mem_cons_self) settled).symm

lemma letIn {jobs : Jobs L V G} {pass : Pass G} (sound : Hall.Sound ⟨jobs, pass :: loose, roles⟩)
    (known : jobs.tasks[number]? = some task) (waits : roles number = .waiting) :
    Hall.Sound ⟨⟨jobs.desk, jobs.tasks.set number (task.withPass pass),
      jobs.log ++ [.admitted number pass.number]⟩, loose, update roles number .inHand⟩ := by
  obtain ⟨below, found⟩ := List.getElem?_eq_some_iff.mp known
  have stands := sound.stands number task known
  dsimp only at stands
  rw [waits] at stands
  obtain ⟨spent, -⟩ := stands.tale.outside_inv (.inl rfl)
  have about : ∀ entry ∈ [Entry.admitted (V := V) number pass.number],
      entry.task? = some number := by simp [Entry.task?]
  obtain ⟨rest, before, after, -⟩ := pending_split known
  rw [spent] at before
  obtain ⟨first_unused, loose_unused⟩ := List.forall_mem_cons.mp sound.holding.unused
  have handed := (after (task.withPass pass)).trans (before.symm.cons pass)
  have stays : ∀ why, roles number ≠ .dismissed why := by
    intro why role
    exact nomatch waits.symm.trans role
  exact {
    holding := by
      refine ⟨sound.holding.balanced.congr ?_, loose_unused⟩
      exact List.perm_middle.trans ((handed.map Pass.number).symm.append_right _)
    unused := by
      intro other mem
      rcases List.mem_cons.mp (handed.mem_iff.mp mem) with rfl | old
      · exact first_unused
      · exact sound.unused other old
    stands := by
      have own := stands.letIn (sound.holding.balanced.settledOn_outstanding
        (List.mem_append_right _ List.mem_cons_self))
      exact fun other another there => stands_append below about own
        (fun other another _ there => sound.stands other another there) there
    beyond := fun other above => sound.beyond_append below about above
    dismissals := fun gone why mem other other_gone =>
      sound.dismissals_append about (fun why role => absurd role (stays why)) mem other_gone
    ordered := sound.ordered_append about fun why role => absurd role (stays why)
    issued := by
      dsimp only
      rw [List.filterMap_append]
      refine List.nodup_append.mpr ⟨sound.issued, List.nodup_singleton _, ?_⟩
      intro listener old other new
      obtain rfl := List.mem_singleton.mp new
      exact sound.issued_ne old }

lemma dismiss {jobs : Jobs L V G} {why : Dismissal} {gone : List Nat}
    (sound : Hall.Sound ⟨jobs, loose, roles⟩)
    (dismissed : ∀ number ∈ gone, roles number = .dismissed why) :
    Hall.Sound ⟨jobs.note (.dismissed gone why), loose, roles⟩ := by
  have same : ∀ number, (jobs.note (.dismissed gone why)).entriesOf number =
      jobs.entriesOf number := by
    intro number
    change List.filter _ (jobs.log ++ [_]) = _
    rw [List.filter_append]
    exact List.append_nil _
  refine ⟨sound.holding, sound.unused, fun number task known => ?_, fun number above => ?_, ?_, ?_,
    ?_⟩
  · rw [same]
    exact sound.stands number task known
  · rw [same]
    exact sound.beyond number above
  · intro tasks reason mem number in_tasks
    rcases List.mem_append.mp mem with old | new
    · exact sound.dismissals tasks reason old number in_tasks
    · obtain ⟨rfl, rfl⟩ := Entry.dismissed.inj (List.mem_singleton.mp new)
      exact dismissed number in_tasks
  · refine List.pairwise_append.mpr ⟨sound.ordered, List.pairwise_singleton _ _, ?_⟩
    intro earlier _ later new
    obtain rfl := List.mem_singleton.mp new
    cases earlier with
    | dismissed tasks reason => exact fun _ _ looks => looks
    | admitted | looked | cancelled => trivial
  · change ((jobs.log ++ [_]).filterMap Entry.listener?).Nodup
    rw [List.filterMap_append]
    exact (List.append_nil _).symm ▸ sound.issued

end Hall.Sound

section Courses

variable [Limiter TaskLabel L G W] {before after : Hall L V G}

theorem Hall.Sound.step (sound : before.Sound) (step : Step before after) : after.Sound := by
  cases step with
  | deal dealings => exact sound.deal dealings
  | arrive new => exact sound.arrive new
  | letIn known waits => exact sound.letIn known waits
  | turn known turn hears => exact sound.turn known turn hears
  | dismiss gone => exact sound.dismiss gone

lemma Step.length_le (step : Step before after) :
    before.jobs.tasks.length ≤ after.jobs.tasks.length := by
  cases step with
  | deal | dismiss => exact le_rfl
  | arrive =>
    rw [List.length_append]
    exact Nat.le_add_right _ _
  | letIn | turn => exact (List.length_set).ge

lemma Course.length_le (course : Course before after) :
    before.jobs.tasks.length ≤ after.jobs.tasks.length := by
  induction course with
  | refl => exact le_rfl
  | tail _ step ih => exact ih.trans step.length_le

/-- A task which is in somebody's hands or might be, not one of which only the end matters. -/
def Jobs.IsAttached (jobs : Jobs L V G) (number : Nat) : Prop :=
  ∃ task, jobs.tasks[number]? = some task ∧ task.detached = false

lemma Step.attached (step : Step before after) {number : Nat}
    (attached : before.jobs.IsAttached number) : after.jobs.IsAttached number := by
  obtain ⟨task, known, same⟩ := attached
  have set : ∀ {tasks : List (Task V G)} {other : Nat} {old new : Task V G},
      tasks[number]? = some task → tasks[other]? = some old → new.detached = old.detached →
      ∃ task, (tasks.set other new)[number]? = some task ∧ task.detached = false := by
    intro tasks other old new known found kept
    rcases eq_or_ne other number with rfl | different
    · obtain rfl := Option.some.inj (known.symm.trans found)
      exact ⟨new, List.getElem?_set_self (List.getElem?_eq_some_iff.mp found).1, kept.trans same⟩
    · exact ⟨task, (List.getElem?_set_ne different).trans known, same⟩
  cases step with
  | deal | dismiss => exact ⟨task, known, same⟩
  | arrive =>
    have below := (List.getElem?_eq_some_iff.mp known).1
    exact ⟨task, (List.getElem?_append_left below).trans known, same⟩
  | letIn found => exact set known found rfl
  | turn found turn => exact set known found turn.detached

lemma Course.attached (course : Course before after) {number : Nat}
    (attached : before.jobs.IsAttached number) : after.jobs.IsAttached number := by
  induction course with
  | refl => exact attached
  | tail _ step ih => exact step.attached ih

lemma Step.log_subset (step : Step before after) : before.jobs.log ⊆ after.jobs.log := by
  cases step with
  | deal | arrive => exact List.Subset.refl _
  | letIn | turn | dismiss => exact List.subset_append_left _ _

lemma Course.log_subset (course : Course before after) : before.jobs.log ⊆ after.jobs.log := by
  induction course with
  | refl => exact List.Subset.refl _
  | tail _ step ih => exact List.Subset.trans ih step.log_subset

theorem Hall.Sound.course (sound : before.Sound) (course : Course before after) : after.Sound := by
  induction course with
  | refl => exact sound
  | tail _ step ih => exact ih.step step

end Courses

end Admission.Executor

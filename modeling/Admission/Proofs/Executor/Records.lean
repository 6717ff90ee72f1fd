import Admission.Proofs.Executor.Halls

/-!
# What the record tells of a task

The entries about a task tell how far its future has come: whether somebody has looked at it, and what
it came to.
-/

namespace Admission.Executor

deriving instance DecidableEq for Entry

variable {L G V : Type}

namespace Jobs

/-- The future of the task came to a result, going by what was seen of it. -/
def Completed (jobs : Jobs L V G) (number : Nat) (result : Except V V) : Prop :=
  ∃ first, .looked number first (.ready result) ∈ jobs.log

def BrokeDown (jobs : Jobs L V G) (number : Nat) : Prop :=
  ∃ first text, .looked number first (.brokenDown text) ∈ jobs.log

/-- Somebody has looked at the future of the task. -/
def Started (jobs : Jobs L V G) (number : Nat) : Prop :=
  ∃ first answer, .looked number first answer ∈ jobs.log

/-- Somebody has got to the job of the task, which may have been aborted by then. -/
def PickedUp (jobs : Jobs L V G) (number : Nat) : Prop :=
  jobs.Started number ∨ .cancelled number ∈ jobs.log

/-- The future of the task has come to an end by itself. -/
def Finished (jobs : Jobs L V G) (number : Nat) : Prop :=
  (∃ result, jobs.Completed number result) ∨ jobs.BrokeDown number

/-- The future of the task came to a good end. For a task of which only the end matters, every end is
good. -/
def Succeeded (jobs : Jobs L V G) (number : Nat) : Prop :=
  ∃ task result, jobs.tasks[number]? = some task ∧ jobs.Completed number result ∧
    (task.detached = true ∨ ∃ value, result = .ok value)

end Jobs

section Records

variable {jobs : Jobs L V G} {number listener : Nat} {visits closing : List (Entry V)} {fate : Fate V}

lemma received?_of_known {task : Task V G} (known : jobs.tasks[number]? = some task) :
    jobs.received? number = task.channel.received? := by
  rw [Jobs.received?, known, Option.bind_some]

/-- Apart from admissions and looks which showed nothing, there are only the last entries. -/
lemma mem_closing (entries : jobs.entriesOf number = .admitted number listener :: (visits ++ closing))
    (unready : Unready number visits) {entry : Entry V} (about : entry.task? = some number)
    (inside : entry.listener? = none) (shows : ∀ first, entry ≠ .looked number first .pending) :
    entry ∈ jobs.log ↔ entry ∈ closing := by
  rw [← mem_entriesOf about, entries, List.mem_cons, List.mem_append]
  refine ⟨fun mem => ?_, fun mem => .inr (.inr mem)⟩
  rcases mem with rfl | old | last
  · nomatch inside
  · obtain ⟨first, same⟩ := unready _ old
    exact absurd same (shows first)
  · exact last

variable (entries : jobs.entriesOf number = .admitted number listener :: (visits ++ closing))
  (unready : Unready number visits)

include entries unready

lemma started_iff_visits (rest : ∀ first answer, .looked number first answer ∉ closing) :
    jobs.Started number ↔ visits ≠ [] := by
  unfold Jobs.Started
  constructor
  · rintro ⟨first, answer, mem⟩ rfl
    rw [← mem_entriesOf rfl, entries, List.mem_cons] at mem
    exact mem.elim nofun (rest first answer)
  · intro some
    obtain ⟨entry, mem⟩ := List.exists_mem_of_ne_nil _ some
    obtain ⟨first, rfl⟩ := unready entry mem
    refine ⟨first, .pending, ?_⟩
    rw [← mem_entriesOf rfl, entries]
    exact List.mem_cons_of_mem _ (List.mem_append_left _ mem)

variable (closes : fate.Closes number closing)

include closes

lemma completed_iff (result : Except V V) :
    jobs.Completed number result ↔ fate = .completed result := by
  have look : ∀ first, .looked number first (.ready result) ∈ jobs.log ↔
      .looked number first (.ready result) ∈ closing :=
    fun _ => mem_closing entries unready rfl rfl nofun
  unfold Jobs.Completed
  simp only [look]
  cases closes with
  | completed first seen =>
    constructor
    · rintro ⟨_, mem⟩
      cases List.mem_singleton.mp mem
      rfl
    · rintro ⟨⟩
      exact ⟨first, List.mem_singleton_self _⟩
  | brokenDown | cancelled | thrownAway => simp

lemma brokeDown_iff : jobs.BrokeDown number ↔ fate = .brokenDown := by
  have look : ∀ first text, .looked number first (.brokenDown text) ∈ jobs.log ↔
      .looked number first (.brokenDown text) ∈ closing :=
    fun _ _ => mem_closing entries unready rfl rfl nofun
  unfold Jobs.BrokeDown
  simp only [look]
  cases closes with
  | brokenDown first text => exact ⟨fun _ => rfl, fun _ => ⟨first, text, List.mem_singleton_self _⟩⟩
  | completed | cancelled | thrownAway => simp

lemma pickedUp_iff : jobs.PickedUp number ↔ visits ≠ [] ∨ fate ≠ .thrownAway := by
  have cancelled : .cancelled number ∈ jobs.log ↔ .cancelled number ∈ closing :=
    mem_closing entries unready rfl rfl nofun
  have seen : ∀ first answer, .looked number first answer ∈ closing → jobs.Started number := by
    intro first answer mem
    refine ⟨first, answer, ?_⟩
    rw [← mem_entriesOf rfl, entries]
    exact List.mem_cons_of_mem _ (List.mem_append_right _ mem)
  unfold Jobs.PickedUp
  rw [cancelled]
  cases closes with
  | completed first result =>
    exact iff_of_true (.inl (seen first _ (List.mem_singleton_self _))) (.inr nofun)
  | brokenDown first text =>
    exact iff_of_true (.inl (seen first _ (List.mem_singleton_self _))) (.inr nofun)
  | cancelled => exact iff_of_true (.inr (List.mem_singleton_self _)) (.inr nofun)
  | thrownAway =>
    rw [started_iff_visits entries unready fun _ _ => List.not_mem_nil]
    simp

lemma finished_iff : jobs.Finished number ↔ fate.IsFinished := by
  unfold Jobs.Finished
  rw [brokeDown_iff entries unready closes]
  simp only [completed_iff entries unready closes]
  cases fate <;> simp [Fate.IsFinished]

end Records

namespace Fate

variable {fate : Fate V} {fault : Option Fault} {detached visited : Bool}

lemma outcome_eq_success : fate.outcome detached visited = .success ↔
    ∃ result, fate = completed result ∧ (detached = true ∨ ∃ value, result = .ok value) := by
  cases fate with
  | completed result => cases result <;> cases detached <;> simp [outcome]
  | brokenDown | cancelled => simp [outcome]
  | thrownAway => cases visited <;> simp [outcome]

lemma outcome_eq_dropped : fate.outcome detached visited = .dropped ↔
    fate = thrownAway ∧ visited = false := by
  cases fate with
  | completed result => cases result <;> cases detached <;> simp [outcome]
  | brokenDown | cancelled => simp [outcome]
  | thrownAway => cases visited <;> simp [outcome]

lemma received?_ended_isSome (fate : Fate V) (fault : Option Fault) :
    ((Channel.ended fault fate.shown).received?).isSome := by
  cases fault <;> cases fate <;> rfl

lemma received?_ended_eq_ok {result : Except V V} :
    (Channel.ended fault fate.shown).received? = some (.ok result) ↔
      fate = completed result ∧ fault = none := by
  cases fault <;> cases fate <;> simp [Channel.ended, Channel.received?, shown]

lemma received?_ended_eq_brokenDown :
    (Channel.ended fault fate.shown).received? = some (.error .brokenDown) ↔
      fate = brokenDown ∧ fault = none := by
  cases fault <;> cases fate <;> simp [Channel.ended, Channel.received?, shown]

end Fate

end Admission.Executor

import Admission.Proofs.Executor.Manning

/-!
# Shifts

A pool at work, whatever its jobs are: jobs are given to it, workers are woken, look for jobs and go
on with the jobs which they have, in any order. Only who is awake goes on. A worker sleeps when it
stands in line or finds no job, and while its job has not ended.

Whatever happens, the pool keeps to its bounds, loses neither a job nor a worker, and lets no job wait
for which there is a worker.
-/

namespace Admission.Executor

variable {J : Type}

/-- A pool at work: the workers who can go on, and the jobs which were accepted, were started and have
ended so far. -/
structure Shift (J : Type) where
  pool : WorkerPool J
  awake : Finset Nat
  accepted : List J
  started : List J
  ended : List J

/-- What can happen in a pool. -/
inductive Event (J : Type) where
  | spawn (job : J)
  /-- A worker is woken, if only by chance. -/
  | wake (worker : Nat)
  /-- A worker without a job looks for one. -/
  | seek (worker : Nat)
  /-- A worker goes on with its job. A job which panics has ended. -/
  | look (worker : Nat) (glance : Glance)

namespace Shift

/-- All workers start looking for jobs at once. -/
def start (pool : WorkerPool J) : Shift J := ⟨pool, .range pool.workers.length, [], [], []⟩

def spawn (shift : Shift J) (job : J) : Shift J :=
  match shift.pool.push? job with
  | none => shift
  | some (pool, woken) => { shift with
      pool
      awake := shift.awake ∪ woken.toFinset
      accepted := shift.accepted ++ [job] }

/-- A worker looks for a job, and sleeps if there is none for it. -/
def seek (shift : Shift J) (worker : Nat) : Shift J :=
  let (pool, woken) := shift.pool.seek worker
  let awake := shift.awake ∪ woken.toFinset
  match pool.jobOf? worker with
  | some job => { shift with pool, awake, started := shift.started ++ [job] }
  | none => { shift with pool, awake := awake.erase worker }

/-- A worker looks at its job, and sleeps while that has not ended. -/
def look (shift : Shift J) (worker : Nat) (job : J) : Glance → Shift J
  | .unfinished _ => { shift with awake := shift.awake.erase worker }
  | .ended _ => { shift with
      pool := shift.pool.setOccupation worker .fresh
      ended := shift.ended ++ [job] }

/-- Something happens. Who sleeps does not go on. -/
def step (shift : Shift J) : Event J → Shift J
  | .spawn job => shift.spawn job
  | .wake worker => { shift with awake := insert worker shift.awake }
  | .seek worker =>
    match shift.pool.jobOf? worker with
    | none => if worker ∈ shift.awake then shift.seek worker else shift
    | some _ => shift
  | .look worker glance =>
    match shift.pool.jobOf? worker with
    | none => shift
    | some job => if worker ∈ shift.awake then shift.look worker job glance else shift

def after (shift : Shift J) (events : List (Event J)) : Shift J := events.foldl step shift

/-- The pool is staffed and manned, and its books are right: every job which was accepted waits, is
running or has ended, and those which wait are the last. -/
structure Sound (workers capacity : Nat) (shift : Shift J) : Prop where
  staffed : shift.pool.Staffed workers capacity
  manned : shift.pool.Manned shift.awake
  inOrder : shift.accepted = shift.started ++ shift.pool.queue
  once : shift.started.Perm (shift.ended ++ shift.pool.running)

variable {workers capacity worker : Nat} {shift : Shift J} {job : J}

section Step

lemma after_append (shift : Shift J) (first second : List (Event J)) :
    shift.after (first ++ second) = (shift.after first).after second := List.foldl_append

lemma step_seek_of_none (mem : worker ∈ shift.awake)
    (found : (shift.pool.seek worker).1.jobOf? worker = none) :
    shift.step (.seek worker) = { shift with
      pool := (shift.pool.seek worker).1
      awake := (shift.awake ∪ (shift.pool.seek worker).2.toFinset).erase worker } := by
  unfold Shift.step Shift.seek
  simp only [WorkerPool.idle_of_seek found, if_pos mem, found]

lemma step_seek_of_some (mem : worker ∈ shift.awake) (idle : shift.pool.jobOf? worker = none)
    (found : (shift.pool.seek worker).1.jobOf? worker = some job) :
    shift.step (.seek worker) = { shift with
      pool := (shift.pool.seek worker).1
      awake := shift.awake ∪ (shift.pool.seek worker).2.toFinset
      started := shift.started ++ [job] } := by
  unfold Shift.step Shift.seek
  simp only [idle, if_pos mem, found]

lemma step_look (mem : worker ∈ shift.awake) (busy : shift.pool.jobOf? worker = some job)
    (glance : Glance) : shift.step (.look worker glance) = shift.look worker job glance := by
  unfold Shift.step
  simp only [busy, if_pos mem]

end Step

namespace Sound

lemma spawn (sound : shift.Sound workers capacity) (job : J) :
    (shift.spawn job).Sound workers capacity := by
  obtain ⟨staffed, manned, inOrder, once⟩ := sound
  unfold Shift.spawn
  cases pushed : shift.pool.push? job with
  | none => exact ⟨staffed, manned, inOrder, once⟩
  | some result =>
    obtain ⟨next, woken⟩ := result
    have manned := manned.push? pushed
    rw [staffed.push?_eq] at pushed
    split at pushed
    · nomatch pushed
    · next free =>
      obtain ⟨rfl, rfl⟩ := Prod.mk.inj (Option.some.inj pushed)
      refine ⟨{ staffed with room := ?_ }, manned, ?_, once⟩
      · rw [List.length_append]
        exact Nat.lt_of_le_of_ne staffed.room free
      · dsimp only
        rw [inOrder, List.append_assoc]

lemma seek (sound : shift.Sound workers capacity) (idle : shift.pool.jobOf? worker = none) :
    (shift.seek worker).Sound workers capacity := by
  obtain ⟨staffed, manned, inOrder, once⟩ := sound
  have seeks := manned.seeks idle
  unfold Shift.seek
  generalize shift.pool.seek worker = result at seeks
  obtain ⟨next, woken⟩ := result
  have asleep := manned.seek seeks
  rcases seeks.books idle with ⟨still, queue, running⟩ | ⟨job, busy, queue, running⟩
  · simp only [still]
    exact ⟨staffed.seek seeks, asleep, queue ▸ inOrder,
      once.trans (running.symm.append_left shift.ended)⟩
  · simp only [busy]
    refine ⟨staffed.seek seeks, asleep.mono (Finset.erase_subset worker _), ?_, ?_⟩
    · dsimp only
      rw [inOrder, queue, List.append_assoc, List.singleton_append]
    · calc shift.started ++ [job]
        _ |>.Perm (shift.ended ++ shift.pool.running ++ [job]) := once.append_right [job]
        _ = shift.ended ++ (shift.pool.running ++ [job]) := List.append_assoc _ _ _
        _ |>.Perm (shift.ended ++ next.running) :=
          ((List.perm_append_singleton job _).trans running.symm).append_left shift.ended

lemma look (sound : shift.Sound workers capacity) (mem : worker ∈ shift.awake)
    (busy : shift.pool.jobOf? worker = some job) (glance : Glance) :
    (shift.look worker job glance).Sound workers capacity := by
  obtain ⟨staffed, manned, inOrder, once⟩ := sound
  unfold Shift.look
  cases glance with
  | unfinished alarm => exact ⟨staffed, manned.erase busy, inOrder, once⟩
  | ended fault =>
    have turns := WorkerPool.turnsTo_fresh busy
    refine ⟨staffed.turnsTo turns nofun rfl rfl le_rfl, manned.setFresh busy mem, inOrder, ?_⟩
    calc shift.started
      _ |>.Perm (shift.ended ++ shift.pool.running) := once
      _ |>.Perm (shift.ended ++ job :: (shift.pool.setOccupation worker .fresh).running) :=
        (WorkerPool.running_setFresh busy).append_left shift.ended
      _ = shift.ended ++ [job] ++ (shift.pool.setOccupation worker .fresh).running := by
        rw [List.append_assoc, List.singleton_append]

theorem step (sound : shift.Sound workers capacity) (event : Event J) :
    (shift.step event).Sound workers capacity := by
  unfold Shift.step
  cases event with
  | spawn job => exact sound.spawn job
  | wake worker => exact { sound with manned := sound.manned.mono (Finset.subset_insert _ _) }
  | seek worker =>
    dsimp only
    split
    · next idle =>
      split
      · exact sound.seek idle
      · exact sound
    · exact sound
  | look worker glance =>
    dsimp only
    split
    · exact sound
    · next job busy =>
      split
      · next mem => exact sound.look mem busy glance
      · exact sound

theorem after (sound : shift.Sound workers capacity) (events : List (Event J)) :
    (shift.after events).Sound workers capacity := by
  induction events generalizing shift with
  | nil => exact sound
  | cons event rest ih => exact ih (sound.step event)

/-- A worker who is awake and has a job, or finds one, gets to look at it. If it had none, one job less
waits then. -/
lemma looks (sound : shift.Sound workers capacity) (mem : worker ∈ shift.awake)
    (busy : (shift.pool.seek worker).1.jobOf? worker = some job) (glance : Glance) :
    ∃ (events : List (Event J)) (between : Shift J),
      shift.after events = between.look worker job glance ∧
      (between.look worker job glance).Sound workers capacity ∧ worker ∈ between.awake ∧
      between.pool = (shift.pool.seek worker).1 ∧
      between.awake ⊆ shift.awake ∪ (shift.pool.seek worker).2.toFinset ∧
      between.pool.queue.length <
        shift.pool.queue.length + (shift.pool.jobOf? worker).toList.length := by
  cases has : shift.pool.jobOf? worker with
  | some before =>
    rw [WorkerPool.seek_of_busy has] at busy ⊢
    exact ⟨[.look worker glance], shift, step_look mem busy glance, sound.look mem busy glance, mem,
      rfl, Finset.subset_union_left, Nat.lt_succ_self _⟩
  | none =>
    have found := step_seek_of_some mem has busy
    have there : worker ∈ (shift.step (.seek worker)).awake := by
      rw [found]
      exact Finset.mem_union_left _ mem
    have mine : (shift.step (.seek worker)).pool.jobOf? worker = some job := by
      rw [found]
      exact busy
    refine ⟨[.seek worker, .look worker glance], shift.step (.seek worker),
      step_look there mine glance, (sound.step (.seek worker)).look there mine glance, there, ?_⟩
    rw [found]
    refine ⟨rfl, Finset.Subset.refl _, ?_⟩
    rcases (sound.manned.seeks has).books has with ⟨still, -⟩ | ⟨first, -, queue, -⟩
    · nomatch still.symm.trans busy
    · rw [queue]
      exact Nat.lt_succ_self _

end Sound

/-- The pool runs what it accepts, in order and within its bounds. -/
structure Orderly (workers capacity : Nat) (shift : Shift J) : Prop where
  running : shift.pool.running.length ≤ workers
  waiting : shift.pool.queue.length ≤ capacity
  refuses : ∀ job, shift.pool.push? job = none ↔ shift.pool.queue.length = capacity
  /-- The jobs which were accepted start in their order, and none is left out. -/
  inOrder : shift.accepted = shift.started ++ shift.pool.queue
  /-- A job which was started is with one worker or has ended. -/
  once : shift.started.Perm (shift.ended ++ shift.pool.running)
  /-- No worker is lost, whatever the jobs do. -/
  remain : shift.pool.workers.length = workers ∧
    ∀ worker < workers, shift.pool.occupation worker ≠ .gone
  /-- When nobody can go on but with the job it has, no job waits for which there is a worker. -/
  busy : (∀ worker < workers, worker ∈ shift.awake → shift.pool.jobOf? worker ≠ none) →
    shift.pool.queue = [] ∨ ∀ worker < workers, shift.pool.jobOf? worker ≠ none

theorem Sound.orderly (sound : shift.Sound workers capacity) :
    shift.Orderly workers capacity where
  running := by
    rw [← sound.staffed.size]
    exact (List.length_filterMap_le _ _).trans_eq List.length_range
  waiting := sound.staffed.room
  refuses job := by
    rw [sound.staffed.push?_eq]
    split <;> simp [*]
  inOrder := sound.inOrder
  once := sound.once
  remain := ⟨sound.staffed.size, sound.staffed.present⟩
  busy working := by
    refine or_iff_not_imp_right.mpr fun idle => ?_
    push Not at idle
    obtain ⟨worker, below, idle⟩ := idle
    refine sound.manned.queue_eq_nil (fun other awake here => ?_)
      (sound.staffed.present worker below) idle
    have known := WorkerPool.present_of_occupation shift.pool other here
    rw [sound.staffed.size] at known
    exact working other known awake

end Shift
end Admission.Executor

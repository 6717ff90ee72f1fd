import Mathlib.Data.Finset.Option
import Admission.Proofs.Executor.Staffed

/-!
# Who goes on in a pool

A worker who looks for a job joins the line, or has the turn. With the turn it takes the first job
which waits and passes the turn on, or listens for the next job. So everybody without a job can go on
or will be woken: whoever stands in line by the one before it, and whoever listens by the next job.
-/

namespace Admission.Executor.WorkerPool

variable {J : Type} {pool next : WorkerPool J} {worker : Nat} {job : J} {woken : Option Nat}

/-- The jobs which workers have, in the order of the workers. -/
def running (pool : WorkerPool J) : List J :=
  (List.range pool.workers.length).filterMap pool.jobOf?

/-- A worker without a job has the turn, or nobody has it. -/
def IsFree (pool : WorkerPool J) (worker : Nat) : Prop :=
  (pool.occupation worker = .fresh ∧ pool.turn = none) ∨
    ((pool.occupation worker = .inLine ∨ pool.occupation worker = .listening) ∧
      pool.turn = some worker)

/-- What comes of it when a worker without a job looks for one: the pool, and the worker who is
woken. -/
inductive Seeks (pool : WorkerPool J) (worker : Nat) : WorkerPool J × Option Nat → Prop
  | joins {holder : Nat} (fresh : pool.occupation worker = .fresh) (held : pool.turn = some holder) :
      Seeks pool worker
        ({ pool.setOccupation worker .inLine with line := pool.line ++ [worker] }, none)
  | waits (inLine : pool.occupation worker = .inLine) (held : pool.turn ≠ some worker) :
      Seeks pool worker (pool, none)
  | listens (free : pool.IsFree worker) (empty : pool.queue = []) :
      Seeks pool worker ({ pool.setOccupation worker .listening with
        turn := some worker, listener := some worker }, none)
  | takes (free : pool.IsFree worker) {job : J} {rest : List J} (queue : pool.queue = job :: rest) :
      Seeks pool worker ({ pool.setOccupation worker (.busy job) with
        queue := rest, turn := pool.line.head?, line := pool.line.tail }, pool.line.head?)
  | absent (gone : pool.occupation worker = .gone) : Seeks pool worker (pool, none)

section Seeking

@[simp, grind =] lemma setOccupation_queue (occupation : Occupation J) :
    (pool.setOccupation worker occupation).queue = pool.queue := rfl

@[simp, grind =] lemma setOccupation_turn (occupation : Occupation J) :
    (pool.setOccupation worker occupation).turn = pool.turn := rfl

@[simp, grind =] lemma setOccupation_line (occupation : Occupation J) :
    (pool.setOccupation worker occupation).line = pool.line := rfl

@[simp, grind =] lemma setOccupation_listener (occupation : Occupation J) :
    (pool.setOccupation worker occupation).listener = pool.listener := rfl

lemma jobOf?_eq_some_iff : pool.jobOf? worker = some job ↔ pool.occupation worker = .busy job := by
  refine ⟨occupation_of_jobOf?, fun busy => ?_⟩
  unfold jobOf?
  rw [busy]

lemma jobOf?_eq_none_iff :
    pool.jobOf? worker = none ↔ ∀ job, pool.occupation worker ≠ .busy job := by
  rw [Option.eq_none_iff_forall_ne_some]
  exact forall_congr' fun job => not_congr jobOf?_eq_some_iff

lemma passTurn_eq (pool : WorkerPool J) : pool.passTurn =
    ({ pool with turn := pool.line.head?, line := pool.line.tail }, pool.line.head?) := by
  unfold passTurn
  split <;> simp [*]

lemma IsFree.here (free : pool.IsFree worker) : pool.occupation worker ≠ .gone := by
  unfold IsFree at free
  grind

lemma IsFree.takeJob (free : pool.IsFree worker) :
    pool.Seeks worker ({ pool with turn := some worker }.takeJob worker) := by
  unfold WorkerPool.takeJob
  split
  · next queue => exact .listens free queue
  · next job rest queue =>
    rw [passTurn_eq]
    exact .takes free queue

/-- What comes of it when a worker looks for a job, if whoever listens has the turn. -/
theorem seeks (idle : pool.jobOf? worker = none)
    (listens : pool.occupation worker = .listening → pool.turn = some worker) :
    pool.Seeks worker (pool.seek worker) := by
  have kept : pool.turn = some worker → { pool with turn := some worker } = pool :=
    fun turn => turn ▸ rfl
  unfold WorkerPool.seek
  cases doing : pool.occupation worker with
  | fresh =>
    dsimp only
    unfold takeTurn
    cases turn : pool.turn with
    | none => exact IsFree.takeJob (.inl ⟨doing, turn⟩)
    | some holder => exact .joins doing turn
  | inLine =>
    dsimp only
    split
    · next turn =>
      have found := IsFree.takeJob (.inr ⟨.inl doing, turn⟩)
      rwa [kept turn] at found
    · next held => exact .waits doing held
  | listening =>
    have turn := listens doing
    have found := IsFree.takeJob (.inr ⟨.inr doing, turn⟩)
    rwa [kept turn] at found
  | busy job => exact absurd doing (jobOf?_eq_none_iff.mp idle job)
  | gone => exact .absent doing

lemma seek_of_busy (busy : pool.jobOf? worker = some job) : pool.seek worker = (pool, none) := by
  unfold WorkerPool.seek
  rw [occupation_of_jobOf? busy]

/-- Nobody loses a job by looking for one. -/
lemma idle_of_seek (found : (pool.seek worker).1.jobOf? worker = none) :
    pool.jobOf? worker = none := by
  cases has : pool.jobOf? worker with
  | none => rfl
  | some job =>
    rw [seek_of_busy has, has] at found
    nomatch found

end Seeking

/-- The worker does something else than before, and nobody else does. -/
structure TurnsTo (pool : WorkerPool J) (worker : Nat) (occupation : Occupation J)
    (next : WorkerPool J) : Prop where
  here : pool.occupation worker ≠ .gone
  workers : next.workers = (pool.setOccupation worker occupation).workers

namespace TurnsTo

variable {occupation : Occupation J}

lemma doing (turns : pool.TurnsTo worker occupation next) (asked : Nat) :
    next.occupation asked = if asked = worker then occupation else pool.occupation asked := by
  have same : next.occupation asked = (pool.setOccupation worker occupation).occupation asked := by
    unfold WorkerPool.occupation
    rw [turns.workers]
  rw [same, occupation_setOccupation]
  by_cases mine : asked = worker
  · subst mine
    rw [if_pos ⟨rfl, present_of_occupation pool asked turns.here⟩, if_pos rfl]
  · rw [if_neg fun both => mine both.1.symm, if_neg mine]

lemma size (turns : pool.TurnsTo worker occupation next) :
    next.workers.length = pool.workers.length :=
  (congrArg List.length turns.workers).trans (List.length_modify _ _ _)

lemma isDismissed (turns : pool.TurnsTo worker occupation next) (asked : Nat) :
    next.isDismissed asked = pool.isDismissed asked := by
  unfold WorkerPool.isDismissed
  rw [turns.workers]
  unfold setOccupation
  rw [List.getElem?_modify]
  cases pool.workers[asked]? with
  | none => rfl
  | some found => by_cases same : worker = asked <;> simp [same]

lemma jobOf?_of_ne (turns : pool.TurnsTo worker occupation next) {asked : Nat}
    (other : asked ≠ worker) : next.jobOf? asked = pool.jobOf? asked := by
  unfold jobOf?
  rw [turns.doing, if_neg other]

lemma jobOf?_busy (turns : pool.TurnsTo worker (.busy job) next) :
    next.jobOf? worker = some job :=
  jobOf?_eq_some_iff.mpr ((turns.doing worker).trans (if_pos rfl))

lemma jobOf?_idle (turns : pool.TurnsTo worker occupation next)
    (jobless : ∀ job, occupation ≠ .busy job) : next.jobOf? worker = none :=
  jobOf?_eq_none_iff.mpr fun job busy =>
    jobless job (((turns.doing worker).trans (if_pos rfl)).symm.trans busy)

/-- The jobs which are running are those of the others, and the one of the worker if it has one. -/
lemma running_perm (turns : pool.TurnsTo worker occupation next) :
    ∃ others, pool.running.Perm ((pool.jobOf? worker).toList ++ others) ∧
      next.running.Perm ((next.jobOf? worker).toList ++ others) := by
  let rest := (List.range pool.workers.length).erase worker
  have first : (List.range pool.workers.length).Perm (worker :: rest) :=
    List.perm_cons_erase (List.mem_range.mpr (present_of_occupation pool worker turns.here))
  have same : rest.filterMap next.jobOf? = rest.filterMap pool.jobOf? :=
    List.filterMap_congr fun asked mem =>
      turns.jobOf?_of_ne (List.nodup_range.mem_erase_iff.mp mem).1
  have split : ∀ jobOf? : Nat → Option J, (worker :: rest).filterMap jobOf? =
      (jobOf? worker).toList ++ rest.filterMap jobOf? := by
    intro jobOf?
    rw [List.filterMap_cons]
    cases jobOf? worker <;> rfl
  refine ⟨rest.filterMap pool.jobOf?, ?_, ?_⟩
  · rw [← split]
    exact first.filterMap pool.jobOf?
  · rw [← same, ← split, running, turns.size]
    exact first.filterMap next.jobOf?

end TurnsTo

/-- A worker who has looked for a job has the first which waited, or there is none for it. -/
lemma Seeks.books (seeks : pool.Seeks worker (next, woken)) (idle : pool.jobOf? worker = none) :
    (next.jobOf? worker = none ∧ next.queue = pool.queue ∧ next.running.Perm pool.running) ∨
      ∃ job, next.jobOf? worker = some job ∧ pool.queue = job :: next.queue ∧
        next.running.Perm (job :: pool.running) := by
  have unchanged : ∀ {occupation}, pool.TurnsTo worker occupation next →
      (∀ job, occupation ≠ .busy job) →
      next.jobOf? worker = none ∧ next.running.Perm pool.running := by
    intro occupation turns jobless
    have still := turns.jobOf?_idle jobless
    obtain ⟨others, before, after⟩ := turns.running_perm
    rw [idle] at before
    rw [still] at after
    exact ⟨still, after.trans before.symm⟩
  cases seeks with
  | joins fresh held =>
    obtain ⟨still, running⟩ := unchanged ⟨by rw [fresh]; nofun, rfl⟩ nofun
    exact .inl ⟨still, rfl, running⟩
  | waits inLine held => exact .inl ⟨idle, rfl, .refl _⟩
  | listens free empty =>
    obtain ⟨still, running⟩ := unchanged ⟨free.here, rfl⟩ nofun
    exact .inl ⟨still, rfl, running⟩
  | @takes free job rest queue =>
    have turns : pool.TurnsTo worker (.busy job) { pool.setOccupation worker (.busy job) with
        queue := rest, turn := pool.line.head?, line := pool.line.tail } := ⟨free.here, rfl⟩
    obtain ⟨others, before, after⟩ := turns.running_perm
    rw [idle] at before
    rw [turns.jobOf?_busy] at after
    exact .inr ⟨job, turns.jobOf?_busy, queue, after.trans (before.symm.cons job)⟩
  | absent gone => exact .inl ⟨idle, rfl, .refl _⟩

/-- A worker whose job has ended is like one who has just started. -/
lemma turnsTo_fresh (busy : pool.jobOf? worker = some job) :
    pool.TurnsTo worker .fresh (pool.setOccupation worker .fresh) := by
  refine ⟨?_, rfl⟩
  rw [occupation_of_jobOf? busy]
  nofun

lemma running_setFresh (busy : pool.jobOf? worker = some job) :
    pool.running.Perm (job :: (pool.setOccupation worker .fresh).running) := by
  obtain ⟨others, before, after⟩ := (turnsTo_fresh busy).running_perm
  rw [busy] at before
  rw [(turnsTo_fresh busy).jobOf?_idle nofun] at after
  exact before.trans (after.symm.cons job)

/-- Everybody without a job is awake or will be woken: whoever stands in line by the one before it,
and whoever listens by the next job. -/
structure Manned (pool : WorkerPool J) (awake : Finset Nat) : Prop where
  fresh : ∀ worker, pool.occupation worker = .fresh → worker ∈ awake
  turn : ∀ worker, pool.turn = some worker →
    (pool.occupation worker = .inLine ∧ worker ∈ awake) ∨ pool.occupation worker = .listening
  listening : ∀ worker, pool.occupation worker = .listening →
    pool.turn = some worker ∧ (worker ∈ awake ∨ pool.listener = some worker)
  listener : ∀ worker, pool.listener = some worker →
    pool.occupation worker = .listening ∧ pool.queue = []
  line : ∀ worker ∈ pool.line, pool.occupation worker = .inLine ∧ pool.turn ≠ some worker
  inLine : ∀ worker, pool.occupation worker = .inLine →
    worker ∈ pool.line ∨ pool.turn = some worker
  apart : pool.line.Nodup
  held : pool.turn = none → pool.line = []

namespace Manned

variable {awake : Finset Nat}

lemma seeks (manned : pool.Manned awake) (idle : pool.jobOf? worker = none) :
    pool.Seeks worker (pool.seek worker) :=
  WorkerPool.seeks idle fun listens => (manned.listening worker listens).1

/-- Waking somebody does no harm. -/
lemma mono (manned : pool.Manned awake) {more : Finset Nat} (sub : awake ⊆ more) :
    pool.Manned more :=
  { manned with
    fresh := fun worker fresh => sub (manned.fresh worker fresh)
    turn := fun worker turn => (manned.turn worker turn).imp_left (.imp_right fun mem => sub mem)
    listening := fun worker listens =>
      (manned.listening worker listens).imp_right (.imp_left fun mem => sub mem) }

/-- Whoever has a job may sleep. -/
lemma erase (manned : pool.Manned awake) (busy : pool.jobOf? worker = some job) :
    pool.Manned (awake.erase worker) := by
  have busy := occupation_of_jobOf? busy
  obtain ⟨fresh, turn, listening, listener, line, inLine, apart, held⟩ := manned
  constructor <;> grind

/-- Whoever has ended a job looks for the next. -/
lemma setFresh (manned : pool.Manned awake) (busy : pool.jobOf? worker = some job)
    (mem : worker ∈ awake) : (pool.setOccupation worker .fresh).Manned awake := by
  have doing := (turnsTo_fresh busy).doing
  have busy := occupation_of_jobOf? busy
  obtain ⟨fresh, turn, listening, listener, line, inLine, apart, held⟩ := manned
  constructor <;> grind

/-- A job wakes whoever listens. -/
lemma push? (manned : pool.Manned awake) (pushed : pool.push? job = some (next, woken)) :
    next.Manned (awake ∪ woken.toFinset) := by
  unfold WorkerPool.push? at pushed
  split at pushed
  · nomatch pushed
  · obtain ⟨rfl, rfl⟩ := Prod.mk.inj (Option.some.inj pushed)
    have more : pool.Manned (awake ∪ pool.listener.toFinset) :=
      manned.mono Finset.subset_union_left
    refine { more with listening := fun worker listens => ?_, listener := nofun }
    obtain ⟨turn, awake | listener⟩ := manned.listening worker listens
    · exact ⟨turn, .inl (Finset.mem_union_left _ awake)⟩
    · exact ⟨turn, .inl (Finset.mem_union_right _ (Option.mem_toFinset.mpr listener))⟩

/-- Whoever has looked for a job may sleep. -/
lemma seek (manned : pool.Manned awake) (seeks : pool.Seeks worker (next, woken)) :
    next.Manned ((awake ∪ woken.toFinset).erase worker) := by
  have nobody : awake ∪ Option.toFinset none = awake := Finset.union_empty awake
  obtain ⟨fresh, turn, listening, listener, line, inLine, apart, held⟩ := manned
  cases seeks with
  | joins mine has =>
    -- The turn is with somebody else, because whoever has it is not fresh.
    have turns : pool.TurnsTo worker .inLine
        { pool.setOccupation worker .inLine with line := pool.line ++ [worker] } :=
      ⟨by rw [mine]; nofun, rfl⟩
    constructor <;> simp only [turns.doing, nobody] <;> grind
  | waits mine has => constructor <;> grind
  | listens free empty =>
    have turns : pool.TurnsTo worker .listening { pool.setOccupation worker .listening with
        turn := some worker, listener := some worker } := ⟨free.here, rfl⟩
    unfold IsFree at free
    constructor <;> simp only [turns.doing, nobody] <;> grind
  | @takes free job rest queue =>
    -- As a job waits nobody else listens. The turn goes to the first in line, who is woken.
    have turns : pool.TurnsTo worker (.busy job) { pool.setOccupation worker (.busy job) with
        queue := rest, turn := pool.line.head?, line := pool.line.tail } := ⟨free.here, rfl⟩
    have doing := turns.doing
    unfold IsFree at free
    cases standing : pool.line with
    | nil =>
      simp only [standing] at doing
      constructor <;> simp only [doing] <;> grind
    | cons first others =>
      simp only [standing] at doing
      constructor <;> simp only [doing] <;> grind [Option.mem_toFinset]
  | absent gone => constructor <;> grind

/-- If everybody who is awake has a job, a worker without a job has found the queue empty, or waits
for one who has. -/
lemma queue_eq_nil (manned : pool.Manned awake)
    (working : ∀ other ∈ awake, pool.occupation other ≠ .gone → pool.jobOf? other ≠ none)
    (here : pool.occupation worker ≠ .gone) (idle : pool.jobOf? worker = none) :
    pool.queue = [] := by
  simp only [ne_eq, jobOf?_eq_none_iff] at working idle
  have listens : ∀ {holder}, pool.turn = some holder → pool.queue = [] := by
    intro holder turn
    rcases manned.turn holder turn with ⟨inLine, mem⟩ | listening
    · exact (working holder mem (by rw [inLine]; nofun) (by rw [inLine]; nofun)).elim
    · have waits : pool.listener = some holder :=
        (manned.listening holder listening).2.resolve_left fun mem =>
          working holder mem (by rw [listening]; nofun) (by rw [listening]; nofun)
      exact (manned.listener holder waits).2
  cases doing : pool.occupation worker with
  | fresh => exact (working worker (manned.fresh worker doing) here idle).elim
  | inLine =>
    cases turn : pool.turn with
    | none =>
      have waits := (manned.inLine worker doing).resolve_right (by rw [turn]; nofun)
      rw [manned.held turn] at waits
      nomatch waits
    | some holder => exact listens turn
  | listening => exact listens (manned.listening worker doing).1
  | busy job => exact absurd doing (idle job)
  | gone => exact absurd doing here

end Manned

/-- The pool is as it was opened: it holds no more, and nobody has gone or is to go. -/
structure Staffed (workers capacity : Nat) (pool : WorkerPool J) : Prop where
  holds : pool.capacity = capacity
  isOpen : pool.closed = false
  size : pool.workers.length = workers
  present : ∀ worker < workers, pool.occupation worker ≠ .gone
  stays : ∀ worker, pool.isDismissed worker = false
  room : pool.queue.length ≤ capacity

namespace Staffed

variable {workers capacity : Nat}

lemma turnsTo {occupation : Occupation J} (staffed : pool.Staffed workers capacity)
    (turns : pool.TurnsTo worker occupation next) (remains : occupation ≠ .gone)
    (capacities : next.capacity = pool.capacity) (closed : next.closed = pool.closed)
    (fewer : next.queue.length ≤ pool.queue.length) : next.Staffed workers capacity where
  holds := capacities.trans staffed.holds
  isOpen := closed.trans staffed.isOpen
  size := turns.size.trans staffed.size
  present asked below := by
    rw [turns.doing]
    split
    · exact remains
    · exact staffed.present asked below
  stays asked := (turns.isDismissed asked).trans (staffed.stays asked)
  room := fewer.trans staffed.room

lemma seek (staffed : pool.Staffed workers capacity) (seeks : pool.Seeks worker (next, woken)) :
    next.Staffed workers capacity := by
  cases seeks with
  | joins fresh held => exact staffed.turnsTo ⟨by rw [fresh]; nofun, rfl⟩ nofun rfl rfl le_rfl
  | waits inLine held => exact staffed
  | listens free empty => exact staffed.turnsTo ⟨free.here, rfl⟩ nofun rfl rfl le_rfl
  | @takes free job rest queue =>
    refine staffed.turnsTo ⟨free.here, rfl⟩ nofun rfl rfl ?_
    rw [queue]
    exact Nat.le_succ rest.length
  | absent gone => exact staffed

/-- A pool which is open refuses a job when it is full. -/
lemma push?_eq (staffed : pool.Staffed workers capacity) (job : J) :
    pool.push? job = if pool.queue.length = capacity then none
      else some ({ pool with queue := pool.queue ++ [job], listener := none }, pool.listener) := by
  have full : (pool.closed || pool.capacity ≤ pool.queue.length) = true ↔
      pool.queue.length = capacity := by
    rw [staffed.isOpen, staffed.holds, Bool.false_or, decide_eq_true_iff]
    exact ⟨staffed.room.antisymm, fun same => same.ge⟩
  unfold WorkerPool.push?
  simp only [full]

end Staffed

/-- A pool which has just been opened. -/
def opened (workers capacity : Nat) : WorkerPool J where
  capacity := capacity
  queue := []
  workers := .replicate workers ⟨.fresh, false⟩
  turn := none
  line := []
  listener := none
  closed := false

section Opened

variable (workers capacity : Nat)

end Opened

end Admission.Executor.WorkerPool

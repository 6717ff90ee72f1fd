import Admission.Proofs.Waiting.Governed

/-!
# Capacity while somebody waits

Over a gate with a fixed limit the permits in use and those which are promised to a caller who was
woken never exceed the limit, and while somebody waits their number does not change. So permits
lie idle while somebody waits only where a queue starts while more permits are free than were
promised. This happens after a job has ended with nobody to wake.
-/

namespace Admission.Waiting

open Session (Room)

variable {C : Type} {limit : Nat}

/-- The permits which are in use or promised. -/
def spent {α : Type} (room : Room (Waiting (Gate α)) Place) : Nat :=
  room.running + room.limiter.queue.woken

/-- A gate of a fixed limit whose permits are enough for everybody who runs or was woken. -/
structure Budget (limit : Nat) (room : Room (Waiting (Gate Fixed)) Place) : Prop where
  governed : ∃ tally, Governed (⟨limit⟩ : Fixed) tally room
  covers : spent room ≤ limit

lemma eq_of_fixed_reaches {later : Fixed} (reached : Algorithm.Reaches (⟨limit⟩ : Fixed) later) :
    later = ⟨limit⟩ := by
  induction reached with
  | start => rfl
  | update sample _ ih => exact ih

lemma eq_limit_of_gives {given : Nat} (gives : Algorithm.Gives (⟨limit⟩ : Fixed) given) :
    given = limit := by
  rcases gives with rfl | ⟨later, sample, reached, chosen⟩
  · rfl
  · rw [eq_of_fixed_reaches reached] at chosen
    exact (Except.ok.inj chosen).symm

lemma fixed_choosesUpTo (limit : Nat) : Algorithm.ChoosesUpTo (⟨limit⟩ : Fixed) limit := by
  intro later reached sample
  rw [eq_of_fixed_reaches reached]
  exact ⟨limit, Nat.le_refl _, rfl⟩

lemma Budget.available {room : Room (Waiting (Gate Fixed)) Place} (budget : Budget limit room) :
    room.limiter.inner.available = limit - room.running := by
  obtain ⟨⟨tally, counted, inFlight, under, -⟩, -⟩ := budget
  rw [counted, Tally.gate_available, inFlight, eq_limit_of_gives under.given]

section Turns

variable {before after : Room (Waiting (Gate Fixed)) Place}

lemma Budget.not_full {limiter : Waiting (Gate Fixed)} {places running inner} {ctx : C}
    {ticket : Nat} (budget : Budget limit ⟨limiter, places, running⟩)
    (sound : limiter.queue.Sound) (sent : ticket ∈ limiter.queue.sent) :
    Limiter.acquireNow limiter.inner ctx ≠ (inner, .ok none) := by
  intro denies
  obtain ⟨⟨tally, governed⟩, covers⟩ := budget
  have full := governed.full denies
  have promised := sound.woken_pos sent
  rw [eq_limit_of_gives governed.under.given] at full
  dsimp only [spent] at covers
  omega

lemma Budget.turn_spent (turn : Turn C before after) (lined : Lined before)
    (budget : Budget limit before) : spent after ≤ limit ∧
      (after.limiter.queue.waiters ≠ [] →
        before.limiter.queue.waiters ≠ [] ∧ spent after = spent before) := by
  have covers := budget.covers
  obtain ⟨tally, governed⟩ := budget.governed
  cases turn with
  | enter quiet grants =>
    have nobody := TicketQueue.isBusy_eq_false_iff.mp quiet
    have free := governed.free grants
    rw [eq_limit_of_gives governed.under.given] at free
    dsimp only [spent] at covers ⊢
    exact ⟨by omega, fun waits => absurd nobody.1 waits⟩
  | deny quiet denies => exact ⟨covers, fun waits => ⟨waits, rfl⟩⟩
  | skip => exact ⟨covers, fun waits => ⟨waits, rfl⟩⟩
  | leave =>
    have woken := lined.sound.leave_woken lined.mem
    dsimp only [spent, abandon] at woken covers ⊢
    refine ⟨by omega, fun waits => ?_⟩
    have woken_same := woken.2 waits
    exact ⟨woken_same.1, by omega⟩
  | letIn sent grants =>
    have used := lined.sound.use_woken sent
    dsimp only [spent] at used covers ⊢
    exact ⟨by omega, fun waits => ⟨waits, by omega⟩⟩
  | lapse sent denies => exact absurd denies (budget.not_full lined.sound sent)
  | @release limiter _ _ _ _ _ _ releases =>
    have woken_le := limiter.queue.wakeFront_woken_le
    dsimp only [spent] at covers ⊢
    refine ⟨by omega, fun waits => ?_⟩
    have woken := TicketQueue.wakeFront_woken_of_waits waits
    exact ⟨woken.1, by omega⟩

lemma Budget.turn (turn : Turn C before after) (lined : Lined before)
    (budget : Budget limit before) : Budget limit after := by
  obtain ⟨tally, governed⟩ := budget.governed
  exact ⟨governed.turn turn, (budget.turn_spent turn lined).1⟩

lemma Budget.arrival (arrival : Arrival C before after) (budget : Budget limit before) :
    Budget limit after ∧ spent after = spent before := by
  obtain ⟨tally, governed⟩ := budget.governed
  have same : spent after = spent before := by
    cases arrival with
    | behind busy ticket => rfl
    | denied quiet denies ticket => rfl
  exact ⟨⟨governed.arrival arrival, same ▸ budget.covers⟩, same⟩

lemma Budget.not_putBack (lined : Lined before) (budget : Budget limit before) :
    ¬PutBack C before after := by
  rintro ⟨sent, denies⟩
  exact budget.not_full lined.sound sent denies

lemma Budget.not_failure (countable : limit ≤ maxPermits) (budget : Budget limit before) :
    ¬Failure C before after := by
  obtain ⟨tally, governed⟩ := budget.governed
  exact governed.not_failure ((fixed_choosesUpTo limit).mono countable) countable

end Turns

section Steps

open Session (Action)

variable {session : Session C (Waiting (Gate Fixed)) Unit Place}

/-- While somebody waits every free permit is promised to a caller who was woken. -/
def NothingIdle (session : Session C (Waiting (Gate Fixed)) Unit Place) : Prop :=
  session.limiter.queue.waiters ≠ [] →
    session.limiter.inner.available ≤ session.limiter.queue.woken

/-- If the action starts a queue, every permit which was free before it was promised. -/
def QueuesWhenSpent (session : Session C (Waiting (Gate Fixed)) Unit Place) (action : Action C) :
    Prop :=
  session.limiter.queue.waiters = [] → (session.step action).1.limiter.queue.waiters ≠ [] →
    session.limiter.inner.available ≤ session.limiter.queue.woken

instance : Decidable (NothingIdle session) :=
  inferInstanceAs (Decidable (_ → _))

instance (action : Action C) : Decidable (QueuesWhenSpent session action) :=
  inferInstanceAs (Decidable (_ → _ → _))

/-- A session over a gate of a fixed limit. -/
structure Standing (limit : Nat) (session : Session C (Waiting (Gate Fixed)) Unit Place) :
    Prop where
  kept : session.Kept
  lined : Lined session.room
  budget : Budget limit session.room

lemma Standing.available_le_iff (standing : Standing limit session) :
    session.limiter.inner.available ≤ session.limiter.queue.woken ↔
      limit ≤ spent session.room := by
  have available : session.limiter.inner.available = limit - session.room.running :=
    standing.budget.available
  change _ ↔ limit ≤ session.room.running + session.limiter.queue.woken
  omega

/-- No step meets a fault, and none changes what is spent if somebody waits after it. -/
lemma Standing.step (standing : Standing limit session) (countable : limit ≤ maxPermits)
    (action : Action C) :
    Standing limit (session.step action).1 ∧ (session.step action).2.isFault = false ∧
      ((session.step action).1.limiter.queue.waiters ≠ [] →
        spent (session.step action).1.room = spent session.room) := by
  obtain ⟨kept, lined, budget⟩ := standing
  -- A step may take many turns, so what is spent is compared with its value before the step.
  let Steady (room : Room (Waiting (Gate Fixed)) Place) : Prop :=
    Budget limit room ∧ (room.limiter.queue.waiters ≠ [] → spent room = spent session.room)
  obtain ⟨ends, kept_after⟩ : Session.Ends C (fun room => Lined room ∧ Steady room)
      (session.step action) ∧ (session.step action).1.Kept := by
    apply step_ends
    · rintro before after turn lined ⟨budget, same⟩
      refine ⟨budget.turn turn lined, fun waits => ?_⟩
      obtain ⟨waited, unchanged⟩ := (budget.turn_spent turn lined).2 waits
      rw [unchanged, same waited]
    · rintro before after back lined ⟨budget, -⟩
      exact absurd back (budget.not_putBack lined)
    · exact kept
    · exact ⟨lined, budget, fun _ => rfl⟩
    · intro next arrival
      obtain ⟨budget_next, same⟩ := budget.arrival arrival
      exact ⟨budget_next, fun _ => same⟩
  have fine : (session.step action).2.isFault = false := by
    apply ends.fine
    rintro fault before after ⟨-, budget, -⟩ mishap
    exact budget.not_failure countable (failure_of_mishap mishap)
  obtain ⟨lined_after, budget_after, same⟩ := ends.of_fine fine
  exact ⟨⟨kept_after, lined_after, budget_after⟩, fine, same⟩

lemma Standing.nothingIdle_iff (standing : Standing limit session) (countable : limit ≤ maxPermits)
    (idle : NothingIdle session) (action : Action C) :
    NothingIdle (session.step action).1 ↔ QueuesWhenSpent session action := by
  obtain ⟨standing_after, -, same⟩ := standing.step countable action
  have free_iff : (session.step action).1.limiter.queue.waiters ≠ [] →
      ((session.step action).1.limiter.inner.available ≤
          (session.step action).1.limiter.queue.woken ↔
        session.limiter.inner.available ≤ session.limiter.queue.woken) := by
    intro waits
    rw [standing.available_le_iff, standing_after.available_le_iff, same waits]
  constructor
  · intro idle_after _ waits
    exact (free_iff waits).mp (idle_after waits)
  · intro queues waits
    apply (free_iff waits).mpr
    by_cases waited : session.limiter.queue.waiters = []
    · exact queues waited waits
    · exact idle waited

end Steps

/-- Over a gate of a fixed limit no permit lies idle while somebody waits, exactly in those runs in
which a queue starts only when every free permit is promised. No run meets a fault. -/
theorem nothing_idle_iff_queues_when_spent {gate : Gate Fixed}
    (created : Gate.create (⟨limit⟩ : Fixed) = .ok gate) (timeout : Option Nat)
    (actions : List (Session.Action C)) :
    let fresh : Session C (Waiting (Gate Fixed)) Unit Place :=
      Session.start (create gate timeout)
    fresh.Faultless actions ∧
      (Session.Along (fun session action => NothingIdle (session.step action).1) fresh actions ↔
        Session.Along QueuesWhenSpent fresh actions) := by
  intro fresh
  have countable : limit ≤ maxPermits := (Tally.of_create created).2.1
  have standing : Standing limit fresh :=
    ⟨Session.start_kept _, create_lined gate timeout, ⟨_, create_governed created timeout⟩,
      Nat.zero_le _⟩
  have chooses : Algorithm.ChoosesUpTo (⟨limit⟩ : Fixed) maxPermits :=
    (fixed_choosesUpTo limit).mono countable
  refine ⟨governed_faultless created chooses timeout actions, ?_⟩
  apply Session.along_congr (I := fun session => Standing limit session ∧ NothingIdle session)
  · intro session action now _
    exact now.1.nothingIdle_iff countable now.2 action
  · intro session action now _ queues
    have idle_after := (now.1.nothingIdle_iff countable now.2 action).mpr queues
    exact ⟨(now.1.step countable action).1, idle_after⟩
  · exact ⟨standing, fun waits => absurd rfl waits⟩
  · exact Session.along_true fresh actions

/-- A queue starts while the only permit is in use, and the permit stays promised from one caller
to the next. -/
theorem nothing_idle_iff_queues_when_spent_at_one :
    ∃ gate, Gate.create (⟨1⟩ : Fixed) = .ok gate ∧
      let fresh : Session Unit (Waiting (Gate Fixed)) Unit Place :=
        Session.start (create gate none)
      Session.Along (fun session action => NothingIdle (session.step action).1) fresh
        [.acquire "a" () false, .acquire "x" () false, .acquire "y" () false,
          .resolve "a" .success, .abandon "x", .poll "y"] := by
  have created : Gate.create (⟨1⟩ : Fixed) = .ok (Tally.start ⟨1⟩).gate := rfl
  refine ⟨_, created, ?_⟩
  apply (nothing_idle_iff_queues_when_spent created none _).2.mpr
  refine ⟨?_, ?_, ?_, ?_, ?_, ?_, trivial⟩ <;> decide

/-- Two jobs end with one caller to wake, and the next caller starts a queue before the first has
come back: one permit is promised, and the other lies idle while that caller waits. -/
theorem permit_idle_while_somebody_waits :
    ∃ gate, Gate.create (⟨2⟩ : Fixed) = .ok gate ∧
      let session : Session Unit (Waiting (Gate Fixed)) Unit Place :=
        (Session.start (create gate none)).after
          [.acquire "a" () false, .acquire "b" () false, .acquire "x" () false,
            .resolve "a" .success, .resolve "b" .success, .acquire "y" () false]
      ¬NothingIdle session := by
  exact ⟨_, rfl, by decide⟩

end Admission.Waiting

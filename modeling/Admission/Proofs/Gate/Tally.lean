import Admission.Limiter
import Admission.Proofs.Gate.Permits

/-!
# Gates as two numbers

All of a gate's counters are determined by two numbers, the limit and how many jobs are in flight:
`max (limit - inFlight) 0` permits are free and `max (inFlight - limit) 0` are owed. This file
defines the machine which keeps just these two, and shows that a gate does to its counters what
the machine does to the two numbers, as long as the permits can be counted.
-/

namespace Admission

/-- The states which an algorithm comes to from a first one by learning from samples. -/
inductive Algorithm.Reaches {α : Type} [Algorithm α] (rule : α) : α → Prop
  | start : Reaches rule rule
  | update {later : α} (sample : Sample) :
    Reaches rule later → Reaches rule (Algorithm.update later sample).1

/-- The limits which an algorithm may choose after samples. -/
def Algorithm.Chooses {α : Type} [Algorithm α] (rule : α) (limit : Nat) : Prop :=
  ∃ later sample, Algorithm.Reaches rule later ∧ (Algorithm.update later sample).2 = .ok limit

/-- The limits which an algorithm has a gate keep: the first one, and those it chooses. -/
def Algorithm.Gives {α : Type} [Algorithm α] (rule : α) (limit : Nat) : Prop :=
  limit = Algorithm.limit rule ∨ Algorithm.Chooses rule limit

/-- After every sample the algorithm chooses a limit, and never one above the bound. -/
def Algorithm.ChoosesUpTo {α : Type} [Algorithm α] (rule : α) (bound : Nat) : Prop :=
  ∀ later, Algorithm.Reaches rule later → ∀ sample,
    ∃ limit ≤ bound, (Algorithm.update later sample).2 = .ok limit

lemma Algorithm.ChoosesUpTo.le {α : Type} [Algorithm α] {rule : α} {bound limit : Nat}
    (chooses : Algorithm.ChoosesUpTo rule bound) (chosen : Algorithm.Chooses rule limit) :
    limit ≤ bound := by
  obtain ⟨later, sample, reached, gives⟩ := chosen
  obtain ⟨other, bounded, same⟩ := chooses later reached sample
  rw [gives] at same
  rwa [Except.ok.inj same]

lemma Algorithm.ChoosesUpTo.mono {α : Type} [Algorithm α] {rule : α} {bound larger : Nat}
    (chooses : Algorithm.ChoosesUpTo rule bound) (le : bound ≤ larger) :
    Algorithm.ChoosesUpTo rule larger := by
  intro later reached sample
  obtain ⟨limit, bounded, chosen⟩ := chooses later reached sample
  exact ⟨limit, Nat.le_trans bounded le, chosen⟩

lemma Algorithm.ChoosesUpTo.gives_le {α : Type} [Algorithm α] {rule : α} {bound limit : Nat}
    (chooses : Algorithm.ChoosesUpTo rule bound) (first : Algorithm.limit rule ≤ bound)
    (given : Algorithm.Gives rule limit) : limit ≤ bound := by
  rcases given with rfl | chosen
  · exact first
  · exact chooses.le chosen

lemma Scripted.next_of_reaches {scripted later : Scripted}
    (reached : Algorithm.Reaches scripted later) : later.next = scripted.next := by
  induction reached with
  | start => rfl
  | update sample _ ih => exact ih

lemma Scripted.eq_next_of_chooses {scripted : Scripted} {limit : Nat}
    (chosen : Algorithm.Chooses scripted limit) : limit = scripted.next := by
  obtain ⟨later, sample, reached, gives⟩ := chosen
  rw [← Scripted.next_of_reaches reached]
  exact (Except.ok.inj gives).symm

lemma Scripted.choosesUpTo (scripted : Scripted) : Algorithm.ChoosesUpTo scripted scripted.next :=
  fun later reached _ => ⟨later.next, Nat.le_of_eq (Scripted.next_of_reaches reached), rfl⟩

/-- A limit, and how many jobs are in flight. -/
structure Tally (α : Type) where
  algorithm : α
  limit : Nat
  inFlight : Nat
  deriving Repr

namespace Tally

variable {α : Type}

/-- Nobody is in flight yet. -/
def start [Algorithm α] (rule : α) : Tally α := ⟨rule, Algorithm.limit rule, 0⟩

/-- One more job, if there are fewer than the limit. -/
def enter? (tally : Tally α) : Option (Tally α) :=
  if tally.inFlight < tally.limit then some { tally with inFlight := tally.inFlight + 1 }
  else none

/-- The algorithm chooses the limit, unless the outcome is to be ignored. Where it fails to, the
limit stays. -/
def learn [Algorithm α] (tally : Tally α) (outcome : Outcome) (latency : Nat) : Tally α :=
  if outcome = .ignore then tally
  else
    let sample := { latency := latency, inFlight := tally.inFlight, outcome := outcome }
    match Algorithm.update tally.algorithm sample with
    | (algorithm, .ok limit) => { tally with algorithm := algorithm, limit := limit }
    | (algorithm, .error _) => { tally with algorithm := algorithm }

/-- The algorithm fails to choose a limit when a job ends. -/
def Fails [Algorithm α] (tally : Tally α) (outcome : Outcome) (latency : Nat) : Prop :=
  outcome ≠ .ignore ∧
    ∃ rule fault, Algorithm.update tally.algorithm ⟨latency, tally.inFlight, outcome⟩ =
      (rule, .error fault)

/-- One job less. -/
def leave [Algorithm α] (tally : Tally α) (outcome : Outcome) (latency : Nat) : Tally α :=
  { tally.learn outcome latency with inFlight := tally.inFlight - 1 }

/-- The numbers have come from those at which a rule starts. -/
structure Under [Algorithm α] (tally : Tally α) (rule : α) : Prop where
  reached : Algorithm.Reaches rule tally.algorithm
  given : Algorithm.Gives rule tally.limit

/-- The gate which the two numbers describe. -/
def gate (tally : Tally α) : Gate α where
  algorithm := tally.algorithm
  limit := tally.limit
  available := tally.limit - tally.inFlight
  inFlight := tally.inFlight
  debt := tally.inFlight - tally.limit

/-- The two numbers as a limiter of their own. It cannot fail. -/
instance {C : Type} [Algorithm α] : Limiter C (Tally α) Unit Empty where
  acquireNow tally _ :=
    match tally.enter? with
    | some tally => (tally, .ok (some ()))
    | none => (tally, .ok none)
  acquire tally _ _ :=
    match tally.enter? with
    | some tally => (tally, .ok (.admitted ()))
    | none => (tally, .ok (.refused .rejected))
  poll _ _ place _ := nomatch place
  abandon tally _ := tally
  isWoken _ place := nomatch place
  deadline? place := nomatch place
  release tally _ outcome latency := (tally.leave outcome latency, none)

@[simp] lemma gate_algorithm (tally : Tally α) : tally.gate.algorithm = tally.algorithm := rfl
@[simp] lemma gate_limit (tally : Tally α) : tally.gate.limit = tally.limit := rfl
@[simp] lemma gate_inFlight (tally : Tally α) : tally.gate.inFlight = tally.inFlight := rfl
@[simp] lemma gate_available (tally : Tally α) :
    tally.gate.available = tally.limit - tally.inFlight := rfl
@[simp] lemma gate_debt (tally : Tally α) : tally.gate.debt = tally.inFlight - tally.limit := rfl

lemma create_eq_ok [Algorithm α] {rule : α} (first : 1 ≤ Algorithm.limit rule)
    (fits : Algorithm.limit rule ≤ maxPermits) : Gate.create rule = .ok (start rule).gate := by
  have positive : Algorithm.limit rule ≠ 0 := by omega
  have counted : ¬maxPermits < Algorithm.limit rule := by omega
  simp [Gate.create, start, gate, positive, counted]

lemma of_create [Algorithm α] {rule : α} {gate : Gate α} (created : Gate.create rule = .ok gate) :
    1 ≤ Algorithm.limit rule ∧ Algorithm.limit rule ≤ maxPermits ∧ gate = (start rule).gate := by
  unfold Gate.create at created
  by_cases first : Algorithm.limit rule = 0
  · simp [first] at created
  · by_cases tooHigh : maxPermits < Algorithm.limit rule
    · simp [first, tooHigh] at created
    · have made : Gate.create rule = .ok (start rule).gate := create_eq_ok (by omega) (by omega)
      simp only [Gate.create, first, tooHigh, if_false, Except.ok.injEq] at made created
      exact ⟨by omega, by omega, created.symm.trans made⟩

lemma gate_enter? (tally : Tally α) : tally.gate.enter? = tally.enter?.map gate := by
  by_cases room : tally.inFlight < tally.limit
  · have free : tally.limit - tally.inFlight ≠ 0 := by omega
    simp only [Gate.enter?, enter?, gate, room, free, if_true, if_false, Option.map_some,
      Option.some.injEq, Gate.mk.injEq, true_and]
    omega
  · have full : tally.limit - tally.inFlight = 0 := by omega
    simp [Gate.enter?, enter?, gate, room, full]

end Tally

namespace Gate

variable {α : Type}

/-- Permits can be added exactly as long as they can be counted. -/
lemma addPermits_of_fits (gate : Gate α) (added : Nat)
    (fits : added = 0 ∨ gate.available + added ≤ maxPermits) :
    gate.addPermits added = ({ gate with available := gate.available + added }, none) := by
  unfold addPermits
  rcases fits with rfl | fits
  · simp
  · have small : ¬maxPermits < added := by omega
    have whole : ¬maxPermits < gate.available + added := by omega
    by_cases nothing : added = 0
    · simp [nothing]
    · simp [nothing, small, whole]

lemma addPermits_of_overflow (gate : Gate α) (added : Nat) (some_added : added ≠ 0)
    (tooHigh : maxPermits < gate.available + added) :
    ∃ fault, (gate.addPermits added).2 = some fault := by
  unfold addPermits
  by_cases large : maxPermits < added
  · exact ⟨_, by simp only [some_added, large, if_false, if_true]; rfl⟩
  · exact ⟨_, by simp only [some_added, large, tooHigh, if_false, if_true]; rfl⟩

end Gate

namespace Tally

variable {α : Type}

section Looks

variable {C : Type} [Algorithm α]

lemma acquireNow_eq (tally : Tally α) (ctx : C) :
    Limiter.acquireNow tally ctx =
      if tally.inFlight < tally.limit then
        ({ tally with inFlight := tally.inFlight + 1 }, .ok (some ()))
      else (tally, .ok none) := by
  by_cases room : tally.inFlight < tally.limit <;> simp [Limiter.acquireNow, enter?, room]

lemma acquire_eq (tally : Tally α) (ctx : C) (now : Nat) :
    Limiter.acquire tally ctx now =
      if tally.inFlight < tally.limit then
        ({ tally with inFlight := tally.inFlight + 1 }, .ok (.admitted ()))
      else (tally, .ok (.refused .rejected)) := by
  by_cases room : tally.inFlight < tally.limit <;> simp [Limiter.acquire, enter?, room]

lemma of_acquireNow_granted {tally next : Tally α} {ctx : C} {grant : Unit}
    (granted : Limiter.acquireNow tally ctx = (next, .ok (some grant))) :
    tally.inFlight < tally.limit ∧ next = { tally with inFlight := tally.inFlight + 1 } := by
  rw [acquireNow_eq] at granted
  by_cases free : tally.inFlight < tally.limit
  · rw [if_pos free] at granted
    exact ⟨free, (congrArg Prod.fst granted).symm⟩
  · rw [if_neg free] at granted
    simp at granted

lemma of_acquireNow_denied {tally next : Tally α} {ctx : C}
    (denied : Limiter.acquireNow tally ctx = (next, .ok none)) :
    tally.limit ≤ tally.inFlight ∧ next = tally := by
  rw [acquireNow_eq] at denied
  by_cases free : tally.inFlight < tally.limit
  · rw [if_pos free] at denied
    simp at denied
  · rw [if_neg free] at denied
    exact ⟨Nat.le_of_not_lt free, (congrArg Prod.fst denied).symm⟩

lemma acquireNow_ne_error {tally next : Tally α} {ctx : C} {fault : Fault} :
    Limiter.acquireNow tally ctx ≠ (next, .error fault) := by
  intro failed
  rw [acquireNow_eq] at failed
  split at failed <;> simp at failed

lemma of_acquire_admitted {tally next : Tally α} {ctx : C} {now : Nat} {grant : Unit}
    (admitted : Limiter.acquire tally ctx now = (next, .ok (.admitted grant))) :
    next = { tally with inFlight := tally.inFlight + 1 } := by
  rw [acquire_eq] at admitted
  split at admitted
  · exact (congrArg Prod.fst admitted).symm
  · simp at admitted

lemma of_acquire_refused {tally next : Tally α} {ctx : C} {now : Nat} {cause : Refusal}
    (refused : Limiter.acquire tally ctx now = (next, .ok (.refused cause))) : next = tally := by
  rw [acquire_eq] at refused
  split at refused
  · simp at refused
  · exact (congrArg Prod.fst refused).symm

lemma gate_acquireNow (tally : Tally α) (ctx : C) :
    Limiter.acquireNow tally.gate ctx =
      ((Limiter.acquireNow tally ctx).1.gate, (Limiter.acquireNow tally ctx).2) := by
  simp only [Limiter.acquireNow, gate_enter?]
  cases tally.enter? <;> rfl

lemma gate_acquire (tally : Tally α) (ctx : C) (now : Nat) :
    Limiter.acquire tally.gate ctx now =
      ((Limiter.acquire tally ctx now).1.gate, (Limiter.acquire tally ctx now).2) := by
  simp only [Limiter.acquire, gate_enter?]
  cases tally.enter? <;> rfl

end Looks

lemma gate_moveLimit (tally : Tally α) (limit : Nat)
    (fits : limit - tally.inFlight ≤ maxPermits) :
    tally.gate.moveLimit limit = ({ tally with limit := limit }.gate, none) := by
  unfold Gate.moveLimit
  split
  · rw [Gate.addPermits_of_fits]
    · simp only [gate, Prod.mk.injEq, Gate.mk.injEq, and_true, true_and] at *
      omega
    · simp only [gate] at *
      omega
  · simp only [gate, Prod.mk.injEq, Gate.mk.injEq, and_true, true_and] at *
    omega

lemma gate_moveLimit_overflow (tally : Tally α) (limit : Nat)
    (held : tally.limit - tally.inFlight ≤ maxPermits)
    (tooHigh : maxPermits < limit - tally.inFlight) :
    ∃ fault, (tally.gate.moveLimit limit).2 = some fault := by
  have raised : tally.gate.limit < limit := by
    rw [gate_limit]
    omega
  unfold Gate.moveLimit
  rw [if_pos raised]
  apply Gate.addPermits_of_overflow
  · simp only [gate]
    omega
  · simp only [gate]
    omega

lemma gate_returnPermit (tally : Tally α) (running : 0 < tally.inFlight)
    (fits : tally.limit - (tally.inFlight - 1) ≤ maxPermits) :
    Gate.returnPermit { tally.gate with inFlight := tally.inFlight - 1 } =
      ({ tally with inFlight := tally.inFlight - 1 }.gate, none) := by
  unfold Gate.returnPermit
  split
  · rw [Gate.addPermits_of_fits]
    · simp only [gate, Prod.mk.injEq, Gate.mk.injEq, and_true, true_and] at *
      omega
    · simp only [gate] at *
      omega
  · simp only [gate, Prod.mk.injEq, Gate.mk.injEq, and_true, true_and] at *
    omega

variable [Algorithm α]

@[simp] lemma learn_ignore (tally : Tally α) (latency : Nat) :
    tally.learn .ignore latency = tally := rfl

lemma learn_of_ok {tally : Tally α} {outcome : Outcome} {latency : Nat} {next : α} {limit : Nat}
    (heard : outcome ≠ .ignore)
    (updates : Algorithm.update tally.algorithm ⟨latency, tally.inFlight, outcome⟩ =
      (next, .ok limit)) :
    tally.learn outcome latency = { tally with algorithm := next, limit := limit } := by
  unfold learn
  rw [if_neg heard]
  dsimp only
  rw [updates]

lemma learn_of_error {tally : Tally α} {outcome : Outcome} {latency : Nat} {next : α}
    {fault : Fault} (heard : outcome ≠ .ignore)
    (updates : Algorithm.update tally.algorithm ⟨latency, tally.inFlight, outcome⟩ =
      (next, .error fault)) :
    tally.learn outcome latency = { tally with algorithm := next } := by
  unfold learn
  rw [if_neg heard]
  dsimp only
  rw [updates]

@[simp] lemma learn_inFlight (tally : Tally α) (outcome : Outcome) (latency : Nat) :
    (tally.learn outcome latency).inFlight = tally.inFlight := by
  unfold learn
  split
  · rfl
  · dsimp only
    split <;> rfl

@[simp] lemma leave_inFlight (tally : Tally α) (outcome : Outcome) (latency : Nat) :
    (tally.leave outcome latency).inFlight = tally.inFlight - 1 := rfl

@[simp] lemma leave_limit (tally : Tally α) (outcome : Outcome) (latency : Nat) :
    (tally.leave outcome latency).limit = (tally.learn outcome latency).limit := rfl

lemma start_under (rule : α) : (start rule).Under rule := ⟨.start, .inl rfl⟩

lemma Under.leave {rule : α} {tally : Tally α} (under : tally.Under rule) (outcome : Outcome)
    (latency : Nat) : (tally.leave outcome latency).Under rule := by
  have learned : (tally.learn outcome latency).Under rule := by
    by_cases heard : outcome = .ignore
    · subst heard
      exact under
    · have reached := under.reached.update ⟨latency, tally.inFlight, outcome⟩
      obtain ⟨next, ⟨limit, updates, -⟩ | ⟨fault, updates, -⟩⟩ :=
        tally.gate.learn_of_ne latency heard
      · have chosen := congrArg Prod.snd updates
        rw [gate_algorithm, gate_inFlight] at updates
        rw [updates] at reached
        rw [learn_of_ok heard updates]
        exact ⟨reached, .inr ⟨_, _, under.reached, chosen⟩⟩
      · rw [gate_algorithm, gate_inFlight] at updates
        rw [updates] at reached
        rw [learn_of_error heard updates]
        exact ⟨reached, under.given⟩
  exact ⟨learned.reached, learned.given⟩

/-- An algorithm which always chooses a limit does not fail to. -/
lemma Under.not_fails {rule : α} {tally : Tally α} {bound : Nat} (under : tally.Under rule)
    (chooses : Algorithm.ChoosesUpTo rule bound) (outcome : Outcome) (latency : Nat) :
    ¬tally.Fails outcome latency := by
  rintro ⟨-, next, fault, updates⟩
  obtain ⟨limit, -, gives⟩ := chooses _ under.reached ⟨latency, tally.inFlight, outcome⟩
  rw [updates] at gives
  cases gives

/-- What a job's end does to the algorithm and the limit, over the two numbers and over the gate. -/
lemma learn_cases (tally : Tally α) {outcome : Outcome} {latency : Nat}
    (chosen : ¬tally.Fails outcome latency) :
    ∃ next limit, tally.learn outcome latency = { tally with algorithm := next, limit := limit } ∧
      (tally.gate.learn outcome latency = Gate.moveLimit { tally with algorithm := next }.gate limit ∨
        tally.gate.learn outcome latency = ({ tally with algorithm := next }.gate, none) ∧
          limit = tally.limit) := by
  by_cases heard : outcome = .ignore
  · subst heard
    exact ⟨tally.algorithm, tally.limit, rfl, .inr ⟨rfl, rfl⟩⟩
  · obtain ⟨next, ⟨limit, updates, learns⟩ | ⟨fault, updates, -⟩⟩ :=
      tally.gate.learn_of_ne latency heard
    · exact ⟨next, limit, learn_of_ok heard updates, .inl learns⟩
    · exact absurd ⟨heard, next, fault, updates⟩ chosen

lemma gate_learn (tally : Tally α) (outcome : Outcome) (latency : Nat)
    (chosen : ¬tally.Fails outcome latency)
    (fits : (tally.learn outcome latency).limit - tally.inFlight ≤ maxPermits) :
    tally.gate.learn outcome latency = ((tally.learn outcome latency).gate, none) := by
  obtain ⟨next, limit, learned, moves | ⟨stays, same⟩⟩ := tally.learn_cases chosen
  · rw [learned] at fits ⊢
    rw [moves]
    exact gate_moveLimit { tally with algorithm := next } limit fits
  · rw [learned, stays, same]

/-- A job leaves a gate as it leaves the two numbers. -/
theorem gate_leave (tally : Tally α) (outcome : Outcome) (latency : Nat)
    (running : 0 < tally.inFlight) (chosen : ¬tally.Fails outcome latency)
    (fits : (tally.leave outcome latency).limit - (tally.inFlight - 1) ≤ maxPermits) :
    tally.gate.leave outcome latency = ((tally.leave outcome latency).gate, none) := by
  have learned : (tally.learn outcome latency).limit - tally.inFlight ≤ maxPermits := by
    rw [leave_limit] at fits
    omega
  unfold Gate.leave
  rw [gate_learn tally outcome latency chosen learned]
  dsimp only
  rw [gate_inFlight, gate_returnPermit]
  · simp [leave]
  · simpa using running
  · simpa using fits

lemma gate_learn_fails {tally : Tally α} {outcome : Outcome} {latency : Nat}
    (fails : tally.Fails outcome latency) :
    ∃ fault, (tally.gate.learn outcome latency).2 = some fault := by
  obtain ⟨heard, next, fault, updates⟩ := fails
  obtain ⟨rule, ⟨limit, chosen, -⟩ | ⟨fault, -, learns⟩⟩ := tally.gate.learn_of_ne latency heard
  · rw [gate_algorithm, gate_inFlight, updates] at chosen
    cases chosen
  · exact ⟨fault, congrArg Prod.snd learns⟩

lemma gate_learn_overflow (tally : Tally α) (outcome : Outcome) (latency : Nat)
    (chosen : ¬tally.Fails outcome latency) (held : tally.limit - tally.inFlight ≤ maxPermits)
    (tooHigh : maxPermits < (tally.learn outcome latency).limit - tally.inFlight) :
    ∃ fault, (tally.gate.learn outcome latency).2 = some fault := by
  obtain ⟨next, limit, learned, moves | ⟨stays, same⟩⟩ := tally.learn_cases chosen
  · rw [learned] at tooHigh
    rw [moves]
    exact gate_moveLimit_overflow { tally with algorithm := next } limit held tooHigh
  · rw [learned, same] at tooHigh
    exact absurd held (Nat.not_le.mpr tooHigh)

lemma gate_leave_of_learn {tally : Tally α} {outcome : Outcome} {latency : Nat}
    (fails : ∃ fault, (tally.gate.learn outcome latency).2 = some fault) :
    ∃ fault, (tally.gate.leave outcome latency).2 = some fault := by
  obtain ⟨fault, failed⟩ := fails
  unfold Gate.leave
  split
  · exact ⟨_, rfl⟩
  · rename_i found
    rw [found] at failed
    cases failed

/-- The converse of `gate_leave`: a limit which is not chosen, or is too high to be counted, is a
fault. -/
theorem gate_leave_overflow (tally : Tally α) (outcome : Outcome) (latency : Nat)
    (running : 0 < tally.inFlight) (held : tally.limit - tally.inFlight ≤ maxPermits)
    (tooHigh : tally.Fails outcome latency ∨
      maxPermits < (tally.leave outcome latency).limit - (tally.inFlight - 1)) :
    ∃ fault, (tally.gate.leave outcome latency).2 = some fault := by
  by_cases chosen : tally.Fails outcome latency
  · exact gate_leave_of_learn (gate_learn_fails chosen)
  replace tooHigh := tooHigh.resolve_left chosen
  rw [leave_limit] at tooHigh
  by_cases learned : (tally.learn outcome latency).limit - tally.inFlight ≤ maxPermits
  · -- The raise goes through, and the job's own permit is the one too many.
    unfold Gate.leave
    rw [gate_learn tally outcome latency chosen learned]
    dsimp only
    have clear : (tally.learn outcome latency).gate.debt = 0 := by
      rw [gate_debt, learn_inFlight]
      omega
    unfold Gate.returnPermit
    rw [if_pos clear]
    apply Gate.addPermits_of_overflow
    · exact Nat.one_ne_zero
    · simp only [gate, learn_inFlight]
      omega
  · exact gate_leave_of_learn (gate_learn_overflow tally outcome latency chosen held (by omega))

end Tally
end Admission

import Admission.Proofs.Gate.Loans
import Admission.Proofs.Gate.Tally
import Admission.Proofs.Session.Invariants

/-!
# Permits in balance

The free permits of a gate and those in use make up its limit and its debt, as long as no limit is
beyond where permits can be counted. Failing to choose a limit does not change that, and nothing
else can go wrong: no count of permits overflows.
-/

namespace Admission

namespace Gate

variable {α : Type}

/-- The permits which are free and those of some jobs make up the limit and the debt, and they can
all be counted. -/
structure Balanced (gate : Gate α) (jobs : Nat) : Prop where
  balanced : gate.available + jobs = gate.limit + gate.debt
  countable : gate.limit + gate.debt ≤ maxPermits

section Balanced

variable {gate entered : Gate α} {jobs limit : Nat}

lemma Balanced.enter (balanced : gate.Balanced jobs) (enters : gate.enter? = some entered) :
    entered.Balanced (jobs + 1) := by
  obtain ⟨balanced, countable⟩ := balanced
  obtain ⟨free, rfl⟩ := enter?_eq_some enters
  refine ⟨?_, countable⟩
  dsimp only
  omega

lemma Balanced.addPermits (gate : Gate α) (added : Nat)
    (balanced : gate.available + added + jobs = gate.limit + gate.debt)
    (countable : gate.limit + gate.debt ≤ maxPermits) :
    ∃ more, gate.addPermits added = (more, none) ∧ more.Balanced jobs := by
  have fits : added = 0 ∨ gate.available + added ≤ maxPermits := by omega
  exact ⟨_, gate.addPermits_of_fits added fits, balanced, countable⟩

lemma Balanced.moveLimit (balanced : gate.Balanced jobs) (fits : limit ≤ maxPermits) :
    ∃ moved, gate.moveLimit limit = (moved, none) ∧ moved.Balanced jobs := by
  obtain ⟨balanced, countable⟩ := balanced
  unfold Gate.moveLimit
  split
  · -- Where permits are added no debt is left, so they are counted by the new limit alone.
    apply Balanced.addPermits
    · dsimp only
      omega
    · dsimp only
      omega
  · refine ⟨_, rfl, ?_, ?_⟩
    · dsimp only
      omega
    · dsimp only
      omega

lemma Balanced.returnPermit (balanced : gate.Balanced (jobs + 1)) :
    ∃ back, gate.returnPermit = (back, none) ∧ back.Balanced jobs := by
  obtain ⟨balanced, countable⟩ := balanced
  unfold Gate.returnPermit
  split
  · exact Balanced.addPermits gate 1 (by omega) countable
  · refine ⟨_, rfl, ?_, ?_⟩
    · dsimp only
      omega
    · dsimp only
      omega

end Balanced

variable [Algorithm α] {rule : α} {gate : Gate α} {jobs : Nat} {outcome : Outcome} {latency : Nat}

/-- The algorithm and the limit of the gate have come from those at which a rule starts. -/
structure Under (gate : Gate α) (rule : α) : Prop where
  reached : Algorithm.Reaches rule gate.algorithm
  given : Algorithm.Gives rule gate.limit

/-- Learning from a job ends in the limit which the algorithm chooses, or in its failure. -/
lemma Under.learn (under : gate.Under rule) (outcome : Outcome) (latency : Nat) :
    (gate.learn outcome latency).1.Under rule ∧ ∃ next,
      (∃ limit, Algorithm.Gives rule limit ∧
          gate.learn outcome latency = moveLimit { gate with algorithm := next } limit) ∨
        ∃ sample fault, (Algorithm.update gate.algorithm sample).2 = .error fault ∧
          gate.learn outcome latency = ({ gate with algorithm := next }, some fault) := by
  by_cases heard : outcome = .ignore
  · subst heard
    have same : gate.moveLimit gate.limit = (gate, none) := by
      simp [Gate.moveLimit]
    exact ⟨under, gate.algorithm, .inl ⟨gate.limit, under.given, same.symm⟩⟩
  · have reached := under.reached.update ⟨latency, gate.inFlight, outcome⟩
    obtain ⟨next, ⟨limit, updates, moves⟩ | ⟨fault, updates, fails⟩⟩ :=
      gate.learn_of_ne latency heard
    · rw [updates] at reached
      have given : Algorithm.Gives rule limit :=
        .inr ⟨_, _, under.reached, congrArg Prod.snd updates⟩
      rw [moves]
      refine ⟨⟨?_, ?_⟩, next, .inl ⟨limit, given, rfl⟩⟩
      · rw [moveLimit_algorithm]
        exact reached
      · rw [moveLimit_limit]
        exact given
    · rw [updates] at reached
      rw [fails]
      exact ⟨⟨reached, under.given⟩, next, .inr ⟨_, fault, congrArg Prod.snd updates, rfl⟩⟩

/-- A job which leaves keeps the balance, and the only fault there can be is that the algorithm does
not choose a limit. -/
lemma Balanced.leave (balanced : gate.Balanced (jobs + 1)) (under : gate.Under rule)
    (bounded : ∀ limit, Algorithm.Gives rule limit → limit ≤ maxPermits) :
    (gate.leave outcome latency).1.Balanced jobs ∧ (gate.leave outcome latency).1.Under rule ∧
      ∀ fault, (gate.leave outcome latency).2 = some fault →
        ∃ sample, (Algorithm.update gate.algorithm sample).2 = .error fault := by
  obtain ⟨under_after, next, learns⟩ := under.learn outcome latency
  have algorithm := gate.leave_algorithm outcome latency
  have limit_eq := gate.leave_limit outcome latency
  have under_left : (gate.leave outcome latency).1.Under rule := by
    refine ⟨?_, ?_⟩
    · rw [algorithm]
      exact under_after.reached
    · rw [limit_eq]
      exact under_after.given
  clear algorithm limit_eq
  unfold Gate.leave at under_left ⊢
  rcases learns with ⟨limit, given, moves⟩ | ⟨sample, fault, fails, learned⟩
  · have before : ({ gate with algorithm := next } : Gate α).Balanced (jobs + 1) :=
      ⟨balanced.balanced, balanced.countable⟩
    obtain ⟨moved, moved_eq, after⟩ := before.moveLimit (bounded limit given)
    rw [moves, moved_eq] at under_left ⊢
    have leaving : ({ moved with inFlight := moved.inFlight - 1 } : Gate α).Balanced (jobs + 1) :=
      ⟨after.balanced, after.countable⟩
    obtain ⟨back, back_eq, last⟩ := leaving.returnPermit
    dsimp only at under_left ⊢
    rw [back_eq] at under_left ⊢
    exact ⟨last, under_left, nofun⟩
  · obtain ⟨balanced, countable⟩ := balanced
    have one_back : gate.available + 1 + jobs = gate.limit + gate.debt := by omega
    obtain ⟨freed, freed_eq, last⟩ :=
      Balanced.addPermits { gate with algorithm := next } 1 one_back countable
    rw [learned] at under_left ⊢
    dsimp only at under_left ⊢
    rw [freed_eq] at under_left ⊢
    refine ⟨last, under_left, fun shown same => ⟨sample, ?_⟩⟩
    rw [fails]
    exact congrArg Except.error (Option.some.inj same)

end Gate

namespace Session

variable {C α : Type} [Algorithm α] {rule : α}

/-- A gate under a rule whose permits are in balance with the jobs which run. -/
structure Balances (rule : α) (room : Room (Gate α) Empty) : Prop where
  under : room.limiter.Under rule
  balanced : room.limiter.Balanced room.running

/-- A gate with a free permit admits whoever comes under a name which is not in use. -/
lemma acquireNow_admits {session : Session C (Gate α) Unit Empty} (nobody : session.held = [])
    (free : session.limiter.available ≠ 0) (id : String) (ctx : C) :
    (session.step (.acquireNow id ctx)).2 = .admitted := by
  change (session.acquireNow id ctx).2 = .admitted
  unfold acquireNow
  simp only [Limiter.acquireNow, Gate.enter?, if_neg free]
  unfold hold
  simp only [nobody]
  rfl

variable {before after : Room (Gate α) Empty}

lemma no_stay : ¬Stay C before after := fun stay => nomatch stay

lemma no_join : ¬Join C before after := fun join => nomatch join

lemma Balances.enter {limiter limiter' : Gate α} {places : List Empty} {running : Nat}
    (balances : Balances rule ⟨limiter, places, running⟩) (enters : limiter.enter? = some limiter') :
    Balances rule ⟨limiter', places, running + 1⟩ := by
  obtain ⟨under, balanced⟩ := balances
  refine ⟨?_, balanced.enter enters⟩
  obtain ⟨-, rfl⟩ := Gate.enter?_eq_some enters
  exact ⟨under.reached, under.given⟩

/-- All that a session does to a gate: it is entered, it stays as it is, or a job leaves it without
a fault. -/
lemma gate_move_cases (move : Move C before after) :
    (∃ entered, before.limiter.enter? = some entered ∧
        after = ⟨entered, before.places, before.running + 1⟩) ∨
      after = before ∨
      ∃ left jobs outcome latency, before.running = jobs + 1 ∧
        before.limiter.leave outcome latency = (left, none) ∧
        after = ⟨left, before.places, jobs⟩ := by
  cases move with
  | enter answer =>
    simp only [Limiter.acquireNow] at answer
    split at answer
    · rename_i enters
      cases answer
      exact .inl ⟨_, enters, rfl⟩
    · cases answer
  | deny answer =>
    simp only [Limiter.acquireNow] at answer
    split at answer
    · cases answer
    · cases answer
      exact .inr (.inl rfl)
  | enterFirst answer =>
    simp only [Limiter.acquire] at answer
    split at answer
    · rename_i enters
      cases answer
      exact .inl ⟨_, enters, rfl⟩
    · cases answer
  | refuse answer =>
    simp only [Limiter.acquire] at answer
    split at answer
    · cases answer
    · cases answer
      exact .inr (.inl rfl)
  | release answer => exact .inr (.inr ⟨_, _, _, _, rfl, answer, rfl⟩)
  | @letIn _ _ _ place => exact nomatch place
  | @expire _ _ _ place => exact nomatch place
  | @giveUp _ _ _ place => exact nomatch place
  | @abandon _ _ place => exact nomatch place

section Rules

variable (bounded : ∀ limit, Algorithm.Gives rule limit → limit ≤ maxPermits)

include bounded

lemma move_balances (move : Move C before after) (balances : Balances rule before) :
    Balances rule after := by
  obtain ⟨entered, enters, rfl⟩ | rfl | ⟨left, jobs, outcome, latency, running, leaves, rfl⟩ :=
    gate_move_cases move
  · exact balances.enter enters
  · exact balances
  · have one_more := balances.balanced
    rw [running] at one_more
    obtain ⟨balanced, under, -⟩ := one_more.leave balances.under bounded
    rw [leaves] at balanced under
    exact ⟨under, balanced⟩

/-- A session over the gate can go wrong only in that no limit is chosen. -/
lemma mishap_balances {fault : Fault} (mishap : Mishap C fault before after)
    (balances : Balances rule before) :
    Balances rule after ∧
      ∃ later sample, Algorithm.Reaches rule later ∧
        (Algorithm.update later sample).2 = .error fault := by
  cases mishap with
  | acquireNow answer =>
    simp only [Limiter.acquireNow] at answer
    split at answer <;> cases answer
  | acquire answer =>
    simp only [Limiter.acquire] at answer
    split at answer <;> cases answer
  | release answer =>
    obtain ⟨left, under, fails⟩ := balances.balanced.leave balances.under bounded
    obtain ⟨sample, failed⟩ := fails fault (congrArg Prod.snd answer)
    have same := congrArg Prod.fst answer
    dsimp only at same
    rw [← same]
    exact ⟨⟨under, left⟩, _, sample, balances.under.reached, failed⟩
  | @poll _ _ _ place => exact nomatch place

end Rules

/-- What does not go wrong keeps free permits and debt apart. -/
lemma move_apart (move : Move C before after) (apart : before.limiter.Apart) :
    after.limiter.Apart := by
  obtain ⟨entered, enters, rfl⟩ | rfl | ⟨left, jobs, outcome, latency, -, leaves, rfl⟩ :=
    gate_move_cases move
  · exact Gate.Apart.enter apart enters
  · exact apart
  · have kept := Gate.Apart.leave outcome latency apart (.inr (congrArg Prod.snd leaves))
    rw [leaves] at kept
    exact kept

end Session
end Admission

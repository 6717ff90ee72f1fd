import Admission.Gate
import Mathlib.Tactic.Lemma

/-!
# What becomes of permits

How each operation of a gate changes its counters, whether or not it meets a fault.
-/

namespace Admission.Gate

variable {α : Type}

section Counters

lemma addPermits_cases (gate : Gate α) (added : Nat) :
    ∃ available, gate.available ≤ available ∧
      (gate.addPermits added).1 = { gate with available := available } ∧
      ((gate.addPermits added).2 = none → available = gate.available + added) ∧
      available ≤ gate.available + added := by
  unfold addPermits
  split
  · rename_i nothing
    exact ⟨gate.available, Nat.le_refl _, rfl, fun _ => by omega, by omega⟩
  · split
    · exact ⟨gate.available, Nat.le_refl _, rfl, nofun, by omega⟩
    · dsimp only
      split
      · exact ⟨gate.available + added, by omega, rfl, nofun, Nat.le_refl _⟩
      · exact ⟨gate.available + added, by omega, rfl, fun _ => rfl, Nat.le_refl _⟩

variable (gate : Gate α) (added limit : Nat)

@[simp] lemma addPermits_limit : (gate.addPermits added).1.limit = gate.limit := by
  obtain ⟨available, -, same, -⟩ := gate.addPermits_cases added
  rw [same]

@[simp] lemma addPermits_algorithm : (gate.addPermits added).1.algorithm = gate.algorithm := by
  obtain ⟨available, -, same, -⟩ := gate.addPermits_cases added
  rw [same]

@[simp] lemma addPermits_inFlight : (gate.addPermits added).1.inFlight = gate.inFlight := by
  obtain ⟨available, -, same, -⟩ := gate.addPermits_cases added
  rw [same]

@[simp] lemma returnPermit_limit : gate.returnPermit.1.limit = gate.limit := by
  unfold returnPermit
  split <;> simp

@[simp] lemma returnPermit_algorithm : gate.returnPermit.1.algorithm = gate.algorithm := by
  unfold returnPermit
  split <;> simp

@[simp] lemma returnPermit_inFlight : gate.returnPermit.1.inFlight = gate.inFlight := by
  unfold returnPermit
  split <;> simp

@[simp] lemma moveLimit_limit : (gate.moveLimit limit).1.limit = limit := by
  unfold moveLimit
  split <;> simp

@[simp] lemma moveLimit_algorithm : (gate.moveLimit limit).1.algorithm = gate.algorithm := by
  unfold moveLimit
  split <;> simp

@[simp] lemma moveLimit_inFlight : (gate.moveLimit limit).1.inFlight = gate.inFlight := by
  unfold moveLimit
  split <;> simp

end Counters

lemma enter?_eq_some {gate entered : Gate α} (enters : gate.enter? = some entered) :
    gate.available ≠ 0 ∧
      entered = { gate with available := gate.available - 1, inFlight := gate.inFlight + 1 } := by
  unfold enter? at enters
  split at enters
  · cases enters
  · rename_i free
    exact ⟨free, (Option.some.inj enters).symm⟩

/-- A new limit frees what it is above the old limit and the debt together. Where it frees
something no debt is left. -/
lemma moveLimit_frees {gate moved : Gate α} {limit : Nat}
    (moves : gate.moveLimit limit = (moved, none)) :
    moved.available - gate.available = limit - (gate.limit + gate.debt) ∧
      (gate.available < moved.available → moved.debt = 0) := by
  unfold moveLimit at moves
  split at moves
  · obtain ⟨available, -, added, counted, -⟩ := addPermits_cases
      { gate with limit := limit, debt := gate.debt - min gate.debt (limit - gate.limit) }
      (limit - gate.limit - min gate.debt (limit - gate.limit))
    dsimp only at moves
    rw [moves] at added counted
    have all := counted rfl
    subst added
    dsimp only at all ⊢
    omega
  · simp only [Prod.mk.injEq, and_true] at moves
    subst moves
    dsimp only
    omega

variable [Algorithm α] (gate : Gate α) (outcome : Outcome) (latency : Nat)

@[simp] lemma learn_ignore : gate.learn .ignore latency = (gate, none) := rfl

/-- A sample which an algorithm learns from moves the limit, unless the algorithm fails to choose
one. -/
lemma learn_of_ne {outcome : Outcome} (heard : outcome ≠ .ignore) :
    ∃ rule, (∃ limit,
        Algorithm.update gate.algorithm ⟨latency, gate.inFlight, outcome⟩ = (rule, .ok limit) ∧
        gate.learn outcome latency = moveLimit { gate with algorithm := rule } limit) ∨
      ∃ fault,
        Algorithm.update gate.algorithm ⟨latency, gate.inFlight, outcome⟩ = (rule, .error fault) ∧
        gate.learn outcome latency = ({ gate with algorithm := rule }, some fault) := by
  unfold learn
  rw [if_neg heard]
  dsimp only
  obtain ⟨rule, fault | limit⟩ := Algorithm.update gate.algorithm ⟨latency, gate.inFlight, outcome⟩
  · exact ⟨rule, .inr ⟨fault, rfl, rfl⟩⟩
  · exact ⟨rule, .inl ⟨limit, rfl, rfl⟩⟩

lemma learn_inFlight : (gate.learn outcome latency).1.inFlight = gate.inFlight := by
  by_cases heard : outcome = .ignore
  · subst heard
    rfl
  · obtain ⟨rule, ⟨limit, -, learns⟩ | ⟨fault, -, learns⟩⟩ := learn_of_ne gate latency heard
    · rw [learns, moveLimit_inFlight]
    · rw [learns]

/-- A job which leaves is not counted any more, unless choosing or moving the limit fails. -/
lemma leave_inFlight : (gate.leave outcome latency).1.inFlight =
    if (gate.learn outcome latency).2.isSome then gate.inFlight else gate.inFlight - 1 := by
  have counted := gate.learn_inFlight outcome latency
  unfold leave
  generalize gate.learn outcome latency = learned at counted ⊢
  obtain ⟨next, _ | fault⟩ := learned <;> simp [← counted]

/-- Only the algorithm's own update changes the algorithm. -/
lemma leave_algorithm : (gate.leave outcome latency).1.algorithm =
    (gate.learn outcome latency).1.algorithm := by
  unfold leave
  generalize gate.learn outcome latency = learned
  obtain ⟨next, _ | fault⟩ := learned <;> simp

lemma leave_limit : (gate.leave outcome latency).1.limit = (gate.learn outcome latency).1.limit := by
  unfold leave
  generalize gate.learn outcome latency = learned
  obtain ⟨next, _ | fault⟩ := learned <;> simp

section Raises

variable {gate : Gate α} {outcome : Outcome} {latency : Nat}

lemma learn_frees {learned : Gate α} (learns : gate.learn outcome latency = (learned, none)) :
    learned.available - gate.available = learned.limit - (gate.limit + gate.debt) ∧
      (gate.available < learned.available → learned.debt = 0) := by
  by_cases heard : outcome = .ignore
  · subst heard
    simp only [learn_ignore, Prod.mk.injEq, and_true] at learns
    subst learns
    omega
  · obtain ⟨rule, ⟨limit, -, moves⟩ | ⟨fault, -, fails⟩⟩ := learn_of_ne gate latency heard
    · rw [moves] at learns
      have limit_moved := congrArg (fun result => result.1.limit) learns
      rw [moveLimit_limit] at limit_moved
      have frees := moveLimit_frees learns
      rwa [limit_moved] at frees
    · rw [fails] at learns
      cases learns

/-- A job which leaves frees its own permit at most, and what the new limit frees. -/
lemma leave_frees {left : Gate α} (leaves : gate.leave outcome latency = (left, none)) :
    left.available - (gate.available + 1) = left.limit - (gate.limit + gate.debt) := by
  unfold leave at leaves
  split at leaves
  · simp at leaves
  · rename_i learned learns
    obtain ⟨freed, no_debt⟩ := learn_frees learns
    unfold returnPermit at leaves
    dsimp only at leaves
    split at leaves
    · obtain ⟨available, -, added, counted, -⟩ :=
        addPermits_cases { learned with inFlight := learned.inFlight - 1 } 1
      rw [leaves] at added counted
      have all := counted rfl
      subst added
      dsimp only at all ⊢
      omega
    · rename_i owes
      simp only [Prod.mk.injEq, and_true] at leaves
      subst leaves
      have none_freed : ¬gate.available < learned.available := fun more => owes (no_debt more)
      dsimp only
      omega

end Raises

end Admission.Gate

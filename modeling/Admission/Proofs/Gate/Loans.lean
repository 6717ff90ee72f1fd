import Admission.Proofs.Gate.Permits

/-!
# Permits on loan

The permits of a gate, with those of the jobs which have got in and not left, are no more than its
limit and its debt; faults do not change that. Unless its algorithm has failed to choose a limit, a
gate never has free permits and debt at the same time. So a job which gets in and is ignored leaves
the gate as it was, and while nothing but that happens no more jobs get in than the limit allows.
-/

namespace Admission

/-- Whatever state the algorithm is in, it chooses a limit after every sample. -/
def Algorithm.AlwaysChooses (α : Type) [Algorithm α] : Prop :=
  ∀ (rule : α) sample, ∃ limit, (Algorithm.update rule sample).2 = .ok limit

namespace Gate

variable {α : Type}

/-- The gate has just been made. -/
def IsNew [Algorithm α] (gate : Gate α) : Prop := ∃ rule, create rule = .ok gate

/-- The gate has free permits, or debt, or neither, but not both. -/
def Apart (gate : Gate α) : Prop := gate.available = 0 ∨ gate.debt = 0

/-- Some jobs have got in and not left, and there are permits for all of them. -/
def Covers (gate : Gate α) (jobs : Nat) : Prop :=
  gate.available + jobs ≤ gate.limit + gate.debt

/-- The gate after some more jobs have got in. -/
def lend (gate : Gate α) (jobs : Nat) : Gate α :=
  { gate with available := gate.available - jobs, inFlight := gate.inFlight + jobs }

section Covers

variable {gate entered : Gate α} {jobs : Nat}

lemma Covers.enter (covers : gate.Covers jobs) (enters : gate.enter? = some entered) :
    entered.Covers (jobs + 1) := by
  obtain ⟨free, rfl⟩ := enter?_eq_some enters
  unfold Covers at covers ⊢
  dsimp only
  omega

lemma Apart.enter (apart : gate.Apart) (enters : gate.enter? = some entered) : entered.Apart := by
  obtain ⟨free, rfl⟩ := enter?_eq_some enters
  exact .inr (apart.resolve_left free)

lemma addPermits_zero (gate : Gate α) : gate.addPermits 0 = (gate, none) := rfl

/-- A limit which is moved covers what it covered. -/
lemma Covers.moveLimit (covers : gate.Covers jobs) (limit : Nat) :
    (gate.moveLimit limit).1.Covers jobs := by
  unfold Covers at covers ⊢
  unfold Gate.moveLimit
  by_cases raised : gate.limit < limit
  · rw [if_pos raised]
    obtain ⟨available, -, same, -, bound⟩ := Gate.addPermits_cases
      { gate with limit := limit, debt := gate.debt - min gate.debt (limit - gate.limit) }
      (limit - gate.limit - min gate.debt (limit - gate.limit))
    dsimp only at same bound ⊢
    rw [same]
    dsimp only
    omega
  · rw [if_neg raised]
    dsimp only
    omega

/-- Moving the limit cancels debt before it frees permits, so if that ends in a fault no debt is
left. -/
lemma Apart.moveLimit (apart : gate.Apart) (limit : Nat) :
    (gate.moveLimit limit).1.Apart ∧
      ((gate.moveLimit limit).2.isSome → (gate.moveLimit limit).1.debt = 0) := by
  unfold Apart at apart ⊢
  unfold Gate.moveLimit
  by_cases raised : gate.limit < limit
  · rw [if_pos raised]
    dsimp only
    by_cases owed : limit - gate.limit ≤ gate.debt
    · have nothing : limit - gate.limit - min gate.debt (limit - gate.limit) = 0 := by omega
      rw [nothing, addPermits_zero]
      exact ⟨by dsimp only; omega, nofun⟩
    · obtain ⟨available, -, same, -, bound⟩ := Gate.addPermits_cases
        { gate with limit := limit, debt := gate.debt - min gate.debt (limit - gate.limit) }
        (limit - gate.limit - min gate.debt (limit - gate.limit))
      rw [same]
      dsimp only at bound ⊢
      exact ⟨by omega, fun _ => by omega⟩
  · rw [if_neg raised]
    refine ⟨?_, nofun⟩
    dsimp only
    omega

variable [Algorithm α] (outcome : Outcome) (latency : Nat)

lemma IsNew.permits (new : gate.IsNew) : gate.Apart ∧ gate.Covers 0 := by
  obtain ⟨rule, created⟩ := new
  unfold create at created
  dsimp only at created
  split at created
  · cases created
  · split at created
    · cases created
    · cases created
      exact ⟨.inr rfl, Nat.le_refl _⟩

lemma Covers.learn (covers : gate.Covers jobs) :
    (gate.learn outcome latency).1.Covers jobs := by
  by_cases heard : outcome = .ignore
  · subst heard
    exact covers
  · obtain ⟨rule, ⟨limit, -, moves⟩ | ⟨fault, -, fails⟩⟩ := gate.learn_of_ne latency heard
    · rw [moves]
      have same : Covers { gate with algorithm := rule } jobs := covers
      exact same.moveLimit limit
    · rw [fails]
      exact covers

/-- Whether or not its limit can be moved, a gate which a job leaves covers the others. -/
lemma Covers.leave (covers : gate.Covers (jobs + 1)) :
    (gate.leave outcome latency).1.Covers jobs := by
  have learned := covers.learn outcome latency
  unfold Gate.leave
  generalize gate.learn outcome latency = result at learned ⊢
  obtain ⟨next, fault⟩ := result
  unfold Covers at learned ⊢
  dsimp only at learned
  cases fault with
  | some fault =>
    obtain ⟨available, -, same, -, bound⟩ := next.addPermits_cases 1
    dsimp only
    rw [same]
    dsimp only
    omega
  | none =>
    unfold returnPermit
    dsimp only
    by_cases clear : next.debt = 0
    · rw [if_pos clear]
      obtain ⟨available, -, same, -, bound⟩ :=
        Gate.addPermits_cases { next with inFlight := next.inFlight - 1 } 1
      rw [same]
      dsimp only at bound ⊢
      omega
    · rw [if_neg clear]
      dsimp only
      omega

/-- Where a limit is always chosen, learning keeps permits and debt apart, and ends in a fault only
without debt. -/
lemma Apart.learn (apart : gate.Apart)
    (fine : Algorithm.AlwaysChooses α ∨ (gate.learn outcome latency).2 = none) :
    (gate.learn outcome latency).1.Apart ∧
      ((gate.learn outcome latency).2.isSome → (gate.learn outcome latency).1.debt = 0) := by
  by_cases heard : outcome = .ignore
  · subst heard
    exact ⟨apart, nofun⟩
  · obtain ⟨rule, ⟨limit, -, moves⟩ | ⟨fault, updates, fails⟩⟩ := gate.learn_of_ne latency heard
    · rw [moves]
      have same : Apart { gate with algorithm := rule } := apart
      exact same.moveLimit limit
    · exfalso
      rcases fine with chooses | fine
      · obtain ⟨limit, chosen⟩ := chooses gate.algorithm ⟨latency, gate.inFlight, outcome⟩
        rw [updates] at chosen
        cases chosen
      · rw [fails] at fine
        cases fine

/-- A gate whose algorithm does not fail keeps permits and debt apart. -/
lemma Apart.leave (apart : gate.Apart)
    (fine : Algorithm.AlwaysChooses α ∨ (gate.leave outcome latency).2 = none) :
    (gate.leave outcome latency).1.Apart := by
  have learns := apart.learn outcome latency
  unfold Gate.leave at fine ⊢
  generalize gate.learn outcome latency = result at learns fine ⊢
  obtain ⟨next, fault⟩ := result
  cases fault with
  | some fault =>
    have chooses := fine.resolve_right nofun
    have clear := (learns (.inl chooses)).2 rfl
    obtain ⟨available, -, same, -⟩ := next.addPermits_cases 1
    dsimp only at clear ⊢
    rw [same]
    exact .inr clear
  | none =>
    have learned := (learns (.inr rfl)).1
    unfold returnPermit
    dsimp only at learned ⊢
    by_cases clear : next.debt = 0
    · rw [if_pos clear]
      obtain ⟨available, -, same, -⟩ :=
        Gate.addPermits_cases { next with inFlight := next.inFlight - 1 } 1
      rw [same]
      exact .inr clear
    · rw [if_neg clear]
      exact .inl (learned.resolve_right clear)

end Covers

section Loans

variable {gate entered : Gate α} {jobs : Nat}

/-- A job gets in only while there are permits left. -/
lemma enter?_lend (enters : (gate.lend jobs).enter? = some entered) :
    jobs < gate.available ∧ entered = gate.lend (jobs + 1) := by
  obtain ⟨free, rfl⟩ := enter?_eq_some enters
  unfold lend at free ⊢
  dsimp only at free ⊢
  exact ⟨by omega, rfl⟩

/-- A job which is ignored brings its permit back. There is only a fault over it if the permits cannot
be counted. -/
lemma leave_lend [Algorithm α] {others : Nat} (apart : gate.Apart) (covers : gate.Covers others)
    (lent : jobs < gate.available) (latency : Nat) :
    ((gate.lend (jobs + 1)).leave .ignore latency).1 = gate.lend jobs ∧
      (((gate.lend (jobs + 1)).leave .ignore latency).2.isSome → maxPermits < gate.limit) := by
  have clear : gate.debt = 0 := apart.resolve_left (by omega)
  have covered : gate.available + others ≤ gate.limit + gate.debt := covers
  have back : gate.available - (jobs + 1) + 1 = gate.available - jobs := by omega
  have counted : gate.inFlight + (jobs + 1) - 1 = gate.inFlight + jobs := by omega
  unfold Gate.leave returnPermit lend
  rw [learn_ignore]
  dsimp only
  rw [if_pos clear, counted]
  unfold addPermits
  rw [if_neg (by omega), if_neg (by decide)]
  dsimp only
  rw [back]
  split
  · exact ⟨rfl, fun _ => by omega⟩
  · exact ⟨rfl, nofun⟩

end Loans

end Gate
end Admission

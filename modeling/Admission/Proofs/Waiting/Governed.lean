import Admission.Proofs.Gate.Tally
import Admission.Proofs.Waiting.Turns

/-!
# Waiting for a gate

A gate which is used only through the line of callers around it counts exactly the jobs which the
session runs.
-/

namespace Admission

namespace Tally

variable {C α : Type} [Algorithm α] {tally : Tally α} {inner : Gate α} {ctx : C}

lemma gate_grants {grant : Unit}
    (grants : Limiter.acquireNow tally.gate ctx = (inner, .ok (some grant))) :
    tally.inFlight < tally.limit ∧
      inner = { tally with inFlight := tally.inFlight + 1 }.gate := by
  rw [gate_acquireNow] at grants
  have answer : (Limiter.acquireNow tally ctx).2 = .ok (some grant) := congrArg Prod.snd grants
  have granted := of_acquireNow_granted (Prod.ext rfl answer)
  have left : (Limiter.acquireNow tally ctx).1.gate = inner := congrArg Prod.fst grants
  rw [← left]
  exact ⟨granted.1, congrArg gate granted.2⟩

lemma gate_denies (denies : Limiter.acquireNow tally.gate ctx = (inner, .ok none)) :
    tally.limit ≤ tally.inFlight ∧ inner = tally.gate := by
  rw [gate_acquireNow] at denies
  have answer : (Limiter.acquireNow tally ctx).2 = .ok none := congrArg Prod.snd denies
  have denied := of_acquireNow_denied (Prod.ext rfl answer)
  have left : (Limiter.acquireNow tally ctx).1.gate = inner := congrArg Prod.fst denies
  rw [← left]
  exact ⟨denied.1, congrArg gate denied.2⟩

lemma gate_ne_error {fault : Fault} :
    Limiter.acquireNow tally.gate ctx ≠ (inner, .error fault) := by
  intro fails
  rw [gate_acquireNow] at fails
  have answer : (Limiter.acquireNow tally ctx).2 = .error fault := congrArg Prod.snd fails
  exact acquireNow_ne_error (Prod.ext rfl answer)

/-- Where the permit of a job goes back without a fault, a limit was chosen and the permits can be
counted. -/
lemma gate_releases {outcome : Outcome} {latency : Nat} (running : 0 < tally.inFlight)
    (held : tally.limit - tally.inFlight ≤ maxPermits)
    (releases : tally.gate.leave outcome latency = (inner, none)) :
    (tally.leave outcome latency).limit - (tally.inFlight - 1) ≤ maxPermits ∧
      inner = (tally.leave outcome latency).gate := by
  by_cases broken : tally.Fails outcome latency ∨
      maxPermits < (tally.leave outcome latency).limit - (tally.inFlight - 1)
  · obtain ⟨fault, failed⟩ := gate_leave_overflow tally outcome latency running held broken
    rw [releases] at failed
    cases failed
  · rw [not_or, Nat.not_lt] at broken
    rw [gate_leave tally outcome latency running broken.1 broken.2] at releases
    exact ⟨broken.2, (congrArg Prod.fst releases).symm⟩

/-- Where the permit of a job cannot go back, no limit was chosen or the limit is too high. -/
lemma gate_release_fails {outcome : Outcome} {latency : Nat} {fault : Fault}
    (running : 0 < tally.inFlight)
    (fails : tally.gate.leave outcome latency = (inner, some fault)) :
    tally.Fails outcome latency ∨ maxPermits < (tally.leave outcome latency).limit := by
  by_contra fine
  rw [not_or, Nat.not_lt] at fine
  have fits : (tally.leave outcome latency).limit - (tally.inFlight - 1) ≤ maxPermits :=
    Nat.le_trans (Nat.sub_le _ _) fine.2
  rw [gate_leave tally outcome latency running fine.1 fits] at fails
  cases fails

end Tally

namespace Waiting

open Session (Room)

variable {C α : Type} [Algorithm α] {rule : α} {tally : Tally α}

/-- The inner gate counts the jobs which run, under a limit of its algorithm. -/
structure Governed (rule : α) (tally : Tally α) (room : Room (Waiting (Gate α)) Place) : Prop where
  inner : room.limiter.inner = tally.gate
  inFlight : tally.inFlight = room.running
  under : tally.Under rule
  fits : tally.limit - tally.inFlight ≤ maxPermits

section Looks

variable {limiter : Waiting (Gate α)} {places places' : List Place} {running : Nat}
  {inner : Gate α} {queue : TicketQueue} {ctx : C}

lemma Governed.same {other : Waiting (Gate α)}
    (governed : Governed rule tally ⟨limiter, places, running⟩)
    (same : other.inner = limiter.inner) : Governed rule tally ⟨other, places', running⟩ :=
  ⟨same.trans governed.inner, governed.inFlight, governed.under, governed.fits⟩

lemma Governed.free {grant : Unit} (governed : Governed rule tally ⟨limiter, places, running⟩)
    (grants : Limiter.acquireNow limiter.inner ctx = (inner, .ok (some grant))) :
    running < tally.limit := by
  obtain ⟨counted, inFlight, -, -⟩ := governed
  dsimp only at counted inFlight
  rw [counted] at grants
  obtain ⟨free, -⟩ := Tally.gate_grants grants
  omega

lemma Governed.enter {grant : Unit} (governed : Governed rule tally ⟨limiter, places, running⟩)
    (grants : Limiter.acquireNow limiter.inner ctx = (inner, .ok (some grant))) :
    Governed rule { tally with inFlight := tally.inFlight + 1 }
      ⟨{ limiter with inner := inner, queue := queue }, places', running + 1⟩ := by
  obtain ⟨counted, inFlight, under, fits⟩ := governed
  dsimp only at counted inFlight
  rw [counted] at grants
  obtain ⟨free, rfl⟩ := Tally.gate_grants grants
  refine ⟨rfl, congrArg (· + 1) inFlight, ⟨under.reached, under.given⟩, ?_⟩
  dsimp only
  omega

lemma Governed.full (governed : Governed rule tally ⟨limiter, places, running⟩)
    (denies : Limiter.acquireNow limiter.inner ctx = (inner, .ok none)) :
    tally.limit ≤ running := by
  obtain ⟨counted, inFlight, -, -⟩ := governed
  dsimp only at counted inFlight
  rw [counted] at denies
  obtain ⟨full, -⟩ := Tally.gate_denies denies
  omega

lemma Governed.deny (governed : Governed rule tally ⟨limiter, places, running⟩)
    (denies : Limiter.acquireNow limiter.inner ctx = (inner, .ok none)) :
    Governed rule tally ⟨{ limiter with inner := inner, queue := queue }, places', running⟩ := by
  obtain ⟨counted, inFlight, under, fits⟩ := governed
  dsimp only at counted inFlight
  rw [counted] at denies
  obtain ⟨-, rfl⟩ := Tally.gate_denies denies
  exact ⟨rfl, inFlight, under, fits⟩

lemma Governed.release {grant : Unit} {outcome : Outcome} {latency : Nat}
    (governed : Governed rule tally ⟨limiter, places, running + 1⟩)
    (releases : Limiter.release C limiter.inner grant outcome latency = (inner, none)) :
    Governed rule (tally.leave outcome latency)
      ⟨{ limiter with inner := inner, queue := queue }, places, running⟩ := by
  obtain ⟨counted, inFlight, under, fits⟩ := governed
  dsimp only at counted inFlight
  rw [counted] at releases
  obtain ⟨counts, rfl⟩ := Tally.gate_releases (by omega) fits releases
  refine ⟨rfl, ?_, under.leave outcome latency, counts⟩
  rw [Tally.leave_inFlight, inFlight]
  rfl

end Looks

section Turns

variable {before after : Room (Waiting (Gate α)) Place}

lemma Governed.turn (governed : Governed rule tally before) (turn : Turn C before after) :
    ∃ tally, Governed rule tally after := by
  cases turn with
  | enter quiet grants => exact ⟨_, governed.enter grants⟩
  | deny quiet denies => exact ⟨_, governed.deny denies⟩
  | skip => exact ⟨_, governed.same rfl⟩
  | leave => exact ⟨_, governed.same rfl⟩
  | letIn sent grants => exact ⟨_, governed.enter grants⟩
  | lapse sent denies => exact ⟨_, governed.deny denies⟩
  | release releases => exact ⟨_, governed.release releases⟩

lemma Governed.arrival (governed : Governed rule tally before) (arrival : Arrival C before after) :
    ∃ tally, Governed rule tally after := by
  cases arrival with
  | behind busy ticket => exact ⟨_, governed.same rfl⟩
  | denied quiet denies ticket => exact ⟨_, governed.deny denies⟩

lemma Governed.putBack (governed : Governed rule tally before) (back : PutBack C before after) :
    ∃ tally, Governed rule tally after := by
  obtain ⟨sent, denies⟩ := back
  exact ⟨_, governed.deny denies⟩

/-- A gate does not fail as long as a limit is always chosen which can be counted. -/
lemma Governed.not_failure (governed : Governed rule tally before)
    (chooses : Algorithm.ChoosesUpTo rule maxPermits) (first : Algorithm.limit rule ≤ maxPermits) :
    ¬Failure C before after := by
  intro failure
  obtain ⟨counted, inFlight, under, fits⟩ := governed
  cases failure with
  | enter quiet fails =>
    dsimp only at counted
    rw [counted] at fails
    exact absurd fails Tally.gate_ne_error
  | look sent fails =>
    dsimp only at counted
    rw [counted] at fails
    exact absurd fails Tally.gate_ne_error
  | release fails =>
    dsimp only at counted inFlight
    rw [counted] at fails
    rcases Tally.gate_release_fails (by omega) fails with unchosen | tooHigh
    · exact under.not_fails chooses _ _ unchosen
    · exact absurd (chooses.gives_le first (under.leave _ _).given) (Nat.not_le.mpr tooHigh)

end Turns

lemma create_governed {gate : Gate α} (created : Gate.create rule = .ok gate)
    (timeout : Option Nat) :
    Governed rule (Tally.start rule)
      (Session.start (create gate timeout) : Session C (Waiting (Gate α)) Unit Place).room := by
  obtain ⟨-, fits, rfl⟩ := Tally.of_create created
  exact ⟨rfl, rfl, Tally.start_under rule, Nat.le_trans (Nat.sub_le _ _) fits⟩

/-- As long as limits are chosen which can be counted nothing goes wrong. -/
theorem governed_faultless {gate : Gate α} (created : Gate.create rule = .ok gate)
    (chooses : Algorithm.ChoosesUpTo rule maxPermits) (timeout : Option Nat)
    (actions : List (Session.Action C)) :
    Session.Faultless (Session.start (create gate timeout) :
      Session C (Waiting (Gate α)) Unit Place) actions := by
  apply faultless_of_no_failure (I := fun room => ∃ tally, Governed rule tally room)
  · rintro before after turn - ⟨tally, governed⟩
    exact governed.turn turn
  · rintro before after back - ⟨tally, governed⟩
    exact governed.putBack back
  · rintro before after arrival - ⟨tally, governed⟩
    exact governed.arrival arrival
  · rintro before after - ⟨tally, governed⟩ failure
    obtain ⟨-, first_fits, -⟩ := Tally.of_create created
    exact governed.not_failure chooses first_fits failure
  · exact Session.start_kept _
  · exact ⟨create_lined gate timeout, _, create_governed created timeout⟩

end Waiting
end Admission

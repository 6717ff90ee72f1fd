import Admission.Proofs.Nesting.Basic
import Admission.Proofs.Partition.Resolving
import Admission.Proofs.Waiting.Turns

/-!
# Asking at once and being willing to wait

Every layer has two ways in, which are written apart from each other: asking at once, and the first
look of a caller who is willing to wait. They let in the same callers and leave the same behind.
Where no layer on the way has callers wait, they are the same altogether.
-/

namespace Admission

variable {C α L G W : Type}

/-- The answer to a caller who asks at once, as one to a caller who is willing to wait. -/
def Progress.ofGrant? : Option G → Progress G W
  | some grant => .admitted grant
  | none => .refused .rejected

/-- What asking at once comes to, and what a first look comes to instead. -/
inductive Agrees : L × Except Fault (Option G) → L × Except Fault (Progress G W) → Prop
  | failed (limiter : L) (fault : Fault) : Agrees (limiter, .error fault) (limiter, .error fault)
  | admitted (limiter : L) (grant : G) :
    Agrees (limiter, .ok (some grant)) (limiter, .ok (.admitted grant))
  | refused (denied limiter : L) (cause : Refusal) :
    Agrees (denied, .ok none) (limiter, .ok (.refused cause))
  | waiting (denied limiter : L) (place : W) :
    Agrees (denied, .ok none) (limiter, .ok (.waiting place))

lemma agrees_ofGrant? (limiter : L) (answer : Except Fault (Option G)) :
    Agrees (W := W) (limiter, answer) (limiter, answer.map Progress.ofGrant?) := by
  rcases answer with fault | _ | grant
  · exact .failed limiter fault
  · exact .refused limiter limiter .rejected
  · exact .admitted limiter grant

namespace Agrees

variable {once : L × Except Fault (Option G)} {looked : L × Except Fault (Progress G W)}

lemma admitted_iff (agrees : Agrees once looked) (grant : G) :
    looked.2 = .ok (.admitted grant) ↔ once.2 = .ok (some grant) := by
  cases agrees <;> simp

lemma same_state (agrees : Agrees once looked) {grant : G} (granted : once.2 = .ok (some grant)) :
    looked.1 = once.1 := by
  cases agrees with
  | failed | admitted => rfl
  | refused | waiting => cases granted

/-- A layer which passes on what a limiter inside it answers keeps the agreement. -/
lemma lift {M G' W' : Type} (agrees : Agrees once looked) (around : L → M) (wrap : G → G')
    (pass : Progress G W → Progress G' W')
    (admits : ∀ grant, pass (.admitted grant) = .admitted (wrap grant))
    (refuses : ∀ cause, pass (.refused cause) = .refused cause)
    (waits : ∀ place, ∃ place', pass (.waiting place) = .waiting place') :
    Agrees (around once.1, once.2.map (Option.map wrap)) (around looked.1, looked.2.map pass) := by
  cases agrees with
  | failed limiter fault => exact .failed _ fault
  | admitted limiter grant =>
    simp only [Except.map, admits]
    exact .admitted _ (wrap grant)
  | refused denied limiter cause =>
    simp only [Except.map, refuses]
    exact .refused _ _ cause
  | waiting denied limiter place =>
    obtain ⟨place', same⟩ := waits place
    simp only [Except.map, same]
    exact .waiting _ _ place'

end Agrees

variable [Algorithm α]

/-- A gate answers both in one way. -/
lemma Gate.acquire_eq (gate : Gate α) (ctx : C) (now : Nat) :
    Limiter.acquire gate ctx now = ((Limiter.acquireNow gate ctx).1,
      (Limiter.acquireNow gate ctx).2.map Progress.ofGrant?) := by
  simp only [Limiter.acquire, Limiter.acquireNow]
  cases gate.enter? <;> rfl

namespace Waiting

lemma remain_agrees (denied limiter : Waiting L) (place : Place) (now : Nat) :
    Agrees (G := G) (denied, .ok none) (limiter.remain place now) := by
  generalize remains : limiter.remain place now = result
  obtain ⟨left, answer⟩ := result
  rcases remain_cases remains with ⟨rfl, -⟩ | ⟨rfl, -⟩
  · exact .waiting denied left place
  · exact .refused denied left .timedOut

/-- Whoever is not let in at once joins the queue, whatever the limiter inside says. -/
lemma agrees [Limiter C L G W] (limiter : Waiting L) (ctx : C) (now : Nat) :
    Agrees (Limiter.acquireNow limiter ctx) (Limiter.acquire limiter ctx now) := by
  rw [acquire_eq]
  obtain ⟨next, fault | _ | grant⟩ := Limiter.acquireNow limiter ctx
  · exact .failed next fault
  · exact remain_agrees next _ _ now
  · exact .admitted next grant

end Waiting

namespace Partitioned

lemma agrees [Limiter C L G W] (limiter : Partitioned C L) (ctx : C) (now : Nat)
    (children : ∀ child : L, Agrees (Limiter.acquireNow child ctx) (Limiter.acquire child ctx now)) :
    Agrees (limiter.acquireNow ctx) (limiter.acquire ctx now) := by
  rcases routed : limiter.route ctx with ⟨next, fault | ⟨key, child⟩ | _ | _⟩
  · rw [acquireNow_fault routed, acquire_fault routed]
    exact .failed next fault
  · rw [acquireNow_partition routed, acquire_partition routed]
    exact (children child).lift (next.putChild key) (.within key) (within key) (fun _ => rfl)
      (fun _ => rfl) fun _ => ⟨_, rfl⟩
  · rw [acquireNow_unlimited routed, acquire_unlimited routed]
    exact .admitted next PartitionGrant.unlimited
  · rw [acquireNow_reject routed, acquire_reject routed]
    exact .refused next next .rejected

/-- Where the child to which a caller is sent answers both in one way, so does the limiter. -/
lemma acquire_eq [Limiter C L G W] (limiter : Partitioned C L) (ctx : C) (now : Nat)
    (prompt : ∀ key child, (limiter.route ctx).2 = .ok (.partition key child) →
      Limiter.acquire child ctx now = ((Limiter.acquireNow child ctx).1,
        (Limiter.acquireNow child ctx).2.map Progress.ofGrant?)) :
    limiter.acquire ctx now = ((limiter.acquireNow ctx).1,
      (limiter.acquireNow ctx).2.map Progress.ofGrant?) := by
  rcases routed : limiter.route ctx with ⟨next, fault | ⟨key, child⟩ | _ | _⟩
  · rw [acquireNow_fault routed, acquire_fault routed]
    rfl
  · rw [acquireNow_partition routed, acquire_partition routed,
      prompt key child (congrArg Prod.snd routed)]
    obtain ⟨-, fault | _ | grant⟩ := Limiter.acquireNow child ctx <;> rfl
  · rw [acquireNow_unlimited routed, acquire_unlimited routed]
    rfl
  · rw [acquireNow_reject routed, acquire_reject routed]
    rfl

end Partitioned

namespace Nesting

variable {lim : Limiter C L G W}

/-- The two ways in agree at every layer. -/
theorem agrees (nest : Nesting C α lim) (limiter : L) (ctx : C) (now : Nat) :
    Agrees (Limiter.acquireNow limiter ctx) (Limiter.acquire limiter ctx now) := by
  induction nest with
  | gate =>
    rw [Gate.acquire_eq]
    exact agrees_ofGrant? _ _
  | waiting inner _ => exact Waiting.agrees limiter ctx now
  | partitioned child ih => exact Partitioned.agrees limiter ctx now ih

/-- A caller who meets no layer which has callers wait is answered as one who asks at once. -/
theorem IsPrompt.acquire_eq {nest : Nesting C α lim} {limiter : L} {ctx : C}
    (prompt : nest.IsPrompt limiter ctx) (now : Nat) :
    Limiter.acquire limiter ctx now = ((Limiter.acquireNow limiter ctx).1,
      (Limiter.acquireNow limiter ctx).2.map Progress.ofGrant?) := by
  induction nest with
  | gate => exact Gate.acquire_eq limiter ctx now
  | waiting inner _ => exact prompt.elim
  | partitioned child ih =>
    exact Partitioned.acquire_eq limiter ctx now fun key inner routed => ih (prompt key inner routed)

end Nesting

/-- Whatever the state of a nested limiter, the first look of a caller who is willing to wait lets
the caller in exactly if asking at once would, and then leaves the same behind. A caller who meets no
layer which has callers wait never waits, and is only ever rejected, as one who asks at once is. -/
theorem first_look_agrees_with_asking_at_once {lim : Limiter C L G W} (nest : Nesting C α lim)
    (limiter : L) (ctx : C) (now : Nat) :
    (∀ grant, (Limiter.acquire limiter ctx now).2 = .ok (.admitted grant) ↔
      (Limiter.acquireNow limiter ctx).2 = .ok (some grant)) ∧
    (∀ grant, (Limiter.acquireNow limiter ctx).2 = .ok (some grant) →
      (Limiter.acquire limiter ctx now).1 = (Limiter.acquireNow limiter ctx).1) ∧
    (nest.IsPrompt limiter ctx →
      (∀ place, (Limiter.acquire limiter ctx now).2 ≠ .ok (.waiting place)) ∧
      ∀ cause, (Limiter.acquire limiter ctx now).2 = .ok (.refused cause) →
        cause = .rejected ∧ (Limiter.acquireNow limiter ctx).2 = .ok none ∧
          (Limiter.acquire limiter ctx now).1 = (Limiter.acquireNow limiter ctx).1) := by
  have agrees := nest.agrees limiter ctx now
  refine ⟨agrees.admitted_iff, fun grant => agrees.same_state, fun prompt => ?_⟩
  rw [prompt.acquire_eq now]
  generalize (Limiter.acquireNow limiter ctx).2 = answer
  constructor
  · intro place waits
    rcases answer with fault | _ | grant <;> cases waits
  · intro cause refused
    rcases answer with fault | _ | grant <;> cases refused
    exact ⟨rfl, rfl, rfl⟩

/-- A partition with one place, which is taken; whoever has no partition is rejected. -/
def takenPlace : Partitioned String (Waiting (Gate Fixed)) where
  config :=
    { limit := 1, weights := [("p", Double.ofNat 1)], resolver := some some, fallback := .reject
      unlisted := none }
  make share := (Gate.create ⟨share⟩).map (Waiting.create · none)
  children := [("p", Waiting.create ⟨⟨1⟩, 1, 0, 1, 0⟩ none)]
  made := [("p", 1)]
  unlistedCount := 0

/-- Only whoever belongs to the partition waits. -/
theorem first_look_agrees_with_asking_at_once_beside_a_queue :
    (Nesting.partitioned (.waiting .gate) : Nesting String Fixed _).IsPrompt takenPlace "q" ∧
      (Limiter.acquire takenPlace "q" 0).2 = .ok (.refused .rejected) ∧
      (Limiter.acquire takenPlace "q" 0).1 = (Limiter.acquireNow takenPlace "q").1 ∧
      (Limiter.acquire takenPlace "p" 0).2 = .ok (.waiting ("p", ⟨0, none⟩)) := by
  have prompt : (Nesting.partitioned (.waiting .gate) : Nesting String Fixed _).IsPrompt
      takenPlace "q" := fun key inner routed => nomatch routed
  have agrees := first_look_agrees_with_asking_at_once
    (.partitioned (.waiting .gate) : Nesting String Fixed _) takenPlace "q" 0
  exact ⟨prompt, rfl, ((agrees.2.2 prompt).2 .rejected rfl).2.2, rfl⟩

end Admission

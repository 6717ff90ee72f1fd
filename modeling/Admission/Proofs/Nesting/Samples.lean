import Admission.Proofs.Gate.Tally
import Admission.Proofs.Nesting.Gates
import Admission.Proofs.Session.Invariants

/-!
# The samples of a run

Whoever writes down, during a run, when each job got in and through which gate, and how and when it
was over, knows every sample which an algorithm has been given, and how many jobs each gate counts.
A gate goes on to count a job when moving its limit failed over it. Without a sample no limit is
moved.
-/

namespace Admission

open Function (update)

variable {C α β L G W : Type}

/-- No job has got in at a gate, and its algorithm has been given no sample. -/
def Gate.IsUnused [Algorithm β] (gate : Gate (Metered β)) : Prop :=
  ∃ rule, Gate.create (Metered.recorded rule) = .ok gate

lemma Gate.IsUnused.counts [Algorithm β] {gate : Gate (Metered β)} (unused : gate.IsUnused) :
    gate.algorithm.samples = some [] ∧ gate.inFlight = 0 := by
  obtain ⟨rule, created⟩ := unused
  obtain ⟨-, -, rfl⟩ := Tally.of_create created
  exact ⟨rfl, rfl⟩

namespace Gate

/-- What a gate's algorithm has been given, and what the gate counts; nothing where there is no
gate. -/
def Shows : Option (Gate (Metered β)) → List Sample → Nat → Prop
  | none, samples, count => samples = [] ∧ count = 0
  | some gate, samples, count => gate.algorithm.samples = some samples ∧ gate.inFlight = count

/-- Choosing or moving the limit fails over a job which leaves. -/
def jams [Algorithm α] (gate : Gate α) (outcome : Outcome) (latency : Nat) : Bool :=
  (gate.learn outcome latency).2.isSome

lemma shows_enter {gate entered : Gate (Metered β)} {samples : List Sample} {count : Nat}
    (enters : gate.enter? = some entered) (shows : Shows (some gate) samples count) :
    Shows (some entered) samples (count + 1) := by
  obtain ⟨-, rfl⟩ := enter?_eq_some enters
  exact ⟨shows.1, congrArg (· + 1) shows.2⟩

variable [Algorithm β]

@[simp] lemma jams_ignore [Algorithm α] (gate : Gate α) (latency : Nat) :
    gate.jams .ignore latency = false := rfl

lemma learn_samples (gate : Gate (Metered β)) {outcome : Outcome} (heard : outcome ≠ .ignore)
    (latency : Nat) : (gate.learn outcome latency).1.algorithm.samples =
      gate.algorithm.samples.map (· ++ [⟨latency, gate.inFlight, outcome⟩]) := by
  have recorded : (Algorithm.update gate.algorithm ⟨latency, gate.inFlight, outcome⟩).1.samples =
      gate.algorithm.samples.map (· ++ [⟨latency, gate.inFlight, outcome⟩]) := rfl
  obtain ⟨rule, ⟨limit, updates, moves⟩ | ⟨fault, updates, fails⟩⟩ := gate.learn_of_ne latency heard
  · rw [updates] at recorded
    rw [moves, moveLimit_algorithm]
    exact recorded
  · rw [updates] at recorded
    rw [fails]
    exact recorded

lemma shows_leave {gate : Gate (Metered β)} {samples : List Sample} {count : Nat}
    (shows : Shows (some gate) samples (count + 1)) (outcome : Outcome) (latency : Nat) :
    Shows (some (gate.leave outcome latency).1)
      (if outcome = .ignore then samples else samples ++ [⟨latency, count + 1, outcome⟩])
      (count + if gate.jams outcome latency then 1 else 0) := by
  refine ⟨?_, ?_⟩
  · rw [gate.leave_algorithm]
    by_cases heard : outcome = .ignore
    · rw [if_pos heard, heard, learn_ignore]
      exact shows.1
    · rw [if_neg heard, gate.learn_samples heard, shows.1, shows.2]
      rfl
  · rw [gate.leave_inFlight, shows.2]
    unfold jams
    split <;> rfl

end Gate

namespace Gates

section Shown

variable [Algorithm β] {before after : Gates (Metered β)} {place : Option (List String)}
  {samples : List String → List Sample} {counts : List String → Nat}

/-- What all gates show. -/
def Show (gates : Gates (Metered β)) (samples : List String → List Sample)
    (counts : List String → Nat) : Prop :=
  ∀ path, Gate.Shows (gates path) (samples path) (counts path)

lemma Grows.show (grows : Grows Gate.IsUnused before after)
    (shows : before.Show samples counts) : after.Show samples counts := by
  intro path
  have known := shows path
  rcases grows path with same | ⟨absent, gate, new, unused⟩
  · rw [same]
    exact known
  · rw [absent] at known
    have counts := unused.counts
    rw [new]
    exact ⟨counts.1.trans (congrArg some known.1.symm), counts.2.trans known.2.symm⟩

lemma Takes.show (takes : Takes Gate.IsUnused before place after)
    (shows : before.Show samples counts) :
    after.Show samples fun path => counts path + here place path := by
  obtain ⟨grown, grows, enters⟩ := takes
  have shows := grows.show shows
  cases enters with
  | nowhere => exact shows
  | @gate path gate entered known enters =>
    intro other
    have shown := shows other
    dsimp only
    by_cases same : other = path
    · subst same
      rw [known] at shown
      rw [Function.update_self, here_self]
      exact Gate.shows_enter enters shown
    · rw [Function.update_of_ne same, here_of_ne same]
      exact shown

/-- A job leaves a gate: the algorithm may be given a sample, in which the job is counted. -/
lemma Leaves.show {outcome : Outcome} {latency : Nat} {fault : Option Fault}
    (leaves : Leaves before outcome latency place (after, fault))
    (shows : before.Show samples fun path => counts path + here place path) :
    after.Show
      (fun path => if place = some path ∧ outcome ≠ .ignore then
        samples path ++ [⟨latency, counts path + 1, outcome⟩] else samples path)
      (fun path => counts path +
        if (place.bind before).any (·.jams outcome latency) then here place path else 0) := by
  cases leaves with
  | outside =>
    intro path
    simpa using shows path
  | @nowhere path absent =>
    -- Nobody can be where there is no gate.
    have shown := shows path
    dsimp only at shown
    rw [absent, here_self] at shown
    cases shown.2
  | @gate path gate known =>
    intro other
    have shown := shows other
    dsimp only at shown ⊢
    by_cases same : other = path
    · subst same
      rw [known, here_self] at shown
      have left := Gate.shows_leave shown outcome latency
      rw [Function.update_self, Option.bind_some, known, Option.any_some, here_self]
      by_cases heard : outcome = .ignore <;> simpa [heard] using left
    · have elsewhere : some path ≠ some other := fun eq => same (Option.some.inj eq).symm
      rw [here_of_ne same] at shown
      simpa [elsewhere, here_of_ne same, Function.update_of_ne same] using shown

/-- An ignored job is just not counted any more. -/
lemma Leaves.show_ignored {latency : Nat} {fault : Option Fault}
    (leaves : Leaves before .ignore latency place (after, fault))
    (shows : before.Show samples fun path => counts path + here place path) :
    after.Show samples counts := by
  have jams : (place.bind before).any (·.jams .ignore latency) = false := by
    cases place.bind before <;> rfl
  simpa [jams] using leaves.show shows

end Shown

/-- Samples are only ever added, and the limit of a gate stays unless one has been. -/
structure Steady (before after : Gates α) (samples samples' : List String → List Sample) :
    Prop where
  grow : ∀ path, samples path <+: samples' path
  limit : ∀ path gate, before path = some gate → ∃ gate', after path = some gate' ∧
    (samples' path = samples path → gate'.limit = gate.limit)

section Steady

variable {P : Gate α → Prop} {before middle after : Gates α} {place : Option (List String)}
  {samples samples' samples'' : List String → List Sample}

lemma Steady.refl (before : Gates α) (samples : List String → List Sample) :
    Steady before before samples samples :=
  ⟨fun _ => List.prefix_refl _, fun _ gate known => ⟨gate, known, fun _ => rfl⟩⟩

lemma Steady.trans (early : Steady before middle samples samples')
    (late : Steady middle after samples' samples'') : Steady before after samples samples'' := by
  refine ⟨fun path => (early.grow path).trans (late.grow path), fun path gate known => ?_⟩
  obtain ⟨gate', known', moved'⟩ := early.limit path gate known
  obtain ⟨gate'', known'', moved''⟩ := late.limit path gate' known'
  refine ⟨gate'', known'', fun same => ?_⟩
  have longer := late.grow path
  rw [same] at longer
  have same' : samples' path = samples path := longer.sublist.antisymm (early.grow path).sublist
  exact (moved'' (same.trans same'.symm)).trans (moved' same')

lemma Takes.steady (takes : Takes P before place after) (samples : List String → List Sample) :
    Steady before after samples samples := by
  refine ⟨fun _ => List.prefix_refl _, fun path gate known => ?_⟩
  obtain ⟨grown, grows, enters⟩ := takes
  have still : grown path = some gate := by
    rcases grows path with same | ⟨absent, -⟩
    · exact same.trans known
    · rw [absent] at known
      cases known
  cases enters with
  | nowhere => exact ⟨gate, still, fun _ => rfl⟩
  | @gate other gate' entered known' enters =>
    by_cases same : path = other
    · subst same
      cases still.symm.trans known'
      obtain ⟨-, rfl⟩ := Gate.enter?_eq_some enters
      exact ⟨_, Function.update_self _ _ _, fun _ => rfl⟩
    · exact ⟨gate, (Function.update_of_ne same _ _).trans still, fun _ => rfl⟩

lemma Leaves.steady [Algorithm α] {outcome : Outcome} {latency : Nat} {fault : Option Fault}
    (leaves : Leaves before outcome latency place (after, fault))
    (grow : ∀ path, samples path <+: samples' path)
    (given : ∀ path, place = some path → outcome ≠ .ignore → samples' path ≠ samples path) :
    Steady before after samples samples' := by
  refine ⟨grow, fun path gate known => ?_⟩
  cases leaves with
  | outside | nowhere => exact ⟨gate, known, fun _ => rfl⟩
  | @gate other gate' known' =>
    by_cases same : path = other
    · subst same
      cases known.symm.trans known'
      refine ⟨_, Function.update_self _ _ _, fun nothing => ?_⟩
      have ignored : outcome = .ignore := by
        by_contra heard
        exact given path rfl heard nothing
      rw [gate.leave_limit, ignored, Gate.learn_ignore]
    · exact ⟨gate, (Function.update_of_ne same _ _).trans known, fun _ => rfl⟩

end Steady

end Gates
end Admission

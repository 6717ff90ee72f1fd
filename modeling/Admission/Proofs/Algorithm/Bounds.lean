import Admission.Proofs.Algorithm.Decrease
import Admission.Proofs.Gate.Balance

/-!
# Bounds of a limit

A sample leaves an AIMD limit as it is or brings it between one and the maximum. So every limit is
the first one or lies there, and a gate with such a limit, whose permits can be counted, never loses
its last permit: with nobody in flight it admits.
-/

namespace Admission

section Samples

variable {α : Type} [Algorithm α] {rule later : α}

lemma Algorithm.Reaches.after (reached : Algorithm.Reaches rule later) (samples : List Sample) :
    Algorithm.Reaches rule (Algorithm.after later samples) := by
  induction samples generalizing later with
  | nil => exact reached
  | cons sample rest ih => exact ih (.update sample reached)

end Samples

namespace Aimd

section Limits

variable {initial : Nat} {aimd later : Aimd}

/-- What a sample does to the limit. -/
lemma next_cases (aimd : Aimd) (sample : Sample) :
    (aimd.next sample = .error .sumOverflow ∧ wordSize ≤ aimd.limit + aimd.increase) ∨
      aimd.next sample = .ok aimd.limit ∨
      ∃ candidate, aimd.next sample = .ok (aimd.clamp candidate) := by
  unfold Aimd.next
  cases sample.outcome with
  | success =>
    by_cases busy : aimd.Busy sample.inFlight
    · rcases Nat.lt_or_ge (aimd.limit + aimd.increase) wordSize with fits | overflows
      · exact .inr (.inr ⟨_, increased_of_fits busy fits⟩)
      · exact .inl ⟨increased_of_overflow busy overflows, overflows⟩
    · exact .inr (.inl (increased_of_not_busy busy))
  | dropped => exact .inr (.inr ⟨_, rfl⟩)
  | ignore => exact .inr (.inl rfl)

/-- A sample changes nothing but the limit, and that only to the limit which is chosen. -/
lemma update_cases (aimd : Aimd) (sample : Sample) :
    (Algorithm.update aimd sample = (aimd, .error .sumOverflow) ∧
        wordSize ≤ aimd.limit + aimd.increase) ∨
      Algorithm.update aimd sample = (aimd, .ok aimd.limit) ∨
      ∃ candidate, Algorithm.update aimd sample =
        ({ aimd with limit := aimd.clamp candidate }, .ok (aimd.clamp candidate)) := by
  rcases aimd.next_cases sample with ⟨fails, overflows⟩ | stays | ⟨candidate, clamped⟩
  · exact .inl ⟨update_of_error fails, overflows⟩
  · exact .inr (.inl (update_of_ok stays))
  · exact .inr (.inr ⟨candidate, update_of_ok clamped⟩)

lemma overflow_of_update {sample : Sample} {fault : Fault}
    (fails : (Algorithm.update aimd sample).2 = .error fault) :
    fault = .sumOverflow ∧ wordSize ≤ aimd.limit + aimd.increase := by
  rcases aimd.update_cases sample with ⟨failed, overflows⟩ | stays | ⟨candidate, clamped⟩
  · rw [failed] at fails
    exact ⟨(Except.error.inj fails).symm, overflows⟩
  · rw [stays] at fails
    cases fails
  · rw [clamped] at fails
    cases fails

/-- Samples change nothing but the limit. -/
lemma eq_of_reaches (reached : Algorithm.Reaches aimd later) :
    later = { aimd with limit := later.limit } := by
  induction reached with
  | start => rfl
  | @update later sample _ ih =>
    rcases later.update_cases sample with ⟨fails, -⟩ | stays | ⟨candidate, clamped⟩
    · rw [fails]
      exact ih
    · rw [stays]
      exact ih
    · rw [clamped]
      dsimp only
      rw [ih]

lemma maximum_of_reaches (reached : Algorithm.Reaches aimd later) :
    later.maximum = aimd.maximum := by
  rw [eq_of_reaches reached]

/-- A limit is the first one until it is brought between one and the maximum, where it stays. -/
lemma limit_of_reaches (maximum_pos : 1 ≤ aimd.maximum) (reached : Algorithm.Reaches aimd later) :
    later.limit = aimd.limit ∨ 1 ≤ later.limit ∧ later.limit ≤ aimd.maximum := by
  induction reached with
  | start => exact .inl rfl
  | @update later sample reached ih =>
    have same := maximum_of_reaches reached
    rcases later.update_cases sample with ⟨fails, -⟩ | stays | ⟨candidate, clamped⟩
    · rw [fails]
      exact ih
    · rw [stays]
      exact ih
    · rw [← same] at maximum_pos ⊢
      rw [clamped]
      exact .inr ⟨one_le_clamp maximum_pos _, clamp_le_maximum maximum_pos _⟩

/-- The limit which is chosen is kept, and if it is a raise it is not above the maximum. -/
lemma chosen_of_update (maximum_pos : 1 ≤ aimd.maximum) {sample : Sample} {limit : Nat}
    (chosen : (Algorithm.update aimd sample).2 = .ok limit) :
    (Algorithm.update aimd sample).1.limit = limit ∧
      (aimd.limit < limit → limit ≤ aimd.maximum) := by
  rcases aimd.update_cases sample with ⟨fails, -⟩ | stays | ⟨candidate, clamped⟩
  · rw [fails] at chosen
    cases chosen
  · rw [stays] at chosen ⊢
    cases chosen
    exact ⟨rfl, fun raised => absurd raised (Nat.lt_irrefl _)⟩
  · rw [clamped] at chosen ⊢
    cases chosen
    exact ⟨rfl, fun _ => clamp_le_maximum maximum_pos _⟩

/-- The limits which a gate is given are all positive, and no larger than the first one and the
maximum. -/
lemma bounds_of_gives (checked : Checked initial aimd) {limit : Nat}
    (gives : Algorithm.Gives aimd limit) : 1 ≤ limit ∧ limit ≤ max initial aimd.maximum := by
  have first := checked.limit
  have initial_pos := checked.initial_pos
  rcases gives with rfl | ⟨later, sample, reached, chosen⟩
  · change 1 ≤ aimd.limit ∧ aimd.limit ≤ _
    omega
  · have maximum_pos : 1 ≤ later.maximum := maximum_of_reaches reached ▸ checked.maximum_pos
    have kept := (chosen_of_update maximum_pos chosen).1
    have := limit_of_reaches checked.maximum_pos (reached.update sample)
    omega

/-- Where a limit cannot be chosen, the largest limit and the increase add up to no word. -/
lemma overflow_of_reaches (checked : Checked initial aimd) (reached : Algorithm.Reaches aimd later)
    {sample : Sample} {fault : Fault} (fails : (Algorithm.update later sample).2 = .error fault) :
    fault = .sumOverflow ∧ wordSize ≤ max initial aimd.maximum + aimd.increase := by
  obtain ⟨sumOverflow, overflows⟩ := overflow_of_update fails
  have limit := limit_of_reaches checked.maximum_pos reached
  have first := checked.limit
  have increase : later.increase = aimd.increase := by rw [eq_of_reaches reached]
  exact ⟨sumOverflow, by omega⟩

end Limits

open Session (Action start)

section Gates

variable {C : Type} {initial : Nat} {aimd : Aimd}

lemma starts_apart (aimd : Aimd) :
    (start (Tally.start aimd).gate : Session C (Gate Aimd) Unit Empty).room.limiter.Apart :=
  .inr (Nat.zero_sub _)

/-- A gate over an AIMD limit whose permits can be counted counts them and keeps one at least, also
after samples over which no limit could be chosen. -/
lemma gate_counts (checked : Checked initial aimd) (first : initial ≤ maxPermits)
    (highest : aimd.maximum ≤ maxPermits) (actions : List (Action C)) :
    let fresh : Session C (Gate Aimd) Unit Empty := start (Tally.start aimd).gate
    let session := fresh.after actions
    (∀ fault, .fault fault ∈ fresh.answers actions →
        fault = .sumOverflow ∧ wordSize ≤ max initial aimd.maximum + aimd.increase) ∧
      session.limiter.limit ≤ maxPermits ∧ session.limiter.available ≤ maxPermits ∧
      (fresh.Faultless actions → session.limiter.available ≤ session.limiter.limit) ∧
      (session.held = [] → ∀ id ctx, (session.step (.acquireNow id ctx)).2 = .admitted) := by
  intro fresh session
  have bounded : ∀ limit, Algorithm.Gives aimd limit → limit ≤ maxPermits := by
    intro limit gives
    have := (bounds_of_gives checked gives).2
    omega
  have starts : Session.Balances aimd fresh.room := by
    refine ⟨⟨.start, .inl rfl⟩, ?_, ?_⟩
    · change Algorithm.limit aimd - 0 + 0 = Algorithm.limit aimd + (0 - Algorithm.limit aimd)
      omega
    · have fits := bounded _ (.inl rfl)
      change Algorithm.limit aimd + (0 - Algorithm.limit aimd) ≤ maxPermits
      omega
  have moves : ∀ {before after}, Session.Move C before after → Session.Balances aimd before →
      Session.Balances aimd after := Session.move_balances bounded
  have mishaps : ∀ {fault before after}, Session.Mishap C fault before after →
      Session.Balances aimd before → Session.Balances aimd after :=
    fun mishap balances => (Session.mishap_balances bounded mishap balances).1
  refine ⟨fun fault mem => ?_, ?_⟩
  · apply Session.answers_fault moves (fun stay => nomatch stay) (fun join => nomatch join)
      mishaps ?_ (Session.start_kept _) starts actions mem
    intro fault before after mishap balances
    obtain ⟨-, later, sample, reached, fails⟩ := Session.mishap_balances bounded mishap balances
    exact overflow_of_reaches checked reached fails
  · obtain ⟨⟨under, ⟨balanced, countable⟩⟩, kept⟩ := Session.after_keeps moves
      (fun stay => nomatch stay) (fun join => nomatch join) mishaps (Session.start_kept _) starts
      actions
    have positive := (bounds_of_gives checked under.given).1
    change session.limiter.available + session.held.length =
      session.limiter.limit + session.limiter.debt at balanced
    change session.limiter.limit + session.limiter.debt ≤ maxPermits at countable
    change 1 ≤ session.limiter.limit at positive
    refine ⟨by omega, by omega, fun smooth => ?_, fun nobody id ctx => ?_⟩
    · have keeps_apart : ∀ {before after : Session.Room (Gate Aimd) Empty},
          Session.Move C before after → before.limiter.Apart → after.limiter.Apart :=
        Session.move_apart
      obtain ⟨apart, -⟩ := Session.after_keeps_faultless (I := fun room => room.limiter.Apart)
        keeps_apart (fun stay => absurd stay Session.no_stay)
        (fun join => absurd join Session.no_join)
        (Session.start_kept _) (starts_apart aimd) smooth
      change session.limiter.available = 0 ∨ session.limiter.debt = 0 at apart
      omega
    · rw [nobody, List.length_nil] at balanced
      exact Session.acquireNow_admits nobody (by omega) id ctx

end Gates

/-- Every limit after any samples is at least one and at most the larger of the first one and the
maximum; none is raised above the maximum; and one which is within the maximum stays within it. So a
gate over such a limit, if its first limit and its maximum can be counted, never counts more permits
than it can, in any run, and it admits whenever nobody is in flight. The only fault it can meet is
that an increase and a limit add up to no word, and as long as it meets none it has no more free
permits than its limit. -/
theorem limit_stays_in_bounds {C : Type} {initial : Nat} {aimd : Aimd}
    (built : Built initial aimd) :
    (∀ samples : List Sample,
      let later := Algorithm.after aimd samples
      1 ≤ later.limit ∧ later.limit ≤ max initial aimd.maximum ∧
        (∀ sample limit, (Algorithm.update later sample).2 = .ok limit →
          (Algorithm.update later sample).1.limit = limit ∧
            (later.limit < limit → limit ≤ aimd.maximum)) ∧
        (later.limit ≤ aimd.maximum → ∀ more : List Sample,
          (Algorithm.after later more).limit ≤ aimd.maximum)) ∧
      (initial ≤ maxPermits → aimd.maximum ≤ maxPermits →
        ∃ gate, Gate.create aimd = .ok gate ∧ ∀ actions : List (Action C),
          let fresh : Session C (Gate Aimd) Unit Empty := start gate
          let session := fresh.after actions
          (∀ fault, .fault fault ∈ fresh.answers actions → fault = .sumOverflow) ∧
            (max initial aimd.maximum + aimd.increase < wordSize → fresh.Faultless actions) ∧
            session.limiter.limit ≤ maxPermits ∧ session.limiter.available ≤ maxPermits ∧
            (fresh.Faultless actions → session.limiter.available ≤ session.limiter.limit) ∧
            (session.held = [] →
              ∀ id ctx, (session.step (.acquireNow id ctx)).2 = .admitted)) := by
  have checked := built.checked
  have first := checked.limit
  have initial_pos := checked.initial_pos
  refine ⟨fun samples => ?_, fun fits highest => ?_⟩
  · intro later
    have reached : Algorithm.Reaches aimd later := Algorithm.Reaches.start.after samples
    have maximum_eq : later.maximum = aimd.maximum := maximum_of_reaches reached
    have maximum_pos : 1 ≤ later.maximum := maximum_eq ▸ checked.maximum_pos
    have limit := limit_of_reaches checked.maximum_pos reached
    refine ⟨by omega, by omega, fun sample limit chosen => ?_, fun below more => ?_⟩
    · rw [← maximum_eq]
      exact chosen_of_update maximum_pos chosen
    · have last := limit_of_reaches maximum_pos (Algorithm.Reaches.start.after more)
      rw [maximum_eq] at last
      omega
  · have gate_fits : Algorithm.limit aimd ≤ maxPermits := first.trans_le fits
    have gate_pos : 1 ≤ Algorithm.limit aimd := initial_pos.trans_eq first.symm
    refine ⟨_, Tally.create_eq_ok gate_pos gate_fits, fun actions => ?_⟩
    obtain ⟨faults, limit, available, free, admits⟩ :=
      gate_counts (C := C) checked fits highest actions
    refine ⟨fun fault mem => (faults fault mem).1, fun sums_fit answer mem => ?_, limit, available,
      free, admits⟩
    cases answer with
    | fault fault =>
      have overflows := (faults fault mem).2
      omega
    | _ => rfl

/-- A job is admitted, is dropped and goes. -/
def lonelyDrop : List (Action Unit) := [.acquireNow "a" (), .resolve "a" .dropped]

/-- A limit which starts at five above a maximum of three: the drop brings it to the maximum, and the
gate admits when its only job has gone. -/
theorem limit_stays_in_bounds_from_above :
    ∃ aimd, create 5 ⟨none, none, some 3, none⟩ = .ok aimd ∧
      (Algorithm.after aimd [⟨0, 1, .dropped⟩]).limit ≤ 5 ∧
      ∃ gate, Gate.create aimd = .ok gate ∧
        let session : Session Unit (Gate Aimd) Unit Empty := (start gate).after lonelyDrop
        session.limiter.limit = 3 ∧ (session.step (.acquireNow "b" ())).2 = .admitted := by
  obtain ⟨aimd, created, maximum, limit, gone⟩ : ∃ aimd,
      create 5 ⟨none, none, some 3, none⟩ = .ok aimd ∧ aimd.maximum = 3 ∧
        let session : Session Unit (Gate Aimd) Unit Empty :=
          (start (Tally.start aimd).gate).after lonelyDrop
        session.limiter.limit = 3 ∧ session.held.length = 0 :=
    ⟨⟨5, Double.ofRatio 9 10, 1, 3, Double.ofRatio 8 10⟩, by decide +kernel⟩
  have built : Built 5 aimd :=
    create_built (by decide) (by simp) (by simp) (by simp; decide) (by simp) created
  obtain ⟨bounds, gates⟩ := limit_stays_in_bounds (C := Unit) built
  obtain ⟨-, highest, -, -⟩ := bounds [⟨0, 1, .dropped⟩]
  obtain ⟨gate, made, runs⟩ := gates (by decide) (by rw [maximum]; decide)
  obtain ⟨-, -, rfl⟩ := Tally.of_create made
  obtain ⟨-, -, -, -, -, admits⟩ := runs lonelyDrop
  rw [maximum] at highest
  exact ⟨aimd, created, highest, _, made, limit, admits (List.length_eq_zero_iff.mp gone) "b" ()⟩

end Aimd
end Admission

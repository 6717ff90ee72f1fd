import Admission.Listener.Trial
import Admission.Proofs.Listener.Chains

/-!
# The lives of listeners

Over a trial of any length, what is to become of a listener can be read off the steps which follow
the one it was made in: what it is wrapped with, and at which step, how and when it is over. The
trial, which knows its listeners only by their names at the moment, reports on each of them as those
steps have it, once.
-/

namespace Admission.Listener

variable {σ : Type}

namespace Step

/-- How a step ends the listener of a name: with which outcome. -/
def ends (step : Step σ) (name : String) : Option Outcome :=
  match step with
  | .new other _ | .unlimited other | .drop other => if other = name then some .ignore else none
  | .resolve other outcome => if other = name then some outcome else none
  | .andThen _ _ | .elapsed _ | .advance _ => none

/-- What a step wraps the listener of a name with. -/
def adds (step : Step σ) (name : String) : List (Sequel σ) :=
  match step with
  | .andThen other sequel => if other = name then [sequel] else []
  | _ => []

/-- The listener which a step makes: its name and its completion. -/
def makes : Step σ → Option (String × Completion σ)
  | .new name completion => some (name, completion)
  | .unlimited name => some (name, Completion.nothing)
  | _ => none

def lasts : Step σ → Nat
  | .advance time => time
  | _ => 0

/-- Whose listener a step is about, if it may change any. -/
def about : Step σ → Option String
  | .new name _ | .unlimited name | .andThen name _ | .resolve name _ | .drop name => some name
  | .elapsed _ | .advance _ => none

end Step

/-- What comes one step later. -/
def later {α : Type} (event : Nat × α) : Nat × α := (event.1 + 1, event.2)

/-- What becomes of a listener which was made at a time under a name and has been wrapped since:
after how many of the steps to come it is over, and what is done then. If no step ends it, it is
thrown away after the last one. -/
def fate (name : String) (made : Nat) (completion : Completion σ) :
    List (Sequel σ) → Nat → List (Step σ) → Nat × Deed σ
  | sequels, now, [] => (0, inTurn (deeds completion sequels .ignore (now - made)))
  | sequels, now, step :: rest =>
    match step.ends name with
    | some outcome => (0, inTurn (deeds completion sequels outcome (now - made)))
    | none =>
      later (fate name made completion (sequels ++ step.adds name) (now + step.lasts) rest)

/-- What becomes of all the listeners which some steps make, from a time on. -/
def lives : Nat → List (Step σ) → List (Nat × Deed σ)
  | _, [] => []
  | now, step :: rest =>
    ((step.makes.toList.map fun made =>
        fate made.1 now made.2 [] (now + step.lasts) rest)
      ++ lives (now + step.lasts) rest).map later

/-- What the reports do which are made at once, before any further step. -/
def atOnce (reports : List (Report (Completion σ))) : List (Nat × Deed σ) :=
  reports.map fun report => (0, report.carryOut)

/-- What is done over some steps, and after them when the listeners which are left are thrown away:
one entry for each report, with the number of steps before. -/
def Trial.events (trial : Trial σ) : List (Step σ) → List (Nat × Deed σ)
  | [] => atOnce trial.close
  | step :: rest =>
    let (next, _, reports) := trial.step step
    atOnce reports ++ (next.events rest).map later

/-! What a step does to the listeners there are. -/

section Steps

variable {step : Step σ} {name : String}

/-- What a step reports on a listener. -/
def told (step : Step σ) (now : Nat) (entry : String × Listener (Completion σ)) :
    List (Report (Completion σ)) :=
  match step.ends entry.1 with
  | some outcome => entry.2.resolve outcome now
  | none => []

/-- What a step leaves of a listener. -/
def kept (step : Step σ) (entry : String × Listener (Completion σ)) :
    Option (String × Listener (Completion σ)) :=
  match step.ends entry.1 with
  | some _ => none
  | none => some (entry.1,
      { entry.2 with completion := entry.2.completion.map (chain · (step.adds entry.1)) })

/-- Names are distinct and no listener has been used up. -/
structure Trial.Sound (trial : Trial σ) : Prop where
  distinct : Table.Distinct trial.listeners
  unused : ∀ entry ∈ trial.listeners, ∃ completion, entry.2.completion = some completion

/-- What a step does: some listeners are reported on and gone, the others are kept, and there may be
a new one. -/
structure Trial.Goes (trial : Trial σ) (step : Step σ) (next : Trial σ)
    (reports : List (Report (Completion σ))) : Prop where
  now : next.now = trial.now + step.lasts
  distinct : Table.Distinct next.listeners
  listeners : next.listeners.Perm (trial.listeners.filterMap (kept step) ++
    step.makes.toList.map fun made => (made.1, Listener.new made.2 trial.now))
  reports : reports = trial.listeners.flatMap (told step trial.now)

lemma drop_toList (listener : Listener (Completion σ)) (now : Nat) :
    (listener.drop now).toList = listener.resolve .ignore now := by
  simp [resolve, drop, complete]

/-- A step leaves listeners which it is not about as they are. -/
lemma of_not_about (other : step.about ≠ some name) :
    step.ends name = none ∧ step.adds name = [] := by
  cases step <;> simp_all [Step.about, Step.ends, Step.adds]

lemma kept_of_not_about {entry : String × Listener (Completion σ)}
    (other : step.about ≠ some entry.1) : kept step entry = some entry := by
  obtain ⟨lasting, bare⟩ := of_not_about other
  simp only [kept, lasting, bare, chain, List.foldl_nil, Option.map_id']

lemma told_of_not_about {entry : String × Listener (Completion σ)} (now : Nat)
    (other : step.about ≠ some entry.1) : told step now entry = [] := by
  simp only [told, (of_not_about other).1]

lemma filterMap_kept {entries : Table (Listener (Completion σ))}
    (other : ∀ entry ∈ entries, step.about ≠ some entry.1) :
    entries.filterMap (kept step) = entries := by
  rw [List.filterMap_congr fun entry mem => kept_of_not_about (other entry mem)]
  exact List.filterMap_some

lemma flatMap_told {entries : Table (Listener (Completion σ))} (now : Nat)
    (other : ∀ entry ∈ entries, step.about ≠ some entry.1) :
    entries.flatMap (told step now) = [] :=
  List.flatMap_eq_nil_iff.mpr fun entry mem => told_of_not_about now (other entry mem)

/-- About the listener of a name which is in its place, a step says how it ends or what it adds. -/
lemma Trial.Sound.split {trial : Trial σ} (sound : trial.Sound) {listener : Listener (Completion σ)}
    (found : Table.at? trial.listeners name = some listener) (about : step.about = some name) :
    ∃ before after, trial.listeners = before ++ (name, listener) :: after ∧
      (∀ entry ∈ before, entry.1 ≠ name) ∧
      trial.listeners.filterMap (kept step) =
        before ++ ((kept step (name, listener)).toList ++ after) ∧
      trial.listeners.flatMap (told step trial.now) = told step trial.now (name, listener) := by
  obtain ⟨before, after, split, different⟩ := Table.split_of_at? found
  have distinct : Table.Distinct (before ++ (name, listener) :: after) := split ▸ sound.distinct
  have other : ∀ entry ∈ before ++ after, step.about ≠ some entry.1 := by
    intro entry mem same
    exact distinct.ne_of_split entry mem (Option.some.inj (same.symm.trans about))
  have earlier : ∀ entry ∈ before, step.about ≠ some entry.1 :=
    fun entry mem => other entry (List.mem_append_left _ mem)
  have following : ∀ entry ∈ after, step.about ≠ some entry.1 :=
    fun entry mem => other entry (List.mem_append_right _ mem)
  refine ⟨before, after, split, different, ?_, ?_⟩
  · rw [split, List.filterMap_append, filterMap_kept earlier, List.filterMap_cons]
    cases kept step (name, listener) <;> simp [filterMap_kept following]
  · rw [split, List.flatMap_append, flatMap_told trial.now earlier, List.flatMap_cons,
      flatMap_told trial.now following, List.nil_append, List.append_nil]

/-- A step about a name which no listener has, or about none, leaves every listener as it is. -/
lemma untouched {trial : Trial σ}
    (absent : ∀ name, step.about = some name → Table.at? trial.listeners name = none) :
    trial.listeners.filterMap (kept step) = trial.listeners ∧
      trial.listeners.flatMap (told step trial.now) = [] := by
  have other : ∀ entry ∈ trial.listeners, step.about ≠ some entry.1 := fun entry mem about =>
    Table.ne_of_at?_none (absent entry.1 about) entry mem rfl
  exact ⟨filterMap_kept other, flatMap_told trial.now other⟩

variable {trial : Trial σ}

lemma absent_of_about (about : step.about = some name)
    (absent : Table.at? trial.listeners name = none) :
    ∀ other, step.about = some other → Table.at? trial.listeners other = none := by
  intro other same
  rwa [← Option.some.inj (about.symm.trans same)]

lemma goes_nowhere (sound : trial.Sound)
    (absent : ∀ name, step.about = some name → Table.at? trial.listeners name = none)
    (makes : step.makes = none) :
    trial.Goes step { trial with now := trial.now + step.lasts } [] := by
  obtain ⟨same, silent⟩ := untouched absent
  refine ⟨rfl, sound.distinct, ?_, silent.symm⟩
  rw [same, makes]
  exact .of_eq (List.append_nil _).symm

lemma replace_goes (sound : trial.Sound) {completion : Completion σ}
    (about : step.about = some name) (ends : step.ends name = some .ignore)
    (makes : step.makes = some (name, completion)) (lasts : step.lasts = 0) :
    trial.Goes step (trial.replace name (.new completion trial.now)).1
      (trial.replace name (.new completion trial.now)).2 := by
  have still : trial.now = trial.now + step.lasts := by rw [lasts, Nat.add_zero]
  unfold Trial.replace
  cases found : Table.at? trial.listeners name with
  | none =>
    obtain ⟨same, silent⟩ := untouched (absent_of_about about found)
    refine ⟨still, sound.distinct.put name _, ?_, silent.symm⟩
    rw [same, makes]
    exact .of_eq (Table.put_of_at?_none _ found)
  | some old =>
    obtain ⟨before, after, split, different, left, reported⟩ := sound.split found about
    refine ⟨still, sound.distinct.put name _, ?_, ?_⟩
    · have gone : kept step (name, old) = none := by simp only [kept, ends]
      rw [left, gone, makes, split]
      dsimp only
      rw [Table.put_split _ different]
      exact List.perm_middle.trans (List.perm_append_singleton _ _).symm
    · rw [reported]
      simp only [told, ends, Option.bind_some, drop_toList]

lemma use_goes (sound : trial.Sound) {outcome : Outcome}
    {how : Listener (Completion σ) → List (Report (Completion σ))}
    (about : step.about = some name) (ends : step.ends name = some outcome)
    (makes : step.makes = none) (lasts : step.lasts = 0)
    (uses : ∀ listener, how listener = listener.resolve outcome trial.now) :
    trial.Goes step (trial.use name how).1 (trial.use name how).2.2 := by
  have still : trial.now = trial.now + step.lasts := by rw [lasts, Nat.add_zero]
  unfold Trial.use
  cases found : Table.at? trial.listeners name with
  | none =>
    have nowhere := goes_nowhere sound (absent_of_about about found) makes
    rwa [← still] at nowhere
  | some listener =>
    obtain ⟨before, after, split, different, left, reported⟩ := sound.split found about
    have distinct : Table.Distinct (before ++ (name, listener) :: after) := split ▸ sound.distinct
    have removed : Table.remove trial.listeners name = before ++ after := by
      rw [split, Table.remove_split distinct]
    refine ⟨still, removed ▸ distinct.erase, ?_, ?_⟩
    · have gone : kept step (name, listener) = none := by simp only [kept, ends]
      rw [left, gone, makes]
      exact .of_eq (removed.trans (List.append_nil _).symm)
    · rw [reported]
      simp only [told, ends]
      exact uses listener

lemma wrap_goes (sound : trial.Sound) (name : String) (sequel : Sequel σ)
    {listener : Listener (Completion σ)}
    (found : Table.at? trial.listeners name = some listener) :
    trial.Goes (.andThen name sequel)
      { trial with
        listeners := Table.put trial.listeners name (listener.followedBy sequel trial.now).1 }
      (listener.followedBy sequel trial.now).2.toList := by
  have about : (Step.andThen name sequel).about = some name := rfl
  obtain ⟨before, after, split, different, left, reported⟩ := sound.split found about
  obtain ⟨completion, unused⟩ := sound.unused _ (Table.mem_of_at? found)
  have wraps : kept (.andThen name sequel) (name, listener) =
      some (name, (listener.followedBy sequel trial.now).1) := by
    simp only [kept, Step.ends, Step.adds, if_true]
    rw [followedBy, andThen, unused]
    rfl
  refine ⟨rfl, sound.distinct.put name _, ?_, reported.symm⟩
  rw [left, wraps, split]
  dsimp only
  rw [Table.put_split _ different]
  exact .of_eq (List.append_nil _).symm

lemma goes (sound : trial.Sound) (step : Step σ) :
    trial.Goes step (trial.step step).1 (trial.step step).2.2 := by
  cases step with
  | new name completion =>
    exact replace_goes sound rfl (if_pos rfl) rfl rfl
  | unlimited name =>
    exact replace_goes sound rfl (if_pos rfl) rfl rfl
  | andThen name sequel =>
    simp only [Trial.step]
    cases found : Table.at? trial.listeners name with
    | none => exact goes_nowhere sound (absent_of_about rfl found) rfl
    | some listener => exact wrap_goes sound name sequel found
  | elapsed name =>
    have nowhere : trial.Goes (.elapsed name) trial [] :=
      goes_nowhere sound (by simp [Step.about]) rfl
    simp only [Trial.step]
    cases Table.at? trial.listeners name with
    | none => exact nowhere
    | some listener => exact nowhere
  | advance time =>
    exact goes_nowhere sound (by simp [Step.about]) rfl
  | resolve name outcome =>
    exact use_goes sound rfl (if_pos rfl) rfl rfl fun _ => rfl
  | drop name =>
    exact use_goes sound rfl (if_pos rfl) rfl rfl fun listener => drop_toList listener trial.now

lemma Trial.Goes.sound {next : Trial σ} {reports : List (Report (Completion σ))}
    (goes : trial.Goes step next reports) (sound : trial.Sound) : next.Sound := by
  refine ⟨goes.distinct, fun entry mem => ?_⟩
  rcases List.mem_append.mp (goes.listeners.mem_iff.mp mem) with old | new
  · obtain ⟨before, known, keeps⟩ := List.mem_filterMap.mp old
    obtain ⟨completion, unused⟩ := sound.unused before known
    unfold kept at keeps
    split at keeps
    · cases keeps
    · cases keeps
      exact ⟨_, congrArg (Option.map _) unused⟩
  · obtain ⟨made, -, rfl⟩ := List.mem_map.mp new
    exact ⟨made.2, rfl⟩

end Steps

/-! What becomes of the listeners there are. -/

section Fates

variable (name : String) (made : Nat) (completion : Completion σ)

/-- A chain may be taken for one completion. -/
lemma fate_chain (early late : List (Sequel σ)) (now : Nat) (steps : List (Step σ)) :
    fate name made (chain completion early) late now steps =
      fate name made completion (early ++ late) now steps := by
  -- the steps go on wrapping, so `late` grows along the way
  induction steps generalizing late now with
  | nil => simp only [fate, deeds_chain]
  | cons step rest ih =>
    simp only [fate, deeds_chain]
    cases step.ends name with
    | some outcome => rfl
    | none =>
      dsimp only
      rw [ih, List.append_assoc]

/-- What becomes of a listener of a trial. -/
def fateOf (now : Nat) (steps : List (Step σ)) (entry : String × Listener (Completion σ)) :
    Nat × Deed σ :=
  fate entry.1 entry.2.start (entry.2.completion.getD Completion.nothing) [] now steps

variable {name made completion}

lemma atOnce_resolve {listener : Listener (Completion σ)}
    (unused : listener.completion = some completion) (outcome : Outcome) (now : Nat) :
    atOnce (listener.resolve outcome now) =
      [(0, inTurn (deeds completion [] outcome (now - listener.start)))] := by
  rw [resolve_eq_singleton unused, ← chain_eq]
  rfl

/-- A listener which a step keeps has the rest of its life before it. -/
lemma fateOf_kept {now : Nat} {step : Step σ} {rest : List (Step σ)}
    {entry left : String × Listener (Completion σ)} (unused : entry.2.completion = some completion)
    (keeps : kept step entry = some left) :
    later (fateOf (now + step.lasts) rest left) = fateOf now (step :: rest) entry := by
  unfold kept at keeps
  cases ends : step.ends entry.1 with
  | some outcome =>
    rw [ends] at keeps
    cases keeps
  | none =>
    rw [ends] at keeps
    obtain rfl := Option.some.inj keeps
    simp only [fateOf, fate, ends, unused, Option.map_some, Option.getD_some, fate_chain,
      List.nil_append, List.append_nil]

/-- A step brings some listeners to their end, and leaves the others to the steps which follow. -/
lemma fates_step {entries : Table (Listener (Completion σ))}
    (unused : ∀ entry ∈ entries, ∃ completion, entry.2.completion = some completion) (now : Nat)
    (step : Step σ) (rest : List (Step σ)) :
    (entries.map (fateOf now (step :: rest))).Perm
      (atOnce (entries.flatMap (told step now)) ++
        ((entries.filterMap (kept step)).map (fateOf (now + step.lasts) rest)).map later) := by
  induction entries with
  | nil => exact .refl _
  | cons entry others ih =>
    obtain ⟨completion, has⟩ := unused entry List.mem_cons_self
    have behind := ih fun entry mem => unused entry (List.mem_cons_of_mem _ mem)
    rw [List.map_cons, List.flatMap_cons, List.filterMap_cons]
    cases ends : step.ends entry.1 with
    | some outcome =>
      have reported : atOnce (told step now entry) = [fateOf now (step :: rest) entry] := by
        simp only [told, ends, fateOf, fate]
        rw [atOnce_resolve has, has]
        rfl
      have gone : kept step entry = none := by simp only [kept, ends]
      rw [gone, atOnce, List.map_append, ← atOnce, reported]
      exact behind.cons _
    | none =>
      have silent : told step now entry = [] := by simp only [told, ends]
      obtain ⟨left, keeps⟩ : ∃ left, kept step entry = some left := by
        simp only [kept, ends, Option.some.injEq, exists_eq']
      rw [silent, keeps, List.nil_append, List.map_cons, List.map_cons, fateOf_kept has keeps]
      exact (behind.cons _).trans List.perm_middle.symm

/-- At the end of a trial the listeners which are left are thrown away. -/
lemma close_fates {trial : Trial σ} (sound : trial.Sound) :
    atOnce trial.close = trial.listeners.map (fateOf trial.now []) := by
  unfold Trial.close atOnce
  rw [List.map_flatMap, ← List.flatMap_singleton' (trial.listeners.map _), List.flatMap_map]
  refine List.flatMap_congr fun entry mem => ?_
  obtain ⟨completion, unused⟩ := sound.unused entry mem
  rw [drop_toList, ← atOnce, atOnce_resolve unused, fateOf, unused]
  rfl

/-- Over some steps what is done is what becomes of the listeners which a trial has and of those
which the steps make. -/
lemma events_perm {trial : Trial σ} (sound : trial.Sound) (steps : List (Step σ)) :
    (trial.events steps).Perm
      (trial.listeners.map (fateOf trial.now steps) ++ lives trial.now steps) := by
  -- a step turns the trial into another one; the listener it makes is one which that trial has
  induction steps generalizing trial with
  | nil =>
    rw [lives, List.append_nil, ← close_fates sound]
    exact .refl _
  | cons step rest ih =>
    have goes := goes sound step
    have behind := ih (goes.sound sound)
    rw [goes.now] at behind
    set now := trial.now + step.lasts
    set next := (trial.step step).1
    set left := (trial.listeners.filterMap (kept step)).map (fateOf now rest)
    set born := step.makes.toList.map fun made => fate made.1 trial.now made.2 [] now rest
    have known : (next.listeners.map (fateOf now rest)).Perm (left ++ born) := by
      have moved := goes.listeners.map (fateOf now rest)
      rwa [List.map_append, List.map_map] at moved
    have ended : (atOnce (trial.step step).2.2 ++ left.map later).Perm
        (trial.listeners.map (fateOf trial.now (step :: rest))) := by
      rw [goes.reports]
      exact (fates_step sound.unused trial.now step rest).symm
    calc trial.events (step :: rest)
        = atOnce (trial.step step).2.2 ++ (next.events rest).map later := rfl
      List.Perm _ (atOnce (trial.step step).2.2 ++
            (next.listeners.map (fateOf now rest) ++ lives now rest).map later) :=
          (behind.map later).append_left _
      List.Perm _ (atOnce (trial.step step).2.2 ++
            ((left ++ born) ++ lives now rest).map later) :=
          ((known.append_right _).map later).append_left _
      _ = (atOnce (trial.step step).2.2 ++ left.map later) ++ lives trial.now (step :: rest) := by
          rw [List.append_assoc left, List.map_append, List.append_assoc]
          rfl
      List.Perm _ (trial.listeners.map (fateOf trial.now (step :: rest)) ++
            lives trial.now (step :: rest)) := ended.append_right _

end Fates

/-- A listener completes once, from the inside out. However often and whenever it is wrapped,
nothing is reported meanwhile, and when it is resolved or thrown away there is one report: its
completion is carried out, with the outcome and the time since the listener was made, and then what
it was wrapped with, each once and in the order of wrapping, with the same outcome; after a fault
nothing more. And over any trial every listener which a step makes, and no other, is reported on
once, at the step which uses it up or replaces it, or else when the trial is over. -/
theorem listeners_complete_once_inside_out :
    (∀ (completion : Completion σ) (made : Nat) (wraps : List (Sequel σ × Nat)),
      let wrapped := (Listener.new completion made).wrapped wraps
      wrapped.2 = [] ∧ ∀ now,
        (∀ outcome, (wrapped.1.resolve outcome now).map Report.carryOut =
          [inTurn (deeds completion (wraps.map Prod.fst) outcome (now - made))]) ∧
        (wrapped.1.drop now).map Report.carryOut =
          some (inTurn (deeds completion (wraps.map Prod.fst) .ignore (now - made)))) ∧
      ∀ steps : List (Step σ), (Trial.start.events steps).Perm (lives 0 steps) := by
  refine ⟨fun completion made wraps => ?_, fun steps => ?_⟩
  · intro wrapped
    have unused : wrapped = (⟨some (chain completion (wraps.map Prod.fst)), made⟩, []) :=
      wrapped_of_unused completion made wraps
    refine ⟨congrArg Prod.snd unused, fun now => ⟨fun outcome => ?_, ?_⟩⟩
    · rw [unused, resolve_eq_singleton rfl, ← chain_eq]
      rfl
    · rw [unused, drop_eq_some rfl, ← chain_eq]
      rfl
  · have sound : (Trial.start : Trial σ).Sound := ⟨List.nodup_nil, List.forall_mem_nil _⟩
    exact events_perm sound steps

/-- Where the limiter meets a fault over the report on a listener which is wrapped, what it is
wrapped with is left out: the caller at the front of the queue, who would be woken, sleeps on. -/
theorem sequel_is_left_out_after_fault :
    ∃ gate, Gate.create (⟨1, Double.ofRatio 9 10, maxPermits + 1, maxPermits + 101,
        Double.ofRatio 6 (Nat.pow 10 19)⟩ : Aimd) = .ok gate ∧
      let session : Session Unit (Waiting (Gate Aimd)) Unit Place :=
        (Session.start (Waiting.create gate none)).after
          [.acquire "a" () false, .acquire "b" () false]
      let wrapped := (Listener.new (Waiting.givesBack (L := Gate Aimd) Unit ()) 0).wrapped
        [(Waiting.wakesNext, 0)]
      ∃ report, wrapped.1.resolve .success 0 = [report] ∧
        (report.carryOut session.limiter).2 = some .increaseOverflow ∧
        (report.carryOut session.limiter).1.queue = session.limiter.queue ∧
        (Waiting.wakesNext .success session.limiter).1.queue ≠ session.limiter.queue := by
  refine ⟨_, rfl, _, rfl, ?_⟩
  decide +kernel

end Admission.Listener

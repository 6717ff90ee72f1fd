import Admission.Proofs.Session.Moves

/-!
# What moves keep

An invariant of the moves is an invariant of all runs. Where it depends on how callers look, it is
enough to know this of the looks which an action takes.
-/

namespace Admission.Session

variable {C L G W : Type} [Limiter C L G W]

/-- A caller who looks again, and the session in which the caller does. -/
structure Look (C L G W : Type) where
  session : Session C L G W
  caller : Caller C W

/-- What comes of a look. -/
def Look.result (look : Look C L G W) : Session C L G W × Answer := look.session.poll look.caller

/-- At most so many looks of callers who were woken, the earliest first. -/
def looksOfWoken : Nat → Session C L G W → List (Look C L G W)
  | 0, _ => []
  | looks + 1, session =>
    match session.callers.find? session.isWoken with
    | none => []
    | some caller =>
      ⟨session, caller⟩ ::
        if (session.poll caller).2.isFault then [] else looksOfWoken looks (session.poll caller).1

/-- The looks which an action takes. -/
def looks (session : Session C L G W) : Action C → List (Look C L G W)
  | .poll id => ((session.caller? id).map (Look.mk session)).toList
  | .pollCancelled id =>
    (((session.caller? id).filter (!·.cancelled)).map (Look.mk session)).toList
  | .pollWoken => looksOfWoken (4 * session.callers.length + 4) session
  | _ => []

/-- A look of a caller who waits, in a session whose room is such as `P` says. -/
structure Look.In (P : Room L W → Prop) (look : Look C L G W) : Prop where
  kept : look.session.Kept
  waits : look.caller ∈ look.session.callers
  holds : P look.session.room

section Invariants

variable {I : Room L W → Prop} {result : Session C L G W × Answer}

lemma Ends.of_fine (ends : Ends C I result) (fine : result.2.isFault = false) :
    I result.1.room := by
  obtain ⟨last, holds, ⟨-, rfl⟩ | ⟨fault, faulty, -⟩⟩ := ends
  · exact holds
  · rw [faulty] at fine
    cases fine

lemma Ends.fine (ends : Ends C I result)
    (no_mishap : ∀ {fault before after}, I before → ¬Mishap C fault before after) :
    result.2.isFault = false := by
  obtain ⟨last, holds, ⟨fine, -⟩ | ⟨fault, -, mishap⟩⟩ := ends
  · exact fine
  · exact absurd mishap (no_mishap holds)

/-- The fault which an action ends in is one that a mishap can come to. -/
lemma Ends.fault (ends : Ends C I result) {Q : Fault → Prop}
    (mishap : ∀ {fault before after}, Mishap C fault before after → I before → Q fault)
    {fault : Fault} (faulty : result.2 = .fault fault) : Q fault := by
  obtain ⟨last, holds, ⟨fine, -⟩ | ⟨other, other_faulty, last_move⟩⟩ := ends
  · rw [faulty] at fine
    cases fine
  · cases faulty.symm.trans other_faulty
    exact mishap last_move holds

lemma Ends.keeps (ends : Ends C I result)
    (mishap : ∀ {fault before after}, Mishap C fault before after → I before → I after) :
    I result.1.room := by
  obtain ⟨last, holds, ⟨-, rfl⟩ | ⟨fault, -, last_move⟩⟩ := ends
  · exact holds
  · exact mishap last_move holds

lemma pollWoken_ends {session : Session C L G W} (kept : session.Kept) (holds : I session.room)
    (looks : Nat) (answers : List (String × Answer))
    (each : ∀ look ∈ looksOfWoken looks session, look.In I → Ends C I look.result) :
    Ends C I (pollWoken looks session answers) ∧ (pollWoken looks session answers).1.Kept ∧
      ∀ look ∈ looksOfWoken looks session, look.In I := by
  induction looks generalizing session answers with
  | zero => exact ⟨⟨_, holds, .inl ⟨rfl, rfl⟩⟩, kept, fun _ mem => nomatch mem⟩
  | succ looks ih =>
    unfold pollWoken looksOfWoken
    unfold looksOfWoken at each
    cases found : session.callers.find? session.isWoken with
    | none => exact ⟨⟨_, holds, .inl ⟨rfl, rfl⟩⟩, kept, fun _ mem => nomatch mem⟩
    | some caller =>
      rw [found] at each
      dsimp only at each ⊢
      have good : (⟨session, caller⟩ : Look C L G W).In I :=
        ⟨kept, List.mem_of_find?_eq_some found, holds⟩
      have ends : Ends C I (session.poll caller) := each _ List.mem_cons_self good
      have kept_next := poll_kept kept caller
      have rest := fun look mem => each look (List.mem_cons_of_mem _ mem)
      clear each
      generalize session.poll caller = result at ends kept_next rest ⊢
      obtain ⟨next, answer⟩ := result
      cases answer
      case fault fault =>
        refine ⟨ends, kept_next, fun look mem => ?_⟩
        obtain rfl := List.mem_singleton.mp mem
        exact good
      all_goals
        obtain ⟨ends_last, kept_last, all_good⟩ := ih kept_next (ends.of_fine rfl) _ rest
        exact ⟨ends_last, kept_last, List.forall_mem_cons.mpr ⟨good, all_good⟩⟩

variable (move : ∀ {before after}, Move C before after → I before → I after)

include move

lemma Passes.ends {start : Room L W} (passes : Passes C start result) (holds : I start) :
    Ends C I result := by
  obtain ⟨last, moves, ending⟩ := passes
  refine ⟨last, ?_, ending⟩
  clear ending
  induction moves with
  | refl => exact holds
  | tail _ step ih => exact move step ih

/-- What the moves keep, and the looks which an action takes, is kept by the action, up to a mishap
if it meets a fault. A caller who joins does so first of all. -/
theorem step_ends_of_looks {session : Session C L G W} (kept : session.Kept)
    (holds : I session.room) (join : ∀ {next}, Join C session.room next → I next)
    (action : Action C)
    (each : ∀ look ∈ session.looks action, look.In I → Ends C I look.result) :
    Ends C I (session.step action) ∧ (session.step action).1.Kept ∧
      ∀ look ∈ session.looks action, look.In I := by
  have still : ∀ {session : Session C L G W} {answer : Answer}, answer.isFault = false →
      I session.room → Ends C I (session, answer) :=
    fun fine holds => ⟨_, holds, .inl ⟨fine, rfl⟩⟩
  have nobody : ∀ {P : Look C L G W → Prop}, ∀ look ∈ [], P look := fun _ mem => nomatch mem
  cases action with
  | acquireNow id ctx =>
    exact ⟨(acquireNow_passes kept id ctx).ends move holds, acquireNow_kept kept id ctx, nobody⟩
  | acquire id ctx cancellable =>
    obtain ⟨next, joined, passes⟩ := acquire_passes kept id ctx cancellable
    refine ⟨passes.ends move ?_, acquire_kept kept id ctx cancellable, nobody⟩
    rcases joined with rfl | joined
    · exact holds
    · exact join joined
  | poll id =>
    cases found : session.caller? id with
    | none =>
      simp only [step, looks, found]
      exact ⟨still rfl holds, kept, nobody⟩
    | some caller =>
      simp only [step, looks, found, Option.map_some, Option.toList_some,
        List.mem_singleton] at each ⊢
      have good : (⟨session, caller⟩ : Look C L G W).In I :=
        ⟨kept, (mem_of_caller? found).1, holds⟩
      exact ⟨each _ rfl good, poll_kept kept caller, fun look same => same ▸ good⟩
  | acquireCancelled id ctx atOnce =>
    obtain ⟨next, joined, passes⟩ := acquireCancelled_passes kept id ctx atOnce
    refine ⟨passes.ends move ?_, acquireCancelled_kept kept id ctx atOnce, nobody⟩
    rcases joined with rfl | joined
    · exact holds
    · exact join joined
  | pollCancelled id =>
    cases found : session.caller? id with
    | none =>
      simp only [step, looks, found]
      exact ⟨still rfl holds, kept, nobody⟩
    | some caller =>
      have mem := (mem_of_caller? found).1
      cases told : caller.cancelled with
      | true =>
        simp only [step, looks, found, pollCancelled_of_cancelled told, told, Bool.not_true,
          Option.filter_some, Bool.false_eq_true, if_false, Option.map_none, Option.toList_none]
        exact ⟨still rfl (move (dismiss_moves kept mem) holds), dismiss_kept kept caller, nobody⟩
      | false =>
        simp only [step, looks, found, pollCancelled_of_not_cancelled told, told, Bool.not_false,
          Option.filter_some, if_true, Option.map_some, Option.toList_some,
          List.mem_singleton] at each ⊢
        have good : (⟨session, caller⟩ : Look C L G W).In I := ⟨kept, mem, holds⟩
        exact ⟨each _ rfl good, poll_kept kept caller, fun look same => same ▸ good⟩
  | pollWoken => exact pollWoken_ends kept holds _ _ each
  | cancel id =>
    cases found : session.caller? id with
    | none =>
      simp only [step, found]
      exact ⟨still rfl holds, kept, nobody⟩
    | some caller =>
      simp only [step, found]
      split
      · obtain ⟨mem, -⟩ := mem_of_caller? found
        obtain ⟨before, after, split, others⟩ := kept.split_caller mem
        refine ⟨still rfl ?_, kept.update _, nobody⟩
        rw [update_split session caller { caller with cancelled := true } rfl split others]
        simpa [room, split] using holds
      · exact ⟨still rfl holds, kept, nobody⟩
  | abandon id =>
    cases found : session.caller? id with
    | none =>
      simp only [step, found]
      exact ⟨still rfl holds, kept, nobody⟩
    | some caller =>
      simp only [step, found]
      obtain ⟨mem, -⟩ := mem_of_caller? found
      exact ⟨still rfl (move (dismiss_moves kept mem) holds), dismiss_kept kept caller, nobody⟩
  | resolve id outcome =>
    exact ⟨(use_passes kept id (resolve_once outcome session.now)).ends move holds,
      use_kept kept id (resolve_once outcome session.now), nobody⟩
  | drop id =>
    exact ⟨(use_passes kept id (drop_once session.now)).ends move holds,
      use_kept kept id (drop_once session.now), nobody⟩
  | elapsed id =>
    cases found : Table.at? session.held id with
    | none =>
      simp only [step, found]
      exact ⟨still rfl holds, kept, nobody⟩
    | some listener =>
      simp only [step, found]
      exact ⟨still rfl holds, kept, nobody⟩
  | advance time => exact ⟨still rfl holds, ⟨kept.names, kept.unused, kept.ids⟩, nobody⟩

variable (stay : ∀ {before after}, Stay C before after → I before → I after)

include stay

lemma Look.In.ends {look : Look C L G W} (good : look.In I) : Ends C I look.result := by
  rcases poll_passes good.kept good.waits with passes | ⟨pending, stays⟩
  · exact passes.ends move good.holds
  · refine ⟨_, stay stays good.holds, .inl ⟨?_, rfl⟩⟩
    change (look.session.poll look.caller).2.isFault = false
    rw [pending]
    rfl

/-- What every move keeps is kept by every step, up to a mishap if the step meets a fault. A caller
who joins does so first of all. -/
theorem step_ends {session : Session C L G W} (kept : session.Kept) (holds : I session.room)
    (join : ∀ {next}, Join C session.room next → I next) (action : Action C) :
    Ends C I (session.step action) ∧ (session.step action).1.Kept := by
  obtain ⟨ends, kept_after, -⟩ := step_ends_of_looks move kept holds join action
    fun _ _ good => good.ends move stay
  exact ⟨ends, kept_after⟩

variable (join : ∀ {before after}, Join C before after → I before → I after)

include join

/-- In a run without faults mishaps do not matter. -/
theorem after_keeps_faultless {session : Session C L G W} (kept : session.Kept)
    (holds : I session.room) {actions : List (Action C)} (smooth : session.Faultless actions) :
    I (session.after actions).room ∧ (session.after actions).Kept := by
  apply after_induction_faultless (P := fun session => I session.room ∧ session.Kept) smooth
    ⟨holds, kept⟩
  rintro session action fine ⟨holds, kept⟩
  obtain ⟨ends, kept_after⟩ := step_ends move stay kept holds (fun joins => join joins holds) action
  exact ⟨ends.of_fine fine, kept_after⟩

/-- What mishaps keep too is kept by every run, whatever faults it meets. -/
theorem after_keeps
    (mishap : ∀ {fault before after}, Mishap C fault before after → I before → I after)
    {session : Session C L G W} (kept : session.Kept) (holds : I session.room)
    (actions : List (Action C)) : I (session.after actions).room ∧ (session.after actions).Kept := by
  induction actions generalizing session with
  | nil => exact ⟨holds, kept⟩
  | cons action rest ih =>
    obtain ⟨ends, kept_after⟩ := step_ends move stay kept holds (fun joins => join joins holds) action
    exact ih kept_after (ends.keeps mishap)

/-- What is true of the faults which mishaps come to is true of those which a run meets. -/
theorem answers_fault
    (mishap : ∀ {fault before after}, Mishap C fault before after → I before → I after)
    {Q : Fault → Prop}
    (faulty : ∀ {fault before after}, Mishap C fault before after → I before → Q fault)
    {session : Session C L G W} (kept : session.Kept) (holds : I session.room)
    (actions : List (Action C)) {fault : Fault} (mem : .fault fault ∈ session.answers actions) :
    Q fault := by
  induction actions generalizing session with
  | nil => cases mem
  | cons action rest ih =>
    obtain ⟨ends, kept_after⟩ := step_ends move stay kept holds (fun joins => join joins holds) action
    rcases List.mem_cons.mp mem with found | mem
    · exact ends.fault faulty found.symm
    · exact ih kept_after (ends.keeps mishap) mem

/-- Where there can be no mishap a run meets no fault. -/
theorem faultless_of_no_mishap
    (no_mishap : ∀ {fault before after}, I before → ¬Mishap C fault before after)
    {session : Session C L G W} (kept : session.Kept) (holds : I session.room)
    (actions : List (Action C)) : session.Faultless actions := by
  induction actions generalizing session with
  | nil => exact fun _ mem => nomatch mem
  | cons action rest ih =>
    obtain ⟨ends, kept_after⟩ := step_ends move stay kept holds (fun joins => join joins holds) action
    have fine := ends.fine no_mishap
    intro answer mem
    rcases List.mem_cons.mp mem with rfl | mem
    · exact fine
    · exact ih kept_after (ends.of_fine fine) answer mem

end Invariants

lemma step_kept {session : Session C L G W} (kept : session.Kept) (action : Action C) :
    (session.step action).1.Kept :=
  (step_ends (I := fun _ => True) (fun _ _ => trivial) (fun _ _ => trivial) kept trivial
    (fun _ => trivial) action).2

lemma after_kept {session : Session C L G W} (kept : session.Kept) (actions : List (Action C)) :
    (session.after actions).Kept := by
  induction actions generalizing session with
  | nil => exact kept
  | cons action rest ih => exact ih (step_kept kept action)

end Admission.Session

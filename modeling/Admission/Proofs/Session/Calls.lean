import Admission.Proofs.Session.Kept
import Mathlib.Logic.Relation

/-!
# Which calls a step makes

To its limiter a step is a sequence of calls: a caller who comes asks once, with the caller's own
context, and everything else is done for callers who have asked before. Faults included, a step
makes no other calls and changes the limiter in no other way.
-/

namespace Admission

open Relation (ReflTransGen)

variable {C L G W : Type}

namespace Limiter

variable [Limiter C L G W]

/-- What a caller leaves of a limiter by asking it, at once or willing to wait. -/
inductive Asks (ctx : C) : L → L → Prop
  | acquireNow (limiter : L) : Asks ctx limiter (Limiter.acquireNow limiter ctx).1
  | acquire (limiter : L) (now : Nat) : Asks ctx limiter (Limiter.acquire limiter ctx now).1

variable (C)

/-- What a call for somebody who has asked before leaves of a limiter. -/
inductive Attends : L → L → Prop
  | poll (limiter : L) (ctx : C) (place : W) (now : Nat) :
    Attends limiter (Limiter.poll limiter ctx place now).1
  | abandon (limiter : L) (place : W) : Attends limiter (Limiter.abandon C limiter place)
  | release (limiter : L) (grant : G) (outcome : Outcome) (latency : Nat) :
    Attends limiter (Limiter.release C limiter grant outcome latency).1

/-- Any calls, by any callers. -/
def Uses : L → L → Prop :=
  ReflTransGen fun before after => (∃ ctx : C, Asks ctx before after) ∨ Attends C before after

variable {C}

lemma Asks.uses {ctx : C} {before after : L} (asks : Asks ctx before after) : Uses C before after :=
  .single (.inl ⟨ctx, asks⟩)

lemma Attends.uses {before after : L} (attends : Attends C before after) : Uses C before after :=
  .single (.inr attends)

end Limiter

namespace Session

/-- The context of the caller whom an action brings. -/
def Action.ctx? : Action C → Option C
  | .acquireNow _ ctx | .acquire _ ctx _ | .acquireCancelled _ ctx false => some ctx
  | _ => none

/-- The contexts of the callers who come in a run, in order. -/
def newcomers (actions : List (Action C)) : List C := actions.filterMap Action.ctx?

lemma newcomers_cons_of_some {action : Action C} {ctx : C} (brings : action.ctx? = some ctx)
    (rest : List (Action C)) : newcomers (action :: rest) = ctx :: newcomers rest :=
  List.filterMap_cons_some brings

lemma newcomers_cons_of_none {action : Action C} (brings : action.ctx? = none)
    (rest : List (Action C)) : newcomers (action :: rest) = newcomers rest :=
  List.filterMap_cons_none brings

variable [Limiter C L G W]

/-- The caller whom an action brings has asked, if it brings one. -/
def Asked (action : Action C) (before after : L) : Prop :=
  match action.ctx? with
  | some ctx => Limiter.Asks ctx before after
  | none => after = before

lemma report_attends (session : Session C L G W) (reports : List (Report G)) :
    ReflTransGen (Limiter.Attends C) session.limiter (session.report reports).1.limiter := by
  induction reports generalizing session with
  | nil => exact .refl
  | cons report rest ih =>
    have released := Limiter.Attends.release (C := C) session.limiter report.completion
      report.outcome report.latency
    unfold Session.report
    split
    · rename_i found
      rw [found] at released
      exact .single released
    · rename_i limiter found
      rw [found] at released
      exact .head released (ih { session with limiter := limiter })

lemma answer_report_attends (session : Session C L G W) (reports : List (Report G))
    (good : Answer) : ReflTransGen (Limiter.Attends C) session.limiter
      (answer (session.report reports) good).1.limiter := by
  rw [answer_fst]
  exact report_attends session reports

lemma hold_attends (session : Session C L G W) (id : String) (grant : G) :
    ReflTransGen (Limiter.Attends C) session.limiter (session.hold id grant).1.limiter :=
  answer_report_attends { session with
    held := Table.put session.held id (Listener.new grant session.now) } _ _

lemma dismiss_attends (session : Session C L G W) (caller : Caller C W) :
    Limiter.Attends C session.limiter (session.dismiss caller).limiter :=
  .abandon _ _

lemma poll_attends (session : Session C L G W) (caller : Caller C W) :
    ReflTransGen (Limiter.Attends C) session.limiter (session.poll caller).1.limiter := by
  have polled := Limiter.Attends.poll session.limiter caller.ctx caller.place session.now
  unfold Session.poll
  split
  · rename_i found
    rw [found] at polled
    exact .single polled
  · rename_i limiter grant found
    rw [found] at polled
    exact .head polled (hold_attends (forget { session with limiter := limiter } caller.id) _ _)
  · rename_i found
    rw [found] at polled
    exact .single polled
  · rename_i limiter place found
    rw [found] at polled
    dsimp only
    split
    · exact .head polled (.single (dismiss_attends { session with limiter := limiter } _))
    · exact .single polled

lemma pollWoken_attends (looks : Nat) (session : Session C L G W)
    (answers : List (String × Answer)) :
    ReflTransGen (Limiter.Attends C) session.limiter
      (pollWoken looks session answers).1.limiter := by
  induction looks generalizing session answers with
  | zero => exact .refl
  | succ looks ih =>
    unfold pollWoken
    cases session.callers.find? session.isWoken with
    | none => exact .refl
    | some caller =>
      dsimp only
      have polled := poll_attends session caller
      generalize session.poll caller = result at polled ⊢
      obtain ⟨next, answer⟩ := result
      cases answer
      case fault fault => exact polled
      all_goals exact polled.trans (ih next _)

lemma use_attends (session : Session C L G W) (id : String)
    (how : Listener G → List (Report G)) :
    ReflTransGen (Limiter.Attends C) session.limiter (session.use id how).1.limiter := by
  unfold use
  split
  · exact .refl
  · exact answer_report_attends { session with held := Table.remove session.held id } _ _

lemma acquire_calls (session : Session C L G W) (id : String) (ctx : C) (cancellable : Bool) :
    ∃ asked, Limiter.Asks ctx session.limiter asked ∧
      ReflTransGen (Limiter.Attends C) asked (session.acquire id ctx cancellable).1.limiter := by
  refine ⟨_, .acquire _ session.now, ?_⟩
  unfold acquire
  split
  · rename_i found
    rw [found]
  · rename_i limiter grant found
    rw [found]
    exact hold_attends { session with limiter := limiter } id grant
  · rename_i found
    rw [found]
  · rename_i limiter place found
    rw [found]
    dsimp only
    cases caller? { session with limiter := limiter } id with
    | none => exact .refl
    | some caller => exact .single (dismiss_attends { session with limiter := limiter } caller)

/-- The limiter after an action is what the calls of the action have left of it. -/
theorem step_calls (session : Session C L G W) (action : Action C) :
    ∃ asked, Asked action session.limiter asked ∧
      ReflTransGen (Limiter.Attends C) asked (session.step action).1.limiter := by
  cases action with
  | acquireNow id ctx =>
    refine ⟨_, .acquireNow _, ?_⟩
    change ReflTransGen _ _ (session.acquireNow id ctx).1.limiter
    unfold acquireNow
    split
    · rename_i found
      rw [found]
    · rename_i found
      rw [found]
    · rename_i limiter grant found
      rw [found]
      exact hold_attends { session with limiter := limiter } id grant
  | acquire id ctx cancellable => exact acquire_calls session id ctx cancellable
  | acquireCancelled id ctx atOnce =>
    cases atOnce with
    | true => exact ⟨_, rfl, .refl⟩
    | false =>
      obtain ⟨asked, asks, attends⟩ := acquire_calls session id ctx true
      refine ⟨asked, asks, attends.trans ?_⟩
      rcases session.acquireCancelled_cases id ctx false with
        ⟨atOnce, -⟩ | ⟨-, -, same⟩ | ⟨-, -, caller, -, same⟩
      · cases atOnce
      · simp only [step, same]
        exact .refl
      · simp only [step, same]
        exact .single (dismiss_attends _ caller)
  | poll id =>
    refine ⟨_, rfl, ?_⟩
    simp only [step]
    cases session.caller? id with
    | none => exact .refl
    | some caller => exact poll_attends session caller
  | pollCancelled id =>
    refine ⟨_, rfl, ?_⟩
    simp only [step]
    cases session.caller? id with
    | none => exact .refl
    | some caller =>
      dsimp only
      unfold pollCancelled
      split
      · exact .single (dismiss_attends session caller)
      · exact poll_attends session caller
  | pollWoken => exact ⟨_, rfl, pollWoken_attends _ session []⟩
  | cancel id =>
    refine ⟨_, rfl, ?_⟩
    simp only [step]
    cases session.caller? id with
    | none => exact .refl
    | some caller =>
      dsimp only
      split <;> exact .refl
  | abandon id =>
    refine ⟨_, rfl, ?_⟩
    simp only [step]
    cases session.caller? id with
    | none => exact .refl
    | some caller => exact .single (dismiss_attends session caller)
  | resolve id outcome => exact ⟨_, rfl, use_attends session id _⟩
  | drop id => exact ⟨_, rfl, use_attends session id _⟩
  | elapsed id =>
    refine ⟨_, rfl, ?_⟩
    simp only [step]
    cases Table.at? session.held id <;> exact .refl
  | advance time => exact ⟨_, rfl, .refl⟩

end Session
end Admission

import Admission.Session
import Mathlib.Tactic.Lemma

/-!
# Runs of a session

A run is a list of actions. What holds at the start of a session and is kept by every step holds
after every run.
-/

namespace Admission.Session

/-- The action met a fault. -/
def Answer.isFault : Answer → Bool
  | .fault _ => true
  | _ => false

instance (answer : Answer) : Decidable (answer = .pending) :=
  match answer with
  | .pending => isTrue rfl
  | .ok | .none | .admitted | .rejected | .refused _ | .time _ | .polled _ | .fault _ =>
    isFalse nofun

instance (answer : Answer) (cause : Refusal) : Decidable (answer = .refused cause) :=
  match answer with
  | .refused other =>
    if same : other = cause then isTrue (same ▸ rfl)
    else isFalse fun equal => same (Answer.refused.inj equal)
  | .ok | .none | .admitted | .rejected | .pending | .time _ | .polled _ | .fault _ =>
    isFalse nofun

/-- The action resolves the listener which is held under a name, or throws it away. -/
inductive Action.Resolves {C : Type} (id : String) : Action C → Prop
  | resolve (outcome : Outcome) : Resolves id (.resolve id outcome)
  | drop : Resolves id (.drop id)

variable {C L G W : Type} [Limiter C L G W]

/-- The session after some actions. -/
def after (session : Session C L G W) : List (Action C) → Session C L G W
  | [] => session
  | action :: rest => after (session.step action).1 rest

/-- The answers to some actions. -/
def answers (session : Session C L G W) : List (Action C) → List Answer
  | [] => []
  | action :: rest => (session.step action).2 :: answers (session.step action).1 rest

/-- No action meets a fault. -/
def Faultless (session : Session C L G W) (actions : List (Action C)) : Prop :=
  ∀ answer ∈ session.answers actions, answer.isFault = false

/-- Something is true of every step of a run. -/
def Along (P : Session C L G W → Action C → Prop) (session : Session C L G W) :
    List (Action C) → Prop
  | [] => True
  | action :: rest => P session action ∧ Along P (session.step action).1 rest

instance Along.decidable {P : Session C L G W → Action C → Prop}
    [∀ session action, Decidable (P session action)] :
    ∀ (session : Session C L G W) (actions : List (Action C)), Decidable (Along P session actions)
  | _, [] => isTrue trivial
  | session, action :: rest =>
    have := Along.decidable (P := P) (session.step action).1 rest
    inferInstanceAs (Decidable (P session action ∧ Along P (session.step action).1 rest))

lemma after_append (session : Session C L G W) (early late : List (Action C)) :
    session.after (early ++ late) = (session.after early).after late := by
  induction early generalizing session with
  | nil => rfl
  | cons action rest ih => exact ih (session.step action).1

lemma along_append {P : Session C L G W → Action C → Prop} {session : Session C L G W}
    {early late : List (Action C)} :
    Along P session (early ++ late) ↔ Along P session early ∧ Along P (session.after early) late := by
  induction early generalizing session with
  | nil => exact (true_and _).symm.to_iff
  | cons action rest ih => simp only [List.cons_append, Along, after, ih, and_assoc]

/-- What holds at the start and is kept by every step which meets no fault holds after a run. -/
theorem after_induction_faultless {P : Session C L G W → Prop} {session : Session C L G W}
    {actions : List (Action C)} (smooth : session.Faultless actions) (start : P session)
    (step : ∀ session action, (session.step action).2.isFault = false → P session →
      P (session.step action).1) :
    P (session.after actions) := by
  induction actions generalizing session with
  | nil => exact start
  | cons action rest ih =>
    have here := smooth _ List.mem_cons_self
    exact ih (fun answer mem => smooth answer (List.mem_cons_of_mem _ mem))
      (step session action here start)

lemma fault_mem_of_not_faultless {session : Session C L G W} {actions : List (Action C)}
    (faulty : ¬session.Faultless actions) : ∃ fault, .fault fault ∈ session.answers actions := by
  apply Classical.byContradiction
  intro nowhere
  refine faulty fun answer mem => ?_
  cases answer with
  | fault fault => exact absurd ⟨fault, mem⟩ nowhere
  | _ => rfl

/-- Two properties of steps hold along the same runs, where they are the same of each step from an
invariant, and either of them keeps it. -/
lemma along_congr {A P Q : Session C L G W → Action C → Prop} {I : Session C L G W → Prop}
    (same : ∀ session action, I session → A session action → (P session action ↔ Q session action))
    (keeps : ∀ session action, I session → A session action → Q session action →
      I (session.step action).1)
    {session : Session C L G W} (start : I session) {actions : List (Action C)}
    (given : Along A session actions) : Along P session actions ↔ Along Q session actions := by
  induction actions generalizing session with
  | nil => exact Iff.rfl
  | cons action rest ih =>
    have here := same session action start given.1
    -- Either way `Q` holds of this step, so that `I` goes on to the next.
    constructor
    · intro along
      have now : Q session action := here.mp along.1
      exact ⟨now, (ih (keeps session action start given.1 now) given.2).mp along.2⟩
    · intro along
      have later := ih (keeps session action start given.1 along.1) given.2
      exact ⟨here.mpr along.1, later.mpr along.2⟩

lemma along_true (session : Session C L G W) (actions : List (Action C)) :
    Along (fun _ _ => True) session actions := by
  induction actions generalizing session with
  | nil => trivial
  | cons action rest ih => exact ⟨trivial, ih _⟩

end Admission.Session

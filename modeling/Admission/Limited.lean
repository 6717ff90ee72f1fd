import Admission.Judge
import Admission.Desk
/-!
# Limited work

Work under way which holds a pass and reports on it by itself: a judge's verdict when the
work completes, and that the job is to be ignored when the work is thrown away before.
-/

namespace Admission

/-- What a look at work under way shows. -/
inductive Answer (ρ : Type) where
  | pending
  | ready (result : ρ)
  | brokenDown (text : String)
  deriving DecidableEq, Repr

/-- Work and its pass, until the pass has been used. -/
structure Limited (ω G : Type) where
  work : ω
  pass : Option (Pass G)
  deriving Repr

namespace Limited

variable {C L G W ω ε ρ : Type}

def new (work : ω) (pass : Pass G) : Limited ω G := ⟨work, some pass⟩

def report (C : Type) [Limiter C L G W] (limited : Limited ω G) (desk : Desk L)
    (outcome : Outcome) (now : Nat) (cleaning : Bool) : Limited ω G × Desk L × Option Fault :=
  match limited.pass with
  | none => (limited, desk, none)
  | some pass =>
    let (desk, fault) := desk.resolve C pass outcome now cleaning
    ({ limited with pass := none }, desk, fault)

/-- A look at the work, in which it does whatever it can. When it completes, the verdict is
reported before the result is shown; without a verdict the job is ignored. -/
def poll (C : Type) [Limiter C L G W] (look : ω → ω × Answer (Except ε ρ))
    (verdictOn : Judge ε ρ) (limited : Limited ω G) (desk : Desk L) (now : Nat) :
    Limited ω G × Desk L × Answer (Except ε ρ) :=
  let (work, answer) := look limited.work
  let limited := { limited with work := work }
  match answer with
  | .pending => (limited, desk, .pending)
  | .brokenDown text => (limited, desk, .brokenDown text)
  | .ready result =>
    match limited.pass with
    | none => (limited, desk, .ready result)
    | some _ =>
      match verdictOn result with
      | .ok outcome =>
        match limited.report C desk outcome now false with
        | (limited, desk, none) => (limited, desk, .ready result)
        | (limited, desk, some fault) => (limited, desk, .brokenDown fault.message)
      | .error text =>
        let (limited, desk, _) := limited.report C desk .ignore now true
        (limited, desk, .brokenDown text)

/-- The work is thrown away, of itself or because something it is part of has broken down. -/
def drop (C : Type) [Limiter C L G W] (limited : Limited ω G) (desk : Desk L) (now : Nat)
    (cleaning : Bool) : Desk L × Option Fault :=
  let (_, desk, fault) := limited.report C desk .ignore now cleaning
  (desk, fault)

end Limited
end Admission

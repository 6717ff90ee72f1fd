import Admission.Algorithm.Aimd
/-!
# Metered rules

The rules which limits are made by, behind a meter which keeps the samples they are given.
-/

namespace Admission

inductive Rule where
  | fixed (rule : Fixed)
  | aimd (rule : Aimd)
  | scripted (rule : Scripted)
  deriving DecidableEq, Repr

namespace Rule

def limit : Rule → Nat
  | fixed rule => Algorithm.limit rule
  | aimd rule => Algorithm.limit rule
  | scripted rule => Algorithm.limit rule

def update (sample : Sample) : Rule → Rule × Except Fault Nat
  | fixed rule => let (rule, result) := Algorithm.update rule sample; (fixed rule, result)
  | aimd rule => let (rule, result) := Algorithm.update rule sample; (aimd rule, result)
  | scripted rule => let (rule, result) := Algorithm.update rule sample; (scripted rule, result)

/-- Gives a scripted rule its next limit; the others choose for themselves. -/
def setNext (next : Nat) : Rule → Rule
  | scripted rule => scripted { rule with next := next }
  | rule => rule

end Rule

instance : Algorithm Rule where
  limit := Rule.limit
  update rule sample := rule.update sample

/-- An algorithm and the samples it was given, the newest last; no list for one that is not
recorded. -/
structure Metered (α : Type) where
  algorithm : α
  samples : Option (List Sample)

instance {α : Type} [Algorithm α] : Algorithm (Metered α) where
  limit metered := Algorithm.limit metered.algorithm
  update metered sample :=
    let (algorithm, result) := Algorithm.update metered.algorithm sample
    ({ algorithm := algorithm, samples := metered.samples.map (· ++ [sample]) }, result)

namespace Metered

variable {α : Type}

def recorded (algorithm : α) : Metered α := ⟨algorithm, some []⟩

def silent (algorithm : α) : Metered α := ⟨algorithm, none⟩

def clear (metered : Metered α) : Metered α :=
  { metered with samples := metered.samples.map fun _ => [] }

end Metered
end Admission

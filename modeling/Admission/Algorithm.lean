import Admission.Outcome
import Admission.Fault
/-!
# Limit algorithms

A limit algorithm decides how many jobs may be in flight. It starts with a limit and chooses the
next one after each sample. The gate which enforces the limit is `Admission.Gate`.
-/

namespace Admission

/-- A rule for choosing the limit: the limit to start with, and the state after a sample with the
limit it gives, unless choosing one fails. -/
class Algorithm (α : Type) where
  limit : α → Nat
  update : α → Sample → α × Except Fault Nat

/-- A limit which never changes. -/
structure Fixed where
  limit : Nat
  deriving DecidableEq, Repr

instance : Algorithm Fixed where
  limit := Fixed.limit
  update fixed _ := (fixed, .ok fixed.limit)

def Fixed.create (limit : Nat) : Except Fault Fixed :=
  if limit = 0 then .error .zeroLimit else .ok ⟨limit⟩

/-- A limit which is set from outside: each sample moves it to `next`. -/
structure Scripted where
  limit : Nat
  next : Nat
  deriving DecidableEq, Repr

instance : Algorithm Scripted where
  limit := Scripted.limit
  update scripted _ := ({ scripted with limit := scripted.next }, .ok scripted.next)

end Admission

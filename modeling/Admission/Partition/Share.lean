import Admission.Double
import Admission.Fault
/-!
# Shares

The part of a limit which a partition gets: its fraction of the total weight, rounded up, and at
least one. A fraction above the whole counts as the whole.
-/

namespace Admission.Share

def fraction (weight total : Double) : Double :=
  (weight.div total).min (.finite Double.one)

/-- A limit times a fraction, rounded up to at least one. -/
def portion (limit : Nat) (fraction : Double) : Except Fault Nat :=
  match ((Double.ofNat limit).mul fraction).ceil? with
  | some share => if share < wordSize then .ok (max share 1) else .error .shareOverflow
  | none => .error .shareOverflow

def share (limit : Nat) (weight total : Double) : Except Fault Nat :=
  portion limit (fraction weight total)

/-- The weight which all shares refer to: the sum, or one where there is nothing to add up. -/
def weightSum (weights : List Double) : Double :=
  let sum := weights.foldl Double.add (.finite 0)
  if Double.lt (.finite 0) sum then sum else .finite Double.one

end Admission.Share

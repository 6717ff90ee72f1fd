/-!
# Double-precision numbers

The doubles which limits and weights are computed with, as exact whole numbers of the smallest
positive double. Every operation rounds the exact result to the nearest double, a half going to
the even neighbour; a result of `2 ^ 1024` or more is infinite.
-/

namespace Admission

/-- A double of at least zero. A finite one is counted in units of `2 ^ -1074`, the smallest
positive double. -/
inductive Double where
  | finite (units : Nat)
  | infinite
  deriving DecidableEq, Repr

/-- The quotient rounded to the nearest whole number, a half going to the even one. -/
def roundDiv (num den : Nat) : Nat :=
  let quotient := num / den
  let rest := num % den
  if 2 * rest < den then quotient
  else if den < 2 * rest then quotient + 1
  else quotient + quotient % 2

namespace Double

def one : Nat := Nat.pow 2 1074

/-- The first number of units which is too large for a finite double. -/
def overflow : Nat := Nat.pow 2 2098

/-- The distance between neighbouring doubles around a number of units: 53 binary digits are
kept, and the units themselves are the finest step. -/
def step (units : Nat) : Nat := Nat.pow 2 (units.log2 - 52)

/-- The double nearest to `num / den` units. -/
def round (num den : Nat) : Double :=
  let spacing := step (num / den)
  let units := roundDiv num (den * spacing) * spacing
  if units < overflow then finite units else infinite

/-- The double nearest to the fraction `num / den`. -/
def ofRatio (num den : Nat) : Double := round (num * one) den

def ofNat (n : Nat) : Double := ofRatio n 1

def add : Double → Double → Double
  | finite a, finite b => round (a + b) 1
  | _, _ => infinite

/-- The rounded product of two finite doubles; a product with infinity is infinite. -/
def mul : Double → Double → Double
  | finite a, finite b => round (a * b) one
  | _, _ => infinite

/-- The rounded quotient. A divisor of zero, which no caller has, gives infinity. -/
def div : Double → Double → Double
  | finite a, finite b => if b = 0 then infinite else round (a * one) b
  | finite _, infinite => finite 0
  | infinite, _ => infinite

def min : Double → Double → Double
  | finite a, finite b => finite (Nat.min a b)
  | finite a, infinite => finite a
  | infinite, b => b

def lt : Double → Double → Bool
  | finite a, finite b => decide (a < b)
  | finite _, infinite => true
  | infinite, _ => false

/-- The largest whole number which is not above a finite double. -/
def floor? : Double → Option Nat
  | finite a => some (a / one)
  | infinite => none

/-- The smallest whole number which is not below a finite double. -/
def ceil? : Double → Option Nat
  | finite a => some ((a + (one - 1)) / one)
  | infinite => none

end Double

/-- A double as a setting gives it, before it is checked. Nothing is ever computed with a
negative setting, so its size is not kept. -/
inductive Setting where
  | nan
  | negative
  | of (value : Double)
  deriving DecidableEq, Repr

namespace Setting

/-- The double nearest to the decimal number `mantissa * 10 ^ -places`. -/
def ofDecimal (mantissa : Int) (places : Nat) : Setting :=
  if mantissa < 0 then negative else of (Double.ofRatio mantissa.toNat (Nat.pow 10 places))

/-- The double in a half-open range of fractions `[low / den, high / den)`, if it is there. -/
def within? (setting : Setting) (low high : Double) : Option Double :=
  match setting with
  | of value => if !value.lt low && value.lt high then some value else none
  | _ => none

/-- The setting as a weight: positive and finite. -/
def weight? : Setting → Option Double
  | of (.finite units) => if 0 < units then some (.finite units) else none
  | _ => none

/-- The setting as a threshold strictly between zero and one. -/
def threshold? : Setting → Option Double
  | of value =>
    if Double.lt (.finite 0) value && value.lt (.finite Double.one) then some value else none
  | _ => none

end Setting
end Admission

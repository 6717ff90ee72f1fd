import Admission.Algorithm
import Admission.Double
/-!
# Additive increase, multiplicative decrease

The limit grows by a fixed step while jobs succeed and most of it is in use, and shrinks by a
factor whenever a job is dropped. It stays between one and a maximum, except that it may start
above the maximum and then stays there until a sample moves it.
-/

namespace Admission

structure Aimd where
  limit : Nat
  decreaseFactor : Double
  increase : Nat
  maximum : Nat
  /-- The limit only grows when more than this fraction of it is in use. -/
  minUtilisation : Double
  deriving DecidableEq, Repr

/-- The settings of an AIMD limit; what is absent keeps its default. -/
structure AimdSettings where
  decreaseFactor : Option Setting
  increase : Option Nat
  maximum : Option Nat
  minUtilisation : Option Setting
  deriving Repr

namespace Aimd

def minimum : Nat := 1

/-- The limit with default settings: grow by one up to 1000 above a use of 0.8, shrink by 0.9. -/
def startingAt (initial : Nat) : Except Fault Aimd :=
  if initial = 0 then .error .zeroInitialLimit
  else .ok {
    limit := initial
    decreaseFactor := Double.ofRatio 9 10
    increase := 1
    maximum := 1000
    minUtilisation := Double.ofRatio 8 10 }

/-- The factor must lie in `[0.5, 1)`. -/
def withDecreaseFactor (aimd : Aimd) (factor : Setting) : Except Fault Aimd :=
  match factor.within? (Double.ofRatio 1 2) (Double.ofNat 1) with
  | some factor => .ok { aimd with decreaseFactor := factor }
  | none => .error .decreaseFactor

def withIncrease (aimd : Aimd) (increase : Nat) : Except Fault Aimd :=
  if increase = 0 then .error .zeroIncrease else .ok { aimd with increase := increase }

def withMaximum (aimd : Aimd) (maximum : Nat) : Except Fault Aimd :=
  if maximum = 0 then .error .zeroMaximum else .ok { aimd with maximum := maximum }

/-- The threshold must lie strictly between zero and one. -/
def withMinUtilisation (aimd : Aimd) (threshold : Setting) : Except Fault Aimd :=
  match threshold.threshold? with
  | some threshold => .ok { aimd with minUtilisation := threshold }
  | none => .error .utilisation

def configure {σ : Type} (change : Aimd → σ → Except Fault Aimd) (setting : Option σ)
    (aimd : Aimd) : Except Fault Aimd :=
  match setting with
  | some value => change aimd value
  | none => .ok aimd

/-- The limit with an initial value and settings, which are checked in their order. -/
def create (initial : Nat) (settings : AimdSettings) : Except Fault Aimd :=
  startingAt initial
    >>= configure withDecreaseFactor settings.decreaseFactor
    >>= configure withIncrease settings.increase
    >>= configure withMaximum settings.maximum
    >>= configure withMinUtilisation settings.minUtilisation

/-- A candidate limit brought between the minimum and the maximum. -/
def clamp (aimd : Aimd) (candidate : Nat) : Nat :=
  if candidate < minimum then minimum
  else if aimd.maximum < candidate then aimd.maximum
  else candidate

def use (aimd : Aimd) (inFlight : Nat) : Double :=
  (Double.ofNat inFlight).div (Double.ofNat aimd.limit)

/-- The limit after a job succeeded. The sum has to be a machine word before it is clamped. -/
def increased (aimd : Aimd) (inFlight : Nat) : Except Fault Nat :=
  if aimd.minUtilisation.lt (aimd.use inFlight) then
    if aimd.limit + aimd.increase < wordSize then .ok (aimd.clamp (aimd.limit + aimd.increase))
    else .error .sumOverflow
  else .ok aimd.limit

/-- A whole number as a machine word. What no machine word can hold, and what is no whole number at
all, becomes the largest word. -/
def toWord : Option Nat → Nat
  | some number => if number < wordSize then number else wordSize - 1
  | none => wordSize - 1

/-- A limit times a factor, rounded down. -/
def scaled (limit : Nat) (factor : Double) : Nat :=
  toWord ((Double.ofNat limit).mul factor).floor?

def decreased (aimd : Aimd) : Nat :=
  aimd.clamp (scaled aimd.limit aimd.decreaseFactor)

def next (aimd : Aimd) (sample : Sample) : Except Fault Nat :=
  match sample.outcome with
  | .success => aimd.increased sample.inFlight
  | .dropped => .ok aimd.decreased
  | .ignore => .ok aimd.limit

/-- A sample over which no limit can be chosen changes nothing. -/
def learn (aimd : Aimd) (sample : Sample) : Aimd × Except Fault Nat :=
  match aimd.next sample with
  | .ok limit => ({ aimd with limit := limit }, .ok limit)
  | .error fault => (aimd, .error fault)

end Aimd

instance : Algorithm Aimd where
  limit := Aimd.limit
  update := Aimd.learn

end Admission

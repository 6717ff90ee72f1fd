import Admission.Http.Header
import Admission.Outcome
/-!
# Judges

A judge turns the result of a finished job into an outcome. It may also fail, and then there is no
verdict.
-/

namespace Admission

/-- The verdict on a result: an outcome, or the text with which the judge failed. -/
abbrev Verdict := Except String Outcome

abbrev Judge (ε ρ : Type) := Except ε ρ → Verdict

/-- Results which have a status code. -/
class Statused (ρ : Type) where
  status : ρ → Http.Status

/-- Judges responses by their status: some statuses mean overload. -/
structure StatusJudge where
  overload : List Http.Status
  deriving DecidableEq, Repr

namespace StatusJudge

/-- Only an unavailable service means overload. -/
def default : StatusJudge := ⟨[.serviceUnavailable]⟩

def withOverload (judge : StatusJudge) (status : Http.Status) : StatusJudge :=
  if judge.overload.contains status then judge
  else ⟨judge.overload ++ [status]⟩

/-- A status of success is one, whatever else it is said to mean. -/
def verdictOnStatus (judge : StatusJudge) (status : Http.Status) : Outcome :=
  if status.isSuccess then .success
  else if judge.overload.contains status then .dropped
  else .ignore

/-- Errors say nothing about the limit. -/
def verdictOn {ε ρ : Type} [Statused ρ] (judge : StatusJudge) (result : Except ε ρ) :
    Outcome :=
  match result with
  | .ok response => judge.verdictOnStatus (Statused.status response)
  | .error _ => .ignore

/-- The default judge with some more statuses, which are checked in order. -/
def ofCodes (codes : List Nat) : Except Http.Invalid StatusJudge :=
  (codes.mapM Http.Status.ofCode).map (·.foldl withOverload default)

end StatusJudge

/-- What a table of verdicts says: an outcome, or nothing, on which the judge fails. -/
abbrev Ruling := Option Outcome

def noRuling : String := "classifier panicked"

def Ruling.verdict : Ruling → Verdict
  | some outcome => .ok outcome
  | none => .error noRuling

/-- Judges responses by a table of status codes, with a ruling for the other codes and one for
errors. -/
structure TableJudge where
  statuses : List (Nat × Ruling)
  other : Ruling
  error : Ruling
  deriving Repr

def TableJudge.verdictOn {ε ρ : Type} [Statused ρ] (judge : TableJudge) :
    Judge ε ρ
  | .ok response =>
    Ruling.verdict ((judge.statuses.lookup (Statused.status response).code).getD
      judge.other)
  | .error _ => Ruling.verdict judge.error

/-- Judges results only by whether there is an error. -/
structure PlainJudge where
  ok : Ruling
  error : Ruling
  deriving Repr

def PlainJudge.verdictOn {ε ρ : Type} (judge : PlainJudge) : Judge ε ρ
  | .ok _ => Ruling.verdict judge.ok
  | .error _ => Ruling.verdict judge.error

end Admission

import Admission.Description
/-!
# Trials of partitions

The shares which partitions are given, by callers who come one after the other, and a crowd of
callers who all ask at once.
-/

namespace Admission

namespace ShareTrial

/-- A limiter whose children only know their share and admit everybody. -/
abbrev ShareLimiter := Partitioned TaskLabel Nat

/-- What is seen of a caller: whether it was admitted, and the share of the partition of its key;
or the fault it met. -/
abbrev Sight := Except Fault (Bool × Option Nat)

def ask (limiter : ShareLimiter) (key : Option String) : ShareLimiter × Sight :=
  let (limiter, route) := limiter.route ⟨key⟩
  (limiter, route.map fun route =>
    (match route with
      | .partition .. | .unlimited => true
      | .reject => false,
    Table.at? limiter.children (key.getD "")))

/-- Callers ask one after the other: the limiter at the end, and what was seen of each. -/
def run (limiter : ShareLimiter) : List (Option String) → ShareLimiter × List Sight
  | [] => (limiter, [])
  | key :: keys =>
    let (limiter, sight) := ask limiter key
    let (limiter, sights) := run limiter keys
    (limiter, sight :: sights)

def create (description : PartitionedDescription) : Except Trouble ShareLimiter :=
  description.build .ok

end ShareTrial

namespace Crowd

abbrev FixedLimiter := Partitioned TaskLabel RuleGate

/-- Callers ask one after the other, and keep what they are granted. -/
def enter (limiter : FixedLimiter) :
    List (Option String) → Except Fault (FixedLimiter × List (PartitionGrant Unit))
  | [] => .ok (limiter, [])
  | key :: keys =>
    match limiter.acquireNow ⟨key⟩ with
    | (_, .error fault) => .error fault
    | (limiter, .ok grant) =>
      (enter limiter keys).map fun (limiter, grants) => (limiter, grant.toList ++ grants)

def leave (outcome : Outcome) (limiter : FixedLimiter) :
    List (PartitionGrant Unit) → Except Fault FixedLimiter
  | [] => .ok limiter
  | grant :: grants =>
    match Partitioned.release limiter grant outcome 0 with
    | (_, some fault) => .error fault
    | (limiter, none) => leave outcome limiter grants

structure Sight where
  admitted : Nat
  created : Nat
  /-- The limiter with all jobs running, and without. -/
  full : LimiterView
  after : LimiterView

/-- A number of threads in each of which every key asks once, and then all jobs end. -/
def run (limiter : FixedLimiter) (keys : List (Option String)) (threads : Nat)
    (outcome : Outcome) : Except Fault Sight := do
  let (full, grants) ← enter limiter (List.replicate threads keys).flatten
  let after ← leave outcome full grants
  .ok {
    admitted := grants.length
    created := after.children.length
    full := Observable.state full
    after := Observable.state after }

def create (description : PartitionedDescription) : Except Trouble FixedLimiter :=
  description.build silentGate

end Crowd
end Admission

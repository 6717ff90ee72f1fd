import Admission.Subject
import Admission.Instrumented
/-!
# Descriptions of limiters

A limiter as it is described, before anything is checked, and the limiter which the description
gives. Settings are checked in the order in which a description has them.
-/

namespace Admission

/-- Why something cannot be made from what was given. -/
inductive Trouble where
  | fault (fault : Fault)
  | invalid (part : Http.Invalid)
  deriving DecidableEq, Repr

/-- The limiters of partitions: how each is made from its share. -/
inductive ChildDescription where
  | fixed
  | aimd (settings : AimdSettings)
  deriving Repr

/-- A partitioned limiter; what is absent keeps its default. -/
structure PartitionedDescription where
  limit : Option Nat
  partitions : List (String × Setting)
  resolver : Option ResolverName
  fallback : Option Fallback
  unlisted : Option (Setting × Nat)
  child : Option ChildDescription
  /-- Whether callers wait in their partitions, and for how long. -/
  block : Option (Option Nat)
  deriving Repr

inductive Description where
  | fixed (limit : Nat)
  | aimd (initial : Nat) (settings : AimdSettings)
  | scripted (initial : Nat)
  | waiting (inner : Description) (timeout : Option Nat)
  | partitioned (description : PartitionedDescription)
  deriving Repr

/-- A limiter for callers described by a `C`, of some type. -/
structure Assembled (C : Type) where
  L : Type
  G : Type
  W : Type
  isLimiter : Limiter C L G W
  isObservable : Observable L
  isInstrumented : Instrumented L
  limiter : L

namespace Assembled

def pack {C L G W : Type} [Limiter C L G W] [Observable L] [Instrumented L] (limiter : L) :
    Assembled C :=
  ⟨L, G, W, inferInstance, inferInstance, inferInstance, limiter⟩

def waiting {C : Type} (timeout : Option Nat) : Assembled C → Assembled C
  | ⟨_, _, _, _, _, _, limiter⟩ => pack (Waiting.create limiter timeout)

end Assembled

abbrev RuleGate := Gate (Metered Rule)

def silentGate (limit : Nat) : Except Fault RuleGate := do
  let rule ← Fixed.create limit
  Gate.create (Metered.silent (.fixed rule))

def fixedGate (limit : Nat) : Except Fault RuleGate := do
  let rule ← Fixed.create limit
  Gate.create (Metered.recorded (.fixed rule))

def aimdGate (settings : AimdSettings) (initial : Nat) : Except Fault RuleGate := do
  let rule ← Aimd.create initial settings
  Gate.create (Metered.recorded (.aimd rule))

def scriptedGate (initial : Nat) : Except Fault RuleGate :=
  Gate.create (Metered.recorded (.scripted ⟨initial, initial⟩))

def ChildDescription.gate : Option ChildDescription → Nat → Except Fault RuleGate
  | none => silentGate
  | some .fixed => fixedGate
  | some (.aimd settings) => aimdGate settings

namespace PartitionedDescription

variable {C : Type}

def applyLimit (partitioning : Partitioning C) :
    Option Nat → Except Fault (Partitioning C)
  | some limit => partitioning.withLimit limit
  | none => .ok partitioning

def applyUnlisted (partitioning : Partitioning C) :
    Option (Setting × Nat) → Except Fault (Partitioning C)
  | some (weight, cap) => partitioning.withUnlisted weight cap
  | none => .ok partitioning

def resolverOf [Keyed C] : Option ResolverName → Except Http.Invalid (Option (C → Option String))
  | some resolver => (Keyed.resolver resolver).map some
  | none => .ok none

def partitioning [Keyed C] (description : PartitionedDescription) :
    Except Trouble (Partitioning C) := do
  let config ← (applyLimit .default description.limit).mapError .fault
  let addPartition := fun (config : Partitioning C) (partition : String × Setting) =>
    config.withPartition partition.1 partition.2
  let config ← (description.partitions.foldlM addPartition config).mapError .fault
  let resolver ← (resolverOf description.resolver).mapError .invalid
  let config := (resolver.map config.withResolver).getD config
  let config := (description.fallback.map config.withFallback).getD config
  (applyUnlisted config description.unlisted).mapError .fault

def build [Keyed C] {κ : Type} (description : PartitionedDescription)
    (make : Nat → Except Fault κ) : Except Trouble (Partitioned C κ) := do
  let config ← description.partitioning
  (Partitioned.create config make).mapError .fault

/-- The limiter with the children which the description asks for. -/
def assemble [Keyed C] (description : PartitionedDescription) : Except Trouble (Assembled C) :=
  let gate := ChildDescription.gate description.child
  match description.block with
  | none =>
    (description.build gate).map fun limiter : Partitioned C RuleGate => .pack limiter
  | some timeout =>
    let make := fun share => (gate share).map fun inner => Waiting.create inner timeout
    (description.build make).map fun limiter : Partitioned C (Waiting RuleGate) => .pack limiter

end PartitionedDescription

namespace Description

variable {C : Type} [Keyed C]

def assemble : Description → Except Trouble (Assembled C)
  | fixed limit => (fixedGate limit).mapError .fault |>.map fun gate => .pack gate
  | aimd initial settings =>
    (aimdGate settings initial).mapError .fault |>.map fun gate => .pack gate
  | scripted initial => (scriptedGate initial).mapError .fault |>.map fun gate => .pack gate
  | waiting inner timeout => inner.assemble.map (·.waiting timeout)
  | partitioned description => description.assemble

end Description
end Admission

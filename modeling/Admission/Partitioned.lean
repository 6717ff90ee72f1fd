import Admission.Limiter
import Admission.Partition.Share
import Admission.Table
/-!
# Partitioned limiters

A partitioned limiter splits a limit between populations of callers. A resolver gives a caller's
key, and each key has a child limiter of its own which is made by the first caller with that key
and stays. Configured keys share the limit by their weights. Other keys get a child too, as long
as fewer than a given number of them have one; callers whom no child is for take the fallback.
-/

namespace Admission

/-- What happens to callers whom no partition is for. -/
inductive Fallback where
  | unlimited
  | reject
  | partition (name : String)
  deriving DecidableEq, Repr

/-- Partitions for keys which are not configured: the weight of each, and how many there may
be. -/
structure UnlistedKeys where
  weight : Double
  cap : Nat
  deriving DecidableEq, Repr

/-- How a limit is split between partitions. -/
structure Partitioning (C : Type) where
  limit : Nat
  weights : Table Double
  resolver : Option (C → Option String)
  fallback : Fallback
  unlisted : Option UnlistedKeys

namespace Partitioning

variable {C : Type}

def default : Partitioning C :=
  { limit := 20, weights := [], resolver := none, fallback := .unlimited, unlisted := none }

def withLimit (partitioning : Partitioning C) (limit : Nat) : Except Fault (Partitioning C) :=
  if limit = 0 then .error .zeroLimit else .ok { partitioning with limit := limit }

/-- Configures a partition; a later weight for the same name replaces an earlier one. -/
def withPartition (partitioning : Partitioning C) (name : String) (weight : Setting) :
    Except Fault (Partitioning C) :=
  match weight.weight? with
  | some weight =>
    .ok { partitioning with weights := Table.put partitioning.weights name weight }
  | none => .error .weight

def withResolver (partitioning : Partitioning C) (resolver : C → Option String) :
    Partitioning C :=
  { partitioning with resolver := some resolver }

def withFallback (partitioning : Partitioning C) (fallback : Fallback) : Partitioning C :=
  { partitioning with fallback := fallback }

def withUnlisted (partitioning : Partitioning C) (weight : Setting) (cap : Nat) :
    Except Fault (Partitioning C) :=
  match weight.weight? with
  | some weight => .ok { partitioning with unlisted := some { weight := weight, cap := cap } }
  | none => .error .weight

/-- A fallback partition has to be configured. -/
def check (partitioning : Partitioning C) : Except Fault Unit :=
  match partitioning.fallback with
  | .partition name =>
    if (Table.at? partitioning.weights name).isSome then .ok ()
    else .error (.unknownFallback name)
  | _ => .ok ()

def total (partitioning : Partitioning C) : Double :=
  Share.weightSum (partitioning.weights.map (·.2))

def shareOf (partitioning : Partitioning C) (weight : Double) : Except Fault Nat :=
  Share.share partitioning.limit weight partitioning.total

def key? (partitioning : Partitioning C) (ctx : C) : Option String :=
  partitioning.resolver.bind (· ctx)

end Partitioning

/-- A partitioned limiter with children of type `κ`. -/
structure Partitioned (C κ : Type) where
  config : Partitioning C
  /-- Makes a child which is to have a share. -/
  make : Nat → Except Fault κ
  /-- The children made so far, the oldest first. -/
  children : Table κ
  /-- For which keys, and with which shares, `make` has been called, the oldest call first. It is
  kept for the record and never read. -/
  made : List (String × Nat)
  /-- How many places for keys which are not configured are taken. -/
  unlistedCount : Nat

inductive Route (κ : Type) where
  | partition (key : String) (child : κ)
  | unlimited
  | reject

/-- A grant of a partitioned limiter: of one of its children, or of none. -/
inductive PartitionGrant (G : Type) where
  | unlimited
  | within (key : String) (grant : G)
  deriving DecidableEq, Repr

namespace Partitioned

variable {C κ : Type}

def create (config : Partitioning C) (make : Nat → Except Fault κ) :
    Except Fault (Partitioned C κ) :=
  config.check.map fun _ => { config, make, children := [], made := [], unlistedCount := 0 }

def putChild (limiter : Partitioned C κ) (key : String) (child : κ) : Partitioned C κ :=
  { limiter with children := Table.put limiter.children key child }

/-- Makes a child for a key with a share, unless the share could not be told. -/
def makeChild (limiter : Partitioned C κ) (key : String) :
    Except Fault Nat → Partitioned C κ × Except Fault (Option κ)
  | .error fault => (limiter, .error fault)
  | .ok share =>
    let limiter := { limiter with made := limiter.made ++ [(key, share)] }
    match limiter.make share with
    | .ok child => (limiter.putChild key child, .ok (some child))
    | .error fault => (limiter, .error fault)

/-- The child of a key: the one there is, or a new one. A key which is not configured takes one
of the places for such keys before its child is made. -/
def resolve (limiter : Partitioned C κ) (key : String) :
    Partitioned C κ × Except Fault (Option κ) :=
  match Table.at? limiter.children key with
  | some child => (limiter, .ok (some child))
  | none =>
    match Table.at? limiter.config.weights key with
    | some weight => limiter.makeChild key (limiter.config.shareOf weight)
    | none =>
      match limiter.config.unlisted with
      | none => (limiter, .ok none)
      | some unlisted =>
        if limiter.unlistedCount < unlisted.cap then
          makeChild { limiter with unlistedCount := limiter.unlistedCount + 1 } key
            (limiter.config.shareOf unlisted.weight)
        else (limiter, .ok none)

def routeFallback (limiter : Partitioned C κ) : Partitioned C κ × Except Fault (Route κ) :=
  match limiter.config.fallback with
  | .unlimited => (limiter, .ok .unlimited)
  | .reject => (limiter, .ok .reject)
  | .partition name =>
    match limiter.resolve name with
    | (limiter, .ok (some child)) => (limiter, .ok (.partition name child))
    | (limiter, .ok none) => (limiter, .ok .reject)
    | (limiter, .error fault) => (limiter, .error fault)

/-- Sends a caller to the partition of its key, or else to the fallback. -/
def route (limiter : Partitioned C κ) (ctx : C) : Partitioned C κ × Except Fault (Route κ) :=
  match limiter.config.key? ctx with
  | none => limiter.routeFallback
  | some key =>
    match limiter.resolve key with
    | (limiter, .ok (some child)) => (limiter, .ok (.partition key child))
    | (limiter, .ok none) => limiter.routeFallback
    | (limiter, .error fault) => (limiter, .error fault)

variable {G W : Type} [Limiter C κ G W]

def acquireNow (limiter : Partitioned C κ) (ctx : C) :
    Partitioned C κ × Except Fault (Option (PartitionGrant G)) :=
  match limiter.route ctx with
  | (limiter, .error fault) => (limiter, .error fault)
  | (limiter, .ok .unlimited) => (limiter, .ok (some .unlimited))
  | (limiter, .ok .reject) => (limiter, .ok none)
  | (limiter, .ok (.partition key child)) =>
    let (child, result) := Limiter.acquireNow child ctx
    (limiter.putChild key child, result.map (Option.map (.within key)))

def within (key : String) : Progress G W → Progress (PartitionGrant G) (String × W)
  | .admitted grant => .admitted (.within key grant)
  | .refused cause => .refused cause
  | .waiting place => .waiting (key, place)

/-- The first look, at the partition which the caller is sent to. -/
def acquire (limiter : Partitioned C κ) (ctx : C) (now : Nat) :
    Partitioned C κ × Except Fault (Progress (PartitionGrant G) (String × W)) :=
  match limiter.route ctx with
  | (limiter, .error fault) => (limiter, .error fault)
  | (limiter, .ok .unlimited) => (limiter, .ok (.admitted .unlimited))
  | (limiter, .ok .reject) => (limiter, .ok (.refused .rejected))
  | (limiter, .ok (.partition key child)) =>
    let (child, result) := Limiter.acquire child ctx now
    (limiter.putChild key child, result.map (within key))

/-- A further look, at the partition in which the caller waits. -/
def poll (limiter : Partitioned C κ) (ctx : C) (place : String × W) (now : Nat) :
    Partitioned C κ × Except Fault (Progress (PartitionGrant G) (String × W)) :=
  match Table.at? limiter.children place.1 with
  | none => (limiter, .ok (.waiting place))
  | some child =>
    let (child, result) := Limiter.poll child ctx place.2 now
    (limiter.putChild place.1 child, result.map (within place.1))

def abandon (limiter : Partitioned C κ) (place : String × W) : Partitioned C κ :=
  match Table.at? limiter.children place.1 with
  | none => limiter
  | some child => limiter.putChild place.1 (Limiter.abandon C child place.2)

def isWoken (limiter : Partitioned C κ) (place : String × W) : Bool :=
  match Table.at? limiter.children place.1 with
  | none => false
  | some child => Limiter.isWoken C child place.2

/-- A job ends in its partition; one outside all partitions has nothing to give back. -/
def release (limiter : Partitioned C κ) (grant : PartitionGrant G) (outcome : Outcome)
    (latency : Nat) : Partitioned C κ × Option Fault :=
  match grant with
  | .unlimited => (limiter, none)
  | .within key grant =>
    match Table.at? limiter.children key with
    | none => (limiter, none)
    | some child =>
      let (child, fault) := Limiter.release C child grant outcome latency
      (limiter.putChild key child, fault)

end Partitioned

variable {C κ G W : Type}

instance [Limiter C κ G W] : Limiter C (Partitioned C κ) (PartitionGrant G) (String × W) where
  acquireNow := Partitioned.acquireNow
  acquire := Partitioned.acquire
  poll := Partitioned.poll
  abandon := Partitioned.abandon
  isWoken := Partitioned.isWoken
  deadline? place := Limiter.deadline? C κ place.2
  release := Partitioned.release

instance [Observable κ] : Observable (Partitioned C κ) where
  state limiter := .partitioned limiter.unlistedCount
    (limiter.children.map fun child => (child.1, Observable.state child.2))

end Admission

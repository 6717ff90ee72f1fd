import Admission.Subject
import Admission.Gateway
/-!
# Pooled resources

Requests for a resource of a pool. The requests which reach the pool are numbered, and each goes
by a plan of its own; a pool without a plan for a request is exhausted. Getting a resource is a
success, and a failure of the pool says nothing about the limit.
-/

namespace Admission.Pool

variable {V : Type}

/-- A pool: how the requests for its resources go, and how many have reached it. -/
structure Resources (V : Type) where
  plans : List (Plan String V)
  asked : Nat

/-- The plan of a request beyond the last. -/
def exhausted : Plan String V := .reply (.result (.error "exhausted")) 0

/-- A pool's own errors are kept apart from refusals. -/
def trade : Trade PoolUser Unit (Resources V) Empty V (Except (PoolFailure String) V) where
  verdictOn := PlainJudge.verdictOn ⟨some .success, some .ignore⟩
  refused cause := .error (.refused cause)
  passedOn result := result.mapError .pool
  invoke _ _ pool :=
    ({ pool with asked := pool.asked + 1 }, [], pool.plans[pool.asked]?.getD exhausted,
      toString pool.asked)

abbrev PoolGateway (V L G W : Type) :=
  Gateway PoolUser L G W Unit (Resources V) Empty V (Except (PoolFailure String) V)

namespace PoolGateway

variable {L G W : Type}

def create (plans : List (Plan String V)) (limiter : L) : PoolGateway V L G W :=
  Gateway.create trade limiter ⟨plans, 0⟩

inductive Action (V : Type) where
  | common (action : Gateway.Action PoolUser V)
  | get (id : String) (ctx : PoolUser)

variable [Limiter PoolUser L G W]

/-- Carries out an action and lets everything which is ready go on. -/
def step (gateway : PoolGateway V L G W) (action : Action V) (settle : Bool) :
    PoolGateway V L G W × Gateway.Answer :=
  let (gateway, answer) := match action with
    | .common action => Gateway.act gateway action
    | .get id ctx => gateway.start ⟨id, ctx, (), .new, none, false⟩
  (if settle then Agents.settle gateway else gateway, answer)

/-- What is seen after each of some actions, with the number of requests which have reached the
pool, as long as the program goes on. -/
def run [Observable L] (gateway : PoolGateway V L G W) : List (Action V × Bool) →
    List (Gateway.Answer × Gateway.Sight Empty (Except (PoolFailure String) V) × Nat)
  | [] => []
  | (action, settle) :: rest =>
    let (gateway, answer) := step gateway.clear action settle
    if gateway.desk.isOver then []
    else (answer, gateway.sight, gateway.service.asked) :: run gateway rest

end PoolGateway
end Admission.Pool

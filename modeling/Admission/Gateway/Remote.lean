import Admission.Gateway.Http
/-!
# Remote calls

Remote calls which are made one by one, can be executed, and can be copied. A call which was
cancelled before it is executed fails. A limited call asks for admission whenever it is executed,
and reports a refusal as an error of its own.
-/

namespace Admission.Remote

open Http (Response)

structure RemoteCall where
  id : String
  ctx : RequestHead
  plan : Plan String Response
  executed : Bool
  cancelled : Bool

/-- A fresh copy of a call; its name shows how often it was copied. -/
def RemoteCall.copy (call : RemoteCall) : RemoteCall :=
  { call with id := call.id ++ "'", executed := false, cancelled := false }

/-- All calls which were made, and which of them goes by a name now. -/
structure Calls where
  made : List RemoteCall
  names : Table Nat

namespace Calls

def add (calls : Calls) (name : String) (call : RemoteCall) : Calls :=
  ⟨calls.made ++ [call], Table.put calls.names name calls.made.length⟩

def named? (calls : Calls) (name : String) : Option (Nat × RemoteCall) :=
  (Table.at? calls.names name).bind fun number =>
    calls.made[number]?.map fun call => (number, call)

def modify (calls : Calls) (number : Nat) (change : RemoteCall → RemoteCall) : Calls :=
  { calls with made := calls.made.modify number change }

end Calls

/-- A limited call keeps its own errors apart from those of the call. -/
def trade (verdictOn : Judge String Response) :
    Trade RequestHead Nat Calls String Response (Except (CallFailure String) Response) where
  verdictOn := verdictOn
  refused cause := .error (.refused cause)
  passedOn result := result.mapError .call
  invoke number _ calls :=
    match calls.made[number]? with
    | some call =>
      let plan := if call.cancelled then .reply (.result (.error "canceled")) 0 else call.plan
      (calls.modify number fun call => { call with executed := true }, [call.id], plan, call.id)
    | none => (calls, [], .manual, "")

abbrev RemoteGateway (L G W : Type) :=
  Gateway RequestHead L G W Nat Calls String Response (Except (CallFailure String) Response)

namespace RemoteGateway

variable {L G W : Type}

def create (verdictOn : Judge String Response) (limiter : L) : RemoteGateway L G W :=
  Gateway.create (trade verdictOn) limiter ⟨[], []⟩

inductive Action where
  | common (action : Gateway.Action RequestHead Response)
  | make (name : String) (ctx : RequestHead) (plan : Plan String Response)
  /-- Executes a call, which goes on until it has to wait. -/
  | execute (id name : String)
  /-- Has a call executed in the background. -/
  | enqueue (id name : String)
  | cancel (name : String)
  | copy (name copy : String)
  | info (name : String)

structure Info where
  id : String
  cancelled : Bool
  executed : Bool
  method : String
  uri : String
  deriving DecidableEq, Repr

inductive Answer where
  | common (answer : Gateway.Answer)
  | info (info : Info)
  deriving Repr

def infoOf (call : RemoteCall) : Info :=
  ⟨call.id, call.cancelled, call.executed, call.ctx.method, call.ctx.uri.toText⟩

variable [Limiter RequestHead L G W]

def act (gateway : RemoteGateway L G W) : Action → RemoteGateway L G W × Answer
  | .common action =>
    let (gateway, answer) := Gateway.act gateway action
    (gateway, .common answer)
  | .make name ctx plan =>
    ({ gateway with service := gateway.service.add name ⟨name, ctx, plan, false, false⟩ },
      .common .ok)
  | .execute id name =>
    match gateway.service.named? name with
    | some (number, call) =>
      let (gateway, answer) := gateway.start ⟨id, call.ctx, number, .new, none, false⟩
      (gateway, .common answer)
    | none => (gateway, .common .none)
  | .enqueue id name =>
    match gateway.service.named? name with
    | some (number, call) =>
      let (gateway, answer) := gateway.enqueue ⟨id, call.ctx, number, .new, none, true⟩
      (gateway, .common answer)
    | none => (gateway, .common .none)
  | .cancel name =>
    match gateway.service.named? name with
    | some (number, _) =>
      let calls := gateway.service.modify number fun call => { call with cancelled := true }
      ({ gateway with service := calls }, .common .ok)
    | none => (gateway, .common .none)
  | .copy name copy =>
    match gateway.service.named? name with
    | some (_, call) =>
      ({ gateway with service := gateway.service.add copy call.copy }, .common .ok)
    | none => (gateway, .common .none)
  | .info name =>
    match gateway.service.named? name with
    | some (_, call) => (gateway, .info (infoOf call))
    | none => (gateway, .common .none)

/-- Carries out an action and lets everything which is ready go on. -/
def step (gateway : RemoteGateway L G W) (action : Action) (settle : Bool) :
    RemoteGateway L G W × Answer :=
  let (gateway, answer) := act gateway action
  (if settle then Agents.settle gateway else gateway, answer)

/-- Carries out actions one after the other, as long as the program goes on, with what is seen after
each. -/
def run [Observable L] (gateway : RemoteGateway L G W) : List (Action × Bool) →
    List (Answer × Gateway.Sight String (Except (CallFailure String) Response))
  | [] => []
  | (action, settle) :: rest =>
    let (gateway, answer) := step gateway.clear action settle
    if gateway.desk.isOver then [] else (answer, gateway.sight) :: run gateway rest

end RemoteGateway
end Admission.Remote

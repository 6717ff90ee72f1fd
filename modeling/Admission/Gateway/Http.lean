import Admission.Subject
import Admission.Gateway
/-!
# Requests

Requests to a backend service, limited on the side of the client or of the server. A request
which is refused is answered with an empty response that says so: a client takes the service for
unavailable, a server has had too many requests.

A client sends through instances of the service. It makes an instance ready, hands that very
instance to the request, and keeps a fresh one in its place.
-/

namespace Admission.Http

structure Response where
  status : Status
  body : String
  deriving DecidableEq, Repr

instance : Statused Response where
  status := Response.status

/-- A response which says that there is too much to do, with an empty body. -/
def refusalResponse (status : Status) : Response := ⟨status, ""⟩

/-- An instance of the backend service: whether it was made ready since it was last used. -/
structure Instance where
  isReady : Bool
  deriving DecidableEq, Repr

namespace Instance

/-- A copy of an instance has to be made ready by itself. -/
def clone (_ : Instance) : Instance := ⟨false⟩

def makeReady (broken : Option String) (_ : Instance) : Except String Instance :=
  match broken with
  | some message => .error message
  | none => .ok ⟨true⟩

end Instance

inductive Side where
  | client
  | server
  deriving DecidableEq, Repr

/-- The backend service as it is reached: the client's long-lived instance, whether the next
request goes through a copy of it instead, and the message the service is broken with. -/
structure Backend where
  side : Side
  client : Instance
  useClone : Bool
  broken : Option String
  deriving Repr

/-- What a request is to do: its name, its plan, and the instance it goes through. -/
structure Order where
  id : String
  plan : Plan String Response
  through : Option Instance

/-- A request as it reached the service. -/
structure Notice where
  sent : String
  method : String
  uri : String
  /-- Whether the instance was ready; only a client's request has one. -/
  ready : Option Bool
  deriving DecidableEq, Repr

/-- Results go back as they are, and refusals as responses. -/
def trade (side : Side) (verdictOn : Judge String Response) :
    Trade RequestHead Order Backend Notice Response (Except String Response) where
  verdictOn := verdictOn
  refused _ := .ok (refusalResponse (match side with
    | .client => .serviceUnavailable
    | .server => .tooManyRequests))
  passedOn result := result
  invoke order ctx backend :=
    (backend, [⟨order.id, ctx.method, ctx.uri.toText, order.through.map (·.isReady)⟩],
      order.plan, order.id)

def defaultJudge : Judge String Response := fun result =>
  .ok (StatusJudge.default.verdictOn result)

abbrev HttpGateway (L G W : Type) :=
  Gateway RequestHead L G W Order Backend Notice Response (Except String Response)

namespace HttpGateway

variable {L G W : Type}

def create (side : Side) (verdictOn : Judge String Response) (limiter : L) :
    HttpGateway L G W :=
  Gateway.create (trade side verdictOn) limiter ⟨side, ⟨false⟩, false, none⟩

inductive Action where
  | common (action : Gateway.Action RequestHead Response)
  | send (id : String) (ctx : RequestHead) (plan : Plan String Response)
  /-- Breaks the service, or mends it. -/
  | breakDown (message : Option String)

variable [Limiter RequestHead L G W]

/-- Makes a request. Replies can be sent to it from now on, even before it is admitted. -/
def request (gateway : HttpGateway L G W) (id : String) (ctx : RequestHead)
    (plan : Plan String Response) (through : Option Instance) :
    HttpGateway L G W × Gateway.Answer :=
  let call := ⟨id, ctx, ⟨id, plan, through⟩, .new, none, false⟩
  match plan with
  | .manual =>
    let (gateway, call) := gateway.putUp call id
    gateway.start call
  | .reply .. => gateway.start call

/-- Sends a request. A client's requests go through the long-lived instance and a copy of it in
turn, and are not made if that cannot be made ready. -/
def send (gateway : HttpGateway L G W) (id : String) (ctx : RequestHead)
    (plan : Plan String Response) : HttpGateway L G W × Gateway.Answer :=
  let backend := gateway.service
  match backend.side with
  | .server => request gateway id ctx plan none
  | .client =>
    let chosen := if backend.useClone then backend.client.clone else backend.client
    match chosen.makeReady backend.broken with
    | .error message => (gateway.decline id (.error message), .done)
    | .ok taken =>
      let left := taken.clone
      let backend := { backend with
        client := if backend.useClone then backend.client else left
        useClone := !backend.useClone }
      request { gateway with service := backend } id ctx plan (some taken)

/-- Carries out an action and lets everything which is ready go on. -/
def step (gateway : HttpGateway L G W) (action : Action) (settle : Bool) :
    HttpGateway L G W × Gateway.Answer :=
  let (gateway, answer) := match action with
    | .common action => Gateway.act gateway action
    | .send id ctx plan => send gateway id ctx plan
    | .breakDown message =>
      ({ gateway with service := { gateway.service with broken := message } }, .ok)
  (if settle then Agents.settle gateway else gateway, answer)

/-- What is seen after each of some actions, which either settle or have the next one come first, as
long as the program goes on. -/
def run [Observable L] (gateway : HttpGateway L G W) :
    List (Action × Bool) → List (Gateway.Answer × Gateway.Sight Notice (Except String Response))
  | [] => []
  | (action, settle) :: rest =>
    let (gateway, answer) := step gateway.clear action settle
    if gateway.desk.isOver then [] else (answer, gateway.sight) :: run gateway rest

end HttpGateway
end Admission.Http

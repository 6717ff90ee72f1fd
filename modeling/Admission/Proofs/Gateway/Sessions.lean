import Admission.Gateway.Pool
import Admission.Gateway.Remote
import Admission.Proofs.Gateway.Moves

/-!
# What is done at gateways

Whatever is asked of a gateway, it makes moves, if the calls which are made have names of their own.
-/

namespace Admission.Gateway

variable {C L G W κ σ ν ρ R : Type}

/-- The name of a call which nothing is known of. -/
def IsFree (gateway : Gateway C L G W κ σ ν ρ R) (id : String) : Prop :=
  gateway.call? id = none ∧ gateway.entriesOf id = []

section Moves

variable [Limiter C L G W] (gateway : Gateway C L G W κ σ ν ρ R)

lemma plan_move (agenda : Agenda String) : Move gateway { gateway with agenda := agenda } :=
  .around agenda gateway.service gateway.letterboxes

lemma serve_move (service : σ) : Move gateway { gateway with service := service } :=
  .around gateway.agenda service gateway.letterboxes

lemma settle_moves : Moves gateway (Agents.settle gateway) :=
  Agents.settle_steps (fun agenda system => plan_move system agenda)
    (fun who _ => .single (.goOn who)) gateway

lemma act_moves (action : Action C ρ) : Moves gateway (gateway.act action).1 := by
  cases action with
  | hold id ctx => exact .single (.hold id ctx)
  | release id outcome => exact .single (.release id outcome)
  | abandon id => exact .single (.abandon id)
  | reply name reply => exact .single (.reply name reply)
  | advance time =>
    exact Agents.advance_steps (fun agenda system => plan_move system agenda)
      (fun who _ => .single (.goOn who)) time gateway

variable {gateway} {call : Call C κ G W ρ}

lemma enqueue_moves (new : call.phase = .new) (free : gateway.IsFree call.id) :
    Moves gateway (gateway.enqueue call).1 :=
  (Relation.ReflTransGen.single (.make new free.1 free.2)).tail (plan_move _ _)

lemma start_moves (new : call.phase = .new) (free : gateway.IsFree call.id) :
    Moves gateway (gateway.start call).1 := by
  have gone : Moves gateway (goOn call.id (gateway.make call)) :=
    (Relation.ReflTransGen.single (.make new free.1 free.2)).tail (.goOn call.id)
  unfold start
  dsimp only
  split
  · exact gone
  · exact gone.tail (plan_move _ _)

lemma settled_moves {next : Gateway C L G W κ σ ν ρ R} (moves : Moves gateway next) (settle : Bool) :
    Moves gateway (if settle then Agents.settle next else next) := by
  split
  · exact moves.trans (settle_moves next)
  · exact moves

end Moves

end Gateway

namespace Http.HttpGateway

variable {L G W : Type} [Limiter RequestHead L G W] {gateway : HttpGateway L G W}

/-- The requests which are sent have names of their own. -/
def Action.IsFresh (gateway : HttpGateway L G W) : Action → Prop
  | .send id _ _ => gateway.IsFree id
  | _ => True

lemma request_moves (gateway : HttpGateway L G W) {id : String} (free : gateway.IsFree id)
    (ctx : RequestHead) (plan : Plan String Response) (through : Option Instance) :
    gateway.Moves (gateway.request id ctx plan through).1 := by
  cases plan with
  | manual =>
    have posted : gateway.Move { gateway with letterboxes := gateway.letterboxes + 1 } :=
      .around gateway.agenda gateway.service _
    exact (Relation.ReflTransGen.single posted).trans (Gateway.start_moves rfl free)
  | reply => exact Gateway.start_moves rfl free

lemma send_moves {id : String} (free : gateway.IsFree id) (ctx : RequestHead)
    (plan : Plan String Response) : gateway.Moves (gateway.send id ctx plan).1 := by
  unfold send
  dsimp only
  split
  · exact request_moves gateway free ctx plan none
  · split
    · exact .single (.decline id _)
    · refine (Relation.ReflTransGen.single (gateway.serve_move _)).trans (request_moves _ ?_ ctx plan _)
      exact free

theorem step_moves (action : Action) (fresh : action.IsFresh gateway) (settle : Bool) :
    gateway.Moves (gateway.step action settle).1 := by
  cases action with
  | common action => exact Gateway.settled_moves (gateway.act_moves action) settle
  | send id ctx plan => exact Gateway.settled_moves (send_moves fresh ctx plan) settle
  | breakDown message => exact Gateway.settled_moves (.single (gateway.serve_move _)) settle

end Http.HttpGateway

namespace Remote.RemoteGateway

variable {L G W : Type} [Limiter RequestHead L G W] {gateway : RemoteGateway L G W}

/-- The executions of calls have names of their own. -/
def Action.IsFresh (gateway : RemoteGateway L G W) : Action → Prop
  | .execute id _ | .enqueue id _ => gateway.IsFree id
  | _ => True

lemma act_moves (action : Action) (fresh : action.IsFresh gateway) :
    gateway.Moves (gateway.act action).1 := by
  cases action with
  | common action => exact Gateway.act_moves gateway action
  | make name ctx plan => exact .single (gateway.serve_move _)
  | execute id name =>
    unfold act
    dsimp only
    split
    · exact Gateway.start_moves rfl fresh
    · exact .refl
  | enqueue id name =>
    unfold act
    dsimp only
    split
    · exact Gateway.enqueue_moves rfl fresh
    · exact .refl
  | cancel name =>
    unfold act
    dsimp only
    split
    · exact .single (gateway.serve_move _)
    · exact .refl
  | copy name copy =>
    unfold act
    dsimp only
    split
    · exact .single (gateway.serve_move _)
    · exact .refl
  | info name =>
    unfold act
    dsimp only
    split <;> exact .refl

theorem step_moves (action : Action) (fresh : action.IsFresh gateway) (settle : Bool) :
    gateway.Moves (gateway.step action settle).1 :=
  Gateway.settled_moves (act_moves action fresh) settle

end Remote.RemoteGateway

namespace Pool.PoolGateway

variable {V L G W : Type} [Limiter PoolUser L G W] {gateway : PoolGateway V L G W}

/-- The requests for resources have names of their own. -/
def Action.IsFresh (gateway : PoolGateway V L G W) : Action V → Prop
  | .common _ => True
  | .get id _ => gateway.IsFree id

theorem step_moves (action : Action V) (fresh : action.IsFresh gateway) (settle : Bool) :
    gateway.Moves (gateway.step action settle).1 := by
  cases action with
  | common action => exact Gateway.settled_moves (gateway.act_moves action) settle
  | get id ctx =>
    have made : gateway.Moves (gateway.start ⟨id, ctx, (), .new, none, false⟩).1 :=
      Gateway.start_moves rfl fresh
    exact Gateway.settled_moves made settle

end Pool.PoolGateway
end Admission

import Admission.Proofs.Gateway.Houses
import Admission.Proofs.Limited

/-!
# Calls at the service

When the desk admits a call, the service is asked to carry out its order, and the work goes as the
service plans it: it is looked at in that turn and in every later one, until there is something to
be seen. So whatever is on record about a call at the service goes back to a move of the run.
-/

namespace Admission

/-- The reply which has come for a call. -/
def Call.mail? {C κ G W ρ : Type} (call : Call C κ G W ρ) : Option (Reply String ρ) :=
  call.letterbox.bind (·.reply)

namespace Gateway

variable {C L G W κ σ ν ρ R : Type}

/-- Whether it is about what happens at the service. -/
def Entry.isVisit : Entry ν ρ R → Bool
  | invoked _ _ _ | looked _ _ => true
  | _ => false

lemma Entry.isVisit_of_isLast {entry : Entry ν ρ R} (last : entry.isLast) :
    entry.isVisit = false := by
  cases entry with
  | invoked | looked => nomatch last
  | _ => rfl

section Visits

variable [Limiter C L G W]

/-- What the desk tells a call whose turn it is, unless its work is under way. -/
def asks (gateway : Gateway C L G W κ σ ν ρ R) (call : Call C κ G W ρ) :
    Option (Except Fault (Progress (Pass G) W)) :=
  match call.phase with
  | .new => some (gateway.desk.acquire call.ctx gateway.agenda.now).2
  | .asking place => some (gateway.desk.poll call.ctx place gateway.agenda.now).2
  | .working _ => none

omit [Limiter C L G W] in
/-- A look at the work of a call in its turn, and what is put on record. As long as there is nothing
to be seen, the call is put back with its work; otherwise it is gone. -/
inductive Looks (before after : Gateway C L G W κ σ ν ρ R) (call : Call C κ G W ρ)
    (limited : Limited (Work String ρ) G) : List (Entry ν ρ R) → Prop
  | pending {letterbox : Option (Letterbox ρ)}
      (sees : limited.work.look before.agenda.now call.mail? = .pending)
      (back : after.calls = placed before.calls call.id
        (some { call with phase := .working limited, letterbox })) :
      Looks before after call limited [.looked call.id .pending]
  | ended {seen : Admission.Answer (Except String ρ)} {last : Entry ν ρ R}
      (sees : limited.work.look before.agenda.now call.mail? = seen) (unlike : seen ≠ .pending)
      (ends : last.isLast) (gone : after.calls = placed before.calls call.id none) :
      Looks before after call limited [.looked call.id seen, last]

omit [Limiter C L G W] in
/-- The service is asked to carry out the order of a call, as it is found. What it notes, how it is
left, and how the work begins is as it answers. -/
def Invokes (before after : Gateway C L G W κ σ ν ρ R) (call : Call C κ G W ρ) (notices : List ν)
    (work : Work String ρ) : Prop :=
  ∃ plan name, before.trade.invoke call.order call.ctx before.service =
    (after.service, notices, plan, name) ∧ work = Work.begin plan before.agenda.now

/-- What comes of the turn of a call at the service. -/
inductive Visits (before after : Gateway C L G W κ σ ν ρ R) (call : Call C κ G W ρ) : Prop
  /-- The desk does not admit the call, and the service hears nothing of it. -/
  | apart {new : List (Entry ν ρ R)} {told : Except Fault (Progress (Pass G) W)}
      (asked : before.asks call = some told) (unadmitted : ∀ pass, told ≠ .ok (.admitted pass))
      (service : after.service = before.service) (log : after.log = before.log ++ new)
      (plain : ∀ entry ∈ new, entry.isVisit = false)
      (calls : ∀ next ∈ after.calls, ∀ limited, next.phase = .working limited → next ∈ before.calls)
  /-- The call reaches the service, and its work is looked at for the first time. -/
  | begins {new : List (Entry ν ρ R)} {pass : Pass G} {notices : List ν} {work : Work String ρ}
      (admitted : before.asks call = some (.ok (.admitted pass)))
      (invokes : Invokes before after call notices work)
      (looks : Looks before after call (Limited.new work pass) new)
      (log : after.log = before.log ++ .invoked call.id pass.number notices :: new)
  /-- The work of the call is looked at once more. -/
  | goesOn {new : List (Entry ν ρ R)} {limited : Limited (Work String ρ) G}
      (phase : call.phase = .working limited) (service : after.service = before.service)
      (looks : Looks before after call limited new) (log : after.log = before.log ++ new)

variable {gateway before after : Gateway C L G W κ σ ν ρ R} {call : Call C κ G W ρ} {id : String}

omit [Limiter C L G W] in
lemma breakDown_calls (gateway : Gateway C L G W κ σ ν ρ R) (call : Call C κ G W ρ)
    (text : String) : (gateway.breakDown call text).calls = placed gateway.calls call.id none := by
  unfold breakDown
  split <;> rfl

omit [Limiter C L G W] in
lemma breakDown_service (gateway : Gateway C L G W κ σ ν ρ R) (call : Call C κ G W ρ)
    (text : String) : (gateway.breakDown call text).service = gateway.service := by
  unfold breakDown
  split <;> rfl

omit [Limiter C L G W] in
lemma breakDown_log (gateway : Gateway C L G W κ σ ν ρ R) (call : Call C κ G W ρ)
    (text : String) : ∃ last : Entry ν ρ R, last.isLast ∧
      (gateway.breakDown call text).log = gateway.log ++ [last] := by
  unfold breakDown
  split
  · exact ⟨_, rfl, rfl⟩
  · exact ⟨_, rfl, rfl⟩

/-- In its turn, the work of a call is looked at, and the service hears nothing of that. -/
lemma work_looks (gateway : Gateway C L G W κ σ ν ρ R) (call : Call C κ G W ρ)
    (limited : Limited (Work String ρ) G) :
    (gateway.work call limited).service = gateway.service ∧
      ∃ new, Looks gateway (gateway.work call limited) call limited new ∧
        (gateway.work call limited).log = gateway.log ++ new := by
  have mail : call.letterbox.bind (·.reply) = call.mail? := rfl
  unfold Gateway.work
  dsimp only
  rw [mail]
  generalize looking :
    (fun work : Work String ρ => (work, work.look gateway.agenda.now call.mail?)) = look
  have sees : limited.work.look gateway.agenda.now call.mail? = (look limited.work).2 :=
    looking ▸ rfl
  have tells : (limited.poll C look gateway.trade.verdictOn gateway.desk gateway.agenda.now).2.2 =
      .pending ↔ (look limited.work).2 = .pending :=
    (Limited.poll_tells limited gateway.desk gateway.agenda.now look).pending
  have silent : (look limited.work).2 = .pending →
      limited.poll C look gateway.trade.verdictOn gateway.desk gateway.agenda.now =
        (limited, gateway.desk, .pending) := by
    intro pending
    rw [Limited.poll_silent (.inr (by simp [pending])), pending, ← looking]
  rw [sees]
  generalize limited.poll C look gateway.trade.verdictOn gateway.desk gateway.agenda.now = polled
    at tells silent ⊢
  obtain ⟨after, desk, answer⟩ := polled
  cases answer with
  | pending =>
    have pending := tells.mp rfl
    cases silent pending
    rw [pending] at sees ⊢
    exact ⟨rfl, _, .pending sees rfl, rfl⟩
  | ready result =>
    have unlike : (look limited.work).2 ≠ .pending := by
      intro pending
      cases tells.mpr pending
    exact ⟨rfl, _, .ended sees unlike rfl rfl, List.append_assoc _ _ _⟩
  | brokenDown text =>
    have unlike : (look limited.work).2 ≠ .pending := by
      intro pending
      cases tells.mpr pending
    obtain ⟨last, ends, log⟩ := breakDown_log { gateway with
      desk := (after.drop C desk gateway.agenda.now true).1
      log := gateway.log ++ [.looked call.id (look limited.work).2] } call text
    have gone := breakDown_calls { gateway with
      desk := (after.drop C desk gateway.agenda.now true).1
      log := gateway.log ++ [.looked call.id (look limited.work).2] } call text
    refine ⟨breakDown_service _ _ _, _, .ended sees unlike ends gone, log.trans ?_⟩
    exact List.append_assoc _ _ _

omit [Limiter C L G W] in
lemma Looks.of_box {limited : Limited (Work String ρ) G} {new : List (Entry ν ρ R)}
    {box : Option (Letterbox ρ)}
    (looks : Looks gateway after { call with letterbox := box } limited new)
    (mail : box.bind (·.reply) = call.mail?) (now : gateway.agenda.now = before.agenda.now)
    (calls : gateway.calls = before.calls) : Looks before after call limited new := by
  have same : Call.mail? { call with letterbox := box } = call.mail? := mail
  cases looks with
  | pending sees back =>
    rw [same, now] at sees
    exact .pending sees (calls ▸ back)
  | ended sees unlike ends gone =>
    rw [same, now] at sees
    exact .ended sees unlike ends (calls ▸ gone)

/-- The turn in which the service has answered a call goes on with the work. -/
lemma Invokes.of_work {service : σ} {notices : List ν} {plan : Plan String ρ} {name : String}
    (answer : gateway.trade.invoke call.order call.ctx gateway.service =
      (service, notices, plan, name))
    (pass : Pass G) (agenda : Agenda String) (letterboxes : Nat) (box : Option (Letterbox ρ))
    (now : agenda.now = gateway.agenda.now) (mail : box.bind (·.reply) = call.mail?)
    (worked : after = Gateway.work { gateway with
      agenda, service, letterboxes, log := gateway.log ++ [.invoked call.id pass.number notices] }
      { call with letterbox := box } (Limited.new (Work.begin plan gateway.agenda.now) pass)) :
    ∃ new work, Invokes gateway after call notices work ∧
      Looks gateway after call (Limited.new work pass) new ∧
      after.log = gateway.log ++ .invoked call.id pass.number notices :: new := by
  obtain ⟨same, new, looks, log⟩ := work_looks { gateway with
    agenda, service, letterboxes, log := gateway.log ++ [.invoked call.id pass.number notices] }
    { call with letterbox := box } (Limited.new (Work.begin plan gateway.agenda.now) pass)
  rw [← worked] at same looks log
  refine ⟨new, _, ⟨plan, name, by rw [answer, same], rfl⟩, looks.of_box mail now rfl, ?_⟩
  exact log.trans (List.append_assoc _ _ _)

lemma invoke_begins (gateway : Gateway C L G W κ σ ν ρ R) (call : Call C κ G W ρ) (pass : Pass G) :
    ∃ notices new work, Invokes gateway (gateway.invoke call pass) call notices work ∧
      Looks gateway (gateway.invoke call pass) call (Limited.new work pass) new ∧
      (gateway.invoke call pass).log =
        gateway.log ++ .invoked call.id pass.number notices :: new := by
  rcases answer : gateway.trade.invoke call.order call.ctx gateway.service with
    ⟨service, notices, plan, name⟩
  refine ⟨notices, ?_⟩
  generalize invoked : gateway.invoke call pass = after
  unfold invoke at invoked
  rw [answer] at invoked
  dsimp only at invoked
  split at invoked
  · next none =>
    refine Invokes.of_work answer pass _ _ _ ?_ ?_ invoked.symm
    · split
      · split <;> rfl
      · rfl
    · rw [Call.mail?, none]
      rfl
  · refine Invokes.of_work answer pass _ _ call.letterbox ?_ rfl invoked.symm
    split
    · split <;> rfl
    · rfl

lemma proceed_visits (gateway : Gateway C L G W κ σ ν ρ R) (call : Call C κ G W ρ)
    (agenda : Agenda String) (now : agenda.now = gateway.agenda.now) (desk : Desk L)
    {told : Except Fault (Progress (Pass G) W)}
    (asked : gateway.asks call = some told) :
    Visits gateway (proceed { gateway with agenda } call (desk, told)) call := by
  have stays : ∀ {after : Gateway C L G W κ σ ν ρ R},
      after.calls = placed gateway.calls call.id none →
      ∀ next ∈ after.calls, ∀ limited, next.phase = .working limited → next ∈ gateway.calls := by
    intro after gone next mem _ _
    rw [gone] at mem
    exact (List.mem_filter.mp mem).1
  rcases told with fault | pass | cause | place
  · obtain ⟨last, ends, log⟩ := breakDown_log { gateway with agenda, desk } call fault.message
    refine .apart asked (by simp) (breakDown_service _ _ _) log ?_ (stays (breakDown_calls _ _ _))
    simpa using Entry.isVisit_of_isLast ends
  · obtain ⟨notices, new, work, ⟨plan, name, answer, begun⟩, looks, log⟩ :=
      invoke_begins { gateway with agenda, desk } call pass
    refine .begins asked ⟨plan, name, answer, ?_⟩ (looks.of_box rfl now rfl) log
    rw [begun, ← now]
  · refine .apart asked (by simp) rfl (List.append_assoc _ _ _) ?_ (stays rfl)
    simp [Entry.isVisit]
  · have same := (List.append_nil gateway.log).symm
    refine .apart asked (by simp) rfl same nofun fun next mem limited phase => ?_
    obtain ⟨other, here, rfl⟩ := List.mem_map.mp mem
    split at phase
    · nomatch phase
    · next unlike => rwa [if_neg unlike]

/-- Whoever's turn it is gets to the service if and only if the desk admits it, and whoever has got
there has its work looked at. -/
theorem goOn_visits (found : gateway.call? id = some call) :
    Visits gateway (goOn id gateway) call := by
  have asks : ∀ told, gateway.asks call = some told → ∀ result : Desk L × _, result.2 = told →
      ∀ agenda, agenda.now = gateway.agenda.now →
      Visits gateway (proceed { gateway with agenda := agenda } call result) call := by
    rintro told asked ⟨desk, _⟩ rfl agenda now
    exact proceed_visits gateway call agenda now desk asked
  unfold goOn
  rw [found]
  dsimp only
  cases phase : call.phase with
  | new =>
    refine asks _ (by rw [Gateway.asks, phase]) _ rfl _ ?_
    split
    · split <;> rfl
    · rfl
  | asking place => exact asks _ (by rw [Gateway.asks, phase]) _ rfl _ rfl
  | working limited =>
    obtain ⟨same, new, looks, log⟩ := work_looks gateway call limited
    exact .goesOn phase same looks log

/-- What is not the turn of a call leaves alone what is on record about the service, and the work
which is under way. -/
structure Spares (before after : Gateway C L G W κ σ ν ρ R) : Prop where
  log : ∃ new, after.log = before.log ++ new ∧ ∀ entry ∈ new, entry.isVisit = false
  calls : ∀ next ∈ after.calls, ∀ limited, next.phase = .working limited →
    ∃ call ∈ before.calls, call.id = next.id ∧ call.phase = next.phase

omit [Limiter C L G W] in
lemma Spares.of_calls {new : List (Entry ν ρ R)} (log : after.log = before.log ++ new)
    (plain : ∀ entry ∈ new, entry.isVisit = false)
    (calls : ∀ next ∈ after.calls, ∀ limited, next.phase = .working limited → next ∈ before.calls) :
    Spares before after :=
  ⟨⟨new, log, plain⟩, fun next mem limited phase => ⟨next, calls next mem limited phase, rfl, rfl⟩⟩

omit [Limiter C L G W] in
lemma Spares.of_same (log : after.log = before.log) (calls : after.calls = before.calls) :
    Spares before after :=
  .of_calls (log.trans (List.append_nil _).symm) nofun fun _ mem _ _ => calls ▸ mem

omit [Limiter C L G W] in
lemma Spares.mem_log (spares : Spares before after) {entry : Entry ν ρ R} (visit : entry.isVisit)
    (mem : entry ∈ after.log) : entry ∈ before.log := by
  obtain ⟨new, log, plain⟩ := spares.log
  rw [log] at mem
  refine (List.mem_append.mp mem).resolve_right fun late => ?_
  rw [plain entry late] at visit
  nomatch visit

lemma abandon_spares (gateway : Gateway C L G W κ σ ν ρ R) (id : String) :
    Spares gateway (gateway.abandon id).1 := by
  unfold Gateway.abandon
  split
  · exact .of_same rfl rfl
  · have discarded : ∀ {after : Gateway C L G W κ σ ν ρ R},
        after.log = gateway.log ++ [.dropped id] →
        after.calls = gateway.calls.filter (·.id ≠ id) → Spares gateway after := by
      intro after log calls
      refine .of_calls log (by simp [Entry.isVisit]) fun next mem _ _ => ?_
      rw [calls] at mem
      exact (List.mem_filter.mp mem).1
    dsimp only
    split <;> exact discarded rfl rfl

omit [Limiter C L G W] in
/-- A reply changes what is in a letterbox, and not how far its call has got. -/
lemma reply_spares (gateway : Gateway C L G W κ σ ν ρ R) (name : String)
    (reply : Reply String ρ) :
    Spares gateway (gateway.reply name reply).1 := by
  unfold Gateway.reply
  split
  · exact .of_same rfl rfl
  · next call box sent_to =>
    have kept : ∀ {after : Gateway C L G W κ σ ν ρ R}, after.log = gateway.log →
        after.calls = (gateway.keep
          { call with letterbox := some { box with reply := some reply } }).calls →
        Spares gateway after := by
      intro after log calls
      refine ⟨⟨[], log.trans (List.append_nil _).symm, nofun⟩, fun next mem limited phase => ?_⟩
      rw [calls] at mem
      obtain ⟨other, here, rfl⟩ := List.mem_map.mp mem
      by_cases same : other.id = call.id
      · exact ⟨call, recipient?_mem sent_to, by rw [if_pos same], by rw [if_pos same]⟩
      · exact ⟨other, here, by rw [if_neg same], by rw [if_neg same]⟩
    dsimp only
    split <;> exact kept rfl rfl

lemma hold_spares (gateway : Gateway C L G W κ σ ν ρ R) (id : String) (ctx : C) :
    Spares gateway (gateway.hold id ctx).1 := by
  unfold Gateway.hold
  dsimp only
  split
  · exact .of_same rfl rfl
  · exact .of_calls rfl (by simp [Entry.isVisit]) fun next mem _ _ => mem

/-- A move is the turn of a call which goes to the service, or leaves alone what is on record about
it. -/
theorem Move.visits (move : Move before after) :
    Spares before after ∨ ∃ id call, before.call? id = some call ∧
      after = Gateway.goOn id before ∧ Visits before after call := by
  cases move with
  | around => exact .inl (.of_same rfl rfl)
  | make new =>
    refine .inl (.of_calls rfl (by simp [Entry.isVisit]) fun next mem limited phase => ?_)
    refine (List.mem_append.mp mem).resolve_right fun own => ?_
    rw [List.mem_singleton.mp own, new] at phase
    nomatch phase
  | decline =>
    exact .inl (.of_calls rfl (by simp [Entry.isVisit]) fun next mem _ _ => mem)
  | goOn id =>
    cases found : before.call? id with
    | none =>
      refine .inl ?_
      unfold Gateway.goOn
      rw [found]
      exact .of_same rfl rfl
    | some call => exact .inr ⟨id, call, found, rfl, goOn_visits found⟩
  | abandon id => exact .inl (before.abandon_spares id)
  | reply name reply => exact .inl (before.reply_spares name reply)
  | hold id ctx => exact .inl (before.hold_spares id ctx)
  | release id outcome => exact .inl (.of_same rfl rfl)

omit [Limiter C L G W] in
/-- Nothing has happened at the service about a call whose work is not under way. -/
lemma Orderly.unvisited (orderly : gateway.Orderly) (found : gateway.call? id = some call)
    (idle : ∀ limited, call.phase ≠ .working limited) :
    ∀ entry ∈ gateway.log, entry.isVisit → entry.call? ≠ some id := by
  intro entry mem visit about
  have record := orderly.records id
  rw [found] at record
  obtain ⟨rest, made, story⟩ := record.story
  have own : entry ∈ gateway.entriesOf id := by simp [entriesOf, about, mem]
  cases story with
  | waiting =>
    rw [made, List.mem_singleton] at own
    rw [own] at visit
    exact absurd visit Bool.false_ne_true
  | working phase => exact idle _ phase

omit [Limiter C L G W] in
/-- The work which a call has after a look is that which was looked at. -/
lemma Looks.work_eq {limited now : Limited (Work String ρ) G} {new : List (Entry ν ρ R)}
    (looks : Looks before after call limited new) {next : Call C κ G W ρ} (mem : next ∈ after.calls)
    (same : next.id = call.id) (phase : next.phase = .working now) : now = limited := by
  cases looks with
  | pending _ back =>
    rw [back] at mem
    obtain ⟨other, -, rfl⟩ := List.mem_map.mp mem
    split at phase
    · simpa using phase.symm
    · next unlike =>
      rw [if_neg unlike] at same
      exact absurd same unlike
  | ended _ _ _ gone =>
    rw [gone] at mem
    exact absurd same (by simpa using (List.mem_filter.mp mem).2)

omit [Limiter C L G W] in
/-- A look at the work of a call leaves the other calls alone. -/
lemma Looks.others {limited : Limited (Work String ρ) G} {new : List (Entry ν ρ R)}
    (looks : Looks before after call limited new) {next : Call C κ G W ρ} (mem : next ∈ after.calls)
    (other : next.id ≠ call.id) : next ∈ before.calls := by
  cases looks with
  | pending _ back =>
    rw [back] at mem
    obtain ⟨old, here, rfl⟩ := List.mem_map.mp mem
    split at other
    · exact absurd rfl other
    · next unlike => rwa [if_neg unlike]
  | ended _ _ _ gone =>
    rw [gone] at mem
    exact (List.mem_filter.mp mem).1

omit [Limiter C L G W] in
/-- What a look puts on record about the service is what was seen. -/
lemma Looks.visits {limited : Limited (Work String ρ) G} {new : List (Entry ν ρ R)}
    (looks : Looks before after call limited new) {entry : Entry ν ρ R} (mem : entry ∈ new)
    (visit : entry.isVisit) :
    entry = .looked call.id (limited.work.look before.agenda.now call.mail?) := by
  cases looks with
  | pending sees =>
    rw [sees]
    exact List.mem_singleton.mp mem
  | ended sees _ ends =>
    rw [sees]
    rcases List.mem_pair.mp mem with rfl | rfl
    · rfl
    · rw [Entry.isVisit_of_isLast ends] at visit
      nomatch visit

end Visits

namespace House

variable {I : Type} {kinds : I → Kind L G W}

/-- Gateways which share a desk make a number of moves, from a new desk on; these are the states in
which they are meanwhile. -/
structure Run (kinds : I → Kind L G W) (limiter : L) (services : ∀ i, (kinds i).σ)
    (states : ℕ → House kinds) (length : ℕ) : Prop where
  start : states 0 = create kinds limiter services
  moves : ∀ m < length, Move (states m) (states (m + 1))

/-- The turn of a call at one of the gateways, as one of the moves. -/
structure IsTurn (states : ℕ → House kinds) (m : ℕ) (i : I)
    (call : Call (kinds i).C (kinds i).κ G W (kinds i).ρ) : Prop where
  found : (states m i).call? call.id = some call
  turn : states (m + 1) i = goOn call.id (states m i)

/-- In one of the moves, a call was admitted under a listener, and the service was asked to carry
out its order. This is what it noted, and the work with which it began. -/
def Began (states : ℕ → House kinds) (length : ℕ) (i : I) (id : String) (listener : Nat)
    (notices : List (kinds i).ν) (work : Work String (kinds i).ρ) : Prop :=
  ∃ m < length, ∃ call pass, IsTurn states m i call ∧ call.id = id ∧
    (states m i).asks call = some (.ok (.admitted pass)) ∧ pass.number = listener ∧
    Invokes (states m i) (states (m + 1) i) call notices work

/-- In one of the moves, somebody looked at the work of a call, with the reply which had come for
it. -/
def Saw (states : ℕ → House kinds) (length : ℕ) (i : I) (id : String)
    (work : Work String (kinds i).ρ) (seen : Admission.Answer (Except String (kinds i).ρ)) : Prop :=
  ∃ m < length, ∃ call, IsTurn states m i call ∧ call.id = id ∧
    work.look (states m i).agenda.now call.mail? = seen

/-- What is on record about a call at the service goes back to moves of the run. -/
structure Traced (states : ℕ → House kinds) (length : ℕ) (i : I) (id : String) (listener : Nat)
    (notices : List (kinds i).ν) (work : Work String (kinds i).ρ) : Prop where
  began : Began states length i id listener notices work
  works : ∀ call ∈ (states length i).calls, call.id = id → ∀ limited,
    call.phase = .working limited → limited.work = work
  saw : ∀ seen, .looked id seen ∈ (states length i).log → Saw states length i id work seen

section Runs

variable {limiter : L} {services : ∀ i, (kinds i).σ} {states : ℕ → House kinds} {length : ℕ} {i : I}
  {id : String} {listener : Nat} {notices : List (kinds i).ν} {work : Work String (kinds i).ρ}

lemma Began.mono (began : Began states length i id listener notices work) :
    Began states (length + 1) i id listener notices work := by
  obtain ⟨m, bound, rest⟩ := began
  exact ⟨m, bound.trans length.lt_succ_self, rest⟩

lemma Saw.mono {seen : Admission.Answer (Except String (kinds i).ρ)}
    (saw : Saw states length i id work seen) : Saw states (length + 1) i id work seen := by
  obtain ⟨m, bound, rest⟩ := saw
  exact ⟨m, bound.trans length.lt_succ_self, rest⟩

lemma Run.shorter (run : Run kinds limiter services states (length + 1)) :
    Run kinds limiter services states length :=
  ⟨run.start, fun m bound => run.moves m (bound.trans length.lt_succ_self)⟩

lemma Run.reaches (run : Run kinds limiter services states length) :
    Moves (create kinds limiter services) (states length) := by
  induction length with
  | zero => exact run.start ▸ .refl
  | succ length ih => exact (ih run.shorter).tail (run.moves length length.lt_succ_self)

/-- However gateways get somewhere, there is a run which gets there. -/
lemma Moves.run {house : House kinds} (moves : Moves (create kinds limiter services) house) :
    ∃ states length, Run kinds limiter services states length ∧ states length = house := by
  induction moves with
  | refl => exact ⟨fun _ => create kinds limiter services, 0, ⟨rfl, nofun⟩, rfl⟩
  | @tail before after _ move ih =>
    obtain ⟨states, length, run, rfl⟩ := ih
    have early : ∀ m ≤ length, Function.update states (length + 1) after m = states m :=
      fun m bound => Function.update_of_ne (by omega) _ _
    refine ⟨Function.update states (length + 1) after, length + 1, ⟨?_, fun m bound => ?_⟩,
      Function.update_self _ _ _⟩
    · rw [early 0 length.zero_le, run.start]
    · rcases (Nat.lt_succ_iff.mp bound).lt_or_eq with before | rfl
      · rw [early m before.le, early (m + 1) before]
        exact run.moves m before
      · rw [early m le_rfl, Function.update_self]
        exact move

/-- What is on record keeps its place in the run if nothing is added to it, and the work under way
is as it was. -/
lemma Traced.spared (traced : Traced states length i id listener notices work)
    (spares : Spares (states length i) (states (length + 1) i)) :
    Traced states (length + 1) i id listener notices work where
  began := traced.began.mono
  works next mem same limited phase := by
    obtain ⟨call, here, named, phased⟩ := spares.calls next mem limited phase
    exact traced.works call here (named.trans same) limited (phased.trans phase)
  saw seen mem := (traced.saw seen (spares.mem_log rfl mem)).mono

section Turns

variable {call : Call (kinds i).C (kinds i).κ G W (kinds i).ρ}
  {limited : Limited (Work String (kinds i).ρ) G} {pass : Pass G}
  {new : List (Entry (kinds i).ν (kinds i).ρ (kinds i).R)}

/-- A turn of another call at the service makes no difference. -/
lemma Traced.beside (traced : Traced states length i id listener notices work)
    (other : call.id ≠ id)
    (looks : Looks (states length i) (states (length + 1) i) call limited new)
    (old : ∀ seen, .looked id seen ∈ (states (length + 1) i).log →
      .looked id seen ∈ (states length i).log) :
    Traced states (length + 1) i id listener notices work where
  began := traced.began.mono
  works next mem same limited phase :=
    traced.works next (looks.others mem fun own => other (own.symm.trans same)) same limited phase
  saw seen mem := (traced.saw seen (old seen mem)).mono

lemma Traced.begins (turn : IsTurn states length i call)
    (unvisited : ∀ entry ∈ (states length i).log, entry.isVisit → entry.call? ≠ some call.id)
    (admitted : (states length i).asks call = some (.ok (.admitted pass)))
    (invokes : Invokes (states length i) (states (length + 1) i) call notices work)
    (looks : Looks (states length i) (states (length + 1) i) call (Limited.new work pass) new)
    (log : (states (length + 1) i).log =
      (states length i).log ++ .invoked call.id pass.number notices :: new) :
    Traced states (length + 1) i call.id pass.number notices work where
  began := ⟨length, length.lt_succ_self, call, pass, turn, rfl, admitted, rfl, invokes⟩
  works next mem same limited phase := by rw [looks.work_eq mem same phase, Limited.new]
  saw seen mem := by
    rw [log, List.mem_append, List.mem_cons] at mem
    rcases mem with early | own | late
    · exact absurd rfl (unvisited _ early rfl)
    · nomatch own
    · have same := looks.visits late rfl
      exact ⟨length, length.lt_succ_self, call, turn, rfl, (Entry.looked.inj same).2.symm⟩

lemma Traced.goesOn (traced : Traced states length i call.id listener notices work)
    (turn : IsTurn states length i call) (phase : call.phase = .working limited)
    (looks : Looks (states length i) (states (length + 1) i) call limited new)
    (log : (states (length + 1) i).log = (states length i).log ++ new) :
    Traced states (length + 1) i call.id listener notices work := by
  have same : limited.work = work :=
    traced.works call (List.mem_of_find?_eq_some turn.found) rfl limited phase
  refine ⟨traced.began.mono, fun next mem own now phase => ?_, fun seen mem => ?_⟩
  · rw [looks.work_eq mem own phase, same]
  · rw [log, List.mem_append] at mem
    rcases mem with early | late
    · exact (traced.saw seen early).mono
    · have shown := looks.visits late rfl
      rw [same] at shown
      exact ⟨length, length.lt_succ_self, call, turn, rfl, (Entry.looked.inj shown).2.symm⟩

/-- A turn of a call at the service: what is on record about any call has its place in the run. -/
lemma IsTurn.traced [Fintype I] (turn : IsTurn states length i call)
    (run : Run kinds limiter services states length)
    (visits : Visits (states length i) (states (length + 1) i) call)
    (earlier : .invoked id listener notices ∈ (states length i).log →
      ∃ work, Traced states length i id listener notices work)
    (mem : .invoked id listener notices ∈ (states (length + 1) i).log) :
    ∃ work, Traced states (length + 1) i id listener notices work := by
  cases visits with
  | apart _ _ _ log plain calls =>
    have spares : Spares (states length i) (states (length + 1) i) := .of_calls log plain calls
    obtain ⟨work, traced⟩ := earlier (spares.mem_log rfl mem)
    exact ⟨work, traced.spared spares⟩
  | @begins new pass noted begun admitted invokes looks log =>
    have idle : ∀ limited, call.phase ≠ .working limited := by
      intro limited phase
      rw [asks, phase] at admitted
      nomatch admitted
    obtain ⟨_, sound⟩ := run.reaches.sound (create_sound kinds limiter services)
    have unvisited := (sound.orderly i).unvisited turn.found idle
    rw [log, List.mem_append, List.mem_cons] at mem
    rcases mem with early | same | late
    · have other : call.id ≠ id := fun same => unvisited _ early rfl (same ▸ rfl)
      obtain ⟨work, traced⟩ := earlier early
      refine ⟨work, traced.beside other looks fun seen mem => ?_⟩
      rw [log, List.mem_append, List.mem_cons] at mem
      rcases mem with early | same | late
      · exact early
      · nomatch same
      · exact absurd (Entry.looked.inj (looks.visits late rfl)).1.symm other
    · obtain ⟨rfl, rfl, rfl⟩ := Entry.invoked.inj same
      exact ⟨begun, .begins turn unvisited admitted invokes looks log⟩
    · nomatch looks.visits late rfl
  | @goesOn new limited phase service looks log =>
    rw [log, List.mem_append] at mem
    rcases mem with early | late
    · obtain ⟨work, traced⟩ := earlier early
      by_cases same : call.id = id
      · subst same
        exact ⟨work, traced.goesOn turn phase looks log⟩
      · refine ⟨work, traced.beside same looks fun seen mem => ?_⟩
        rw [log, List.mem_append] at mem
        refine mem.resolve_right fun late => ?_
        exact same (Entry.looked.inj (looks.visits late rfl)).1.symm
    · nomatch looks.visits late rfl

end Turns

/-- Whatever is on record about a call at the service goes back to moves of the run: it began when
the desk admitted the call, and every look was at the work with which it began. -/
theorem Run.traced [Fintype I] (run : Run kinds limiter services states length)
    (mem : .invoked id listener notices ∈ (states length i).log) :
    ∃ work, Traced states length i id listener notices work := by
  induction length with
  | zero =>
    rw [run.start] at mem
    nomatch mem
  | succ length ih =>
    have earlier := ih run.shorter
    have spared : Spares (states length i) (states (length + 1) i) →
        ∃ work, Traced states (length + 1) i id listener notices work := by
      intro spares
      obtain ⟨work, traced⟩ := earlier (spares.mem_log rfl mem)
      exact ⟨work, traced.spared spares⟩
    obtain ⟨j, move, others⟩ := run.moves length length.lt_succ_self
    by_cases own : i = j
    · subst own
      rcases move.visits with spares | ⟨name, call, found, turn, visits⟩
      · exact spared spares
      · obtain rfl := id_of_call? found
        have turn : IsTurn states length i call := ⟨found, turn⟩
        exact turn.traced run.shorter visits earlier mem
    · rw [others i own] at mem
      refine spared (.of_same ?_ ?_) <;> rw [others i own]

end Runs

end House

end Gateway
end Admission

import Admission.Proofs.Gate.Tally
import Admission.Proofs.Session.Invariants

/-!
# Sessions over a gate

A session over a gate gives the answers of the session over the two numbers `limit` and `inFlight`,
whatever the algorithm makes of its samples, and its counters are those which the two numbers
describe. No run loses or invents a permit.
-/

namespace Admission.Session

variable {C α : Type}

/-- The same session over the gate which the two numbers describe. -/
def onGate (session : Session C (Tally α) Unit Empty) : Session C (Gate α) Unit Empty :=
  ⟨session.limiter.gate, session.now, session.held, session.callers⟩

lemma callers_eq_nil {L G : Type} (session : Session C L G Empty) : session.callers = [] :=
  List.eq_nil_iff_forall_not_mem.mpr fun caller _ => nomatch caller.place

/-- Nobody ever waits, so whoever was told to give up and asks first is answered like anybody else.
-/
lemma acquireCancelled_of_no_place {L G : Type} [Limiter C L G Empty]
    (session : Session C L G Empty) (id : String) (ctx : C) :
    session.acquireCancelled id ctx false = session.acquire id ctx true := by
  rcases session.acquireCancelled_cases id ctx false with
    ⟨atOnce, -⟩ | ⟨-, -, same⟩ | ⟨-, -, caller, -⟩
  · cases atOnce
  · exact same
  · exact nomatch caller.place

lemma onGate_answer (result : Session C (Tally α) Unit Empty × Option Fault) (fine : Answer) :
    answer (result.1.onGate, result.2) fine =
      ((answer result fine).1.onGate, (answer result fine).2) := by
  obtain ⟨session, fault⟩ := result
  cases fault <;> rfl

variable [Algorithm α]

/-- The two numbers count the jobs, under a limit of their algorithm. -/
structure Counts (rule : α) (room : Room (Tally α) Empty) : Prop where
  inFlight : room.limiter.inFlight = room.running
  under : room.limiter.Under rule

/-- No look in a session over two numbers can go wrong. -/
lemma no_mishap {fault : Fault} {before after : Room (Tally α) Empty} :
    ¬Mishap C fault before after := by
  intro mishap
  cases mishap with
  | acquireNow answer => exact Tally.acquireNow_ne_error answer
  | acquire answer =>
    rw [Tally.acquire_eq] at answer
    split at answer <;> simp at answer
  | release answer => simp [Limiter.release] at answer
  | @poll _ _ _ place => exact nomatch place

lemma acquireNow_answer (session : Session C (Tally α) Unit Empty) (id : String) (ctx : C)
    (fine : (session.acquireNow id ctx).2.isFault = false) :
    (session.acquireNow id ctx).2 =
      if session.limiter.inFlight < session.limiter.limit then .admitted else .rejected := by
  unfold acquireNow at fine ⊢
  rw [Tally.acquireNow_eq] at fine ⊢
  by_cases free : session.limiter.inFlight < session.limiter.limit
  · rw [if_pos free] at fine ⊢
    rw [if_pos free]
    exact answer_snd fine
  · rw [if_neg free, if_neg free]

variable {rule : α}

lemma move_counts {before after : Room (Tally α) Empty} (move : Move C before after)
    (counts : Counts rule before) : Counts rule after := by
  obtain ⟨inFlight, under⟩ := counts
  cases move with
  | enter answer =>
    have granted := Tally.of_acquireNow_granted answer
    rw [granted.2]
    exact ⟨congrArg (· + 1) inFlight, under.reached, under.given⟩
  | deny answer =>
    have denied := Tally.of_acquireNow_denied answer
    rw [denied.2]
    exact ⟨inFlight, under⟩
  | enterFirst answer =>
    rw [Tally.of_acquire_admitted answer]
    exact ⟨congrArg (· + 1) inFlight, under.reached, under.given⟩
  | refuse answer =>
    rw [Tally.of_acquire_refused answer]
    exact ⟨inFlight, under⟩
  | release answer =>
    simp only [Limiter.release, Prod.mk.injEq, and_true] at answer
    subst answer
    refine ⟨?_, under.leave _ _⟩
    dsimp only at inFlight ⊢
    rw [Tally.leave_inFlight, inFlight]
    rfl
  | @letIn _ _ _ place => exact nomatch place
  | @expire _ _ _ place => exact nomatch place
  | @giveUp _ _ _ place => exact nomatch place
  | @abandon _ _ place => exact nomatch place

/-- A session over the two numbers which counts its jobs. -/
structure Tallied (rule : α) (session : Session C (Tally α) Unit Empty) : Prop where
  kept : session.Kept
  counts : Counts rule session.room

lemma step_tallied {session : Session C (Tally α) Unit Empty} (tallied : Tallied rule session)
    (action : Action C) :
    Tallied rule (session.step action).1 ∧ (session.step action).2.isFault = false := by
  obtain ⟨ends, kept⟩ := step_ends (I := Counts rule) move_counts
    (fun stay => nomatch stay) tallied.kept tallied.counts (fun join => nomatch join) action
  have fine := ends.fine fun _ => no_mishap
  exact ⟨⟨kept, ends.of_fine fine⟩, fine⟩

section Simulation

variable (chooses : Algorithm.ChoosesUpTo rule maxPermits) (first : Algorithm.limit rule ≤ maxPermits)

include chooses first

lemma onGate_report (session : Session C (Tally α) Unit Empty)
    (running : 0 < session.limiter.inFlight) (under : session.limiter.Under rule)
    (report : Option (Report Unit)) :
    session.onGate.report report.toList =
      ((session.report report.toList).1.onGate, (session.report report.toList).2) := by
  cases report with
  | none => rfl
  | some report =>
    have limit_fits := chooses.gives_le first (under.leave report.outcome report.latency).given
    have chosen := under.not_fails chooses report.outcome report.latency
    have counted : (session.limiter.leave report.outcome report.latency).limit -
        (session.limiter.inFlight - 1) ≤ maxPermits := by omega
    have left :=
      Tally.gate_leave session.limiter report.outcome report.latency running chosen counted
    rw [Option.toList_some, report_singleton, report_singleton]
    simp only [onGate, Limiter.release, left]

lemma onGate_hold (session : Session C (Tally α) Unit Empty)
    (running : 0 < session.limiter.inFlight) (under : session.limiter.Under rule) (id : String)
    (grant : Unit) :
    session.onGate.hold id grant =
      ((session.hold id grant).1.onGate, (session.hold id grant).2) := by
  let put : Session C (Tally α) Unit Empty :=
    { session with held := Table.put session.held id (Listener.new grant session.now) }
  let report := (Table.at? session.held id).bind (·.drop session.now)
  change answer (put.onGate.report report.toList) .admitted =
    ((answer (put.report report.toList) .admitted).1.onGate,
      (answer (put.report report.toList) .admitted).2)
  rw [onGate_report chooses first put running under report, onGate_answer]

lemma onGate_use {session : Session C (Tally α) Unit Empty} (kept : session.Kept)
    (inFlight : session.limiter.inFlight = session.held.length)
    (under : session.limiter.Under rule) (id : String) {how : Listener Unit → List (Report Unit)}
    (once : ∀ listener grant, listener.completion = some grant →
      ∃ outcome latency, how listener = [⟨grant, outcome, latency⟩]) :
    session.onGate.use id how = ((session.use id how).1.onGate, (session.use id how).2) := by
  have same : session.onGate.held = session.held := rfl
  unfold use
  rw [same]
  cases found : Table.at? session.held id with
  | none => rfl
  | some listener =>
    obtain ⟨grant, unused, shorter⟩ := kept.at? found
    obtain ⟨outcome, latency, reports⟩ := once listener grant unused
    let removed : Session C (Tally α) Unit Empty :=
      { session with held := Table.remove session.held id }
    have running : 0 < removed.limiter.inFlight := by
      change 0 < session.limiter.inFlight
      omega
    dsimp only
    rw [reports]
    change answer (removed.onGate.report (some _).toList) .ok =
      ((answer (removed.report (some _).toList) .ok).1.onGate,
        (answer (removed.report (some _).toList) .ok).2)
    rw [onGate_report chooses first removed running under, onGate_answer]

/-- Every step gives the same answer over the gate and over the two numbers, and leads to the same
session. -/
theorem onGate_step {session : Session C (Tally α) Unit Empty} (tallied : Tallied rule session)
    (action : Action C) :
    session.onGate.step action = ((session.step action).1.onGate, (session.step action).2) := by
  obtain ⟨kept, inFlight, under⟩ := tallied
  have entered_under : ({ session.limiter with inFlight := session.limiter.inFlight + 1 } :
      Tally α).Under rule := ⟨under.reached, under.given⟩
  have nobody : session.callers = [] := session.callers_eq_nil
  let entered : Session C (Tally α) Unit Empty := { session with
    limiter := { session.limiter with inFlight := session.limiter.inFlight + 1 } }
  have acquires (id : String) (ctx : C) (cancellable : Bool) :
      session.onGate.acquire id ctx cancellable =
        ((session.acquire id ctx cancellable).1.onGate,
          (session.acquire id ctx cancellable).2) := by
    have looks : Limiter.acquire session.onGate.limiter ctx session.onGate.now = _ :=
      Tally.gate_acquire session.limiter ctx session.now
    unfold acquire
    rw [looks, Tally.acquire_eq]
    by_cases free : session.limiter.inFlight < session.limiter.limit
    · rw [if_pos free]
      exact onGate_hold chooses first entered (Nat.succ_pos _) entered_under id ()
    · rw [if_neg free]
      rfl
  cases action with
  | acquireNow id ctx =>
    have looks : Limiter.acquireNow session.onGate.limiter ctx = _ :=
      Tally.gate_acquireNow session.limiter ctx
    change session.onGate.acquireNow id ctx =
      ((session.acquireNow id ctx).1.onGate, (session.acquireNow id ctx).2)
    unfold acquireNow
    rw [looks, Tally.acquireNow_eq]
    by_cases free : session.limiter.inFlight < session.limiter.limit
    · rw [if_pos free]
      exact onGate_hold chooses first entered (Nat.succ_pos _) entered_under id ()
    · rw [if_neg free]
      rfl
  | acquire id ctx cancellable => exact acquires id ctx cancellable
  | acquireCancelled id ctx atOnce =>
    change session.onGate.acquireCancelled id ctx atOnce =
      ((session.acquireCancelled id ctx atOnce).1.onGate,
        (session.acquireCancelled id ctx atOnce).2)
    cases atOnce with
    | true => rfl
    | false =>
      rw [acquireCancelled_of_no_place, acquireCancelled_of_no_place]
      exact acquires id ctx true
  | resolve id outcome =>
    exact onGate_use chooses first kept inFlight under id (resolve_once outcome session.now)
  | drop id => exact onGate_use chooses first kept inFlight under id (drop_once session.now)
  | poll id => simp [step, caller?, onGate, nobody]
  | pollCancelled id => simp [step, caller?, onGate, nobody]
  | pollWoken => simp [step, pollWoken, onGate, nobody]
  | cancel id => simp [step, caller?, onGate, nobody]
  | abandon id => simp [step, caller?, onGate, nobody]
  | elapsed id =>
    simp only [step, onGate]
    cases Table.at? session.held id <;> rfl
  | advance time => rfl

lemma onGate_run {session : Session C (Tally α) Unit Empty} (tallied : Tallied rule session)
    (actions : List (Action C)) :
    session.onGate.answers actions = session.answers actions ∧
      session.onGate.after actions = (session.after actions).onGate ∧
      Tallied rule (session.after actions) := by
  induction actions generalizing session with
  | nil => exact ⟨rfl, rfl, tallied⟩
  | cons action rest ih =>
    obtain ⟨same_answers, same_session, tallied_after⟩ := ih (step_tallied tallied action).1
    have step := onGate_step chooses first tallied action
    refine ⟨?_, ?_, tallied_after⟩
    · rw [answers, answers, step, same_answers]
    · rw [after, after, step, same_session]

lemma onGate_counters {session : Session C (Tally α) Unit Empty} (tallied : Tallied rule session) :
    session.onGate.limiter.inFlight = session.held.length ∧
      session.onGate.limiter.available = session.limiter.limit - session.held.length ∧
      session.onGate.limiter.debt = session.held.length - session.limiter.limit ∧
      (∀ id ctx, (session.onGate.step (.acquireNow id ctx)).2 =
        if session.held.length < session.limiter.limit then .admitted else .rejected) ∧
      (session.onGate.limiter.available = 0 ∨ session.onGate.limiter.debt = 0) ∧
      (session.held = [] → session.onGate.limiter.debt = 0 ∧
        session.onGate.limiter.available = session.limiter.limit) := by
  have inFlight : session.limiter.inFlight = session.held.length := tallied.counts.inFlight
  have available : session.onGate.limiter.available =
      session.limiter.limit - session.held.length := by
    rw [← inFlight]
    rfl
  have debt : session.onGate.limiter.debt = session.held.length - session.limiter.limit := by
    rw [← inFlight]
    rfl
  refine ⟨inFlight, available, debt, ?_, ?_, ?_⟩
  · intro id ctx
    rw [onGate_step chooses first tallied, ← inFlight]
    exact acquireNow_answer session id ctx (step_tallied tallied (.acquireNow id ctx)).2
  · omega
  · intro nobody
    rw [nobody, List.length_nil] at available debt
    omega

end Simulation

/-- A gate is the machine of two numbers. Over every run of a session, with any algorithm which
always chooses a limit that can be counted, the answers are those of the machine, no fault is met,
and the gate's counters are determined by its limit and by the number of listeners which are held.
-/
theorem gate_refines_tally {rule : α} (first : 1 ≤ Algorithm.limit rule)
    (start_fits : Algorithm.limit rule ≤ maxPermits)
    (chooses : Algorithm.ChoosesUpTo rule maxPermits) :
    ∃ gate, Gate.create rule = .ok gate ∧ ∀ actions : List (Action C),
      let fresh : Session C (Gate α) Unit Empty := start gate
      let reference : Session C (Tally α) Unit Empty := start (Tally.start rule)
      let session := fresh.after actions
      let held := session.held.length
      let limit := session.limiter.limit
      fresh.answers actions = reference.answers actions ∧ fresh.Faultless actions ∧
      limit = (reference.after actions).limiter.limit ∧
      held = (reference.after actions).limiter.inFlight ∧
      session.limiter.inFlight = held ∧ session.limiter.available = limit - held ∧
      session.limiter.debt = held - limit ∧
      (∀ id ctx, (session.step (.acquireNow id ctx)).2 =
        if held < limit then .admitted else .rejected) ∧
      (session.limiter.available = 0 ∨ session.limiter.debt = 0) ∧
      (session.held = [] → session.limiter.debt = 0 ∧ session.limiter.available = limit) := by
  refine ⟨(Tally.start rule).gate, Tally.create_eq_ok first start_fits, fun actions => ?_⟩
  have starts : Tallied rule (start (Tally.start rule) : Session C (Tally α) Unit Empty) :=
    ⟨start_kept _, rfl, Tally.start_under rule⟩
  obtain ⟨same_answers, same_session, tallied⟩ := onGate_run chooses start_fits starts actions
  have fresh : (start (Tally.start rule).gate : Session C (Gate α) Unit Empty) =
      (start (Tally.start rule)).onGate := rfl
  dsimp only
  rw [fresh, same_session, same_answers]
  refine ⟨rfl, ?_, rfl, tallied.counts.inFlight.symm, onGate_counters chooses start_fits tallied⟩
  intro answer mem
  rw [same_answers] at mem
  exact faultless_of_no_mishap (I := Counts rule) move_counts (fun stay => nomatch stay)
    (fun join => nomatch join) (fun _ => no_mishap) starts.kept starts.counts actions answer mem

/-- The limit falls to one below four jobs in flight, and the job which told of it pays for one of
the three permits which should go. -/
theorem gate_refines_tally_below_in_flight :
    ∃ gate, Gate.create (⟨4, 1⟩ : Scripted) = .ok gate ∧
      let session : Session Unit (Gate Scripted) Unit Empty := (start gate).after
        [.acquireNow "a" (), .acquireNow "b" (), .acquireNow "c" (), .acquireNow "d" (),
          .resolve "a" .dropped]
      session.held.length = 3 ∧ session.limiter.limit = 1 ∧ session.limiter.available = 0 ∧
        session.limiter.debt = 2 ∧ (session.step (.acquireNow "e" ())).2 = .rejected := by
  have chooses : Algorithm.ChoosesUpTo (⟨4, 1⟩ : Scripted) maxPermits :=
    (Scripted.choosesUpTo _).mono (by decide)
  obtain ⟨gate, created, refines⟩ :=
    gate_refines_tally (C := Unit) (by decide) (by decide) chooses
  refine ⟨gate, created, ?_⟩
  obtain ⟨-, -, limit, held, -, available, debt, admits, -, -⟩ := refines
    [.acquireNow "a" (), .acquireNow "b" (), .acquireNow "c" (), .acquireNow "d" (),
      .resolve "a" .dropped]
  have limit_one : _ = 1 := limit.trans rfl
  have held_three : _ = 3 := held.trans rfl
  rw [limit_one, held_three] at available debt
  refine ⟨held_three, limit_one, available, debt, ?_⟩
  rw [admits, limit_one, held_three]
  rfl

end Admission.Session

import Admission.Proofs.Waiting.Bookkeeping
import Admission.Proofs.Waiting.Order

/-!
# A wake-up is a promise

Over a gate whose limit never falls there is a free permit for every wake-up on its way: a job
which ends frees at least one before it wakes one caller, and nobody else is let in meanwhile. So
whoever was woken is let in at the next look, however late, and nobody is ever put back, which
leaves all callers in the order in which they came.
-/

namespace Admission

/-- The states which an algorithm comes to, each with the limit which it gave last. -/
inductive Algorithm.Stands {α : Type} [Algorithm α] (rule : α) : α → Nat → Prop
  | start : Stands rule rule (Algorithm.limit rule)
  | chosen {later next : α} {limit chosen : Nat} {sample : Sample} : Stands rule later limit →
    Algorithm.update later sample = (next, .ok chosen) → Stands rule next chosen
  | failed {later next : α} {limit : Nat} {sample : Sample} {fault : Fault} :
    Stands rule later limit → Algorithm.update later sample = (next, .error fault) →
      Stands rule next limit

/-- No sample makes the algorithm give a lower limit than the last one. -/
def Algorithm.NeverFalls {α : Type} [Algorithm α] (rule : α) : Prop :=
  ∀ later limit sample chosen, Algorithm.Stands rule later limit →
    (Algorithm.update later sample).2 = .ok chosen → limit ≤ chosen

lemma Fixed.neverFalls (fixed : Fixed) : Algorithm.NeverFalls fixed := by
  intro later limit sample chosen stands gives
  have same : later = fixed ∧ limit = fixed.limit := by
    clear gives
    induction stands with
    | start => exact ⟨rfl, rfl⟩
    | chosen _ updates ih =>
      obtain ⟨rfl, -⟩ := ih
      cases updates
      exact ⟨rfl, rfl⟩
    | failed _ updates ih => cases updates
  obtain ⟨rfl, rfl⟩ := same
  cases gives
  exact Nat.le_refl _

lemma Scripted.neverFalls (scripted : Scripted) (rises : scripted.limit ≤ scripted.next) :
    Algorithm.NeverFalls scripted := by
  intro later limit sample chosen stands gives
  have bounded : later.next = scripted.next ∧ limit ≤ scripted.next := by
    clear gives
    induction stands with
    | start => exact ⟨rfl, rises⟩
    | chosen _ updates ih =>
      cases updates
      exact ⟨ih.1, Nat.le_of_eq ih.1⟩
    | failed _ updates ih => cases updates
  cases gives
  omega

namespace Gate

variable {α : Type} {gate : Gate α}

section Looks

variable {C : Type} [Algorithm α] {inner : Gate α} {ctx : C}

lemma of_granted {grant : Unit}
    (grants : Limiter.acquireNow gate ctx = (inner, .ok (some grant))) :
    inner = { gate with available := gate.available - 1, inFlight := gate.inFlight + 1 } := by
  simp only [Limiter.acquireNow, Gate.enter?] at grants
  split at grants
  · rename_i found
    split at found
    · simp at found
    · simp only [Option.some.injEq] at found
      rw [found]
      exact (congrArg Prod.fst grants).symm
  · simp at grants

lemma of_denied (denies : Limiter.acquireNow gate ctx = (inner, .ok none)) :
    gate.available = 0 ∧ inner = gate := by
  simp only [Limiter.acquireNow, Gate.enter?] at denies
  split at denies
  · simp at denies
  · rename_i found
    split at found
    · rename_i spent
      exact ⟨spent, (congrArg Prod.fst denies).symm⟩
    · simp at found

lemma never_fails {fault : Fault} :
    Limiter.acquireNow gate ctx ≠ (inner, .error fault) := by
  intro fails
  simp only [Limiter.acquireNow] at fails
  split at fails <;> simp at fails

end Looks

variable [Algorithm α] {rule : α}

/-- No permit is owed, and the limit is the one which the algorithm gave last. -/
structure Solvent (rule : α) (gate : Gate α) : Prop where
  stands : Algorithm.Stands rule gate.algorithm gate.limit
  debtless : gate.debt = 0

lemma Solvent.addPermits (solvent : Solvent rule gate) (added : Nat) :
    Solvent rule (gate.addPermits added).1 ∧
      gate.available ≤ (gate.addPermits added).1.available ∧
      ((gate.addPermits added).2 = none →
        (gate.addPermits added).1.available = gate.available + added) := by
  obtain ⟨available, more, same, all, -⟩ := gate.addPermits_cases added
  rw [same]
  exact ⟨⟨solvent.stands, solvent.debtless⟩, more, all⟩

variable (rises : Algorithm.NeverFalls rule)

include rises

lemma Solvent.learn (solvent : Solvent rule gate) (outcome : Outcome) (latency : Nat) :
    Solvent rule (gate.learn outcome latency).1 ∧
      gate.available ≤ (gate.learn outcome latency).1.available := by
  by_cases heard : outcome = .ignore
  · subst heard
    exact ⟨solvent, Nat.le_refl _⟩
  obtain ⟨next, ⟨limit, updates, moves⟩ | ⟨fault, updates, fails⟩⟩ := gate.learn_of_ne latency heard
  · have higher := rises _ _ _ _ solvent.stands (congrArg Prod.snd updates)
    have stands := solvent.stands.chosen updates
    have debtless := solvent.debtless
    rw [moves]
    unfold moveLimit
    split
    · dsimp only
      refine ((Solvent.mk stands ?_ : Solvent rule _).addPermits _).imp_right And.left
      dsimp only
      omega
    · rename_i not_raised
      dsimp only at not_raised ⊢
      exact ⟨⟨stands, by dsimp only; omega⟩, by omega⟩
  · rw [fails]
    exact ⟨⟨solvent.stands.failed updates, solvent.debtless⟩, Nat.le_refl _⟩

/-- A job which leaves takes no permit away, and where nothing goes wrong it frees one. -/
lemma Solvent.leave (solvent : Solvent rule gate) (outcome : Outcome) (latency : Nat) :
    Solvent rule (gate.leave outcome latency).1 ∧
      gate.available ≤ (gate.leave outcome latency).1.available ∧
      ((gate.leave outcome latency).2 = none →
        gate.available + 1 ≤ (gate.leave outcome latency).1.available) := by
  obtain ⟨learned, more⟩ := solvent.learn rises outcome latency
  unfold Gate.leave
  split
  · rename_i later fault found
    rw [found] at learned more
    obtain ⟨left, most, -⟩ := learned.addPermits 1
    exact ⟨left, Nat.le_trans more most, fun fine => nomatch fine⟩
  · rename_i later found
    rw [found] at learned more
    have clear : Solvent rule { later with inFlight := later.inFlight - 1 } :=
      ⟨learned.stands, learned.debtless⟩
    obtain ⟨left, most, all⟩ := clear.addPermits 1
    unfold returnPermit
    rw [if_pos clear.debtless]
    dsimp only at most all more ⊢
    exact ⟨left, by omega, fun fine => by rw [all fine]; omega⟩

end Gate

namespace Waiting

open Session (Room Look Action)

variable {C α : Type} [Algorithm α] {rule : α}

/-- There is a free permit for every wake-up on its way, at a gate which owes none. -/
structure Covered (rule : α) (room : Room (Waiting (Gate α)) Place) : Prop where
  solvent : room.limiter.inner.Solvent rule
  covers : room.limiter.queue.woken ≤ room.limiter.inner.available

section Turns

variable {before after : Room (Waiting (Gate α)) Place}

lemma Covered.not_in_vain {limiter : Waiting (Gate α)} {places running inner} {ctx : C}
    {ticket : Nat} (covered : Covered rule ⟨limiter, places, running⟩)
    (sound : limiter.queue.Sound) (sent : ticket ∈ limiter.queue.sent) :
    Limiter.acquireNow limiter.inner ctx ≠ (inner, .ok none) := by
  intro denies
  have promised := sound.woken_pos sent
  have covers : limiter.queue.woken ≤ limiter.inner.available := covered.covers
  have spent := (Gate.of_denied denies).1
  omega

variable (rises : Algorithm.NeverFalls rule)

include rises

lemma Covered.turn (turn : Turn C before after) (lined : Lined before)
    (covered : Covered rule before) : Covered rule after := by
  have sound := lined.sound
  obtain ⟨solvent, covers⟩ := covered
  cases turn with
  | enter quiet grants =>
    have nobody := TicketQueue.isBusy_eq_false_iff.mp quiet
    rw [Gate.of_granted grants]
    exact ⟨⟨solvent.stands, solvent.debtless⟩, by dsimp only; omega⟩
  | deny quiet denies =>
    obtain ⟨-, rfl⟩ := Gate.of_denied denies
    exact ⟨solvent, covers⟩
  | skip => exact ⟨solvent, covers⟩
  | leave =>
    have woken := (sound.leave_woken lined.mem).1
    exact ⟨solvent, Nat.le_trans woken covers⟩
  | letIn sent grants =>
    have used := sound.use_woken sent
    rw [Gate.of_granted grants]
    dsimp only at covers used ⊢
    exact ⟨⟨solvent.stands, solvent.debtless⟩, by dsimp only; omega⟩
  | lapse sent denies =>
    exact absurd denies (Covered.not_in_vain ⟨solvent, covers⟩ sound sent)
  | @release limiter inner _ _ _ outcome latency releases =>
    have woken := limiter.queue.wakeFront_woken_le
    obtain ⟨left, -, freed⟩ := solvent.leave rises outcome latency
    change limiter.inner.leave outcome latency = _ at releases
    dsimp only at left freed covers
    rw [releases] at left freed
    have free := freed rfl
    exact ⟨left, by dsimp only at free ⊢; omega⟩

omit rises in
lemma Covered.arrival (arrival : Arrival C before after) (covered : Covered rule before) :
    Covered rule after := by
  cases arrival with
  | behind busy ticket => exact ⟨covered.solvent, covered.covers⟩
  | denied quiet denies ticket =>
    obtain ⟨-, rfl⟩ := Gate.of_denied denies
    exact ⟨covered.solvent, covered.covers⟩

omit rises in
lemma Covered.not_putBack (lined : Lined before) (covered : Covered rule before) :
    ¬PutBack C before after := by
  rintro ⟨sent, denies⟩
  exact covered.not_in_vain lined.sound sent denies

/-- A job whose permit cannot go back wakes nobody, and takes none of the free permits away. -/
lemma Covered.failure (failure : Failure C before after) (covered : Covered rule before) :
    Covered rule after := by
  cases failure with
  | enter quiet fails => exact absurd fails Gate.never_fails
  | look sent fails => exact absurd fails Gate.never_fails
  | @release limiter inner _ _ _ outcome latency fault fails =>
    obtain ⟨left, more, -⟩ := covered.solvent.leave rises outcome latency
    have covers := covered.covers
    change limiter.inner.leave outcome latency = _ at fails
    dsimp only at left more covers
    rw [fails] at left more
    exact ⟨left, Nat.le_trans covers more⟩

end Turns

section Looks

lemma Covered.letsIn {limiter : Waiting (Gate α)} {places running} {place : Place}
    (covered : Covered rule ⟨limiter, places, running⟩) (sound : limiter.queue.Sound)
    (sent : place.ticket ∈ limiter.queue.sent) (ctx : C) (now : Nat) :
    ∃ limiter', Limiter.poll limiter ctx place now = (limiter', .ok (.admitted ())) := by
  obtain ⟨limiter', result, answer⟩ :
      ∃ limiter' result, Limiter.poll limiter ctx place now = (limiter', result) := ⟨_, _, rfl⟩
  rcases poll_cases answer with ⟨asleep, -⟩ | ⟨-, inner, ⟨_, fails, -⟩ | ⟨⟨⟩, -, rfl, -⟩ |
    ⟨denies, -⟩⟩
  · exact absurd sent asleep
  · exact absurd fails Gate.never_fails
  · exact ⟨limiter', answer⟩
  · exact absurd denies (covered.not_in_vain sound sent)

variable {session : Session C (Waiting (Gate α)) Unit Place}

lemma Covered.admitted (covered : Covered rule session.room) (lined : Lined session.room)
    (kept : session.Kept) {caller : Caller C Place} (waits : caller ∈ session.callers)
    (wakeUp : holdsWakeUp session caller = true)
    (unused : Table.at? session.held caller.id = none) :
    (session.step (.poll caller.id)).2 = .admitted := by
  have found : session.caller? caller.id = some caller := kept.caller?_of_mem waits
  obtain ⟨limiter, answer⟩ := covered.letsIn lined.sound (TicketQueue.isSent_iff.mp wakeUp)
    caller.ctx session.now
  have free : Table.at? (Session.forget { session with limiter := limiter } caller.id).held
      caller.id = none := unused
  simp only [Session.step, found, Session.poll, answer, Session.hold, free, Option.bind_none,
    Option.toList_none, Session.report, Session.answer_of_none]

end Looks

/-- Those who were woken came before those who were not, and wake-ups were sent in the order in
which the callers came. -/
def WokenInOrder {L G : Type} (session : Session C (Waiting L) G Place) : Prop :=
  ∃ woken asleep, session.callers = woken ++ asleep ∧
    session.limiter.queue.sent = woken.map (·.place.ticket) ∧
    session.limiter.queue.waiters = asleep.map (·.place.ticket)

lemma Ordered.wokenInOrder {L G W : Type} [Limiter C L G W]
    {session : Session C (Waiting L) G Place} (ordered : Ordered session.room) :
    WokenInOrder session := by
  obtain ⟨woken, asleep, split, sent, waiters⟩ := List.append_eq_map_iff.mp (line_eq ordered)
  exact ⟨woken, asleep, split, sent.symm, waiters.symm⟩

section Steps

variable (rises : Algorithm.NeverFalls rule)

/-- A room in which every wake-up is covered and the line is in order. -/
abbrev Promising (rule : α) (room : Room (Waiting (Gate α)) Place) : Prop :=
  Lined room ∧ Covered rule room ∧ Ordered room

include rises

lemma promising_move {before after : Room (Waiting (Gate α)) Place}
    (move : Session.Move C before after) (now : Promising rule before) : Promising rule after :=
  move_keeps (I := fun room => Covered rule room ∧ Ordered room)
    (fun turn lined now => ⟨now.1.turn rises turn lined, now.2.turn turn lined⟩) move now

omit rises in
lemma promising_stay {before after : Room (Waiting (Gate α)) Place}
    (stay : Session.Stay C before after) (now : Promising rule before) : Promising rule after :=
  stay_keeps (I := fun room => Covered rule room ∧ Ordered room)
    (fun back lined now => absurd back (now.1.not_putBack lined)) stay now

omit rises in
lemma promising_join {before after : Room (Waiting (Gate α)) Place}
    (join : Session.Join C before after) (now : Promising rule before) : Promising rule after :=
  join_keeps (I := fun room => Covered rule room ∧ Ordered room)
    (fun arrival _ now => ⟨now.1.arrival arrival, now.2.arrival arrival⟩) join now

lemma promising_mishap {fault : Fault} {before after : Room (Waiting (Gate α)) Place}
    (mishap : Session.Mishap C fault before after) (now : Promising rule before) :
    Promising rule after := by
  have failure := failure_of_mishap mishap
  exact ⟨now.1.failure failure, now.2.1.failure rises failure, now.2.2.failure failure now.1⟩

lemma promising_after {session : Session C (Waiting (Gate α)) Unit Place} (kept : session.Kept)
    (now : Promising rule session.room) (actions : List (Action C)) :
    Promising rule (session.after actions).room ∧ (session.after actions).Kept :=
  Session.after_keeps (promising_move rises) promising_stay promising_join
    (promising_mishap rises) kept now actions

/-- Nobody who looks in the course of an action has been woken in vain. -/
lemma promising_looks {session : Session C (Waiting (Gate α)) Unit Place} (kept : session.Kept)
    (now : Promising rule session.room) (action : Action C) :
    ∀ look ∈ session.looks action, ¬InVain look := by
  intro look mem in_vain
  have good : look.In (Promising rule) := by
    refine (Session.step_ends_of_looks (promising_move rises) kept now
      (fun join => promising_join join now) action (fun look _ good => ?_)).2.2 look mem
    exact good.ends (promising_move rises) promising_stay
  obtain ⟨lined, covered, -⟩ := good.holds
  rcases pending_cases good.kept good.waits in_vain.2 with ⟨asleep, -⟩ | ⟨sent, _, _, _, denies, -⟩
  · exact asleep in_vain.1
  · exact covered.not_in_vain lined.sound sent denies

end Steps

/-- Over a gate whose limit never falls the free permits are enough for everybody who was woken.
Whoever was woken is let in at the next look, whatever the time is, and is never put back, and
callers are woken in the order in which they came. This is so in every state, faults included. -/
theorem wake_up_is_a_promise {gate : Gate α} (created : Gate.create rule = .ok gate)
    (rises : Algorithm.NeverFalls rule) (timeout : Option Nat) (actions : List (Action C)) :
    let session := (Session.start (create gate timeout) :
      Session C (Waiting (Gate α)) Unit Place).after actions
    session.limiter.queue.woken ≤ session.limiter.inner.available ∧
      (∀ caller ∈ session.callers, holdsWakeUp session caller = true →
        caller.cancelled = false →
          (∀ now, ∃ limiter, Limiter.poll session.limiter caller.ctx caller.place now =
            (limiter, .ok (.admitted ()))) ∧
          (Table.at? session.held caller.id = none →
            (session.step (.poll caller.id)).2 = .admitted)) ∧
      (∀ action, ∀ look ∈ session.looks action, ¬InVain look) ∧
      WokenInOrder session := by
  intro session
  obtain ⟨-, -, rfl⟩ := Tally.of_create created
  have solvent : Gate.Solvent rule (Tally.start rule).gate := ⟨.start, Nat.zero_sub _⟩
  obtain ⟨⟨lined, covered, ordered⟩, kept⟩ := promising_after rises (Session.start_kept _)
    ⟨create_lined (C := C) _ timeout, ⟨solvent, Nat.zero_le _⟩, rfl⟩ actions
  refine ⟨covered.covers, fun caller waits wakeUp _ => ⟨?_, ?_⟩, ?_, ordered.wokenInOrder⟩
  · exact covered.letsIn lined.sound (TicketQueue.isSent_iff.mp wakeUp) caller.ctx
  · exact covered.admitted lined kept waits wakeUp
  · exact promising_looks rises kept ⟨lined, covered, ordered⟩

/-- A job ends and the limit rises, and the first of two callers is woken, who only looks again when
the time to wait is long over. The caller is let in. -/
theorem wake_up_is_a_promise_after_the_deadline :
    ∃ gate, Gate.create (⟨1, 3⟩ : Scripted) = .ok gate ∧
      let session : Session Unit (Waiting (Gate Scripted)) Unit Place :=
        (Session.start (create gate (some 5))).after
          [.acquire "a" () false, .acquire "x" () false, .acquire "y" () false,
            .resolve "a" .success, .advance 10]
      session.callers.map (·.place.deadline) = [some 5, some 5] ∧ session.now = 10 ∧
        session.limiter.queue.woken = 1 ∧ session.limiter.queue.waiters ≠ [] ∧
        session.limiter.queue.woken ≤ session.limiter.inner.available ∧
        (session.step (.poll "x")).2 = .admitted ∧ WokenInOrder session := by
  refine ⟨(Tally.start ⟨1, 3⟩).gate, rfl, ?_⟩
  obtain ⟨covers, admitted, -, order⟩ := wake_up_is_a_promise (C := Unit) rfl
    (Scripted.neverFalls ⟨1, 3⟩ (by decide)) (some 5)
    [.acquire "a" () false, .acquire "x" () false, .acquire "y" () false,
      .resolve "a" .success, .advance 10]
  refine ⟨by decide, rfl, by decide, by decide, covers, ?_, order⟩
  exact (admitted ⟨"x", (), ⟨0, some 5⟩, false, false⟩ List.mem_cons_self rfl rfl).2 rfl

end Waiting
end Admission

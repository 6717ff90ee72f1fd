import Admission.Proofs.Waiting.Bookkeeping
import Admission.Proofs.Waiting.Deadlines
import Admission.Proofs.Waiting.Order

/-!
# Giving up

A caller who goes away without a permit, for whatever reason, is taken out of the line and out of
nothing else. A wake-up which the caller has not used goes to the next who waits, and is lost only
if nobody does. A caller whose time is up at a look with a wake-up uses it first; if that is in
vain, what is given up is the new place at the front, and no wake-up.
-/

namespace Admission.Waiting

open Session (Action)

variable {C L G W : Type}

/-- A caller goes away, and everything is as if nobody had waited there, but for a wake-up which
the caller held: the first who waits has it now. -/
structure LeavesNoTrace (before : Session C (Waiting L) G Place) (caller : Caller C Place)
    (after : Session C (Waiting L) G Place) : Prop where
  callers : ∃ earlier later, before.callers = earlier ++ caller :: later ∧
    after.callers = earlier ++ later
  held : after.held = before.held
  inner : after.limiter.inner = before.limiter.inner
  gone : caller.place.ticket ∉ after.limiter.queue.line
  asleep : holdsWakeUp before caller = false →
    caller.place.ticket ∈ before.limiter.queue.waiters ∧
      after.limiter.queue = { before.limiter.queue with
        waiters := before.limiter.queue.waiters.erase caller.place.ticket
        attended := before.limiter.queue.attended.erase caller.place.ticket }
  passedOn : holdsWakeUp before caller = true → ∀ first rest,
    before.limiter.queue.waiters = first :: rest →
      after.limiter.queue.waiters = rest ∧
        after.limiter.queue.woken = before.limiter.queue.woken ∧
        ∃ next ∈ after.callers, next.place.ticket = first ∧
          holdsWakeUp before next = false ∧ holdsWakeUp after next = true
  nobodyLeft : holdsWakeUp before caller = true → before.limiter.queue.waiters = [] →
    after.limiter.queue.waiters = [] ∧
      after.limiter.queue.woken + 1 = before.limiter.queue.woken
  others : ∀ other ∈ after.callers, holdsWakeUp before other = true →
    holdsWakeUp after other = true

section Leaving

variable {session : Session C (Waiting L) G Place} {caller : Caller C Place}
  {earlier later : List (Caller C Place)}

lemma holdsWakeUp_iff :
    holdsWakeUp session caller = true ↔ caller.place.ticket ∈ session.limiter.queue.sent :=
  TicketQueue.isSent_iff

lemma not_holdsWakeUp_iff :
    holdsWakeUp session caller = false ↔ caller.place.ticket ∉ session.limiter.queue.sent := by
  rw [← holdsWakeUp_iff, Bool.not_eq_true]

lemma mem_sent_leave {queue : TicketQueue} (sound : queue.Sound) {ticket other : Nat}
    (here : ticket ∈ queue.line) (sent : other ∈ queue.sent) (different : other ≠ ticket) :
    other ∈ (queue.leave ticket).sent := by
  rcases List.mem_append.mp here with woken | waits
  · have used : other ∈ (queue.use ticket).sent :=
      List.mem_filter.mpr ⟨sent, by simpa using different⟩
    rw [sound.leave_of_sent woken]
    cases waits : (queue.use ticket).waiters with
    | nil =>
      rw [TicketQueue.wakeFront_of_nil waits]
      exact used
    | cons first rest =>
      rw [(sound.use woken).wakeFront_of_cons waits]
      exact List.mem_append_left _ used
  · rw [TicketQueue.leave_of_waits waits]
    exact sent

/-- No two callers have one ticket. -/
lemma Lined.ticket_ne (lined : Lined session.room)
    (split : session.callers = earlier ++ caller :: later) {other : Caller C Place}
    (mem : other ∈ earlier ++ later) : other.place.ticket ≠ caller.place.ticket := by
  have distinct := lined.callers.nodup_iff.mp lined.sound.distinct
  simp only [Session.room, split, List.map_map] at distinct
  exact Table.ne_of_nodup_map distinct other mem

lemma Lined.first_waiter (lined : Lined session.room)
    (split : session.callers = earlier ++ caller :: later)
    (woken : holdsWakeUp session caller = true) {first : Nat} {rest : List Nat}
    (waits : session.limiter.queue.waiters = first :: rest) :
    ∃ next ∈ earlier ++ later, next.place.ticket = first ∧ holdsWakeUp session next = false := by
  have sound : session.limiter.queue.Sound := lined.sound
  have first_waits : first ∈ session.limiter.queue.waiters := by
    rw [waits]
    exact List.mem_cons_self
  have asleep := sound.not_sent first_waits
  obtain ⟨next, mem, ticket⟩ := lined.caller (List.mem_append_right _ first_waits)
  rw [← ticket] at asleep
  refine ⟨next, ?_, ticket, not_holdsWakeUp_iff.mpr asleep⟩
  rw [split, List.mem_append, List.mem_cons] at mem
  rcases mem with mem | rfl | mem
  · exact List.mem_append_left _ mem
  · exact absurd (holdsWakeUp_iff.mp woken) asleep
  · exact List.mem_append_right _ mem

/-- Whoever goes away from a sound line leaves no trace. -/
theorem Lined.leavesNoTrace (lined : Lined session.room)
    (split : session.callers = earlier ++ caller :: later) :
    LeavesNoTrace session caller { session with
      limiter := session.limiter.abandon caller.place, callers := earlier ++ later } := by
  have sound : session.limiter.queue.Sound := lined.sound
  have in_line : caller.place.ticket ∈ session.limiter.queue.line :=
    lined.callers.mem_iff.mpr (by simp [Session.room, split])
  have gone : caller.place.ticket ∉ (session.limiter.queue.leave caller.place.ticket).line := by
    rw [sound.leave_line in_line]
    exact sound.distinct.not_mem_erase
  have waits_asleep (asleep : holdsWakeUp session caller = false) :
      caller.place.ticket ∈ session.limiter.queue.waiters :=
    (List.mem_append.mp in_line).resolve_left (not_holdsWakeUp_iff.mp asleep)
  refine ⟨⟨earlier, later, split, rfl⟩, rfl, rfl, gone, fun asleep => ?_,
    fun woken first rest waits => ?_, fun woken nobody => ?_, fun other mem woken => ?_⟩
  · exact ⟨waits_asleep asleep, TicketQueue.leave_of_waits (waits_asleep asleep)⟩
  · have sent := holdsWakeUp_iff.mp woken
    have left := (sound.leave_of_sent sent).trans ((sound.use sent).wakeFront_of_cons waits)
    obtain ⟨next, mem, ticket, asleep⟩ := lined.first_waiter split woken waits
    refine ⟨congrArg TicketQueue.waiters left,
      (congrArg TicketQueue.woken left).trans (sound.use_woken sent), next, mem, ticket, asleep, ?_⟩
    rw [holdsWakeUp_iff, ticket]
    change first ∈ (session.limiter.queue.leave caller.place.ticket).sent
    rw [left]
    exact List.mem_append_right _ (List.mem_singleton_self _)
  · have sent := holdsWakeUp_iff.mp woken
    have left := (sound.leave_of_sent sent).trans (TicketQueue.wakeFront_of_nil nobody)
    refine ⟨(congrArg TicketQueue.waiters left).trans nobody, ?_⟩
    change (session.limiter.queue.leave caller.place.ticket).woken + 1 = _
    rw [left]
    exact sound.use_woken sent
  · rw [holdsWakeUp_iff] at woken ⊢
    exact mem_sent_leave sound in_line woken (lined.ticket_ne split mem)

lemma Lined.dismiss_leavesNoTrace (lined : Lined session.room) (kept : session.Kept)
    [Limiter C L G W] (waits : caller ∈ session.callers) :
    LeavesNoTrace session caller (session.dismiss caller) := by
  obtain ⟨earlier, later, split, others⟩ := kept.split_caller waits
  unfold Session.dismiss
  rw [Session.forget_split { session with
    limiter := Limiter.abandon C session.limiter caller.place } split others]
  exact lined.leavesNoTrace split

end Leaving

variable [Limiter C L G W]

section Looks

/-- How it stands with a caller who has looked and was not let in: as before, where there was no
wake-up, and otherwise at the front with a new ticket. -/
inductive Denied (session : Session C (Waiting L) G Place) (caller : Caller C Place) :
    Session C (Waiting L) G Place → Caller C Place → Prop
  | asleep (asleep : holdsWakeUp session caller = false) : Denied session caller session caller
  | inVain {inner : L} (woken : holdsWakeUp session caller = true)
    (denies : Limiter.acquireNow session.limiter.inner caller.ctx = (inner, .ok none)) :
    Denied session caller
      (Session.update { session with limiter := { session.limiter with
          inner := inner
          queue := (session.limiter.queue.use caller.place.ticket).joinFront.1 } }
        (withTicket caller session.limiter.queue.nextTicket))
      (withTicket caller session.limiter.queue.nextTicket)

variable {session last : Session C (Waiting L) G Place} {caller tail : Caller C Place}
  {earlier later : List (Caller C Place)}

lemma Denied.split (denied : Denied session caller last tail)
    (split : session.callers = earlier ++ caller :: later)
    (others : ∀ other ∈ earlier ++ later, other.id ≠ caller.id) :
    last = { session with limiter := last.limiter, callers := earlier ++ tail :: later } := by
  cases denied with
  | asleep asleep => rw [← split]
  | inVain woken denies =>
    rename_i inner
    exact Session.update_split { session with limiter := { session.limiter with
      inner := inner
      queue := (session.limiter.queue.use caller.place.ticket).joinFront.1 } } caller
      (withTicket caller session.limiter.queue.nextTicket) rfl split others

lemma Denied.lined (denied : Denied session caller last tail) (lined : Lined session.room)
    (split : session.callers = earlier ++ caller :: later)
    (others : ∀ other ∈ earlier ++ later, other.id ≠ caller.id) : Lined last.room := by
  have left := denied.split split others
  cases denied with
  | asleep asleep => exact lined
  | inVain woken denies =>
    rw [left]
    simp only [Session.room, split, List.map_append, List.map_cons] at lined ⊢
    exact lined.putBack (.putBack (holdsWakeUp_iff.mp woken) denies)

lemma Denied.leavesNoTrace (denied : Denied session caller last tail) (lined : Lined session.room)
    (split : session.callers = earlier ++ caller :: later)
    (others : ∀ other ∈ earlier ++ later, other.id ≠ caller.id) :
    LeavesNoTrace last tail { session with
      limiter := last.limiter.abandon tail.place, callers := earlier ++ later } := by
  have left := denied.split split others
  have gone := (denied.lined lined split others).leavesNoTrace (congrArg Session.callers left)
  cases denied with
  | asleep asleep => exact gone
  | inVain woken denies => exact gone

/-- No wake-up is left to a caller who has looked. -/
lemma Denied.asleep_after (denied : Denied session caller last tail) (lined : Lined session.room) :
    holdsWakeUp last tail = false := by
  cases denied with
  | asleep asleep => exact asleep
  | inVain woken denies =>
    have sound : session.limiter.queue.Sound := lined.sound
    rw [not_holdsWakeUp_iff]
    intro sent
    exact sound.fresh (List.mem_append_left _ (List.mem_of_mem_filter sent))

/-- A look which turns the caller away leaves no trace of the caller, who was late or had been told
to go. -/
theorem poll_refused_leavesNoTrace (kept : session.Kept) (lined : Lined session.room)
    (waits : caller ∈ session.callers) {cause : Refusal}
    (refused : (session.poll caller).2 = .refused cause) :
    (∃ last tail, Denied session caller last tail ∧ holdsWakeUp last tail = false ∧
        LeavesNoTrace last tail (session.poll caller).1) ∧
      (cause = .timedOut ∧ IsDue caller.place.deadline session.now ∨
        cause = .cancelled ∧ caller.cancelled = true) := by
  obtain ⟨earlier, later, split, others⟩ := kept.split_caller waits
  have forgotten (limiter : Waiting L) :
      Session.forget { session with limiter := limiter } caller.id =
        { session with limiter := limiter, callers := earlier ++ later } :=
    Session.forget_split { session with limiter := limiter } split others
  have found : ∀ {last tail}, Denied session caller last tail →
      ∃ last' tail', Denied session caller last' tail' ∧ holdsWakeUp last' tail' = false ∧
        LeavesNoTrace last' tail' { session with
          limiter := last.limiter.abandon tail.place, callers := earlier ++ later } :=
    fun denied => ⟨_, _, denied, denied.asleep_after lined,
      denied.leavesNoTrace lined split others⟩
  unfold Session.poll at refused ⊢
  split at refused
  · simp at refused
  · rcases Session.answer_snd_cases refused with admitted | ⟨fault, failed⟩
    · simp at admitted
    · simp at failed
  · rename_i limiter late answer
    simp only [Session.Answer.refused.injEq] at refused
    subst refused
    obtain ⟨timed_out, due⟩ := due_of_poll_refused answer
    refine ⟨?_, .inl ⟨timed_out, due⟩⟩
    rw [forgotten]
    rcases poll_refused answer with ⟨asleep, rfl⟩ | ⟨sent, inner, denies, rfl⟩
    · exact found (.asleep (not_holdsWakeUp_iff.mpr asleep))
    · exact found (.inVain (holdsWakeUp_iff.mpr sent) denies)
  · rename_i limiter place answer
    dsimp only at refused ⊢
    split at refused
    · rename_i told
      simp only [Session.Answer.refused.injEq] at refused
      refine ⟨?_, .inr ⟨refused.symm, told⟩⟩
      rw [if_pos told, Session.dismiss]
      dsimp only
      rw [forgotten]
      rcases poll_waiting answer with ⟨asleep, rfl, rfl⟩ | ⟨sent, inner, denies, rfl, rfl⟩
      · exact found (.asleep (not_holdsWakeUp_iff.mpr asleep))
      · exact found (.inVain (holdsWakeUp_iff.mpr sent) denies)
    · simp at refused

/-- A caller who notices first of all to have been told to give up goes away without a look, with or
without a wake-up to pass on. -/
lemma pollCancelled_leavesNoTrace (kept : session.Kept) (lined : Lined session.room)
    (waits : caller ∈ session.callers) (told : caller.cancelled = true) :
    (session.pollCancelled caller).2 = .refused .cancelled ∧
      LeavesNoTrace session caller (session.pollCancelled caller).1 := by
  rw [Session.pollCancelled_of_cancelled told]
  exact ⟨rfl, lined.dismiss_leavesNoTrace kept waits⟩

lemma not_due_of_pending (kept : session.Kept) (waits : caller ∈ session.callers)
    (pending : (session.poll caller).2 = .pending) : ¬IsDue caller.place.deadline session.now := by
  obtain ⟨limiter, place, earlier, later, answer, -⟩ := Session.poll_pending kept waits pending
  exact not_due_of_poll_waiting answer

end Looks

section Newcomers

variable {session : Session C (Waiting L) G Place} {id : String} {ctx : C} {cancellable : Bool}

/-- A newcomer who is turned away at the first look leaves nothing but a number which was taken. -/
lemma acquire_refused_leavesNoTrace (lined : Lined session.room) {cause : Refusal}
    (refused : (session.acquire id ctx cancellable).2 = .refused cause) :
    cause = .timedOut ∧ IsDue (session.limiter.timeout.map (session.now + ·)) session.now ∧
      ∃ inner, (session.limiter.queue.isBusy = true ∧ inner = session.limiter.inner ∨
          Limiter.acquireNow session.limiter.inner ctx = (inner, .ok none)) ∧
        (session.acquire id ctx cancellable).1 = { session with
          limiter := { session.limiter with
            inner := inner
            queue := { session.limiter.queue with
              nextTicket := session.limiter.queue.nextTicket + 1 } } } := by
  have sound : session.limiter.queue.Sound := lined.sound
  unfold Session.acquire at refused ⊢
  split at refused
  · simp at refused
  · rcases Session.answer_snd_cases refused with admitted | ⟨fault, failed⟩
    · simp at admitted
    · simp at failed
  · rename_i limiter late answer
    simp only [Session.Answer.refused.injEq] at refused
    subst refused
    obtain ⟨_, -, remains⟩ := acquire_remains answer (by simp) (by simp)
    obtain ⟨timed_out, due⟩ := due_of_remain_refused remains
    obtain ⟨denied, looks, rfl⟩ := acquire_refused answer
    refine ⟨timed_out, due, ?_⟩
    rcases acquireNow_cases looks with ⟨busy, rfl, -⟩ | ⟨inner, -, denies, rfl⟩
    · exact ⟨_, .inl ⟨busy, rfl⟩, by rw [sound.joinBack_leave]⟩
    · exact ⟨_, .inr denies, by rw [sound.joinBack_leave]⟩
  · simp at refused

lemma acquire_pending (pending : (session.acquire id ctx cancellable).2 = .pending) :
    ∃ limiter place, Limiter.acquire session.limiter ctx session.now =
        (limiter, .ok (.waiting place)) ∧
      (session.acquire id ctx cancellable).1 =
        let joined := { session with limiter := limiter }
        let others := ((joined.caller? id).map joined.dismiss).getD joined
        { others with callers := others.callers ++ [⟨id, ctx, place, cancellable, false⟩] } := by
  unfold Session.acquire at pending ⊢
  split at pending
  · simp at pending
  · rcases Session.answer_snd_cases pending with admitted | ⟨fault, failed⟩
    · simp at admitted
    · simp at failed
  · simp at pending
  · rename_i limiter place answer
    exact ⟨limiter, place, answer, rfl⟩

/-- A caller whose name a newcomer takes leaves no trace in the line which the newcomer has
joined. -/
lemma acquire_pending_leavesNoTrace (kept : session.Kept) (lined : Lined session.room)
    {caller : Caller C Place} (waits : caller ∈ session.callers)
    (pending : (session.acquire caller.id ctx cancellable).2 = .pending) :
    ∃ joined newcomer, joined.callers = session.callers ++ [newcomer] ∧
      joined.limiter.queue = session.limiter.queue.joinBack.1 ∧
      LeavesNoTrace joined caller (session.acquire caller.id ctx cancellable).1 := by
  obtain ⟨limiter, place, answer, result⟩ := acquire_pending pending
  obtain ⟨earlier, later, split, others⟩ := kept.split_caller waits
  let newcomer : Caller C Place := ⟨caller.id, ctx, place, cancellable, false⟩
  let joined : Session C (Waiting L) G Place :=
    { session with limiter := limiter, callers := session.callers ++ [newcomer] }
  have joins : Session.Join C session.room joined.room := by
    simp only [joined, newcomer, Session.room, List.map_append, List.map_cons, List.map_nil]
    exact .join answer
  have joined_lined : Lined joined.room := lined.arrival (arrival_of_join joins)
  have joined_split : joined.callers = earlier ++ caller :: (later ++ [newcomer]) := by
    simp [joined, split]
  refine ⟨joined, newcomer, rfl, ?_, ?_⟩
  · obtain ⟨denied, looks, -, rfl⟩ := acquire_waiting answer
    rcases acquireNow_cases looks with ⟨-, rfl, -⟩ | ⟨inner, -, -, rfl⟩ <;> rfl
  · have found : Session.caller? { session with limiter := limiter } caller.id = some caller :=
      (kept.withLimiter limiter).caller?_of_mem waits
    have forgotten := Session.forget_split
      { session with limiter := Limiter.abandon C limiter caller.place } split others
    have gone := joined_lined.leavesNoTrace joined_split
    rw [result]
    simp only [found, Option.map_some, Option.getD_some, Session.dismiss, forgotten]
    rw [List.append_assoc]
    exact gone

lemma acquire_not_pending_of_due
    (due : IsDue (session.limiter.timeout.map (session.now + ·)) session.now) :
    (session.acquire id ctx cancellable).2 ≠ .pending := by
  intro pending
  obtain ⟨limiter, place, answer, -⟩ := acquire_pending pending
  obtain ⟨_, -, remains⟩ := acquire_remains answer (by simp) (by simp)
  exact not_due_of_remain_waiting remains due

/-- A newcomer who has been told to give up by then does what any newcomer does but wait. -/
lemma acquireCancelled_leavesNoTrace (kept : (session.acquire id ctx true).1.Kept)
    (lined : Lined (session.acquire id ctx true).1.room) :
    ((session.acquire id ctx true).2 ≠ .pending →
      session.acquireCancelled id ctx false = session.acquire id ctx true) ∧
    ((session.acquire id ctx true).2 = .pending →
      (session.acquireCancelled id ctx false).2 = .refused .cancelled ∧
      ∃ caller ∈ (session.acquire id ctx true).1.callers, caller.id = id ∧
        LeavesNoTrace (session.acquire id ctx true).1 caller
          (session.acquireCancelled id ctx false).1) := by
  rcases session.acquireCancelled_cases id ctx false with ⟨wrong, -⟩ | ⟨-, answered, same⟩ |
    ⟨-, pending, caller, found, same⟩
  · exact absurd wrong Bool.false_ne_true
  · exact ⟨fun _ => same, fun pending => absurd pending answered⟩
  · obtain ⟨waits, named⟩ := Session.mem_of_caller? found
    rw [same]
    exact ⟨fun answered => absurd pending answered, fun _ =>
      ⟨rfl, caller, waits, named, lined.dismiss_leavesNoTrace kept waits⟩⟩

end Newcomers

/-- Whoever gives up leaves no trace: by going away, by a look which ends with the caller late or
told to go, by noticing that before any look, or when a newcomer takes the name. A look turns a
caller away for being late only when the timeout has passed since the caller came, after a wake-up
was used in vain if there was one, and from then on no look leaves the caller waiting. Where a
caller has been told to go it is a matter of chance whether there is a look at the limiter; without
one, a wake-up which the caller has not used goes to the next who waits. It is the same with a
newcomer who may not wait at all, and with one who has been told to go before asking. -/
theorem giving_up_leaves_no_trace (inner : L) (timeout : Option Nat) (actions : List (Action C)) :
    let fresh : Session C (Waiting L) G Place := Session.start (create inner timeout)
    let session := fresh.after actions
    (∀ caller ∈ session.callers, ∃ came, fresh.cameAt actions caller.id = some came ∧
      LeavesNoTrace session caller (session.step (.abandon caller.id)).1 ∧
      (∀ ctx cancellable, (session.step (.acquire caller.id ctx cancellable)).2 = .pending →
        ∃ joined newcomer, joined.callers = session.callers ++ [newcomer] ∧
          joined.limiter.queue = session.limiter.queue.joinBack.1 ∧
          LeavesNoTrace joined caller (session.step (.acquire caller.id ctx cancellable)).1) ∧
      (∀ cause, (session.step (.poll caller.id)).2 = .refused cause →
        (∃ last tail, Denied session caller last tail ∧ holdsWakeUp last tail = false ∧
          LeavesNoTrace last tail (session.step (.poll caller.id)).1) ∧
        (cause = .timedOut ∧ IsDue (timeout.map (came + ·)) session.now ∨
          cause = .cancelled ∧ caller.cancelled = true)) ∧
      (IsDue (timeout.map (came + ·)) session.now →
        (session.step (.poll caller.id)).2 ≠ .pending) ∧
      (caller.cancelled = true →
        (session.step (.pollCancelled caller.id)).2 = .refused .cancelled ∧
          LeavesNoTrace session caller (session.step (.pollCancelled caller.id)).1) ∧
      (caller.cancelled = false →
        session.step (.pollCancelled caller.id) = session.step (.poll caller.id))) ∧
    (∀ id ctx, session.step (.acquireCancelled id ctx true) = (session, .refused .cancelled) ∧
      let asked := session.step (.acquire id ctx true)
      (asked.2 ≠ .pending → session.step (.acquireCancelled id ctx false) = asked) ∧
      (asked.2 = .pending →
        (session.step (.acquireCancelled id ctx false)).2 = .refused .cancelled ∧
        ∃ caller ∈ asked.1.callers, caller.id = id ∧
          LeavesNoTrace asked.1 caller (session.step (.acquireCancelled id ctx false)).1)) ∧
    ∀ id ctx cancellable,
      (∀ cause, (session.step (.acquire id ctx cancellable)).2 = .refused cause →
        cause = .timedOut ∧ IsDue (timeout.map (session.now + ·)) session.now ∧
        ∃ inner, (session.limiter.queue.isBusy = true ∧ inner = session.limiter.inner ∨
            Limiter.acquireNow session.limiter.inner ctx = (inner, .ok none)) ∧
          (session.step (.acquire id ctx cancellable)).1 = { session with
            limiter := { session.limiter with
              inner := inner
              queue := { session.limiter.queue with
                nextTicket := session.limiter.queue.nextTicket + 1 } } }) ∧
      (IsDue (timeout.map (session.now + ·)) session.now →
        (session.step (.acquire id ctx cancellable)).2 ≠ .pending) := by
  intro fresh session
  have lined : Lined session.room := after_lined inner timeout actions
  have kept : session.Kept := Session.after_kept (Session.start_kept _) actions
  have limit : session.limiter.timeout = timeout := after_timeout inner timeout actions
  refine ⟨fun caller waits => ?_, fun id ctx => ⟨rfl, ?_⟩, fun id ctx cancellable => ?_⟩
  · obtain ⟨came, since, deadline⟩ := deadline_of_cameAt inner timeout actions caller waits
    have known := kept.caller?_of_mem waits
    have abandons : session.step (.abandon caller.id) = (session.dismiss caller, .ok) := by
      simp only [Session.step, known]
    have polls : session.step (.poll caller.id) = session.poll caller := by
      simp only [Session.step, known]
    have polls_cancelled :
        session.step (.pollCancelled caller.id) = session.pollCancelled caller := by
      simp only [Session.step, known]
    refine ⟨came, since, ?_⟩
    rw [abandons, polls, polls_cancelled, ← deadline]
    refine ⟨lined.dismiss_leavesNoTrace kept waits, fun ctx cancellable pending => ?_,
      fun cause refused => ?_, fun due pending => ?_, pollCancelled_leavesNoTrace kept lined waits,
      Session.pollCancelled_of_not_cancelled⟩
    · exact acquire_pending_leavesNoTrace kept lined waits pending
    · exact poll_refused_leavesNoTrace kept lined waits refused
    · exact not_due_of_pending kept waits pending due
  · have next : (session.acquire id ctx true).1 =
        fresh.after (actions ++ [.acquire id ctx true]) :=
      (Session.after_append fresh actions [.acquire id ctx true]).symm
    have kept_next : (session.acquire id ctx true).1.Kept :=
      Session.step_kept kept (.acquire id ctx true)
    have lined_next : Lined (session.acquire id ctx true).1.room := by
      rw [next]
      exact after_lined inner timeout _
    exact acquireCancelled_leavesNoTrace kept_next lined_next
  · rw [← limit]
    exact ⟨fun cause refused => acquire_refused_leavesNoTrace lined refused,
      acquire_not_pending_of_due⟩

/-- The limit falls while a caller is woken, so that the permit which came back is not there when
the caller looks, after the deadline. A caller who goes away instead passes the wake-up on. -/
theorem giving_up_leaves_no_trace_after_waking_in_vain :
    ∃ gate, Gate.create (⟨2, 1⟩ : Scripted) = .ok gate ∧
      let fresh : Session Unit (Waiting (Gate Scripted)) Unit Place :=
        Session.start (create gate (some 5))
      let actions : List (Action Unit) := [.acquire "a" () false, .acquire "b" () false,
        .acquire "x" () false, .acquire "y" () false, .resolve "a" .dropped, .advance 10]
      let session := fresh.after actions
      ∃ caller ∈ session.callers, caller.id = "x" ∧ holdsWakeUp session caller = true ∧
        session.limiter.queue.waiters ≠ [] ∧ fresh.cameAt actions "x" = some 0 ∧
        LeavesNoTrace session caller (session.step (.abandon "x")).1 ∧
        (session.step (.poll "x")).2 = .refused .timedOut ∧
        ∃ last tail, Denied session caller last tail ∧ holdsWakeUp last tail = false ∧
          LeavesNoTrace last tail (session.step (.poll "x")).1 := by
  refine ⟨(Tally.start ⟨2, 1⟩).gate, rfl, ?_⟩
  intro fresh actions session
  have first : (session.caller? "x").any (holdsWakeUp session) = true := by decide +kernel
  obtain ⟨caller, known, woken⟩ := (Option.any_eq_true _ _).mp first
  obtain ⟨waits, named⟩ := Session.mem_of_caller? known
  have late : (session.step (.poll "x")).2 = .refused .timedOut := by decide +kernel
  have others : session.limiter.queue.waiters ≠ [] ∧ fresh.cameAt actions "x" = some 0 := by
    decide +kernel
  obtain ⟨came, -, abandons, -, looks, -⟩ :=
    (giving_up_leaves_no_trace (C := Unit) (Tally.start (⟨2, 1⟩ : Scripted)).gate (some 5)
      actions).1 caller waits
  rw [named] at abandons looks
  exact ⟨caller, waits, named, woken, others.1, others.2, abandons, late, (looks _ late).1⟩

end Admission.Waiting

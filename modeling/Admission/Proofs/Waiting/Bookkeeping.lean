import Admission.Proofs.Waiting.Turns

/-!
# Whose tickets are in the queue

The queue keeps exact books of the callers who wait: its tickets are those of the callers who were
not woken, and its count of wake-ups is the number of callers who hold one, in every state of every
run over any inner limiter, faults included. So whoever comes while somebody waits finds the queue
busy and does not get as far as the inner limiter.
-/

namespace Admission.Waiting

variable {C L G W : Type}

/-- A wake-up is on its way to the caller, who has not used it. -/
def holdsWakeUp (session : Session C (Waiting L) G Place) (caller : Caller C Place) : Bool :=
  session.limiter.queue.isSent caller.place.ticket

/-- The tickets which wait are those of the callers without a wake-up, each of them once, the count
of wake-ups is the number of the other callers, and all callers are there to receive theirs. -/
structure BooksExact (session : Session C (Waiting L) G Place) : Prop where
  distinct : session.limiter.queue.waiters.Nodup
  waiters : session.limiter.queue.waiters.Perm
    ((session.callers.filter (!holdsWakeUp session ·)).map (·.place.ticket))
  woken : session.limiter.queue.woken = (session.callers.filter (holdsWakeUp session)).length
  attended : session.limiter.queue.attended.Perm (session.callers.map (·.place.ticket))

/-- Where the books are exact no wake-up is lost: it gets to the caller at the front. -/
lemma BooksExact.wakeFront_of_cons {session : Session C (Waiting L) G Place}
    (books : BooksExact session) {front : Nat} {rest : List Nat}
    (waits : session.limiter.queue.waiters = front :: rest) :
    session.limiter.queue.wakeFront = { session.limiter.queue with
      waiters := rest
      woken := session.limiter.queue.woken + 1
      sent := session.limiter.queue.sent ++ [front] } := by
  have asleep := books.waiters.mem_iff.mp (waits ▸ List.mem_cons_self)
  obtain ⟨caller, mem, ticket⟩ := List.mem_map.mp asleep
  have there : front ∈ session.limiter.queue.attended :=
    books.attended.mem_iff.mpr (ticket ▸ List.mem_map_of_mem (List.mem_of_mem_filter mem))
  exact TicketQueue.wakeFront_of_attended waits there

section Lines

variable {session : Session C (Waiting L) G Place}

lemma holdsWakeUp_eq (session : Session C (Waiting L) G Place) (caller : Caller C Place) :
    holdsWakeUp session caller = session.limiter.queue.sent.contains caller.place.ticket := rfl

lemma perm_filter_of_append {first second whole : List Nat} (distinct : (first ++ second).Nodup)
    (parts : (first ++ second).Perm whole) :
    first.Perm (whole.filter (first.contains ·)) ∧
      second.Perm (whole.filter (!first.contains ·)) := by
  have apart : ∀ member ∈ second, first.contains member = false := by
    intro member in_second
    rw [← Bool.not_eq_true, List.contains_iff_mem]
    intro in_first
    exact (List.nodup_append.mp distinct).2.2 member in_first member in_second rfl
  have first_only : (first ++ second).filter (first.contains ·) = first := by
    rw [List.filter_append, List.filter_eq_self.mpr (by simp),
      List.filter_eq_nil_iff.mpr (by simpa using apart), List.append_nil]
  have second_only : (first ++ second).filter (!first.contains ·) = second := by
    rw [List.filter_append, List.filter_eq_nil_iff.mpr (by simp),
      List.filter_eq_self.mpr (by simpa using apart), List.nil_append]
  have in_first := parts.filter (first.contains ·)
  have in_second := parts.filter (!first.contains ·)
  rw [first_only] at in_first
  rw [second_only] at in_second
  exact ⟨in_first, in_second⟩

lemma Lined.booksExact (lined : Lined session.room) : BooksExact session := by
  obtain ⟨sound, callers⟩ := lined
  have tickets : session.room.places.map Place.ticket = session.callers.map (·.place.ticket) := by
    simp [Session.room]
  rw [tickets] at callers
  have attended := sound.attended.trans callers
  obtain ⟨sent, waiters⟩ := perm_filter_of_append sound.distinct callers
  rw [List.filter_map] at sent waiters
  have counted := sent.length_eq
  rw [List.length_map] at counted
  exact ⟨(List.nodup_append.mp sound.distinct).2.1, waiters, sound.woken.trans counted, attended⟩

lemma Lined.ticket_or_wakeUp (lined : Lined session.room) {caller : Caller C Place}
    (waits : caller ∈ session.callers) :
    (caller.place.ticket ∈ session.limiter.queue.waiters ↔ holdsWakeUp session caller = false) ∧
      (caller.place.ticket ∉ session.limiter.queue.waiters →
        (session.limiter.queue.use caller.place.ticket).woken + 1 =
          session.limiter.queue.woken) := by
  have in_line : caller.place.ticket ∈ session.limiter.queue.line :=
    lined.callers.mem_iff.mpr (List.mem_map_of_mem (List.mem_map_of_mem waits))
  have sent_or_waits := List.mem_append.mp in_line
  constructor
  · rw [← Bool.not_eq_true, holdsWakeUp_eq, List.contains_iff_mem]
    exact ⟨lined.sound.not_sent, sent_or_waits.resolve_left⟩
  · intro gone
    exact lined.sound.use_woken (sent_or_waits.resolve_right gone)

lemma Lined.busy (lined : Lined session.room) (pending : session.callers ≠ []) :
    session.limiter.queue.isBusy = true := by
  obtain ⟨caller, waits⟩ := List.exists_mem_of_ne_nil _ pending
  have entry := lined.ticket_or_wakeUp waits
  rw [TicketQueue.isBusy_iff]
  by_cases ticket : caller.place.ticket ∈ session.limiter.queue.waiters
  · exact .inl (List.ne_nil_of_mem ticket)
  · have counts := entry.2 ticket
    exact .inr (by omega)

end Lines

section Newcomers

variable [Limiter C L G W] {session : Session C (Waiting L) G Place}

lemma acquireNow_of_busy {limiter : Waiting L} (busy : limiter.queue.isBusy = true) (ctx : C) :
    Limiter.acquireNow limiter ctx = (limiter, .ok none) := by
  change acquireNow limiter ctx = _
  rw [acquireNow, if_pos busy]

/-- Where the queue is busy a newcomer joins it, or is out of time at once. -/
lemma acquire_of_busy {limiter : Waiting L} (busy : limiter.queue.isBusy = true) (ctx : C)
    (now : Nat) : ∃ limiter', limiter'.inner = limiter.inner ∧
      ((∃ place, Limiter.acquire limiter ctx now = (limiter', .ok (.waiting place))) ∨
        Limiter.acquire limiter ctx now = (limiter', .ok (.refused .timedOut))) := by
  have denied := acquireNow_of_busy busy ctx
  cases found : Limiter.acquire limiter ctx now with
  | mk limiter' result =>
    refine ⟨limiter', ?_⟩
    rcases acquire_cases found with ⟨_, wrong, -⟩ | ⟨_, wrong, -⟩ | ⟨same, place, looks, -, remains⟩
    · simp [denied] at wrong
    · simp [denied] at wrong
    · rw [denied] at looks
      obtain ⟨rfl, -⟩ := Prod.mk.inj looks
      obtain ⟨rfl, rfl⟩ | ⟨rfl, rfl⟩ := remain_cases remains
      · exact ⟨rfl, .inl ⟨_, rfl⟩⟩
      · exact ⟨rfl, .inr rfl⟩

lemma rejected_of_busy (busy : session.limiter.queue.isBusy = true) (id : String) (ctx : C) :
    session.step (.acquireNow id ctx) = (session, .rejected) := by
  change session.acquireNow id ctx = _
  rw [Session.acquireNow, acquireNow_of_busy busy]

lemma dismiss_inner (session : Session C (Waiting L) G Place) (caller : Caller C Place) :
    (session.dismiss caller).limiter.inner = session.limiter.inner ∧
      (session.dismiss caller).held = session.held :=
  ⟨rfl, rfl⟩

lemma not_admitted_of_busy (busy : session.limiter.queue.isBusy = true) (id : String) (ctx : C)
    (cancellable : Bool) :
    ((session.step (.acquire id ctx cancellable)).2 = .pending ∨
        (session.step (.acquire id ctx cancellable)).2 = .refused .timedOut) ∧
      (session.step (.acquire id ctx cancellable)).1.limiter.inner = session.limiter.inner ∧
      (session.step (.acquire id ctx cancellable)).1.held = session.held := by
  change ((session.acquire id ctx cancellable).2 = _ ∨
      (session.acquire id ctx cancellable).2 = _) ∧
    (session.acquire id ctx cancellable).1.limiter.inner = _ ∧
    (session.acquire id ctx cancellable).1.held = _
  obtain ⟨limiter, same, ⟨place, joins⟩ | expires⟩ := acquire_of_busy busy ctx session.now
  · rw [Session.acquire, joins]
    dsimp only
    cases Session.caller? { session with limiter := limiter } id with
    | none => exact ⟨.inl rfl, same, rfl⟩
    | some caller =>
      obtain ⟨inner, held⟩ := dismiss_inner { session with limiter := limiter } caller
      exact ⟨.inl rfl, inner.trans same, held⟩
  · rw [Session.acquire, expires]
    exact ⟨.inr rfl, same, rfl⟩

/-- The same where the newcomer was told to give up before asking. -/
lemma cancelled_of_busy (busy : session.limiter.queue.isBusy = true) (id : String) (ctx : C)
    (atOnce : Bool) :
    ((session.step (.acquireCancelled id ctx atOnce)).2 = .refused .cancelled ∨
        (session.step (.acquireCancelled id ctx atOnce)).2 = .refused .timedOut) ∧
      (session.step (.acquireCancelled id ctx atOnce)).1.limiter.inner = session.limiter.inner ∧
      (session.step (.acquireCancelled id ctx atOnce)).1.held = session.held := by
  change ((session.acquireCancelled id ctx atOnce).2 = _ ∨
      (session.acquireCancelled id ctx atOnce).2 = _) ∧
    (session.acquireCancelled id ctx atOnce).1.limiter.inner = _ ∧
    (session.acquireCancelled id ctx atOnce).1.held = _
  have acquires : ((session.acquire id ctx true).2 = .pending ∨
      (session.acquire id ctx true).2 = .refused .timedOut) ∧
    (session.acquire id ctx true).1.limiter.inner = session.limiter.inner ∧
    (session.acquire id ctx true).1.held = session.held := not_admitted_of_busy busy id ctx true
  obtain ⟨answer, inner, held⟩ := acquires
  rcases session.acquireCancelled_cases id ctx atOnce with
    ⟨-, same⟩ | ⟨-, answered, same⟩ | ⟨-, -, caller, -, same⟩
  · rw [same]
    exact ⟨.inl rfl, rfl, rfl⟩
  · rw [same]
    exact ⟨.inr (answer.resolve_left answered), inner, held⟩
  · rw [same]
    exact ⟨.inl rfl, inner, held⟩

end Newcomers

variable [Limiter C L G W]

lemma after_lined (inner : L) (timeout : Option Nat) (actions : List (Session.Action C)) :
    Lined ((Session.start (create inner timeout) :
      Session C (Waiting L) G Place).after actions).room := by
  have keeps := Session.after_keeps (C := C) (I := Lined (L := L))
    (fun move lined => (move_keeps (I := fun _ => True) (fun _ _ _ => trivial) move
      ⟨lined, trivial⟩).1)
    (fun stay lined => (stay_keeps (I := fun _ => True) (fun _ _ _ => trivial) stay
      ⟨lined, trivial⟩).1)
    (fun join lined => lined.arrival (arrival_of_join join))
    (fun mishap lined => lined.failure (failure_of_mishap mishap))
    (Session.start_kept _) (create_lined (C := C) inner timeout) actions
  exact keeps.1

/-- The queue's books are exact in every state, every wake-up which is used or passed on is one
which was counted, and every wake-up which is sent gets to the caller at the front. While somebody
waits, whoever comes is turned down or has to wait too, and the inner limiter is not asked. -/
theorem books_are_exact_and_nobody_overtakes (inner : L) (timeout : Option Nat)
    (actions : List (Session.Action C)) :
    let session := (Session.start (create inner timeout) :
      Session C (Waiting L) G Place).after actions
    BooksExact session ∧
      (∀ caller ∈ session.callers,
        (caller.place.ticket ∈ session.limiter.queue.waiters ↔
          holdsWakeUp session caller = false) ∧
        (caller.place.ticket ∉ session.limiter.queue.waiters →
          (session.limiter.queue.use caller.place.ticket).woken + 1 =
            session.limiter.queue.woken)) ∧
      (∀ front rest, session.limiter.queue.waiters = front :: rest →
        session.limiter.queue.wakeFront = { session.limiter.queue with
          waiters := rest
          woken := session.limiter.queue.woken + 1
          sent := session.limiter.queue.sent ++ [front] }) ∧
      (session.callers ≠ [] → ∀ id ctx,
        session.step (.acquireNow id ctx) = (session, .rejected) ∧
        (∀ cancellable,
          let result := session.step (.acquire id ctx cancellable)
          (result.2 = .pending ∨ result.2 = .refused .timedOut) ∧
            result.1.limiter.inner = session.limiter.inner ∧ result.1.held = session.held) ∧
        ∀ atOnce,
          let result := session.step (.acquireCancelled id ctx atOnce)
          (result.2 = .refused .cancelled ∨ result.2 = .refused .timedOut) ∧
            result.1.limiter.inner = session.limiter.inner ∧ result.1.held = session.held) := by
  intro session
  have lined : Lined session.room := after_lined inner timeout actions
  have books := lined.booksExact
  refine ⟨books, fun caller waits => lined.ticket_or_wakeUp waits,
    fun front rest waits => books.wakeFront_of_cons waits, fun pending id ctx => ?_⟩
  have busy := lined.busy pending
  exact ⟨rejected_of_busy busy id ctx, not_admitted_of_busy busy id ctx,
    cancelled_of_busy busy id ctx⟩

/-- One of two jobs has ended and a caller has been woken, who has not come back yet. The free
permit is that caller's: the queue is empty, and still a newcomer gets nothing. -/
theorem books_are_exact_and_nobody_overtakes_the_woken :
    ∃ gate, Gate.create (⟨2⟩ : Fixed) = .ok gate ∧
      let session : Session Unit (Waiting (Gate Fixed)) Unit Place :=
        (Session.start (create gate none)).after
          [.acquire "a" () false, .acquire "b" () false, .acquire "x" () false,
            .resolve "a" .success]
      session.limiter.inner.available = 1 ∧ session.limiter.queue.waiters = [] ∧
        BooksExact session ∧ session.step (.acquireNow "y" ()) = (session, .rejected) := by
  have created : Gate.create (⟨2⟩ : Fixed) = .ok ⟨⟨2⟩, 2, 2, 0, 0⟩ := rfl
  refine ⟨_, created, ?_⟩
  obtain ⟨exact_books, -, -, overtaken⟩ := books_are_exact_and_nobody_overtakes (C := Unit)
    (⟨⟨2⟩, 2, 2, 0, 0⟩ : Gate Fixed) none
    [.acquire "a" () false, .acquire "b" () false, .acquire "x" () false, .resolve "a" .success]
  exact ⟨rfl, rfl, exact_books, (overtaken (List.cons_ne_nil _ _) "y" ()).1⟩

end Admission.Waiting

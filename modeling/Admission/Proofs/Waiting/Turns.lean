import Admission.Proofs.Session.Invariants
import Admission.Proofs.Waiting.Line
import Admission.Waiting

/-!
# What a step can do to a line of callers

This file says once what the moves of a session do to a limiter which lets callers wait: a few
turns, each of which asks the inner limiter once at most and changes the queue by one operation.
The line is that of the callers' tickets all along, so that everybody who waits has a place in it
and every wake-up has somebody who will use it.
-/

namespace Admission.Waiting

open Session (Room Move Join Stay Mishap)

variable {C L G W : Type} [Limiter C L G W]

section Looks

variable {limiter limiter' : Waiting L} {ctx : C} {now : Nat}

lemma acquireNow_cases {result : Except Fault (Option G)}
    (answer : Limiter.acquireNow limiter ctx = (limiter', result)) :
    (limiter.queue.isBusy = true ∧ limiter' = limiter ∧ result = .ok none) ∨
      ∃ inner, limiter.queue.isBusy = false ∧
        Limiter.acquireNow limiter.inner ctx = (inner, result) ∧
        limiter' = { limiter with inner := inner } := by
  change acquireNow limiter ctx = (limiter', result) at answer
  unfold acquireNow at answer
  split at answer
  · rename_i busy
    simp only [Prod.mk.injEq] at answer
    exact .inl ⟨busy, answer.1.symm, answer.2.symm⟩
  · rename_i quiet
    simp only [Prod.mk.injEq] at answer
    obtain ⟨rfl, rfl⟩ := answer
    exact .inr ⟨_, by simpa using quiet, rfl, rfl⟩

lemma acquireNow_granted {grant : G}
    (answer : Limiter.acquireNow limiter ctx = (limiter', .ok (some grant))) :
    ∃ inner, limiter.queue.isBusy = false ∧
      Limiter.acquireNow limiter.inner ctx = (inner, .ok (some grant)) ∧
      limiter' = { limiter with inner := inner } := by
  rcases acquireNow_cases answer with ⟨-, -, wrong⟩ | found
  · simp at wrong
  · exact found

lemma acquireNow_failed {fault : Fault}
    (answer : Limiter.acquireNow limiter ctx = (limiter', .error fault)) :
    ∃ inner, limiter.queue.isBusy = false ∧
      Limiter.acquireNow limiter.inner ctx = (inner, .error fault) ∧
      limiter' = { limiter with inner := inner } := by
  rcases acquireNow_cases answer with ⟨-, -, wrong⟩ | found
  · simp at wrong
  · exact found

lemma remain_cases {place : Place} {result : Except Fault (Progress G Place)}
    (answer : limiter.remain place now = (limiter', result)) :
    (result = .ok (.waiting place) ∧ limiter' = limiter) ∨
      (result = .ok (.refused .timedOut) ∧ limiter' = limiter.abandon place) := by
  unfold remain at answer
  split at answer
  · split at answer
    · simp only [Prod.mk.injEq] at answer
      exact .inr ⟨answer.2.symm, answer.1.symm⟩
    · simp only [Prod.mk.injEq] at answer
      exact .inl ⟨answer.2.symm, answer.1.symm⟩
  · simp only [Prod.mk.injEq] at answer
    exact .inl ⟨answer.2.symm, answer.1.symm⟩

lemma remain_waiting {place place' : Place}
    (answer : limiter.remain place now =
      (limiter', (.ok (.waiting place') : Except Fault (Progress G Place)))) :
    place' = place ∧ limiter' = limiter := by
  obtain ⟨waits, same⟩ | ⟨wrong, -⟩ := remain_cases answer
  · simp only [Except.ok.injEq, Progress.waiting.injEq] at waits
    exact ⟨waits, same⟩
  · simp at wrong

lemma remain_refused {place : Place} {cause : Refusal}
    (answer : limiter.remain place now =
      (limiter', (.ok (.refused cause) : Except Fault (Progress G Place)))) :
    limiter' = limiter.abandon place := by
  obtain ⟨wrong, -⟩ | ⟨-, left⟩ := remain_cases answer
  · simp at wrong
  · exact left

lemma not_remain_admitted {place : Place} {grant : G} :
    limiter.remain place now ≠ (limiter', .ok (.admitted grant)) := by
  intro answer
  obtain ⟨wrong, -⟩ | ⟨wrong, -⟩ := remain_cases answer <;> simp at wrong

lemma not_remain_error {place : Place} {fault : Fault} :
    limiter.remain place now ≠
      (limiter', (.error fault : Except Fault (Progress G Place))) := by
  intro answer
  obtain ⟨wrong, -⟩ | ⟨wrong, -⟩ := remain_cases answer <;> simp at wrong

/-- The queue test of the first look is that of a look which does not wait. -/
lemma nobody_waits (queue : TicketQueue) :
    (queue.waiters.isEmpty && queue.woken == 0) = !queue.isBusy := by
  unfold TicketQueue.isBusy
  cases queue.waiters.isEmpty <;> cases queue.woken <;> rfl

lemma acquire_eq (limiter : Waiting L) (ctx : C) (now : Nat) :
    Limiter.acquire limiter ctx now =
      match Limiter.acquireNow limiter ctx with
      | (limiter, .error fault) => (limiter, .error fault)
      | (limiter, .ok (some grant)) => (limiter, .ok (.admitted grant))
      | (limiter, .ok none) => limiter.join now := by
  change acquire limiter ctx now = match acquireNow limiter ctx with
    | (limiter, .error fault) => (limiter, .error fault)
    | (limiter, .ok (some grant)) => (limiter, .ok (.admitted grant))
    | (limiter, .ok none) => limiter.join now
  unfold acquire acquireNow
  rw [nobody_waits]
  cases limiter.queue.isBusy with
  | true => rfl
  | false =>
    dsimp only [Bool.not_false]
    obtain ⟨inner, fault | grant⟩ := Limiter.acquireNow limiter.inner ctx
    · rfl
    · cases grant <;> rfl

lemma acquire_cases {result : Except Fault (Progress G Place)}
    (answer : Limiter.acquire limiter ctx now = (limiter', result)) :
    (∃ fault, Limiter.acquireNow limiter ctx = (limiter', .error fault) ∧
        result = .error fault) ∨
      (∃ grant, Limiter.acquireNow limiter ctx = (limiter', .ok (some grant)) ∧
        result = .ok (.admitted grant)) ∨
      ∃ denied place, Limiter.acquireNow limiter ctx = (denied, .ok none) ∧
        place.ticket = denied.queue.nextTicket ∧
        remain { denied with queue := denied.queue.joinBack.1 } place now =
          (limiter', result) := by
  rw [acquire_eq] at answer
  split at answer
  · rename_i found
    simp only [Prod.mk.injEq] at answer
    obtain ⟨rfl, rfl⟩ := answer
    exact .inl ⟨_, found, rfl⟩
  · rename_i found
    simp only [Prod.mk.injEq] at answer
    obtain ⟨rfl, rfl⟩ := answer
    exact .inr (.inl ⟨_, found, rfl⟩)
  · rename_i denied found
    exact .inr (.inr ⟨denied, ⟨_, _⟩, found, rfl, answer⟩)

lemma acquire_failed {fault : Fault}
    (answer : Limiter.acquire limiter ctx now = (limiter', .error fault)) :
    Limiter.acquireNow limiter ctx = (limiter', .error fault) := by
  rcases acquire_cases answer with ⟨_, looks, same⟩ | ⟨_, -, wrong⟩ | ⟨_, _, -, -, remains⟩
  · simp only [Except.error.injEq] at same
    rw [same]
    exact looks
  · simp at wrong
  · exact absurd remains not_remain_error

lemma acquire_admitted {grant : G}
    (answer : Limiter.acquire limiter ctx now = (limiter', .ok (.admitted grant))) :
    Limiter.acquireNow limiter ctx = (limiter', .ok (some grant)) := by
  rcases acquire_cases answer with ⟨_, -, wrong⟩ | ⟨_, looks, same⟩ | ⟨_, _, -, -, remains⟩
  · simp at wrong
  · simp only [Except.ok.injEq, Progress.admitted.injEq] at same
    rw [same]
    exact looks
  · exact absurd remains not_remain_admitted

lemma acquire_refused {cause : Refusal}
    (answer : Limiter.acquire limiter ctx now = (limiter', .ok (.refused cause))) :
    ∃ denied, Limiter.acquireNow limiter ctx = (denied, .ok none) ∧
      limiter' = { denied with
        queue := denied.queue.joinBack.1.leave denied.queue.nextTicket } := by
  rcases acquire_cases answer with ⟨_, -, wrong⟩ | ⟨_, -, wrong⟩ | ⟨denied, place, looks, ticket,
    remains⟩
  · simp at wrong
  · simp at wrong
  · refine ⟨denied, looks, (remain_refused remains).trans ?_⟩
    rw [abandon, ticket]

lemma acquire_waiting {place : Place}
    (answer : Limiter.acquire limiter ctx now = (limiter', .ok (.waiting place))) :
    ∃ denied, Limiter.acquireNow limiter ctx = (denied, .ok none) ∧
      place.ticket = denied.queue.nextTicket ∧
      limiter' = { denied with queue := denied.queue.joinBack.1 } := by
  rcases acquire_cases answer with ⟨_, -, wrong⟩ | ⟨_, -, wrong⟩ | ⟨denied, joined, looks, ticket,
    remains⟩
  · simp at wrong
  · simp at wrong
  · have stays := remain_waiting remains
    exact ⟨denied, looks, stays.1 ▸ ticket, stays.2⟩

/-- A caller without a wake-up only looks at the clock. One with a wake-up asks the inner limiter
and, if that denies it, takes a new ticket at the front. -/
lemma poll_cases {place : Place} {result : Except Fault (Progress G Place)}
    (answer : Limiter.poll limiter ctx place now = (limiter', result)) :
    (place.ticket ∉ limiter.queue.sent ∧ limiter.remain place now = (limiter', result)) ∨
      (place.ticket ∈ limiter.queue.sent ∧ ∃ inner,
        ((∃ fault, Limiter.acquireNow limiter.inner ctx = (inner, .error fault) ∧
            result = .error fault ∧ limiter' =
              { limiter with inner := inner, queue := limiter.queue.use place.ticket }) ∨
          (∃ grant, Limiter.acquireNow limiter.inner ctx = (inner, .ok (some grant)) ∧
            result = .ok (.admitted grant) ∧ limiter' =
              { limiter with inner := inner, queue := limiter.queue.use place.ticket }) ∨
          (Limiter.acquireNow limiter.inner ctx = (inner, .ok none) ∧
            remain { limiter with
                inner := inner
                queue := (limiter.queue.use place.ticket).joinFront.1 }
              { place with ticket := limiter.queue.nextTicket } now = (limiter', result)))) := by
  change poll limiter ctx place now = (limiter', result) at answer
  unfold poll at answer
  split at answer
  · rename_i sent
    right
    refine ⟨TicketQueue.isSent_iff.mp sent, ?_⟩
    dsimp only at answer
    split at answer
    · rename_i inner fault found
      simp only [Prod.mk.injEq] at answer
      exact ⟨inner, .inl ⟨fault, found, answer.2.symm, answer.1.symm⟩⟩
    · rename_i inner grant found
      simp only [Prod.mk.injEq] at answer
      exact ⟨inner, .inr (.inl ⟨grant, found, answer.2.symm, answer.1.symm⟩)⟩
    · rename_i inner found
      exact ⟨inner, .inr (.inr ⟨found, answer⟩)⟩
  · rename_i asleep
    left
    exact ⟨fun sent => asleep (TicketQueue.isSent_iff.mpr sent), answer⟩

lemma poll_failed {place : Place} {fault : Fault}
    (answer : Limiter.poll limiter ctx place now = (limiter', .error fault)) :
    place.ticket ∈ limiter.queue.sent ∧ ∃ inner,
      Limiter.acquireNow limiter.inner ctx = (inner, .error fault) ∧
      limiter' = { limiter with inner := inner, queue := limiter.queue.use place.ticket } := by
  rcases poll_cases answer with ⟨-, remains⟩ | ⟨sent, inner, ⟨_, fails, same, left⟩ |
    ⟨_, -, wrong, -⟩ | ⟨-, remains⟩⟩
  · exact absurd remains not_remain_error
  · simp only [Except.error.injEq] at same
    rw [same]
    exact ⟨sent, inner, fails, left⟩
  · simp at wrong
  · exact absurd remains not_remain_error

lemma poll_admitted {place : Place} {grant : G}
    (answer : Limiter.poll limiter ctx place now = (limiter', .ok (.admitted grant))) :
    place.ticket ∈ limiter.queue.sent ∧ ∃ inner,
      Limiter.acquireNow limiter.inner ctx = (inner, .ok (some grant)) ∧
      limiter' = { limiter with inner := inner, queue := limiter.queue.use place.ticket } := by
  rcases poll_cases answer with ⟨-, remains⟩ | ⟨sent, inner, ⟨_, -, wrong, -⟩ |
    ⟨_, grants, same, left⟩ | ⟨-, remains⟩⟩
  · exact absurd remains not_remain_admitted
  · simp at wrong
  · simp only [Except.ok.injEq, Progress.admitted.injEq] at same
    rw [same]
    exact ⟨sent, inner, grants, left⟩
  · exact absurd remains not_remain_admitted

lemma poll_refused {place : Place} {cause : Refusal}
    (answer : Limiter.poll limiter ctx place now = (limiter', .ok (.refused cause))) :
    (place.ticket ∉ limiter.queue.sent ∧ limiter' = limiter.abandon place) ∨
      (place.ticket ∈ limiter.queue.sent ∧ ∃ inner,
        Limiter.acquireNow limiter.inner ctx = (inner, .ok none) ∧
        limiter' = abandon { limiter with
            inner := inner
            queue := (limiter.queue.use place.ticket).joinFront.1 }
          { place with ticket := limiter.queue.nextTicket }) := by
  rcases poll_cases answer with ⟨asleep, remains⟩ | ⟨sent, inner, ⟨_, -, wrong, -⟩ |
    ⟨_, -, wrong, -⟩ | ⟨denies, remains⟩⟩
  · exact .inl ⟨asleep, remain_refused remains⟩
  · simp at wrong
  · simp at wrong
  · exact .inr ⟨sent, inner, denies, remain_refused remains⟩

lemma poll_waiting {place place' : Place}
    (answer : Limiter.poll limiter ctx place now = (limiter', .ok (.waiting place'))) :
    (place.ticket ∉ limiter.queue.sent ∧ place' = place ∧ limiter' = limiter) ∨
      (place.ticket ∈ limiter.queue.sent ∧ ∃ inner,
        Limiter.acquireNow limiter.inner ctx = (inner, .ok none) ∧
        place' = { place with ticket := limiter.queue.nextTicket } ∧
        limiter' = { limiter with
          inner := inner
          queue := (limiter.queue.use place.ticket).joinFront.1 }) := by
  rcases poll_cases answer with ⟨asleep, remains⟩ | ⟨sent, inner, ⟨_, -, wrong, -⟩ |
    ⟨_, -, wrong, -⟩ | ⟨denies, remains⟩⟩
  · exact .inl ⟨asleep, remain_waiting remains⟩
  · simp at wrong
  · simp at wrong
  · exact .inr ⟨sent, inner, denies, remain_waiting remains⟩

lemma release_fine {grant : G} {outcome : Outcome} {latency : Nat}
    (answer : Limiter.release C limiter grant outcome latency = (limiter', none)) :
    ∃ inner, Limiter.release C limiter.inner grant outcome latency = (inner, none) ∧
      limiter' = { limiter with inner := inner, queue := limiter.queue.wakeFront } := by
  change release (C := C) limiter grant outcome latency = (limiter', none) at answer
  unfold release at answer
  split at answer
  · simp at answer
  · rename_i inner releases
    simp only [Prod.mk.injEq, and_true] at answer
    exact ⟨inner, releases, answer.symm⟩

lemma release_failed {grant : G} {outcome : Outcome} {latency : Nat} {fault : Fault}
    (answer : Limiter.release C limiter grant outcome latency = (limiter', some fault)) :
    ∃ inner, Limiter.release C limiter.inner grant outcome latency = (inner, some fault) ∧
      limiter' = { limiter with inner := inner } := by
  change release (C := C) limiter grant outcome latency = (limiter', some fault) at answer
  unfold release at answer
  split at answer
  · rename_i inner other fails
    simp only [Prod.mk.injEq, Option.some.injEq] at answer
    rw [← answer.2]
    exact ⟨inner, fails, answer.1.symm⟩
  · simp at answer

end Looks

variable (C)

/-- One change of a line of callers, apart from callers who join it or take another place in it. -/
inductive Turn : Room (Waiting L) Place → Room (Waiting L) Place → Prop
  | enter {limiter : Waiting L} {inner places running} {ctx : C} {grant}
    (quiet : limiter.queue.isBusy = false)
    (grants : Limiter.acquireNow limiter.inner ctx = (inner, .ok (some grant))) :
    Turn ⟨limiter, places, running⟩ ⟨{ limiter with inner := inner }, places, running + 1⟩
  | deny {limiter : Waiting L} {inner places running} {ctx : C}
    (quiet : limiter.queue.isBusy = false)
    (denies : Limiter.acquireNow limiter.inner ctx = (inner, .ok none)) :
    Turn ⟨limiter, places, running⟩ ⟨{ limiter with inner := inner }, places, running⟩
  /-- The number of a ticket goes by. -/
  | skip {limiter : Waiting L} {places running} :
    Turn ⟨limiter, places, running⟩
      ⟨{ limiter with queue := { limiter.queue with nextTicket := limiter.queue.nextTicket + 1 } },
        places, running⟩
  | leave {limiter : Waiting L} {before place after running} :
    Turn ⟨limiter, before ++ place :: after, running⟩
      ⟨limiter.abandon place, before ++ after, running⟩
  | letIn {limiter : Waiting L} {inner before after running} {place : Place} {ctx : C} {grant}
    (sent : place.ticket ∈ limiter.queue.sent)
    (grants : Limiter.acquireNow limiter.inner ctx = (inner, .ok (some grant))) :
    Turn ⟨limiter, before ++ place :: after, running⟩
      ⟨{ limiter with inner := inner, queue := limiter.queue.use place.ticket },
        before ++ after, running + 1⟩
  /-- A wake-up is used in vain, and the caller goes away. -/
  | lapse {limiter : Waiting L} {inner before after running} {place : Place} {ctx : C}
    (sent : place.ticket ∈ limiter.queue.sent)
    (denies : Limiter.acquireNow limiter.inner ctx = (inner, .ok none)) :
    Turn ⟨limiter, before ++ place :: after, running⟩
      ⟨{ limiter with inner := inner, queue := limiter.queue.use place.ticket },
        before ++ after, running⟩
  | release {limiter : Waiting L} {inner places running grant outcome latency}
    (releases : Limiter.release C limiter.inner grant outcome latency = (inner, none)) :
    Turn ⟨limiter, places, running + 1⟩
      ⟨{ limiter with inner := inner, queue := limiter.queue.wakeFront }, places, running⟩

/-- A caller joins at the back, behind others or because the inner limiter has nothing to give. -/
inductive Arrival : Room (Waiting L) Place → Room (Waiting L) Place → Prop
  | behind {limiter : Waiting L} {places place running} (busy : limiter.queue.isBusy = true)
    (ticket : place.ticket = limiter.queue.nextTicket) :
    Arrival ⟨limiter, places, running⟩
      ⟨{ limiter with queue := limiter.queue.joinBack.1 }, places ++ [place], running⟩
  | denied {limiter : Waiting L} {inner places place running} {ctx : C}
    (quiet : limiter.queue.isBusy = false)
    (denies : Limiter.acquireNow limiter.inner ctx = (inner, .ok none))
    (ticket : place.ticket = limiter.queue.nextTicket) :
    Arrival ⟨limiter, places, running⟩
      ⟨{ limiter with inner := inner, queue := limiter.queue.joinBack.1 },
        places ++ [place], running⟩

/-- A caller who was woken in vain is put back at the front. -/
inductive PutBack : Room (Waiting L) Place → Room (Waiting L) Place → Prop
  | putBack {limiter : Waiting L} {inner before after running} {place : Place} {ctx : C}
    (sent : place.ticket ∈ limiter.queue.sent)
    (denies : Limiter.acquireNow limiter.inner ctx = (inner, .ok none)) :
    PutBack ⟨limiter, before ++ place :: after, running⟩
      ⟨{ limiter with
          inner := inner
          queue := (limiter.queue.use place.ticket).joinFront.1 },
        before ++ { place with ticket := limiter.queue.nextTicket } :: after, running⟩

/-- The inner limiter meets a fault. -/
inductive Failure : Room (Waiting L) Place → Room (Waiting L) Place → Prop
  | enter {limiter : Waiting L} {inner places running} {ctx : C} {fault}
    (quiet : limiter.queue.isBusy = false)
    (fails : Limiter.acquireNow limiter.inner ctx = (inner, .error fault)) :
    Failure ⟨limiter, places, running⟩ ⟨{ limiter with inner := inner }, places, running⟩
  | look {limiter : Waiting L} {inner before after running} {place : Place} {ctx : C} {fault}
    (sent : place.ticket ∈ limiter.queue.sent)
    (fails : Limiter.acquireNow limiter.inner ctx = (inner, .error fault)) :
    Failure ⟨limiter, before ++ place :: after, running⟩
      ⟨{ limiter with inner := inner, queue := limiter.queue.use place.ticket },
        before ++ after, running⟩
  | release {limiter : Waiting L} {inner places running grant outcome latency fault}
    (fails : Limiter.release C limiter.inner grant outcome latency = (inner, some fault)) :
    Failure ⟨limiter, places, running + 1⟩ ⟨{ limiter with inner := inner }, places, running⟩

variable {C}

/-- The queue is sound, and its line is that of the callers' tickets. -/
structure Lined (room : Room (Waiting L) Place) : Prop where
  sound : room.limiter.queue.Sound
  callers : room.limiter.queue.line.Perm (room.places.map Place.ticket)

lemma erase_middle_perm (before after : List Nat) (ticket : Nat) :
    ((before ++ ticket :: after).erase ticket).Perm (before ++ after) := by
  have moved : (before ++ ticket :: after).Perm (ticket :: (before ++ after)) := List.perm_middle
  have erased := moved.erase ticket
  rwa [List.erase_cons_head] at erased

lemma Lined.mem {limiter : Waiting L} {before place after running}
    (lined : Lined ⟨limiter, before ++ place :: after, running⟩) :
    place.ticket ∈ limiter.queue.line := by
  rw [lined.callers.mem_iff]
  simp

lemma Lined.caller {session : Session C (Waiting L) G Place} (lined : Lined session.room)
    {ticket : Nat} (mem : ticket ∈ session.limiter.queue.line) :
    ∃ caller ∈ session.callers, caller.place.ticket = ticket := by
  have callers := lined.callers.mem_iff.mp mem
  simpa [Session.room] using callers

lemma Lined.without {limiter left : Waiting L} {before place after running running'}
    (lined : Lined ⟨limiter, before ++ place :: after, running⟩) (sound : left.queue.Sound)
    (missing : left.queue.line = limiter.queue.line.erase place.ticket) :
    Lined ⟨left, before ++ after, running'⟩ := by
  refine ⟨sound, ?_⟩
  have callers := lined.callers.erase place.ticket
  simp only [List.map_append, List.map_cons] at callers ⊢
  rw [missing]
  exact callers.trans (erase_middle_perm _ _ _)

lemma Lined.same {limiter other : Waiting L} {places running running'}
    (lined : Lined ⟨limiter, places, running⟩) (sound : other.queue.Sound)
    (same : other.queue.line = limiter.queue.line) : Lined ⟨other, places, running'⟩ := by
  refine ⟨sound, ?_⟩
  rw [same]
  exact lined.callers

lemma Lined.joined {limiter joined : Waiting L} {places place running running'}
    (lined : Lined ⟨limiter, places, running⟩) (queue : joined.queue = limiter.queue.joinBack.1)
    (ticket : place.ticket = limiter.queue.nextTicket) :
    Lined ⟨joined, places ++ [place], running'⟩ := by
  refine ⟨?_, ?_⟩
  · rw [queue]
    exact lined.sound.joinBack
  · simp only [queue, TicketQueue.joinBack_line, List.map_append, List.map_cons, List.map_nil,
      ticket]
    exact lined.callers.append_right _

section Lines

variable {before after : Room (Waiting L) Place}

lemma Lined.turn (lined : Lined before) (turn : Turn C before after) : Lined after := by
  cases turn with
  | enter quiet grants => exact lined.same lined.sound rfl
  | deny quiet denies => exact lined.same lined.sound rfl
  | skip => exact lined.same lined.sound.skip rfl
  | leave => exact lined.without (lined.sound.leave lined.mem) (lined.sound.leave_line lined.mem)
  | letIn sent grants => exact lined.without (lined.sound.use sent) (lined.sound.use_line sent)
  | lapse sent denies => exact lined.without (lined.sound.use sent) (lined.sound.use_line sent)
  | release releases =>
    exact lined.same lined.sound.wakeFront lined.sound.wakeFront_line

lemma Lined.arrival (lined : Lined before) (arrival : Arrival C before after) : Lined after := by
  cases arrival with
  | behind busy ticket => exact lined.joined rfl ticket
  | denied quiet denies ticket => exact lined.joined rfl ticket

lemma Lined.putBack (lined : Lined before) (back : PutBack C before after) : Lined after := by
  obtain ⟨sent, denies⟩ := back
  rename_i limiter inner before after running place ctx
  have left : Lined ⟨{ limiter with queue := limiter.queue.use place.ticket },
      before ++ after, running⟩ :=
    lined.without (lined.sound.use sent) (lined.sound.use_line sent)
  refine ⟨left.sound.joinFront, ?_⟩
  have callers := left.callers
  simp only [TicketQueue.joinFront_line, List.map_append, List.map_cons] at callers ⊢
  exact List.perm_middle.trans ((callers.cons _).trans List.perm_middle.symm)

lemma Lined.failure (lined : Lined before) (failure : Failure C before after) : Lined after := by
  cases failure with
  | enter quiet fails => exact lined.same lined.sound rfl
  | look sent fails => exact lined.without (lined.sound.use sent) (lined.sound.use_line sent)
  | release fails => exact lined.same lined.sound rfl

lemma turns_of_giving_up {limiter : Waiting L} {inner before after running} {place : Place}
    {ctx : C} (sent : place.ticket ∈ limiter.queue.sent)
    (denies : Limiter.acquireNow limiter.inner ctx = (inner, .ok none)) :
    Relation.ReflTransGen (Turn C) ⟨limiter, before ++ place :: after, running⟩
      ⟨abandon { limiter with
          inner := inner
          queue := (limiter.queue.use place.ticket).joinFront.1 }
        { place with ticket := limiter.queue.nextTicket }, before ++ after, running⟩ := by
  have skipped := TicketQueue.joinFront_leave (limiter.queue.use place.ticket)
  refine .tail (.single (.lapse sent denies)) ?_
  unfold abandon
  change Turn C _ ⟨{ limiter with
    inner := inner
    queue := (limiter.queue.use place.ticket).joinFront.1.leave
      (limiter.queue.use place.ticket).nextTicket }, before ++ after, running⟩
  rw [skipped]
  exact .skip

/-- Every move is made of turns. -/
theorem Lined.turns (lined : Lined before) (move : Move C before after) :
    Relation.ReflTransGen (Turn C) before after := by
  cases move with
  | enter answer =>
    obtain ⟨inner, quiet, grants, rfl⟩ := acquireNow_granted answer
    exact .single (.enter quiet grants)
  | deny answer =>
    rcases acquireNow_cases answer with ⟨-, rfl, -⟩ | ⟨inner, quiet, denies, rfl⟩
    · exact .refl
    · exact .single (.deny quiet denies)
  | enterFirst answer =>
    obtain ⟨inner, quiet, grants, rfl⟩ := acquireNow_granted (acquire_admitted answer)
    exact .single (.enter quiet grants)
  | refuse answer =>
    obtain ⟨denied, looks, rfl⟩ := acquire_refused answer
    -- A ticket which is taken and given up at once leaves nothing but its number.
    rcases acquireNow_cases looks with ⟨-, rfl, -⟩ | ⟨inner, quiet, denies, rfl⟩
    · rw [lined.sound.joinBack_leave]
      exact .single .skip
    · rw [lined.sound.joinBack_leave]
      exact .tail (.single (.deny quiet denies)) .skip
  | letIn answer =>
    obtain ⟨sent, inner, grants, rfl⟩ := poll_admitted answer
    exact .single (.letIn sent grants)
  | expire answer =>
    rcases poll_refused answer with ⟨-, rfl⟩ | ⟨sent, inner, denies, rfl⟩
    · exact .single .leave
    · exact turns_of_giving_up sent denies
  | giveUp answer =>
    rcases poll_waiting answer with ⟨-, rfl, rfl⟩ | ⟨sent, inner, denies, rfl, rfl⟩
    · exact .single .leave
    · exact turns_of_giving_up sent denies
  | abandon => exact .single .leave
  | release answer =>
    obtain ⟨inner, releases, rfl⟩ := release_fine answer
    exact .single (.release releases)

/-- Whoever joins arrives at the back. -/
theorem arrival_of_join (join : Join C before after) : Arrival C before after := by
  cases join with
  | join answer =>
    obtain ⟨denied, looks, ticket, rfl⟩ := acquire_waiting answer
    rcases acquireNow_cases looks with ⟨busy, rfl, -⟩ | ⟨inner, quiet, denies, rfl⟩
    · exact .behind busy ticket
    · exact .denied quiet denies ticket

/-- Whoever goes on to wait has not been woken or is put back. -/
theorem putBack_of_stay (stay : Stay C before after) : after = before ∨ PutBack C before after := by
  cases stay with
  | stay answer =>
    rcases poll_waiting answer with ⟨-, rfl, rfl⟩ | ⟨sent, inner, denies, rfl, rfl⟩
    · exact .inl rfl
    · exact .inr (.putBack sent denies)

theorem failure_of_mishap {fault : Fault} (mishap : Mishap C fault before after) :
    Failure C before after := by
  cases mishap with
  | acquireNow answer =>
    obtain ⟨inner, quiet, fails, rfl⟩ := acquireNow_failed answer
    exact .enter quiet fails
  | acquire answer =>
    obtain ⟨inner, quiet, fails, rfl⟩ := acquireNow_failed (acquire_failed answer)
    exact .enter quiet fails
  | poll answer =>
    obtain ⟨sent, inner, fails, rfl⟩ := poll_failed answer
    exact .look sent fails
  | release answer =>
    obtain ⟨inner, fails, rfl⟩ := release_failed answer
    exact .release fails

end Lines

section Invariants

variable {I : Room (Waiting L) Place → Prop}
  (turn : ∀ {before after}, Turn C before after → Lined before → I before → I after)

include turn

lemma move_keeps {before after : Room (Waiting L) Place} (move : Move C before after)
    (now : Lined before ∧ I before) : Lined after ∧ I after := by
  have turns := now.1.turns move
  clear move
  induction turns with
  | refl => exact now
  | tail _ last ih => exact ⟨ih.1.turn last, turn last ih.1 ih.2⟩

variable (back : ∀ {before after}, PutBack C before after → Lined before → I before → I after)

include back

omit turn in
lemma stay_keeps {before after : Room (Waiting L) Place} (stay : Stay C before after)
    (now : Lined before ∧ I before) : Lined after ∧ I after := by
  obtain rfl | put := putBack_of_stay stay
  · exact now
  · exact ⟨now.1.putBack put, back put now.1 now.2⟩

/-- What is kept by the turns, by those who join and by those who are put back is kept by every
step, up to a mishap if the step meets a fault. -/
theorem step_ends {session : Session C (Waiting L) G Place} (kept : session.Kept)
    (now : Lined session.room ∧ I session.room)
    (arrival : ∀ {next}, Arrival C session.room next → I next) (action : Session.Action C) :
    Session.Ends C (fun room => Lined room ∧ I room) (session.step action) ∧
      (session.step action).1.Kept := by
  apply Session.step_ends (move_keeps turn) (stay_keeps back) kept now
  intro next join
  have arrives := arrival_of_join join
  exact ⟨now.1.arrival arrives, arrival arrives⟩

variable
  (arrival : ∀ {before after}, Arrival C before after → Lined before → I before → I after)

include arrival

omit turn back in
lemma join_keeps {before after : Room (Waiting L) Place} (join : Join C before after)
    (now : Lined before ∧ I before) : Lined after ∧ I after := by
  have arrives := arrival_of_join join
  exact ⟨now.1.arrival arrives, arrival arrives now.1 now.2⟩

/-- In a run without faults failures do not matter. -/
theorem after_keeps_faultless {session : Session C (Waiting L) G Place} (kept : session.Kept)
    (now : Lined session.room ∧ I session.room) {actions : List (Session.Action C)}
    (smooth : session.Faultless actions) :
    (Lined (session.after actions).room ∧ I (session.after actions).room) ∧
      (session.after actions).Kept :=
  Session.after_keeps_faultless (I := fun room => Lined room ∧ I room) (move_keeps turn)
    (stay_keeps back) (join_keeps arrival) kept now smooth

/-- Where nothing can fail a run meets no fault. -/
theorem faultless_of_no_failure
    (no_failure : ∀ {before after}, Lined before → I before → ¬Failure C before after)
    {session : Session C (Waiting L) G Place} (kept : session.Kept)
    (now : Lined session.room ∧ I session.room) (actions : List (Session.Action C)) :
    session.Faultless actions :=
  Session.faultless_of_no_mishap (I := fun room => Lined room ∧ I room) (move_keeps turn)
    (stay_keeps back) (join_keeps arrival)
    (fun now mishap => no_failure now.1 now.2 (failure_of_mishap mishap)) kept now actions

end Invariants

lemma create_lined (inner : L) (timeout : Option Nat) :
    Lined (Session.start (create inner timeout) : Session C (Waiting L) G Place).room :=
  ⟨TicketQueue.empty_sound, List.Perm.nil⟩

end Admission.Waiting

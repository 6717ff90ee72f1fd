import Admission.Waiting.Queue
import Mathlib.Data.List.Nodup
import Mathlib.Tactic.Lemma

/-!
# The line

Everybody in a queue of tickets stands in one line: first the tickets whose wake-up is on its way,
then those which wait. Their callers, and nobody else, are there to receive a wake-up, so none which
is sent gets lost. Waking somebody does not change the line, and whoever goes away is the only one
missing from it.
-/

namespace Admission.TicketQueue

/-- The tickets whose wake-up is on its way, and behind them those which wait. -/
def line (queue : TicketQueue) : List Nat := queue.sent ++ queue.waiters

/-- The wake-ups are counted, nobody is in the line twice, new tickets are new, and whoever is in
the line is there to be woken. -/
structure Sound (queue : TicketQueue) : Prop where
  woken : queue.woken = queue.sent.length
  distinct : queue.line.Nodup
  below : ∀ ticket ∈ queue.line, ticket < queue.nextTicket
  attended : queue.attended.Perm queue.line

variable {queue : TicketQueue} {ticket : Nat}

lemma isSent_iff : queue.isSent ticket = true ↔ ticket ∈ queue.sent := by
  simp [isSent]

lemma empty_sound : empty.Sound := ⟨rfl, List.nodup_nil, by simp [empty, line], .refl _⟩

lemma isBusy_eq_false_iff :
    queue.isBusy = false ↔ queue.waiters = [] ∧ queue.woken = 0 := by
  simp [isBusy]

lemma isBusy_iff : queue.isBusy = true ↔ queue.waiters ≠ [] ∨ queue.woken ≠ 0 := by
  simp [isBusy, Nat.pos_iff_ne_zero]

lemma Sound.fresh (sound : queue.Sound) : queue.nextTicket ∉ queue.line :=
  fun mem => absurd (sound.below _ mem) (Nat.lt_irrefl _)

lemma Sound.sent_nodup (sound : queue.Sound) : queue.sent.Nodup :=
  (List.nodup_append.mp sound.distinct).1

lemma Sound.not_sent (sound : queue.Sound) (waits : ticket ∈ queue.waiters) :
    ticket ∉ queue.sent := by
  intro sent
  exact (List.nodup_append.mp sound.distinct).2.2 ticket sent ticket waits rfl

section Waking

lemma wakeFront_of_nil (nobody : queue.waiters = []) : queue.wakeFront = queue := by
  rw [wakeFront, nobody, wakeFirst, ← nobody]

lemma wakeFront_of_attended {rest : List Nat} (waits : queue.waiters = ticket :: rest)
    (there : ticket ∈ queue.attended) :
    queue.wakeFront = { queue with
      waiters := rest, woken := queue.woken + 1, sent := queue.sent ++ [ticket] } := by
  rw [wakeFront, waits, wakeFirst, if_pos (List.contains_iff_mem.mpr there)]

/-- The wake-up for the front of the line always gets to its caller. -/
lemma Sound.wakeFront_of_cons (sound : queue.Sound) {rest : List Nat}
    (waits : queue.waiters = ticket :: rest) :
    queue.wakeFront = { queue with
      waiters := rest, woken := queue.woken + 1, sent := queue.sent ++ [ticket] } := by
  apply wakeFront_of_attended waits
  exact sound.attended.mem_iff.mpr (List.mem_append_right _ (waits ▸ List.mem_cons_self))

/-- Somebody is woken, or nobody is left to be. -/
lemma wakeFirst_cases (queue : TicketQueue) (tickets : List Nat) :
    (queue.wakeFirst tickets).waiters = [] ∧ (queue.wakeFirst tickets).woken = queue.woken ∨
      tickets ≠ [] ∧ (queue.wakeFirst tickets).woken = queue.woken + 1 ∧
        (queue.wakeFirst tickets).sent ≠ [] := by
  induction tickets with
  | nil => exact .inl ⟨rfl, rfl⟩
  | cons first rest ih =>
    unfold wakeFirst
    split
    · exact .inr ⟨List.cons_ne_nil _ _, rfl, by simp⟩
    · rcases ih with nobody | ⟨-, woken⟩
      · exact .inl nobody
      · exact .inr ⟨List.cons_ne_nil _ _, woken⟩

/-- Where somebody still waits, somebody was woken. -/
lemma wakeFront_woken_of_waits (waits : queue.wakeFront.waiters ≠ []) :
    queue.waiters ≠ [] ∧ queue.wakeFront.woken = queue.woken + 1 := by
  rcases queue.wakeFirst_cases queue.waiters with ⟨nobody, -⟩ | ⟨waited, woken, -⟩
  · exact absurd nobody waits
  · exact ⟨waited, woken⟩

lemma wakeFront_woken_le (queue : TicketQueue) : queue.wakeFront.woken ≤ queue.woken + 1 := by
  rcases queue.wakeFirst_cases queue.waiters with ⟨-, woken⟩ | ⟨-, woken, -⟩
  · exact Nat.le_succ_of_le (Nat.le_of_eq woken)
  · exact Nat.le_of_eq woken

lemma Sound.wakeFront_line (sound : queue.Sound) : queue.wakeFront.line = queue.line := by
  cases waits : queue.waiters with
  | nil => rw [wakeFront_of_nil waits]
  | cons first rest =>
    rw [sound.wakeFront_of_cons waits, line, line, waits, List.append_assoc, List.singleton_append]

lemma Sound.wakeFront (sound : queue.Sound) : queue.wakeFront.Sound := by
  cases waits : queue.waiters with
  | nil =>
    rw [wakeFront_of_nil waits]
    exact sound
  | cons first rest =>
    have same := sound.wakeFront_line
    rw [sound.wakeFront_of_cons waits] at same ⊢
    refine ⟨?_, ?_, ?_, ?_⟩
    · simp [sound.woken]
    · rw [same]
      exact sound.distinct
    · rw [same]
      exact sound.below
    · rw [same]
      exact sound.attended

end Waking

section Joining

lemma joinBack_line (queue : TicketQueue) :
    queue.joinBack.1.line = queue.line ++ [queue.nextTicket] := by
  simp [joinBack, line]

lemma joinFront_line (queue : TicketQueue) :
    queue.joinFront.1.line = queue.sent ++ queue.nextTicket :: queue.waiters := rfl

lemma Sound.joinBack (sound : queue.Sound) : queue.joinBack.1.Sound := by
  refine ⟨sound.woken, ?_, ?_, ?_⟩
  · rw [joinBack_line, List.nodup_append]
    refine ⟨sound.distinct, List.nodup_singleton _, ?_⟩
    rintro old mem new new_mem rfl
    rw [List.mem_singleton.mp new_mem] at mem
    exact sound.fresh mem
  · intro ticket mem
    rw [joinBack_line, List.mem_append, List.mem_singleton] at mem
    rcases mem with mem | rfl
    · exact Nat.lt_succ_of_lt (sound.below ticket mem)
    · exact Nat.lt_succ_self _
  · rw [joinBack_line]
    exact (sound.attended.cons _).trans (List.perm_append_singleton _ _).symm

lemma Sound.joinFront (sound : queue.Sound) : queue.joinFront.1.Sound := by
  refine ⟨sound.woken, ?_, ?_, ?_⟩
  · rw [joinFront_line, List.nodup_middle, List.nodup_cons]
    exact ⟨sound.fresh, sound.distinct⟩
  · intro ticket mem
    rw [joinFront_line, List.mem_append, List.mem_cons] at mem
    rcases mem with mem | rfl | mem
    · exact Nat.lt_succ_of_lt (sound.below ticket (List.mem_append_left _ mem))
    · exact Nat.lt_succ_self _
    · exact Nat.lt_succ_of_lt (sound.below ticket (List.mem_append_right _ mem))
  · rw [joinFront_line]
    exact (sound.attended.cons _).trans List.perm_middle.symm

lemma joinFront_leave (queue : TicketQueue) :
    queue.joinFront.1.leave queue.nextTicket =
      { queue with nextTicket := queue.nextTicket + 1 } := by
  simp [leave, joinFront, unattend]

lemma Sound.joinBack_leave (sound : queue.Sound) :
    queue.joinBack.1.leave queue.nextTicket =
      { queue with nextTicket := queue.nextTicket + 1 } := by
  have absent : queue.nextTicket ∉ queue.waiters :=
    fun mem => sound.fresh (List.mem_append_right _ mem)
  simp [TicketQueue.leave, TicketQueue.joinBack, unattend, List.erase_append_right _ absent]

lemma Sound.skip (sound : queue.Sound) :
    ({ queue with nextTicket := queue.nextTicket + 1 } : TicketQueue).Sound :=
  ⟨sound.woken, sound.distinct, fun ticket mem => Nat.lt_succ_of_lt (sound.below ticket mem),
    sound.attended⟩

end Joining

section Leaving

lemma Sound.woken_pos (sound : queue.Sound) (sent : ticket ∈ queue.sent) : 0 < queue.woken := by
  rw [sound.woken]
  exact List.length_pos_of_mem sent

@[simp] lemma use_waiters : (queue.use ticket).waiters = queue.waiters := rfl

@[simp] lemma use_nextTicket : (queue.use ticket).nextTicket = queue.nextTicket := rfl

lemma Sound.use_woken (sound : queue.Sound) (sent : ticket ∈ queue.sent) :
    (queue.use ticket).woken + 1 = queue.woken := by
  have promised := sound.woken_pos sent
  have used : (queue.use ticket).woken = queue.woken - 1 := rfl
  omega

lemma Sound.use_eq (sound : queue.Sound) (ticket : Nat) :
    queue.use ticket =
      { queue with
        sent := queue.sent.erase ticket
        woken := queue.woken - 1
        attended := queue.attended.erase ticket } := by
  have erased : queue.sent.filter (· ≠ ticket) = queue.sent.erase ticket := by
    rw [sound.sent_nodup.erase_eq_filter]
    exact List.filter_congr fun other _ => by simp [bne, beq_eq_decide]
  rw [use, erased]
  rfl

lemma Sound.use_line (sound : queue.Sound) (sent : ticket ∈ queue.sent) :
    (queue.use ticket).line = queue.line.erase ticket := by
  rw [sound.use_eq, line, line, List.erase_append_left _ sent]

lemma Sound.of_erase {left : TicketQueue} (sound : queue.Sound)
    (woken : left.woken = left.sent.length) (missing : left.line = queue.line.erase ticket)
    (numbers : left.nextTicket = queue.nextTicket)
    (gone : left.attended = queue.attended.erase ticket) : left.Sound := by
  refine ⟨woken, ?_, ?_, ?_⟩
  · rw [missing]
    exact sound.distinct.erase ticket
  · intro other mem
    rw [missing] at mem
    rw [numbers]
    exact sound.below other (List.mem_of_mem_erase mem)
  · rw [missing, gone]
    exact sound.attended.erase ticket

lemma Sound.use (sound : queue.Sound) (sent : ticket ∈ queue.sent) : (queue.use ticket).Sound := by
  apply sound.of_erase _ (sound.use_line sent) rfl rfl
  rw [sound.use_eq]
  simp [List.length_erase_of_mem sent, sound.woken]

lemma leave_of_waits (waits : ticket ∈ queue.waiters) :
    queue.leave ticket = { queue with
      waiters := queue.waiters.erase ticket, attended := queue.attended.erase ticket } := by
  simp [leave, waits, unattend]

lemma Sound.leave_of_sent (sound : queue.Sound) (sent : ticket ∈ queue.sent) :
    queue.leave ticket = (queue.use ticket).wakeFront := by
  have absent : ticket ∉ queue.waiters := fun waits => sound.not_sent waits sent
  simp [leave, absent]

lemma Sound.leave_line (sound : queue.Sound) (mem : ticket ∈ queue.line) :
    (queue.leave ticket).line = queue.line.erase ticket := by
  rcases List.mem_append.mp mem with sent | waits
  · rw [sound.leave_of_sent sent, (sound.use sent).wakeFront_line, sound.use_line sent]
  · rw [leave_of_waits waits, line, line, List.erase_append_right _ (sound.not_sent waits)]

lemma Sound.leave (sound : queue.Sound) (mem : ticket ∈ queue.line) :
    (queue.leave ticket).Sound := by
  rcases List.mem_append.mp mem with sent | waits
  · rw [sound.leave_of_sent sent]
    exact (sound.use sent).wakeFront
  · apply sound.of_erase _ (sound.leave_line mem)
    · rw [leave_of_waits waits]
    · rw [leave_of_waits waits]
    · rw [leave_of_waits waits]
      exact sound.woken

lemma Sound.leave_woken (sound : queue.Sound) (mem : ticket ∈ queue.line) :
    (queue.leave ticket).woken ≤ queue.woken ∧
      ((queue.leave ticket).waiters ≠ [] →
        queue.waiters ≠ [] ∧ (queue.leave ticket).woken = queue.woken) := by
  rcases List.mem_append.mp mem with sent | waits
  · have used := sound.use_woken sent
    have woken_le := wakeFront_woken_le (queue.use ticket)
    rw [sound.leave_of_sent sent]
    refine ⟨by omega, fun waits => ?_⟩
    have woken := wakeFront_woken_of_waits waits
    exact ⟨woken.1, by omega⟩
  · rw [leave_of_waits waits]
    exact ⟨Nat.le_refl _, fun _ => ⟨List.ne_nil_of_mem waits, rfl⟩⟩

end Leaving

end Admission.TicketQueue

import Admission.Proofs.Algorithm.Bounds
import Admission.Proofs.Waiting.Bookkeeping
import Admission.Proofs.Waiting.Governed

/-!
# Nobody is stranded

Callers who wait for a gate can never all be asleep with nobody left to wake them: as long as
somebody waits, a wake-up is on its way or a job runs whose end will send one. The gate's limit may
move in any way which leaves room for one job. Only a job whose end meets a fault wakes nobody, and
if it was the last one, nobody else will.
-/

namespace Admission

namespace TicketQueue

variable {queue : TicketQueue}

/-- As long as somebody waits there is a wake-up on its way or a job which runs. -/
def Watched (queue : TicketQueue) (running : Nat) : Prop :=
  queue.waiters ≠ [] → queue.sent ≠ [] ∨ running ≠ 0

lemma Watched.of_running {running : Nat} (busy : running ≠ 0) : queue.Watched running :=
  fun _ => .inr busy

lemma wakeFront_watched (queue : TicketQueue) (running : Nat) :
    queue.wakeFront.Watched running := by
  intro waits
  rcases queue.wakeFirst_cases queue.waiters with ⟨nobody, -⟩ | ⟨-, -, sent⟩
  · exact absurd nobody waits
  · exact .inl sent

lemma Watched.leave {running ticket : Nat} (watched : queue.Watched running)
    (sound : queue.Sound) (mem : ticket ∈ queue.line) : (queue.leave ticket).Watched running := by
  rcases List.mem_append.mp mem with sent | waits
  · rw [sound.leave_of_sent sent]
    exact wakeFront_watched _ running
  · rw [leave_of_waits waits]
    exact fun _ => watched (List.ne_nil_of_mem waits)

lemma Watched.joinBack {running : Nat} (watched : queue.Watched running) (sound : queue.Sound)
    (busy : queue.isBusy = true) : queue.joinBack.1.Watched running := by
  intro _
  rcases isBusy_iff.mp busy with waits | woken
  · exact watched waits
  · left
    rw [sound.woken] at woken
    exact List.ne_nil_of_length_pos (Nat.pos_of_ne_zero woken)

end TicketQueue

namespace Waiting

open Session (Room)

variable {C α : Type} [Algorithm α] {rule : α}

/-- A gate of which the callers in line are watched. -/
def Attended (rule : α) (room : Room (Waiting (Gate α)) Place) : Prop :=
  (∃ tally, Governed rule tally room) ∧ room.limiter.queue.Watched room.running

section Turns

variable {before after : Room (Waiting (Gate α)) Place}
  (positive : ∀ limit, Algorithm.Gives rule limit → 1 ≤ limit)

include positive

/-- The gate denies a caller only because other jobs run. -/
lemma Governed.busy {tally : Tally α} {limiter : Waiting (Gate α)} {places running inner} {ctx : C}
    (governed : Governed rule tally ⟨limiter, places, running⟩)
    (denies : Limiter.acquireNow limiter.inner ctx = (inner, .ok none)) : running ≠ 0 := by
  have full := governed.full denies
  have room_for_one := positive tally.limit governed.under.given
  omega

lemma Attended.turn (turn : Turn C before after) (lined : Lined before)
    (attended : Attended rule before) : Attended rule after := by
  obtain ⟨⟨tally, governed⟩, watched⟩ := attended
  refine ⟨governed.turn turn, ?_⟩
  cases turn with
  | enter quiet grants => exact .of_running (Nat.succ_ne_zero _)
  | deny quiet denies => exact watched
  | skip => exact watched
  | leave => exact watched.leave lined.sound lined.mem
  | letIn sent grants => exact .of_running (Nat.succ_ne_zero _)
  | lapse sent denies => exact .of_running (governed.busy positive denies)
  | release releases => exact TicketQueue.wakeFront_watched _ _

lemma Attended.arrival (arrival : Arrival C before after) (lined : Lined before)
    (attended : Attended rule before) : Attended rule after := by
  obtain ⟨⟨tally, governed⟩, watched⟩ := attended
  refine ⟨governed.arrival arrival, ?_⟩
  cases arrival with
  | behind busy ticket => exact watched.joinBack lined.sound busy
  | denied quiet denies ticket => exact .of_running (governed.busy positive denies)

lemma Attended.putBack (back : PutBack C before after) (_ : Lined before)
    (attended : Attended rule before) : Attended rule after := by
  obtain ⟨⟨tally, governed⟩, watched⟩ := attended
  refine ⟨governed.putBack back, ?_⟩
  obtain ⟨sent, denies⟩ := back
  exact .of_running (governed.busy positive denies)

end Turns

lemma Attended.somebody {session : Session C (Waiting (Gate α)) Unit Place}
    (lined : Lined session.room) (attended : Attended rule session.room)
    (pending : session.callers ≠ []) :
    (∃ caller ∈ session.callers, Limiter.isWoken C session.limiter caller.place = true) ∨
      session.held ≠ [] := by
  obtain ⟨-, watched⟩ := attended
  have sent_or_running : session.limiter.queue.sent ≠ [] ∨ session.held.length ≠ 0 := by
    by_cases waits : session.limiter.queue.waiters = []
    · left
      intro sent
      have line : session.limiter.queue.line = [] := by
        rw [TicketQueue.line, waits, sent, List.append_nil]
      have callers := lined.callers
      simp only [Session.room, line, List.nil_perm, List.map_eq_nil_iff] at callers
      exact pending callers
    · exact watched waits
  rcases sent_or_running with sent | running
  · left
    obtain ⟨ticket, mem⟩ := List.exists_mem_of_ne_nil _ sent
    obtain ⟨caller, caller_mem, rfl⟩ := lined.caller (List.mem_append_left _ mem)
    exact ⟨caller, caller_mem, TicketQueue.isSent_iff.mpr mem⟩
  · right
    exact List.ne_nil_of_length_pos (Nat.pos_of_ne_zero running)

/-- A job which ends wakes whoever waits at the front, unless the gate meets a fault. -/
lemma front_is_woken {session : Session C (Waiting (Gate α)) Unit Place} (kept : session.Kept)
    (lined : Lined session.room) {id : String} {listener : Listener Unit}
    (held : Table.at? session.held id = some listener) {action : Session.Action C}
    (resolves : action.Resolves id) {front : Nat} {rest : List Nat}
    (waits : session.limiter.queue.waiters = front :: rest) :
    (∃ fault, (session.step action).2 = .fault fault) ∨
      ((session.step action).2 = .ok ∧ (session.step action).1.limiter.queue.waiters = rest ∧
        (session.step action).1.callers = session.callers ∧
        ∃ caller ∈ session.callers, caller.place.ticket = front ∧
          Limiter.isWoken C session.limiter caller.place = false ∧
          Limiter.isWoken C (session.step action).1.limiter caller.place = true) := by
  obtain ⟨grant, outcome, latency, steps⟩ := Session.step_of_resolves kept held resolves
  rw [steps]
  have front_waits : front ∈ session.limiter.queue.waiters := by simp [waits]
  have sound : session.limiter.queue.Sound := lined.sound
  have asleep := lined.sound.not_sent front_waits
  cases answer : Limiter.release C session.limiter grant outcome latency with
  | mk limiter failed =>
    cases failed with
    | none =>
      right
      obtain ⟨inner, -, rfl⟩ := release_fine answer
      obtain ⟨caller, mem, rfl⟩ := lined.caller (List.mem_append_right _ front_waits)
      refine ⟨rfl, ?_, rfl, caller, mem, rfl, ?_, ?_⟩
      · simp [Session.answer, sound.wakeFront_of_cons waits]
      · rw [← Bool.not_eq_true]
        exact fun sent => asleep (TicketQueue.isSent_iff.mp sent)
      · apply TicketQueue.isSent_iff.mpr
        simp [Session.answer, sound.wakeFront_of_cons waits]
    | some fault => exact .inl ⟨fault, rfl⟩

/-- Over a gate whose algorithm always leaves room for one job, whoever waits will be woken: in
every state some caller holds a wake-up or some job runs, unless an earlier action met a fault; and
every job which ends wakes the caller at the front, unless its own end meets one. There is no fault
at all as long as limits are chosen which can be counted. -/
theorem nobody_is_stranded {gate : Gate α} (created : Gate.create rule = .ok gate)
    (positive : ∀ limit, Algorithm.Chooses rule limit → 1 ≤ limit) (timeout : Option Nat)
    (actions : List (Session.Action C)) :
    let fresh : Session C (Waiting (Gate α)) Unit Place := Session.start (create gate timeout)
    let session := fresh.after actions
    (session.callers ≠ [] →
      (∃ caller ∈ session.callers, Limiter.isWoken C session.limiter caller.place = true) ∨
        session.held ≠ [] ∨ ∃ fault, .fault fault ∈ fresh.answers actions) ∧
    (∀ id listener action, Table.at? session.held id = some listener → action.Resolves id →
      ∀ front rest, session.limiter.queue.waiters = front :: rest →
        let result := session.step action
        (∃ fault, result.2 = .fault fault) ∨
          (result.2 = .ok ∧ result.1.limiter.queue.waiters = rest ∧
            result.1.callers = session.callers ∧
            ∃ caller ∈ session.callers, caller.place.ticket = front ∧
              Limiter.isWoken C session.limiter caller.place = false ∧
              Limiter.isWoken C result.1.limiter caller.place = true)) ∧
    (Algorithm.ChoosesUpTo rule maxPermits → fresh.Faultless actions) := by
  intro fresh session
  have kept : session.Kept := Session.after_kept (Session.start_kept _) actions
  have lined : Lined session.room := after_lined gate timeout actions
  have always : ∀ limit, Algorithm.Gives rule limit → 1 ≤ limit := by
    rintro limit (rfl | chosen)
    · exact (Tally.of_create created).1
    · exact positive limit chosen
  refine ⟨fun pending => ?_, fun id listener action held resolves front rest waits =>
    front_is_woken kept lined held resolves waits,
    fun chooses => governed_faultless created chooses timeout actions⟩
  by_cases smooth : fresh.Faultless actions
  · have starts : Attended rule fresh.room :=
      ⟨⟨_, create_governed created timeout⟩, fun waits => absurd rfl waits⟩
    obtain ⟨⟨-, attended⟩, -⟩ := after_keeps_faultless (I := Attended rule)
      (Attended.turn always) (Attended.putBack always) (Attended.arrival always)
      (Session.start_kept _) ⟨create_lined gate timeout, starts⟩ smooth
    exact (attended.somebody lined pending).imp_right .inl
  · exact .inr (.inr (Session.fault_mem_of_not_faultless smooth))

/-- Two jobs run under a limit which is about to fall to one, and a caller waits. The caller is
woken when the first of them ends. -/
theorem nobody_is_stranded_as_limit_falls :
    ∃ gate, Gate.create (⟨2, 1⟩ : Scripted) = .ok gate ∧
      let session : Session Unit (Waiting (Gate Scripted)) Unit Place :=
        (Session.start (create gate none)).after
          [.acquire "a" () false, .acquire "b" () false, .acquire "x" () false]
      ((∃ caller ∈ session.callers, Limiter.isWoken Unit session.limiter caller.place = true) ∨
          session.held ≠ []) ∧
        (session.step (.resolve "a" .dropped)).2 = .ok ∧
        ∃ caller ∈ session.callers, caller.place.ticket = 0 ∧
          Limiter.isWoken Unit session.limiter caller.place = false ∧
          Limiter.isWoken Unit (session.step (.resolve "a" .dropped)).1.limiter caller.place =
            true := by
  have positive : ∀ limit, Algorithm.Chooses (⟨2, 1⟩ : Scripted) limit → 1 ≤ limit := by
    intro limit chosen
    have one : limit = 1 := Scripted.eq_next_of_chooses chosen
    omega
  have chooses : Algorithm.ChoosesUpTo (⟨2, 1⟩ : Scripted) maxPermits :=
    (Scripted.choosesUpTo _).mono (by decide)
  refine ⟨_, rfl, ?_⟩
  obtain ⟨pending, wakes, fine⟩ := nobody_is_stranded (C := Unit) rfl positive none
    [.acquire "a" () false, .acquire "b" () false, .acquire "x" () false]
  have smooth := fine chooses
  have somebody := pending (List.cons_ne_nil _ _)
  have awake := somebody.imp_right fun others => others.resolve_right fun ⟨fault, mem⟩ =>
    absurd (smooth _ mem) Bool.noConfusion
  rcases wakes "a" _ _ rfl (.resolve .dropped) 0 [] rfl with ⟨fault, failed⟩ | woken
  · exact absurd failed nofun
  · obtain ⟨fine, -, -, caller⟩ := woken
    exact ⟨awake, fine, caller⟩

/-- An increase by more permits than can be counted at once. -/
def steepAimd : Aimd := ⟨1, Double.ofRatio 9 10, 2 ^ 61, 2 ^ 61 + 100, Double.ofRatio 8 10⟩

/-- The only job succeeds while a caller waits. The limit can be raised, but its permits cannot be
counted: the caller is not woken, and nobody is left to do so. -/
theorem stranded_after_fault :
    Aimd.create 1 ⟨none, some (2 ^ 61), some (2 ^ 61 + 100), none⟩ = .ok steepAimd ∧
      (∀ limit, Algorithm.Chooses steepAimd limit → 1 ≤ limit) ∧
      ∃ gate, Gate.create steepAimd = .ok gate ∧
        let session : Session Unit (Waiting (Gate Aimd)) Unit Place :=
          (Session.start (create gate none)).after
            [.acquire "a" () false, .acquire "x" () false, .resolve "a" .success]
        session.callers ≠ [] ∧ session.held.length = 0 ∧
          ∀ caller ∈ session.callers,
            Limiter.isWoken Unit session.limiter caller.place = false := by
  have created : Aimd.create 1 ⟨none, some (2 ^ 61), some (2 ^ 61 + 100), none⟩ = .ok steepAimd := by
    decide +kernel
  have built : Aimd.Built 1 steepAimd :=
    Aimd.create_built (by decide) (by simp) (by simp; decide) (by simp; decide) (by simp) created
  refine ⟨created, fun limit chosen => (Aimd.bounds_of_gives built.checked (.inr chosen)).1, _, rfl,
    ?_⟩
  decide +kernel

end Waiting
end Admission

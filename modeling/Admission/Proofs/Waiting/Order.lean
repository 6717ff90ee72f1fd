import Admission.Algorithm.Aimd
import Admission.Proofs.Gate.Tally
import Admission.Proofs.Waiting.Turns

/-!
# First come, first served

As long as the line is that of the callers' tickets in the order in which they came, whoever was
woken first is the first who came, and nobody is let in before those who came earlier. All that can
happen in a room keeps this order but one thing: a caller who was woken in vain is put back in
front of those who sleep, behind those who were woken too.
-/

namespace Admission.Waiting

open Session (Room Look Action Along)

variable {C L G W : Type} [Limiter C L G W]

/-- The line is that of the callers' tickets, in the order in which they came. -/
def Ordered (room : Room (Waiting L) Place) : Prop :=
  room.limiter.queue.line = room.places.map Place.ticket

/-- A line of callers in order. -/
abbrev Orderly (room : Room (Waiting L) Place) : Prop := Lined room ∧ Ordered room

section Rooms

lemma erase_middle {before after : List Nat} {ticket : Nat}
    (distinct : (before ++ ticket :: after).Nodup) :
    (before ++ ticket :: after).erase ticket = before ++ after := by
  have absent : ticket ∉ before := by
    intro mem
    exact (List.nodup_append.mp distinct).2.2 ticket mem ticket List.mem_cons_self rfl
  rw [List.erase_append_right _ absent, List.erase_cons_head]

lemma Ordered.without {limiter left : Waiting L} {before place after running running'}
    (ordered : Ordered ⟨limiter, before ++ place :: after, running⟩)
    (sound : limiter.queue.Sound)
    (missing : left.queue.line = limiter.queue.line.erase place.ticket) :
    Ordered ⟨left, before ++ after, running'⟩ := by
  have line : limiter.queue.line =
      before.map Place.ticket ++ place.ticket :: after.map Place.ticket := by
    rw [← List.map_cons, ← List.map_append]
    exact ordered
  have distinct := sound.distinct
  rw [line] at distinct
  change left.queue.line = (before ++ after).map Place.ticket
  rw [missing, line, erase_middle distinct, List.map_append]

variable {before after : Room (Waiting L) Place}

lemma Ordered.turn (turn : Turn C before after) (lined : Lined before) (ordered : Ordered before) :
    Ordered after := by
  have sound := lined.sound
  cases turn with
  | enter quiet grants => exact ordered
  | deny quiet denies => exact ordered
  | skip => exact ordered
  | leave => exact ordered.without sound (sound.leave_line lined.mem)
  | letIn sent grants => exact ordered.without sound (sound.use_line sent)
  | lapse sent denies => exact ordered.without sound (sound.use_line sent)
  | release releases => exact sound.wakeFront_line.trans ordered

lemma Ordered.arrival (arrival : Arrival C before after) (ordered : Ordered before) :
    Ordered after := by
  unfold Ordered at *
  cases arrival with
  | behind busy ticket =>
    simp only [TicketQueue.joinBack_line, List.map_append, List.map_cons, List.map_nil, ticket]
    rw [ordered]
  | denied quiet denies ticket =>
    simp only [TicketQueue.joinBack_line, List.map_append, List.map_cons, List.map_nil, ticket]
    rw [ordered]

lemma Ordered.failure (failure : Failure C before after) (lined : Lined before)
    (ordered : Ordered before) : Ordered after := by
  cases failure with
  | enter quiet fails => exact ordered
  | look sent fails => exact ordered.without lined.sound (lined.sound.use_line sent)
  | release fails => exact ordered

end Rooms

section Looks

/-- A caller with another ticket. -/
def withTicket (caller : Caller C Place) (ticket : Nat) : Caller C Place :=
  { caller with place := { caller.place with ticket := ticket } }

variable (look : Look C (Waiting L) G Place)

/-- Whoever was woken looks before those who were woken later. -/
def InWakeOrder : Prop :=
  look.caller.place.ticket ∈ look.session.limiter.queue.sent →
    look.session.limiter.queue.sent.head? = some look.caller.place.ticket

instance : Decidable (InWakeOrder look) :=
  inferInstanceAs (Decidable (_ → _))

/-- The caller was woken, is not let in, and goes on to wait. -/
def InVain : Prop :=
  look.caller.place.ticket ∈ look.session.limiter.queue.sent ∧ look.result.2 = .pending

/-- A caller who was woken in vain was the only one who was woken. -/
def Alone : Prop :=
  InVain look → look.session.limiter.queue.sent = [look.caller.place.ticket]

instance : Decidable (InVain look) :=
  inferInstanceAs (Decidable (_ ∧ _))

instance : Decidable (Alone look) :=
  inferInstanceAs (Decidable (_ → _))

/-- Nobody is let in while somebody waits who came earlier. -/
def FirstCome : Prop :=
  ∀ limiter grant, Limiter.poll look.session.limiter look.caller.ctx look.caller.place
      look.session.now = (limiter, .ok (.admitted grant)) →
    look.session.callers.head? = some look.caller

/-- A caller who was woken in vain stays in front of everybody who came later. -/
def KeepsPlace : Prop :=
  InVain look → ∀ before caller after, look.result.1.callers = before ++ caller :: after →
    caller.id = look.caller.id → ∀ later ∈ after,
      [caller.place.ticket, later.place.ticket].Sublist look.result.1.limiter.queue.line

variable {look}

lemma pending_cases (kept : look.session.Kept) (waits : look.caller ∈ look.session.callers)
    (pending : look.result.2 = .pending) :
    (look.caller.place.ticket ∉ look.session.limiter.queue.sent ∧ look.result.1 = look.session) ∨
      (look.caller.place.ticket ∈ look.session.limiter.queue.sent ∧ ∃ inner before after,
        Limiter.acquireNow look.session.limiter.inner look.caller.ctx = (inner, .ok none) ∧
        look.session.callers = before ++ look.caller :: after ∧
        look.result.1 = { look.session with
          limiter := { look.session.limiter with
            inner := inner
            queue := (look.session.limiter.queue.use look.caller.place.ticket).joinFront.1 }
          callers := before ++
            withTicket look.caller look.session.limiter.queue.nextTicket :: after }) := by
  obtain ⟨limiter, place, before, after, answer, split, result⟩ :=
    Session.poll_pending kept waits pending
  rcases poll_waiting answer with ⟨asleep, rfl, rfl⟩ | ⟨sent, inner, denies, rfl, rfl⟩
  · left
    refine ⟨asleep, result.trans ?_⟩
    rw [← split]
  · right
    exact ⟨sent, inner, before, after, denies, split, result⟩

lemma line_eq {session : Session C (Waiting L) G Place} (ordered : Ordered session.room) :
    session.limiter.queue.line = session.callers.map (fun caller => caller.place.ticket) := by
  have line : session.limiter.queue.line =
      (session.callers.map Caller.place).map Place.ticket := ordered
  rw [line, List.map_map]
  rfl

lemma first_of_woken_first {session : Session C (Waiting L) G Place} (orderly : Orderly session.room)
    {before after : List (Caller C Place)} {caller : Caller C Place}
    (split : session.callers = before ++ caller :: after)
    (first : session.limiter.queue.sent.head? = some caller.place.ticket) : before = [] := by
  have line := line_eq orderly.2
  have distinct : session.limiter.queue.line.Nodup := orderly.1.sound.distinct
  obtain ⟨woken, sent⟩ := List.head?_eq_some_iff.mp first
  cases before with
  | nil => rfl
  | cons earlier rest =>
    rw [line, split] at distinct
    rw [TicketQueue.line, sent, split] at line
    simp only [List.cons_append, List.map_cons, List.cons.injEq, List.map_append,
      List.nodup_cons] at line distinct
    have again : earlier.place.ticket ∈ rest.map (fun caller => caller.place.ticket) ++
        caller.place.ticket :: after.map (fun caller => caller.place.ticket) := by
      rw [← line.1]
      simp
    exact absurd again distinct.1

lemma lined_of_pending (kept : look.session.Kept) (waits : look.caller ∈ look.session.callers)
    (lined : Lined look.session.room) (pending : look.result.2 = .pending) :
    Lined look.result.1.room := by
  have fine : look.result.2.isFault = false := by
    rw [pending]
    rfl
  have good : look.In (fun room => Lined room ∧ True) := ⟨kept, waits, lined, trivial⟩
  have ends := good.ends (move_keeps fun _ _ _ => trivial) (stay_keeps fun _ _ _ => trivial)
  exact (ends.of_fine fine).1

/-- Where a caller who was woken in vain was the only one, the order stays. -/
lemma Alone.orderly (alone : Alone look) (good : look.In Orderly)
    (pending : look.result.2 = .pending) : Orderly look.result.1.room := by
  obtain ⟨kept, waits, lined, ordered⟩ := good
  rcases pending_cases kept waits pending with ⟨-, same⟩ | ⟨sent, inner, before, after, denies,
    split, result⟩
  · rw [same]
    exact ⟨lined, ordered⟩
  · have only := alone ⟨sent, pending⟩
    have first : before = [] :=
      first_of_woken_first ⟨lined, ordered⟩ split (by rw [only]; rfl)
    subst first
    have line := line_eq ordered
    rw [TicketQueue.line, only, split] at line
    have sleeping : look.session.limiter.queue.waiters =
        after.map (fun caller => caller.place.ticket) := by
      simpa using line
    refine ⟨lined_of_pending kept waits lined pending, ?_⟩
    have sound : look.session.limiter.queue.Sound := lined.sound
    rw [result]
    simp [Ordered, Session.room, TicketQueue.joinFront_line, sound.use_eq, only, sleeping,
      withTicket]

/-- Where the order stays, everybody stays in front of those who came later. -/
lemma keepsPlace_of_orderly (orderly : Orderly look.result.1.room) : KeepsPlace look := by
  intro _ before caller after split _ later mem
  have two : [caller, later].Sublist (before ++ caller :: after) :=
    ((List.singleton_sublist.mpr mem).cons_cons caller).trans (List.sublist_append_right _ _)
  rw [line_eq orderly.2, split]
  exact two.map fun caller => caller.place.ticket

lemma not_behind_first {first other : Nat} {rest : List Nat} (distinct : (first :: rest).Nodup) :
    ¬[other, first].Sublist (first :: rest) := by
  intro behind
  have again : first ∈ rest := by
    cases behind with
    | cons _ behind => exact behind.subset (by simp)
    | cons_cons _ behind => exact behind.subset (by simp)
  exact (List.nodup_cons.mp distinct).1 again

/-- The converse: whoever keeps the place was the only one who was woken, since the others who
were woken stay in front. -/
lemma KeepsPlace.alone (keeps : KeepsPlace look) (good : look.In Orderly)
    (in_order : InWakeOrder look) : Alone look := by
  obtain ⟨kept, waits, lined, ordered⟩ := good
  intro in_vain
  obtain ⟨sent, pending⟩ := in_vain
  rcases pending_cases kept waits pending with ⟨asleep, -⟩ | ⟨-, inner, before, after, denies,
    split, result⟩
  · exact absurd sent asleep
  · have head := in_order sent
    have first := first_of_woken_first ⟨lined, ordered⟩ split head
    subst first
    obtain ⟨others, woken⟩ := List.head?_eq_some_iff.mp head
    -- A second caller who was woken would stand in front of the new ticket, against `keeps`.
    cases others with
    | nil => exact woken
    | cons other rest =>
      have line := line_eq ordered
      rw [TicketQueue.line, woken, split] at line
      cases after with
      | nil => simp at line
      | cons later after =>
        have ticket : other = later.place.ticket := by
          simp only [List.nil_append, List.cons_append, List.map_cons, List.cons.injEq] at line
          exact line.2.1
        have sound : look.session.limiter.queue.Sound := lined.sound
        have behind := keeps ⟨sent, pending⟩ []
          (withTicket look.caller look.session.limiter.queue.nextTicket) (later :: after)
          (by rw [result]) rfl later List.mem_cons_self
        have distinct := (lined_of_pending kept waits lined pending).sound.distinct
        have left : look.result.1.limiter.queue.line =
            other :: (rest ++ look.session.limiter.queue.nextTicket ::
              look.session.limiter.queue.waiters) := by
          rw [result, TicketQueue.joinFront_line, sound.use_eq, woken,
            List.erase_cons_head]
          rfl
        change look.result.1.limiter.queue.line.Nodup at distinct
        rw [left] at distinct behind
        rw [← ticket] at behind
        exact absurd behind (not_behind_first distinct)

lemma firstCome_of_inWakeOrder (in_order : InWakeOrder look) (good : look.In Orderly) :
    FirstCome look := by
  intro limiter grant answer
  have sent := (poll_admitted answer).1
  obtain ⟨before, after, split⟩ := List.append_of_mem good.waits
  have first := first_of_woken_first good.holds split (in_order sent)
  rw [split, first]
  rfl

lemma served_iff_alone (in_order : InWakeOrder look) (good : look.In Orderly) :
    (FirstCome look ∧ KeepsPlace look) ↔ Alone look := by
  constructor
  · intro served
    exact served.2.alone good in_order
  · intro alone
    refine ⟨firstCome_of_inWakeOrder in_order good, fun in_vain => ?_⟩
    exact keepsPlace_of_orderly (alone.orderly good in_vain.2) in_vain

end Looks

section Steps

variable {session : Session C (Waiting L) G Place}

/-- The action lets somebody in who has not waited. -/
def AdmitsNewcomer (session : Session C (Waiting L) G Place) : Action C → Prop
  | .acquireNow _ ctx => ∃ limiter grant,
    Limiter.acquireNow session.limiter ctx = (limiter, .ok (some grant))
  | .acquire _ ctx _ | .acquireCancelled _ ctx false => ∃ limiter grant,
    Limiter.acquire session.limiter ctx session.now = (limiter, .ok (.admitted grant))
  | _ => False

/-- Nobody is let in before those who came earlier, and whoever was woken in vain stays in front of
those who came later. -/
def ServedInOrder (session : Session C (Waiting L) G Place) (action : Action C) : Prop :=
  (AdmitsNewcomer session action → session.callers = []) ∧
    ∀ look ∈ session.looks action, FirstCome look ∧ KeepsPlace look

/-- Those who were woken look in the order in which they were woken. -/
def LooksInWakeOrder (session : Session C (Waiting L) G Place) (action : Action C) : Prop :=
  ∀ look ∈ session.looks action, InWakeOrder look

/-- Whoever is woken in vain was the only one who was woken. -/
def PutsBackAlone (session : Session C (Waiting L) G Place) (action : Action C) : Prop :=
  ∀ look ∈ session.looks action, Alone look

instance (session : Session C (Waiting L) G Place) :
    DecidablePred (LooksInWakeOrder session) := fun action =>
  inferInstanceAs (Decidable (∀ look ∈ session.looks action, InWakeOrder look))

instance (session : Session C (Waiting L) G Place) : DecidablePred (PutsBackAlone session) :=
  fun action => inferInstanceAs (Decidable (∀ look ∈ session.looks action, Alone look))

lemma callers_of_admitsNewcomer (lined : Lined session.room) {action : Action C}
    (admits : AdmitsNewcomer session action) : session.callers = [] := by
  have quiet : session.limiter.queue.isBusy = false := by
    cases action with
    | acquireNow id ctx =>
      obtain ⟨limiter, grant, answer⟩ := admits
      obtain ⟨inner, quiet, -⟩ := acquireNow_granted answer
      exact quiet
    | acquire id ctx cancellable =>
      obtain ⟨limiter, grant, answer⟩ := admits
      obtain ⟨inner, quiet, -⟩ := acquireNow_granted (acquire_admitted answer)
      exact quiet
    | acquireCancelled id ctx atOnce =>
      cases atOnce with
      | true => exact admits.elim
      | false =>
        obtain ⟨limiter, grant, answer⟩ := admits
        obtain ⟨inner, quiet, -⟩ := acquireNow_granted (acquire_admitted answer)
        exact quiet
    | _ => exact absurd admits id
  have none_waits := TicketQueue.isBusy_eq_false_iff.mp quiet
  have sound : session.limiter.queue.Sound := lined.sound
  have none_woken : session.limiter.queue.sent = [] := by
    rw [← List.length_eq_zero_iff, ← sound.woken]
    exact none_waits.2
  have line : session.limiter.queue.line = [] := by
    rw [TicketQueue.line, none_woken, none_waits.1, List.append_nil]
  have callers := lined.callers
  simpa [Session.room, line] using callers

lemma step_orderly (kept : session.Kept) (orderly : Orderly session.room) (action : Action C)
    (alone : ∀ look ∈ session.looks action, look.In Orderly → Alone look) :
    Orderly (session.step action).1.room ∧ (session.step action).1.Kept ∧
      ∀ look ∈ session.looks action, look.In Orderly := by
  have joins : ∀ {next}, Session.Join C session.room next → Orderly next := by
    intro next join
    exact join_keeps (fun arrival _ => Ordered.arrival arrival) join orderly
  have looks : ∀ look ∈ session.looks action, look.In Orderly →
      Session.Ends C Orderly look.result := by
    intro look mem good
    rcases Session.poll_passes good.kept good.waits with passes | ⟨pending, -⟩
    · exact passes.ends (move_keeps Ordered.turn) good.holds
    · refine ⟨_, (alone look mem good).orderly good pending, .inl ⟨?_, rfl⟩⟩
      change (look.session.poll look.caller).2.isFault = false
      rw [pending]
      rfl
  obtain ⟨ends, kept_after, all_good⟩ :=
    Session.step_ends_of_looks (move_keeps Ordered.turn) kept orderly joins action looks
  refine ⟨ends.keeps ?_, kept_after, all_good⟩
  intro fault before after mishap now
  have failure := failure_of_mishap mishap
  exact ⟨now.1.failure failure, now.2.failure failure now.1⟩

lemma servedInOrder_iff (kept : session.Kept) (orderly : Orderly session.room) {action : Action C}
    (in_order : LooksInWakeOrder session action) :
    ServedInOrder session action ↔ PutsBackAlone session action := by
  constructor
  · intro served look mem
    have alone : ∀ look ∈ session.looks action, look.In Orderly → Alone look :=
      fun look mem good => (served_iff_alone (in_order look mem) good).mp (served.2 look mem)
    have good := (step_orderly kept orderly action alone).2.2 look mem
    exact alone look mem good
  · intro alone
    refine ⟨callers_of_admitsNewcomer orderly.1, fun look mem => ?_⟩
    have good := (step_orderly kept orderly action fun look mem _ => alone look mem).2.2 look mem
    exact (served_iff_alone (in_order look mem) good).mpr (alone look mem)

end Steps

/-- In a run in which those who were woken look in the order in which they were woken, callers are
served in the order in which they came exactly if nobody is ever woken in vain while another caller
has been woken too. This is so over every inner limiter. -/
theorem served_in_order_iff_puts_back_alone (inner : L) (timeout : Option Nat)
    (actions : List (Action C))
    (in_order : Along LooksInWakeOrder
      (Session.start (create inner timeout) : Session C (Waiting L) G Place) actions) :
    Along ServedInOrder (Session.start (create inner timeout) : Session C (Waiting L) G Place)
        actions ↔
      Along PutsBackAlone (Session.start (create inner timeout) : Session C (Waiting L) G Place)
        actions := by
  apply Session.along_congr (I := fun session => session.Kept ∧ Orderly session.room) ?_ ?_ ?_
    in_order
  · intro session action now looks_in_order
    exact servedInOrder_iff now.1 now.2 looks_in_order
  · intro session action now _ alone
    have orderly := step_orderly now.1 now.2 action fun look mem _ => alone look mem
    exact ⟨orderly.2.1, orderly.1⟩
  · exact ⟨Session.start_kept _, create_lined inner timeout, rfl⟩

/-- The limit falls while one caller is woken, and that caller is woken in vain, alone. The second
caller stays behind the first until the first is let in. -/
theorem served_in_order_iff_puts_back_alone_as_limit_falls :
    ∃ gate, Gate.create (⟨2, 1⟩ : Scripted) = .ok gate ∧
      let fresh : Session Unit (Waiting (Gate Scripted)) Unit Place :=
        Session.start (create gate none)
      let actions : List (Action Unit) := [.acquire "a" () false, .acquire "b" () false,
        .acquire "x" () false, .acquire "y" () false, .resolve "a" .dropped, .poll "x",
        .resolve "b" .ignore, .pollWoken]
      Along LooksInWakeOrder fresh actions ∧ Along ServedInOrder fresh actions := by
  refine ⟨(Tally.start ⟨2, 1⟩).gate, rfl, ?_⟩
  intro fresh actions
  have in_order : Along LooksInWakeOrder fresh actions := by decide +kernel
  refine ⟨in_order, (served_in_order_iff_puts_back_alone _ none actions in_order).mpr ?_⟩
  decide +kernel

/-- Two callers are woken, and a limit which has fallen leaves room for neither. They are put back
in the other order, and the one who came later is let in first. -/
theorem later_caller_is_let_in_first :
    ∃ gate, Gate.create (⟨3, Double.ofRatio 1 2, 1, 1000, Double.ofRatio 8 10⟩ : Aimd) = .ok gate ∧
      let fresh : Session Unit (Waiting (Gate Aimd)) Unit Place :=
        Session.start (create gate none)
      let actions : List (Action Unit) := [.acquire "a" () false, .acquire "b" () false,
        .acquire "c" () false, .acquire "x" () false, .acquire "y" () false,
        .resolve "a" .dropped, .resolve "b" .ignore, .poll "x", .poll "y", .resolve "c" .ignore]
      Along LooksInWakeOrder fresh (actions ++ [.poll "y"]) ∧
        (fresh.after actions).callers.map Caller.id = ["x", "y"] ∧
        (fresh.after actions).held.map Prod.fst = [] ∧
        (fresh.after (actions ++ [.poll "y"])).callers.map Caller.id = ["x"] ∧
        (fresh.after (actions ++ [.poll "y"])).held.map Prod.fst = ["y"] := by
  refine ⟨_, rfl, ?_⟩
  decide +kernel

end Admission.Waiting

import Admission.Proofs.Waiting.Turns
import Mathlib.Data.List.Induction

/-!
# When a caller's time is up

A caller who waits has come by a first look which left the caller waiting. The deadline is fixed
then, at the time of that look and the limiter's timeout together, and every further look keeps it,
whatever ticket the caller holds. A look turns the caller away for being late at the deadline or
after it only, and never leaves the caller waiting from then on.
-/

namespace Admission

variable {C L G W : Type}

namespace Session

variable [Limiter C L G W]

/-- When a caller of that name joins those who wait, if the action has one do so. -/
def joinsAt (session : Session C L G W) (action : Action C) (id : String) : Option Nat :=
  match action with
  | .acquire name _ _ =>
    if name = id ∧ (session.step action).2 = .pending then some session.now else none
  | _ => none

/-- When the last caller of that name came who had to wait. -/
def cameAt (session : Session C L G W) : List (Action C) → String → Option Nat
  | [], _ => none
  | action :: rest, id =>
    (cameAt (session.step action).1 rest id).or (session.joinsAt action id)

lemma cameAt_concat (session : Session C L G W) (early : List (Action C)) (action : Action C)
    (id : String) :
    session.cameAt (early ++ [action]) id =
      ((session.after early).joinsAt action id).or (session.cameAt early id) := by
  induction early generalizing session with
  | nil =>
    change (none : Option Nat).or _ = Option.or _ none
    rw [Option.none_or, Option.or_none]
    rfl
  | cons first rest ih =>
    change (cameAt _ (rest ++ [action]) id).or _ = _
    rw [ih, Option.or_assoc]
    rfl

end Session

namespace Waiting

open Session (Action Room)

variable [Limiter C L G W]

section Looks

variable {limiter limiter' : Waiting L} {ctx : C} {place place' : Place} {now : Nat}

/-- There is a deadline, and it has come. -/
def IsDue (deadline : Option Nat) (now : Nat) : Prop :=
  ∃ time, deadline = some time ∧ time ≤ now

lemma remain_of_due (due : IsDue place.deadline now) :
    limiter.remain place now =
      (limiter.abandon place, (.ok (.refused .timedOut) : Except Fault (Progress G Place))) := by
  obtain ⟨deadline, ends, passed⟩ := due
  unfold remain
  rw [ends]
  exact if_pos passed

lemma remain_of_not_due (early : ¬IsDue place.deadline now) :
    limiter.remain place now =
      (limiter, (.ok (.waiting place) : Except Fault (Progress G Place))) := by
  unfold remain
  cases ends : place.deadline with
  | none => rfl
  | some deadline =>
    have later : ¬deadline ≤ now := fun passed => early ⟨deadline, ends, passed⟩
    exact if_neg later

lemma due_of_remain_refused {cause : Refusal}
    (answer : limiter.remain place now =
      (limiter', (.ok (.refused cause) : Except Fault (Progress G Place)))) :
    cause = .timedOut ∧ IsDue place.deadline now := by
  by_cases due : IsDue place.deadline now
  · rw [remain_of_due due] at answer
    simp only [Prod.mk.injEq, Except.ok.injEq, Progress.refused.injEq] at answer
    exact ⟨answer.2.symm, due⟩
  · rw [remain_of_not_due due] at answer
    simp at answer

lemma not_due_of_remain_waiting
    (answer : limiter.remain place now =
      (limiter', (.ok (.waiting place') : Except Fault (Progress G Place)))) :
    ¬IsDue place.deadline now := by
  intro due
  rw [remain_of_due due] at answer
  simp at answer

/-- A caller who looks again and is not let in stays or goes as the caller's deadline has it,
whichever ticket the caller has by then. -/
lemma poll_remains {result : Except Fault (Progress G Place)}
    (answer : Limiter.poll limiter ctx place now = (limiter', result))
    (outside : ∀ grant, result ≠ .ok (.admitted grant)) (fine : ∀ fault, result ≠ .error fault) :
    ∃ (denied : Waiting L) (held : Place), held.deadline = place.deadline ∧
      denied.remain held now = (limiter', result) := by
  rcases poll_cases answer with ⟨-, remains⟩ | ⟨-, inner, ⟨_, -, failed, -⟩ | ⟨_, -, admitted, -⟩ |
    ⟨-, remains⟩⟩
  · exact ⟨limiter, place, rfl, remains⟩
  · exact absurd failed (fine _)
  · exact absurd admitted (outside _)
  · exact ⟨_, { place with ticket := limiter.queue.nextTicket }, rfl, remains⟩

lemma due_of_poll_refused {cause : Refusal}
    (answer : Limiter.poll limiter ctx place now = (limiter', .ok (.refused cause))) :
    cause = .timedOut ∧ IsDue place.deadline now := by
  obtain ⟨denied, held, same, remains⟩ := poll_remains answer (by simp) (by simp)
  rw [← same]
  exact due_of_remain_refused remains

lemma not_due_of_poll_waiting
    (answer : Limiter.poll limiter ctx place now = (limiter', .ok (.waiting place'))) :
    ¬IsDue place.deadline now := by
  obtain ⟨denied, held, same, remains⟩ := poll_remains answer (by simp) (by simp)
  rw [← same]
  exact not_due_of_remain_waiting remains

lemma deadline_of_poll_waiting
    (answer : Limiter.poll limiter ctx place now = (limiter', .ok (.waiting place'))) :
    place'.deadline = place.deadline := by
  obtain ⟨denied, held, same, remains⟩ := poll_remains answer (by simp) (by simp)
  rw [(remain_waiting remains).1, same]

/-- A newcomer who is not let in has the place at the back, with the time to wait from now on. -/
lemma acquire_remains {result : Except Fault (Progress G Place)}
    (answer : Limiter.acquire limiter ctx now = (limiter', result))
    (outside : ∀ grant, result ≠ .ok (.admitted grant)) (fine : ∀ fault, result ≠ .error fault) :
    ∃ denied, Limiter.acquireNow limiter ctx = (denied, .ok none) ∧
      remain { denied with queue := denied.queue.joinBack.1 }
        ⟨denied.queue.nextTicket, limiter.timeout.map (now + ·)⟩ now = (limiter', result) := by
  rw [acquire_eq] at answer
  split at answer
  · simp only [Prod.mk.injEq] at answer
    exact absurd answer.2.symm (fine _)
  · simp only [Prod.mk.injEq] at answer
    exact absurd answer.2.symm (outside _)
  · rename_i denied looks
    refine ⟨denied, looks, ?_⟩
    have same : denied.timeout = limiter.timeout := by
      rcases acquireNow_cases looks with ⟨-, rfl, -⟩ | ⟨inner, -, -, rfl⟩ <;> rfl
    rw [← same]
    exact answer

lemma deadline_of_acquire_waiting
    (answer : Limiter.acquire limiter ctx now = (limiter', .ok (.waiting place))) :
    place.deadline = limiter.timeout.map (now + ·) := by
  obtain ⟨denied, -, remains⟩ := acquire_remains answer (by simp) (by simp)
  rw [(remain_waiting remains).1]

end Looks

section Steps

variable {session : Session C (Waiting L) G Place} {caller : Caller C Place}

/-- The caller has been waiting since before, with the same deadline. -/
def HasWaited (session : Session C (Waiting L) G Place) (caller : Caller C Place) : Prop :=
  ∃ former ∈ session.callers, former.id = caller.id ∧
    former.place.deadline = caller.place.deadline

lemma hasWaited_of_mem (waits : caller ∈ session.callers) : HasWaited session caller :=
  ⟨caller, waits, rfl, rfl⟩

lemma HasWaited.trans {earlier : Session C (Waiting L) G Place}
    (each : ∀ former ∈ session.callers, HasWaited earlier former)
    (waited : HasWaited session caller) : HasWaited earlier caller := by
  obtain ⟨former, mem, id, deadline⟩ := waited
  obtain ⟨first, first_mem, first_id, first_deadline⟩ := each former mem
  exact ⟨first, first_mem, first_id.trans id, first_deadline.trans deadline⟩

lemma hasWaited_of_forget {limiter : Waiting L} {id : String}
    (waits : caller ∈ (Session.forget { session with limiter := limiter } id).callers) :
    HasWaited session caller ∧ caller.id ≠ id := by
  obtain ⟨mem, other⟩ := List.mem_filter.mp waits
  exact ⟨hasWaited_of_mem mem, by simpa using other⟩

lemma poll_hasWaited {looking : Caller C Place} (looks : looking ∈ session.callers)
    (waits : caller ∈ (session.poll looking).1.callers) : HasWaited session caller := by
  unfold Session.poll at waits
  split at waits
  · exact (hasWaited_of_forget waits).1
  · rw [Session.hold_callers] at waits
    exact (hasWaited_of_forget waits).1
  · exact (hasWaited_of_forget waits).1
  · rename_i limiter place found
    dsimp only at waits
    split at waits
    · exact (hasWaited_of_forget waits).1
    · obtain ⟨former, mem, same⟩ := List.mem_map.mp waits
      split at same
      · subst same
        exact ⟨looking, looks, rfl, (deadline_of_poll_waiting found).symm⟩
      · subst same
        exact hasWaited_of_mem mem

lemma pollWoken_hasWaited (looks : Nat) (answers : List (String × Session.Answer))
    (waits : caller ∈ (Session.pollWoken looks session answers).1.callers) :
    HasWaited session caller := by
  induction looks generalizing session answers with
  | zero => exact hasWaited_of_mem waits
  | succ looks ih =>
    unfold Session.pollWoken at waits
    cases found : session.callers.find? session.isWoken with
    | none =>
      rw [found] at waits
      exact hasWaited_of_mem waits
    | some looking =>
      rw [found] at waits
      dsimp only at waits
      have polled : ∀ former ∈ (session.poll looking).1.callers, HasWaited session former :=
        fun former mem => poll_hasWaited (List.mem_of_find?_eq_some found) mem
      generalize session.poll looking = result at waits polled
      obtain ⟨next, answer⟩ := result
      cases answer
      case fault fault => exact polled caller waits
      all_goals exact (ih _ waits).trans polled

lemma joinsAt_eq_none {id name : String} {ctx : C} {cancellable : Bool}
    (nobody : (session.acquire name ctx cancellable).2 ≠ .pending ∨ name ≠ id) :
    session.joinsAt (.acquire name ctx cancellable) id = none :=
  if_neg fun joins => nobody.elim (· joins.2) (· joins.1)

lemma acquire_hasWaited_or_joins {id : String} {ctx : C} {cancellable : Bool}
    (waits : caller ∈ (session.acquire id ctx cancellable).1.callers) :
    (HasWaited session caller ∧
        session.joinsAt (.acquire id ctx cancellable) caller.id = none) ∨
      session.joinsAt (.acquire id ctx cancellable) caller.id = some session.now ∧
        caller.place.deadline = session.limiter.timeout.map (session.now + ·) := by
  cases found : Limiter.acquire session.limiter ctx session.now with
  | mk limiter result =>
    rcases result with fault | progress
    · have acquired : session.acquire id ctx cancellable =
          ({ session with limiter := limiter }, .fault fault) := by
        rw [Session.acquire, found]
      rw [acquired] at waits
      exact .inl ⟨hasWaited_of_mem waits, joinsAt_eq_none (.inl (by simp [acquired]))⟩
    cases progress with
    | admitted grant =>
      have acquired : session.acquire id ctx cancellable =
          Session.hold { session with limiter := limiter } id grant := by
        rw [Session.acquire, found]
      rw [acquired, Session.hold_callers] at waits
      refine .inl ⟨hasWaited_of_mem waits, joinsAt_eq_none (.inl fun pending => ?_)⟩
      rw [acquired] at pending
      rcases Session.answer_snd_cases pending with admitted | ⟨fault, failed⟩
      · simp at admitted
      · simp at failed
    | refused cause =>
      have acquired : session.acquire id ctx cancellable =
          ({ session with limiter := limiter }, .refused cause) := by
        rw [Session.acquire, found]
      rw [acquired] at waits
      exact .inl ⟨hasWaited_of_mem waits, joinsAt_eq_none (.inl (by simp [acquired]))⟩
    | waiting place =>
      have pending : (session.acquire id ctx cancellable).2 = .pending := by
        rw [Session.acquire, found]
      rw [Session.acquire, found] at waits
      dsimp only at waits
      rcases List.mem_append.mp waits with before | joined
      · -- Whoever waited under the newcomer's name has gone away.
        have others : HasWaited session caller ∧ caller.id ≠ id := by
          cases old : Session.caller? { session with limiter := limiter } id with
          | none =>
            rw [old] at before
            exact ⟨hasWaited_of_mem before, Session.ne_of_caller?_none old caller before⟩
          | some former =>
            rw [old] at before
            have named := (Session.mem_of_caller? old).2
            rw [← named]
            exact hasWaited_of_forget before
        exact .inl ⟨others.1, joinsAt_eq_none (.inr others.2.symm)⟩
      · rw [List.mem_singleton.mp joined]
        exact .inr ⟨if_pos ⟨rfl, pending⟩, deadline_of_acquire_waiting found⟩

/-- Nobody who was told to give up before asking is left waiting. -/
lemma acquireCancelled_hasWaited {id : String} {ctx : C} {atOnce : Bool}
    (waits : caller ∈ (session.acquireCancelled id ctx atOnce).1.callers) :
    HasWaited session caller := by
  rcases session.acquireCancelled_cases id ctx atOnce with
    ⟨-, same⟩ | ⟨-, answered, same⟩ | ⟨-, -, former, found, same⟩
  · rw [same] at waits
    exact hasWaited_of_mem waits
  · rw [same] at waits
    rcases acquire_hasWaited_or_joins waits with ⟨waited, -⟩ | ⟨joins, -⟩
    · exact waited
    · rw [joinsAt_eq_none (.inl answered)] at joins
      cases joins
  · rw [same] at waits
    obtain ⟨mem, other⟩ := List.mem_filter.mp waits
    have named := (Session.mem_of_caller? found).2
    rcases acquire_hasWaited_or_joins mem with ⟨waited, -⟩ | ⟨joins, -⟩
    · exact waited
    · have apart : id ≠ caller.id := by
        rw [← named]
        exact fun same => by simp [same] at other
      rw [joinsAt_eq_none (.inr apart)] at joins
      cases joins

lemma use_hasWaited {id : String} {how : Listener G → List (Report G)}
    (waits : caller ∈ (session.use id how).1.callers) : HasWaited session caller := by
  unfold Session.use at waits
  split at waits
  · exact hasWaited_of_mem waits
  · rw [Session.answer_report_callers] at waits
    exact hasWaited_of_mem waits

/-- Whoever waits after a step has waited before or has just come, with a deadline from now on. -/
lemma step_hasWaited_or_joins (action : Action C)
    (waits : caller ∈ (session.step action).1.callers) :
    (HasWaited session caller ∧ session.joinsAt action caller.id = none) ∨
      session.joinsAt action caller.id = some session.now ∧
        caller.place.deadline = session.limiter.timeout.map (session.now + ·) := by
  cases action with
  | acquire id ctx cancellable => exact acquire_hasWaited_or_joins waits
  | acquireCancelled id ctx atOnce => exact .inl ⟨acquireCancelled_hasWaited waits, rfl⟩
  | pollCancelled id =>
    refine .inl ⟨?_, rfl⟩
    simp only [Session.step] at waits
    cases found : session.caller? id with
    | none =>
      rw [found] at waits
      exact hasWaited_of_mem waits
    | some looking =>
      rw [found] at waits
      dsimp only [Session.pollCancelled] at waits
      split at waits
      · exact (hasWaited_of_forget waits).1
      · exact poll_hasWaited (Session.mem_of_caller? found).1 waits
  | acquireNow id ctx =>
    refine .inl ⟨?_, rfl⟩
    change caller ∈ (session.acquireNow id ctx).1.callers at waits
    unfold Session.acquireNow at waits
    split at waits
    · exact hasWaited_of_mem waits
    · exact hasWaited_of_mem waits
    · rw [Session.hold_callers] at waits
      exact hasWaited_of_mem waits
  | poll id =>
    refine .inl ⟨?_, rfl⟩
    simp only [Session.step] at waits
    cases found : session.caller? id with
    | none =>
      rw [found] at waits
      exact hasWaited_of_mem waits
    | some looking =>
      rw [found] at waits
      exact poll_hasWaited (Session.mem_of_caller? found).1 waits
  | pollWoken => exact .inl ⟨pollWoken_hasWaited _ _ waits, rfl⟩
  | cancel id =>
    refine .inl ⟨?_, rfl⟩
    simp only [Session.step] at waits
    cases found : session.caller? id with
    | none =>
      rw [found] at waits
      exact hasWaited_of_mem waits
    | some told =>
      rw [found] at waits
      dsimp only at waits
      split at waits
      · obtain ⟨former, mem, same⟩ := List.mem_map.mp waits
        split at same
        · subst same
          exact ⟨told, (Session.mem_of_caller? found).1, rfl, rfl⟩
        · subst same
          exact hasWaited_of_mem mem
      · exact hasWaited_of_mem waits
  | abandon id =>
    refine .inl ⟨?_, rfl⟩
    simp only [Session.step] at waits
    cases found : session.caller? id with
    | none =>
      rw [found] at waits
      exact hasWaited_of_mem waits
    | some leaving =>
      rw [found] at waits
      exact (hasWaited_of_forget waits).1
  | resolve id outcome => exact .inl ⟨use_hasWaited waits, rfl⟩
  | drop id => exact .inl ⟨use_hasWaited waits, rfl⟩
  | elapsed id =>
    refine .inl ⟨?_, rfl⟩
    simp only [Session.step] at waits
    cases found : Table.at? session.held id <;> rw [found] at waits <;>
      exact hasWaited_of_mem waits
  | advance time => exact .inl ⟨hasWaited_of_mem waits, rfl⟩

end Steps

section Runs

lemma after_timeout (inner : L) (timeout : Option Nat) (actions : List (Action C)) :
    ((Session.start (create inner timeout) :
      Session C (Waiting L) G Place).after actions).limiter.timeout = timeout := by
  let same : Room (Waiting L) Place → Prop := fun room => room.limiter.timeout = timeout
  have keeps := Session.after_keeps (C := C) (I := fun room => Lined room ∧ same room)
    (move_keeps (I := same) fun turn _ now => by cases turn <;> exact now)
    (stay_keeps (I := same) fun back _ now => by cases back; exact now)
    (join_keeps (I := same) fun arrival _ now => by cases arrival <;> exact now)
    (fun mishap now => by
      have failure := failure_of_mishap mishap
      exact ⟨now.1.failure failure, by cases failure <;> exact now.2⟩)
    (Session.start_kept _) ⟨create_lined (C := C) inner timeout, rfl⟩ actions
  exact keeps.1.2

/-- A caller's deadline is the limiter's timeout after the caller came. -/
theorem deadline_of_cameAt (inner : L) (timeout : Option Nat) (actions : List (Action C)) :
    let fresh : Session C (Waiting L) G Place := Session.start (create inner timeout)
    ∀ caller ∈ (fresh.after actions).callers, ∃ came, fresh.cameAt actions caller.id = some came ∧
      caller.place.deadline = timeout.map (came + ·) := by
  intro fresh
  induction actions using List.reverseRecOn with
  | nil => exact fun caller waits => nomatch waits
  | append_singleton early action ih =>
    intro caller waits
    rw [Session.after_append] at waits
    rw [Session.cameAt_concat]
    rcases step_hasWaited_or_joins action waits with ⟨waited, nobody⟩ | ⟨joins, deadline⟩
    · obtain ⟨former, mem, id, same⟩ := waited
      obtain ⟨came, since, ends⟩ := ih former mem
      rw [nobody, Option.none_or, ← id, ← same]
      exact ⟨came, since, ends⟩
    · rw [joins, Option.some_or]
      rw [after_timeout] at deadline
      exact ⟨_, rfl, deadline⟩

end Runs

end Waiting
end Admission

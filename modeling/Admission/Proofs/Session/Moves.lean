import Admission.Proofs.Session.Kept
import Mathlib.Logic.Relation

/-!
# What a step can do

To its limiter a session is a room: the places at which callers wait, in the order in which they
came, and the number of jobs which run. This file says once what a step of a session can do to
the room: a few moves, each of which is one call of the limiter, and a mishap at the end when the
limiter meets a fault. An invariant of the moves is an invariant of all runs.
-/

namespace Admission.Session

/-- A limiter, the places at which callers wait for it, and how many jobs run. -/
structure Room (L W : Type) where
  limiter : L
  places : List W
  running : Nat

variable {C L G W : Type}

/-- What a session is to its limiter. -/
def room (session : Session C L G W) : Room L W :=
  ⟨session.limiter, session.callers.map Caller.place, session.held.length⟩

variable (C) [Limiter C L G W]

/-- What happens in a room, apart from callers who join those who wait or go on to wait. -/
inductive Move : Room L W → Room L W → Prop
  | enter {limiter limiter' places running} {ctx : C} {grant}
    (answer : Limiter.acquireNow limiter ctx = (limiter', .ok (some grant))) :
    Move ⟨limiter, places, running⟩ ⟨limiter', places, running + 1⟩
  | deny {limiter limiter' places running} {ctx : C}
    (answer : Limiter.acquireNow limiter ctx = (limiter', .ok none)) :
    Move ⟨limiter, places, running⟩ ⟨limiter', places, running⟩
  | enterFirst {limiter limiter' places running now} {ctx : C} {grant}
    (answer : Limiter.acquire limiter ctx now = (limiter', .ok (.admitted grant))) :
    Move ⟨limiter, places, running⟩ ⟨limiter', places, running + 1⟩
  | refuse {limiter limiter' places running now} {ctx : C} {cause}
    (answer : Limiter.acquire limiter ctx now = (limiter', .ok (.refused cause))) :
    Move ⟨limiter, places, running⟩ ⟨limiter', places, running⟩
  | letIn {limiter limiter' before place after running now} {ctx : C} {grant}
    (answer : Limiter.poll limiter ctx place now = (limiter', .ok (.admitted grant))) :
    Move ⟨limiter, before ++ place :: after, running⟩ ⟨limiter', before ++ after, running + 1⟩
  | expire {limiter limiter' before place after running now} {ctx : C} {cause}
    (answer : Limiter.poll limiter ctx place now = (limiter', .ok (.refused cause))) :
    Move ⟨limiter, before ++ place :: after, running⟩ ⟨limiter', before ++ after, running⟩
  | giveUp {limiter limiter' before place place' after running now} {ctx : C}
    (answer : Limiter.poll limiter ctx place now = (limiter', .ok (.waiting place'))) :
    Move ⟨limiter, before ++ place :: after, running⟩
      ⟨Limiter.abandon C limiter' place', before ++ after, running⟩
  | abandon {limiter before place after running} :
    Move ⟨limiter, before ++ place :: after, running⟩
      ⟨Limiter.abandon C limiter place, before ++ after, running⟩
  | release {limiter limiter' places running grant outcome latency}
    (answer : Limiter.release C limiter grant outcome latency = (limiter', none)) :
    Move ⟨limiter, places, running + 1⟩ ⟨limiter', places, running⟩

/-- A caller joins those who wait. -/
inductive Join : Room L W → Room L W → Prop
  | join {limiter limiter' places place running now} {ctx : C}
    (answer : Limiter.acquire limiter ctx now = (limiter', .ok (.waiting place))) :
    Join ⟨limiter, places, running⟩ ⟨limiter', places ++ [place], running⟩

/-- A caller looks and goes on to wait. -/
inductive Stay : Room L W → Room L W → Prop
  | stay {limiter limiter' before place place' after running now} {ctx : C}
    (answer : Limiter.poll limiter ctx place now = (limiter', .ok (.waiting place'))) :
    Stay ⟨limiter, before ++ place :: after, running⟩
      ⟨limiter', before ++ place' :: after, running⟩

/-- The limiter meets a fault; whoever asked for something goes away empty-handed. -/
inductive Mishap : Fault → Room L W → Room L W → Prop
  | acquireNow {limiter limiter' places running} {ctx : C} {fault}
    (answer : Limiter.acquireNow limiter ctx = (limiter', .error fault)) :
    Mishap fault ⟨limiter, places, running⟩ ⟨limiter', places, running⟩
  | acquire {limiter limiter' places running now} {ctx : C} {fault}
    (answer : Limiter.acquire limiter ctx now = (limiter', .error fault)) :
    Mishap fault ⟨limiter, places, running⟩ ⟨limiter', places, running⟩
  | poll {limiter limiter' before place after running now} {ctx : C} {fault}
    (answer : Limiter.poll limiter ctx place now = (limiter', .error fault)) :
    Mishap fault ⟨limiter, before ++ place :: after, running⟩ ⟨limiter', before ++ after, running⟩
  | release {limiter limiter' places running grant outcome latency fault}
    (answer : Limiter.release C limiter grant outcome latency = (limiter', some fault)) :
    Mishap fault ⟨limiter, places, running + 1⟩ ⟨limiter', places, running⟩

/-- Where the answer is no fault, the room of a session has come to be such as `P` says. Where it is
one, the room was such before the mishap. -/
def Ends (P : Room L W → Prop) (result : Session C L G W × Answer) : Prop :=
  ∃ last, P last ∧ ((result.2.isFault = false ∧ last = result.1.room) ∨
    ∃ fault, result.2 = .fault fault ∧ Mishap C fault last result.1.room)

/-- A room comes to be that of a session by moves. -/
def Passes (start : Room L W) (result : Session C L G W × Answer) : Prop :=
  Ends C (Relation.ReflTransGen (Move C) start) result

variable {C}

lemma Passes.head {start next : Room L W} {result : Session C L G W × Answer}
    (move : Move C start next) (passes : Passes C next result) : Passes C start result := by
  obtain ⟨last, moves, ending⟩ := passes
  exact ⟨last, .head move moves, ending⟩

lemma Passes.move {start : Room L W} {result : Session C L G W × Answer}
    (smooth : result.2.isFault = false) (move : Move C start result.1.room) :
    Passes C start result :=
  ⟨_, .single move, .inl ⟨smooth, rfl⟩⟩

lemma Passes.last {start : Room L W} {result next : Session C L G W × Answer}
    (passes : Passes C start result) (fine : result.2.isFault = false)
    (smooth : next.2.isFault = false) (move : Move C result.1.room next.1.room) :
    Passes C start next := by
  obtain ⟨last, moves, ⟨-, rfl⟩ | ⟨fault, faulty, -⟩⟩ := passes
  · exact ⟨_, .tail moves move, .inl ⟨smooth, rfl⟩⟩
  · rw [faulty] at fine
    cases fine

lemma Passes.mishap {start : Room L W} {result : Session C L G W × Answer}
    {fault : Fault} (faulty : result.2 = .fault fault)
    (mishap : Mishap C fault start result.1.room) : Passes C start result :=
  ⟨_, .refl, .inr ⟨fault, faulty, mishap⟩⟩

lemma release_passes {session : Session C L G W} {start : Room L W} (report : Report G)
    {fine : Answer} (smooth : fine.isFault = false)
    (starts : start = ⟨session.limiter, session.callers.map Caller.place,
      session.held.length + 1⟩) :
    Passes C start (answer (session.report [report]) fine) := by
  subst starts
  rw [report_singleton]
  cases failed : (Limiter.release C session.limiter report.completion report.outcome
      report.latency).2 with
  | none =>
    rw [answer_of_none]
    exact .move smooth (.release (Prod.ext rfl failed))
  | some fault =>
    rw [answer_of_some]
    exact .mishap rfl (.release (Prod.ext rfl failed))

lemma hold_passes {session : Session C L G W} (kept : session.Kept) (id : String) (grant : G) :
    Passes C ⟨session.limiter, session.callers.map Caller.place, session.held.length + 1⟩
      (session.hold id grant) := by
  unfold hold
  cases found : Table.at? session.held id with
  | none =>
    simp only [Option.bind_none, Option.toList_none, report, answer_of_none,
      Table.put_of_at?_none _ found]
    refine ⟨_, .refl, .inl ⟨rfl, ?_⟩⟩
    simp [room]
  | some listener =>
    obtain ⟨before, after, split, other⟩ := Table.split_of_at? found
    obtain ⟨used, unused⟩ := kept.unused (id, listener) (by simp [split])
    simp only [Option.bind_some, Listener.drop_eq_some unused, Option.toList_some]
    apply release_passes _ rfl
    simp [split, Table.put_split _ other]

lemma hold_kept {session : Session C L G W} (kept : session.Kept) (id : String) (grant : G) :
    (session.hold id grant).1.Kept := by
  have put := kept.put id grant session.now
  unfold hold
  rw [answer_fst]
  cases found : Table.at? session.held id with
  | none => exact put
  | some listener =>
    obtain ⟨used, unused, -⟩ := kept.at? found
    simp only [Option.bind_some, Listener.drop_eq_some unused, Option.toList_some]
    rw [report_singleton]
    exact put.withLimiter _

lemma acquireNow_passes {session : Session C L G W} (kept : session.Kept) (id : String) (ctx : C) :
    Passes C session.room (session.acquireNow id ctx) := by
  unfold acquireNow
  split
  · rename_i found
    exact .mishap rfl (.acquireNow found)
  · rename_i found
    exact .move rfl (.deny found)
  · rename_i limiter grant found
    exact .head (.enter found) (hold_passes (kept.withLimiter limiter) id grant)

lemma acquireNow_kept {session : Session C L G W} (kept : session.Kept) (id : String) (ctx : C) :
    (session.acquireNow id ctx).1.Kept := by
  unfold acquireNow
  split
  · exact kept.withLimiter _
  · exact kept.withLimiter _
  · exact hold_kept (kept.withLimiter _) id _

lemma dismiss_moves {session : Session C L G W} (kept : session.Kept) {caller : Caller C W}
    (mem : caller ∈ session.callers) : Move C session.room (session.dismiss caller).room := by
  obtain ⟨before, after, split, others⟩ := kept.split_caller mem
  have forgotten := forget_split
    { session with limiter := Limiter.abandon C session.limiter caller.place } split others
  unfold dismiss
  rw [forgotten]
  simp only [room, split, List.map_append, List.map_cons]
  exact .abandon

lemma dismiss_kept {session : Session C L G W} (kept : session.Kept) (caller : Caller C W) :
    (session.dismiss caller).Kept :=
  (kept.withLimiter _).forget _

lemma acquire_passes {session : Session C L G W} (kept : session.Kept) (id : String) (ctx : C)
    (cancellable : Bool) :
    ∃ next, (next = session.room ∨ Join C session.room next) ∧
      Passes C next (session.acquire id ctx cancellable) := by
  unfold acquire
  split
  · rename_i found
    exact ⟨_, .inl rfl, .mishap rfl (.acquire found)⟩
  · rename_i limiter grant found
    exact ⟨_, .inl rfl, .head (.enterFirst found) (hold_passes (kept.withLimiter limiter) id grant)⟩
  · rename_i found
    exact ⟨_, .inl rfl, .move rfl (.refuse found)⟩
  · rename_i limiter place found
    refine ⟨_, .inr (.join found), ?_⟩
    dsimp only
    cases old : caller? { session with limiter := limiter } id with
    | none =>
      refine ⟨_, .refl, .inl ⟨rfl, ?_⟩⟩
      simp [room]
    | some caller =>
      obtain ⟨mem, -⟩ := mem_of_caller? old
      obtain ⟨before, after, split, others⟩ := kept.split_caller mem
      have forgotten := forget_split
        { session with limiter := Limiter.abandon C limiter caller.place } split others
      simp only [Option.map_some, Option.getD_some, dismiss, forgotten]
      apply Passes.move rfl
      simp only [room, split, List.map_append, List.map_cons, List.map_nil, List.append_assoc,
        List.cons_append]
      exact .abandon

lemma acquire_kept {session : Session C L G W} (kept : session.Kept) (id : String) (ctx : C)
    (cancellable : Bool) : (session.acquire id ctx cancellable).1.Kept := by
  unfold acquire
  split
  · exact kept.withLimiter _
  · exact hold_kept (kept.withLimiter _) id _
  · exact kept.withLimiter _
  · rename_i limiter place found
    dsimp only
    have appended : ∀ {session : Session C L G W}, session.Kept →
        (∀ caller ∈ session.callers, caller.id ≠ id) →
        ({ session with callers := session.callers ++ [⟨id, ctx, place, cancellable, false⟩] } :
          Session C L G W).Kept := by
      intro session kept others
      refine ⟨kept.names, kept.unused, ?_⟩
      rw [List.map_append, List.nodup_append]
      refine ⟨kept.ids, by simp, ?_⟩
      rintro known mem new new_mem rfl
      obtain ⟨caller, caller_mem, rfl⟩ := List.mem_map.mp mem
      rw [List.map_singleton, List.mem_singleton] at new_mem
      exact others caller caller_mem new_mem
    cases old : caller? { session with limiter := limiter } id with
    | none => exact appended (kept.withLimiter limiter) (ne_of_caller?_none old)
    | some caller =>
      obtain ⟨-, named⟩ := mem_of_caller? old
      simp only [Option.map_some, Option.getD_some]
      apply appended (dismiss_kept (kept.withLimiter limiter) caller)
      intro other mem
      rw [← named]
      simpa using (List.mem_filter.mp mem).2

lemma acquireCancelled_passes {session : Session C L G W} (kept : session.Kept) (id : String)
    (ctx : C) (atOnce : Bool) :
    ∃ next, (next = session.room ∨ Join C session.room next) ∧
      Passes C next (session.acquireCancelled id ctx atOnce) := by
  obtain ⟨next, joined, passes⟩ := acquire_passes kept id ctx true
  rcases session.acquireCancelled_cases id ctx atOnce with
    ⟨-, same⟩ | ⟨-, -, same⟩ | ⟨-, pending, caller, found, same⟩
  · rw [same]
    exact ⟨_, .inl rfl, _, .refl, .inl ⟨rfl, rfl⟩⟩
  · rw [same]
    exact ⟨next, joined, passes⟩
  · rw [same]
    refine ⟨next, joined, passes.last ?_ rfl ?_⟩
    · rw [pending]
      rfl
    · exact dismiss_moves (acquire_kept kept id ctx true) (mem_of_caller? found).1

lemma acquireCancelled_kept {session : Session C L G W} (kept : session.Kept) (id : String)
    (ctx : C) (atOnce : Bool) : (session.acquireCancelled id ctx atOnce).1.Kept := by
  have acquired := acquire_kept kept id ctx true
  rcases session.acquireCancelled_cases id ctx atOnce with
    ⟨-, same⟩ | ⟨-, -, same⟩ | ⟨-, -, caller, -, same⟩
  · rw [same]
    exact kept
  · rw [same]
    exact acquired
  · rw [same]
    exact dismiss_kept acquired caller

lemma poll_passes {session : Session C L G W} (kept : session.Kept) {caller : Caller C W}
    (mem : caller ∈ session.callers) :
    Passes C session.room (session.poll caller) ∨
      ((session.poll caller).2 = .pending ∧ Stay C session.room (session.poll caller).1.room) := by
  obtain ⟨before, after, split, others⟩ := kept.split_caller mem
  have forgotten (limiter : L) :
      forget { session with limiter := limiter } caller.id =
        { session with limiter := limiter, callers := before ++ after } :=
    forget_split { session with limiter := limiter } split others
  have start : session.room = ⟨session.limiter, before.map Caller.place ++ caller.place ::
      after.map Caller.place, session.held.length⟩ := by
    simp [room, split]
  unfold poll
  split
  · rename_i limiter fault found
    left
    rw [start, forgotten]
    apply Passes.mishap rfl
    simp only [room, List.map_append]
    exact .poll found
  · rename_i limiter grant found
    left
    rw [start]
    apply Passes.head (.letIn found)
    have held := hold_passes ((kept.withLimiter limiter).forget caller.id) caller.id grant
    rw [forgotten] at held ⊢
    simpa using held
  · rename_i limiter cause found
    left
    rw [start, forgotten]
    apply Passes.move rfl
    simp only [room, List.map_append]
    exact .expire found
  · rename_i limiter place found
    dsimp only
    split
    · left
      rw [start, dismiss]
      dsimp only
      rw [forgotten]
      apply Passes.move rfl
      simp only [room, List.map_append]
      exact .giveUp found
    · right
      refine ⟨rfl, ?_⟩
      have updated := update_split { session with limiter := limiter } caller
        { caller with place := place } rfl split others
      rw [start, updated]
      simp only [room, List.map_append, List.map_cons]
      exact .stay found

lemma poll_pending {session : Session C L G W} (kept : session.Kept) {caller : Caller C W}
    (mem : caller ∈ session.callers) (pending : (session.poll caller).2 = .pending) :
    ∃ limiter place before after,
      Limiter.poll session.limiter caller.ctx caller.place session.now =
        (limiter, .ok (.waiting place)) ∧
      session.callers = before ++ caller :: after ∧
      (session.poll caller).1 = { session with
        limiter := limiter, callers := before ++ { caller with place := place } :: after } := by
  obtain ⟨before, after, split, others⟩ := kept.split_caller mem
  unfold poll at pending ⊢
  split at pending
  · simp at pending
  · unfold hold at pending
    rcases answer_snd_cases pending with admitted | ⟨fault, failed⟩
    · simp at admitted
    · simp at failed
  · simp at pending
  · rename_i limiter place found
    refine ⟨limiter, place, before, after, found, split, ?_⟩
    dsimp only at pending ⊢
    split at pending
    · simp at pending
    · rename_i undecided
      rw [if_neg undecided]
      exact update_split { session with limiter := limiter } caller
        { caller with place := place } rfl split others

lemma poll_kept {session : Session C L G W} (kept : session.Kept) (caller : Caller C W) :
    (session.poll caller).1.Kept := by
  unfold poll
  split
  · exact (kept.withLimiter _).forget _
  · exact hold_kept ((kept.withLimiter _).forget _) _ _
  · exact (kept.withLimiter _).forget _
  · dsimp only
    split
    · exact dismiss_kept (kept.withLimiter _) _
    · exact (kept.withLimiter _).update _

lemma use_passes {session : Session C L G W} (kept : session.Kept) (id : String)
    {how : Listener G → List (Report G)}
    (once : ∀ listener grant, listener.completion = some grant →
      ∃ outcome latency, how listener = [⟨grant, outcome, latency⟩]) :
    Passes C session.room (session.use id how) := by
  unfold use
  cases found : Table.at? session.held id with
  | none => exact ⟨_, .refl, .inl ⟨rfl, rfl⟩⟩
  | some listener =>
    obtain ⟨grant, unused, shorter⟩ := kept.at? found
    obtain ⟨outcome, latency, reports⟩ := once listener grant unused
    dsimp only
    rw [reports]
    apply release_passes _ rfl
    rw [shorter]
    rfl

lemma use_kept {session : Session C L G W} (kept : session.Kept) (id : String)
    {how : Listener G → List (Report G)}
    (once : ∀ listener grant, listener.completion = some grant →
      ∃ outcome latency, how listener = [⟨grant, outcome, latency⟩]) :
    (session.use id how).1.Kept := by
  unfold use
  cases found : Table.at? session.held id with
  | none => exact kept
  | some listener =>
    obtain ⟨grant, unused, -⟩ := kept.at? found
    obtain ⟨outcome, latency, reports⟩ := once listener grant unused
    dsimp only
    rw [reports, answer_fst, report_singleton]
    exact (kept.remove id).withLimiter _

lemma resolve_once (outcome : Outcome) (now : Nat) (listener : Listener G) (grant : G)
    (unused : listener.completion = some grant) :
    ∃ outcome' latency, listener.resolve outcome now = [⟨grant, outcome', latency⟩] :=
  ⟨_, _, Listener.resolve_eq_singleton unused outcome now⟩

lemma drop_once (now : Nat) (listener : Listener G) (grant : G)
    (unused : listener.completion = some grant) :
    ∃ outcome latency, (listener.drop now).toList = [⟨grant, outcome, latency⟩] := by
  rw [Listener.drop_eq_some unused]
  exact ⟨_, _, rfl⟩

lemma step_of_resolves {session : Session C L G W} (kept : session.Kept) {id : String}
    {listener : Listener G} (held : Table.at? session.held id = some listener) {action : Action C}
    (resolves : action.Resolves id) :
    ∃ grant outcome latency, session.step action =
      answer ({ session with
          held := Table.remove session.held id
          limiter := (Limiter.release C session.limiter grant outcome latency).1 },
        (Limiter.release C session.limiter grant outcome latency).2) .ok := by
  obtain ⟨grant, unused, -⟩ := kept.at? held
  cases resolves with
  | resolve outcome =>
    refine ⟨grant, outcome, listener.elapsed session.now, ?_⟩
    simp only [step, use, held, Listener.resolve_eq_singleton unused, report_singleton]
  | drop =>
    refine ⟨grant, .ignore, listener.elapsed session.now, ?_⟩
    simp only [step, use, held, Listener.drop_eq_some unused, Option.toList_some,
      report_singleton]

end Admission.Session

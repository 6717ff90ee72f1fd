import Admission.Proofs.Session.Kept

/-!
# Leaving others out

Two runs of a session are compared: the whole of it, and the part which is left when everything is
left out which is done under certain names. Where a limiter keeps those names apart from the
others, so does the session: the part goes as it goes in the whole.
-/

namespace Admission

variable {C L G W : Type}

/-- Which of a limiter's callers, grants and places are on one side of it. -/
structure Side (C G W : Type) where
  ctx : C → Bool
  grant : G → Bool
  place : W → Bool

namespace Side

/-- What a look has come to is on a side, or is not. -/
def Fits (side : Side C G W) (inside : Bool) : Progress G W → Prop
  | .admitted grant => side.grant grant = inside
  | .refused _ => True
  | .waiting place => side.place place = inside

/-- A relation between limiters which takes note of one side only. Calls on the side have the same
result at both limiters and keep them related; calls on the other side are not noticed. What comes
of a call is on the side of the call. -/
structure Separates [Limiter C L G W] (side : Side C G W) (Alike : L → L → Prop) : Prop where
  acquireNow {whole part : L} (alike : Alike whole part) {ctx : C} (inside : side.ctx ctx = true) :
    Alike (Limiter.acquireNow whole ctx).1 (Limiter.acquireNow part ctx).1 ∧
      (Limiter.acquireNow part ctx).2 = (Limiter.acquireNow whole ctx).2
  acquireNow_other {whole part : L} (alike : Alike whole part) {ctx : C}
    (outside : side.ctx ctx = false) : Alike (Limiter.acquireNow whole ctx).1 part
  acquireNow_fits {whole part : L} (alike : Alike whole part) {ctx : C} {grant : G}
    (granted : (Limiter.acquireNow whole ctx).2 = .ok (some grant)) :
    side.grant grant = side.ctx ctx
  acquire {whole part : L} (alike : Alike whole part) {ctx : C} (now : Nat)
    (inside : side.ctx ctx = true) :
    Alike (Limiter.acquire whole ctx now).1 (Limiter.acquire part ctx now).1 ∧
      (Limiter.acquire part ctx now).2 = (Limiter.acquire whole ctx now).2
  acquire_other {whole part : L} (alike : Alike whole part) {ctx : C} (now : Nat)
    (outside : side.ctx ctx = false) : Alike (Limiter.acquire whole ctx now).1 part
  acquire_fits {whole part : L} (alike : Alike whole part) {ctx : C} {now : Nat}
    {progress : Progress G W} (came : (Limiter.acquire whole ctx now).2 = .ok progress) :
    side.Fits (side.ctx ctx) progress
  poll {whole part : L} (alike : Alike whole part) (ctx : C) {place : W} (now : Nat)
    (inside : side.place place = true) :
    Alike (Limiter.poll whole ctx place now).1 (Limiter.poll part ctx place now).1 ∧
      (Limiter.poll part ctx place now).2 = (Limiter.poll whole ctx place now).2
  poll_other {whole part : L} (alike : Alike whole part) (ctx : C) {place : W} (now : Nat)
    (outside : side.place place = false) : Alike (Limiter.poll whole ctx place now).1 part
  poll_fits {whole part : L} (alike : Alike whole part) {ctx : C} {place : W} {now : Nat}
    {progress : Progress G W} (came : (Limiter.poll whole ctx place now).2 = .ok progress) :
    side.Fits (side.place place) progress
  abandon {whole part : L} (alike : Alike whole part) {place : W}
    (inside : side.place place = true) :
    Alike (Limiter.abandon C whole place) (Limiter.abandon C part place)
  abandon_other {whole part : L} (alike : Alike whole part) {place : W}
    (outside : side.place place = false) : Alike (Limiter.abandon C whole place) part
  release {whole part : L} (alike : Alike whole part) {grant : G} (outcome : Outcome)
    (latency : Nat) (inside : side.grant grant = true) :
    Alike (Limiter.release C whole grant outcome latency).1
        (Limiter.release C part grant outcome latency).1 ∧
      (Limiter.release C part grant outcome latency).2 =
        (Limiter.release C whole grant outcome latency).2
  release_other {whole part : L} (alike : Alike whole part) {grant : G} (outcome : Outcome)
    (latency : Nat) (outside : side.grant grant = false) :
    Alike (Limiter.release C whole grant outcome latency).1 part

end Side

namespace Session

/-- The name of a job or of a caller under which an action is taken. -/
def Action.id? : Action C → Option String
  | .acquireNow id _ | .acquire id _ _ | .acquireCancelled id _ _ | .poll id | .pollCancelled id
  | .cancel id | .abandon id | .resolve id _ | .drop id | .elapsed id => some id
  | .pollWoken | .advance _ => none

/-- An action under one of some names, or one which is taken under none: the clock moves. -/
def Action.concerns (ours : String → Bool) (action : Action C) : Bool := action.id?.all ours

/-- The answers to the actions under some names, in a run of all the actions. -/
def answersTo [Limiter C L G W] (session : Session C L G W) (ours : String → Bool)
    (actions : List (Action C)) : List Answer :=
  ((actions.zip (session.answers actions)).filter (·.1.concerns ours)).map Prod.snd

lemma answersTo_cons_of_pos [Limiter C L G W] {session : Session C L G W} {ours : String → Bool}
    {action : Action C} (concerns : action.concerns ours = true) (rest : List (Action C)) :
    session.answersTo ours (action :: rest) =
      (session.step action).2 :: (session.step action).1.answersTo ours rest := by
  simp [answersTo, answers, concerns]

lemma answersTo_cons_of_neg [Limiter C L G W] {session : Session C L G W} {ours : String → Bool}
    {action : Action C} (others : ¬action.concerns ours = true) (rest : List (Action C)) :
    session.answersTo ours (action :: rest) = (session.step action).1.answersTo ours rest := by
  simp [answersTo, answers, others]

/-- Names tell some callers from the others, and callers look again one by one. -/
def Action.KeepsApart (mine : C → Bool) (ours : String → Bool) : Action C → Prop
  | .acquireNow id ctx | .acquire id ctx _ | .acquireCancelled id ctx _ => mine ctx = ours id
  | .pollWoken => False
  | _ => True

instance (mine : C → Bool) (ours : String → Bool) (action : Action C) :
    Decidable (action.KeepsApart mine ours) :=
  match action with
  | .acquireNow id ctx | .acquire id ctx _ | .acquireCancelled id ctx _ =>
    inferInstanceAs (Decidable (mine ctx = ours id))
  | .pollWoken => isFalse id
  | .poll _ | .pollCancelled _ | .cancel _ | .abandon _ | .resolve _ _ | .drop _ | .elapsed _
  | .advance _ => isTrue trivial

/-- A session, and what is left of it when only what has some names is looked at. -/
structure Parallel (Alike : L → L → Prop) (side : Side C G W) (ours : String → Bool)
    (whole part : Session C L G W) : Prop where
  limiter : Alike whole.limiter part.limiter
  now : part.now = whole.now
  held : part.held = whole.held.filter (ours ·.1)
  callers : part.callers = whole.callers.filter (ours ·.id)
  /-- What is held or waits under a name is on the side of the name. -/
  grants : ∀ entry ∈ whole.held, ∀ grant, entry.2.completion = some grant →
    side.grant grant = ours entry.1
  places : ∀ caller ∈ whole.callers, side.place caller.place = ours caller.id

namespace Parallel

variable {Alike : L → L → Prop} {side : Side C G W} {ours : String → Bool}
  {whole part : Session C L G W} {id : String}

lemma start {limiter limiter' : L} (alike : Alike limiter limiter') :
    Parallel Alike side ours (Session.start limiter) (Session.start limiter') :=
  ⟨alike, rfl, rfl, rfl, nofun, nofun⟩

lemma withLimiter (parallel : Parallel Alike side ours whole part) {limiter limiter' : L}
    (alike : Alike limiter limiter') :
    Parallel Alike side ours { whole with limiter := limiter } { part with limiter := limiter' } :=
  { parallel with limiter := alike }

lemma withLimiter_other (parallel : Parallel Alike side ours whole part) {limiter : L}
    (alike : Alike limiter part.limiter) :
    Parallel Alike side ours { whole with limiter := limiter } part :=
  { parallel with limiter := alike }

lemma at? (parallel : Parallel Alike side ours whole part) (mine : ours id = true) :
    Table.at? part.held id = Table.at? whole.held id := by
  rw [parallel.held, Table.at?_filter _ mine]

lemma caller? (parallel : Parallel Alike side ours whole part) (mine : ours id = true) :
    part.caller? id = whole.caller? id := by
  unfold Session.caller?
  rw [parallel.callers, List.find?_filter]
  congr 1
  funext caller
  by_cases same : caller.id = id
  · simp [same, mine]
  · simp [same]

lemma put_grants (parallel : Parallel Alike side ours whole part) {grant : G}
    (fits : side.grant grant = ours id) (now : Nat) :
    ∀ entry ∈ Table.put whole.held id (Listener.new grant now), ∀ grant,
      entry.2.completion = some grant → side.grant grant = ours entry.1 := by
  intro entry mem completion found
  rcases Table.mem_put mem with rfl | old
  · cases found
    exact fits
  · exact parallel.grants entry old completion found

lemma put (parallel : Parallel Alike side ours whole part) {grant : G}
    (fits : side.grant grant = ours id) (mine : ours id = true) :
    Parallel Alike side ours
      { whole with held := Table.put whole.held id (Listener.new grant whole.now) }
      { part with held := Table.put part.held id (Listener.new grant part.now) } :=
  { parallel with
    held := by rw [parallel.now, Table.filter_put _ _ mine, parallel.held]
    grants := parallel.put_grants fits whole.now }

lemma put_other (parallel : Parallel Alike side ours whole part) {grant : G}
    (fits : side.grant grant = ours id) (other : ours id = false) :
    Parallel Alike side ours
      { whole with held := Table.put whole.held id (Listener.new grant whole.now) } part :=
  { parallel with
    held := by rw [Table.filter_put_other _ _ other, parallel.held]
    grants := parallel.put_grants fits whole.now }

lemma remove (parallel : Parallel Alike side ours whole part) :
    Parallel Alike side ours { whole with held := Table.remove whole.held id }
      { part with held := Table.remove part.held id } :=
  { parallel with
    held := by rw [Table.filter_remove, parallel.held]
    grants := fun entry mem => parallel.grants entry (List.mem_of_mem_filter mem) }

lemma remove_other (parallel : Parallel Alike side ours whole part) (other : ours id = false) :
    Parallel Alike side ours { whole with held := Table.remove whole.held id } part :=
  { parallel with
    held := by rw [Table.filter_remove_other _ other, parallel.held]
    grants := fun entry mem => parallel.grants entry (List.mem_of_mem_filter mem) }

lemma forget (parallel : Parallel Alike side ours whole part) :
    Parallel Alike side ours (whole.forget id) (part.forget id) :=
  { parallel with
    callers := by simp only [Session.forget, parallel.callers, List.filter_comm]
    places := fun caller mem => parallel.places caller (List.mem_of_mem_filter mem) }

lemma forget_other (parallel : Parallel Alike side ours whole part) (other : ours id = false) :
    Parallel Alike side ours (whole.forget id) part :=
  { parallel with
    callers := by
      rw [parallel.callers, Session.forget, List.filter_filter]
      apply List.filter_congr
      intro caller _
      by_cases same : caller.id = id <;> simp [same, other]
    places := fun caller mem => parallel.places caller (List.mem_of_mem_filter mem) }

lemma update_places (parallel : Parallel Alike side ours whole part) {caller : Caller C W}
    (fits : side.place caller.place = ours caller.id) :
    ∀ other ∈ (whole.update caller).callers, side.place other.place = ours other.id := by
  intro other mem
  obtain ⟨old, old_mem, rfl⟩ := List.mem_map.mp mem
  by_cases same : old.id = caller.id
  · rw [if_pos same]
    exact fits
  · rw [if_neg same]
    exact parallel.places old old_mem

/-- Changing the record of a caller changes no names. -/
lemma filter_update (session : Session C L G W) (caller : Caller C W) :
    (session.update caller).callers.filter (ours ·.id) =
      (session.callers.filter (ours ·.id)).map fun other =>
        if other.id = caller.id then caller else other := by
  unfold Session.update
  rw [List.filter_map]
  congr 1
  apply List.filter_congr
  intro other _
  by_cases same : other.id = caller.id <;> simp [same]

lemma update (parallel : Parallel Alike side ours whole part) (caller : Caller C W)
    (fits : side.place caller.place = ours caller.id) :
    Parallel Alike side ours (whole.update caller) (part.update caller) :=
  { parallel with
    callers := by rw [filter_update, Session.update, parallel.callers]
    places := parallel.update_places fits }

lemma update_other (parallel : Parallel Alike side ours whole part) (caller : Caller C W)
    (fits : side.place caller.place = ours caller.id) (other : ours caller.id = false) :
    Parallel Alike side ours (whole.update caller) part :=
  { parallel with
    callers := by
      have unchanged : ∀ mine ∈ whole.callers.filter (ours ·.id), mine.id ≠ caller.id := by
        intro mine mem same
        have inside := (List.mem_filter.mp mem).2
        rw [same, other] at inside
        exact Bool.false_ne_true inside
      rw [filter_update, parallel.callers]
      conv_lhs => rw [← List.map_id (whole.callers.filter (ours ·.id))]
      apply List.map_congr_left
      intro mine mem
      rw [if_neg (unchanged mine mem), id]
    places := parallel.update_places fits }

lemma join_places (parallel : Parallel Alike side ours whole part) {caller : Caller C W}
    (fits : side.place caller.place = ours caller.id) :
    ∀ other ∈ whole.callers ++ [caller], side.place other.place = ours other.id := by
  intro other mem
  rcases List.mem_append.mp mem with old | new
  · exact parallel.places other old
  · rw [List.mem_singleton.mp new]
    exact fits

lemma join (parallel : Parallel Alike side ours whole part) {caller : Caller C W}
    (fits : side.place caller.place = ours caller.id) (mine : ours caller.id = true) :
    Parallel Alike side ours { whole with callers := whole.callers ++ [caller] }
      { part with callers := part.callers ++ [caller] } :=
  { parallel with
    callers := by simp [parallel.callers, mine]
    places := parallel.join_places fits }

lemma join_other (parallel : Parallel Alike side ours whole part) {caller : Caller C W}
    (fits : side.place caller.place = ours caller.id) (other : ours caller.id = false) :
    Parallel Alike side ours { whole with callers := whole.callers ++ [caller] } part :=
  { parallel with
    callers := by simp [parallel.callers, other]
    places := parallel.join_places fits }

/-- Two results: the sessions are parallel, and what came of it is the same. -/
def Agrees {β : Type} (Alike : L → L → Prop) (side : Side C G W) (ours : String → Bool)
    (whole part : Session C L G W × β) : Prop :=
  Parallel Alike side ours whole.1 part.1 ∧ part.2 = whole.2

lemma Agrees.answer {whole part : Session C L G W × Option Fault}
    (agrees : Agrees Alike side ours whole part) (good : Answer) :
    Agrees Alike side ours (answer whole good) (answer part good) := by
  obtain ⟨whole, fault⟩ := whole
  obtain ⟨part, fault'⟩ := part
  obtain ⟨parallel, rfl⟩ := agrees
  cases fault' <;> exact ⟨parallel, rfl⟩

/-- The reports on what is held under a name are on the side of the name. -/
lemma reports_fit (parallel : Parallel Alike side ours whole part) {listener : Listener G}
    (found : Table.at? whole.held id = some listener) {reports : List (Report G)}
    (own : ∀ report ∈ reports, listener.completion = some report.completion) :
    ∀ report ∈ reports, side.grant report.completion = ours id := by
  obtain ⟨before, after, split, -⟩ := Table.split_of_at? found
  intro report mem
  exact parallel.grants (id, listener) (by simp [split]) _ (own report mem)

/-- A listener which was held before under the name is thrown away. -/
lemma previous_fits (parallel : Parallel Alike side ours whole part) (id : String) (now : Nat) :
    ∀ report ∈ ((Table.at? whole.held id).bind (·.drop now)).toList,
      side.grant report.completion = ours id := by
  cases found : Table.at? whole.held id with
  | none => simp
  | some listener =>
    apply parallel.reports_fit found
    intro report mem
    exact Listener.completion_of_drop (Option.mem_toList.mp mem)

lemma fits_of_caller? (parallel : Parallel Alike side ours whole part) {caller : Caller C W}
    (found : whole.caller? id = some caller) :
    caller.id = id ∧ side.place caller.place = ours caller.id :=
  ⟨(mem_of_caller? found).2, parallel.places caller (mem_of_caller? found).1⟩

variable [Limiter C L G W]

lemma report (separates : side.Separates Alike) (parallel : Parallel Alike side ours whole part)
    {reports : List (Report G)}
    (inside : ∀ report ∈ reports, side.grant report.completion = true) :
    Agrees Alike side ours (whole.report reports) (part.report reports) := by
  induction reports generalizing whole part with
  | nil => exact ⟨parallel, rfl⟩
  | cons report rest ih =>
    obtain ⟨alike, same⟩ := separates.release parallel.limiter report.outcome report.latency
      (inside report List.mem_cons_self)
    unfold Session.report
    generalize Limiter.release C whole.limiter report.completion report.outcome report.latency =
      released at alike same ⊢
    generalize Limiter.release C part.limiter report.completion report.outcome report.latency =
      released' at alike same ⊢
    obtain ⟨limiter, fault⟩ := released
    obtain ⟨limiter', fault'⟩ := released'
    obtain rfl : fault' = fault := same
    have moved := parallel.withLimiter alike
    cases fault' with
    | some fault => exact ⟨moved, rfl⟩
    | none => exact ih moved fun report mem => inside report (List.mem_cons_of_mem _ mem)

lemma report_other (separates : side.Separates Alike)
    (parallel : Parallel Alike side ours whole part) {reports : List (Report G)}
    (outside : ∀ report ∈ reports, side.grant report.completion = false) :
    Parallel Alike side ours (whole.report reports).1 part := by
  induction reports generalizing whole with
  | nil => exact parallel
  | cons report rest ih =>
    have alike := separates.release_other parallel.limiter report.outcome report.latency
      (outside report List.mem_cons_self)
    unfold Session.report
    generalize Limiter.release C whole.limiter report.completion report.outcome report.latency =
      released at alike ⊢
    obtain ⟨limiter, fault⟩ := released
    have moved := parallel.withLimiter_other alike
    cases fault with
    | some fault => exact moved
    | none => exact ih moved fun report mem => outside report (List.mem_cons_of_mem _ mem)

lemma hold (separates : side.Separates Alike) (parallel : Parallel Alike side ours whole part)
    {grant : G} (fits : side.grant grant = ours id) (mine : ours id = true) :
    Agrees Alike side ours (whole.hold id grant) (part.hold id grant) := by
  have previous := mine ▸ parallel.previous_fits id whole.now
  have put := parallel.put fits mine
  unfold Session.hold
  rw [parallel.at? mine, parallel.now]
  rw [parallel.now] at put
  exact (report separates put previous).answer _

lemma hold_other (separates : side.Separates Alike)
    (parallel : Parallel Alike side ours whole part) {grant : G}
    (fits : side.grant grant = ours id) (other : ours id = false) :
    Parallel Alike side ours (whole.hold id grant).1 part := by
  have previous := other ▸ parallel.previous_fits id whole.now
  unfold Session.hold
  rw [answer_fst]
  exact report_other separates (parallel.put_other fits other) previous

lemma use (separates : side.Separates Alike) (parallel : Parallel Alike side ours whole part)
    {how : Listener G → List (Report G)}
    (own : ∀ listener, ∀ report ∈ how listener, listener.completion = some report.completion)
    (mine : ours id = true) :
    Agrees Alike side ours (whole.use id how) (part.use id how) := by
  unfold Session.use
  rw [parallel.at? mine]
  cases found : Table.at? whole.held id with
  | none => exact ⟨parallel, rfl⟩
  | some listener =>
    have fit := mine ▸ parallel.reports_fit found (own listener)
    exact (report separates parallel.remove fit).answer _

lemma use_other (separates : side.Separates Alike)
    (parallel : Parallel Alike side ours whole part) {how : Listener G → List (Report G)}
    (own : ∀ listener, ∀ report ∈ how listener, listener.completion = some report.completion)
    (other : ours id = false) : Parallel Alike side ours (whole.use id how).1 part := by
  unfold Session.use
  cases found : Table.at? whole.held id with
  | none => exact parallel
  | some listener =>
    have fit := other ▸ parallel.reports_fit found (own listener)
    dsimp only
    rw [answer_fst]
    exact report_other separates (parallel.remove_other other) fit

lemma dismiss (separates : side.Separates Alike) (parallel : Parallel Alike side ours whole part)
    (caller : Caller C W) (fits : side.place caller.place = ours caller.id)
    (mine : ours caller.id = true) :
    Parallel Alike side ours (whole.dismiss caller) (part.dismiss caller) :=
  (parallel.withLimiter (separates.abandon parallel.limiter (fits.trans mine))).forget

lemma dismiss_other (separates : side.Separates Alike)
    (parallel : Parallel Alike side ours whole part) (caller : Caller C W)
    (fits : side.place caller.place = ours caller.id) (other : ours caller.id = false) :
    Parallel Alike side ours (whole.dismiss caller) part :=
  (parallel.withLimiter_other
    (separates.abandon_other parallel.limiter (fits.trans other))).forget_other other

lemma acquireNow (separates : side.Separates Alike)
    (parallel : Parallel Alike side ours whole part) {ctx : C} (apart : side.ctx ctx = ours id)
    (mine : ours id = true) :
    Agrees Alike side ours (whole.acquireNow id ctx) (part.acquireNow id ctx) := by
  obtain ⟨alike, same⟩ := separates.acquireNow parallel.limiter (apart.trans mine)
  have fits : ∀ {grant}, (Limiter.acquireNow whole.limiter ctx).2 = .ok (some grant) →
      side.grant grant = side.ctx ctx := separates.acquireNow_fits parallel.limiter
  unfold Session.acquireNow
  generalize Limiter.acquireNow whole.limiter ctx = asked at alike same fits ⊢
  generalize Limiter.acquireNow part.limiter ctx = asked' at alike same ⊢
  obtain ⟨limiter, result⟩ := asked
  obtain ⟨limiter', result'⟩ := asked'
  obtain rfl : result' = result := same
  have moved := parallel.withLimiter alike
  rcases result' with fault | _ | grant
  · exact ⟨moved, rfl⟩
  · exact ⟨moved, rfl⟩
  · exact hold separates moved ((fits rfl).trans apart) mine

lemma acquireNow_other (separates : side.Separates Alike)
    (parallel : Parallel Alike side ours whole part) {ctx : C} (apart : side.ctx ctx = ours id)
    (other : ours id = false) :
    Parallel Alike side ours (whole.acquireNow id ctx).1 part := by
  have alike := separates.acquireNow_other parallel.limiter (apart.trans other)
  have fits : ∀ {grant}, (Limiter.acquireNow whole.limiter ctx).2 = .ok (some grant) →
      side.grant grant = side.ctx ctx := separates.acquireNow_fits parallel.limiter
  unfold Session.acquireNow
  generalize Limiter.acquireNow whole.limiter ctx = asked at alike fits ⊢
  obtain ⟨limiter, result⟩ := asked
  have moved := parallel.withLimiter_other alike
  rcases result with fault | _ | grant
  · exact moved
  · exact moved
  · exact hold_other separates moved ((fits rfl).trans apart) other

lemma acquire (separates : side.Separates Alike) (parallel : Parallel Alike side ours whole part)
    {ctx : C} (apart : side.ctx ctx = ours id) (mine : ours id = true) (cancellable : Bool) :
    Agrees Alike side ours (whole.acquire id ctx cancellable)
      (part.acquire id ctx cancellable) := by
  obtain ⟨alike, same⟩ := separates.acquire parallel.limiter whole.now (apart.trans mine)
  have fits : ∀ {progress}, (Limiter.acquire whole.limiter ctx whole.now).2 = .ok progress →
      side.Fits (side.ctx ctx) progress := separates.acquire_fits parallel.limiter
  have now : Limiter.acquire part.limiter ctx part.now =
    Limiter.acquire part.limiter ctx whole.now := by rw [parallel.now]
  unfold Session.acquire
  rw [now]
  generalize Limiter.acquire whole.limiter ctx whole.now = asked at alike same fits ⊢
  generalize Limiter.acquire part.limiter ctx whole.now = asked' at alike same ⊢
  obtain ⟨limiter, result⟩ := asked
  obtain ⟨limiter', result'⟩ := asked'
  obtain rfl : result' = result := same
  have moved := parallel.withLimiter alike
  rcases result' with fault | grant | cause | place
  · exact ⟨moved, rfl⟩
  · exact hold separates moved ((fits rfl).trans apart) mine
  · exact ⟨moved, rfl⟩
  · have joins : side.place place = ours id := Eq.trans (fits rfl) apart
    dsimp only
    rw [moved.caller? mine]
    cases found : Session.caller? { whole with limiter := limiter } id with
    | none => exact ⟨moved.join joins mine, rfl⟩
    | some caller =>
      obtain ⟨rfl, stays⟩ := moved.fits_of_caller? found
      exact ⟨(dismiss separates moved caller stays mine).join joins mine, rfl⟩

lemma acquire_other (separates : side.Separates Alike)
    (parallel : Parallel Alike side ours whole part) {ctx : C} (apart : side.ctx ctx = ours id)
    (other : ours id = false) (cancellable : Bool) :
    Parallel Alike side ours (whole.acquire id ctx cancellable).1 part := by
  have alike := separates.acquire_other parallel.limiter whole.now (apart.trans other)
  have fits : ∀ {progress}, (Limiter.acquire whole.limiter ctx whole.now).2 = .ok progress →
      side.Fits (side.ctx ctx) progress := separates.acquire_fits parallel.limiter
  unfold Session.acquire
  generalize Limiter.acquire whole.limiter ctx whole.now = asked at alike fits ⊢
  obtain ⟨limiter, result⟩ := asked
  have moved := parallel.withLimiter_other alike
  rcases result with fault | grant | cause | place
  · exact moved
  · exact hold_other separates moved ((fits rfl).trans apart) other
  · exact moved
  · have joins : side.place place = ours id := Eq.trans (fits rfl) apart
    dsimp only
    cases found : Session.caller? { whole with limiter := limiter } id with
    | none => exact moved.join_other joins other
    | some caller =>
      obtain ⟨rfl, stays⟩ := moved.fits_of_caller? found
      exact (dismiss_other separates moved caller stays other).join_other joins other

lemma acquireCancelled (separates : side.Separates Alike)
    (parallel : Parallel Alike side ours whole part) {ctx : C} (apart : side.ctx ctx = ours id)
    (mine : ours id = true) (atOnce : Bool) :
    Agrees Alike side ours (whole.acquireCancelled id ctx atOnce)
      (part.acquireCancelled id ctx atOnce) := by
  cases atOnce with
  | true => exact ⟨parallel, rfl⟩
  | false =>
    obtain ⟨moved, same⟩ := acquire separates parallel apart mine true
    unfold Session.acquireCancelled
    rw [if_neg Bool.false_ne_true, if_neg Bool.false_ne_true]
    generalize whole.acquire id ctx true = asked at moved same ⊢
    generalize part.acquire id ctx true = asked' at moved same ⊢
    obtain ⟨next, answer⟩ := asked
    obtain ⟨next', answer'⟩ := asked'
    obtain rfl : answer' = answer := same
    cases answer'
    case pending =>
      dsimp only at moved ⊢
      rw [moved.caller? mine]
      cases found : next.caller? id with
      | none => exact ⟨moved, rfl⟩
      | some caller =>
        obtain ⟨rfl, stays⟩ := moved.fits_of_caller? found
        exact ⟨dismiss separates moved caller stays mine, rfl⟩
    all_goals exact ⟨moved, rfl⟩

lemma acquireCancelled_other (separates : side.Separates Alike)
    (parallel : Parallel Alike side ours whole part) {ctx : C} (apart : side.ctx ctx = ours id)
    (other : ours id = false) (atOnce : Bool) :
    Parallel Alike side ours (whole.acquireCancelled id ctx atOnce).1 part := by
  have acquired := acquire_other separates parallel apart other true
  rcases whole.acquireCancelled_cases id ctx atOnce with
    ⟨-, same⟩ | ⟨-, -, same⟩ | ⟨-, -, caller, found, same⟩
  · rw [same]
    exact parallel
  · rw [same]
    exact acquired
  · rw [same]
    obtain ⟨rfl, stays⟩ := acquired.fits_of_caller? found
    exact dismiss_other separates acquired caller stays other

lemma poll (separates : side.Separates Alike) (parallel : Parallel Alike side ours whole part)
    {caller : Caller C W} (stays : side.place caller.place = ours caller.id)
    (mine : ours caller.id = true) :
    Agrees Alike side ours (whole.poll caller) (part.poll caller) := by
  obtain ⟨alike, same⟩ := separates.poll parallel.limiter caller.ctx whole.now (stays.trans mine)
  have fits : ∀ {progress},
      (Limiter.poll whole.limiter caller.ctx caller.place whole.now).2 = .ok progress →
        side.Fits (side.place caller.place) progress := separates.poll_fits parallel.limiter
  have now : Limiter.poll part.limiter caller.ctx caller.place part.now =
    Limiter.poll part.limiter caller.ctx caller.place whole.now := by rw [parallel.now]
  unfold Session.poll
  rw [now]
  generalize Limiter.poll whole.limiter caller.ctx caller.place whole.now = looked
    at alike same fits ⊢
  generalize Limiter.poll part.limiter caller.ctx caller.place whole.now = looked' at alike same ⊢
  obtain ⟨limiter, result⟩ := looked
  obtain ⟨limiter', result'⟩ := looked'
  obtain rfl : result' = result := same
  have moved := parallel.withLimiter alike
  rcases result' with fault | grant | cause | place
  · exact ⟨moved.forget, rfl⟩
  · exact hold separates moved.forget ((fits rfl).trans stays) mine
  · exact ⟨moved.forget, rfl⟩
  · have waits : side.place place = ours caller.id := Eq.trans (fits rfl) stays
    dsimp only
    split
    · exact ⟨dismiss separates moved { caller with place := place } waits mine, rfl⟩
    · exact ⟨moved.update { caller with place := place } waits, rfl⟩

lemma poll_other (separates : side.Separates Alike)
    (parallel : Parallel Alike side ours whole part) {caller : Caller C W}
    (stays : side.place caller.place = ours caller.id) (other : ours caller.id = false) :
    Parallel Alike side ours (whole.poll caller).1 part := by
  have alike := separates.poll_other parallel.limiter caller.ctx whole.now (stays.trans other)
  have fits : ∀ {progress},
      (Limiter.poll whole.limiter caller.ctx caller.place whole.now).2 = .ok progress →
        side.Fits (side.place caller.place) progress := separates.poll_fits parallel.limiter
  unfold Session.poll
  generalize Limiter.poll whole.limiter caller.ctx caller.place whole.now = looked at alike fits ⊢
  obtain ⟨limiter, result⟩ := looked
  have moved := parallel.withLimiter_other alike
  rcases result with fault | grant | cause | place
  · exact moved.forget_other other
  · exact hold_other separates (moved.forget_other other) ((fits rfl).trans stays) other
  · exact moved.forget_other other
  · have waits : side.place place = ours caller.id := Eq.trans (fits rfl) stays
    dsimp only
    split
    · exact dismiss_other separates moved { caller with place := place } waits other
    · exact moved.update_other { caller with place := place } waits other

lemma pollCancelled (separates : side.Separates Alike)
    (parallel : Parallel Alike side ours whole part) {caller : Caller C W}
    (stays : side.place caller.place = ours caller.id) (mine : ours caller.id = true) :
    Agrees Alike side ours (whole.pollCancelled caller) (part.pollCancelled caller) := by
  unfold Session.pollCancelled
  split
  · exact ⟨dismiss separates parallel caller stays mine, rfl⟩
  · exact poll separates parallel stays mine

lemma pollCancelled_other (separates : side.Separates Alike)
    (parallel : Parallel Alike side ours whole part) {caller : Caller C W}
    (stays : side.place caller.place = ours caller.id) (other : ours caller.id = false) :
    Parallel Alike side ours (whole.pollCancelled caller).1 part := by
  unfold Session.pollCancelled
  split
  · exact dismiss_other separates parallel caller stays other
  · exact poll_other separates parallel stays other

/-- An action under a name on the side comes to the same in both sessions. -/
theorem step (separates : side.Separates Alike) (parallel : Parallel Alike side ours whole part)
    {action : Action C} (apart : action.KeepsApart side.ctx ours)
    (concerns : action.concerns ours = true) :
    Agrees Alike side ours (whole.step action) (part.step action) := by
  cases action with
  | acquireNow id ctx => exact acquireNow separates parallel apart concerns
  | acquire id ctx cancellable => exact acquire separates parallel apart concerns cancellable
  | acquireCancelled id ctx atOnce =>
    exact acquireCancelled separates parallel apart concerns atOnce
  | pollCancelled id =>
    simp only [Session.step]
    rw [parallel.caller? concerns]
    cases found : whole.caller? id with
    | none => exact ⟨parallel, rfl⟩
    | some caller =>
      obtain ⟨rfl, stays⟩ := parallel.fits_of_caller? found
      exact pollCancelled separates parallel stays concerns
  | poll id =>
    simp only [Session.step]
    rw [parallel.caller? concerns]
    cases found : whole.caller? id with
    | none => exact ⟨parallel, rfl⟩
    | some caller =>
      obtain ⟨rfl, stays⟩ := parallel.fits_of_caller? found
      exact poll separates parallel stays concerns
  | pollWoken => exact apart.elim
  | cancel id =>
    simp only [Session.step]
    rw [parallel.caller? concerns]
    cases found : whole.caller? id with
    | none => exact ⟨parallel, rfl⟩
    | some caller =>
      obtain ⟨rfl, stays⟩ := parallel.fits_of_caller? found
      dsimp only
      split
      · exact ⟨parallel.update { caller with cancelled := true } stays, rfl⟩
      · exact ⟨parallel, rfl⟩
  | abandon id =>
    simp only [Session.step]
    rw [parallel.caller? concerns]
    cases found : whole.caller? id with
    | none => exact ⟨parallel, rfl⟩
    | some caller =>
      obtain ⟨rfl, stays⟩ := parallel.fits_of_caller? found
      exact ⟨dismiss separates parallel caller stays concerns, rfl⟩
  | resolve id outcome =>
    simp only [Session.step]
    rw [parallel.now]
    exact use separates parallel (fun _ _ mem => Listener.completion_of_resolve mem) concerns
  | drop id =>
    simp only [Session.step]
    rw [parallel.now]
    exact use separates parallel
      (fun _ _ mem => Listener.completion_of_drop (Option.mem_toList.mp mem)) concerns
  | elapsed id =>
    simp only [Session.step]
    rw [parallel.at? concerns, parallel.now]
    cases Table.at? whole.held id <;> exact ⟨parallel, rfl⟩
  | advance time => exact ⟨{ parallel with now := congrArg (· + time) parallel.now }, rfl⟩

/-- An action under another name does not show in what is left. -/
theorem step_other (separates : side.Separates Alike)
    (parallel : Parallel Alike side ours whole part) {action : Action C}
    (apart : action.KeepsApart side.ctx ours) (other : action.concerns ours = false) :
    Parallel Alike side ours (whole.step action).1 part := by
  cases action with
  | acquireNow id ctx => exact acquireNow_other separates parallel apart other
  | acquire id ctx cancellable => exact acquire_other separates parallel apart other cancellable
  | acquireCancelled id ctx atOnce =>
    exact acquireCancelled_other separates parallel apart other atOnce
  | pollCancelled id =>
    simp only [Session.step]
    cases found : whole.caller? id with
    | none => exact parallel
    | some caller =>
      obtain ⟨rfl, stays⟩ := parallel.fits_of_caller? found
      exact pollCancelled_other separates parallel stays other
  | poll id =>
    simp only [Session.step]
    cases found : whole.caller? id with
    | none => exact parallel
    | some caller =>
      obtain ⟨rfl, stays⟩ := parallel.fits_of_caller? found
      exact poll_other separates parallel stays other
  | pollWoken => exact apart.elim
  | cancel id =>
    simp only [Session.step]
    cases found : whole.caller? id with
    | none => exact parallel
    | some caller =>
      obtain ⟨rfl, stays⟩ := parallel.fits_of_caller? found
      dsimp only
      split
      · exact parallel.update_other { caller with cancelled := true } stays other
      · exact parallel
  | abandon id =>
    simp only [Session.step]
    cases found : whole.caller? id with
    | none => exact parallel
    | some caller =>
      obtain ⟨rfl, stays⟩ := parallel.fits_of_caller? found
      exact dismiss_other separates parallel caller stays other
  | resolve id outcome =>
    exact use_other separates parallel (fun _ _ mem => Listener.completion_of_resolve mem) other
  | drop id =>
    exact use_other separates parallel
      (fun _ _ mem => Listener.completion_of_drop (Option.mem_toList.mp mem)) other
  | elapsed id =>
    simp only [Session.step]
    cases Table.at? whole.held id <;> exact parallel
  | advance time => exact absurd other Bool.true_eq_false.mp

/-- Leaving out everything which is done under other names changes nothing for the side. -/
theorem after (separates : side.Separates Alike) (parallel : Parallel Alike side ours whole part)
    {actions : List (Action C)} (apart : ∀ action ∈ actions, action.KeepsApart side.ctx ours) :
    Parallel Alike side ours (whole.after actions)
        (part.after (actions.filter (Action.concerns ours))) ∧
      part.answers (actions.filter (Action.concerns ours)) = whole.answersTo ours actions := by
  induction actions generalizing whole part with
  | nil => exact ⟨parallel, rfl⟩
  | cons action rest ih =>
    have first := apart action List.mem_cons_self
    have later : ∀ action ∈ rest, action.KeepsApart side.ctx ours :=
      fun action mem => apart action (List.mem_cons_of_mem _ mem)
    cases concerns : action.concerns ours with
    | true =>
      obtain ⟨moved, same⟩ := step separates parallel first concerns
      obtain ⟨ended, answers⟩ := ih moved later
      rw [List.filter_cons_of_pos concerns]
      refine ⟨ended, ?_⟩
      rw [Session.answers, same, answers, answersTo_cons_of_pos concerns]
    | false =>
      have moved := step_other separates parallel first concerns
      have others : ¬action.concerns ours = true := by simp [concerns]
      rw [List.filter_cons_of_neg others, answersTo_cons_of_neg others]
      exact ih moved later

end Parallel
end Session
end Admission

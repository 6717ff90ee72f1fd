import Admission.Proofs.Nesting.Samples

/-!
# Writing down a run

A record is kept from outside: it says when each job got in and where, and how and when each was
over. What the algorithms are given and what the gates count can be read off it, for every nested
limiter and whatever is done to it.
-/

namespace Admission

variable {C β L G W : Type}

/-- A job which runs: the gate at which it got in, if it got in at one, and when. -/
structure Job where
  place : Option (List String)
  since : Nat

/-- What is written down of a run. -/
structure Record where
  /-- The jobs which run, by name. -/
  jobs : Table Job
  /-- What there was to learn, and at which gate. -/
  samples : List (List String × Sample)
  /-- The gates at which moving the limit failed, as often as it did. -/
  jams : List (List String)

namespace Record

def empty : Record := ⟨[], [], []⟩

/-- How many of the jobs which run got in at a gate. -/
def running (record : Record) (path : List String) : Nat :=
  record.jobs.countP (·.2.place = some path)

/-- How many jobs a gate counts. -/
def inFlight (record : Record) (path : List String) : Nat :=
  record.running path + record.jams.count path

def samplesAt (record : Record) (path : List String) : List Sample :=
  (record.samples.filter (·.1 = path)).map (·.2)

/-- A job gets in. One of the same name is thrown away, and nothing is learnt from it. -/
def letIn (record : Record) (id : String) (job : Job) : Record :=
  { record with jobs := Table.put record.jobs id job }

/-- A job is over: unless it is to be ignored there is something to learn, how long it ran, how many
jobs its gate counted, and how it went. -/
def ended (record : Record) (now : Nat) (id : String) (outcome : Outcome) (jammed : Bool) : Record :=
  match Table.at? record.jobs id with
  | none => record
  | some job =>
    let sampled := job.place.toList.filter fun _ => outcome ≠ .ignore
    { jobs := Table.remove record.jobs id
      samples := record.samples ++
        sampled.map fun path => (path, ⟨now - job.since, record.inFlight path, outcome⟩)
      jams := record.jams ++ job.place.toList.filter fun _ => jammed }

lemma inFlight_letIn (record : Record) (id : String) (job : Job) (path : List String) :
    (record.letIn id job).inFlight path +
        Gates.here ((Table.at? record.jobs id).bind Job.place) path =
      record.inFlight path + Gates.here job.place path := by
  have counted := Table.countP_put (p := fun job => job.place = some path) record.jobs id job
  have running : (record.letIn id job).running path +
      Gates.here ((Table.at? record.jobs id).bind Job.place) path =
        record.running path + Gates.here job.place path := by
    unfold running letIn
    cases found : Table.at? record.jobs id <;> simpa [found, Gates.here] using counted
  have jams : (record.letIn id job).jams = record.jams := rfl
  unfold inFlight
  rw [jams]
  omega

section Ended

variable {record : Record} {id : String} {job : Job} (found : Table.at? record.jobs id = some job)
  (now : Nat) (outcome : Outcome) (jammed : Bool) (path : List String)

include found

lemma ended_jobs : (record.ended now id outcome jammed).jobs = Table.remove record.jobs id := by
  simp [ended, found]

lemma samplesAt_ended : (record.ended now id outcome jammed).samplesAt path =
    if job.place = some path ∧ outcome ≠ .ignore then
      record.samplesAt path ++ [⟨now - job.since, record.inFlight path, outcome⟩]
    else record.samplesAt path := by
  obtain ⟨place, since⟩ := job
  unfold samplesAt ended
  rw [found]
  by_cases heard : outcome = .ignore
  · simp [heard]
  · cases place with
    | none => simp
    | some other => by_cases same : other = path <;> simp [heard, same]

lemma running_ended (distinct : Table.Distinct record.jobs) :
    (record.ended now id outcome jammed).running path + Gates.here job.place path =
      record.running path := by
  have counted := distinct.countP_remove found fun job => job.place = some path
  unfold running
  rw [ended_jobs found]
  simpa [Gates.here] using counted

lemma jams_ended : (record.ended now id outcome jammed).jams.count path =
    record.jams.count path + if jammed then Gates.here job.place path else 0 := by
  obtain ⟨place, since⟩ := job
  unfold ended
  rw [found]
  cases place with
  | none => simp
  | some other => cases jammed <;> by_cases same : other = path <;> simp [Gates.here, same]

variable [Algorithm β] {before after : Gates (Metered β)} {fault : Option Fault}
  (leaves : before.Leaves outcome (now - job.since) job.place (after, fault))

include leaves

lemma ended_show (distinct : Table.Distinct record.jobs)
    (shows : before.Show record.samplesAt record.inFlight) :
    let jammed := (job.place.bind before).any (·.jams outcome (now - job.since))
    after.Show (record.ended now id outcome jammed).samplesAt
      (record.ended now id outcome jammed).inFlight := by
  intro jammed path
  have counted : ∀ path, record.inFlight path = (record.ended now id outcome jammed).running path +
      record.jams.count path + Gates.here job.place path := by
    intro path
    have running := running_ended found now outcome jammed path distinct
    unfold inFlight
    omega
  have shown := leaves.show (fun path => counted path ▸ shows path) path
  have left : (record.ended now id outcome jammed).inFlight path =
      (record.ended now id outcome jammed).running path + record.jams.count path +
        if jammed then Gates.here job.place path else 0 := by
    rw [inFlight, jams_ended found, Nat.add_assoc]
  rw [samplesAt_ended found, left]
  by_cases here : job.place = some path
  · have one := counted path
    rw [here, Gates.here_self] at one
    rw [one]
    exact shown
  · simpa [here] using shown

lemma ended_steady (jammed : Bool) :
    before.Steady after record.samplesAt (record.ended now id outcome jammed).samplesAt := by
  apply leaves.steady
  · intro path
    rw [samplesAt_ended found]
    split
    · exact List.prefix_append _ _
    · exact List.prefix_refl _
  · intro path here heard
    rw [samplesAt_ended found, if_pos ⟨here, heard⟩]
    simp

end Ended
end Record

/-- What happens to the jobs of a session. -/
inductive Session.Event (G : Type) where
  | letIn (id : String) (grant : G)
  | ended (id : String) (outcome : Outcome) (jammed : Bool)

/-- Who is let in by a look. -/
def Session.Look.events [Limiter C L G W] (look : Look C L G W) : List (Event G) :=
  (admitted? (Limiter.poll look.session.limiter look.caller.ctx look.caller.place
    look.session.now).2).toList.map (.letIn look.caller.id)

section Clock

variable [Limiter C L G W]

lemma Session.report_now (session : Session C L G W) (reports : List (Report G)) :
    (session.report reports).1.now = session.now := by
  induction reports generalizing session with
  | nil => rfl
  | cons report rest ih =>
    unfold Session.report
    split
    · rfl
    · rename_i limiter _
      exact ih { session with limiter := limiter }

lemma Session.hold_now (session : Session C L G W) (id : String) (grant : G) :
    (session.hold id grant).1.now = session.now := by
  unfold hold
  rw [answer_fst]
  exact report_now { session with
    held := Table.put session.held id (Listener.new grant session.now) } _

lemma Session.poll_now (session : Session C L G W) (caller : Caller C W) :
    (session.poll caller).1.now = session.now := by
  unfold poll
  split
  · rfl
  · exact hold_now _ _ _
  · rfl
  · dsimp only
    split <;> rfl

end Clock

variable [Algorithm β] {lim : Limiter C L G W}

/-- What is to be known of the job of a listener. -/
def Nesting.job (nest : Nesting C (Metered β) lim) (listener : Listener G) : Job :=
  ⟨listener.completion.bind nest.path?, listener.start⟩

namespace Session

/-- Whether choosing or moving the limit fails at the gate of a job when it ends. -/
def jams (session : Session C L G W) (nest : Nesting C (Metered β) lim) (id : String)
    (outcome : Outcome) : Bool :=
  (Table.at? session.held id).any fun listener =>
    ((nest.job listener).place.bind (nest.gates session.limiter)).any
      (·.jams outcome (listener.elapsed session.now))

/-- What happens to jobs in the course of an action. -/
def events (session : Session C L G W) (nest : Nesting C (Metered β) lim) :
    Action C → List (Event G)
  | .acquireNow id ctx =>
    (granted? (Limiter.acquireNow session.limiter ctx).2).toList.map (.letIn id)
  | .acquire id ctx _ | .acquireCancelled id ctx false =>
    (admitted? (Limiter.acquire session.limiter ctx session.now).2).toList.map (.letIn id)
  | .resolve id outcome => [.ended id outcome (session.jams nest id outcome)]
  | .drop id => [.ended id .ignore false]
  | action => (session.looks action).flatMap Look.events

end Session

open Session

namespace Record

variable {nest : Nesting C (Metered β) lim} {record record' record'' : Record}
  {limiter limiter' limiter'' : L} {held held' held'' : Table (Listener G)}

/-- Writes down what has happened at a time. -/
def note (nest : Nesting C (Metered β) lim) (now : Nat) (record : Record) : Event G → Record
  | .letIn id grant => record.letIn id ⟨nest.path? grant, now⟩
  | .ended id outcome jammed => record.ended now id outcome jammed

/-- The record agrees with what is held, and with what the gates show. -/
structure Tells (nest : Nesting C (Metered β) lim) (record : Record) (limiter : L)
    (held : Table (Listener G)) : Prop where
  jobs : record.jobs = held.map (Prod.map id nest.job)
  breeds : nest.Breeds Gate.IsUnused limiter
  shows : (nest.gates limiter).Show record.samplesAt record.inFlight

/-- The record has gone on with the limiter, and limits have been moved only by what was learnt. -/
structure Goes (nest : Nesting C (Metered β) lim) (record : Record) (limiter : L)
    (record' : Record) (limiter' : L) (held' : Table (Listener G)) : Prop where
  tells : record'.Tells nest limiter' held'
  steady : Gates.Steady (nest.gates limiter) (nest.gates limiter') record.samplesAt
    record'.samplesAt

lemma Tells.stays (tells : record.Tells nest limiter held) :
    record.Goes nest limiter record limiter held :=
  ⟨tells, Gates.Steady.refl _ _⟩

lemma Goes.trans (early : record.Goes nest limiter record' limiter' held')
    (late : record'.Goes nest limiter' record'' limiter'' held'') :
    record.Goes nest limiter record'' limiter'' held'' :=
  ⟨late.tells, early.steady.trans late.steady⟩

lemma Tells.at? (tells : record.Tells nest limiter held) (id : String) :
    Table.at? record.jobs id = (Table.at? held id).map nest.job := by
  rw [tells.jobs, Table.at?_map]

/-- Nobody has been let in. -/
lemma Tells.nobody (tells : record.Tells nest limiter held)
    (letsIn : nest.LetsIn Gate.IsUnused limiter none limiter') :
    record.Goes nest limiter record limiter' held :=
  ⟨⟨tells.jobs, letsIn.1, letsIn.2.show tells.shows⟩, letsIn.2.steady _⟩

/-- Whoever has been let in is held from then on. Who was held under the name is thrown away. -/
lemma Tells.hold {session : Session C L G W} (kept : session.Kept)
    (tells : record.Tells nest limiter session.held) (name : String) {grant : G}
    (letsIn : nest.LetsIn Gate.IsUnused limiter (some grant) session.limiter) :
    record.Goes nest limiter (record.note nest session.now (.letIn name grant))
      (session.hold name grant).1.limiter (session.hold name grant).1.held := by
  have steady := letsIn.2.steady record.samplesAt
  have jobs : (record.note nest session.now (.letIn name grant)).jobs =
      (Table.put session.held name (Listener.new grant session.now)).map (Prod.map id nest.job) := by
    rw [← Table.put_map, ← tells.jobs]
    rfl
  -- Until the listener which was held is thrown away its job is counted by its gate.
  have shows : (nest.gates session.limiter).Show record.samplesAt fun path =>
      (record.note nest session.now (.letIn name grant)).inFlight path +
        Gates.here ((Table.at? record.jobs name).bind Job.place) path := by
    have counted := record.inFlight_letIn name ⟨nest.path? grant, session.now⟩
    simp only [note, counted]
    exact letsIn.2.show tells.shows
  rw [tells.at?] at shows
  unfold Session.hold
  rw [answer_fst]
  cases found : Table.at? session.held name with
  | none =>
    rw [found] at shows
    exact ⟨⟨jobs, letsIn.1, shows⟩, steady⟩
  | some listener =>
    obtain ⟨dropped, unused, -⟩ := kept.at? found
    have place : (nest.job listener).place = nest.path? dropped := by
      simp [Nesting.job, unused]
    rw [found, Option.map_some, Option.bind_some, place] at shows
    rw [Option.bind_some, Listener.drop_eq_some unused, Option.toList_some, report_singleton]
    obtain ⟨breeds, leaves⟩ := letsIn.1.release dropped .ignore (listener.elapsed session.now)
    exact ⟨⟨jobs, breeds, leaves.show_ignored shows⟩, steady.trans
      (leaves.steady (fun _ => List.prefix_refl _) fun _ _ heard => absurd rfl heard)⟩

/-- A job is over: the record has the sample which its gate has been given. -/
lemma Tells.use {session : Session C L G W} (kept : session.Kept)
    (tells : record.Tells nest session.limiter session.held) (name : String) (outcome : Outcome)
    {how : Listener G → List (Report G)}
    (reports : ∀ listener grant, listener.completion = some grant →
      how listener = [⟨grant, outcome, listener.elapsed session.now⟩]) :
    record.Goes nest session.limiter
      (record.note nest session.now (.ended name outcome (session.jams nest name outcome)))
      (session.use name how).1.limiter (session.use name how).1.held := by
  have at? := tells.at? name
  unfold Session.use Session.jams
  cases found : Table.at? session.held name with
  | none =>
    rw [found] at at?
    simp only [note, ended, at?, Option.map_none]
    exact tells.stays
  | some listener =>
    obtain ⟨grant, unused, -⟩ := kept.at? found
    have place : (nest.job listener).place = nest.path? grant := by
      simp [Nesting.job, unused]
    rw [found, Option.map_some] at at?
    dsimp only
    rw [answer_fst, reports listener grant unused, report_singleton, Option.any_some]
    have distinct : Table.Distinct record.jobs := tells.jobs ▸ kept.names.map_values nest.job
    obtain ⟨breeds, leaves⟩ := tells.breeds.release grant outcome (listener.elapsed session.now)
    rw [← place] at leaves
    refine ⟨⟨?_, breeds, ended_show at? _ _ leaves distinct tells.shows⟩,
      ended_steady at? _ _ leaves _⟩
    rw [note, ended_jobs at?, tells.jobs, Table.remove_map]

/-- Somebody goes away who has not been let in. -/
lemma Tells.abandons (tells : record.Tells nest limiter held) (place : W) :
    record.Goes nest limiter record (Limiter.abandon C limiter place) held :=
  tells.nobody (tells.breeds.abandon place)

lemma Tells.acquireNow {session : Session C L G W} (kept : session.Kept)
    (tells : record.Tells nest session.limiter session.held) (name : String) (ctx : C) :
    record.Goes nest session.limiter
      ((session.events nest (.acquireNow name ctx)).foldl (note nest session.now) record)
      (session.acquireNow name ctx).1.limiter (session.acquireNow name ctx).1.held := by
  have letsIn := tells.breeds.acquireNow ctx
  dsimp only [events]
  unfold Session.acquireNow
  split
  · rename_i asked
    rw [asked] at letsIn ⊢
    exact tells.nobody letsIn
  · rename_i asked
    rw [asked] at letsIn ⊢
    exact tells.nobody letsIn
  · rename_i limiter grant asked
    rw [asked] at letsIn ⊢
    have held : record.Tells nest session.limiter { session with limiter := limiter }.held := tells
    exact Tells.hold (kept.withLimiter limiter) held name letsIn

lemma Tells.acquire {session : Session C L G W} (kept : session.Kept)
    (tells : record.Tells nest session.limiter session.held) (name : String) (ctx : C)
    (cancellable : Bool) :
    record.Goes nest session.limiter
      ((session.events nest (.acquire name ctx cancellable)).foldl (note nest session.now) record)
      (session.acquire name ctx cancellable).1.limiter
      (session.acquire name ctx cancellable).1.held := by
  have letsIn := tells.breeds.acquire ctx session.now
  dsimp only [events]
  unfold Session.acquire
  split
  · rename_i asked
    rw [asked] at letsIn ⊢
    exact tells.nobody letsIn
  · rename_i limiter grant asked
    rw [asked] at letsIn ⊢
    have held : record.Tells nest session.limiter { session with limiter := limiter }.held := tells
    exact Tells.hold (kept.withLimiter limiter) held name letsIn
  · rename_i asked
    rw [asked] at letsIn ⊢
    exact tells.nobody letsIn
  · rename_i limiter place asked
    rw [asked] at letsIn ⊢
    have joins := tells.nobody letsIn
    dsimp only
    cases caller? { session with limiter := limiter } name with
    | none => exact joins
    | some caller => exact joins.trans (joins.tells.abandons caller.place)

lemma Tells.acquireCancelled {session : Session C L G W} (kept : session.Kept)
    (tells : record.Tells nest session.limiter session.held) (name : String) (ctx : C)
    (atOnce : Bool) :
    record.Goes nest session.limiter
      ((session.events nest (.acquireCancelled name ctx atOnce)).foldl (note nest session.now) record)
      (session.acquireCancelled name ctx atOnce).1.limiter
      (session.acquireCancelled name ctx atOnce).1.held := by
  have asks := tells.acquire kept name ctx true
  rcases session.acquireCancelled_cases name ctx atOnce with ⟨rfl, same⟩ | ⟨rfl, -, same⟩ |
    ⟨rfl, -, caller, -, same⟩
  · rw [same]
    exact tells.stays
  · rw [same]
    exact asks
  · rw [same]
    exact asks.trans (asks.tells.abandons caller.place)

lemma Tells.poll {session : Session C L G W} (kept : session.Kept)
    (tells : record.Tells nest session.limiter session.held) (caller : Caller C W) :
    record.Goes nest session.limiter
      ((Look.events ⟨session, caller⟩).foldl (note nest session.now) record)
      (session.poll caller).1.limiter (session.poll caller).1.held := by
  have letsIn := tells.breeds.poll caller.ctx caller.place session.now
  unfold Session.poll Look.events
  split
  · rename_i looked
    rw [looked] at letsIn ⊢
    exact tells.nobody letsIn
  · rename_i limiter grant looked
    rw [looked] at letsIn ⊢
    have held : record.Tells nest session.limiter
        (forget { session with limiter := limiter } caller.id).held := tells
    exact Tells.hold ((kept.withLimiter limiter).forget caller.id) held caller.id letsIn
  · rename_i looked
    rw [looked] at letsIn ⊢
    exact tells.nobody letsIn
  · rename_i limiter place looked
    rw [looked] at letsIn ⊢
    have stays := tells.nobody letsIn
    dsimp only
    split
    · exact stays.trans (stays.tells.abandons place)
    · exact stays

/-- The looks of those who were woken, one after the other. -/
lemma Tells.pollWoken {session : Session C L G W} (kept : session.Kept)
    (tells : record.Tells nest session.limiter session.held) (looks : Nat)
    (answers : List (String × Session.Answer)) :
    record.Goes nest session.limiter
      (((looksOfWoken looks session).flatMap Look.events).foldl (note nest session.now) record)
      (Session.pollWoken looks session answers).1.limiter
      (Session.pollWoken looks session answers).1.held := by
  induction looks generalizing session record answers with
  | zero => exact tells.stays
  | succ looks ih =>
    unfold Session.pollWoken looksOfWoken
    cases session.callers.find? session.isWoken with
    | none => exact tells.stays
    | some caller =>
      have looked := tells.poll kept caller
      have kept_next := poll_kept kept caller
      dsimp only
      rw [List.flatMap_cons, List.foldl_append]
      generalize (Look.events ⟨session, caller⟩).foldl (note nest session.now) record = noted
        at looked ⊢
      rw [← session.poll_now caller]
      generalize session.poll caller = result at looked kept_next ⊢
      obtain ⟨next, answer⟩ := result
      cases answer
      case fault fault => exact looked
      all_goals exact looked.trans (ih kept_next looked.tells _)

/-- The record goes on with every step. -/
theorem Tells.step {session : Session C L G W} (kept : session.Kept)
    (tells : record.Tells nest session.limiter session.held) (action : Action C) :
    record.Goes nest session.limiter
      ((session.events nest action).foldl (note nest session.now) record)
      (session.step action).1.limiter (session.step action).1.held := by
  cases action with
  | acquireNow id ctx => exact tells.acquireNow kept id ctx
  | acquire id ctx cancellable => exact tells.acquire kept id ctx cancellable
  | acquireCancelled id ctx atOnce => exact tells.acquireCancelled kept id ctx atOnce
  | poll id =>
    simp only [Session.step, events, looks]
    cases session.caller? id with
    | none => exact tells.stays
    | some caller =>
      rw [Option.map_some, Option.toList_some, List.flatMap_singleton]
      exact tells.poll kept caller
  | pollCancelled id =>
    simp only [Session.step, events, looks]
    cases session.caller? id with
    | none => exact tells.stays
    | some caller =>
      cases cancelled : caller.cancelled with
      | true =>
        rw [Option.filter_some, cancelled]
        dsimp only
        rw [pollCancelled_of_cancelled cancelled]
        exact tells.abandons caller.place
      | false =>
        rw [Option.filter_some, cancelled]
        dsimp only
        rw [pollCancelled_of_not_cancelled cancelled]
        simp only [Bool.not_false, if_true, Option.map_some, Option.toList_some,
          List.flatMap_singleton]
        exact tells.poll kept caller
  | pollWoken => exact tells.pollWoken kept _ []
  | cancel id =>
    simp only [Session.step, events, looks]
    cases session.caller? id with
    | none => exact tells.stays
    | some caller =>
      dsimp only
      split <;> exact tells.stays
  | abandon id =>
    simp only [Session.step, events, looks]
    cases session.caller? id with
    | none => exact tells.stays
    | some caller => exact tells.abandons caller.place
  | resolve id outcome =>
    exact tells.use kept id outcome fun listener grant unused =>
      Listener.resolve_eq_singleton unused outcome session.now
  | drop id =>
    have ignored : session.jams nest id .ignore = false := by
      simp [Session.jams]
    have dropped := tells.use kept id .ignore fun listener grant unused =>
      congrArg Option.toList (Listener.drop_eq_some unused session.now)
    rw [ignored] at dropped
    exact dropped
  | elapsed id =>
    simp only [Session.step, events, looks]
    cases Table.at? session.held id <;> exact tells.stays
  | advance time => exact tells.stays

/-- The record of a run. -/
def after (nest : Nesting C (Metered β) lim) (record : Record) (session : Session C L G W) :
    List (Action C) → Record
  | [] => record
  | action :: rest => after nest ((session.events nest action).foldl (note nest session.now) record)
      (session.step action).1 rest

theorem Tells.after {session : Session C L G W} (kept : session.Kept)
    (tells : record.Tells nest session.limiter session.held) (actions : List (Action C)) :
    record.Goes nest session.limiter (record.after nest session actions)
      (session.after actions).limiter (session.after actions).held := by
  induction actions generalizing session record with
  | nil => exact tells.stays
  | cons action rest ih =>
    have first := tells.step kept action
    exact first.trans (ih (step_kept kept action) first.tells)

lemma after_append (nest : Nesting C (Metered β) lim) (record : Record)
    (session : Session C L G W) (early late : List (Action C)) :
    record.after nest session (early ++ late) =
      (record.after nest session early).after nest (session.after early) late := by
  induction early generalizing session record with
  | nil => rfl
  | cons action rest ih => exact ih _ _

/-- Before anything has happened there is nothing to tell. -/
lemma tells_empty (built : nest.IsBuilt Gate.IsUnused limiter) :
    empty.Tells nest (start limiter : Session C L G W).limiter
      (start limiter : Session C L G W).held := by
  obtain ⟨breeds, fresh⟩ := built.breeds
  refine ⟨rfl, breeds, fun path => ?_⟩
  change Gate.Shows (nest.gates limiter path) _ _
  cases known : nest.gates limiter path with
  | none => exact ⟨rfl, rfl⟩
  | some gate => exact (fresh path gate known).counts

end Record

/-- The record of a run shows what every gate of a nested limiter has seen. The jobs which run are
those of the listeners which are held. The gate's algorithm has been given the samples of the record
and no others: one for each job which succeeded or was dropped, in the order in which they were
over, with the time since the job got in and with the number of jobs which the gate counted. The
gate counts the jobs which run, and those over which choosing or moving its limit failed. And the
limit is the one which the gate had when it had been given as many samples for the first time. -/
theorem samples_record_the_run {nest : Nesting C (Metered β) lim} {limiter : L}
    (built : nest.IsBuilt Gate.IsUnused limiter) (actions : List (Action C)) :
    let session := (start limiter).after actions
    let record := Record.empty.after nest (start limiter) actions
    record.jobs = session.held.map (Prod.map id nest.job) ∧
    ∀ path gate, nest.gates session.limiter path = some gate →
      gate.algorithm.samples = some (record.samplesAt path) ∧
      gate.inFlight = record.running path + record.jams.count path ∧
      ∀ early late gate', actions = early ++ late →
        nest.gates ((start limiter).after early).limiter path = some gate' →
        (Record.empty.after nest (start limiter) early).samplesAt path = record.samplesAt path →
        gate'.limit = gate.limit := by
  intro session record
  have kept : (start limiter : Session C L G W).Kept := start_kept limiter
  have tells := ((Record.tells_empty built).after kept actions).tells
  refine ⟨tells.jobs, fun path gate known => ?_⟩
  have shown := tells.shows path
  rw [known] at shown
  refine ⟨shown.1, shown.2, fun early late gate' split known' same => ?_⟩
  have rest := ((Record.tells_empty built).after kept early).tells.after (after_kept kept early) late
  rw [← Record.after_append, ← after_append, ← split] at rest
  obtain ⟨gate'', known'', still⟩ := rest.steady.limit path gate' known'
  cases known.symm.trans known''
  exact (still same.symm).symm

/-- A partition of two permits in which callers wait. -/
def recordedLine : Partitioned String (Waiting (Gate (Metered Fixed))) where
  config :=
    { limit := 2, weights := [("p", .finite Double.one)], resolver := some some
      fallback := .reject, unlisted := none }
  make share := (Gate.create (Metered.recorded ⟨share⟩)).map (Waiting.create · none)
  children := []
  made := []
  unlistedCount := 0

/-- The third caller waits for the first one to be done, and is done before the second. -/
def threeJobs : List (Action String) :=
  [.acquire "a" "p" false, .advance 3, .acquire "b" "p" false, .acquire "c" "p" false, .advance 4,
    .resolve "a" .success, .advance 1, .pollWoken, .advance 5, .resolve "c" .dropped, .drop "b"]

theorem samples_record_the_run_of_three_jobs :
    let nest : Nesting String (Metered Fixed) _ := .partitioned (.waiting .gate)
    nest.IsBuilt Gate.IsUnused recordedLine ∧
      (Record.empty.after nest (start recordedLine) threeJobs).samplesAt ["p"] =
        [⟨7, 2, .success⟩, ⟨5, 2, .dropped⟩] ∧
      ∃ gate, nest.gates ((start recordedLine).after threeJobs).limiter ["p"] = some gate ∧
        gate.algorithm.samples = some [⟨7, 2, .success⟩, ⟨5, 2, .dropped⟩] ∧
        gate.inFlight = 0 := by
  intro nest
  have built : nest.IsBuilt Gate.IsUnused recordedLine := by
    refine ⟨recordedLine.config, recordedLine.make, rfl, fun share inner made => ?_⟩
    obtain ⟨gate, created, rfl⟩ := exists_of_map_eq_ok made
    exact ⟨gate, none, rfl, ⟨share⟩, created⟩
  have samples : (Record.empty.after nest (start recordedLine) threeJobs).samplesAt ["p"] =
      [⟨7, 2, .success⟩, ⟨5, 2, .dropped⟩] := by decide +kernel
  obtain ⟨gate, there⟩ : ∃ gate,
      nest.gates ((start recordedLine).after threeJobs).limiter ["p"] = some gate :=
    Option.isSome_iff_exists.mp (by decide +kernel)
  have told := (samples_record_the_run built threeJobs).2 ["p"] gate there
  rw [samples] at told
  exact ⟨built, samples, gate, there, told.1, told.2.1.trans (by decide +kernel)⟩

/-- A gate whose algorithm raises the limit by more than the permits which can be counted. -/
def eager : Gate (Metered Aimd) :=
  let rule : Aimd :=
    { limit := 2, decreaseFactor := Double.ofRatio 9 10, increase := maxPermits + 1
      maximum := maxPermits + 101, minUtilisation := Double.ofRatio 6 (Nat.pow 10 19) }
  { algorithm := Metered.recorded rule, limit := 2, available := 2, inFlight := 0, debt := 0 }

/-- Raising the limit fails over the first job. A sample which comes later counts that job, too,
although only one job is running, and the limit is raised again. -/
theorem sample_counts_a_job_which_is_over :
    Gate.create eager.algorithm = .ok eager ∧
      let before : List (Action Unit) :=
        [.acquireNow "a" (), .resolve "a" .success, .acquireNow "b" ()]
      ((start eager).after before).held.length = 1 ∧
      ((start eager).after before).limiter.limit = maxPermits + 3 ∧
      let session := (start eager).after (before ++ [.resolve "b" .success])
      session.limiter.algorithm.samples = some [⟨0, 1, .success⟩, ⟨0, 2, .success⟩] ∧
      session.limiter.limit = maxPermits + 101 := by
  refine ⟨rfl, ?_⟩
  decide +kernel

end Admission

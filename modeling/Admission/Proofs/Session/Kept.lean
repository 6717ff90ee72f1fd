import Admission.Proofs.Session.Run
import Admission.Proofs.Table

/-!
# What a session keeps

No two jobs are held under one name and no two callers wait under one name, and a listener which
is held has not been used up. So taking out a name takes out one job or one caller, and every job
which is taken out reports once.
-/

namespace Admission

namespace Listener

variable {κ : Type}

lemma drop_eq_some {listener : Listener κ} {completion : κ}
    (unused : listener.completion = some completion) (now : Nat) :
    listener.drop now = some ⟨completion, .ignore, listener.elapsed now⟩ := by
  simp [drop, complete, unused]

lemma resolve_eq_singleton {listener : Listener κ} {completion : κ}
    (unused : listener.completion = some completion) (outcome : Outcome) (now : Nat) :
    listener.resolve outcome now = [⟨completion, outcome, listener.elapsed now⟩] := by
  simp [resolve, drop, complete, unused]

lemma completion_of_drop {listener : Listener κ} {now : Nat} {report : Report κ}
    (dropped : listener.drop now = some report) : listener.completion = some report.completion := by
  unfold drop complete at dropped
  obtain ⟨completion, unused, rfl⟩ := Option.map_eq_some_iff.mp dropped
  exact unused

lemma completion_of_resolve {listener : Listener κ} {outcome : Outcome} {now : Nat}
    {report : Report κ} (mem : report ∈ listener.resolve outcome now) :
    listener.completion = some report.completion := by
  cases unused : listener.completion with
  | none => simp [resolve, drop, complete, unused] at mem
  | some completion =>
    rw [resolve_eq_singleton unused, List.mem_singleton] at mem
    rw [mem]

end Listener

namespace Session

variable {C L G W : Type}

/-- Names are used once and listeners are unused. -/
structure Kept (session : Session C L G W) : Prop where
  names : Table.Distinct session.held
  unused : ∀ entry ∈ session.held, ∃ grant, entry.2.completion = some grant
  ids : (session.callers.map Caller.id).Nodup

lemma start_kept (limiter : L) : (start limiter : Session C L G W).Kept :=
  ⟨List.nodup_nil, by simp [start], List.nodup_nil⟩

/-- The place of a caller in the line, and what taking the caller out or changing the caller's
record comes to. -/
lemma Kept.split_caller {session : Session C L G W} (kept : session.Kept) {caller : Caller C W}
    (mem : caller ∈ session.callers) :
    ∃ before after, session.callers = before ++ caller :: after ∧
      (∀ other ∈ before ++ after, other.id ≠ caller.id) := by
  obtain ⟨before, after, split⟩ := List.append_of_mem mem
  have ids := kept.ids
  rw [split] at ids
  exact ⟨before, after, split, Table.ne_of_nodup_map ids⟩

lemma forget_split (session : Session C L G W) {before after : List (Caller C W)}
    {caller : Caller C W} (split : session.callers = before ++ caller :: after)
    (others : ∀ other ∈ before ++ after, other.id ≠ caller.id) :
    session.forget caller.id = { session with callers := before ++ after } := by
  have others_kept : (before ++ after).filter (fun other => decide (other.id ≠ caller.id)) =
      before ++ after :=
    List.filter_eq_self.mpr fun other mem => by simpa using others other mem
  unfold forget
  rw [split, List.filter_append, List.filter_cons_of_neg (by simp), ← List.filter_append,
    others_kept]

lemma update_split (session : Session C L G W) {before after : List (Caller C W)}
    (caller changed : Caller C W) (same : changed.id = caller.id)
    (split : session.callers = before ++ caller :: after)
    (others : ∀ other ∈ before ++ after, other.id ≠ caller.id) :
    session.update changed = { session with callers := before ++ changed :: after } := by
  have unchanged : ∀ part : List (Caller C W), (∀ other ∈ part, other.id ≠ caller.id) →
      part.map (fun other => if other.id = changed.id then changed else other) = part := by
    intro part different
    conv_rhs => rw [← List.map_id part]
    apply List.map_congr_left
    intro other mem
    rw [same, if_neg (different other mem), id]
  unfold update
  rw [split, List.map_append, List.map_cons, if_pos same.symm,
    unchanged before fun other mem => others other (List.mem_append_left _ mem),
    unchanged after fun other mem => others other (List.mem_append_right _ mem)]

lemma mem_of_caller? {session : Session C L G W} {id : String} {caller : Caller C W}
    (found : session.caller? id = some caller) : caller ∈ session.callers ∧ caller.id = id := by
  unfold caller? at found
  exact ⟨List.mem_of_find?_eq_some found, by simpa using List.find?_some found⟩

lemma Kept.caller?_of_mem {session : Session C L G W} (kept : session.Kept) {caller : Caller C W}
    (mem : caller ∈ session.callers) : session.caller? caller.id = some caller := by
  obtain ⟨before, after, split, others⟩ := kept.split_caller mem
  have not_before : before.find? (fun other => decide (other.id = caller.id)) = none := by
    rw [List.find?_eq_none]
    intro other other_mem
    simpa using others other (List.mem_append_left _ other_mem)
  rw [caller?, split, List.find?_append, not_before, Option.none_or,
    List.find?_cons_of_pos (by simp)]

lemma ne_of_caller?_none {session : Session C L G W} {id : String}
    (absent : session.caller? id = none) : ∀ caller ∈ session.callers, caller.id ≠ id := by
  intro caller mem
  simpa using List.find?_eq_none.mp absent caller mem

lemma Kept.forget {session : Session C L G W} (kept : session.Kept) (id : String) :
    (session.forget id).Kept :=
  ⟨kept.names, kept.unused, kept.ids.sublist (List.filter_sublist.map Caller.id)⟩

lemma update_ids (session : Session C L G W) (changed : Caller C W) :
    (session.update changed).callers.map Caller.id = session.callers.map Caller.id := by
  unfold update
  rw [List.map_map]
  apply List.map_congr_left
  intro other _
  by_cases same : other.id = changed.id <;> simp [same]

lemma Kept.update {session : Session C L G W} (kept : session.Kept) (changed : Caller C W) :
    (session.update changed).Kept := by
  refine ⟨kept.names, kept.unused, ?_⟩
  rw [update_ids]
  exact kept.ids

lemma Kept.withLimiter {session : Session C L G W} (kept : session.Kept) (limiter : L) :
    ({ session with limiter := limiter } : Session C L G W).Kept :=
  ⟨kept.names, kept.unused, kept.ids⟩

lemma Kept.put {session : Session C L G W} (kept : session.Kept) (id : String) (grant : G)
    (now : Nat) :
    ({ session with held := Table.put session.held id (Listener.new grant now) } :
      Session C L G W).Kept := by
  cases found : Table.at? session.held id with
  | none =>
    rw [Table.put_of_at?_none _ found]
    refine ⟨kept.names.append_new _ found, fun entry mem => ?_, kept.ids⟩
    rcases List.mem_append.mp mem with mem | mem
    · exact kept.unused entry mem
    · rw [List.mem_singleton.mp mem]
      exact ⟨grant, rfl⟩
  | some listener =>
    obtain ⟨before, after, split, other⟩ := Table.split_of_at? found
    have names := kept.names
    have unused := kept.unused
    rw [split] at names unused ⊢
    rw [Table.put_split _ other]
    refine ⟨names.replace _, fun entry mem => ?_, kept.ids⟩
    rw [List.mem_append, List.mem_cons] at mem
    rcases mem with mem | rfl | mem
    · exact unused entry (by simp [mem])
    · exact ⟨grant, rfl⟩
    · exact unused entry (by simp [mem])

lemma Kept.remove {session : Session C L G W} (kept : session.Kept) (id : String) :
    ({ session with held := Table.remove session.held id } : Session C L G W).Kept := by
  refine ⟨?_, fun entry mem => kept.unused entry (List.mem_of_mem_filter mem), kept.ids⟩
  exact List.Nodup.sublist (List.filter_sublist.map Prod.fst) kept.names

lemma Kept.at? {session : Session C L G W} (kept : session.Kept) {id : String}
    {listener : Listener G} (found : Table.at? session.held id = some listener) :
    ∃ grant, listener.completion = some grant ∧
      (Table.remove session.held id).length + 1 = session.held.length := by
  obtain ⟨before, after, split, other⟩ := Table.split_of_at? found
  obtain ⟨grant, unused⟩ := kept.unused (id, listener) (by simp [split])
  refine ⟨grant, unused, ?_⟩
  have names := kept.names
  rw [split] at names ⊢
  rw [Table.remove_split names]
  simp only [List.length_append, List.length_cons]
  omega

lemma answer_of_some (session : Session C L G W) (fault : Fault) (fine : Answer) :
    answer (session, some fault) fine = (session, .fault fault) := rfl

lemma answer_of_none (session : Session C L G W) (fine : Answer) :
    answer (session, none) fine = (session, fine) := rfl

lemma answer_fst (result : Session C L G W × Option Fault) (fine : Answer) :
    (answer result fine).1 = result.1 := by
  obtain ⟨session, fault⟩ := result
  cases fault <;> rfl

lemma answer_snd_cases {result : Session C L G W × Option Fault} {good found : Answer}
    (answers : (answer result good).2 = found) : good = found ∨ ∃ fault, .fault fault = found := by
  obtain ⟨session, fault⟩ := result
  cases fault with
  | none => exact .inl answers
  | some fault => exact .inr ⟨fault, answers⟩

lemma answer_snd {result : Session C L G W × Option Fault} {good : Answer}
    (fine : (answer result good).2.isFault = false) : (answer result good).2 = good := by
  obtain ⟨session, fault⟩ := result
  cases fault with
  | none => rfl
  | some fault => exact absurd fine Bool.noConfusion

variable [Limiter C L G W]

lemma report_singleton (session : Session C L G W) (report : Report G) :
    session.report [report] =
      ({ session with limiter := (Limiter.release C session.limiter report.completion
          report.outcome report.latency).1 },
        (Limiter.release C session.limiter report.completion report.outcome report.latency).2) := by
  unfold Session.report
  split
  · rename_i found
    simp [found]
  · rename_i found
    simp [found, Session.report]

lemma report_callers (session : Session C L G W) (reports : List (Report G)) :
    (session.report reports).1.callers = session.callers := by
  induction reports generalizing session with
  | nil => rfl
  | cons report rest ih =>
    unfold Session.report
    split
    · rfl
    · rename_i limiter _
      exact ih { session with limiter := limiter }

lemma answer_report_callers (session : Session C L G W) (reports : List (Report G))
    (good : Answer) : (answer (session.report reports) good).1.callers = session.callers := by
  rw [answer_fst]
  exact report_callers session reports

lemma hold_callers (session : Session C L G W) (id : String) (grant : G) :
    (session.hold id grant).1.callers = session.callers :=
  answer_report_callers _ _ _

/-- Whoever has to wait is there afterwards. -/
lemma caller?_of_acquire_pending {session : Session C L G W} {id : String} {ctx : C}
    {cancellable : Bool} (pending : (session.acquire id ctx cancellable).2 = .pending) :
    ∃ caller, (session.acquire id ctx cancellable).1.caller? id = some caller := by
  unfold acquire at pending ⊢
  split at pending
  · cases pending
  · unfold hold at pending
    rcases answer_snd_cases pending with admitted | ⟨fault, failed⟩
    · cases admitted
    · cases failed
  · cases pending
  · apply Option.isSome_iff_exists.mp
    rw [caller?, List.find?_isSome]
    exact ⟨_, List.mem_append_right _ (List.mem_singleton_self _), decide_eq_true rfl⟩

/-- One who was told to give up before asking does not ask, or does as others do, but goes away
where they would wait. -/
lemma acquireCancelled_cases (session : Session C L G W) (id : String) (ctx : C) (atOnce : Bool) :
    (atOnce = true ∧ session.acquireCancelled id ctx atOnce = (session, .refused .cancelled)) ∨
      (atOnce = false ∧ (session.acquire id ctx true).2 ≠ .pending ∧
        session.acquireCancelled id ctx atOnce = session.acquire id ctx true) ∨
      (atOnce = false ∧ (session.acquire id ctx true).2 = .pending ∧
        ∃ caller, (session.acquire id ctx true).1.caller? id = some caller ∧
          session.acquireCancelled id ctx atOnce =
            ((session.acquire id ctx true).1.dismiss caller, .refused .cancelled)) := by
  cases atOnce with
  | true => exact .inl ⟨rfl, rfl⟩
  | false =>
    right
    have there : (session.acquire id ctx true).2 = .pending →
        ∃ caller, (session.acquire id ctx true).1.caller? id = some caller :=
      caller?_of_acquire_pending
    unfold acquireCancelled
    rw [if_neg Bool.false_ne_true]
    generalize session.acquire id ctx true = result at there ⊢
    obtain ⟨next, answer⟩ := result
    cases answer
    case pending =>
      obtain ⟨caller, found⟩ := there rfl
      exact .inr ⟨rfl, rfl, caller, found, by dsimp only at found ⊢; rw [found]; rfl⟩
    all_goals exact .inl ⟨rfl, by simp, rfl⟩

lemma pollCancelled_of_cancelled {session : Session C L G W} {caller : Caller C W}
    (cancelled : caller.cancelled = true) :
    session.pollCancelled caller = (session.dismiss caller, .refused .cancelled) :=
  if_pos cancelled

lemma pollCancelled_of_not_cancelled {session : Session C L G W} {caller : Caller C W}
    (undecided : caller.cancelled = false) : session.pollCancelled caller = session.poll caller :=
  if_neg (Bool.not_eq_true _ ▸ undecided)

end Session
end Admission

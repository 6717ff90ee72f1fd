import Admission.Proofs.Desk.Calls
import Admission.Proofs.Gate.Loans
import Admission.Proofs.Nesting.Gates

/-!
# Passes on loan

Whoever asks at once for several passes holds permits of the gates at which they were got. As long
as all of them go back and are ignored, every gate which has no debt beside free permits is left as
it was, in whatever order that happens. And no gate has more passes out than its limit and its debt
allow.
-/

namespace Admission

open Function (update)

variable {C α L G W : Type}

namespace Gate

/-- A gate covers some jobs; where there is no gate there are none. -/
def CoversAt : Option (Gate α) → Nat → Prop
  | none, jobs => jobs = 0
  | some gate, jobs => gate.Covers jobs

/-- Some more jobs have got in at a gate and nothing else has happened there; where there is no gate
there are none. -/
def LendsAt : Option (Gate α) → Nat → Option (Gate α) → Prop
  | none, jobs, after => jobs = 0 ∧ after = none
  | some gate, jobs, after => jobs ≤ gate.available ∧ after = some (gate.lend jobs)

lemma lendsAt_zero (gate : Option (Gate α)) : LendsAt gate 0 gate := by
  cases gate with
  | none => exact ⟨rfl, rfl⟩
  | some gate => exact ⟨Nat.zero_le _, rfl⟩

lemma LendsAt.of_some {before : Option (Gate α)} {jobs : Nat} {after : Gate α}
    (lends : LendsAt before jobs (some after)) :
    ∃ gate, before = some gate ∧ jobs ≤ gate.available ∧ after = gate.lend jobs := by
  cases before with
  | none => cases lends.2
  | some gate => exact ⟨gate, rfl, lends.1, Option.some.inj lends.2⟩

end Gate

namespace Gates

variable {P : Gate α → Prop} {base before after : Gates α} {place : Option (List String)}
  {counts others : List String → Nat}

/-- Every gate covers the jobs which have got in at it and not left. -/
def Covers (gates : Gates α) (counts : List String → Nat) : Prop :=
  ∀ path, Gate.CoversAt (gates path) (counts path)

/-- No gate has free permits and debt at the same time. -/
def Apart (gates : Gates α) : Prop := ∀ path gate, gates path = some gate → gate.Apart

/-- Some more jobs have got in at the gates, and nothing else has happened. -/
def Lends (before : Gates α) (counts : List String → Nat) (after : Gates α) : Prop :=
  ∀ path, Gate.LendsAt (before path) (counts path) (after path)

lemma lends_nothing (gates : Gates α) : gates.Lends (fun _ => 0) gates :=
  fun _ => Gate.lendsAt_zero _

/-- When all permits have come back, the gates are as they were. -/
lemma Lends.back (lends : before.Lends (fun _ => 0) after) : after = before := by
  funext path
  have lent := lends path
  cases known : before path with
  | none =>
    rw [known] at lent
    exact lent.2
  | some gate =>
    rw [known] at lent
    exact lent.2

/-- Where gates are made after some jobs have got in, they might have been made before. -/
lemma Lends.grows (lends : base.Lends counts before) (grows : Grows P before after) :
    ∃ grown, Grows P base grown ∧ grown.Lends counts after := by
  refine ⟨fun path => (base path).or (after path), fun path => ?_, fun path => ?_⟩
  · have lent := lends path
    dsimp only
    cases known : base path with
    | some gate => exact .inl rfl
    | none =>
      rw [known] at lent
      rcases grows path with same | ⟨-, made⟩
      · exact .inl (same.trans lent.2)
      · exact .inr ⟨rfl, made⟩
  · have lent := lends path
    dsimp only
    cases known : base path with
    | some gate =>
      rw [known] at lent
      rcases grows path with same | ⟨absent, -⟩
      · exact ⟨lent.1, same.trans lent.2⟩
      · cases lent.2.symm.trans absent
    | none =>
      rw [known] at lent
      rw [lent.1]
      exact Gate.lendsAt_zero _

/-- One more job may get in, at a gate which may have been made for it. -/
lemma Lends.takes (lends : base.Lends counts before) (takes : Takes P before place after) :
    ∃ grown, Grows P base grown ∧
      grown.Lends (fun path => counts path + here place path) after := by
  obtain ⟨middle, grows, enters⟩ := takes
  obtain ⟨grown, base_grows, lends⟩ := lends.grows grows
  refine ⟨grown, base_grows, ?_⟩
  cases enters with
  | nowhere => exact lends
  | @gate path gate entered known enters =>
    intro other
    have lent := lends other
    dsimp only
    by_cases same : other = path
    · subst same
      rw [known] at lent
      obtain ⟨own, has, -, rfl⟩ := lent.of_some
      obtain ⟨free, rfl⟩ := Gate.enter?_lend enters
      rw [Function.update_self, here_self, has]
      exact ⟨free, rfl⟩
    · rw [Function.update_of_ne same, here_of_ne same]
      exact lent

variable [Algorithm α]

lemma Grows.covers (grows : Grows P before after) (fresh : ∀ gate, P gate → gate.IsNew)
    (covers : before.Covers counts) : after.Covers counts := by
  intro path
  have covered := covers path
  rcases grows path with same | ⟨absent, gate, known, new⟩
  · rw [same]
    exact covered
  · rw [absent] at covered
    rw [known, show counts path = 0 from covered]
    exact (fresh gate new).permits.2

lemma Grows.apart (grows : Grows P before after) (fresh : ∀ gate, P gate → gate.IsNew)
    (apart : before.Apart) : after.Apart := by
  intro path gate known
  rcases grows path with same | ⟨-, made, known', new⟩
  · exact apart path gate (same.symm.trans known)
  · cases known'.symm.trans known
    exact (fresh gate new).permits.1

lemma Takes.apart (takes : Takes P before place after) (fresh : ∀ gate, P gate → gate.IsNew)
    (apart : before.Apart) : after.Apart := by
  obtain ⟨grown, grows, enters⟩ := takes
  have apart := grows.apart fresh apart
  cases enters with
  | nowhere => exact apart
  | @gate path gate entered known enters =>
    intro other there found
    by_cases same : other = path
    · subst same
      rw [Function.update_self] at found
      cases found
      exact (apart _ _ known).enter enters
    · rw [Function.update_of_ne same] at found
      exact apart other there found

lemma Leaves.apart {outcome : Outcome} {latency : Nat} {fault : Option Fault}
    (leaves : Leaves before outcome latency place (after, fault)) (apart : before.Apart)
    (fine : Algorithm.AlwaysChooses α ∨ fault = none) : after.Apart := by
  cases leaves with
  | outside => exact apart
  | nowhere absent => exact apart
  | @gate path gate known =>
    intro other there found
    by_cases same : other = path
    · subst same
      rw [Function.update_self] at found
      cases found
      exact (apart _ _ known).leave outcome latency fine
    · rw [Function.update_of_ne same] at found
      exact apart other there found

lemma Takes.covers (takes : Takes P before place after) (fresh : ∀ gate, P gate → gate.IsNew)
    (covers : before.Covers counts) :
    after.Covers fun path => counts path + here place path := by
  obtain ⟨grown, grows, enters⟩ := takes
  have covers := grows.covers fresh covers
  cases enters with
  | nowhere => exact covers
  | @gate path gate entered known enters =>
    intro other
    have covered := covers other
    dsimp only
    by_cases same : other = path
    · subst same
      rw [known] at covered
      rw [Function.update_self, here_self]
      exact Gate.Covers.enter covered enters
    · rw [Function.update_of_ne same, here_of_ne same]
      exact covered

lemma Leaves.covers {outcome : Outcome} {latency : Nat} {fault : Option Fault}
    (leaves : Leaves before outcome latency place (after, fault))
    (covers : before.Covers fun path => counts path + here place path) : after.Covers counts := by
  cases leaves with
  | outside => exact covers
  | @nowhere path absent =>
    -- Nobody can have got in where there is no gate.
    have covered := covers path
    dsimp only at covered
    rw [absent, here_self] at covered
    cases covered
  | @gate path gate known =>
    intro other
    have covered := covers other
    dsimp only at covered
    by_cases same : other = path
    · subst same
      rw [known, here_self] at covered
      rw [Function.update_self]
      exact Gate.Covers.leave outcome latency covered
    · rw [here_of_ne same] at covered
      rw [Function.update_of_ne same]
      exact covered

/-- A job which is ignored takes nothing with it. There is only a fault over it if the permits of its
gate cannot be counted. -/
lemma Lends.leaves {latency : Nat} {fault : Option Fault} (apart : base.Apart)
    (covers : base.Covers others)
    (lends : base.Lends (fun path => counts path + here place path) before)
    (leaves : Leaves before .ignore latency place (after, fault)) :
    base.Lends counts after ∧ (fault.isSome → ∃ path gate, place = some path ∧
      base path = some gate ∧ maxPermits < gate.limit) := by
  cases leaves with
  | outside => exact ⟨lends, nofun⟩
  | @nowhere path absent =>
    have lent := lends path
    dsimp only at lent
    rw [absent, here_self] at lent
    cases known : base path with
    | none =>
      rw [known] at lent
      cases lent.1
    | some gate =>
      rw [known] at lent
      cases lent.2
  | @gate path gate known =>
    have lent := lends path
    dsimp only at lent
    rw [known, here_self] at lent
    obtain ⟨own, has, backed, rfl⟩ := lent.of_some
    have covered := covers path
    rw [has] at covered
    obtain ⟨same, overflows⟩ := Gate.leave_lend (apart _ _ has) covered backed latency
    refine ⟨fun other => ?_, fun fault => ⟨path, own, rfl, has, overflows fault⟩⟩
    by_cases there : other = path
    · subst there
      rw [Function.update_self, has, same]
      exact ⟨Nat.le_of_succ_le backed, rfl⟩
    · have lent := lends other
      dsimp only at lent
      rw [here_of_ne there] at lent
      rw [Function.update_of_ne there]
      exact lent

end Gates

namespace Nesting

variable [Algorithm α] {P : Gate α → Prop} {lim : Limiter C L G W} {nest : Nesting C α lim}

/-- The keys which lead to the gate at which a pass was got, if it was got at one. -/
def place (nest : Nesting C α lim) (pass : Pass G) : Option (List String) :=
  pass.listener.completion.bind nest.path?

/-- How many of some passes were got at each gate. -/
def count (nest : Nesting C α lim) (passes : List (Pass G)) (path : List String) : Nat :=
  passes.countP (nest.place · = some path)

lemma count_cons (pass : Pass G) (passes : List (Pass G)) :
    nest.count (pass :: passes) = fun path =>
      nest.count passes path + Gates.here (nest.place pass) path := by
  funext path
  simp [count, List.countP_cons, Gates.here]

lemma count_perm {passes others : List (Pass G)} (same : passes.Perm others) :
    nest.count passes = nest.count others := funext fun _ => same.countP_eq _

/-- Every gate covers the passes which somebody holds, also those which are yet to be made, of which
`P` is true. Unless a fault was met over a report, no gate has free permits and debt at the same
time; nor has it if the algorithms never fail to choose a limit. -/
structure Backs (P : Gate α → Prop) (nest : Nesting C α lim) (state : Desk L × List (Pass G)) :
    Prop where
  fresh : ∀ gate, P gate → gate.IsNew
  breeds : nest.Breeds P state.1.limiter
  covers : (nest.gates state.1.limiter).Covers (nest.count state.2)
  apart : Algorithm.AlwaysChooses α ∨ state.1.IsFaultless → (nest.gates state.1.limiter).Apart

lemma Breeds.answers {limiter next : L} {grant : Option G}
    (breeds : nest.Breeds P limiter) (answers : Limiter.Answers C limiter grant next) :
    nest.LetsIn P limiter grant next := by
  cases answers with
  | acquireNow ctx => exact breeds.acquireNow ctx
  | acquire ctx now => exact breeds.acquire ctx now
  | poll ctx place now => exact breeds.poll ctx place now
  | abandon place => exact breeds.abandon place

/-- A pass which goes back leaves the gate at which it was got. -/
lemma Breeds.resolve {desk : Desk L} (breeds : nest.Breeds P desk.limiter)
    (pass : Pass G) (outcome : Outcome) (now : Nat) (cleaning : Bool) :
    nest.Breeds P (desk.resolve C pass outcome now cleaning).1.limiter ∧
      ∃ fault, Gates.Leaves (nest.gates desk.limiter) outcome (pass.listener.elapsed now)
          (nest.place pass)
          (nest.gates (desk.resolve C pass outcome now cleaning).1.limiter, fault) ∧
        (desk.resolve C pass outcome now cleaning).2 = Fault.met cleaning fault := by
  unfold place
  cases has : pass.listener.completion with
  | none =>
    rw [Desk.resolve_of_used has]
    exact ⟨breeds, none, .outside, (Fault.met_none cleaning).symm⟩
  | some grant =>
    rw [Desk.resolve_of_completion has]
    obtain ⟨breeds, leaves⟩ := breeds.release grant outcome (pass.listener.elapsed now)
    exact ⟨breeds, _, leaves, rfl⟩

theorem Backs.deal {before after : Desk L × List (Pass G)} (backs : nest.Backs P before)
    (deal : Desk.Deals C before after) : nest.Backs P after := by
  obtain ⟨fresh, breeds, covers, apart⟩ := backs
  cases deal with
  | answer answers =>
    obtain ⟨breeds, takes⟩ := breeds.answers answers
    exact ⟨fresh, breeds, takes.covers fresh covers, fun fine => takes.apart fresh (apart fine)⟩
  | @handOut desk passes limiter grant answers now =>
    obtain ⟨breeds, takes⟩ := breeds.answers answers
    refine ⟨fresh, breeds, ?_, fun fine => takes.apart fresh (apart fine)⟩
    rw [count_cons]
    exact takes.covers fresh covers
  | @report desk pass passes outcome now cleaning =>
    obtain ⟨breeds, fault, leaves, met⟩ := breeds.resolve pass outcome now cleaning
    rw [count_cons] at covers
    refine ⟨fresh, breeds, leaves.covers covers, fun fine => ?_⟩
    have earlier := Or.imp_right (Desk.IsFaultless.of_resolve (C := C)) fine
    refine leaves.apart (apart (earlier.imp_right And.left)) (earlier.imp_right fun fine => ?_)
    exact Fault.met_eq_none.mp (met.symm.trans fine.2)
  | reorder same =>
    refine ⟨fresh, breeds, ?_, apart⟩
    rw [← count_perm same]
    exact covers

/-- Whatever happens at a desk, every gate covers the passes which somebody holds, and unless a
fault is met it keeps free permits and debt apart. -/
theorem Backs.dealings {before after : Desk L × List (Pass G)} (backs : nest.Backs P before)
    (dealings : Desk.Dealings C before after) : nest.Backs P after := by
  induction dealings with
  | refl => exact backs
  | tail _ deal ih => exact ih.deal deal

lemma IsBuilt.backs {limiter : L} (built : nest.IsBuilt P limiter)
    (fresh : ∀ gate, P gate → gate.IsNew) :
    nest.Backs P (Desk.create limiter, ([] : List (Pass G))) := by
  obtain ⟨breeds, new⟩ := built.breeds
  refine ⟨fresh, breeds, fun path => ?_, fun _ path gate known => ?_⟩
  · change Gate.CoversAt (nest.gates limiter path) 0
    cases known : nest.gates limiter path with
    | none => exact rfl
    | some gate => exact (fresh gate (new path gate known)).permits.2
  · exact (fresh gate (new path gate known)).permits.1

section Batches

variable {base : Gates α} {desk last : Desk L} {ctx : C} {now : Nat} {passes : List (Pass G)}
  {counts others : List String → Nat}

/-- Passes which are got at once are lent by the gates, and no gate is changed otherwise. -/
lemma lends_admits (admits : Desk.Admits ctx now desk passes last)
    (breeds : nest.Breeds P desk.limiter)
    (lends : base.Lends counts (nest.gates desk.limiter)) :
    nest.Breeds P last.limiter ∧ ∃ grown, Gates.Grows P base grown ∧
      grown.Lends (fun path => counts path + nest.count passes path) (nest.gates last.limiter) := by
  induction admits generalizing base counts with
  | none => exact ⟨breeds, base, Gates.Grows.refl base, lends⟩
  | @more desk next last pass passes got _ ih =>
    obtain ⟨limiter, grant, asked, given⟩ := Desk.acquireNow_granted got
    cases given
    have letsIn := breeds.acquireNow ctx
    rw [asked] at letsIn
    obtain ⟨breeds, takes⟩ := letsIn
    obtain ⟨grown, grows, lends⟩ := lends.takes takes
    obtain ⟨breeds, last_grown, last_grows, lends⟩ := ih breeds lends
    refine ⟨breeds, last_grown, grows.trans last_grows, fun path => ?_⟩
    rw [count_cons]
    dsimp only
    rw [Nat.add_comm (nest.count passes path), ← Nat.add_assoc]
    exact lends path

/-- When passes go back and are ignored, the gates have their permits back. That breaks down only if
the permits of a gate cannot be counted. -/
lemma lends_resolveAll (now : Nat) (apart : base.Apart) (covers : base.Covers others)
    (breeds : nest.Breeds P desk.limiter)
    (lends : base.Lends (fun path => counts path + nest.count passes path)
      (nest.gates desk.limiter)) :
    ((desk.resolveAll C .ignore now false passes).2 = none →
      base.Lends counts (nest.gates (desk.resolveAll C .ignore now false passes).1.limiter)) ∧
    ((desk.resolveAll C .ignore now false passes).2.isSome → ∃ pass ∈ passes, ∃ path gate,
      nest.place pass = some path ∧ base path = some gate ∧ maxPermits < gate.limit) := by
  induction passes generalizing desk with
  | nil => exact ⟨fun _ => lends, fun fault => absurd fault Bool.false_ne_true⟩
  | cons pass rest ih =>
    rw [count_cons] at lends
    simp only [← Nat.add_assoc] at lends
    obtain ⟨breeds, fault, leaves, met⟩ := breeds.resolve pass .ignore now false
    obtain ⟨lends, overflows⟩ := lends.leaves apart covers leaves
    obtain rfl : _ = fault := met
    unfold Desk.resolveAll
    generalize desk.resolve C pass .ignore now false = result at breeds lends overflows ⊢
    obtain ⟨next, _ | fault⟩ := result
    · obtain ⟨back, rest_overflows⟩ := ih breeds lends
      refine ⟨back, fun fault => ?_⟩
      obtain ⟨other, mem, found⟩ := rest_overflows fault
      exact ⟨other, List.mem_cons_of_mem _ mem, found⟩
    · refine ⟨fun fine => absurd fine (Option.some_ne_none _), fun _ => ?_⟩
      exact ⟨pass, List.mem_cons_self, overflows rfl⟩

end Batches

end Nesting
end Admission

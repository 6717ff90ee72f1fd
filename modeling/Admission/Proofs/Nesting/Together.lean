import Admission.Proofs.Nesting.Loans
import Admission.Proofs.Nesting.Ways

/-!
# Passes which are got together

Somebody who needs several passes takes the first one as it comes and asks at once for the others.
All of them are got at the gate of the first. As long as no gate has free permits beside debt, all
gates are left as they were before the first if there are not enough, and more than the limit of the
gate there never are.
-/

namespace Admission.Nesting

variable {C α L G W : Type} [Algorithm α] {P : Gate α → Prop} {lim : Limiter C L G W}
  {nest : Nesting C α lim}
  {desk looked last : Desk L} {held passes : List (Pass G)} {pass : Pass G} {ctx : C} {now more : Nat}
  {path : List String} {gate : Gate α} {others counts : List String → Nat} {base : Gates α}
  {result : Desk L × Except Fault (Option (List (Pass G)))}

/-- Passes for which somebody asks at once, one after the other, are got at the same gate. -/
lemma Leads.admits (leads : nest.Leads desk.limiter ctx path)
    (admits : Desk.Admits ctx now desk passes last) :
    nest.Leads last.limiter ctx path ∧ ∀ pass ∈ passes, nest.place pass = some path := by
  induction admits with
  | none => exact ⟨leads, fun _ mem => absurd mem List.not_mem_nil⟩
  | @more desk next last pass passes got _ ih =>
    obtain ⟨limiter, grant, asked, given⟩ := Desk.acquireNow_granted got
    cases given
    obtain ⟨way, answers⟩ := leads.acquireNow
    rw [asked] at way answers
    obtain ⟨leads, all⟩ := ih way
    refine ⟨leads, List.forall_mem_cons.mpr ⟨?_, all⟩⟩
    rcases answers with denied | ⟨_, granted, path⟩
    · cases denied
    · cases granted
      exact path

lemma count_of_all (all : ∀ pass ∈ passes, nest.place pass = some path) :
    nest.count passes path = passes.length :=
  List.countP_eq_length.mpr fun pass mem => decide_eq_true (all pass mem)

/-- The first pass has come from a gate, and nothing else has happened at the gates, except that new
ones were made, of which `P` is true. -/
structure Starts (P : Gate α → Prop) (nest : Nesting C α lim) (desk : Desk L) (pass : Pass G)
    (looked : Desk L) : Prop where
  breeds : nest.Breeds P looked.limiter
  takes : Gates.Takes P (nest.gates desk.limiter) (nest.place pass)
    (nest.gates looked.limiter)

/-- The gate at which the first pass was got. -/
lemma Starts.known (starts : nest.Starts P desk pass looked) (place : nest.place pass = some path) :
    ∃ gate, nest.gates looked.limiter path = some gate := by
  obtain ⟨-, grown, -, enters⟩ := starts
  rw [place] at enters
  generalize nest.gates looked.limiter = after at enters ⊢
  cases enters with
  | gate => exact ⟨_, Function.update_self ..⟩

/-- The gates have lent what somebody has got at once after a first pass. -/
lemma Starts.lends (starts : nest.Starts P desk pass looked)
    (admits : Desk.Admits ctx now looked passes last) :
    nest.Breeds P last.limiter ∧
      ∃ grown, Gates.Grows P (nest.gates desk.limiter) grown ∧
        grown.Lends (nest.count (pass :: passes)) (nest.gates last.limiter) := by
  obtain ⟨early, early_grows, lends⟩ := (Gates.lends_nothing _).takes starts.takes
  obtain ⟨breeds, grown, grows, lends⟩ := lends_admits admits starts.breeds lends
  refine ⟨breeds, grown, early_grows.trans grows, ?_⟩
  have same : nest.count (pass :: passes) = fun path =>
      0 + Gates.here (nest.place pass) path + nest.count passes path := by
    rw [count_cons]
    funext path
    omega
  rwa [same]

/-- Whoever is denied takes nothing from the gates. -/
lemma lends_denied (breeds : nest.Breeds P desk.limiter)
    (lends : base.Lends counts (nest.gates desk.limiter))
    (asked : desk.acquireNow ctx now = (last, .ok none)) :
    nest.Breeds P last.limiter ∧
      ∃ grown, Gates.Grows P base grown ∧
        grown.Lends counts (nest.gates last.limiter) := by
  have letsIn := breeds.acquireNow ctx
  rw [(Desk.acquireNow_refused asked).1] at letsIn
  exact ⟨letsIn.1, lends.takes letsIn.2⟩

/-- What comes of putting back all passes when one more is denied: the gates are as they were,
unless there is a fault over it, and that there is only if the permits of a gate cannot be counted
at which one of them was got. -/
lemma Starts.putBack (starts : nest.Starts P desk pass looked) (backs : nest.Backs P (desk, held))
    (apart : (nest.gates desk.limiter).Apart)
    (admits : Desk.Admits ctx now looked passes last) {next : Desk L}
    (asked : last.acquireNow ctx now = (next, .ok none)) :
    ((next.resolveAll C .ignore now false (pass :: passes)).2 = none →
      Gates.Grows P (nest.gates desk.limiter)
        (nest.gates (next.resolveAll C .ignore now false (pass :: passes)).1.limiter)) ∧
    ((next.resolveAll C .ignore now false (pass :: passes)).2.isSome →
      ∃ lent ∈ pass :: passes, ∃ path gate, nest.place lent = some path ∧
        nest.gates next.limiter path = some gate ∧ maxPermits < gate.limit) := by
  obtain ⟨breeds, early, early_grows, lends⟩ := starts.lends admits
  obtain ⟨breeds, grown, grows, lends⟩ := lends_denied breeds lends asked
  have all_grows := early_grows.trans grows
  have owed : grown.Lends (fun path => 0 + nest.count (pass :: passes) path)
      (nest.gates next.limiter) := by simpa only [Nat.zero_add] using lends
  obtain ⟨back, overflows⟩ := lends_resolveAll now (all_grows.apart backs.fresh apart)
    (all_grows.covers backs.fresh backs.covers) breeds owed
  refine ⟨fun fine => ?_, fun fault => ?_⟩
  · rw [(back fine).back]
    exact all_grows
  obtain ⟨lent, mem, path, gate, place, known, beyond⟩ := overflows fault
  have here := lends path
  rw [known] at here
  exact ⟨lent, mem, path, _, place, here.2, beyond⟩

/-- If not all passes are to be had, every gate there was is left exactly as it was before the first
pass, its algorithm included. -/
theorem Starts.refused (starts : nest.Starts P desk pass looked) (backs : nest.Backs P (desk, held))
    (apart : (nest.gates desk.limiter).Apart)
    (acquires : Desk.AcquiresMore looked ctx now [pass] more (last, .ok none)) :
    Gates.Grows P (nest.gates desk.limiter) (nest.gates last.limiter) := by
  cases acquires with
  | refused admits short asked ignored =>
    have grows := (starts.putBack backs apart admits asked).1
    rw [List.singleton_append] at ignored
    rw [ignored] at grows
    exact grows rfl

section Limits

variable (starts : nest.Starts P desk pass looked) (backs : nest.Backs P (desk, held))
  (apart : (nest.gates desk.limiter).Apart)
  (leads : nest.Leads looked.limiter ctx path) (place : nest.place pass = some path)
  (known : nest.gates looked.limiter path = some gate)

include starts backs apart leads place known

/-- There are no more passes than the limit of the gate, which does not move. -/
lemma Starts.le_limit (admits : Desk.Admits ctx now looked passes last) :
    passes.length + 1 ≤ gate.limit ∧
      ∃ lent, nest.gates last.limiter path = some lent ∧ lent.limit = gate.limit := by
  obtain ⟨-, all⟩ := leads.admits admits
  -- As seen from the first pass, the gate has lent the others.
  obtain ⟨-, later, grows, lends⟩ :=
    lends_admits admits starts.breeds (Gates.lends_nothing _)
  have lent := lends path
  rw [grows.kept known] at lent
  refine ⟨?_, _, lent.2, rfl⟩
  -- As seen from before the first pass, it has lent all of them.
  obtain ⟨-, early, early_grows, early_lends⟩ := starts.lends admits
  have early_lent := early_lends path
  have count : nest.count (pass :: passes) path = passes.length + 1 :=
    count_of_all (List.forall_mem_cons.mpr ⟨place, all⟩)
  rw [lent.2, count] at early_lent
  obtain ⟨own, has, enough, same⟩ := early_lent.of_some
  have covered := (early_grows.covers backs.fresh backs.covers) path
  rw [has] at covered
  have covered : own.available + _ ≤ own.limit + own.debt := covered
  have own_apart : own.available = 0 ∨ own.debt = 0 :=
    (early_grows.apart backs.fresh apart) path own has
  have limit : own.limit = gate.limit := (congrArg Gate.limit same).symm
  omega

/-- More passes than the limit of the gate are not to be had: they are denied, unless putting back those
there were breaks down because the permits of the gate cannot be counted. -/
theorem Starts.exceeds (larger : gate.limit < more + 1)
    (acquires : Desk.AcquiresMore looked ctx now [pass] more result) :
    (∃ back, result = (back, .ok none)) ∨
      maxPermits < gate.limit ∧ ∃ back fault, result = (back, .error fault) := by
  cases acquires with
  | enough admits all =>
    have bound := (starts.le_limit backs apart leads place known admits).1
    omega
  | refused => exact .inl ⟨_, rfl⟩
  | @broken new last next fault admits short asked =>
    -- Whoever is led to the gate is not met by a fault on the way.
    obtain ⟨leads_last, -⟩ := leads.admits admits
    obtain ⟨-, answers⟩ := leads_last.acquireNow
    rw [Desk.acquireNow_broken asked] at answers
    rcases answers with wrong | ⟨_, wrong, -⟩ <;> cases wrong
  | @fault new last next back fault admits short asked ignored =>
    obtain ⟨-, all⟩ := leads.admits admits
    refine .inr ⟨?_, _, _, rfl⟩
    rw [List.singleton_append] at ignored
    obtain ⟨lent, mem, there, over_gate, lent_place, found, beyond⟩ :=
      (starts.putBack backs apart admits asked).2 (by rw [ignored]; rfl)
    have together : ∀ each ∈ pass :: new, nest.place each = some path :=
      List.forall_mem_cons.mpr ⟨place, all⟩
    cases (together lent mem).symm.trans lent_place
    obtain ⟨-, own, last_known, limit⟩ := starts.le_limit backs apart leads place known admits
    have letsIn := (starts.lends admits).1.acquireNow ctx
    rw [(Desk.acquireNow_refused asked).1] at letsIn
    cases (letsIn.2.kept last_known).symm.trans found
    rwa [limit] at beyond

end Limits

end Admission.Nesting

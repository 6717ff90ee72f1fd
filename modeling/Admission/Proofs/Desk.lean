import Admission.Proofs.Limiter
import Admission.Proofs.Table
import Admission.Desk
import Mathlib.Data.List.Range
import Mathlib.Logic.Relation
import Mathlib.Tactic.Lemma

/-!
# What becomes of passes

Every pass which a desk has handed out is outstanding, or there is a report on it: never both, and
never two reports. So the books of a desk are balanced by the passes which are outstanding.
-/

namespace Admission

variable {C L G W : Type}

@[simp] lemma Fault.met_none (cleaning : Bool) : Fault.met cleaning none = none := by
  cases cleaning <;> rfl

lemma Fault.met_eq_none {cleaning : Bool} {fault : Option Fault} :
    Fault.met cleaning fault = none ↔ fault = none := by
  cases cleaning <;> simp [Fault.met]

/-- The pass has not been used up: whoever reports on it is heard. -/
def Pass.Unused (pass : Pass G) : Prop := pass.listener.completion.isSome

namespace Desk

/-- The passes of these numbers are outstanding, and there is one report on every other pass. -/
def Balanced (desk : Desk L) (outstanding : List Nat) : Prop :=
  (outstanding ++ desk.settled.map Settlement.number).Perm (List.range desk.handedOut)

/-- The reports on the listener of a number. -/
def settledOn (desk : Desk L) (number : Nat) : List Settlement :=
  desk.settled.filter (·.number = number)

/-- The listeners which were handed out, and on which there is no report. -/
def unresolved (desk : Desk L) : List Nat :=
  (List.range desk.handedOut).filter fun number => (desk.settledOn number).isEmpty

/-- The limiter has met no fault over a report. -/
def IsFaultless (desk : Desk L) : Prop := ∀ report ∈ desk.settled, report.fault = none

/-- There is a report on a listener over which the limiter met no fault. -/
def Heard (desk : Desk L) (listener : Nat) : Prop :=
  ∃ outcome, ⟨listener, outcome, none⟩ ∈ desk.settledOn listener

/-- Nothing has happened but some reports. -/
structure Settles (desk : Desk L) (reports : List Settlement) (next : Desk L) : Prop where
  settled : next.settled = desk.settled ++ reports
  handedOut : next.handedOut = desk.handedOut

section Books

variable {desk next : Desk L} {outstanding : List Nat}

lemma create_balanced (limiter : L) : (create limiter).Balanced [] := List.Perm.refl _

lemma Balanced.congr (balanced : desk.Balanced outstanding) {others : List Nat}
    (same : outstanding.Perm others) : desk.Balanced others :=
  (same.symm.append_right _).trans balanced

lemma Balanced.same (balanced : desk.Balanced outstanding) (same : desk.Settles [] next) :
    next.Balanced outstanding := by
  unfold Balanced
  rw [same.settled, same.handedOut, List.append_nil]
  exact balanced

lemma Balanced.handOut (balanced : desk.Balanced outstanding) (grant : G) (now : Nat) :
    (desk.handOut grant now).1.Balanced ((desk.handOut grant now).2.number :: outstanding) := by
  have more : (desk.handedOut :: (outstanding ++ desk.settled.map Settlement.number)).Perm
      (List.range (desk.handedOut + 1)) := by
    rw [List.range_succ]
    exact (balanced.cons _).trans (List.perm_append_singleton _ _).symm
  exact more

lemma Balanced.report {number : Nat} (balanced : desk.Balanced (number :: outstanding))
    {outcome : Outcome} {fault : Option Fault}
    (settles : desk.Settles [⟨number, outcome, fault⟩] next) : next.Balanced outstanding := by
  unfold Balanced
  rw [settles.settled, settles.handedOut, List.map_append]
  have moved : (outstanding ++ (desk.settled.map Settlement.number ++ [number])).Perm
      (number :: outstanding ++ desk.settled.map Settlement.number) := by
    rw [← List.append_assoc]
    exact List.perm_append_singleton _ _
  exact moved.trans balanced

lemma Balanced.nodup (balanced : desk.Balanced outstanding) :
    (outstanding ++ desk.settled.map Settlement.number).Nodup :=
  balanced.nodup_iff.mpr List.nodup_range

lemma Balanced.outstanding_nodup (balanced : desk.Balanced outstanding) : outstanding.Nodup :=
  (List.nodup_append.mp balanced.nodup).1

lemma Balanced.lt_of_outstanding (balanced : desk.Balanced outstanding) {number : Nat}
    (mem : number ∈ outstanding) : number < desk.handedOut :=
  List.mem_range.mp (balanced.mem_iff.mp (List.mem_append_left _ mem))

lemma Balanced.lt_of_settled (balanced : desk.Balanced outstanding) {settlement : Settlement}
    (mem : settlement ∈ desk.settled) : settlement.number < desk.handedOut :=
  List.mem_range.mp (balanced.mem_iff.mp (List.mem_append_right _ (List.mem_map_of_mem mem)))

lemma mem_of_mem_settledOn {number : Nat} {settlement : Settlement}
    (mem : settlement ∈ desk.settledOn number) :
    settlement ∈ desk.settled ∧ settlement.number = number := by
  simpa [settledOn] using mem

lemma Balanced.settledOn_outstanding (balanced : desk.Balanced outstanding) {number : Nat}
    (mem : number ∈ outstanding) : desk.settledOn number = [] := by
  rw [settledOn, List.filter_eq_nil_iff]
  intro settlement settled same
  have apart := (List.nodup_append.mp balanced.nodup).2.2 number mem settlement.number
    (List.mem_map_of_mem settled)
  exact apart (of_decide_eq_true same).symm

lemma Balanced.settledOn_new (balanced : desk.Balanced outstanding) {number : Nat}
    (new : desk.handedOut ≤ number) : desk.settledOn number = [] := by
  rw [settledOn, List.filter_eq_nil_iff]
  intro settlement settled same
  have below := balanced.lt_of_settled settled
  have same : settlement.number = number := of_decide_eq_true same
  omega

lemma Balanced.outstanding_or_settled (balanced : desk.Balanced outstanding) {number : Nat}
    (out : number < desk.handedOut) :
    number ∈ outstanding ∨ ∃ report, desk.settledOn number = [report] := by
  have mem := balanced.mem_iff.mpr (List.mem_range.mpr out)
  refine (List.mem_append.mp mem).imp id fun settled => List.length_eq_one_iff.mp ?_
  have once := List.count_eq_one_of_mem (List.nodup_append.mp balanced.nodup).2.1 settled
  rw [List.count, List.countP_map, List.countP_eq_length_filter] at once
  exact once

lemma Balanced.unresolved_perm (balanced : desk.Balanced outstanding) :
    desk.unresolved.Perm outstanding := by
  refine (List.perm_ext_iff_of_nodup (List.nodup_range.filter _) balanced.outstanding_nodup).mpr ?_
  intro number
  rw [List.mem_filter, List.mem_range, List.isEmpty_iff]
  refine ⟨fun ⟨out, unsettled⟩ => ?_, fun mem => ?_⟩
  · refine (balanced.outstanding_or_settled out).resolve_right ?_
    rintro ⟨report, settled⟩
    exact List.cons_ne_nil _ _ (settled.symm.trans unsettled)
  · exact ⟨balanced.lt_of_outstanding mem, balanced.settledOn_outstanding mem⟩

lemma Settles.settledOn {reports : List Settlement} (settles : desk.Settles reports next)
    (number : Nat) :
    next.settledOn number = desk.settledOn number ++ reports.filter (·.number = number) := by
  rw [Desk.settledOn, Desk.settledOn, settles.settled, List.filter_append]

lemma Settles.settledOn_other {number other : Nat} {outcome : Outcome} {fault : Option Fault}
    (settles : desk.Settles [⟨other, outcome, fault⟩] next) (different : other ≠ number) :
    next.settledOn number = desk.settledOn number := by
  rw [settles.settledOn, List.filter_eq_nil_iff.mpr (by simpa using different), List.append_nil]

end Books

section Deals

variable (C) [Limiter C L G W]

/-- What is heard of a pass in one go: nothing, or a report. -/
inductive Hears (desk : Desk L) (pass? : Option (Pass G)) : List Settlement → Desk L → Prop
  | nothing : Hears desk pass? [] desk
  | report {pass : Pass G} (here : pass? = some pass) (outcome : Outcome) (now : Nat)
      (cleaning : Bool) :
    Hears desk pass? [⟨pass.number, outcome, (desk.resolve C pass outcome now cleaning).2⟩]
      (desk.resolve C pass outcome now cleaning).1

/-- What can happen at a desk, and to the passes which somebody holds. -/
inductive Deals : Desk L × List (Pass G) → Desk L × List (Pass G) → Prop
  | answer {desk : Desk L} {passes : List (Pass G)} {limiter : L}
      (answers : Limiter.Answers C desk.limiter none limiter) :
      Deals (desk, passes) ({ desk with limiter := limiter }, passes)
  | handOut {desk : Desk L} {passes : List (Pass G)} {limiter : L} {grant : G}
      (answers : Limiter.Answers C desk.limiter (some grant) limiter) (now : Nat) :
      Deals (desk, passes) ((handOut { desk with limiter := limiter } grant now).1,
        (handOut { desk with limiter := limiter } grant now).2 :: passes)
  | report {desk : Desk L} {pass : Pass G} {passes : List (Pass G)} (outcome : Outcome) (now : Nat)
      (cleaning : Bool) :
      Deals (desk, pass :: passes) ((desk.resolve C pass outcome now cleaning).1, passes)
  | reorder {desk : Desk L} {passes others : List (Pass G)} (same : passes.Perm others) :
      Deals (desk, passes) (desk, others)

/-- Any number of things which happen at a desk. -/
abbrev Dealings (before after : Desk L × List (Pass G)) : Prop :=
  Relation.ReflTransGen (Deals C) before after

variable {C}

lemma report_handedOut (desk : Desk L) (number : Nat) (cleaning : Bool)
    (reports : List (Report G)) :
    (desk.report (C := C) number cleaning reports).1.handedOut = desk.handedOut := by
  induction reports generalizing desk with
  | nil => rfl
  | cons report rest ih =>
    unfold Desk.report
    dsimp only
    split
    · rfl
    · exact ih _

lemma resolve_of_completion {pass : Pass G} {grant : G}
    (has : pass.listener.completion = some grant) (desk : Desk L) (outcome : Outcome) (now : Nat)
    (cleaning : Bool) :
    desk.resolve C pass outcome now cleaning =
      ({ desk with
          limiter := (Limiter.release C desk.limiter grant outcome (pass.listener.elapsed now)).1
          settled := desk.settled ++ [⟨pass.number, outcome, Fault.met cleaning
            (Limiter.release C desk.limiter grant outcome (pass.listener.elapsed now)).2⟩] },
        Fault.met cleaning
          (Limiter.release C desk.limiter grant outcome (pass.listener.elapsed now)).2) := by
  have one : pass.listener.resolve outcome now =
      [⟨grant, outcome, pass.listener.elapsed now⟩] := by
    simp [Listener.resolve, Listener.complete, Listener.drop, has]
  rw [resolve, one]
  unfold report
  dsimp only
  generalize Limiter.release C desk.limiter grant outcome (pass.listener.elapsed now) = released
  cases Fault.met cleaning released.2 <;> rfl

lemma resolve_settles {pass : Pass G} (unused : pass.Unused) (desk : Desk L) (outcome : Outcome)
    (now : Nat) (cleaning : Bool) :
    desk.Settles [⟨pass.number, outcome, (desk.resolve C pass outcome now cleaning).2⟩]
      (desk.resolve C pass outcome now cleaning).1 := by
  obtain ⟨grant, has⟩ := Option.isSome_iff_exists.mp unused
  rw [resolve_of_completion has]
  exact ⟨rfl, rfl⟩

lemma resolve_of_used {pass : Pass G} (used : pass.listener.completion = none) (desk : Desk L)
    (outcome : Outcome) (now : Nat) (cleaning : Bool) :
    desk.resolve C pass outcome now cleaning = (desk, none) := by
  simp [resolve, Listener.resolve, Listener.drop, Listener.complete, used, report]

lemma IsFaultless.of_resolve {desk : Desk L} {pass : Pass G} {outcome : Outcome} {now : Nat}
    {cleaning : Bool} (faultless : (desk.resolve C pass outcome now cleaning).1.IsFaultless) :
    desk.IsFaultless ∧ (desk.resolve C pass outcome now cleaning).2 = none := by
  cases has : pass.listener.completion with
  | none =>
    rw [resolve_of_used has] at faultless ⊢
    exact ⟨faultless, rfl⟩
  | some grant =>
    have unused : pass.Unused := Option.isSome_iff_exists.mpr ⟨grant, has⟩
    have settled := (resolve_settles (C := C) unused desk outcome now cleaning).settled
    refine ⟨fun report mem => faultless report ?_, faultless ⟨pass.number, outcome, _⟩ ?_⟩
    · rw [settled]
      exact List.mem_append_left _ mem
    · rw [settled]
      exact List.mem_append_right _ (List.mem_singleton_self _)

/-- A report is only seen on its own listener. -/
lemma settledOn_resolve_other {pass : Pass G} {number : Nat} (different : pass.number ≠ number)
    (desk : Desk L) (outcome : Outcome) (now : Nat) (cleaning : Bool) :
    (desk.resolve C pass outcome now cleaning).1.settledOn number = desk.settledOn number := by
  cases has : pass.listener.completion with
  | none => rw [resolve_of_used has]
  | some grant =>
    have unused : pass.Unused := Option.isSome_iff_exists.mpr ⟨grant, has⟩
    exact (resolve_settles unused desk outcome now cleaning).settledOn_other different

lemma Hears.settles {desk next : Desk L} {pass? : Option (Pass G)} {reports : List Settlement}
    (hears : Hears C desk pass? reports next) (unused : ∀ pass, pass? = some pass → pass.Unused) :
    desk.Settles reports next := by
  cases hears with
  | nothing => exact ⟨(List.append_nil _).symm, rfl⟩
  | report here outcome now cleaning =>
    exact resolve_settles (unused _ here) desk outcome now cleaning

end Deals

/-- The passes which somebody holds are unused, and together with the others which are outstanding
they balance the books. -/
structure Holding (others : List Nat) (state : Desk L × List (Pass G)) : Prop where
  balanced : state.1.Balanced (others ++ state.2.map Pass.number)
  unused : ∀ pass ∈ state.2, pass.Unused

lemma Holding.reorder {outstanding : List Nat} {desk : Desk L} {passes sorted : List (Pass G)}
    (holding : Holding outstanding (desk, passes)) (same : passes.Perm sorted) :
    Holding outstanding (desk, sorted) :=
  ⟨holding.balanced.congr ((same.map _).append_left _),
    fun pass mem => holding.unused pass (same.mem_iff.mpr mem)⟩

section Dealings

variable [Limiter C L G W] {others : List Nat} {before after : Desk L × List (Pass G)}

lemma Holding.deal (holding : Holding others before) (deal : Deals C before after) :
    Holding others after := by
  obtain ⟨balanced, unused⟩ := holding
  cases deal with
  | answer answers => exact ⟨balanced, unused⟩
  | @handOut desk passes limiter grant answers now =>
    have asked : Balanced { desk with limiter := limiter } (others ++ passes.map Pass.number) :=
      balanced
    refine ⟨(asked.handOut grant now).congr List.perm_middle.symm, ?_⟩
    exact List.forall_mem_cons.mpr ⟨rfl, unused⟩
  | report outcome now cleaning =>
    obtain ⟨first, rest⟩ := List.forall_mem_cons.mp unused
    exact ⟨(balanced.congr List.perm_middle).report (resolve_settles first _ outcome now cleaning),
      rest⟩
  | reorder same => exact reorder ⟨balanced, unused⟩ same

lemma Holding.dealings (holding : Holding others before) (dealings : Dealings C before after) :
    Holding others after := by
  induction dealings with
  | refl => exact holding
  | tail _ deal ih => exact ih.deal deal

lemma Dealings.beside (dealings : Dealings C before after) (rest : List (Pass G)) :
    Dealings C (before.1, before.2 ++ rest) (after.1, after.2 ++ rest) := by
  induction dealings with
  | refl => exact .refl
  | tail _ deal ih =>
    refine ih.tail ?_
    cases deal with
    | answer answers => exact .answer answers
    | handOut answers now => exact .handOut answers now
    | report outcome now cleaning => exact .report outcome now cleaning
    | reorder same => exact .reorder (same.append_right rest)

lemma Deals.settledOn (deal : Deals C before after) {number : Nat} (known : number < before.1.handedOut)
    (other : number ∉ before.2.map Pass.number) :
    after.1.settledOn number = before.1.settledOn number ∧ number < after.1.handedOut ∧
      number ∉ after.2.map Pass.number := by
  cases deal with
  | answer answers => exact ⟨rfl, known, other⟩
  | handOut answers now =>
    refine ⟨rfl, Nat.lt_succ_of_lt known, ?_⟩
    rw [List.map_cons, List.mem_cons, not_or]
    exact ⟨Nat.ne_of_lt known, other⟩
  | @report desk pass passes outcome now cleaning =>
    rw [List.map_cons, List.mem_cons, not_or] at other
    have same : (desk.resolve C pass outcome now cleaning).1.handedOut = desk.handedOut :=
      report_handedOut desk _ _ _
    refine ⟨settledOn_resolve_other (Ne.symm other.1) desk outcome now cleaning, ?_, other.2⟩
    exact same.symm ▸ known
  | reorder same => exact ⟨rfl, known, fun mem => other ((same.map _).mem_iff.mpr mem)⟩

lemma Dealings.settledOn (dealings : Dealings C before after) {number : Nat}
    (known : number < before.1.handedOut) (other : number ∉ before.2.map Pass.number) :
    after.1.settledOn number = before.1.settledOn number ∧ number < after.1.handedOut := by
  have all : after.1.settledOn number = before.1.settledOn number ∧ number < after.1.handedOut ∧
      number ∉ after.2.map Pass.number := by
    induction dealings with
    | refl => exact ⟨rfl, known, other⟩
    | tail _ deal ih =>
      obtain ⟨same, known, other⟩ := ih
      have next := deal.settledOn known other
      exact ⟨next.1.trans same, next.2⟩
  exact ⟨all.1, all.2.1⟩

/-- Whatever happens to some passes, the reports are the same on those which are outstanding
elsewhere, and where there are reports already. -/
lemma Holding.settledOn (holding : Holding others before) (dealings : Dealings C before after)
    {number : Nat} (apart : number ∈ others ∨ before.1.settledOn number ≠ []) :
    after.1.settledOn number = before.1.settledOn number := by
  refine (dealings.settledOn ?_ fun own => ?_).1
  · rcases apart with elsewhere | settled
    · exact holding.balanced.lt_of_outstanding (List.mem_append_left _ elsewhere)
    · by_contra new
      exact settled (holding.balanced.settledOn_new (Nat.not_lt.mp new))
  · rcases apart with elsewhere | settled
    · have apart := (List.nodup_append.mp holding.balanced.outstanding_nodup).2.2
      exact apart number elsewhere number own rfl
    · exact settled (holding.balanced.settledOn_outstanding (List.mem_append_right _ own))

/-- Somebody may look after some of the passes only. -/
lemma Holding.part {desk : Desk L} {own rest : List (Pass G)}
    (holding : Holding others (desk, own ++ rest)) :
    Holding (others ++ rest.map Pass.number) (desk, own) := by
  refine ⟨holding.balanced.congr ?_, fun pass mem => holding.unused pass (List.mem_append_left _ mem)⟩
  rw [List.map_append, List.append_assoc]
  exact List.perm_append_comm.append_left others

end Dealings

end Desk
end Admission

import Admission.Proofs.Desk

/-!
# What callers do at a desk

Callers look at the desk for a pass, ask for several at once, and hold passes under names. All of this
comes to dealings at the desk.
-/

namespace Admission.Desk

variable {C L G W : Type} [Limiter C L G W]

section Looks

/-- Whatever is reported on each of some passes, they are spent in the end. -/
lemma resolveAll_deals (outcome : Outcome) (now : Nat) (cleaning : Bool)
    (spent passes : List (Pass G)) (desk : Desk L) :
    Dealings C (desk, spent ++ passes)
      ((desk.resolveAll C outcome now cleaning spent).1, passes) := by
  induction spent generalizing desk outcome cleaning with
  | nil => exact .refl
  | cons pass rest ih =>
    have first : Deals C (desk, pass :: (rest ++ passes)) _ := .report outcome now cleaning
    unfold resolveAll
    split
    · rename_i next resolved
      rw [resolved] at first
      exact .head first (ih _ _ _)
    · rename_i next fault resolved
      rw [resolved] at first
      exact .head first (ih _ _ _)

lemma resolveAll_handedOut (outcome : Outcome) (now : Nat) (cleaning : Bool)
    (passes : List (Pass G)) (desk : Desk L) :
    (desk.resolveAll C outcome now cleaning passes).1.handedOut = desk.handedOut := by
  induction passes generalizing desk outcome cleaning with
  | nil => rfl
  | cons pass rest ih =>
    have first : (desk.resolve C pass outcome now cleaning).1.handedOut = desk.handedOut :=
      report_handedOut desk _ _ _
    unfold resolveAll
    split
    · rename_i next resolved
      rw [resolved] at first
      exact (ih _ _ _).trans first
    · rename_i next fault resolved
      rw [resolved] at first
      exact (ih _ _ _).trans first

/-- The pass which somebody has got from a look at the desk. -/
def passOf : Except Fault (Progress (Pass G) W) → List (Pass G)
  | .ok (.admitted pass) => [pass]
  | _ => []

lemma acquireNow_deals (desk : Desk L) (ctx : C) (now : Nat) (passes : List (Pass G)) :
    (∃ pass, (desk.acquireNow ctx now).2 = .ok (some pass) ∧
      Dealings C (desk, passes) ((desk.acquireNow ctx now).1, pass :: passes)) ∨
    ((∀ pass, (desk.acquireNow ctx now).2 ≠ .ok (some pass)) ∧
      Dealings C (desk, passes) ((desk.acquireNow ctx now).1, passes)) := by
  unfold acquireNow
  have answers := Limiter.Answers.acquireNow desk.limiter ctx
  generalize Limiter.acquireNow desk.limiter ctx = result at answers ⊢
  obtain ⟨limiter, fault | _ | grant⟩ := result
  · exact .inr ⟨nofun, .single (.answer answers)⟩
  · exact .inr ⟨nofun, .single (.answer answers)⟩
  · exact .inl ⟨_, rfl, .single (.handOut answers now)⟩

lemma acquireNow_granted {desk next : Desk L} {ctx : C} {now : Nat} {pass : Pass G}
    (got : desk.acquireNow ctx now = (next, .ok (some pass))) :
    ∃ limiter grant, Limiter.acquireNow desk.limiter ctx = (limiter, .ok (some grant)) ∧
      handOut { desk with limiter := limiter } grant now = (next, pass) := by
  unfold acquireNow at got
  generalize Limiter.acquireNow desk.limiter ctx = result at got ⊢
  obtain ⟨limiter, fault | _ | grant⟩ := result
  · nomatch got
  · nomatch got
  · obtain ⟨next_same, pass_same⟩ := Prod.mk.inj got
    refine ⟨limiter, grant, rfl, Prod.ext next_same ?_⟩
    exact Option.some.inj (Except.ok.inj pass_same)

lemma acquireNow_refused {desk next : Desk L} {ctx : C} {now : Nat}
    (asked : desk.acquireNow ctx now = (next, .ok none)) :
    Limiter.acquireNow desk.limiter ctx = (next.limiter, .ok none) ∧
      next = { desk with limiter := next.limiter } := by
  unfold acquireNow at asked
  generalize Limiter.acquireNow desk.limiter ctx = result at asked ⊢
  obtain ⟨limiter, fault | _ | grant⟩ := result
  · nomatch asked
  · obtain rfl := (Prod.mk.inj asked).1
    exact ⟨rfl, rfl⟩
  · nomatch asked

lemma acquireNow_broken {desk next : Desk L} {ctx : C} {now : Nat} {fault : Fault}
    (asked : desk.acquireNow ctx now = (next, .error fault)) :
    Limiter.acquireNow desk.limiter ctx = (next.limiter, .error fault) := by
  unfold acquireNow at asked
  generalize Limiter.acquireNow desk.limiter ctx = result at asked ⊢
  obtain ⟨limiter, fault' | _ | grant⟩ := result
  · obtain ⟨rfl, same⟩ := Prod.mk.inj asked
    rw [Except.error.inj same]
  · nomatch asked
  · nomatch asked

lemma handle_deals (desk : Desk L) (now : Nat) {result : L × Except Fault (Progress G W)}
    (answers : Limiter.Answers C desk.limiter (admitted? result.2) result.1)
    (passes : List (Pass G)) :
    Dealings C (desk, passes)
      ((desk.handle now result).1, passOf (desk.handle now result).2 ++ passes) := by
  obtain ⟨limiter, fault | grant | cause | place⟩ := result
  · exact .single (.answer answers)
  · exact .single (.handOut answers now)
  · exact .single (.answer answers)
  · exact .single (.answer answers)

lemma handle_admitted {desk next : Desk L} {now : Nat} {result : L × Except Fault (Progress G W)}
    {pass : Pass G} (handled : desk.handle now result = (next, .ok (.admitted pass))) :
    ∃ limiter grant, result = (limiter, .ok (.admitted grant)) ∧
      handOut { desk with limiter := limiter } grant now = (next, pass) := by
  obtain ⟨limiter, fault | grant | cause | place⟩ := result
  · nomatch handled
  · obtain ⟨rfl, same⟩ := Prod.mk.inj handled
    cases same
    exact ⟨limiter, grant, rfl, rfl⟩
  · nomatch handled
  · nomatch handled

lemma handle_refused {desk next : Desk L} {now : Nat} {result : L × Except Fault (Progress G W)}
    {cause : Refusal} (handled : desk.handle now result = (next, .ok (.refused cause))) :
    result = (next.limiter, .ok (.refused cause)) ∧
      next = { desk with limiter := next.limiter } := by
  obtain ⟨limiter, fault | grant | other | place⟩ := result
  · nomatch handled
  · nomatch handled
  · obtain ⟨rfl, same⟩ := Prod.mk.inj handled
    cases same
    exact ⟨rfl, rfl⟩
  · nomatch handled

lemma handle_waiting {desk next : Desk L} {now : Nat} {result : L × Except Fault (Progress G W)}
    {place : W} (handled : desk.handle now result = (next, .ok (.waiting place))) :
    result = (next.limiter, .ok (.waiting place)) := by
  obtain ⟨limiter, fault | grant | cause | other⟩ := result
  · nomatch handled
  · nomatch handled
  · nomatch handled
  · obtain ⟨rfl, same⟩ := Prod.mk.inj handled
    cases same
    rfl

lemma handle_numbers (desk : Desk L) (now : Nat) (result : L × Except Fault (Progress G W)) :
    List.range desk.handedOut ++ (passOf (desk.handle now result).2).map Pass.number =
      List.range (desk.handle now result).1.handedOut := by
  obtain ⟨limiter, fault | grant | cause | place⟩ := result
  · exact List.append_nil _
  · exact List.range_succ.symm
  · exact List.append_nil _
  · exact List.append_nil _

end Looks

section Several

/-- Somebody who asks at once gets these passes, one after the other. -/
inductive Admits (ctx : C) (now : Nat) : Desk L → List (Pass G) → Desk L → Prop
  | none (desk : Desk L) : Admits ctx now desk [] desk
  | more {desk next last : Desk L} {pass : Pass G} {passes : List (Pass G)}
      (got : desk.acquireNow ctx now = (next, .ok (some pass)))
      (rest : Admits ctx now next passes last) : Admits ctx now desk (pass :: passes) last

/-- What can come of asking for some passes more. -/
inductive AcquiresMore (desk : Desk L) (ctx : C) (now : Nat) (got : List (Pass G)) (more : Nat) :
    Desk L × Except Fault (Option (List (Pass G))) → Prop
  | enough {new : List (Pass G)} {last : Desk L} (admits : Admits ctx now desk new last)
      (all : new.length = more) : AcquiresMore desk ctx now got more (last, .ok (some (got ++ new)))
  | refused {new : List (Pass G)} {last next back : Desk L} (admits : Admits ctx now desk new last)
      (short : new.length < more) (asked : last.acquireNow ctx now = (next, .ok none))
      (ignored : next.resolveAll C .ignore now false (got ++ new) = (back, none)) :
      AcquiresMore desk ctx now got more (back, .ok none)
  | broken {new : List (Pass G)} {last next : Desk L} {fault : Fault}
      (admits : Admits ctx now desk new last) (short : new.length < more)
      (asked : last.acquireNow ctx now = (next, .error fault)) :
      AcquiresMore desk ctx now got more
        ((next.resolveAll C .dropped now true (got ++ new)).1,
          .error (fault.cleanedUp (next.resolveAll C .dropped now true (got ++ new)).2))
  | fault {new : List (Pass G)} {last next back : Desk L} {fault : Fault}
      (admits : Admits ctx now desk new last) (short : new.length < more)
      (asked : last.acquireNow ctx now = (next, .ok none))
      (ignored : next.resolveAll C .ignore now false (got ++ new) = (back, some fault)) :
      AcquiresMore desk ctx now got more (back, .error fault)

theorem acquireMore_acquiresMore (desk : Desk L) (ctx : C) (now : Nat) (got : List (Pass G))
    (more : Nat) :
    AcquiresMore desk ctx now got more (desk.acquireMore ctx now got more) := by
  induction more generalizing desk got with
  | zero =>
    have enough : AcquiresMore desk ctx now got 0 _ := .enough (.none desk) rfl
    rwa [List.append_nil] at enough
  | succ more ih =>
    unfold acquireMore
    rcases asked : desk.acquireNow ctx now with ⟨next, fault | _ | pass⟩
    · have dropped : AcquiresMore desk ctx now got (more + 1) _ :=
        .broken (.none desk) (Nat.succ_pos _) asked
      rwa [List.append_nil] at dropped
    · dsimp only
      rcases back : next.resolveAll C .ignore now false got with ⟨last, _ | fault⟩
      · exact .refused (.none desk) (Nat.succ_pos _) asked (by rwa [List.append_nil])
      · exact .fault (.none desk) (Nat.succ_pos _) asked (by rwa [List.append_nil])
    · have rest := ih next (got ++ [pass])
      dsimp only
      generalize next.acquireMore ctx now (got ++ [pass]) more = result at rest ⊢
      cases rest with
      | enough admits all =>
        rw [List.append_assoc]
        exact .enough (.more asked admits) (congrArg (· + 1) all)
      | refused admits short last_asked ignored =>
        rw [List.append_assoc] at ignored
        exact .refused (.more asked admits) (Nat.succ_lt_succ short) last_asked ignored
      | broken admits short last_asked =>
        rw [List.append_assoc]
        exact .broken (.more asked admits) (Nat.succ_lt_succ short) last_asked
      | fault admits short last_asked ignored =>
        rw [List.append_assoc] at ignored
        exact .fault (.more asked admits) (Nat.succ_lt_succ short) last_asked ignored

/-- The passes are those which the desk hands out next, and nothing is reported on any. -/
lemma Admits.numbers {ctx : C} {now : Nat} {desk last : Desk L} {passes : List (Pass G)}
    (admits : Admits ctx now desk passes last) :
    passes.map Pass.number = List.range' desk.handedOut passes.length ∧
      (∀ pass ∈ passes, pass.Unused) ∧ last.settled = desk.settled ∧
      last.handedOut = desk.handedOut + passes.length := by
  induction admits with
  | none => exact ⟨rfl, fun _ mem => absurd mem List.not_mem_nil, rfl, rfl⟩
  | @more desk next last pass passes got _ ih =>
    obtain ⟨limiter, grant, -, given⟩ := acquireNow_granted got
    cases given
    obtain ⟨numbers, unused, settled, count⟩ := ih
    refine ⟨?_, List.forall_mem_cons.mpr ⟨rfl, unused⟩, settled, ?_⟩
    · rw [List.map_cons, numbers, List.length_cons, List.range'_succ]
    · rw [count, List.length_cons]
      change desk.handedOut + 1 + passes.length = _
      omega

lemma resolveAll_settled {outcome : Outcome} {now : Nat} {cleaning : Bool}
    {passes : List (Pass G)} {desk : Desk L} (unused : ∀ pass ∈ passes, pass.Unused)
    (fine : (desk.resolveAll C outcome now cleaning passes).2 = none) :
    (desk.resolveAll C outcome now cleaning passes).1.settled =
      desk.settled ++ passes.map fun pass => ⟨pass.number, outcome, none⟩ := by
  induction passes generalizing desk with
  | nil => exact (List.append_nil _).symm
  | cons pass rest ih =>
    obtain ⟨first, others⟩ := List.forall_mem_cons.mp unused
    have settles := resolve_settles (C := C) first desk outcome now cleaning
    unfold resolveAll at fine ⊢
    generalize desk.resolve C pass outcome now cleaning = result at settles fine ⊢
    obtain ⟨next, _ | fault⟩ := result
    · refine (ih others fine).trans ?_
      rw [settles.settled, List.map_cons, List.append_assoc, List.singleton_append]
    · cases fine

/-- All that has been reported is that those listeners are ignored which have been handed out in the
meantime. -/
structure IgnoresAll (desk next : Desk L) : Prop where
  handedOut : desk.handedOut ≤ next.handedOut
  settled : next.settled = desk.settled ++
    (List.range' desk.handedOut (next.handedOut - desk.handedOut)).map fun number =>
      ⟨number, .ignore, none⟩

lemma of_handOut {desk looked : Desk L} {limiter : L} {grant : G} {now : Nat} {pass : Pass G}
    (given : handOut { desk with limiter := limiter } grant now = (looked, pass)) :
    pass.number = desk.handedOut ∧ pass.Unused ∧ looked.settled = desk.settled ∧
      looked.handedOut = desk.handedOut + 1 := by
  cases given
  exact ⟨rfl, rfl, rfl, rfl⟩

/-- Whoever gets a first pass and is denied one of the others has all of them ignored. -/
lemma ignoresAll_of_refused {desk looked back : Desk L} {limiter : L} {grant : G} {pass : Pass G}
    {ctx : C} {now more : Nat}
    (given : handOut { desk with limiter := limiter } grant now = (looked, pass))
    (acquires : AcquiresMore looked ctx now [pass] more (back, .ok none)) :
    desk.IgnoresAll back := by
  obtain ⟨number, pass_unused, looked_settled, looked_count⟩ := of_handOut given
  cases acquires with
  | @refused new last next back admits short asked ignored =>
    obtain ⟨numbers, unused, settled, count⟩ := admits.numbers
    rw [List.singleton_append] at ignored
    have left := resolveAll_handedOut (C := C) .ignore now false (pass :: new) next
    have put_back := resolveAll_settled (C := C) (List.forall_mem_cons.mpr ⟨pass_unused, unused⟩)
      (congrArg Prod.snd ignored)
    rw [ignored, (acquireNow_refused asked).2] at left put_back
    dsimp only at left put_back
    have total : back.handedOut = desk.handedOut + (new.length + 1) := by
      rw [left, count, looked_count]
      omega
    have listed : (pass :: new).map Pass.number =
        List.range' desk.handedOut (back.handedOut - desk.handedOut) := by
      rw [total, Nat.add_sub_cancel_left, List.range'_succ, List.map_cons, numbers, number,
        looked_count]
    refine ⟨by omega, ?_⟩
    rw [← listed, List.map_map, put_back, settled, looked_settled]
    rfl

lemma Admits.deals {ctx : C} {now : Nat} {desk last : Desk L} {new : List (Pass G)}
    (admits : Admits ctx now desk new last) (passes : List (Pass G)) :
    Dealings C (desk, passes) (last, new ++ passes) := by
  induction admits generalizing passes with
  | none => exact .refl
  | @more desk next last pass rest got _ ih =>
    have asked := acquireNow_deals desk ctx now passes
    rw [got] at asked
    obtain ⟨_, same, deals⟩ | ⟨wrong, -⟩ := asked
    · obtain rfl := Option.some.inj (Except.ok.inj same)
      exact (deals.trans (ih (pass :: passes))).tail (.reorder List.perm_middle)
    · exact absurd rfl (wrong pass)

lemma acquireMore_deals (ctx : C) (now more : Nat) (got passes : List (Pass G)) (desk : Desk L) :
    (∃ all, (desk.acquireMore ctx now got more).2 = .ok (some all) ∧
      all.length = got.length + more ∧
      Dealings C (desk, got ++ passes) ((desk.acquireMore ctx now got more).1, all ++ passes)) ∨
    ((∀ all, (desk.acquireMore ctx now got more).2 ≠ .ok (some all)) ∧
      Dealings C (desk, got ++ passes) ((desk.acquireMore ctx now got more).1, passes)) := by
  -- The new passes come after those which there were.
  have gets : ∀ {new : List (Pass G)} {last : Desk L}, Admits ctx now desk new last →
      Dealings C (desk, got ++ passes) (last, got ++ new ++ passes) := by
    intro new last admits
    have moved : (new ++ (got ++ passes)).Perm (got ++ new ++ passes) := by
      rw [← List.append_assoc]
      exact List.perm_append_comm.append_right passes
    exact (admits.deals _).tail (.reorder moved)
  have loses : ∀ {last next : Desk L} {passes : List (Pass G)},
      (∀ pass, (last.acquireNow ctx now).2 ≠ .ok (some pass)) → (last.acquireNow ctx now).1 = next →
      Dealings C (last, passes) (next, passes) := by
    rintro last _ passes nothing rfl
    obtain ⟨pass, got, -⟩ | ⟨-, deals⟩ := acquireNow_deals last ctx now passes
    · exact absurd got (nothing pass)
    · exact deals
  have acquires := acquireMore_acquiresMore desk ctx now got more
  generalize desk.acquireMore ctx now got more = result at acquires ⊢
  cases acquires with
  | enough admits all =>
    exact .inl ⟨_, rfl, by rw [List.length_append, all], gets admits⟩
  | @refused new last next back admits short asked ignored =>
    have put_back := resolveAll_deals (C := C) .ignore now false (got ++ new) passes next
    rw [ignored] at put_back
    refine .inr ⟨nofun, ((gets admits).trans (loses ?_ ?_)).trans put_back⟩
    · rw [asked]
      nofun
    · rw [asked]
  | @broken new last next fault admits short asked =>
    have put_back := resolveAll_deals (C := C) .dropped now true (got ++ new) passes next
    refine .inr ⟨nofun, ((gets admits).trans (loses ?_ ?_)).trans put_back⟩
    · rw [asked]
      nofun
    · rw [asked]
  | @fault new last next back fault admits short asked ignored =>
    have put_back := resolveAll_deals (C := C) .ignore now false (got ++ new) passes next
    rw [ignored] at put_back
    refine .inr ⟨nofun, ((gets admits).trans (loses ?_ ?_)).trans put_back⟩
    · rw [asked]
      nofun
    · rw [asked]

end Several

section Holds

lemma hold_deals (desk : Desk L) {holds : Table (Pass G)} (distinct : Table.Distinct holds)
    (id : String) (ctx : C) (now : Nat) :
    Dealings C (desk, holds.map Prod.snd)
        ((desk.hold holds id ctx now).1, (desk.hold holds id ctx now).2.1.map Prod.snd) ∧
      Table.Distinct (desk.hold holds id ctx now).2.1 := by
  unfold hold
  have asked := acquireNow_deals desk ctx now (holds.map Prod.snd)
  generalize desk.acquireNow ctx now = result at asked ⊢
  obtain ⟨next, fault | _ | pass⟩ := result
  · obtain ⟨_, wrong, -⟩ | ⟨-, deals⟩ := asked
    · nomatch wrong
    exact ⟨deals, distinct⟩
  · obtain ⟨_, wrong, -⟩ | ⟨-, deals⟩ := asked
    · nomatch wrong
    exact ⟨deals, distinct⟩
  obtain ⟨_, same, deals⟩ | ⟨wrong, -⟩ := asked
  swap
  · exact absurd rfl (wrong pass)
  obtain rfl := Option.some.inj (Except.ok.inj same)
  dsimp only
  cases found : Table.at? holds id with
  | none =>
    rw [Table.put_of_at?_none pass found]
    have moved : (pass :: holds.map Prod.snd).Perm ((holds ++ [(id, pass)]).map Prod.snd) := by
      rw [List.map_append]
      exact (List.perm_append_singleton _ _).symm
    exact ⟨deals.tail (.reorder moved), distinct.append_new pass found⟩
  | some old =>
    obtain ⟨before, after, rfl, other⟩ := Table.split_of_at? found
    rw [Table.put_split pass other]
    have moved : (pass :: (before ++ (id, old) :: after).map Prod.snd).Perm
        ([old] ++ (before ++ (id, pass) :: after).map Prod.snd) := by
      simp only [List.map_append, List.map_cons, List.singleton_append]
      exact (List.perm_middle.cons _).trans
        ((List.Perm.swap _ _ _).trans (List.perm_middle.symm.cons _))
    have deals := deals.tail (.reorder moved)
    have put_back := resolveAll_deals (C := C) .ignore now false [old]
      ((before ++ (id, pass) :: after).map Prod.snd) next
    rw [Option.toList_some]
    generalize next.resolveAll C .ignore now false [old] = result at put_back ⊢
    obtain ⟨last, _ | fault⟩ := result
    · exact ⟨deals.trans put_back, distinct.replace pass⟩
    · exact ⟨deals.trans put_back, distinct.replace pass⟩

lemma hold_handedOut (desk : Desk L) (holds : Table (Pass G)) (id : String) (ctx : C) (now : Nat) :
    (desk.hold holds id ctx now).1.handedOut = desk.handedOut ∨
      (desk.hold holds id ctx now).1.handedOut = desk.handedOut + 1 := by
  unfold hold acquireNow
  rcases Limiter.acquireNow desk.limiter ctx with ⟨limiter, fault | _ | grant⟩
  · exact .inl rfl
  · exact .inl rfl
  · have same := resolveAll_handedOut (C := C) .ignore now false (Table.at? holds id).toList
      (handOut { desk with limiter := limiter } grant now).1
    refine .inr ?_
    dsimp only
    split
    all_goals
      next settled =>
        rw [settled] at same
        exact same

lemma endHold_handedOut (desk : Desk L) (holds : Table (Pass G)) (id : String) (outcome : Outcome)
    (now : Nat) : (desk.endHold C holds id outcome now).1.handedOut = desk.handedOut := by
  unfold endHold
  cases Table.at? holds id with
  | none => rfl
  | some pass =>
    have same : (desk.resolve C pass outcome now false).1.handedOut = desk.handedOut :=
      report_handedOut desk _ _ _
    dsimp only
    generalize desk.resolve C pass outcome now false = result at same ⊢
    obtain ⟨next, _ | fault⟩ := result <;> exact same

lemma endHold_deals (desk : Desk L) {holds : Table (Pass G)} (distinct : Table.Distinct holds)
    (id : String) (outcome : Outcome) (now : Nat) :
    Dealings C (desk, holds.map Prod.snd)
        ((desk.endHold C holds id outcome now).1,
          (desk.endHold C holds id outcome now).2.1.map Prod.snd) ∧
      Table.Distinct (desk.endHold C holds id outcome now).2.1 := by
  unfold endHold
  cases found : Table.at? holds id with
  | none => exact ⟨.refl, distinct⟩
  | some pass =>
    obtain ⟨before, after, rfl, -⟩ := Table.split_of_at? found
    rw [Table.remove_split distinct]
    have taken : ((before ++ (id, pass) :: after).map Prod.snd).Perm
        (pass :: (before ++ after).map Prod.snd) := by
      simp only [List.map_append, List.map_cons]
      exact List.perm_middle
    have deals : Dealings C (desk, (before ++ (id, pass) :: after).map Prod.snd) _ :=
      .single (.reorder taken)
    have spent := deals.tail (.report outcome now false)
    dsimp only
    generalize desk.resolve C pass outcome now false = result at spent ⊢
    obtain ⟨last, _ | fault⟩ := result
    · exact ⟨spent, distinct.erase⟩
    · exact ⟨spent, distinct.erase⟩

end Holds

end Admission.Desk

import Admission.Proofs.Agenda
import Admission.Proofs.Gateway.Turns

/-!
# What can happen to a gateway

Calls are made, looked at and dropped, replies are sent, and passes are held and released, in any
order: each is a move. Every move keeps the stories of all calls.
-/

namespace Admission.Gateway

open Desk (Dealings Holding passOf)

variable {C L G W κ σ ν ρ R : Type}

/-- The passes of the calls, and those which are held outside of calls. -/
def passes (gateway : Gateway C L G W κ σ ν ρ R) : List (Pass G) :=
  gateway.calls.filterMap Call.pass? ++ gateway.holds.map Prod.snd

/-- Every call has its name and its story. -/
structure Orderly (gateway : Gateway C L G W κ σ ν ρ R) : Prop where
  ids : (gateway.calls.map Call.id).Nodup
  holds : Table.Distinct gateway.holds
  records : ∀ id, Record gateway.trade gateway.desk.settledOn id (gateway.call? id)
    (gateway.entriesOf id)

section Places

variable {front back : List (Call C κ G W ρ)} {call : Call C κ G W ρ}
  {left : Option (Call C κ G W ρ)} {id : String}

lemma placed_split (apart : ∀ other ∈ front ++ back, other.id ≠ call.id)
    (named : ∀ next ∈ left, next.id = call.id) :
    placed (front ++ call :: back) call.id left = front ++ left.toList ++ back := by
  obtain ⟨front_apart, back_apart⟩ := List.forall_mem_append.mp apart
  cases left with
  | none =>
    unfold placed
    rw [List.filter_append, List.filter_cons_of_neg (by simp)]
    rw [List.filter_eq_self.mpr (by simpa using front_apart)]
    rw [List.filter_eq_self.mpr (by simpa using back_apart)]
    simp
  | some next =>
    have same : next.id = call.id := named next rfl
    have keeps : ∀ calls : List (Call C κ G W ρ), (∀ other ∈ calls, other.id ≠ call.id) →
        (calls.map fun other => if other.id = call.id then next else other) = calls := by
      intro calls apart
      refine (List.map_congr_left fun other mem => ?_).trans (List.map_id calls)
      exact if_neg (apart other mem)
    unfold placed
    dsimp only
    rw [same, List.map_append, List.map_cons, keeps front front_apart, keeps back back_apart]
    simp

lemma find?_split_self (apart : ∀ other ∈ front ++ back, other.id ≠ id)
    (named : ∀ next ∈ left, next.id = id) :
    (front ++ left.toList ++ back).find? (·.id = id) = left := by
  obtain ⟨front_apart, back_apart⟩ := List.forall_mem_append.mp apart
  have front_none : front.find? (·.id = id) = none := by simpa using front_apart
  have back_none : back.find? (·.id = id) = none := by simpa using back_apart
  rw [List.find?_append, List.find?_append, front_none, back_none]
  cases left with
  | none => rfl
  | some next => simp [named next rfl]

lemma find?_split_other (named : ∀ next ∈ left, next.id ≠ id) :
    (front ++ left.toList ++ back).find? (·.id = id) = (front ++ back).find? (·.id = id) := by
  have none : left.toList.find? (·.id = id) = none := by simpa using named
  rw [List.find?_append, List.find?_append, none, Option.or_none, List.find?_append]

lemma passes_split (front back : List (Call C κ G W ρ)) (left : Option (Call C κ G W ρ))
    (holds : List (Pass G)) :
    ((front ++ left.toList ++ back).filterMap Call.pass? ++ holds).Perm
      ((left.bind Call.pass?).toList ++
        (front.filterMap Call.pass? ++ back.filterMap Call.pass? ++ holds)) := by
  have own : left.toList.filterMap Call.pass? = (left.bind Call.pass?).toList := by
    cases left with
    | none => rfl
    | some call => cases has : call.pass? <;> simp [has]
  rw [List.filterMap_append, List.filterMap_append, own]
  simp only [← List.append_assoc]
  exact (List.perm_append_comm.append_right _).append_right _

end Places

section Keeps

variable {gateway after : Gateway C L G W κ σ ν ρ R} {call : Call C κ G W ρ} {id : String}
  {outstanding : List Nat} {left : Option (Call C κ G W ρ)} {entries new : List (Entry ν ρ R)}

lemma Orderly.call?_of_mem (orderly : gateway.Orderly) (mem : call ∈ gateway.calls) :
    gateway.call? call.id = some call := by
  obtain ⟨front, back, calls⟩ := List.append_of_mem mem
  have ids := orderly.ids
  rw [calls, List.map_append, List.map_cons, List.nodup_middle, List.nodup_cons, ← List.map_append]
    at ids
  have split : gateway.calls = front ++ (some call).toList ++ back := by simp [calls]
  rw [call?, split]
  refine find?_split_self (fun other mem same => ids.1 ?_) (by rintro _ ⟨⟩; rfl)
  exact same ▸ List.mem_map_of_mem mem

lemma entriesOf_append (log : after.log = gateway.log ++ new) (id : String) :
    after.entriesOf id = gateway.entriesOf id ++ new.filter (·.call? = some id) := by
  rw [entriesOf, log, List.filter_append]
  rfl

lemma entriesOf_append_other (log : after.log = gateway.log ++ new)
    (other : ∀ entry ∈ new, entry.call? ≠ some id) : after.entriesOf id = gateway.entriesOf id := by
  rw [entriesOf_append log, List.filter_eq_nil_iff.mpr (by simpa using other), List.append_nil]

lemma Orderly.puts_to_use (orderly : gateway.Orderly) {listener : Nat}
    (mem : listener ∈ (gateway.entriesOf id).filterMap Entry.listener?) :
    (∃ call ∈ gateway.calls, call.id = id ∧ ∃ pass, call.pass? = some pass ∧ pass.number = listener) ∨
      gateway.desk.settledOn listener ≠ [] := by
  rcases (orderly.records id).puts_to_use mem with ⟨pass, has, same⟩ | settled
  · obtain ⟨call, found, has⟩ := Option.bind_eq_some_iff.mp has
    exact .inl ⟨call, List.mem_of_find?_eq_some found, id_of_call? found, pass, has, same⟩
  · exact .inr settled

lemma Orderly.leave (orderly : gateway.Orderly) {desk : Desk L}
    (same : ∀ listener, listener ∈ gateway.passes.map Pass.number ∨
      gateway.desk.settledOn listener ≠ [] →
      desk.settledOn listener = gateway.desk.settledOn listener) :
    Orderly { gateway with desk } := by
  refine ⟨orderly.ids, orderly.holds, fun id => ?_⟩
  refine (orderly.records id).congr fun listener mem => same listener ?_
  refine (orderly.puts_to_use mem).imp_left ?_
  rintro ⟨call, call_mem, -, pass, has, rfl⟩
  exact List.mem_map_of_mem (List.mem_append_left _ (List.mem_filterMap.mpr ⟨call, call_mem, has⟩))

lemma recipient?_mem {name : String} {box : Letterbox ρ}
    (sent_to : gateway.recipient? name = some (call, box)) : call ∈ gateway.calls := by
  unfold recipient? at sent_to
  generalize step : (fun (best : Option (Call C κ G W ρ × Letterbox ρ)) (call : Call C κ G W ρ) =>
    _) = pick at sent_to
  have picks : ∀ best (other : Call C κ G W ρ),
      pick best other = best ∨ ∃ box, pick best other = some (other, box) := by
    intro best other
    subst step
    dsimp only
    split
    · split
      · exact .inr ⟨_, rfl⟩
      · exact .inl rfl
    · exact .inl rfl
  have among : ∀ (calls : List (Call C κ G W ρ)) best, calls.foldl pick best = some (call, box) →
      best = some (call, box) ∨ call ∈ calls := by
    intro calls
    induction calls with
    | nil => exact fun _ same => .inl same
    | cons other rest ih =>
      intro best same
      rcases ih _ same with picked | later
      · rcases picks best other with kept | ⟨other_box, taken⟩
        · exact .inl (kept.symm.trans picked)
        · obtain ⟨rfl, -⟩ := Prod.mk.inj (Option.some.inj (taken.symm.trans picked))
          exact .inr List.mem_cons_self
      · exact .inr (List.mem_cons_of_mem _ later)
  exact (among _ _ sent_to).resolve_left nofun

variable [Limiter C L G W]

/-- A gateway has kept order, and its passes have gone through what can happen at a desk. Every listener
which was handed out meanwhile was put to use. -/
structure Kept (before after : Gateway C L G W κ σ ν ρ R) : Prop where
  trade : after.trade = before.trade
  orderly : Orderly after
  deals : Dealings C (before.desk, before.passes) (after.desk, after.passes)
  numbers : ∃ new, after.listeners = before.listeners ++ new ∧
    List.range before.desk.handedOut ++ new = List.range after.desk.handedOut

/-- A turn of one call keeps the stories of all. -/
theorem Turn.kept (orderly : gateway.Orderly)
    (holding : Holding outstanding (gateway.desk, gateway.passes)) (mem : call ∈ gateway.calls)
    (made : gateway.entriesOf call.id = .made call.id :: entries)
    (turn : Turn gateway after call.id call.pass?.toList entries left new) : Kept gateway after := by
  obtain ⟨front, back, calls⟩ := List.append_of_mem mem
  have ids := orderly.ids
  rw [calls, List.map_append, List.map_cons, List.nodup_middle, List.nodup_cons, ← List.map_append]
    at ids
  have apart : ∀ other ∈ front ++ back, other.id ≠ call.id := by
    intro other mem same
    exact ids.1 (same ▸ List.mem_map_of_mem mem)
  have before_calls : gateway.calls = front ++ (some call).toList ++ back := by simp [calls]
  have after_calls : after.calls = front ++ left.toList ++ back := by
    rw [turn.calls, calls]
    exact placed_split apart turn.named
  have before_passes := passes_split front back (some call) (gateway.holds.map Prod.snd)
  have after_passes := passes_split front back left (gateway.holds.map Prod.snd)
  rw [← before_calls] at before_passes
  rw [← after_calls, ← turn.holds] at after_passes
  have own := (holding.reorder before_passes).part
  refine ⟨turn.trade, ⟨?_, turn.holds ▸ orderly.holds, fun id => ?_⟩, ?_, ?_⟩
  · rw [after_calls]
    cases left with
    | none => simpa using ids.2
    | some next =>
      rw [Option.toList_some, List.append_assoc, List.singleton_append, List.map_append, List.map_cons,
        turn.named next rfl, List.nodup_middle, ← List.map_append]
      exact List.nodup_cons.mpr ids
  · by_cases same : id = call.id
    · subst same
      have about : new.filter (·.call? = some call.id) = new := by simpa using turn.about
      rw [entriesOf_append turn.log, about, call?, after_calls,
        find?_split_self apart turn.named, turn.trade, made]
      exact .made turn.story
    -- The listeners of other calls are outstanding among their passes, or there are reports on them.
    · have elsewhere : ∀ entry ∈ new, entry.call? ≠ some id := by
        intro entry mem about
        rw [turn.about entry mem, Option.some.injEq] at about
        exact same about.symm
      have found : after.call? id = gateway.call? id := by
        rw [call?, call?, before_calls, after_calls, find?_split_other, find?_split_other]
        · rintro _ ⟨⟩ other
          exact same other.symm
        · intro next mem other
          exact same (other.symm.trans (turn.named next mem))
      rw [entriesOf_append_other turn.log elsewhere, found, turn.trade]
      refine (orderly.records id).congr fun listener mem => own.settledOn turn.deals ?_
      refine (orderly.puts_to_use mem).imp_left ?_
      rintro ⟨other, other_mem, other_id, pass, has, rfl⟩
      refine List.mem_append_right _ (List.mem_map_of_mem (List.mem_append_left _ ?_))
      rw [calls, List.mem_append, List.mem_cons] at other_mem
      rcases other_mem with front_mem | rfl | back_mem
      · exact List.mem_append_left _ (List.mem_filterMap.mpr ⟨other, front_mem, has⟩)
      · exact absurd other_id.symm same
      · exact List.mem_append_right _ (List.mem_filterMap.mpr ⟨other, back_mem, has⟩)
  · exact (Relation.ReflTransGen.single (.reorder before_passes)).trans
      ((turn.deals.beside _).tail (.reorder (turn.holds ▸ after_passes.symm)))
  · exact ⟨_, by rw [listeners, turn.log, List.filterMap_append]; rfl, turn.numbers⟩

lemma Orderly.kept_of_same (orderly : gateway.Orderly) (trade : after.trade = gateway.trade)
    (desk : after.desk = gateway.desk) (calls : after.calls = gateway.calls)
    (holds : after.holds = gateway.holds)
    (log : after.log = gateway.log ++ new) (about : ∀ entry ∈ new, entry.call? = none)
    (unused : new.filterMap Entry.listener? = []) : Kept gateway after := by
  have entries : ∀ id, after.entriesOf id = gateway.entriesOf id :=
    fun id => entriesOf_append_other log fun entry mem same => nomatch (about entry mem).symm.trans same
  have passes : after.passes = gateway.passes := by rw [Gateway.passes, calls, holds]; rfl
  refine ⟨trade, ⟨calls ▸ orderly.ids, holds ▸ orderly.holds, fun id => ?_⟩, ?_, [], ?_, ?_⟩
  · rw [trade, desk, entries, call?, calls]
    exact orderly.records id
  · rw [passes, desk]
  · rw [listeners, log, List.filterMap_append, unused]
    rfl
  · rw [List.append_nil, desk]

lemma Orderly.make (orderly : gateway.Orderly) (new : call.phase = .new)
    (fresh : gateway.call? call.id = none) (unheard : gateway.entriesOf call.id = []) :
    Kept gateway (gateway.make call) := by
  have idle : call.pass? = none := by rw [Call.pass?, new]
  have passes : passes (gateway.make call) = gateway.passes := by
    unfold Gateway.passes Gateway.make
    simp [idle]
  have others : ∀ other ∈ gateway.calls, other.id ≠ call.id := by simpa [call?] using fresh
  refine ⟨rfl, ⟨?_, orderly.holds, fun id => ?_⟩, ?_, [], ?_, List.append_nil _⟩
  · rw [Gateway.make, List.map_append, List.map_singleton]
    refine List.nodup_append.mpr ⟨orderly.ids, List.nodup_singleton _, ?_⟩
    intro name mem _ own
    obtain ⟨other, found, rfl⟩ := List.mem_map.mp mem
    rw [List.mem_singleton.mp own]
    exact others other found
  · have record := orderly.records id
    have log : (gateway.make call).log = gateway.log ++ [.made call.id] := rfl
    rw [entriesOf_append log]
    unfold call? at record fresh ⊢
    rw [Gateway.make, List.find?_append]
    by_cases same : call.id = id
    · subst same
      rw [fresh, unheard, Option.none_or, List.find?_cons_of_pos (by simp),
        List.filter_cons_of_pos (by simp [Entry.call?])]
      exact .made (.waiting (by simp [new]))
    · rw [List.find?_cons_of_neg (by simpa using same), List.find?_nil, Option.or_none,
        List.filter_cons_of_neg (by simpa [Entry.call?] using same)]
      simpa using record
  · rw [passes]
    exact .refl
  · rw [listeners, Gateway.make, List.filterMap_append]
    rfl

end Keeps

section Moves

variable [Limiter C L G W]

/-- What can happen to a gateway at any time, whoever is ready to go on. A call has a name which no
other call has, and none of which anything is on record. -/
inductive Move : Gateway C L G W κ σ ν ρ R → Gateway C L G W κ σ ν ρ R → Prop
  | around {gateway : Gateway C L G W κ σ ν ρ R} (agenda : Agenda String) (service : σ)
      (letterboxes : Nat) : Move gateway { gateway with agenda, service, letterboxes }
  | make {gateway : Gateway C L G W κ σ ν ρ R} {call : Call C κ G W ρ} (new : call.phase = .new)
      (fresh : gateway.call? call.id = none) (unheard : gateway.entriesOf call.id = []) :
      Move gateway (gateway.make call)
  | decline {gateway : Gateway C L G W κ σ ν ρ R} (id : String) (answer : R) :
      Move gateway (gateway.decline id answer)
  | goOn {gateway : Gateway C L G W κ σ ν ρ R} (id : String) : Move gateway (goOn id gateway)
  | abandon {gateway : Gateway C L G W κ σ ν ρ R} (id : String) : Move gateway (gateway.abandon id).1
  | reply {gateway : Gateway C L G W κ σ ν ρ R} (name : String) (reply : Reply String ρ) :
      Move gateway (gateway.reply name reply).1
  | hold {gateway : Gateway C L G W κ σ ν ρ R} (id : String) (ctx : C) :
      Move gateway (gateway.hold id ctx).1
  | release {gateway : Gateway C L G W κ σ ν ρ R} (id : String) (outcome : Outcome) :
      Move gateway (gateway.release id outcome).1

abbrev Moves (before after : Gateway C L G W κ σ ν ρ R) : Prop :=
  Relation.ReflTransGen Move before after

variable {gateway after : Gateway C L G W κ σ ν ρ R} {call : Call C κ G W ρ} {id : String}
  {outstanding : List Nat}

lemma Orderly.deal (orderly : gateway.Orderly)
    (holding : Holding outstanding (gateway.desk, gateway.passes)) {desk : Desk L}
    {holds : Table (Pass G)} {agenda : Agenda String} {new : List (Entry ν ρ R)}
    (deals : Dealings C (gateway.desk, gateway.holds.map Prod.snd) (desk, holds.map Prod.snd))
    (distinct : Table.Distinct holds) (about : ∀ entry ∈ new, entry.call? = none)
    (numbers : List.range gateway.desk.handedOut ++ new.filterMap Entry.listener? =
      List.range desk.handedOut) :
    Kept gateway { gateway with desk, holds, agenda, log := gateway.log ++ new } := by
  have own := (holding.reorder List.perm_append_comm).part
  refine ⟨rfl, ⟨orderly.ids, distinct, fun id => ?_⟩, ?_, _, ?_, numbers⟩
  · rw [entriesOf_append_other rfl fun entry mem same => nomatch (about entry mem).symm.trans same]
    refine (orderly.records id).congr fun listener mem => own.settledOn deals ?_
    refine (orderly.puts_to_use mem).imp_left ?_
    rintro ⟨other, other_mem, -, pass, has, rfl⟩
    exact List.mem_append_right _ (List.mem_map_of_mem (List.mem_filterMap.mpr ⟨other, other_mem, has⟩))
  · exact (Relation.ReflTransGen.single (.reorder List.perm_append_comm)).trans
      ((deals.beside _).tail (.reorder List.perm_append_comm))
  · exact List.filterMap_append

lemma Orderly.hold (orderly : gateway.Orderly)
    (holding : Holding outstanding (gateway.desk, gateway.passes)) (id : String) (ctx : C) :
    Kept gateway (gateway.hold id ctx).1 := by
  obtain ⟨deals, distinct⟩ := Desk.hold_deals gateway.desk orderly.holds id ctx gateway.agenda.now
  have numbers := Desk.hold_handedOut gateway.desk gateway.holds id ctx gateway.agenda.now
  unfold Gateway.hold
  dsimp only
  generalize gateway.desk.hold gateway.holds id ctx gateway.agenda.now = result
    at deals distinct numbers ⊢
  obtain ⟨desk, holds, answer⟩ := result
  dsimp only at deals distinct numbers ⊢
  rcases numbers with same | more
  · rw [if_pos same, ← List.append_nil gateway.log]
    exact orderly.deal holding deals distinct nofun (by rw [same]; exact List.append_nil _)
  · rw [if_neg (by omega)]
    refine orderly.deal holding deals distinct (by simp [Entry.call?]) ?_
    rw [more, List.range_succ]
    rfl

lemma Orderly.release (orderly : gateway.Orderly)
    (holding : Holding outstanding (gateway.desk, gateway.passes)) (id : String)
    (outcome : Outcome) : Kept gateway (gateway.release id outcome).1 := by
  obtain ⟨deals, distinct⟩ := Desk.endHold_deals (C := C) gateway.desk orderly.holds id outcome
    gateway.agenda.now
  have same := Desk.endHold_handedOut (C := C) gateway.desk gateway.holds id outcome
    gateway.agenda.now
  unfold Gateway.release
  dsimp only
  generalize gateway.desk.endHold C gateway.holds id outcome gateway.agenda.now = result
    at deals distinct same ⊢
  obtain ⟨desk, holds, answer⟩ := result
  dsimp only at deals distinct same ⊢
  rw [← List.append_nil gateway.log]
  exact orderly.deal holding deals distinct nofun (by rw [same]; exact List.append_nil _)

/-- Whatever happens to a gateway keeps the stories of its calls. -/
theorem Move.kept (move : Move gateway after) (orderly : gateway.Orderly)
    (holding : Holding outstanding (gateway.desk, gateway.passes)) : Kept gateway after := by
  -- A call looks after its own pass.
  have own : ∀ call ∈ gateway.calls, ∃ others,
      Holding others (gateway.desk, call.pass?.toList) := by
    intro call mem
    obtain ⟨front, back, calls⟩ := List.append_of_mem mem
    have split := passes_split front back (some call) (gateway.holds.map Prod.snd)
    have before : gateway.calls = front ++ (some call).toList ++ back := by simp [calls]
    rw [← before] at split
    exact ⟨_, (holding.reorder split).part⟩
  have story : ∀ {id call}, gateway.call? id = some call → ∃ entries,
      gateway.entriesOf call.id = .made call.id :: entries ∧
      Story gateway.trade gateway.desk.settledOn call.id (some call) entries := by
    intro id call found
    obtain rfl := id_of_call? found
    have record := orderly.records call.id
    rw [found] at record
    exact record.story
  have still : Kept gateway gateway :=
    orderly.kept_of_same rfl rfl rfl rfl (List.append_nil _).symm nofun rfl
  cases move with
  | around agenda service letterboxes =>
    exact orderly.kept_of_same rfl rfl rfl rfl (List.append_nil _).symm nofun rfl
  | make new fresh unheard => exact orderly.make new fresh unheard
  | decline id answer =>
    refine orderly.kept_of_same rfl rfl rfl rfl rfl (fun entry mem => ?_) rfl
    rw [List.mem_singleton.mp mem]
    rfl
  | goOn id =>
    cases found : gateway.call? id with
    | none =>
      unfold Gateway.goOn
      rw [found]
      exact still
    | some call =>
      have mem := List.mem_of_find?_eq_some found
      obtain ⟨others, own⟩ := own call mem
      obtain ⟨entries, made, story⟩ := story found
      obtain ⟨left, new, turn⟩ := goOn_turn found own story
      exact turn.kept orderly holding mem made
  | abandon id =>
    cases found : gateway.call? id with
    | none =>
      unfold Gateway.abandon
      rw [found]
      exact still
    | some call =>
      have mem := List.mem_of_find?_eq_some found
      obtain ⟨others, own⟩ := own call mem
      obtain ⟨entries, made, story⟩ := story found
      exact (abandon_turn found own story).kept orderly holding mem made
  | reply name reply =>
    cases sent_to : gateway.recipient? name with
    | none =>
      unfold Gateway.reply
      rw [sent_to]
      exact still
    | some recipient =>
      obtain ⟨call, box⟩ := recipient
      have mem := recipient?_mem sent_to
      obtain ⟨entries, made, story⟩ := story (orderly.call?_of_mem mem)
      exact (reply_turn sent_to story reply).kept orderly holding mem made
  | hold id ctx => exact orderly.hold holding id ctx
  | release id outcome => exact orderly.release holding id outcome

end Moves

end Admission.Gateway

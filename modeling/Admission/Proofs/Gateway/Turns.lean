import Admission.Proofs.Desk.Calls
import Admission.Proofs.Gateway.Stories

/-!
# Turns of calls

Whenever a call goes on, is dropped or is sent something, it does so by itself: the other calls are as
they were, and its own story goes on. In a turn there are things to put on record, and at its end the
call is put back or is gone.
-/

namespace Admission.Gateway

open Desk (Dealings Holding passOf)

variable {C L G W κ σ ν ρ R : Type}

/-- What is left of a call takes its place among the calls. -/
def placed (calls : List (Call C κ G W ρ)) (id : String) :
    Option (Call C κ G W ρ) → List (Call C κ G W ρ)
  | some call => calls.map fun other => if other.id = call.id then call else other
  | none => calls.filter (·.id ≠ id)

variable [Limiter C L G W]

/-- In the course of a turn of a call, with some passes in hand, something is put on record. -/
structure Notes (before after : Gateway C L G W κ σ ν ρ R) (id : String) (own left : List (Pass G))
    (new : List (Entry ν ρ R)) : Prop where
  trade : after.trade = before.trade
  holds : after.holds = before.holds
  calls : after.calls = before.calls
  log : after.log = before.log ++ new
  about : ∀ entry ∈ new, entry.call? = some id
  deals : Dealings C (before.desk, own) (after.desk, left)
  numbers : List.range before.desk.handedOut ++ new.filterMap Entry.listener? =
    List.range after.desk.handedOut

/-- A turn of a call, with some passes in hand: what is left of the call, what was put on record, and
how its story goes on. -/
structure Turn (before after : Gateway C L G W κ σ ν ρ R) (id : String) (own : List (Pass G))
    (entries : List (Entry ν ρ R)) (left : Option (Call C κ G W ρ)) (new : List (Entry ν ρ R)) :
    Prop where
  trade : after.trade = before.trade
  holds : after.holds = before.holds
  calls : after.calls = placed before.calls id left
  log : after.log = before.log ++ new
  named : ∀ next ∈ left, next.id = id
  about : ∀ entry ∈ new, entry.call? = some id
  deals : Dealings C (before.desk, own) (after.desk, (left.bind Call.pass?).toList)
  numbers : List.range before.desk.handedOut ++ new.filterMap Entry.listener? =
    List.range after.desk.handedOut
  story : Story before.trade after.desk.settledOn id left (entries ++ new)

section Turns

variable {before between after gateway : Gateway C L G W κ σ ν ρ R} {call next : Call C κ G W ρ}
  {id : String} {own others : List (Pass G)} {left : Option (Call C κ G W ρ)}
  {first rest entries : List (Entry ν ρ R)}

lemma Notes.turn (notes : Notes before between id own others first)
    (turn : Turn between after id others (entries ++ first) left rest) :
    Turn before after id own entries left (first ++ rest) where
  trade := turn.trade.trans notes.trade
  holds := turn.holds.trans notes.holds
  calls := by rw [turn.calls, notes.calls]
  log := by rw [turn.log, notes.log, List.append_assoc]
  named := turn.named
  about := by
    intro entry mem
    exact (List.mem_append.mp mem).elim (notes.about entry) (turn.about entry)
  deals := notes.deals.trans turn.deals
  numbers := by rw [List.filterMap_append, ← List.append_assoc, notes.numbers, turn.numbers]
  story := by
    rw [← List.append_assoc, ← notes.trade]
    exact turn.story

lemma keep_turn (same : next.id = id)
    (story : Story gateway.trade gateway.desk.settledOn id (some next) entries) :
    Turn gateway (gateway.keep next) id next.pass?.toList entries (some next) [] where
  trade := rfl
  holds := rfl
  calls := rfl
  log := (List.append_nil _).symm
  named := by rintro _ ⟨⟩; exact same
  about := nofun
  deals := .refl
  numbers := List.append_nil _
  story := by rwa [List.append_nil]

lemma remove_turn {desk : Desk L} {last : Entry ν ρ R} (about : last.call? = some id)
    (unused : last.listener? = none) (deals : Dealings C (gateway.desk, own) (desk, []))
    (same : desk.handedOut = gateway.desk.handedOut)
    (story : Story gateway.trade desk.settledOn id (none : Option (Call C κ G W ρ))
      (entries ++ [last])) :
    Turn gateway { gateway.remove id with desk, log := gateway.log ++ [last] } id own entries none
      [last] where
  trade := rfl
  holds := rfl
  calls := rfl
  log := rfl
  named := nofun
  about := by simp [about]
  deals := deals
  numbers := by
    rw [List.filterMap_cons_none unused, same]
    exact List.append_nil _
  story := story

lemma Turn.plan (turn : Turn before after id own entries left rest) (agenda : Agenda String) :
    Turn before { after with agenda := agenda } id own entries left rest :=
  ⟨turn.trade, turn.holds, turn.calls, turn.log, turn.named, turn.about, turn.deals, turn.numbers,
    turn.story⟩

lemma finish_turn {ending : Ending R}
    (story : Story gateway.trade gateway.desk.settledOn id
      (none : Option (Call C κ G W ρ)) (entries ++ [.ended id ending])) :
    Turn gateway (gateway.finish id ending).alert id [] entries none [.ended id ending] :=
  (remove_turn rfl rfl .refl rfl story).plan _

lemma breakDown_turn (gateway : Gateway C L G W κ σ ν ρ R) (call : Call C κ G W ρ) (text : String)
    (entries : List (Entry ν ρ R)) (story : ∀ last, BreaksDown call.id text last →
      Story gateway.trade gateway.desk.settledOn call.id (none : Option (Call C κ G W ρ))
        (entries ++ [last])) :
    ∃ last, Turn gateway (gateway.breakDown call text).alert call.id [] entries none last := by
  unfold breakDown
  split
  · exact ⟨_, (remove_turn rfl rfl .refl rfl (story _ .unheard)).plan _⟩
  · exact ⟨_, finish_turn (story _ .heard)⟩

lemma look_notes {desk : Desk L} {answer : Admission.Answer (Except String ρ)}
    (deals : Dealings C (gateway.desk, own) (desk, others))
    (same : desk.handedOut = gateway.desk.handedOut) :
    Notes gateway { gateway with desk, log := gateway.log ++ [.looked id answer] } id own others
      [.looked id answer] where
  trade := rfl
  holds := rfl
  calls := rfl
  log := rfl
  about := by simp [Entry.call?]
  deals := deals
  numbers := by
    change List.range gateway.desk.handedOut ++ [] = List.range desk.handedOut
    rw [List.append_nil, same]

lemma work_turn (gateway : Gateway C L G W κ σ ν ρ R) (call : Call C κ G W ρ)
    (work : Work String ρ) {pass : Pass G} (unused : pass.Unused)
    (unsettled : gateway.desk.settledOn pass.number = []) (notices : List ν)
    {looks : List (Entry ν ρ R)} (unready : Unready call.id looks) :
    ∃ left new, Turn gateway (gateway.work call ⟨work, some pass⟩) call.id [pass]
      (.invoked call.id pass.number notices :: looks) left new := by
  have settles := fun outcome cleaning =>
    Desk.resolve_settles (C := C) unused gateway.desk outcome gateway.agenda.now cleaning
  -- There is one report on the listener once its pass is used up.
  have reported : ∀ outcome cleaning,
      (gateway.desk.resolve C pass outcome gateway.agenda.now cleaning).1.settledOn pass.number =
        [⟨pass.number, outcome,
          (gateway.desk.resolve C pass outcome gateway.agenda.now cleaning).2⟩] := by
    intro outcome cleaning
    rw [(settles outcome cleaning).settledOn, unsettled]
    simp
  have noted : ∀ outcome cleaning answer, Notes gateway { gateway with
      desk := (gateway.desk.resolve C pass outcome gateway.agenda.now cleaning).1
      log := gateway.log ++ [.looked call.id answer] } call.id [pass] [] [.looked call.id answer] :=
    fun outcome cleaning answer =>
      look_notes (.single (.report outcome _ cleaning)) (settles outcome cleaning).handedOut
  have breaks : ∀ outcome cleaning answer text, (∀ last, BreaksDown call.id text last →
      Closes gateway.trade call.id pass.number answer ⟨pass.number, outcome,
        (gateway.desk.resolve C pass outcome gateway.agenda.now cleaning).2⟩ last) →
      ∃ left new, Turn gateway (breakDown { gateway with
        desk := (gateway.desk.resolve C pass outcome gateway.agenda.now cleaning).1
        log := gateway.log ++ [.looked call.id answer] } call text).alert call.id [pass]
        (.invoked call.id pass.number notices :: looks) left new := by
    intro outcome cleaning answer text closes
    obtain ⟨last, turn⟩ := breakDown_turn { gateway with
      desk := (gateway.desk.resolve C pass outcome gateway.agenda.now cleaning).1
      log := gateway.log ++ [.looked call.id answer] } call text _ fun last broken =>
      .ended unready (closes last broken) (reported outcome cleaning)
    exact ⟨none, _, (noted outcome cleaning answer).turn turn⟩
  unfold Gateway.work Limited.poll Limited.drop
  dsimp only
  generalize work.look gateway.agenda.now (call.letterbox.bind (·.reply)) = seen
  cases seen with
  | pending =>
    refine ⟨_, _, (look_notes .refl rfl).turn (keep_turn rfl ?_)⟩
    exact .working rfl unready.snoc unsettled
  | brokenDown text => exact breaks _ true _ text fun _ broken => .brokenDown broken
  | ready result =>
    dsimp only
    cases verdict : gateway.trade.verdictOn result with
    | error text => exact breaks _ true _ text fun _ broken => .unjudged verdict broken
    | ok outcome =>
      dsimp only [Limited.report]
      have noted := noted outcome false (.ready result)
      have reported := reported outcome false
      have breaks := breaks outcome false (.ready result)
      generalize gateway.desk.resolve C pass outcome gateway.agenda.now false = spent
        at noted reported breaks ⊢
      obtain ⟨desk, _ | fault⟩ := spent
      · exact ⟨none, _, noted.turn (finish_turn (.ended unready (.answered verdict) reported))⟩
      · exact breaks _ fun _ broken => .unreported verdict broken

lemma around_notes (agenda : Agenda String) (service : σ) (letterboxes : Nat) :
    Notes gateway { gateway with agenda, service, letterboxes } id own own [] :=
  ⟨rfl, rfl, rfl, (List.append_nil _).symm, nofun, .refl, List.append_nil _⟩

lemma invoke_turn (gateway : Gateway C L G W κ σ ν ρ R) (call : Call C κ G W ρ) {pass : Pass G}
    (unused : pass.Unused) (unsettled : gateway.desk.settledOn pass.number = []) :
    ∃ notices left new, Turn
      { gateway with log := gateway.log ++ [.invoked call.id pass.number notices] }
      (gateway.invoke call pass) call.id [pass] [.invoked call.id pass.number notices] left new := by
  unfold invoke
  generalize gateway.trade.invoke call.order call.ctx gateway.service = reached
  obtain ⟨service, notices, plan, name⟩ := reached
  dsimp only
  have works : ∀ agenda letterboxes box work, ∃ left new, Turn
      { gateway with log := gateway.log ++ [.invoked call.id pass.number notices] }
      (Gateway.work { gateway with
        agenda, service, letterboxes, log := gateway.log ++ [.invoked call.id pass.number notices] }
        { call with letterbox := box } ⟨work, some pass⟩)
      call.id [pass] [.invoked call.id pass.number notices] left new := by
    intro agenda letterboxes box work
    obtain ⟨left, new, turn⟩ := work_turn { gateway with
      agenda, service, letterboxes, log := gateway.log ++ [.invoked call.id pass.number notices] }
      { call with letterbox := box } work unused unsettled notices (unready_nil call.id)
    exact ⟨left, _, (around_notes agenda service letterboxes).turn turn⟩
  refine ⟨notices, ?_⟩
  split <;> exact works _ _ _ _

lemma proceed_turn (gateway : Gateway C L G W κ σ ν ρ R) (call : Call C κ G W ρ)
    {outstanding : List Nat} {desk : Desk L} {seen : Except Fault (Progress (Pass G) W)}
    (holding : Holding outstanding (gateway.desk, ([] : List (Pass G))))
    (deals : Dealings C (gateway.desk, []) (desk, passOf seen ++ []))
    (numbers : List.range gateway.desk.handedOut ++ (passOf seen).map Pass.number =
      List.range desk.handedOut) :
    ∃ left new, Turn gateway (gateway.proceed call (desk, seen)) call.id [] [] left new := by
  rw [List.append_nil] at deals
  have held := holding.dealings deals
  unfold proceed
  dsimp only
  rcases seen with fault | pass | cause | place
  · have noted : Notes gateway { gateway with desk } call.id [] [] [] :=
      ⟨rfl, rfl, rfl, (List.append_nil _).symm, nofun, deals, numbers⟩
    obtain ⟨last, turn⟩ := breakDown_turn { gateway with desk } call fault.message []
      fun last broken => .unasked broken
    exact ⟨none, _, noted.turn turn⟩
  · have fresh : desk.settledOn pass.number = [] :=
      held.balanced.settledOn_outstanding (List.mem_append_right _ List.mem_cons_self)
    obtain ⟨notices, left, new, turn⟩ := invoke_turn { gateway with desk } call
      (held.unused pass List.mem_cons_self) fresh
    have noted : Notes gateway { gateway with
        desk, log := gateway.log ++ [.invoked call.id pass.number notices] } call.id [] [pass]
        [.invoked call.id pass.number notices] :=
      ⟨rfl, rfl, rfl, rfl, by simp [Entry.call?], deals, numbers⟩
    exact ⟨left, _, noted.turn turn⟩
  · have noted : Notes gateway { gateway with
        desk, log := gateway.log ++ [.refused call.id cause] } call.id [] []
        [.refused call.id cause] :=
      ⟨rfl, rfl, rfl, rfl, by simp [Entry.call?], deals, numbers⟩
    exact ⟨none, _, noted.turn (finish_turn (.refused cause))⟩
  · have noted : Notes gateway { gateway with desk } call.id [] [] [] :=
      ⟨rfl, rfl, rfl, (List.append_nil _).symm, nofun, deals, numbers⟩
    exact ⟨_, _, (noted.turn (keep_turn rfl (.waiting (by simp)))).plan _⟩

lemma pass?_of_idle (idle : ∀ limited, call.phase ≠ .working limited) : call.pass? = none := by
  unfold Call.pass?
  split
  · next working => exact absurd working (idle _)
  · rfl

/-- Whoever's turn it is goes on with its own story. -/
theorem goOn_turn {outstanding : List Nat} (found : gateway.call? id = some call)
    (holding : Holding outstanding (gateway.desk, call.pass?.toList))
    (story : Story gateway.trade gateway.desk.settledOn call.id (some call) entries) :
    ∃ left new, Turn gateway (goOn id gateway) call.id call.pass?.toList entries left new := by
  unfold goOn
  rw [found]
  dsimp only
  cases story with
  | waiting idle =>
    rw [pass?_of_idle idle] at holding ⊢
    have asks : ∀ agenda, ∃ left new, Turn gateway (proceed { gateway with agenda := agenda } call
        (gateway.desk.acquire call.ctx gateway.agenda.now)) call.id [] [] left new := by
      intro agenda
      obtain ⟨left, new, turn⟩ := proceed_turn { gateway with agenda := agenda } call holding
        (Desk.handle_deals gateway.desk gateway.agenda.now
          (.acquire gateway.desk.limiter call.ctx gateway.agenda.now) [])
        (Desk.handle_numbers _ _ _)
      exact ⟨left, _, (around_notes agenda gateway.service gateway.letterboxes).turn turn⟩
    split
    · exact asks _
    · next place _ =>
      exact proceed_turn gateway call holding (Desk.handle_deals gateway.desk gateway.agenda.now
        (.poll gateway.desk.limiter call.ctx place gateway.agenda.now) [])
        (Desk.handle_numbers _ _ _)
    · next limited working => exact absurd working (idle limited)
  | @working _ work pass notices looks phase unready unsettled =>
    have has : call.pass? = some pass := by rw [Call.pass?, phase]
    rw [has] at holding ⊢
    rw [phase]
    exact work_turn gateway call work (holding.unused pass List.mem_cons_self) unsettled notices unready

omit [Limiter C L G W] in
lemma id_of_call? (found : gateway.call? id = some call) : call.id = id := by
  simpa using List.find?_some found

theorem abandon_turn {outstanding : List Nat} (found : gateway.call? id = some call)
    (holding : Holding outstanding (gateway.desk, call.pass?.toList))
    (story : Story gateway.trade gateway.desk.settledOn call.id (some call) entries) :
    Turn gateway (gateway.abandon id).1 call.id call.pass?.toList entries none [.dropped call.id] := by
  obtain rfl := id_of_call? found
  unfold Gateway.abandon
  rw [found]
  dsimp only
  cases story with
  | waiting idle =>
    rw [pass?_of_idle idle]
    split
    · exact remove_turn rfl rfl .refl rfl .givenUp
    · next place _ =>
      have given_up : Turn gateway { gateway.discard call.id with desk := _ } call.id [] [] none
          [.dropped call.id] :=
        remove_turn rfl rfl (.single (.answer (.abandon _ place))) rfl .givenUp
      exact given_up.plan _
    · next limited working => exact absurd working (idle limited)
  | @working _ work pass notices looks phase unready unsettled =>
    have has : call.pass? = some pass := by rw [Call.pass?, phase]
    rw [has] at holding ⊢
    rw [phase]
    have settles := Desk.resolve_settles (C := C) (holding.unused pass List.mem_cons_self) gateway.desk
      .ignore gateway.agenda.now false
    have settled := settles.settledOn pass.number
    rw [unsettled] at settled
    have dropped : Turn gateway { gateway.discard call.id with desk := _ } call.id [pass]
        (.invoked call.id pass.number notices :: looks) none [.dropped call.id] :=
      remove_turn rfl rfl (.single (.report .ignore _ false)) settles.handedOut
        (.dropped unready (by simpa using settled))
    exact dropped.plan _

omit [Limiter C L G W] in
lemma Story.same_phase {trade : Trade C κ σ ν ρ R} {reports : Nat → List Settlement}
    (story : Story trade reports id (some call) entries) (same : next.phase = call.phase) :
    Story trade reports id (some next) entries := by
  cases story with
  | waiting idle => exact .waiting fun limited => same ▸ idle limited
  | working phase unready unsettled => exact .working (same.trans phase) unready unsettled

theorem reply_turn {name : String} {box : Letterbox ρ}
    (sent_to : gateway.recipient? name = some (call, box))
    (story : Story gateway.trade gateway.desk.settledOn call.id (some call) entries)
    (reply : Reply String ρ) :
    Turn gateway (gateway.reply name reply).1 call.id call.pass?.toList entries
      (some { call with letterbox := some { box with reply := some reply } }) [] := by
  have sent : Turn gateway
      (gateway.keep { call with letterbox := some { box with reply := some reply } }) call.id
      call.pass?.toList entries (some { call with letterbox := some { box with reply := some reply } })
      [] := keep_turn rfl (story.same_phase rfl)
  unfold Gateway.reply
  rw [sent_to]
  dsimp only
  split
  · exact sent.plan _
  · exact sent

end Turns

end Admission.Gateway

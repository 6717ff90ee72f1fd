import Admission.Algorithm.Aimd
import Admission.Proofs.Gateway.Sessions
import Admission.Proofs.Gateway.Visits
import Mathlib.Algebra.BigOperators.Group.Finset.Basic

/-!
# Gateways bracket calls

A call which the limiter refuses is turned away. One which it admits is served: it reaches the service
once, and the limiter is told once how it went. So the listeners which are unresolved are those of the
calls under way, and those which are held outside of calls.
-/

namespace Admission

namespace Gateway

variable {C L G W κ σ ν ρ R : Type}

/-- The call is answered, is dropped or breaks down once, and not before it is over. -/
def EndsOnce (gateway : Gateway C L G W κ σ ν ρ R) (id : String) : Prop :=
  ((gateway.entriesOf id).filter Entry.isLast).length = if (gateway.call? id).isSome then 0 else 1

/-- What is on record about a call beside that it was made, reached the service, and went on. -/
def Entry.tells : Entry ν ρ R → Bool
  | made _ | invoked _ _ _ | looked _ .pending => false
  | _ => true

lemma Entry.tells_looked {id : String} {seen : Admission.Answer (Except String ρ)}
    (unlike : seen ≠ .pending) : (looked id seen : Entry ν ρ R).tells := by
  cases seen with
  | pending => exact absurd rfl unlike
  | ready | brokenDown => rfl

/-- The limiter refused the call. It was answered so and is over, and it never reached the service. -/
def TurnsAway (gateway : Gateway C L G W κ σ ν ρ R) (id : String) (cause : Refusal) : Prop :=
  gateway.call? id = none ∧
    gateway.entriesOf id =
      [.made id, .refused id cause, .ended id (.answered (gateway.trade.refused cause))]

/-- The work of the call was seen to come to a result. -/
def Yields (gateway : Gateway C L G W κ σ ν ρ R) (id : String) (result : Except String ρ) : Prop :=
  .looked id (.ready result) ∈ gateway.entriesOf id

/-- The limiter admitted the call under a listener. -/
structure Serves (gateway : Gateway C L G W κ σ ν ρ R) (id : String) (listener : Nat) : Prop where
  once : ((gateway.entriesOf id).filter Entry.isInvocation).length = 1
  unrefused : ∀ cause, .refused id cause ∉ gateway.entriesOf id
  underWay : gateway.desk.settledOn listener = [] ↔ (gateway.call? id).isSome
  /-- Once there is something to be seen of the work, the call is over. -/
  gone : ∀ seen, .looked id seen ∈ gateway.entriesOf id → seen ≠ .pending → gateway.call? id = none
  unique : ∀ result other, gateway.Yields id result → gateway.Yields id other → result = other
  judged : ∀ result outcome, gateway.Yields id result → gateway.trade.verdictOn result = .ok outcome →
    ∃ fault, gateway.desk.settledOn listener = [⟨listener, outcome, fault⟩]
  /-- It broke down first, or the judge did, or it was dropped. -/
  ignored : gateway.call? id = none →
    (∀ result outcome, gateway.Yields id result → gateway.trade.verdictOn result ≠ .ok outcome) →
    ∃ fault, gateway.desk.settledOn listener = [⟨listener, .ignore, fault⟩]
  answered : ∀ answer, .ended id (.answered answer) ∈ gateway.entriesOf id ↔
    ∃ result outcome, gateway.Yields id result ∧ gateway.trade.verdictOn result = .ok outcome ∧
      gateway.desk.settledOn listener = [⟨listener, outcome, none⟩] ∧
      answer = gateway.trade.passedOn result
  broken : ∀ text, .ended id (.brokenDown text) ∈ gateway.entriesOf id ∨
      .unheard id text ∈ gateway.entriesOf id →
    .looked id (.brokenDown text) ∈ gateway.entriesOf id ∨
    (∃ result, gateway.Yields id result ∧ gateway.trade.verdictOn result = .error text) ∨
    ∃ outcome fault, gateway.desk.settledOn listener = [⟨listener, outcome, some fault⟩] ∧
      fault.message = text

/-- The calls which have reached the service and are still there. -/
def underWay (gateway : Gateway C L G W κ σ ν ρ R) : List (Call C κ G W ρ) :=
  gateway.calls.filter fun call => (gateway.entriesOf call.id).any Entry.isInvocation

/-- What is on record about a call after it reached the service and went on for a while, and the reports
on its listener. -/
inductive Aftermath (trade : Trade C κ σ ν ρ R) (reports : Nat → List Settlement) (id : String)
    (listener : Nat) : Option (Call C κ G W ρ) → List (Entry ν ρ R) → Prop
  | working {call : Call C κ G W ρ} (unsettled : reports listener = []) :
      Aftermath trade reports id listener (some call) []
  | dropped {fault : Option Fault} (settled : reports listener = [⟨listener, .ignore, fault⟩]) :
      Aftermath trade reports id listener none [.dropped id]
  | ended {answer : Admission.Answer (Except String ρ)} {report : Settlement} {last : Entry ν ρ R}
      (closes : Closes trade id listener answer report last) (settled : reports listener = [report]) :
      Aftermath trade reports id listener none [.looked id answer, last]

section Calls

variable {gateway : Gateway C L G W κ σ ν ρ R} {trade : Trade C κ σ ν ρ R}
  {reports : Nat → List Settlement} {call? : Option (Call C κ G W ρ)} {id : String} {listener : Nat}
  {notices : List ν} {entries looks tail : List (Entry ν ρ R)}

lemma mem_entriesOf {entry : Entry ν ρ R} (about : entry.call? = some id) :
    entry ∈ gateway.entriesOf id ↔ entry ∈ gateway.log := by
  simp [entriesOf, about]

lemma Unready.filter (unready : Unready id looks) {p : Entry ν ρ R → Bool}
    (pending : p (.looked id .pending) = false) : looks.filter p = [] := by
  rw [List.filter_eq_nil_iff]
  intro entry mem
  simp [unready entry mem, pending]

/-- Apart from the invocation and the looks which showed nothing, there are only the last entries. -/
lemma Unready.mem_tail (unready : Unready id looks) {entry : Entry ν ρ R} (tells : entry.tells) :
    entry ∈ .invoked id listener notices :: looks ++ tail ↔ entry ∈ tail := by
  rw [List.cons_append, List.mem_cons, List.mem_append]
  refine ⟨fun mem => ?_, fun mem => .inr (.inr mem)⟩
  rcases mem with rfl | look | last
  · nomatch tells
  · rw [unready entry look] at tells
    nomatch tells
  · exact last

lemma Record.story_of_mem (record : Record trade reports id call? entries) {entry : Entry ν ρ R}
    (mem : entry ∈ entries) (other : entry ≠ .made id) :
    ∃ rest, entries = .made id :: rest ∧ entry ∈ rest ∧ Story trade reports id call? rest := by
  cases record with
  | unmade => nomatch mem
  | made story => exact ⟨_, rfl, (List.mem_cons.mp mem).resolve_left other, story⟩

lemma Story.endsOnce (story : Story trade reports id call? entries) :
    (entries.filter Entry.isLast).length = if call?.isSome then 0 else 1 := by
  have unready : ∀ {looks : List (Entry ν ρ R)}, Unready id looks → looks.filter Entry.isLast = [] :=
    fun unready => unready.filter rfl
  cases story with
  | waiting | givenUp | refused => rfl
  | unasked broken => simp [broken.isLast.1]
  | working _ pending => simp [unready pending]
  | dropped pending =>
    rw [List.filter_append, List.filter_cons_of_neg (by simp), unready pending]
    rfl
  | ended pending closes => simp [unready pending, closes.isLast.1]

lemma Story.refused_of_mem (story : Story trade reports id call? entries) {cause : Refusal}
    (mem : .refused id cause ∈ entries) :
    call? = none ∧ entries = [.refused id cause, .ended id (.answered (trade.refused cause))] := by
  have apart : ∀ {text : String} {last : Entry ν ρ R}, BreaksDown id text last →
      .refused id cause ≠ last := by
    rintro text last broken rfl
    nomatch broken
  cases story with
  | waiting => nomatch mem
  | givenUp => simp at mem
  | unasked broken => exact absurd (List.mem_singleton.mp mem) (apart broken)
  | refused other =>
    obtain rfl : cause = other := by simpa using mem
    exact ⟨rfl, rfl⟩
  | working _ unready =>
    rw [← List.append_nil (_ :: _), unready.mem_tail rfl] at mem
    nomatch mem
  | dropped unready =>
    rw [unready.mem_tail rfl] at mem
    simp at mem
  | ended unready closes =>
    rw [List.append_assoc, unready.mem_tail rfl] at mem
    cases closes with
    | answered => simp at mem
    | unreported _ broken | unjudged _ broken | brokenDown broken => simp [apart broken] at mem

lemma Story.aftermath_of_mem (story : Story trade reports id call? entries)
    (mem : .invoked id listener notices ∈ entries) :
    ∃ looks tail, Unready id looks ∧ entries = .invoked id listener notices :: looks ++ tail ∧
      Aftermath trade reports id listener call? tail := by
  have apart : ∀ {entry : Entry ν ρ R}, entry.isLast → .invoked id listener notices ≠ entry := by
    rintro entry last rfl
    nomatch last
  -- A call is invoked once: after the invocation there are looks, and then the last entries.
  have first : ∀ {other : Nat} {others : List ν} {looks tail : List (Entry ν ρ R)}, Unready id looks →
      .invoked id listener notices ∈ (.invoked id other others :: looks ++ tail) →
      .invoked id listener notices ∉ tail → listener = other ∧ notices = others := by
    intro other others looks tail unready mem apart
    rw [List.cons_append, List.mem_cons, List.mem_append] at mem
    rcases mem with same | look | last
    · simpa using same
    · nomatch unready _ look
    · exact absurd last apart
  cases story with
  | waiting => nomatch mem
  | givenUp => simp at mem
  | unasked broken => exact absurd (List.mem_singleton.mp mem) (apart broken.isLast.1)
  | refused => simp at mem
  | working phase unready unsettled =>
    rw [← List.append_nil (_ :: _)] at mem
    obtain ⟨rfl, rfl⟩ := first unready mem List.not_mem_nil
    exact ⟨_, [], unready, (List.append_nil _).symm, .working unsettled⟩
  | dropped unready settled =>
    obtain ⟨rfl, rfl⟩ := first unready mem (by simp)
    exact ⟨_, _, unready, rfl, .dropped settled⟩
  | ended unready closes settled =>
    rw [List.append_assoc] at mem
    obtain ⟨rfl, rfl⟩ := first unready mem (by simp [apart closes.isLast.1])
    exact ⟨_, _, unready, List.append_assoc _ _ _, .ended closes settled⟩

section Aftermath

variable (aftermath : Aftermath trade reports id listener call? tail)

include aftermath

lemma Aftermath.plain {entry : Entry ν ρ R} (mem : entry ∈ tail) :
    entry.isInvocation = false ∧ ∀ cause, .refused id cause ≠ entry := by
  have of_last : ∀ {entry : Entry ν ρ R}, entry.isLast →
      entry.isInvocation = false ∧ ∀ cause, .refused id cause ≠ entry := by
    intro entry last
    refine ⟨Entry.isInvocation_of_isLast last, ?_⟩
    rintro cause rfl
    nomatch last
  cases aftermath with
  | working => nomatch mem
  | dropped =>
    rw [List.mem_singleton.mp mem]
    exact of_last rfl
  | ended closes =>
    rcases List.mem_pair.mp mem with rfl | rfl
    · exact ⟨rfl, nofun⟩
    · exact of_last closes.isLast.1

lemma Aftermath.settled_iff : reports listener = [] ↔ call?.isSome := by
  cases aftermath with
  | working unsettled => exact iff_of_true unsettled rfl
  | dropped settled | ended _ settled => simp [settled]

/-- What was seen last of the work is what the call ended with. -/
lemma Aftermath.seen {seen : Admission.Answer (Except String ρ)} (mem : .looked id seen ∈ tail) :
    ∃ report last, tail = [.looked id seen, last] ∧ Closes trade id listener seen report last ∧
      reports listener = [report] := by
  cases aftermath with
  | working => nomatch mem
  | dropped => simp at mem
  | @ended answer report last closes settled =>
    rcases List.mem_pair.mp mem with same | rfl
    · obtain rfl : seen = answer := by simpa using same
      exact ⟨report, last, rfl, closes, settled⟩
    · nomatch closes.isLast.1

lemma Aftermath.gone {seen : Admission.Answer (Except String ρ)} (mem : .looked id seen ∈ tail) :
    call? = none := by
  cases aftermath with
  | working => nomatch mem
  | dropped | ended => rfl

lemma Aftermath.unique {result other : Except String ρ} (mem : .looked id (.ready result) ∈ tail)
    (other_mem : .looked id (.ready other) ∈ tail) : result = other := by
  obtain ⟨report, last, rfl, closes, -⟩ := aftermath.seen mem
  rcases List.mem_pair.mp other_mem with same | rfl
  · simpa [eq_comm] using same
  · nomatch closes.isLast.1

lemma Aftermath.judged {result : Except String ρ} {outcome : Outcome}
    (mem : .looked id (.ready result) ∈ tail) (verdict : trade.verdictOn result = .ok outcome) :
    ∃ fault, reports listener = [⟨listener, outcome, fault⟩] := by
  obtain ⟨report, last, -, closes, settled⟩ := aftermath.seen mem
  obtain ⟨fault, rfl⟩ := closes.judged rfl verdict
  exact ⟨fault, settled⟩

lemma Aftermath.ignored (gone : call? = none)
    (unjudged : ∀ result outcome, .looked id (.ready result) ∈ tail →
      trade.verdictOn result ≠ .ok outcome) :
    ∃ fault, reports listener = [⟨listener, .ignore, fault⟩] := by
  cases aftermath with
  | working => nomatch gone
  | dropped settled => exact ⟨_, settled⟩
  | ended closes settled =>
    obtain ⟨fault, rfl⟩ := closes.ignored fun result outcome seen =>
      unjudged result outcome (seen ▸ List.mem_cons_self)
    exact ⟨fault, settled⟩

lemma Aftermath.answered_iff (answer : R) : .ended id (.answered answer) ∈ tail ↔
    ∃ result outcome, .looked id (.ready result) ∈ tail ∧ trade.verdictOn result = .ok outcome ∧
      reports listener = [⟨listener, outcome, none⟩] ∧ answer = trade.passedOn result := by
  cases aftermath with
  | working | dropped => simp
  | @ended seen report last closes settled =>
    have looked : ∀ result, .looked id (.ready result) ≠ last := by
      rintro result rfl
      nomatch closes.isLast.1
    simp [looked, settled, closes.answered_iff, eq_comm]

lemma Aftermath.broken {text : String}
    (broken : .ended id (.brokenDown text) ∈ tail ∨ .unheard id text ∈ tail) :
    .looked id (.brokenDown text) ∈ tail ∨
      (∃ result, .looked id (.ready result) ∈ tail ∧ trade.verdictOn result = .error text) ∨
      ∃ outcome fault, reports listener = [⟨listener, outcome, some fault⟩] ∧
        fault.message = text := by
  cases aftermath with
  | working | dropped => simp at broken
  | ended closes settled =>
    have broken := closes.broken (by simpa using broken)
    rcases broken with rfl | ⟨result, rfl, verdict⟩ | ⟨_, fault, rfl, same⟩
    · exact .inl List.mem_cons_self
    · exact .inr (.inl ⟨result, List.mem_cons_self, verdict⟩)
    · exact .inr (.inr ⟨_, fault, settled, same⟩)

end Aftermath

lemma Orderly.turnsAway (orderly : gateway.Orderly) {cause : Refusal}
    (mem : .refused id cause ∈ gateway.entriesOf id) : gateway.TurnsAway id cause := by
  obtain ⟨rest, made, mem, story⟩ := (orderly.records id).story_of_mem mem nofun
  obtain ⟨gone, rfl⟩ := story.refused_of_mem mem
  exact ⟨gone, made⟩

lemma Orderly.endsOnce (orderly : gateway.Orderly) (mem : .made id ∈ gateway.entriesOf id) :
    gateway.EndsOnce id := by
  have record := orderly.records id
  unfold EndsOnce
  generalize gateway.entriesOf id = entries at mem record ⊢
  generalize gateway.call? id = call? at record ⊢
  cases record with
  | unmade => nomatch mem
  | made story => exact story.endsOnce

lemma Orderly.serves (orderly : gateway.Orderly)
    (mem : .invoked id listener notices ∈ gateway.entriesOf id) : gateway.Serves id listener := by
  obtain ⟨_, made, mem, story⟩ := (orderly.records id).story_of_mem mem nofun
  obtain ⟨looks, tail, unready, rfl, aftermath⟩ := story.aftermath_of_mem mem
  -- What is asked of the record is asked of its last entries only.
  have told : ∀ {entry}, entry.tells → (entry ∈ gateway.entriesOf id ↔ entry ∈ tail) := by
    intro entry tells
    have other : entry ≠ .made id := by
      rintro rfl
      nomatch tells
    rw [made, List.mem_cons, or_iff_right other]
    exact unready.mem_tail tells
  have invocations : (gateway.entriesOf id).filter Entry.isInvocation =
      [.invoked id listener notices] := by
    rw [made, List.filter_cons_of_neg (by simp [Entry.isInvocation]), List.filter_append,
      List.filter_cons_of_pos rfl, unready.filter rfl, List.filter_eq_nil_iff.mpr, List.append_nil]
    intro entry mem
    simp [(aftermath.plain mem).1]
  have yields : ∀ result, gateway.Yields id result ↔ .looked id (.ready result) ∈ tail :=
    fun result => told rfl
  exact {
    once := congrArg List.length invocations
    unrefused := fun cause mem => (aftermath.plain ((told rfl).mp mem)).2 cause rfl
    underWay := aftermath.settled_iff
    gone := fun seen mem unlike => aftermath.gone ((told (Entry.tells_looked unlike)).mp mem)
    unique := fun result other one two =>
      aftermath.unique ((yields result).mp one) ((yields other).mp two)
    judged := fun result outcome seen verdict => aftermath.judged ((yields result).mp seen) verdict
    ignored := fun gone unjudged => aftermath.ignored gone fun result outcome seen =>
      unjudged result outcome ((yields result).mpr seen)
    answered := fun answer => by
      simp only [yields]
      exact (told rfl).trans (aftermath.answered_iff answer)
    broken := fun text broken => by
      simp only [yields]
      rw [told rfl]
      exact aftermath.broken (broken.imp (told rfl).mp (told rfl).mp) }

lemma Orderly.length_passes (orderly : gateway.Orderly) :
    gateway.passes.length = gateway.underWay.length + gateway.holds.length := by
  rw [passes, List.length_append, List.length_map, List.length_filterMap_eq_countP, underWay,
    ← List.countP_eq_length_filter]
  refine congrArg (· + _) (List.countP_congr fun call mem => ?_)
  have record := orderly.records call.id
  rw [orderly.call?_of_mem mem] at record
  obtain ⟨rest, made, story⟩ := record.story
  rw [made]
  cases story with
  | waiting idle => simp [pass?_of_idle idle, Entry.isInvocation]
  | working phase => simp [Call.pass?, phase, Entry.isInvocation]

lemma Orderly.admitted_or_refused (orderly : gateway.Orderly) {answer : R}
    (mem : .ended id (.answered answer) ∈ gateway.entriesOf id) :
    (∃ cause, .refused id cause ∈ gateway.entriesOf id) ∨
      ∃ listener notices, .invoked id listener notices ∈ gateway.entriesOf id := by
  obtain ⟨rest, made, mem, story⟩ := (orderly.records id).story_of_mem mem nofun
  rw [made]
  generalize gateway.call? id = call? at story
  cases story with
  | waiting => nomatch mem
  | givenUp => simp at mem
  | unasked broken => exact absurd (List.mem_singleton.mp mem) (broken.unanswered _)
  | refused cause => exact .inl ⟨cause, List.mem_cons_of_mem _ List.mem_cons_self⟩
  | working | dropped | ended =>
    exact .inr ⟨_, _, List.mem_cons_of_mem _ List.mem_cons_self⟩

end Calls

end Gateway

/-- The kinds of gateways there are: how results are judged, what calls get which are refused, and
what those get whose work has come to a result. -/
inductive Kind.Offered {L G W : Type} :
    (kind : Kind L G W) → Judge String kind.ρ → (Refusal → kind.R) →
      (Except String kind.ρ → kind.R) → Prop
  | client [Limiter RequestHead L G W] (judge : Judge String Http.Response) :
      Offered ⟨Http.trade .client judge⟩ judge (fun _ => .ok ⟨⟨503⟩, ""⟩) (fun result => result)
  | server [Limiter RequestHead L G W] (judge : Judge String Http.Response) :
      Offered ⟨Http.trade .server judge⟩ judge (fun _ => .ok ⟨⟨429⟩, ""⟩) (fun result => result)
  | remote [Limiter RequestHead L G W] (judge : Judge String Http.Response) :
      Offered ⟨Remote.trade judge⟩ judge (fun cause => .error (.refused cause))
        (fun result => result.mapError .call)
  | pool [Limiter PoolUser L G W] (V : Type) :
      Offered ⟨Pool.trade (V := V)⟩ (fun result => .ok (if result.isOk then .success else .ignore))
        (fun cause => .error (.refused cause)) (fun result => result.mapError .pool)

lemma Kind.Offered.trade {L G W : Type} {kind : Kind L G W} {judge : Judge String kind.ρ}
    {refused : Refusal → kind.R} {passedOn : Except String kind.ρ → kind.R}
    (offered : kind.Offered judge refused passedOn) :
    kind.trade.verdictOn = judge ∧ kind.trade.refused = refused ∧ kind.trade.passedOn = passedOn := by
  cases offered with
  | client | server | remote => exact ⟨rfl, rfl, rfl⟩
  | pool =>
    refine ⟨funext fun result => ?_, rfl, rfl⟩
    cases result <;> rfl

namespace Gateway

/-- How the calls at one of some gateways have fared by the end of a run. -/
structure House.Brackets {L G W I : Type} {kinds : I → Kind L G W} (states : ℕ → House kinds)
    (length : ℕ) (i : I) : Prop where
  trade : (states length i).trade = (kinds i).trade
  endsOnce : ∀ id, .made id ∈ (states length i).log → (states length i).EndsOnce id
  turnsAway : ∀ id cause, .refused id cause ∈ (states length i).log →
    (states length i).TurnsAway id cause
  serves : ∀ id listener notices, .invoked id listener notices ∈ (states length i).log →
    (states length i).Serves id listener
  /-- The call reached the service in the move in which it was admitted, and whatever was seen of
  its work was seen in a move, of the work which the service had it begin. -/
  traced : ∀ id listener notices, .invoked id listener notices ∈ (states length i).log →
    ∃ work, House.Began states length i id listener notices work ∧
      ∀ seen, .looked id seen ∈ (states length i).log → House.Saw states length i id work seen
  answered : ∀ id answer, .ended id (.answered answer) ∈ (states length i).log →
    (∃ cause, .refused id cause ∈ (states length i).log) ∨
      ∃ listener notices, .invoked id listener notices ∈ (states length i).log
  /-- This is what comes of the next turn of each call at the service. -/
  visits : ∀ id call, (states length i).call? id = some call →
    Visits (states length i) (goOn id (states length i)) call

section Theorem

variable {L G W I : Type} [Fintype I] {kinds : I → Kind L G W} {house : House kinds} {desk : Desk L}
  {limiter : L} {services : ∀ i, (kinds i).σ} {states : ℕ → House kinds} {length : ℕ}

lemma House.Sound.length_unresolved (sound : house.Sound desk) :
    desk.unresolved.length = ∑ i, ((house i).underWay.length + (house i).holds.length) := by
  rw [sound.holding.balanced.unresolved_perm.length_eq, List.nil_append, List.length_map, House.passes,
    List.length_flatMap, Finset.sum_map_toList]
  exact Finset.sum_congr rfl fun i _ => (sound.orderly i).length_passes

lemma House.Sound.count_listeners (sound : house.Sound desk) (number : Nat) :
    ∑ i, (house i).listeners.count number = if number < desk.handedOut then 1 else 0 := by
  have counted := sound.listeners.count_eq number
  rw [House.listeners, List.count_flatMap, Finset.sum_map_toList, List.nodup_range.count] at counted
  simpa using counted

lemma House.Run.brackets (run : House.Run kinds limiter services states length)
    (sound : (states length).Sound desk) (i : I) : House.Brackets states length i where
  trade := sound.trades i
  endsOnce id made := (sound.orderly i).endsOnce ((mem_entriesOf rfl).mpr made)
  turnsAway id cause refused := (sound.orderly i).turnsAway ((mem_entriesOf rfl).mpr refused)
  serves id listener notices invoked :=
    (sound.orderly i).serves ((mem_entriesOf rfl).mpr invoked)
  traced id listener notices invoked := by
    obtain ⟨work, traced⟩ := run.traced invoked
    exact ⟨work, traced.began, traced.saw⟩
  answered id answer answered := by
    refine ((sound.orderly i).admitted_or_refused ((mem_entriesOf rfl).mpr answered)).imp ?_ ?_
    · exact fun ⟨cause, refused⟩ => ⟨cause, (mem_entriesOf rfl).mp refused⟩
    · exact fun ⟨listener, notices, invoked⟩ => ⟨listener, notices, (mem_entriesOf rfl).mp invoked⟩
  visits id call found := goOn_visits found

/-- However calls are made, looked at and dropped at gateways which share a limiter: a call which is
refused is turned away. One which is admitted reaches the service in that turn, its work goes as the
service planned it and is looked at in every turn of the call, and it is served. Every listener is
put to use once, and those which are unresolved are those of the calls under way and of the passes
held outside of calls. -/
theorem gateways_bracket_calls (kinds : I → Kind L G W) (limiter : L) (services : ∀ i, (kinds i).σ)
    {states : ℕ → House kinds} {length : ℕ}
    (run : House.Run kinds limiter services states length) :
    (∀ i, House.Brackets states length i) ∧
    (∀ i judge refused passedOn, (kinds i).Offered judge refused passedOn →
      (kinds i).trade.verdictOn = judge ∧ (kinds i).trade.refused = refused ∧
        (kinds i).trade.passedOn = passedOn) ∧
    ∃ desk, (∀ i, (states length i).desk = desk) ∧
      (∀ number, ∑ i, (states length i).listeners.count number =
        if number < desk.handedOut then 1 else 0) ∧
      desk.unresolved.length =
        ∑ i, ((states length i).underWay.length + (states length i).holds.length) := by
  obtain ⟨desk, sound⟩ := run.reaches.sound (House.create_sound kinds limiter services)
  exact ⟨run.brackets sound, fun i judge refused passedOn offered => offered.trade, desk,
    sound.shared, sound.count_listeners, sound.length_unresolved⟩

end Theorem

/-- Requests of clients and requests for pooled resources, at one limiter. -/
def clientAndPool : Bool → Kind (Gate Fixed) Unit Empty
  | false => ⟨Http.trade .client Http.defaultJudge⟩
  | true => ⟨Pool.trade (V := Nat)⟩

def narrowServices : ∀ side, (clientAndPool side).σ
  | false => ⟨.client, ⟨false⟩, false, none⟩
  | true => ⟨[], 0⟩

/-- A limiter which admits one call at a time. -/
def narrowHouse : House clientAndPool :=
  House.create clientAndPool ⟨⟨1⟩, 1, 1, 0, 0⟩ narrowServices

def afterRequest : Http.HttpGateway (Gate Fixed) Unit Empty :=
  (Http.HttpGateway.step (narrowHouse false)
    (.send "a" ⟨"GET", ⟨none, [], ['/'], none⟩, []⟩ .manual) true).1

def afterGet : Pool.PoolGateway Nat (Gate Fixed) Unit Empty :=
  (Pool.PoolGateway.step (narrowHouse.put false afterRequest true) (.get "b" .anonymous) true).1

def afterRequestAndGet : House clientAndPool := (narrowHouse.put false afterRequest).put true afterGet

theorem gateways_bracket_calls_at_one_permit :
    ∃ states length, House.Run clientAndPool ⟨⟨1⟩, 1, 1, 0, 0⟩ narrowServices states length ∧
      states length = afterRequestAndGet ∧
      (afterRequestAndGet false).Serves "a" 0 ∧
      (∃ work, House.Began states length false "a" 0 [⟨"a", "GET", "/", some true⟩] work) ∧
      (afterRequestAndGet true).TurnsAway "b" .rejected ∧
      (afterRequestAndGet true).desk.unresolved = [0] := by
  have request : Gateway.Moves (narrowHouse false) afterRequest := by
    refine Http.HttpGateway.step_moves _ ?_ true
    exact ⟨rfl, rfl⟩
  have get : Gateway.Moves (narrowHouse.put false afterRequest true) afterGet := by
    refine Pool.PoolGateway.step_moves _ ?_ true
    exact ⟨rfl, rfl⟩
  have shared : ∀ j, (narrowHouse.put false afterRequest j).desk = afterRequest.desk :=
    House.put_desk narrowHouse false afterRequest
  have moves : House.Moves narrowHouse afterRequestAndGet :=
    (House.moves_of_gateway (fun _ => rfl) request).trans
      (House.moves_of_gateway (fun j => (shared j).trans (shared true).symm) get)
  obtain ⟨states, length, run, there⟩ := moves.run
  have bracketed := (gateways_bracket_calls clientAndPool _ _ run).1
  have invoked : .invoked "a" 0 [⟨"a", "GET", "/", some true⟩] ∈ (afterRequestAndGet false).log :=
    .tail _ (.head _)
  have refused : .refused "b" .rejected ∈ (afterRequestAndGet true).log := .tail _ (.head _)
  rw [← there] at invoked refused ⊢
  obtain ⟨work, began, -⟩ := (bracketed false).traced "a" 0 _ invoked
  refine ⟨states, length, run, rfl, (bracketed false).serves "a" 0 _ invoked, ⟨work, began⟩,
    (bracketed true).turnsAway "b" .rejected refused, ?_⟩
  rw [there]
  rfl

/-- As many permits as can be counted, and one more with every success. -/
def brimfulAimd : Aimd :=
  { limit := maxPermits, decreaseFactor := Double.ofRatio 9 10, increase := 1,
    maximum := maxPermits + 2, minUtilisation := Double.ofRatio 1 (Nat.pow 10 19) }

/-- A filter of requests at that limit. -/
def brimfulFilter : Http.HttpGateway (Gate Aimd) Unit Empty :=
  Http.HttpGateway.create .server Http.defaultJudge
    ⟨brimfulAimd, maxPermits, maxPermits, 0, 0⟩

def afterLostRequest : Http.HttpGateway (Gate Aimd) Unit Empty :=
  (brimfulFilter.step (.send "a" ⟨"GET", ⟨none, [], ['/'], none⟩, []⟩
    (.reply (.result (.ok ⟨⟨200⟩, "ok"⟩)) 0)) true).1

/-- The results which the work of calls was seen to come to. -/
def Entry.result? {ν ρ R : Type} : Entry ν ρ R → Option (String × Except String ρ)
  | looked id (.ready result) => some (id, result)
  | _ => none

lemma yields_of_result {C L G W κ σ ν ρ R : Type} {gateway : Gateway C L G W κ σ ν ρ R}
    {id : String} {result : Except String ρ} (mem : (id, result) ∈ gateway.log.filterMap Entry.result?) :
    gateway.Yields id result := by
  obtain ⟨entry, there, same⟩ := List.mem_filterMap.mp mem
  unfold Entry.result? at same
  split at same
  · cases same
    exact (mem_entriesOf rfl).mpr there
  · nomatch same

/-- Where the limiter meets a fault over the report, a request which came to a result does not get
it. -/
theorem admitted_request_gets_no_result_after_fault :
    Gate.create brimfulAimd = .ok brimfulFilter.desk.limiter ∧
      Moves brimfulFilter afterLostRequest ∧
      afterLostRequest.listeners = [0] ∧
      afterLostRequest.Yields "a" (.ok ⟨⟨200⟩, "ok"⟩) ∧
      afterLostRequest.endings = [("a", .brokenDown (Fault.permitOverflow 1).message)] := by
  have moves : Moves brimfulFilter afterLostRequest := by
    refine Http.HttpGateway.step_moves _ ?_ true
    exact ⟨rfl, rfl⟩
  refine ⟨rfl, moves, ?_, ?_, ?_⟩
  · decide +kernel
  · have seen : afterLostRequest.log.filterMap Entry.result? = [("a", .ok ⟨⟨200⟩, "ok"⟩)] := by
      decide +kernel
    exact yields_of_result (seen ▸ List.mem_singleton_self _)
  · decide +kernel

end Gateway
end Admission

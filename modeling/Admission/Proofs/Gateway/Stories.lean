import Admission.Gateway
import Admission.Proofs.Desk

/-!
# Stories of calls

How far a call has got goes with what is on record about it and with the reports on its listener.
-/

namespace Admission.Gateway

variable {C L G W κ σ ν ρ R : Type}

namespace Entry

/-- The call which an entry is about. -/
def call? : Entry ν ρ R → Option String
  | made id | refused id _ | invoked id _ _ | looked id _ | ended id _ | dropped id | unheard id _ =>
    some id
  | held _ _ | unmade _ _ => none

/-- The listener which is put to use. -/
def listener? : Entry ν ρ R → Option Nat
  | held _ listener | invoked _ listener _ => some listener
  | _ => none

def isInvocation : Entry ν ρ R → Bool
  | invoked _ _ _ => true
  | _ => false

/-- The last which is on record about a call. -/
def isLast : Entry ν ρ R → Bool
  | ended _ _ | dropped _ | unheard _ _ => true
  | _ => false

@[simp] lemma listeners_invoked (id : String) (listener : Nat) (notices : List ν)
    (rest : List (Entry ν ρ R)) :
    (invoked id listener notices :: rest).filterMap listener? =
      listener :: rest.filterMap listener? := rfl

@[simp] lemma listeners_looked (id : String) (answer : Admission.Answer (Except String ρ))
    (rest : List (Entry ν ρ R)) :
    (looked id answer :: rest).filterMap listener? = rest.filterMap listener? := rfl

@[simp] lemma isInvocation_looked (id : String) (answer : Admission.Answer (Except String ρ)) :
    (looked id answer : Entry ν ρ R).isInvocation = false := rfl

@[simp] lemma isLast_looked (id : String) (answer : Admission.Answer (Except String ρ)) :
    (looked id answer : Entry ν ρ R).isLast = false := rfl

@[simp] lemma isLast_invoked (id : String) (listener : Nat) (notices : List ν) :
    (invoked id listener notices : Entry ν ρ R).isLast = false := rfl

lemma isInvocation_of_isLast {entry : Entry ν ρ R} (last : entry.isLast) :
    entry.isInvocation = false := by
  cases entry with
  | invoked => nomatch last
  | _ => rfl

end Entry

/-- What is on record about a call. -/
def entriesOf (gateway : Gateway C L G W κ σ ν ρ R) (id : String) : List (Entry ν ρ R) :=
  gateway.log.filter (·.call? = some id)

/-- The listeners which were put to use. -/
def listeners (gateway : Gateway C L G W κ σ ν ρ R) : List Nat :=
  gateway.log.filterMap Entry.listener?

end Gateway

/-- The pass of a call whose work is under way. -/
def Call.pass? {C κ G W ρ : Type} (call : Call C κ G W ρ) : Option (Pass G) :=
  match call.phase with
  | .working limited => limited.pass
  | _ => none

namespace Gateway

variable {C L G W κ σ ν ρ R : Type} {trade : Trade C κ σ ν ρ R} {id : String} {listener : Nat}

/-- All looks at the work of a call showed that it goes on. -/
def Unready (id : String) (looks : List (Entry ν ρ R)) : Prop :=
  ∀ entry ∈ looks, entry = .looked id .pending

/-- A call broke down. -/
inductive BreaksDown (id text : String) : Entry ν ρ R → Prop
  | heard : BreaksDown id text (.ended id (.brokenDown text))
  | unheard : BreaksDown id text (.unheard id text)

/-- What is reported when the work of a call has ended, and what is on record after that. -/
inductive Closes (trade : Trade C κ σ ν ρ R) (id : String) (listener : Nat) :
    Admission.Answer (Except String ρ) → Settlement → Entry ν ρ R → Prop
  | answered {result : Except String ρ} {outcome : Outcome}
      (verdict : trade.verdictOn result = .ok outcome) :
      Closes trade id listener (.ready result) ⟨listener, outcome, none⟩
        (.ended id (.answered (trade.passedOn result)))
  | unreported {result : Except String ρ} {outcome : Outcome} {fault : Fault} {last : Entry ν ρ R}
      (verdict : trade.verdictOn result = .ok outcome) (broken : BreaksDown id fault.message last) :
      Closes trade id listener (.ready result) ⟨listener, outcome, some fault⟩ last
  | unjudged {result : Except String ρ} {text : String} {fault : Option Fault}
      {last : Entry ν ρ R} (verdict : trade.verdictOn result = .error text)
      (broken : BreaksDown id text last) :
      Closes trade id listener (.ready result) ⟨listener, .ignore, fault⟩ last
  | brokenDown {text : String} {fault : Option Fault} {last : Entry ν ρ R}
      (broken : BreaksDown id text last) :
      Closes trade id listener (.brokenDown text) ⟨listener, .ignore, fault⟩ last

section Closes

variable {answer : Admission.Answer (Except String ρ)} {report : Settlement} {last : Entry ν ρ R}

lemma BreaksDown.isLast {text : String} (broken : BreaksDown id text last) :
    last.isLast ∧ last.call? = some id ∧ last.listener? = none := by
  cases broken <;> exact ⟨rfl, rfl, rfl⟩

lemma Closes.isLast
    (closes : Closes trade id listener answer report last) :
    last.isLast ∧ last.call? = some id ∧ last.listener? = none := by
  cases closes with
  | answered => exact ⟨rfl, rfl, rfl⟩
  | unreported _ broken | unjudged _ broken | brokenDown broken => exact broken.isLast

lemma BreaksDown.unanswered {text : String} (broken : BreaksDown id text last) (reply : R) :
    .ended id (.answered reply) ≠ last := by
  rintro rfl
  nomatch broken

lemma BreaksDown.unique {text other : String} (broken : BreaksDown id text last)
    (same : .ended id (.brokenDown other) = last ∨ .unheard id other = last) : other = text := by
  rcases same with rfl | rfl <;> cases broken <;> rfl

lemma Closes.judged (closes : Closes trade id listener answer report last)
    {result : Except String ρ} {outcome : Outcome} (seen : answer = .ready result)
    (verdict : trade.verdictOn result = .ok outcome) :
    ∃ fault, report = ⟨listener, outcome, fault⟩ := by
  subst seen
  cases closes with
  | answered other | unreported other =>
    obtain rfl := Except.ok.inj (other.symm.trans verdict)
    exact ⟨_, rfl⟩
  | unjudged other => nomatch other.symm.trans verdict

lemma Closes.ignored (closes : Closes trade id listener answer report last)
    (unjudged : ∀ result outcome, answer = .ready result → trade.verdictOn result ≠ .ok outcome) :
    ∃ fault, report = ⟨listener, .ignore, fault⟩ := by
  cases closes with
  | answered verdict | unreported verdict => exact absurd verdict (unjudged _ _ rfl)
  | unjudged | brokenDown => exact ⟨_, rfl⟩

lemma Closes.answered_iff (closes : Closes trade id listener answer report last) (reply : R) :
    .ended id (.answered reply) = last ↔ ∃ result outcome, answer = .ready result ∧
      trade.verdictOn result = .ok outcome ∧ report = ⟨listener, outcome, none⟩ ∧
      reply = trade.passedOn result := by
  cases closes with
  | answered verdict => simpa using fun _ => verdict
  | unreported _ broken | brokenDown broken => simp [broken.unanswered]
  | unjudged verdict broken => simp [broken.unanswered, verdict]

lemma Closes.broken (closes : Closes trade id listener answer report last) {text : String}
    (broken : .ended id (.brokenDown text) = last ∨ .unheard id text = last) :
    answer = .brokenDown text ∨
      (∃ result, answer = .ready result ∧ trade.verdictOn result = .error text) ∨
      ∃ outcome fault, report = ⟨listener, outcome, some fault⟩ ∧ fault.message = text := by
  cases closes with
  | answered => simp at broken
  | unreported _ other => exact .inr (.inr ⟨_, _, rfl, (other.unique broken).symm⟩)
  | unjudged verdict other => exact .inr (.inl ⟨_, rfl, other.unique broken ▸ verdict⟩)
  | brokenDown other => exact .inl (other.unique broken ▸ rfl)

end Closes

/-- How far a call has got, unless it is gone, what is on record about it since it was made, and the
reports on its listener. -/
inductive Story (trade : Trade C κ σ ν ρ R) (reports : Nat → List Settlement) (id : String) :
    Option (Call C κ G W ρ) → List (Entry ν ρ R) → Prop
  | waiting {call : Call C κ G W ρ} (idle : ∀ limited, call.phase ≠ .working limited) :
      Story trade reports id (some call) []
  | givenUp : Story trade reports id none [.dropped id]
  /-- The limiter met a fault when it was asked. -/
  | unasked {text : String} {last : Entry ν ρ R} (broken : BreaksDown id text last) :
      Story trade reports id none [last]
  | refused (cause : Refusal) :
      Story trade reports id none [.refused id cause, .ended id (.answered (trade.refused cause))]
  | working {call : Call C κ G W ρ} {work : Work String ρ} {pass : Pass G} {notices : List ν}
      {looks : List (Entry ν ρ R)} (phase : call.phase = .working ⟨work, some pass⟩)
      (unready : Unready id looks) (unsettled : reports pass.number = []) :
      Story trade reports id (some call) (.invoked id pass.number notices :: looks)
  | dropped {listener : Nat} {notices : List ν} {looks : List (Entry ν ρ R)} {fault : Option Fault}
      (unready : Unready id looks) (settled : reports listener = [⟨listener, .ignore, fault⟩]) :
      Story trade reports id none (.invoked id listener notices :: looks ++ [.dropped id])
  | ended {listener : Nat} {notices : List ν} {looks : List (Entry ν ρ R)} {last : Entry ν ρ R}
      {answer : Admission.Answer (Except String ρ)} {report : Settlement} (unready : Unready id looks)
      (closes : Closes trade id listener answer report last) (settled : reports listener = [report]) :
      Story trade reports id none
        (.invoked id listener notices :: looks ++ [.looked id answer] ++ [last])

/-- All that is on record about a call, if it was made. -/
inductive Record (trade : Trade C κ σ ν ρ R) (reports : Nat → List Settlement) (id : String) :
    Option (Call C κ G W ρ) → List (Entry ν ρ R) → Prop
  | unmade : Record trade reports id none []
  | made {call? : Option (Call C κ G W ρ)} {entries : List (Entry ν ρ R)}
      (story : Story trade reports id call? entries) :
      Record trade reports id call? (.made id :: entries)

section Stories

variable {reports others : Nat → List Settlement} {call? : Option (Call C κ G W ρ)}
  {entries : List (Entry ν ρ R)}

lemma unready_nil (id : String) : Unready id ([] : List (Entry ν ρ R)) := nofun

lemma Unready.snoc {looks : List (Entry ν ρ R)} (unready : Unready id looks) :
    Unready id (looks ++ [.looked id .pending]) := by
  intro entry mem
  rcases List.mem_append.mp mem with old | new
  · exact unready entry old
  · exact List.mem_singleton.mp new

lemma Unready.listeners {looks : List (Entry ν ρ R)} (unready : Unready id looks) :
    looks.filterMap Entry.listener? = [] := by
  rw [List.filterMap_eq_nil_iff]
  intro entry mem
  rw [unready entry mem]
  rfl

lemma Story.puts_to_use (story : Story trade reports id call? entries)
    (mem : listener ∈ entries.filterMap Entry.listener?) :
    (∃ pass, call?.bind Call.pass? = some pass ∧ pass.number = listener) ∨ reports listener ≠ [] := by
  cases story with
  | waiting | givenUp | refused => nomatch mem
  | unasked broken =>
    rw [List.filterMap_cons_none broken.isLast.2.2] at mem
    nomatch mem
  | @working call _ pass _ _ phase unready =>
    rw [Entry.listeners_invoked, unready.listeners, List.mem_singleton] at mem
    refine .inl ⟨pass, ?_, mem.symm⟩
    rw [Option.bind_some, Call.pass?, phase]
  | dropped unready settled =>
    rw [List.cons_append, Entry.listeners_invoked, List.filterMap_append, unready.listeners] at mem
    rw [List.mem_singleton.mp mem, settled]
    exact .inr (List.cons_ne_nil _ _)
  | ended unready closes settled =>
    rw [List.append_assoc, List.cons_append, Entry.listeners_invoked, List.filterMap_append,
      unready.listeners, List.singleton_append, Entry.listeners_looked,
      List.filterMap_cons_none closes.isLast.2.2] at mem
    rw [List.mem_singleton.mp mem, settled]
    exact .inr (List.cons_ne_nil _ _)

lemma Story.congr (story : Story trade reports id call? entries)
    (same : ∀ listener ∈ entries.filterMap Entry.listener?, others listener = reports listener) :
    Story trade others id call? entries := by
  have own : ∀ {listener : Nat} {notices : List ν} {rest : List (Entry ν ρ R)},
      entries = .invoked id listener notices :: rest → others listener = reports listener := by
    rintro listener notices rest rfl
    exact same listener List.mem_cons_self
  cases story with
  | waiting idle => exact .waiting idle
  | givenUp => exact .givenUp
  | unasked broken => exact .unasked broken
  | refused cause => exact .refused cause
  | working phase unready unsettled => exact .working phase unready ((own rfl).trans unsettled)
  | dropped unready settled => exact .dropped unready ((own rfl).trans settled)
  | ended unready closes settled => exact .ended unready closes ((own rfl).trans settled)

lemma Record.puts_to_use (record : Record trade reports id call? entries)
    (mem : listener ∈ entries.filterMap Entry.listener?) :
    (∃ pass, call?.bind Call.pass? = some pass ∧ pass.number = listener) ∨ reports listener ≠ [] := by
  cases record with
  | unmade => nomatch mem
  | made story => exact story.puts_to_use mem

lemma Record.congr (record : Record trade reports id call? entries)
    (same : ∀ listener ∈ entries.filterMap Entry.listener?, others listener = reports listener) :
    Record trade others id call? entries := by
  cases record with
  | unmade => exact .unmade
  | made story => exact .made (story.congr same)

lemma Record.story {call : Call C κ G W ρ} (record : Record trade reports id (some call) entries) :
    ∃ rest, entries = .made id :: rest ∧ Story trade reports id (some call) rest := by
  cases record with
  | made story => exact ⟨_, rfl, story⟩

end Stories

end Admission.Gateway

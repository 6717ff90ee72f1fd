import Admission.Limited
import Admission.Proofs.Desk

/-!
# One report for each piece of limited work

Limited work is looked at any number of times, while others come and go at its desk, until it is
thrown away. What its looks show decides what is reported on its listener, and when: the verdict on
the first result, as soon as it is there, or else that the job is ignored, which takes until then
where the judge fails and until the work is thrown away where there is no result.
-/

namespace Admission.Limited

open Desk (Dealings Holding)
open Relation (ReflTransGen)

variable {C L G W ω ε ρ : Type}

/-- What is to be reported of work whose looks have shown so much: the verdict on the first result,
or that the job is ignored if the judge fails on it, and nothing as long as there is no result. -/
def outcome? (verdictOn : Judge ε ρ) : List (Answer (Except ε ρ)) → Option Outcome
  | [] => none
  | .ready result :: _ => some ((verdictOn result).toOption.getD .ignore)
  | .pending :: rest | .brokenDown _ :: rest => outcome? verdictOn rest

/-- A piece of limited work at a desk, the passes which others hold, and what the looks at the work
have shown, the latest last. -/
structure Scene (L G ω ε ρ : Type) where
  desk : Desk L
  others : List (Pass G)
  limited : Limited ω G
  shown : List (Answer (Except ε ρ))

variable (C) [Limiter C L G W]

/-- What can happen: the work is looked at, and does whatever it likes, or something happens at the
desk which is none of its business. -/
inductive Scene.Step (verdictOn : Judge ε ρ) : Scene L G ω ε ρ → Scene L G ω ε ρ → Prop
  | poll (scene : Scene L G ω ε ρ) (look : ω → ω × Answer (Except ε ρ)) (now : Nat) :
    Step verdictOn scene
      ⟨(scene.limited.poll C look verdictOn scene.desk now).2.1, scene.others,
        (scene.limited.poll C look verdictOn scene.desk now).1,
        scene.shown ++ [(look scene.limited.work).2]⟩
  | elsewhere {scene : Scene L G ω ε ρ} {desk : Desk L} {others : List (Pass G)}
    (dealings : Dealings C (scene.desk, scene.others) (desk, others)) :
    Step verdictOn scene { scene with desk := desk, others := others }

/-- What one look tells is what the work shows, but for a result on which there is no report as the
verdict has it. -/
structure Tells (verdictOn : Judge ε ρ) (limited : Limited ω G) (desk : Desk L) (now : Nat)
    (shown told : Answer (Except ε ρ)) : Prop where
  pending : told = .pending ↔ shown = .pending
  unchanged : ∀ result, told = .ready result → shown = .ready result
  ready : ∀ result, shown = .ready result →
    (∀ pass, limited.pass = some pass → ∃ outcome, verdictOn result = .ok outcome ∧
      (desk.resolve C pass outcome now false).2 = none) → told = .ready result
  brokenDown : ∀ text, shown = .brokenDown text → told = .brokenDown text

variable {C}

section Polls

variable {verdictOn : Judge ε ρ} {limited : Limited ω G} {desk : Desk L} {now : Nat}
  {look : ω → ω × Answer (Except ε ρ)} {pass : Pass G}

/-- A look at work whose pass has been used, or which shows no result, reports nothing. -/
lemma poll_silent (silent : limited.pass = none ∨ ∀ result, (look limited.work).2 ≠ .ready result) :
    limited.poll C look verdictOn desk now =
      ({ limited with work := (look limited.work).1 }, desk, (look limited.work).2) := by
  unfold poll
  rcases shown : look limited.work with ⟨work, _ | result | text⟩
  · rfl
  · have used : limited.pass = none := silent.resolve_right fun no_result =>
      no_result result (congrArg Prod.snd shown)
    dsimp only
    rw [used]
  · rfl

/-- A look which shows the first result reports on it, and tells it unless the judge or the limiter
breaks down over it. -/
lemma poll_reports (verdictOn : Judge ε ρ) (desk : Desk L) (now : Nat)
    (unused : limited.pass = some pass) {result : Except ε ρ}
    (shown : (look limited.work).2 = .ready result) :
    ∃ told cleaning, limited.poll C look verdictOn desk now =
        (⟨(look limited.work).1, none⟩,
          (desk.resolve C pass ((verdictOn result).toOption.getD .ignore) now cleaning).1, told) ∧
      (told = .ready result ∨ ∃ text, told = .brokenDown text ∧ ∀ outcome,
        verdictOn result = .ok outcome → (desk.resolve C pass outcome now false).2 ≠ none) := by
  unfold poll
  generalize look limited.work = found at shown ⊢
  obtain ⟨work, answer⟩ := found
  obtain rfl : answer = .ready result := shown
  dsimp only
  rw [unused]
  dsimp only
  cases verdict : verdictOn result with
  | error text =>
    simp only [report]
    exact ⟨.brokenDown text, true, rfl, .inr ⟨text, rfl, nofun⟩⟩
  | ok outcome =>
    simp only [report]
    refine (?_ : ∃ told, _ = (_, (desk.resolve C pass outcome now false).1, told) ∧ _).imp
      fun told polled => ⟨false, polled⟩
    rcases resolved : desk.resolve C pass outcome now false with ⟨next, _ | fault⟩
    · exact ⟨_, rfl, .inl rfl⟩
    · refine ⟨_, rfl, .inr ⟨_, rfl, fun other same fine => ?_⟩⟩
      cases same
      rw [resolved] at fine
      cases fine

lemma poll_tells (limited : Limited ω G) (desk : Desk L) (now : Nat)
    (look : ω → ω × Answer (Except ε ρ)) :
    Tells C verdictOn limited desk now (look limited.work).2
      (limited.poll C look verdictOn desk now).2.2 := by
  have alike : ∀ told, told = (look limited.work).2 →
      Tells C verdictOn limited desk now (look limited.work).2 told := by
    rintro told rfl
    exact ⟨Iff.rfl, fun _ same => same, fun _ same _ => same, fun _ same => same⟩
  cases unused : limited.pass with
  | none => exact alike _ (by rw [poll_silent (.inl unused)])
  | some pass =>
    cases shown : (look limited.work).2 with
    | pending =>
      rw [shown] at alike
      exact alike _ (by rw [poll_silent (.inr (by simp [shown])), shown])
    | brokenDown text =>
      rw [shown] at alike
      exact alike _ (by rw [poll_silent (.inr (by simp [shown])), shown])
    | ready result =>
      rw [shown] at alike
      obtain ⟨told, cleaning, polled, telling⟩ :=
        poll_reports (C := C) verdictOn desk now unused shown
      rw [polled]
      rcases telling with rfl | ⟨text, rfl, unheard⟩
      · exact alike _ rfl
      · refine ⟨⟨nofun, nofun⟩, nofun, fun other same heard => ?_, nofun⟩
        obtain ⟨outcome, verdict, fine⟩ := heard pass unused
        cases same
        exact absurd fine (unheard outcome verdict)

end Polls

section Life

variable {verdictOn : Judge ε ρ} {pass : Pass G} {scene next : Scene L G ω ε ρ}

lemma outcome?_append (verdictOn : Judge ε ρ) (early late : List (Answer (Except ε ρ))) :
    outcome? verdictOn (early ++ late) =
      (outcome? verdictOn early).or (outcome? verdictOn late) := by
  induction early with
  | nil => exact Option.none_or.symm
  | cons first rest ih =>
    cases first with
    | pending | brokenDown => exact ih
    | ready => rfl

/-- How it stands with the pass of the work: it is there and nothing is to be reported yet, or it has
been used up by the one report which the looks have asked for. -/
inductive Stands (verdictOn : Judge ε ρ) (pass : Pass G) (scene : Scene L G ω ε ρ) : Prop
  | unused (held : scene.limited.pass = some pass)
    (holding : Holding [] (scene.desk, pass :: scene.others))
    (silent : outcome? verdictOn scene.shown = none)
  | used {report : Settlement} (gone : scene.limited.pass = none)
    (holding : Holding [] (scene.desk, scene.others))
    (settled : scene.desk.settledOn pass.number = [report])
    (judged : outcome? verdictOn scene.shown = some report.outcome)

/-- Whoever reports on a pass makes the one report on it. -/
lemma settledOn_resolve {desk : Desk L} {others : List (Pass G)}
    (holding : Holding [] (desk, pass :: others)) (outcome : Outcome) (now : Nat)
    (cleaning : Bool) :
    Holding [] ((desk.resolve C pass outcome now cleaning).1, others) ∧
      (desk.resolve C pass outcome now cleaning).1.settledOn pass.number =
        [⟨pass.number, outcome, (desk.resolve C pass outcome now cleaning).2⟩] := by
  have unused : pass.Unused := holding.unused pass List.mem_cons_self
  have outstanding : desk.settledOn pass.number = [] :=
    holding.balanced.settledOn_outstanding List.mem_cons_self
  refine ⟨holding.deal (.report outcome now cleaning), ?_⟩
  rw [(Desk.resolve_settles unused desk outcome now cleaning).settledOn, outstanding]
  simp

/-- What others do at the desk leaves a pass which they do not hold as it is. -/
lemma holding_elsewhere {desk later : Desk L} {others rest : List (Pass G)}
    (holding : Holding [] (desk, pass :: others))
    (dealings : Dealings C (desk, others) (later, rest)) : Holding [] (later, pass :: rest) := by
  have behind := (holding.reorder (List.perm_append_singleton pass others).symm).dealings
    (dealings.beside [pass])
  exact behind.reorder (List.perm_append_singleton pass rest)

lemma Stands.step (stands : Stands verdictOn pass scene) (step : Scene.Step C verdictOn scene next) :
    Stands verdictOn pass next := by
  cases step with
  | poll look now =>
    have snoc := outcome?_append verdictOn scene.shown [(look scene.limited.work).2]
    cases stands with
    | used gone holding settled judged =>
      rw [judged, Option.some_or] at snoc
      rw [poll_silent (.inl gone)]
      exact .used gone holding settled snoc
    | unused held holding silent =>
      rw [silent, Option.none_or] at snoc
      cases shown : (look scene.limited.work).2 with
      | pending | brokenDown =>
        rw [shown] at snoc
        rw [poll_silent (.inr (by simp [shown]))]
        exact .unused held holding snoc
      | ready result =>
        rw [shown] at snoc
        obtain ⟨told, cleaning, polled, -⟩ :=
          poll_reports (C := C) verdictOn scene.desk now held shown
        obtain ⟨rest, settled⟩ := settledOn_resolve (C := C) holding
          ((verdictOn result).toOption.getD .ignore) now cleaning
        rw [polled]
        exact .used rfl rest settled snoc
  | elsewhere dealings =>
    cases stands with
    | unused held holding silent => exact .unused held (holding_elsewhere holding dealings) silent
    | used gone holding settled judged =>
      have some_report : scene.desk.settledOn pass.number ≠ [] := by
        rw [settled]
        exact List.cons_ne_nil _ _
      have same := holding.settledOn dealings (.inr some_report)
      exact .used gone (holding.dealings dealings) (same.trans settled) judged

lemma Stands.steps (stands : Stands verdictOn pass scene)
    (steps : ReflTransGen (Scene.Step C verdictOn) scene next) : Stands verdictOn pass next := by
  induction steps with
  | refl => exact stands
  | tail _ step ih => exact ih.step step

lemma Stands.settledOn (stands : Stands verdictOn pass scene) :
    (scene.desk.settledOn pass.number).map Settlement.outcome =
      (outcome? verdictOn scene.shown).toList := by
  cases stands with
  | unused held holding silent =>
    rw [holding.balanced.settledOn_outstanding List.mem_cons_self, silent]
    rfl
  | used gone holding settled judged =>
    rw [settled, judged]
    rfl

/-- Work which is thrown away reports that the job is ignored, if it has not reported before. -/
lemma Stands.drop (stands : Stands verdictOn pass scene) (now : Nat) (cleaning : Bool) :
    Holding [] ((scene.limited.drop C scene.desk now cleaning).1, scene.others) ∧
      ((scene.limited.drop C scene.desk now cleaning).1.settledOn pass.number).map
          Settlement.outcome =
        [(outcome? verdictOn scene.shown).getD .ignore] := by
  unfold Limited.drop report
  cases stands with
  | unused held holding silent =>
    obtain ⟨rest, settled⟩ := settledOn_resolve (C := C) holding .ignore now cleaning
    rw [held, silent]
    refine ⟨rest, ?_⟩
    dsimp only
    rw [settled]
    rfl
  | used gone holding settled judged =>
    rw [gone, judged]
    refine ⟨holding, ?_⟩
    dsimp only
    rw [settled]
    rfl

end Life

/-- Limited work reports once. As long as it is not thrown away there is one report on its listener
if a look has shown a result, with the judge's verdict on the first one or that the job is ignored
if the judge has failed, and no report otherwise. When it is thrown away there is one report in any
case, and none follows: that the job is ignored, if no look has shown a result. And every look
tells what the work shows, but for a result on which it breaks down. -/
theorem limited_work_reports_once {limiter : L} {desk : Desk L} {pass : Pass G}
    {others : List (Pass G)}
    (admitted : Dealings C (Desk.create limiter, []) (desk, pass :: others)) (work : ω)
    (verdictOn : Judge ε ρ) {scene : Scene L G ω ε ρ}
    (lives : ReflTransGen (Scene.Step C verdictOn) ⟨desk, others, .new work pass, []⟩ scene) :
    (scene.desk.settledOn pass.number).map Settlement.outcome =
        (outcome? verdictOn scene.shown).toList ∧
      (∀ now cleaning later rest,
        Dealings C ((scene.limited.drop C scene.desk now cleaning).1, scene.others) (later, rest) →
          (later.settledOn pass.number).map Settlement.outcome =
            [(outcome? verdictOn scene.shown).getD .ignore]) ∧
      ∀ look now, Tells C verdictOn scene.limited scene.desk now (look scene.limited.work).2
        (scene.limited.poll C look verdictOn scene.desk now).2.2 := by
  have created : Holding [] (Desk.create limiter, ([] : List (Pass G))) :=
    ⟨Desk.create_balanced limiter, fun _ mem => nomatch mem⟩
  have begins : Stands verdictOn pass ⟨desk, others, .new work pass, []⟩ :=
    .unused rfl (created.dealings admitted) rfl
  have stands := begins.steps lives
  refine ⟨stands.settledOn, fun now cleaning later rest dealings => ?_, fun look now => ?_⟩
  · obtain ⟨holding, settled⟩ := stands.drop (C := C) now cleaning
    have some_report :
        (scene.limited.drop C scene.desk now cleaning).1.settledOn pass.number ≠ [] := by
      intro nothing
      rw [nothing] at settled
      cases settled
    rw [holding.settledOn dealings (.inr some_report)]
    exact settled
  · exact poll_tells scene.limited scene.desk now look

/-- Work which nobody has finished reports nothing when it is looked at, and that the job is ignored
when it is thrown away. -/
theorem limited_work_reports_once_when_dropped_early :
    ∃ gate, Gate.create (⟨1⟩ : Fixed) = .ok gate ∧
      ∃ pass, ((Desk.create gate).acquireNow () 0).2 = .ok (some pass) ∧
        let desk := ((Desk.create gate).acquireNow () 0).1
        let polled := (Limited.new () pass).poll Unit
          (fun work => (work, (.pending : Answer (Except Unit Unit))))
          (fun _ => .ok .success) desk 0
        polled.2.1.settledOn pass.number = [] ∧
          ((polled.1.drop Unit polled.2.1 7 false).1.settledOn pass.number).map Settlement.outcome =
            [.ignore] := by
  refine ⟨⟨⟨1⟩, 1, 1, 0, 0⟩, rfl, ⟨0, Listener.new () 0⟩, rfl, ?_⟩
  intro desk polled
  have admitted : Dealings Unit (Desk.create (⟨⟨1⟩, 1, 1, 0, 0⟩ : Gate Fixed), [])
      (desk, [⟨0, Listener.new () 0⟩]) :=
    .single (.handOut (.acquireNow _ ()) 0)
  obtain ⟨alive, thrown_away, -⟩ := limited_work_reports_once admitted ()
    (fun _ => .ok .success) (.single (.poll _
      (fun work => (work, (.pending : Answer (Except Unit Unit)))) 0))
  exact ⟨List.map_eq_nil_iff.mp alive, thrown_away 7 false _ _ .refl⟩

end Admission.Limited

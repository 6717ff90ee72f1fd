import Admission.Agenda
import Mathlib.Logic.Relation
import Mathlib.Tactic.Lemma

/-!
# Turns of agents

Whatever a system of agents does by itself is a sequence of turns of agents, between which only the
agenda changes. Nobody who is ready to go on is forgotten before its turn.
-/

namespace Admission

namespace Agenda

variable {F : Type} [BEq F] {agenda : Agenda F} {who : F}

lemma mem_ready_wake (mem : who ∈ agenda.ready) (other : F) : who ∈ (agenda.wake other).ready := by
  unfold wake
  split
  · exact mem
  · exact List.mem_append_left _ mem

lemma mem_ready_foldl_wake {α : Type} (agent : α → F) (mem : who ∈ agenda.ready) (others : List α) :
    who ∈ (others.foldl (fun agenda other => agenda.wake (agent other)) agenda).ready := by
  induction others generalizing agenda with
  | nil => exact mem
  | cons other rest ih => exact ih (mem_ready_wake mem (agent other))

lemma self_mem_ready_wake [LawfulBEq F] (agenda : Agenda F) (who : F) :
    who ∈ (agenda.wake who).ready := by
  unfold wake
  split
  · next there => exact List.contains_iff_mem.mp there
  · exact List.mem_append_right _ (List.mem_singleton_self who)

lemma mem_ready_moveTo (mem : who ∈ agenda.ready) (time : Nat) : who ∈ (agenda.moveTo time).ready := by
  unfold moveTo
  dsimp only
  refine mem_ready_foldl_wake Prod.snd ?_ _
  exact mem

end Agenda

namespace Agents

variable {S F : Type} [Agents S F] {step : S → S → Prop}

section InTurn

variable (later : ∀ agenda system, (∀ who ∈ (Agents.agenda system).ready, who ∈ agenda.ready) →
    step system (Agents.setAgenda agenda system))
  (turn : ∀ who rest system, (Agents.agenda system).ready = who :: rest →
    Relation.ReflTransGen step system
      (Agents.goOn who (Agents.setAgenda { Agents.agenda system with ready := rest } system)))

include turn

lemma settleFor_turns (fuel : Nat) (system : S) :
    Relation.ReflTransGen step system (settleFor fuel system) := by
  induction fuel generalizing system with
  | zero => exact .refl
  | succ fuel ih =>
    unfold settleFor
    dsimp only
    split
    · exact .refl
    · next who rest ready => exact (turn who rest system ready).trans (ih _)

theorem settle_turns (system : S) : Relation.ReflTransGen step system (settle system) :=
  settleFor_turns turn _ system

include later

lemma advanceFor_turns [BEq F] (time fuel : Nat) (system : S) :
    Relation.ReflTransGen step system (advanceFor time fuel system) := by
  induction fuel generalizing system with
  | zero => exact .single (later _ _ fun _ mem => mem)
  | succ fuel ih =>
    have settled := settle_turns turn system
    have moved : ∀ time, step (settle system)
        (Agents.setAgenda ((Agents.agenda (settle system)).moveTo time) (settle system)) :=
      fun time => later _ _ fun _ mem => Agenda.mem_ready_moveTo mem time
    unfold advanceFor
    dsimp only
    split
    · split
      · exact (settled.tail (moved _)).trans (ih _)
      · exact settled.tail (moved _)
    · exact settled.tail (moved _)

/-- While time goes on those who are ready take their turns, and more become ready. -/
theorem advance_turns [BEq F] (time : Nat) (system : S) :
    Relation.ReflTransGen step system (advance time system) :=
  advanceFor_turns later turn _ _ system

end InTurn

section Anyhow

variable (plan : ∀ agenda system, step system (Agents.setAgenda agenda system))
  (turn : ∀ who system, Relation.ReflTransGen step system (Agents.goOn who system))

include plan turn

theorem settle_steps (system : S) : Relation.ReflTransGen step system (settle system) :=
  settle_turns (fun _ _ _ _ => (Relation.ReflTransGen.single (plan _ _)).trans (turn _ _)) system

theorem advance_steps [BEq F] (time : Nat) (system : S) :
    Relation.ReflTransGen step system (advance time system) :=
  advance_turns (fun _ _ _ => plan _ _)
    (fun _ _ _ _ => (Relation.ReflTransGen.single (plan _ _)).trans (turn _ _)) time system

end Anyhow

end Agents
end Admission

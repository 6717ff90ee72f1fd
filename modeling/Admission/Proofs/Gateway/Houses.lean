import Admission.Proofs.Gateway.Moves
import Mathlib.Data.Fintype.Basic
import Mathlib.Data.Finset.Dedup

/-!
# Gateways which share a desk

Gateways of any kinds may have their calls admitted at one desk. Whichever of them makes a move, the
others find the desk as it leaves it, and their calls have the same stories as before.
-/

namespace Admission

/-- A kind of gateways at a desk: what their calls are about, and how they deal with them. -/
structure Kind (L G W : Type) where
  {C κ σ ν ρ R : Type}
  [limiter : Limiter C L G W]
  trade : Trade C κ σ ν ρ R

attribute [instance] Kind.limiter

variable {L G W I : Type}

abbrev Kind.Gateway (kind : Kind L G W) : Type :=
  Admission.Gateway kind.C L G W kind.κ kind.σ kind.ν kind.ρ kind.R

namespace Gateway

open Desk (Dealings Holding)

/-- Gateways which share a desk. -/
abbrev House (kinds : I → Kind L G W) : Type := ∀ i, (kinds i).Gateway

namespace House

variable {kinds : I → Kind L G W}

/-- Gateways at a new desk, each with a service of its own. -/
def create (kinds : I → Kind L G W) (limiter : L) (services : ∀ i, (kinds i).σ) : House kinds :=
  fun i => Gateway.create (kinds i).trade limiter (services i)

/-- One of the gateways makes a move. -/
def Move (before after : House kinds) : Prop :=
  ∃ i, Gateway.Move (before i) (after i) ∧
    ∀ j, j ≠ i → after j = { before j with desk := (after i).desk }

abbrev Moves (before after : House kinds) : Prop := Relation.ReflTransGen Move before after

/-- One of the gateways is in another state, and the others are as they were. -/
def put [DecidableEq I] (house : House kinds) (i : I) (gateway : (kinds i).Gateway) : House kinds :=
  Function.update (fun j => { house j with desk := gateway.desk }) i gateway

lemma put_desk [DecidableEq I] (house : House kinds) (i : I) (gateway : (kinds i).Gateway) (j : I) :
    (house.put i gateway j).desk = gateway.desk := by
  unfold put
  by_cases own : j = i
  · subst own
    rw [Function.update_self]
  · rw [Function.update_of_ne own]

lemma moves_of_gateway [DecidableEq I] {house : House kinds} {i : I} {gateway : (kinds i).Gateway}
    (shared : ∀ j, (house j).desk = (house i).desk) (moves : Gateway.Moves (house i) gateway) :
    Moves house (house.put i gateway) := by
  induction moves with
  | refl =>
    have same : house.put i (house i) = house := by
      funext j
      by_cases own : j = i
      · subst own
        exact Function.update_self _ _ _
      · exact (Function.update_of_ne own _ _).trans (by rw [← shared j])
    rw [same]
  | tail _ move ih =>
    refine ih.tail ⟨i, ?_, fun j other => ?_⟩
    · simpa [put] using move
    · simp [put, other]

variable [Fintype I]

/-- The passes of all calls, and those which are held outside of calls. -/
noncomputable def passes (house : House kinds) : List (Pass G) :=
  Finset.univ.toList.flatMap fun i => (house i).passes

/-- The listeners which were put to use. -/
noncomputable def listeners (house : House kinds) : List Nat :=
  Finset.univ.toList.flatMap fun i => (house i).listeners

/-- All calls have their stories, and every listener which was handed out was put to use once. -/
structure Sound (house : House kinds) (desk : Desk L) : Prop where
  shared : ∀ i, (house i).desk = desk
  trades : ∀ i, (house i).trade = (kinds i).trade
  orderly : ∀ i, (house i).Orderly
  holding : Holding [] (desk, house.passes)
  listeners : house.listeners.Perm (List.range desk.handedOut)

section Sound

variable {α : Type} {house before after : House kinds} {desk : Desk L} {i : I}

lemma flatMap_apart (i : I) (old new : I → List α) (same : ∀ j, j ≠ i → new j = old j) :
    ∃ rest, (Finset.univ.toList.flatMap old).Perm (old i ++ rest) ∧
      (Finset.univ.toList.flatMap new).Perm (new i ++ rest) ∧
      ∀ j, j ≠ i → ∀ one ∈ old j, one ∈ rest := by
  obtain ⟨front, back, all⟩ := List.append_of_mem (Finset.mem_toList.mpr (Finset.mem_univ i))
  have apart : i ∉ front ++ back := by
    have nodup := all ▸ Finset.nodup_toList (Finset.univ (α := I))
    exact (List.nodup_cons.mp (List.nodup_middle.mp nodup)).1
  have split : ∀ each : I → List α, (Finset.univ.toList.flatMap each).Perm
      (each i ++ (front ++ back).flatMap each) := by
    intro each
    rw [all, List.flatMap_append, List.flatMap_cons, List.flatMap_append]
    simp only [← List.append_assoc]
    exact List.perm_append_comm.append_right _
  have others : (front ++ back).flatMap new = (front ++ back).flatMap old :=
    List.flatMap_congr fun j mem => same j fun own => apart (own ▸ mem)
  refine ⟨_, split old, others ▸ split new, fun j other one mem => ?_⟩
  refine List.mem_flatMap.mpr ⟨j, ?_, mem⟩
  have listed : j ∈ front ++ i :: back := all ▸ Finset.mem_toList.mpr (Finset.mem_univ j)
  rw [List.mem_append, List.mem_cons] at listed
  rw [List.mem_append]
  exact listed.imp id fun later => later.resolve_left other

lemma create_sound (kinds : I → Kind L G W) (limiter : L) (services : ∀ i, (kinds i).σ) :
    Sound (create kinds limiter services) (Desk.create limiter) where
  shared _ := rfl
  trades _ := rfl
  orderly _ := ⟨List.nodup_nil, List.nodup_nil, fun _ => .unmade⟩
  holding := by
    have empty : passes (create kinds limiter services) = [] :=
      List.flatMap_eq_nil_iff.mpr fun _ _ => rfl
    rw [empty]
    exact ⟨Desk.create_balanced limiter, nofun⟩
  listeners := by
    have empty : listeners (create kinds limiter services) = [] :=
      List.flatMap_eq_nil_iff.mpr fun _ _ => rfl
    rw [empty]
    exact .refl _

/-- A move of one gateway leaves the calls of the others alone. -/
theorem Move.sound (move : Move before after) (sound : Sound before desk) :
    ∃ next, Sound after next := by
  obtain ⟨i, move, others⟩ := move
  obtain rfl := sound.shared i
  obtain ⟨rest, split, joined, elsewhere⟩ := flatMap_apart i (fun j => (before j).passes)
    (fun j => (after j).passes) fun j other => by rw [others j other]; rfl
  obtain ⟨noted, noted_split, noted_joined, -⟩ := flatMap_apart i (fun j => (before j).listeners)
    (fun j => (after j).listeners) fun j other => by rw [others j other]; rfl
  -- The gateway which moves looks after its own passes; those of the others are outstanding elsewhere.
  have own := (sound.holding.reorder split).part
  have kept := move.kept (sound.orderly i) own
  refine ⟨(after i).desk, fun j => ?_, fun j => ?_, fun j => ?_, ?_, ?_⟩
  · by_cases same : j = i
    · rw [same]
    · rw [others j same]
  · by_cases same : j = i
    · rw [same, kept.trade, sound.trades]
    · rw [others j same]
      exact sound.trades j
  · by_cases same : j = i
    · exact same ▸ kept.orderly
    · rw [others j same]
      refine (sound.orderly j).leave fun listener outstanding => ?_
      rw [sound.shared j] at outstanding ⊢
      refine own.settledOn kept.deals (outstanding.imp_left fun mem => ?_)
      obtain ⟨pass, held, rfl⟩ := List.mem_map.mp mem
      exact List.mem_map_of_mem (elsewhere j same pass held)
  · exact ((sound.holding.reorder split).dealings (kept.deals.beside rest)).reorder joined.symm
  · obtain ⟨new, listeners, numbers⟩ := kept.numbers
    rw [← numbers]
    calc List.Perm after.listeners ((after i).listeners ++ noted) := noted_joined
      List.Perm _ ((before i).listeners ++ noted ++ new) := by
        rw [listeners, List.append_assoc, List.append_assoc]
        exact List.perm_append_comm.append_left _
      List.Perm _ (before.listeners ++ new) := noted_split.symm.append_right new
      List.Perm _ _ := sound.listeners.append_right new

theorem Moves.sound (moves : Moves before after) (sound : Sound before desk) :
    ∃ next, Sound after next := by
  induction moves with
  | refl => exact ⟨desk, sound⟩
  | tail _ move ih =>
    obtain ⟨_, sound⟩ := ih
    exact move.sound sound

end Sound

end House

end Gateway
end Admission

import Mathlib.Data.List.Induction
import Mathlib.Data.List.Nodup
import Mathlib.Tactic.Lemma

/-!
# The order of first use

`eraseDups` lists the members of a list once each, in the order in which they first occur. What is
new at the end of a list is new at the end of that order.
-/

namespace Admission

variable {α β : Type} [BEq α] [LawfulBEq α] [BEq β] [LawfulBEq β]

lemma eraseDups_snoc (members : List α) (last : α) :
    (members ++ [last]).eraseDups =
      if last ∈ members then members.eraseDups else members.eraseDups ++ [last] := by
  rw [List.eraseDups_append]
  by_cases known : last ∈ members
  · simp [List.removeAll, known]
  · simp [List.removeAll, known, List.eraseDups_cons]

lemma nodup_eraseDups (members : List α) : members.eraseDups.Nodup := by
  induction members using List.reverseRecOn with
  | nil => simp
  | append_singleton members last ih =>
    rw [eraseDups_snoc]
    split
    · exact ih
    · rename_i new
      rw [List.nodup_append]
      refine ⟨ih, List.nodup_singleton _, ?_⟩
      rintro known mem only last_mem rfl
      rw [List.mem_singleton.mp last_mem] at mem
      exact new (List.mem_eraseDups.mp mem)

/-- What is taken from the members of a list comes in the same order of first use as what is taken
from each of them once. -/
lemma eraseDups_filterMap (f : α → Option β) (members : List α) :
    (members.filterMap f).eraseDups = (members.eraseDups.filterMap f).eraseDups := by
  induction members using List.reverseRecOn with
  | nil => rfl
  | append_singleton members last ih =>
    rw [eraseDups_snoc]
    cases taken : f last with
    | none =>
      split
      · simpa [taken] using ih
      · simpa [taken] using ih
    | some value =>
      have values : value ∈ members.eraseDups.filterMap f ↔ value ∈ members.filterMap f := by
        simp [List.mem_filterMap, List.mem_eraseDups]
      split
      · rename_i known
        have again : value ∈ members.filterMap f := List.mem_filterMap.mpr ⟨last, known, taken⟩
        rw [List.filterMap_append, List.filterMap_cons_some taken, List.filterMap_nil,
          eraseDups_snoc, if_pos again, ih]
      · rw [List.filterMap_append, List.filterMap_append, List.filterMap_cons_some taken,
          List.filterMap_nil, eraseDups_snoc, eraseDups_snoc, ih]
        simp only [values]

lemma eraseDups_map_congr (f : α → β) {members members' : List α}
    (same : members.eraseDups = members'.eraseDups) :
    (members.map f).eraseDups = (members'.map f).eraseDups := by
  rw [← List.filterMap_eq_map, eraseDups_filterMap, same, ← eraseDups_filterMap]

end Admission

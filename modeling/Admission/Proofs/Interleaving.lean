import Admission.Proofs.FirstUse
import Mathlib.Data.List.Perm.Basic

/-!
# Interleavings

Several threads each go through a list, one element at a time, in any order between the threads.
When all of them go through the same list, the elements are first met in the order of that list,
whatever the interleaving: an element is new only to the thread which is furthest ahead.
-/

namespace Admission

variable {α : Type}

/-- A list is made by taking elements from the fronts of some lists until they are all empty. -/
inductive Interleaves : List (List α) → List α → Prop
  | done {threads : List (List α)} (finished : ∀ thread ∈ threads, thread = []) :
    Interleaves threads []
  | take {before after : List (List α)} {next : α} {rest merged : List α}
      (later : Interleaves (before ++ rest :: after) merged) :
    Interleaves (before ++ (next :: rest) :: after) (next :: merged)

namespace Interleaves

variable {threads : List (List α)} {merged : List α}

/-- An empty thread changes nothing. -/
lemma cons_nil (interleaves : Interleaves threads merged) : Interleaves ([] :: threads) merged := by
  induction interleaves with
  | done finished =>
    apply done
    intro thread mem
    rcases List.mem_cons.mp mem with rfl | mem
    · rfl
    · exact finished thread mem
  | @take before after next rest merged _ ih =>
    have behind_it : Interleaves (([] :: before) ++ rest :: after) merged := ih
    exact take behind_it

/-- The threads may go one after the other. -/
lemma flatten (threads : List (List α)) : Interleaves threads threads.flatten := by
  induction threads with
  | nil => exact done (by simp)
  | cons thread rest ih =>
    rw [List.flatten_cons]
    induction thread with
    | nil => exact ih.cons_nil
    | cons next later ih' =>
      have in_front : Interleaves ([] ++ later :: rest) (later ++ rest.flatten) := ih'
      exact take in_front

/-- The elements are those of the threads. -/
lemma perm (interleaves : Interleaves threads merged) : merged.Perm threads.flatten := by
  induction interleaves with
  | @done threads finished =>
    have empty : threads.flatten = [] := List.flatten_eq_nil_iff.mpr finished
    rw [empty]
  | @take before after next rest merged _ ih =>
    have moved : (next :: (before.flatten ++ (rest ++ after.flatten))).Perm
        (before.flatten ++ (next :: rest ++ after.flatten)) := List.perm_middle.symm
    simp only [List.flatten_append, List.flatten_cons] at ih ⊢
    exact (ih.cons next).trans moved

variable [BEq α] [LawfulBEq α]

/-- Threads on the way through one list: `furthest` is what the one which is ahead of all has gone
through, and it gives the order in which the elements in `seen` were met. -/
lemma eraseDups_of_prefix (interleaves : Interleaves threads merged) {whole : List α}
    (someone : threads ≠ []) {seen furthest : List α} (ahead : furthest <+: whole)
    (order : seen.eraseDups = furthest.eraseDups)
    (behind : ∀ thread ∈ threads, ∃ past, past ++ thread = whole ∧ past <+: furthest) :
    (seen ++ merged).eraseDups = whole.eraseDups := by
  have same_members : ∀ element, element ∈ seen ↔ element ∈ furthest := by
    intro element
    rw [← List.mem_eraseDups, order, List.mem_eraseDups]
  induction interleaves generalizing seen furthest with
  | @done threads finished =>
    obtain ⟨thread, mem⟩ := List.exists_mem_of_ne_nil threads someone
    obtain ⟨past, through, before_it⟩ := behind thread mem
    rw [finished thread mem, List.append_nil] at through
    have all : furthest = whole := by
      subst through
      exact ahead.eq_of_length_le before_it.length_le
    rw [List.append_nil, order, all]
  | @take before after next rest merged _ ih =>
    obtain ⟨past, through, past_behind⟩ := behind (next :: rest) (by simp)
    have step : (past ++ [next]) <+: whole := ⟨rest, by simpa using through⟩
    -- What is met now is new only if this thread is the one ahead, and then it goes on ahead.
    obtain ⟨further, further_ahead, stepped, kept, order'⟩ : ∃ further, further <+: whole ∧
        past ++ [next] <+: further ∧ furthest <+: further ∧
        (seen ++ [next]).eraseDups = further.eraseDups := by
      by_cases leads : past.length < furthest.length
      · have met : past ++ [next] <+: furthest := by
          apply List.prefix_of_prefix_length_le step ahead
          rw [List.length_append, List.length_singleton]
          omega
        have known : next ∈ seen := (same_members next).mpr (met.subset (by simp))
        refine ⟨furthest, ahead, met, List.prefix_rfl, ?_⟩
        rw [eraseDups_snoc, if_pos known, order]
      · have level : past = furthest := past_behind.eq_of_length_le (by omega)
        subst level
        refine ⟨past ++ [next], step, List.prefix_rfl, List.prefix_append _ _, ?_⟩
        rw [eraseDups_snoc, eraseDups_snoc, order]
        simp only [same_members]
    have next_first : seen ++ next :: merged = (seen ++ [next]) ++ merged := by simp
    rw [next_first]
    apply ih (by simp) further_ahead order'
    · intro thread mem
      rcases List.mem_append.mp mem with mem | mem
      · obtain ⟨past', through', behind'⟩ := behind thread (by simp [mem])
        exact ⟨past', through', behind'.trans kept⟩
      · rcases List.mem_cons.mp mem with rfl | mem
        · exact ⟨past ++ [next], by simpa using through, stepped⟩
        · obtain ⟨past', through', behind'⟩ := behind thread (by simp [mem])
          exact ⟨past', through', behind'.trans kept⟩
    · intro element
      rw [← List.mem_eraseDups, order', List.mem_eraseDups]

/-- Threads which all go through one list meet its elements in the same order, however they are
interleaved. -/
theorem eraseDups_replicate {whole merged' : List α} {count : Nat}
    (interleaves : Interleaves (List.replicate count whole) merged)
    (interleaves' : Interleaves (List.replicate count whole) merged') :
    merged.eraseDups = merged'.eraseDups := by
  cases count with
  | zero =>
    have empty := interleaves.perm
    have empty' := interleaves'.perm
    simp only [List.replicate_zero, List.flatten_nil, List.perm_nil] at empty empty'
    rw [empty, empty']
  | succ count =>
    have met : ∀ {merged : List α}, Interleaves (List.replicate (count + 1) whole) merged →
        merged.eraseDups = whole.eraseDups := by
      intro merged interleaves
      have nobody_yet : ([] : List α) <+: whole := List.nil_prefix
      apply interleaves.eraseDups_of_prefix (by simp) nobody_yet rfl
      intro thread mem
      exact ⟨[], List.eq_of_mem_replicate mem, List.prefix_rfl⟩
    rw [met interleaves, met interleaves']

end Interleaves
end Admission

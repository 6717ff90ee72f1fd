import Admission.Partitioned
import Admission.Proofs.FirstUse

/-!
# Where callers belong

Which partition a caller belongs to depends on the configuration and on the keys with which callers
have come so far: a configured key has its partition, and of the other keys those have one which
came first, as many as there are places. This file says so without a limiter, and shows that a key
which has come once belongs to the same partition for good.
-/

namespace Admission

/-- Where a caller is sent. -/
inductive Destination where
  | partition (key : String)
  | unlimited
  | rejected
  deriving DecidableEq, Repr

/-- The partition, if it is one. -/
def Destination.key? : Destination → Option String
  | partition key => some key
  | unlimited | rejected => none

@[simp] lemma Destination.key?_eq_some {destination : Destination} {key : String} :
    destination.key? = some key ↔ destination = .partition key := by
  cases destination <;> simp [Destination.key?]

/-- Where callers go whom no partition is for. -/
def Fallback.destination : Fallback → Destination
  | unlimited => .unlimited
  | reject => .rejected
  | partition name => .partition name

namespace Partitioning

variable {C : Type} (config : Partitioning C)

def isConfigured (key : String) : Bool := (Table.at? config.weights key).isSome

/-- The weight with which the partition of a key shares the limit, if it may have one. -/
def weight? (key : String) : Option Double :=
  (Table.at? config.weights key).or (config.unlisted.map UnlistedKeys.weight)

/-- The share with which the child of a key is made. -/
def HasShare (key : String) (share : Nat) : Prop :=
  ∃ weight, config.weight? key = some weight ∧ config.shareOf weight = .ok share

/-- How many keys which are not configured may have a partition. -/
def places : Nat := (config.unlisted.map UnlistedKeys.cap).getD 0

/-- The keys of callers which are not configured, each once, in the order in which they first
came. -/
def unlistedKeys (seen : List (Option String)) : List String :=
  ((seen.filterMap id).filter (!config.isConfigured ·)).eraseDups

/-- The keys which have come first, as many as there are places. -/
def housed (seen : List (Option String)) : List String :=
  (config.unlistedKeys seen).take config.places

/-- Where a caller belongs after callers with the keys `seen` have come, the caller included. -/
def destination (seen : List (Option String)) : Option String → Destination
  | none => config.fallback.destination
  | some key =>
    if config.isConfigured key = true ∨ key ∈ config.housed seen then .partition key
    else config.fallback.destination

/-- The partitions to which callers belong, in the order in which they were first needed. -/
def visited (seen : List (Option String)) : List String :=
  (seen.filterMap fun key => (config.destination seen key).key?).eraseDups

variable {config} {seen more : List (Option String)} {key : String}

lemma HasShare.unique {share share' : Nat} (has : config.HasShare key share)
    (has' : config.HasShare key share') : share' = share := by
  obtain ⟨weight, weighs, part⟩ := has
  obtain ⟨weight', weighs', part'⟩ := has'
  cases weighs.symm.trans weighs'
  exact Except.ok.inj (part'.symm.trans part)

lemma destination_of_place (place : config.isConfigured key = true ∨ key ∈ config.housed seen) :
    config.destination seen (some key) = .partition key := if_pos place

lemma destination_of_no_place (unlisted : config.isConfigured key = false)
    (no_place : key ∉ config.housed seen) :
    config.destination seen (some key) = config.fallback.destination :=
  if_neg (by simp [unlisted, no_place])

lemma mem_unlistedKeys :
    key ∈ config.unlistedKeys seen ↔ some key ∈ seen ∧ config.isConfigured key = false := by
  simp [unlistedKeys, List.mem_eraseDups]

lemma nodup_unlistedKeys (config : Partitioning C) (seen : List (Option String)) :
    (config.unlistedKeys seen).Nodup := nodup_eraseDups _

lemma unlistedKeys_grow (config : Partitioning C) (seen more : List (Option String)) :
    config.unlistedKeys seen <+: config.unlistedKeys (seen ++ more) := by
  unfold unlistedKeys
  rw [List.filterMap_append, List.filter_append, List.eraseDups_append]
  exact List.prefix_append _ _

lemma unlistedKeys_snoc_none : config.unlistedKeys (seen ++ [none]) = config.unlistedKeys seen := by
  simp [unlistedKeys]

lemma unlistedKeys_snoc_known (known : config.isConfigured key = true ∨ some key ∈ seen) :
    config.unlistedKeys (seen ++ [some key]) = config.unlistedKeys seen := by
  unfold unlistedKeys
  rw [List.filterMap_append, List.filter_append]
  by_cases configured : config.isConfigured key = true
  · simp [configured]
  · have came : some key ∈ seen := known.resolve_left configured
    simp [configured, eraseDups_snoc, came]

lemma unlistedKeys_snoc_new (unlisted : config.isConfigured key = false) (new : some key ∉ seen) :
    config.unlistedKeys (seen ++ [some key]) = config.unlistedKeys seen ++ [key] := by
  simp [unlistedKeys, unlisted, new, eraseDups_snoc]

lemma mem_take_of_prefix {α : Type} {first whole : List α} {member : α} {count : Nat}
    (start : first <+: whole) (distinct : whole.Nodup) (mem : member ∈ first) :
    member ∈ whole.take count ↔ member ∈ first.take count := by
  obtain ⟨rest, rfl⟩ := start
  have apart : member ∉ rest := fun again =>
    (List.nodup_append.mp distinct).2.2 member mem member again rfl
  rw [List.take_append, List.mem_append]
  constructor
  · rintro (early | late)
    · exact early
    · exact absurd (List.mem_of_mem_take late) apart
  · exact .inl

/-- Whether a key has a place is settled when it first comes. -/
lemma mem_housed_append (came : some key ∈ seen) (unlisted : config.isConfigured key = false) :
    key ∈ config.housed (seen ++ more) ↔ key ∈ config.housed seen :=
  mem_take_of_prefix (unlistedKeys_grow config seen more) (nodup_unlistedKeys config _)
    (mem_unlistedKeys.mpr ⟨came, unlisted⟩)

lemma length_housed (config : Partitioning C) (seen : List (Option String)) :
    (config.housed seen).length = min config.places (config.unlistedKeys seen).length :=
  List.length_take

lemma housed_snoc_none : config.housed (seen ++ [none]) = config.housed seen := by
  rw [housed, unlistedKeys_snoc_none, housed]

lemma housed_snoc_configured (configured : config.isConfigured key = true) :
    config.housed (seen ++ [some key]) = config.housed seen := by
  rw [housed, unlistedKeys_snoc_known (.inl configured), housed]

lemma housed_snoc_mem (place : key ∈ config.housed seen) :
    config.housed (seen ++ [some key]) = config.housed seen := by
  have came := (mem_unlistedKeys.mp (List.mem_of_mem_take place)).1
  rw [housed, unlistedKeys_snoc_known (.inr came), housed]

/-- As long as not all places are taken, every key which has come has one. -/
lemma housed_eq_of_room (room : (config.housed seen).length < config.places) :
    config.housed seen = config.unlistedKeys seen := by
  rw [length_housed] at room
  exact List.take_of_length_le (by omega)

lemma housed_snoc_room (unlisted : config.isConfigured key = false)
    (no_place : key ∉ config.housed seen) (room : (config.housed seen).length < config.places) :
    config.housed (seen ++ [some key]) = config.housed seen ++ [key] := by
  have all := housed_eq_of_room room
  have new : some key ∉ seen := fun came =>
    no_place (all ▸ mem_unlistedKeys.mpr ⟨came, unlisted⟩)
  rw [all] at room ⊢
  rw [housed, unlistedKeys_snoc_new unlisted new, List.take_of_length_le]
  simpa using Nat.succ_le_of_lt room

lemma housed_snoc_full (full : config.places ≤ (config.housed seen).length)
    (key : Option String) : config.housed (seen ++ [key]) = config.housed seen := by
  rw [length_housed] at full
  obtain ⟨rest, whole⟩ := unlistedKeys_grow config seen [key]
  rw [housed, ← whole, List.take_append_of_le_length (by omega), housed]

/-- Where a caller belongs is settled when its key first comes. -/
lemma destination_append {key : Option String} (came : key ∈ seen) :
    config.destination (seen ++ more) key = config.destination seen key := by
  cases key with
  | none => rfl
  | some key =>
    by_cases configured : config.isConfigured key = true
    · simp [destination, configured]
    · rw [Bool.not_eq_true] at configured
      simp only [destination, configured, mem_housed_append came configured]

lemma visited_snoc (config : Partitioning C) (seen : List (Option String)) (key : Option String) :
    config.visited (seen ++ [key]) =
      match (config.destination (seen ++ [key]) key).key? with
      | none => config.visited seen
      | some place => if place ∈ config.visited seen then config.visited seen
        else config.visited seen ++ [place] := by
  have settled : seen.filterMap (fun key' => (config.destination (seen ++ [key]) key').key?) =
      seen.filterMap fun key' => (config.destination seen key').key? :=
    List.filterMap_congr fun key' came => by rw [destination_append came]
  unfold visited
  rw [List.filterMap_append, settled]
  cases last : (config.destination (seen ++ [key]) key).key? with
  | none => simp [last]
  | some place => simp only [List.filterMap_cons, List.filterMap_nil, last, eraseDups_snoc,
      List.mem_eraseDups]

lemma nodup_visited (config : Partitioning C) (seen : List (Option String)) :
    (config.visited seen).Nodup := nodup_eraseDups _

lemma mem_visited : key ∈ config.visited seen ↔
    ∃ came ∈ seen, config.destination seen came = .partition key := by
  simp [visited, List.mem_eraseDups]

lemma visited_subset : config.visited seen ⊆ config.visited (seen ++ more) := by
  intro key visited
  obtain ⟨came, mem, sent⟩ := mem_visited.mp visited
  refine mem_visited.mpr ⟨came, List.mem_append_left _ mem, ?_⟩
  rw [destination_append mem, sent]

lemma isConfigured_of_fallback
    (target : ∀ name, config.fallback = .partition name → config.isConfigured name = true)
    (falls : config.fallback.destination = .partition key) : config.isConfigured key = true := by
  cases found : config.fallback with
  | unlimited | reject => simp [found, Fallback.destination] at falls
  | «partition» name =>
    rw [found, Fallback.destination, Destination.partition.injEq] at falls
    exact falls ▸ target name found

/-- The keys without a configured partition which have been given one are those which have a
place. -/
lemma mem_visited_of_unlisted
    (target : ∀ name, config.fallback = .partition name → config.isConfigured name = true)
    (unlisted : config.isConfigured key = false) :
    key ∈ config.visited seen ↔ key ∈ config.housed seen := by
  have not_target : config.fallback.destination ≠ .partition key := fun falls =>
    absurd ((isConfigured_of_fallback target falls).symm.trans unlisted) nofun
  rw [mem_visited]
  constructor
  · rintro ⟨came, -, sent⟩
    cases came with
    | none => exact absurd sent not_target
    | some other =>
      by_cases place : config.isConfigured other = true ∨ other ∈ config.housed seen
      · rw [destination_of_place place, Destination.partition.injEq] at sent
        rw [sent] at place
        exact place.resolve_left (by simp [unlisted])
      · rw [destination, if_neg place] at sent
        exact absurd sent not_target
  · intro housed
    have came := (mem_unlistedKeys.mp (List.mem_of_mem_take housed)).1
    exact ⟨some key, came, destination_of_place (.inr housed)⟩

/-- A key has a partition of its own just when it is configured or has a place. -/
lemma destination_eq_partition_iff
    (target : ∀ name, config.fallback = .partition name → config.isConfigured name = true) :
    config.destination seen (some key) = .partition key ↔
      config.isConfigured key = true ∨ key ∈ config.housed seen := by
  refine ⟨fun sent => ?_, destination_of_place⟩
  by_contra no_place
  rw [destination, if_neg no_place] at sent
  have configured := isConfigured_of_fallback target sent
  exact no_place (.inl configured)

lemma isConfigured_of_check (checked : config.check = .ok ()) :
    ∀ name, config.fallback = .partition name → config.isConfigured name = true := by
  intro name found
  unfold check at checked
  rw [found] at checked
  dsimp only at checked
  split at checked
  · rename_i configured
    exact configured
  · simp at checked

/-- How many of the callers with some keys belong to a destination. -/
def routed (config : Partitioning C) (seen : List (Option String)) (place : Destination) : Nat :=
  (seen.map (config.destination seen)).count place

lemma routed_snoc (seen : List (Option String)) (key : Option String) (place : Destination) :
    config.routed (seen ++ [key]) place = config.routed seen place +
      if config.destination (seen ++ [key]) key = place then 1 else 0 := by
  have settled : seen.map (config.destination (seen ++ [key])) =
      seen.map (config.destination seen) :=
    List.map_congr_left fun came mem => destination_append mem
  rw [routed, routed, List.map_append, settled, List.count_append]
  simp [List.count_singleton]

/-- Nobody belongs to a partition which has not been visited. -/
lemma routed_of_not_visited (unvisited : key ∉ config.visited seen) :
    config.routed seen (.partition key) = 0 := by
  apply List.count_eq_zero.mpr
  intro mem
  obtain ⟨came, came_mem, sent⟩ := List.mem_map.mp mem
  exact unvisited (mem_visited.mpr ⟨came, came_mem, sent⟩)

section Orders

variable {seen' : List (Option String)}

/-- The order in which keys first came decides which of them have places. -/
lemma unlistedKeys_congr (same : seen.eraseDups = seen'.eraseDups) :
    config.unlistedKeys seen = config.unlistedKeys seen' := by
  unfold unlistedKeys
  rw [List.filter_filterMap, List.filter_filterMap, eraseDups_filterMap, same,
    ← eraseDups_filterMap]

lemma housed_congr (same : seen.eraseDups = seen'.eraseDups) :
    config.housed seen = config.housed seen' := by
  rw [housed, unlistedKeys_congr same, housed]

lemma destination_congr (same : seen.eraseDups = seen'.eraseDups) :
    config.destination seen = config.destination seen' := by
  funext key
  cases key with
  | none => rfl
  | some key => simp only [destination, housed_congr same]

lemma visited_congr (same : seen.eraseDups = seen'.eraseDups) :
    config.visited seen = config.visited seen' := by
  unfold visited
  rw [destination_congr same, eraseDups_filterMap, same, ← eraseDups_filterMap]

lemma routed_congr (same : seen.eraseDups = seen'.eraseDups) (perm : seen.Perm seen')
    (place : Destination) : config.routed seen place = config.routed seen' place := by
  unfold routed
  rw [destination_congr same]
  exact (perm.map _).count_eq place

end Orders

end Partitioning
end Admission

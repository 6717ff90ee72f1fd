import Admission.Table
import Mathlib.Data.List.Nodup

/-!
# Tables by position

A table whose names are distinct has one place for every name it knows. Reading, writing and
removing a name are told here by that place.
-/

namespace Admission.Table

variable {α : Type}

/-- No name is written twice. -/
def Distinct (entries : Table α) : Prop := (entries.map Prod.fst).Nodup

/-- Where a list has one value only once, that value tells its place from all others. -/
lemma ne_of_nodup_map {β γ : Type} {f : β → γ} {before after : List β} {here : β}
    (distinct : ((before ++ here :: after).map f).Nodup) :
    ∀ other ∈ before ++ after, f other ≠ f here := by
  rw [List.map_append, List.map_cons, List.nodup_middle, List.nodup_cons] at distinct
  intro other mem same
  apply distinct.1
  rw [← List.map_append]
  exact List.mem_map.mpr ⟨other, mem, same⟩

lemma Distinct.ne_of_split {before after : Table α} {name : String} {value : α}
    (distinct : Distinct (before ++ (name, value) :: after)) :
    ∀ entry ∈ before ++ after, entry.1 ≠ name :=
  ne_of_nodup_map distinct

lemma split_of_at? {entries : Table α} {name : String} {value : α}
    (found : at? entries name = some value) :
    ∃ before after, entries = before ++ (name, value) :: after ∧
      ∀ entry ∈ before, entry.1 ≠ name := by
  obtain ⟨before, after, rfl, other⟩ := List.lookup_eq_some_iff.mp found
  refine ⟨before, after, rfl, fun entry mem same => ?_⟩
  have differs := other entry mem
  simp [same] at differs

lemma ne_of_at?_none {entries : Table α} {name : String} (absent : at? entries name = none) :
    ∀ entry ∈ entries, entry.1 ≠ name := by
  intro entry mem same
  have differs := List.lookup_eq_none_iff.mp absent entry mem
  simp [same] at differs

lemma put_of_at?_none {entries : Table α} {name : String} (value : α)
    (absent : at? entries name = none) : put entries name value = entries ++ [(name, value)] := by
  have other := ne_of_at?_none absent
  clear absent
  induction entries with
  | nil => rfl
  | cons entry rest ih =>
    have different : entry.1 ≠ name := other entry List.mem_cons_self
    have rest_other : ∀ entry ∈ rest, entry.1 ≠ name :=
      fun entry mem => other entry (List.mem_cons_of_mem _ mem)
    simp only [put, if_neg different, ih rest_other, List.cons_append]

lemma put_split {before after : Table α} {name : String} {old : α} (value : α)
    (other : ∀ entry ∈ before, entry.1 ≠ name) :
    put (before ++ (name, old) :: after) name value = before ++ (name, value) :: after := by
  induction before with
  | nil => simp [put]
  | cons entry rest ih =>
    have different : entry.1 ≠ name := other entry List.mem_cons_self
    have rest_other : ∀ entry ∈ rest, entry.1 ≠ name :=
      fun entry mem => other entry (List.mem_cons_of_mem _ mem)
    simp only [List.cons_append, put, if_neg different, ih rest_other]

lemma at?_isSome_iff {entries : Table α} {name : String} :
    (at? entries name).isSome = true ↔ name ∈ entries.map Prod.fst := by
  cases found : at? entries name with
  | none =>
    have absent := ne_of_at?_none found
    simpa using fun value mem => absent (name, value) mem rfl
  | some value =>
    obtain ⟨before, after, rfl, -⟩ := split_of_at? found
    simp

@[simp] lemma at?_put_self (entries : Table α) (name : String) (value : α) :
    at? (put entries name value) name = some value := by
  induction entries with
  | nil => simp [put, at?]
  | cons entry rest ih =>
    unfold put
    split
    · simp [at?]
    · rename_i different
      have skipped : (name == entry.1) = false := by simpa using Ne.symm different
      rw [at?, List.lookup_cons, skipped]
      exact ih

lemma at?_put_of_ne (entries : Table α) {name other : String} (value : α) (ne : other ≠ name) :
    at? (put entries name value) other = at? entries other := by
  have skipped : (other == name) = false := by simpa using ne
  induction entries with
  | nil => simp [put, at?, List.lookup_cons, skipped]
  | cons entry rest ih =>
    unfold at? at ih ⊢
    unfold put
    split
    · rename_i same
      rw [List.lookup_cons, List.lookup_cons, same, skipped]
    · rw [List.lookup_cons, List.lookup_cons, ih]

lemma names_put {entries : Table α} {name : String} {old : α} (value : α)
    (found : at? entries name = some old) :
    (put entries name value).map Prod.fst = entries.map Prod.fst := by
  obtain ⟨before, after, rfl, other⟩ := split_of_at? found
  simp [put_split value other]

lemma mem_put {entries : Table α} {name : String} {value : α} {entry : String × α}
    (mem : entry ∈ put entries name value) : entry = (name, value) ∨ entry ∈ entries := by
  induction entries with
  | nil => exact .inl (List.mem_singleton.mp mem)
  | cons first rest ih =>
    unfold put at mem
    split at mem
    · rcases List.mem_cons.mp mem with new | old
      · exact .inl new
      · exact .inr (List.mem_cons_of_mem _ old)
    · rcases List.mem_cons.mp mem with rfl | later
      · exact .inr List.mem_cons_self
      · exact (ih later).imp_right (List.mem_cons_of_mem _)

lemma mem_of_at? {entries : Table α} {name : String} {value : α}
    (found : at? entries name = some value) : (name, value) ∈ entries := by
  obtain ⟨before, after, rfl, -⟩ := split_of_at? found
  simp

lemma Distinct.at?_of_mem {entries : Table α} (distinct : Distinct entries) {name : String}
    {value : α} (mem : (name, value) ∈ entries) : at? entries name = some value := by
  cases found : at? entries name with
  | none => exact absurd rfl (ne_of_at?_none found _ mem)
  | some value' =>
    obtain ⟨before, after, rfl, -⟩ := split_of_at? found
    have elsewhere : (name, value) ∉ before ++ after :=
      fun again => distinct.ne_of_split _ again rfl
    simp only [List.mem_append, List.mem_cons, not_or] at mem elsewhere
    rcases mem with mem | same | mem
    · exact absurd mem elsewhere.1
    · cases same
      rfl
    · exact absurd mem elsewhere.2

/-- Two tables with the same names which give each name the same value are the same. -/
lemma Distinct.ext {entries entries' : Table α} (distinct : Distinct entries)
    (names : entries.map Prod.fst = entries'.map Prod.fst)
    (same : ∀ name value value', at? entries name = some value →
      at? entries' name = some value' → value' = value) : entries = entries' := by
  have distinct' : Distinct entries' := by
    unfold Distinct
    rw [← names]
    exact distinct
  apply List.ext_getElem
  · simpa using congrArg List.length names
  · intro position inside inside'
    have name : entries[position].1 = entries'[position].1 := by
      have both := congrArg (·[position]?) names
      simpa [List.getElem?_eq_getElem inside, List.getElem?_eq_getElem inside'] using both
    have found : at? entries entries[position].1 = some entries[position].2 :=
      distinct.at?_of_mem (List.getElem_mem inside)
    have found' : at? entries' entries'[position].1 = some entries'[position].2 :=
      distinct'.at?_of_mem (List.getElem_mem inside')
    rw [← name] at found'
    exact Prod.ext name (same _ _ _ found found').symm

section Names

variable {part : String → Bool} {name : String}

lemma at?_filter (entries : Table α) (inside : part name = true) :
    at? (entries.filter (part ·.1)) name = at? entries name := by
  induction entries with
  | nil => rfl
  | cons entry rest ih =>
    obtain ⟨key, value⟩ := entry
    unfold at? at ih ⊢
    by_cases same : name = key
    · subst same
      simp [inside]
    · have skipped : (name == key) = false := by simpa using same
      rw [List.lookup_cons, skipped, List.filter_cons]
      split
      · rw [List.lookup_cons, skipped, ih]
      · exact ih

lemma filter_put (entries : Table α) (value : α) (inside : part name = true) :
    (put entries name value).filter (part ·.1) = put (entries.filter (part ·.1)) name value := by
  induction entries with
  | nil => simp [put, inside]
  | cons entry rest ih =>
    by_cases same : entry.1 = name
    · simp [put, same, inside]
    · rw [put, if_neg same, List.filter_cons, List.filter_cons, ih]
      split
      · rw [put, if_neg same]
      · rfl

lemma filter_put_other (entries : Table α) (value : α) (outside : part name = false) :
    (put entries name value).filter (part ·.1) = entries.filter (part ·.1) := by
  induction entries with
  | nil => simp [put, outside]
  | cons entry rest ih =>
    unfold put
    by_cases same : entry.1 = name
    · simp [same, outside]
    · rw [if_neg same, List.filter_cons, List.filter_cons, ih]

lemma filter_remove (entries : Table α) :
    (remove entries name).filter (part ·.1) = remove (entries.filter (part ·.1)) name :=
  List.filter_comm _ _ _

lemma filter_remove_other (entries : Table α) (outside : part name = false) :
    (remove entries name).filter (part ·.1) = entries.filter (part ·.1) := by
  unfold remove
  rw [List.filter_filter]
  apply List.filter_congr
  intro entry _
  by_cases same : entry.1 = name <;> simp [same, outside]

end Names

section Values

variable {β : Type} (f : α → β) (entries : Table α) (name : String)

lemma at?_map : at? (entries.map (Prod.map id f)) name = (at? entries name).map f := by
  induction entries with
  | nil => rfl
  | cons entry rest ih =>
    obtain ⟨key, value⟩ := entry
    unfold at? at ih ⊢
    by_cases same : name = key
    · simp [same]
    · have skipped : (name == key) = false := by simpa using same
      simp [List.lookup_cons, skipped, ih]

lemma put_map (value : α) :
    put (entries.map (Prod.map id f)) name (f value) =
      (put entries name value).map (Prod.map id f) := by
  induction entries with
  | nil => rfl
  | cons entry rest ih =>
    by_cases same : entry.1 = name <;> simp [put, same, ih]

lemma remove_map :
    remove (entries.map (Prod.map id f)) name = (remove entries name).map (Prod.map id f) :=
  List.filter_map

lemma names_map : (entries.map (Prod.map id f)).map Prod.fst = entries.map Prod.fst := by
  rw [List.map_map]
  rfl

lemma values_map :
    (entries.map (Prod.map id f)).map Prod.snd = (entries.map Prod.snd).map f := by
  rw [List.map_map, List.map_map]
  rfl

variable {entries name} in
lemma mem_map_values {value : α} (mem : (name, value) ∈ entries) :
    (name, f value) ∈ entries.map (Prod.map id f) := List.mem_map.mpr ⟨_, mem, rfl⟩

variable {f entries} in
lemma of_mem_map_values {entry : String × β} (mem : entry ∈ entries.map (Prod.map id f)) :
    ∃ old ∈ entries, entry.2 = f old.2 := by
  obtain ⟨old, old_mem, rfl⟩ := List.mem_map.mp mem
  exact ⟨old, old_mem, rfl⟩

lemma ofList_map (entries : List (String × α)) :
    ofList (entries.map (Prod.map id f)) = (ofList entries).map (Prod.map id f) := by
  suffices ∀ table : Table α,
      (entries.map (Prod.map id f)).foldl (fun table entry => put table entry.1 entry.2)
        (table.map (Prod.map id f)) =
      (entries.foldl (fun table entry => put table entry.1 entry.2) table).map (Prod.map id f) from
    this []
  induction entries with
  | nil => exact fun _ => rfl
  | cons entry rest ih =>
    intro table
    rw [List.map_cons, List.foldl_cons, List.foldl_cons, ← ih, ← put_map]
    rfl

variable {entries} in
lemma Distinct.map_values (distinct : Distinct entries) (f : α → β) :
    Distinct (entries.map (Prod.map id f)) := by
  unfold Distinct
  rw [List.map_map]
  exact distinct

end Values

section Counts

variable {p : α → Bool}

/-- Writing counts the new value, and no longer the one which was there. -/
lemma countP_put (entries : Table α) (name : String) (value : α) :
    (put entries name value).countP (p ·.2) + (if (at? entries name).any p then 1 else 0) =
      entries.countP (p ·.2) + (if p value then 1 else 0) := by
  cases found : at? entries name with
  | none =>
    rw [put_of_at?_none value found, List.countP_append, List.countP_singleton]
    rfl
  | some old =>
    obtain ⟨before, after, rfl, other⟩ := split_of_at? found
    rw [put_split value other, List.countP_append, List.countP_append, List.countP_cons,
      List.countP_cons, Option.any_some]
    dsimp only
    omega

end Counts

lemma remove_split {before after : Table α} {name : String} {value : α}
    (distinct : Distinct (before ++ (name, value) :: after)) :
    remove (before ++ (name, value) :: after) name = before ++ after := by
  have other := distinct.ne_of_split
  unfold remove
  rw [List.filter_append, List.filter_cons_of_neg (by simp), ← List.filter_append]
  exact List.filter_eq_self.mpr fun entry mem => by simpa using other entry mem

lemma Distinct.countP_remove {entries : Table α} (distinct : Distinct entries) {name : String}
    {value : α} (found : at? entries name = some value) (p : α → Bool) :
    (remove entries name).countP (p ·.2) + (if p value then 1 else 0) =
      entries.countP (p ·.2) := by
  obtain ⟨before, after, rfl, -⟩ := split_of_at? found
  rw [remove_split distinct, List.countP_append, List.countP_append, List.countP_cons,
    Nat.add_assoc]

lemma Distinct.append_new {entries : Table α} {name : String} (value : α)
    (distinct : Distinct entries) (absent : at? entries name = none) :
    Distinct (entries ++ [(name, value)]) := by
  unfold Distinct at *
  rw [List.map_append, List.nodup_append]
  refine ⟨distinct, by simp, ?_⟩
  rintro known known_mem new new_mem rfl
  obtain ⟨entry, mem, rfl⟩ := List.mem_map.mp known_mem
  rw [List.map_singleton, List.mem_singleton] at new_mem
  exact ne_of_at?_none absent entry mem new_mem

lemma mem_of_mem_foldl_put {table entries : Table α} {entry : String × α}
    (mem : entry ∈ entries.foldl (fun table entry => put table entry.1 entry.2) table) :
    entry ∈ table ∨ entry ∈ entries := by
  induction entries generalizing table with
  | nil => exact .inl mem
  | cons first rest ih =>
    rcases ih mem with early | late
    · rcases mem_put early with rfl | old
      · exact .inr List.mem_cons_self
      · exact .inl old
    · exact .inr (List.mem_cons_of_mem _ late)

lemma mem_of_mem_ofList {entries : List (String × α)} {entry : String × α}
    (mem : entry ∈ ofList entries) : entry ∈ entries :=
  (mem_of_mem_foldl_put mem).resolve_left List.not_mem_nil

lemma Distinct.at?_of_last {entries : Table α} {name : String} {value : α}
    (distinct : Distinct (entries ++ [(name, value)])) : at? entries name = none := by
  cases found : at? entries name with
  | none => rfl
  | some other =>
    unfold Distinct at distinct
    rw [List.map_append, List.nodup_append] at distinct
    have known := List.mem_map_of_mem (f := Prod.fst) (mem_of_at? found)
    exact absurd rfl (distinct.2.2 name known name (by simp))

lemma Distinct.replace {before after : Table α} {name : String} {old : α} (value : α)
    (distinct : Distinct (before ++ (name, old) :: after)) :
    Distinct (before ++ (name, value) :: after) := by
  simpa [Distinct] using distinct

lemma Distinct.put {entries : Table α} (distinct : Distinct entries) (name : String) (value : α) :
    Distinct (put entries name value) := by
  cases found : at? entries name with
  | none =>
    rw [put_of_at?_none value found]
    exact distinct.append_new value found
  | some old =>
    obtain ⟨before, after, rfl, other⟩ := split_of_at? found
    rw [put_split value other]
    exact distinct.replace value

lemma Distinct.erase {before after : Table α} {name : String} {value : α}
    (distinct : Distinct (before ++ (name, value) :: after)) : Distinct (before ++ after) := by
  unfold Distinct at *
  rw [List.map_append, List.map_cons, List.nodup_middle, List.nodup_cons] at distinct
  simpa using distinct.2

end Admission.Table

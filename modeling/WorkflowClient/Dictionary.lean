/-!
# Dictionaries

A dictionary is an association list whose keys are text. Writing an entry puts it before the first
greater key and replaces an equal key, so a dictionary built by writes alone holds each key once, in
ascending order of code points. Reading takes the first entry of a key.

The laws of reading after writing need no order on the list. The order is what makes the entries
of two dictionaries with equal readings equal, and what a printed object shows.
-/

namespace WorkflowClient

universe u

/-- Entries from text to values, in the order in which they are shown. -/
abbrev Dictionary (α : Type u) := List (String × α)

namespace Dictionary

variable {α : Type u}

/-- Write an entry: before the first greater key, in the place of an equal one. -/
def insert (key : String) (value : α) : Dictionary α → Dictionary α
  | [] => [(key, value)]
  | (other, held) :: rest =>
      if key < other then (key, value) :: (other, held) :: rest
      else if key = other then (key, value) :: rest
      else (other, held) :: insert key value rest

/-- The value of the first entry with this key. -/
def find? (key : String) : Dictionary α → Option α
  | [] => none
  | (other, held) :: rest => if key = other then some held else find? key rest

/-- The keys in the order of the entries. -/
def keys (entries : Dictionary α) : List String := entries.map Prod.fst

/-- Write every entry of the second argument into the first, in order; later entries win. -/
def insertAll (entries : Dictionary α) (additions : List (String × α)) : Dictionary α :=
  additions.foldl (fun written entry => written.insert entry.1 entry.2) entries

/-- The dictionary of the given entries; of equal keys the last one stays. -/
def ofList (entries : List (String × α)) : Dictionary α := insertAll [] entries

/-- Each key is smaller than every later one; in particular no key occurs twice. -/
def Ascending (entries : Dictionary α) : Prop := entries.keys.Pairwise (· < ·)

theorem ascending_nil : Ascending ([] : Dictionary α) := List.Pairwise.nil

/-- A written entry is read back. -/
@[simp] theorem find?_insert_self (key : String) (value : α) (entries : Dictionary α) :
    (entries.insert key value).find? key = some value := by
  induction entries with
  | nil => simp [insert, find?]
  | cons entry rest inductionHypothesis =>
    obtain ⟨other, held⟩ := entry
    simp only [insert]
    split
    · simp [find?]
    · split
      · simp [find?]
      · next different => simp [find?, different, inductionHypothesis]

/-- A write leaves the readings of all other keys. -/
theorem find?_insert_of_ne {key sought : String} (different : sought ≠ key) (value : α)
    (entries : Dictionary α) : (entries.insert key value).find? sought = entries.find? sought := by
  induction entries with
  | nil => simp [insert, find?, different]
  | cons entry rest inductionHypothesis =>
    obtain ⟨other, held⟩ := entry
    simp only [insert]
    split
    · simp [find?, different]
    · split
      · next same => subst same; simp [find?, different]
      · simp [find?, inductionHypothesis]

/-- A key is read as the last of its additions, and without one as before them. -/
theorem find?_insertAll (key : String) (entries : Dictionary α) (additions : List (String × α)) :
    (entries.insertAll additions).find? key =
      ((ofList additions).find? key).or (entries.find? key) := by
  induction additions generalizing entries with
  | nil => rfl
  | cons entry rest inductionHypothesis =>
    obtain ⟨written, value⟩ := entry
    have onto : (entries.insertAll ((written, value) :: rest)).find? key =
        ((ofList rest).find? key).or ((entries.insert written value).find? key) :=
      inductionHypothesis (entries.insert written value)
    have alone : (ofList ((written, value) :: rest)).find? key =
        ((ofList rest).find? key).or (find? key (insert written value [])) :=
      inductionHypothesis (insert written value [])
    rw [onto, alone, Option.or_assoc]
    by_cases same : key = written
    · subst same
      simp only [find?_insert_self, Option.some_or]
    · simp only [find?_insert_of_ne same, find?, Option.none_or]

/-- A key is read as its last entry. -/
theorem find?_ofList (key : String) (entries : List (String × α)) :
    (ofList entries).find? key = entries.reverse.lookup key := by
  induction entries with
  | nil => rfl
  | cons entry rest inductionHypothesis =>
    obtain ⟨written, value⟩ := entry
    have first : ofList ((written, value) :: rest) = (insert written value []).insertAll rest := rfl
    rw [first, find?_insertAll, inductionHypothesis, List.reverse_cons, List.lookup_append]
    by_cases same : key = written
    · simp [insert, find?, same]
    · simp [insert, find?, List.lookup_cons, beq_false_of_ne same, same]

/-- A key without a value is no key of the dictionary. -/
theorem find?_eq_none_iff {key : String} {entries : Dictionary α} :
    entries.find? key = none ↔ key ∉ entries.keys := by
  induction entries with
  | nil => simp [find?, keys]
  | cons entry rest inductionHypothesis =>
    obtain ⟨other, held⟩ := entry
    simp only [keys] at inductionHypothesis
    by_cases same : key = other
    · simp [find?, keys, same]
    · simp [find?, keys, same, inductionHypothesis]

/-- The keys after a write are the keys before it and the written one. -/
theorem mem_keys_insert {key sought : String} {value : α} {entries : Dictionary α} :
    sought ∈ (entries.insert key value).keys ↔ sought = key ∨ sought ∈ entries.keys := by
  induction entries with
  | nil => simp [insert, keys]
  | cons entry rest inductionHypothesis =>
    obtain ⟨other, held⟩ := entry
    simp only [keys] at inductionHypothesis
    simp only [insert]
    split
    · simp [keys]
    · split
      · next same => subst same; simp [keys]
      · simp only [keys, List.map_cons, List.mem_cons, inductionHypothesis]
        constructor
        · rintro (held | held | held)
          · exact .inr (.inl held)
          · exact .inl held
          · exact .inr (.inr held)
        · rintro (held | held | held)
          · exact .inr (.inl held)
          · exact .inl held
          · exact .inr (.inr held)

/-- An entry after a write is the written one or was there before it. -/
theorem mem_of_mem_insert {key : String} {value : α} {entries : Dictionary α} {entry : String × α}
    (present : entry ∈ entries.insert key value) : entry = (key, value) ∨ entry ∈ entries := by
  induction entries with
  | nil => exact .inl (List.mem_singleton.mp present)
  | cons first rest inductionHypothesis =>
    obtain ⟨other, held⟩ := first
    simp only [insert] at present
    split at present
    · exact List.mem_cons.mp present
    · split at present
      · exact (List.mem_cons.mp present).imp_right (List.mem_cons_of_mem _)
      · rcases List.mem_cons.mp present with rfl | present
        · exact .inr List.mem_cons_self
        · exact (inductionHypothesis present).imp_right (List.mem_cons_of_mem _)

/-- An entry after many writes is one of the written ones or was there before them. -/
theorem mem_of_mem_insertAll {entries : Dictionary α} {additions : List (String × α)}
    {entry : String × α} (present : entry ∈ entries.insertAll additions) :
    entry ∈ additions ∨ entry ∈ entries := by
  induction additions generalizing entries with
  | nil => exact .inr present
  | cons addition rest inductionHypothesis =>
    rcases inductionHypothesis present with later | before
    · exact .inl (List.mem_cons_of_mem _ later)
    · rcases mem_of_mem_insert before with rfl | before
      · exact .inl List.mem_cons_self
      · exact .inr before

/-- A dictionary made of a list holds entries of the list alone. -/
theorem mem_of_mem_ofList {entries : List (String × α)} {entry : String × α}
    (present : entry ∈ ofList entries) : entry ∈ entries := by
  rcases mem_of_mem_insertAll present with listed | impossible
  · exact listed
  · exact absurd impossible List.not_mem_nil

/-- Writing keeps the keys ascending. -/
theorem Ascending.insert {entries : Dictionary α} (ascending : entries.Ascending)
    (key : String) (value : α) : (entries.insert key value).Ascending := by
  induction entries with
  | nil => simp [Dictionary.insert, Ascending, keys]
  | cons entry rest inductionHypothesis =>
    obtain ⟨other, held⟩ := entry
    obtain ⟨below, tail⟩ := List.pairwise_cons.mp ascending
    simp only [Dictionary.insert]
    split
    · next smaller =>
      refine List.pairwise_cons.mpr ⟨?_, ascending⟩
      intro later present
      rcases List.mem_cons.mp present with rfl | present
      · exact smaller
      · exact String.lt_trans smaller (below later present)
    · split
      · next same => subst same; exact ascending
      · next notSmaller different =>
        refine List.pairwise_cons.mpr ⟨?_, inductionHypothesis tail⟩
        intro later present
        rcases mem_keys_insert.mp present with rfl | present
        · rcases Decidable.em (other < later) with greater | notGreater
          · exact greater
          · exact absurd (String.le_antisymm (String.not_lt.mp notGreater) (String.not_lt.mp notSmaller))
              different
        · exact below later present

/-- Writing many entries keeps the keys ascending. -/
theorem Ascending.insertAll {entries : Dictionary α} (ascending : entries.Ascending)
    (additions : List (String × α)) : (entries.insertAll additions).Ascending := by
  induction additions generalizing entries with
  | nil => exact ascending
  | cons entry rest inductionHypothesis => exact inductionHypothesis (ascending.insert entry.1 entry.2)

/-- A dictionary made of a list is ascending, whatever the order and repetitions of the list. -/
theorem ascending_ofList (entries : List (String × α)) : (ofList entries).Ascending :=
  ascending_nil.insertAll entries

section Values

variable {β : Type u} (f : α → β)

/-- The entries with every value changed, and the keys as they are. -/
def mapValues (entries : Dictionary α) : Dictionary β := entries.map fun entry => (entry.1, f entry.2)

/-- The first entry changes before the rest. -/
theorem mapValues_cons (key : String) (value : α) (rest : Dictionary α) :
    mapValues f ((key, value) :: rest) = (key, f value) :: mapValues f rest := rfl

/-- Changing the values leaves the keys. -/
theorem keys_mapValues (entries : Dictionary α) : (entries.mapValues f).keys = entries.keys := by
  simp [mapValues, keys]

/-- A changed value is read under the key of the value. -/
theorem find?_mapValues (key : String) (entries : Dictionary α) :
    (entries.mapValues f).find? key = (entries.find? key).map f := by
  induction entries with
  | nil => rfl
  | cons entry rest inductionHypothesis =>
    obtain ⟨other, held⟩ := entry
    simp only [mapValues_cons, find?]
    split
    · rfl
    · exact inductionHypothesis

/-- It is the same to write an entry before or after all values are changed. -/
theorem insert_mapValues (key : String) (value : α) (entries : Dictionary α) :
    (entries.mapValues f).insert key (f value) = (entries.insert key value).mapValues f := by
  induction entries with
  | nil => rfl
  | cons entry rest inductionHypothesis =>
    obtain ⟨other, held⟩ := entry
    simp only [mapValues_cons, insert]
    split
    · rfl
    · split
      · rfl
      · rw [inductionHypothesis, mapValues_cons]

/-- It is the same to write many entries before or after all values are changed. -/
theorem insertAll_mapValues (entries : Dictionary α) (additions : List (String × α)) :
    (entries.mapValues f).insertAll (mapValues f additions) =
      (entries.insertAll additions).mapValues f := by
  induction additions generalizing entries with
  | nil => rfl
  | cons entry rest inductionHypothesis =>
    have first : (entries.mapValues f).insertAll (mapValues f (entry :: rest)) =
        ((entries.mapValues f).insert entry.1 (f entry.2)).insertAll (mapValues f rest) := rfl
    rw [first, insert_mapValues, inductionHypothesis]
    rfl

/-- It is the same to make a dictionary before or after all values are changed. -/
theorem ofList_mapValues (entries : List (String × α)) :
    ofList (mapValues f entries) = (ofList entries).mapValues f :=
  insertAll_mapValues f [] entries

/-- A list has changed values if every one of its values is a changed one. -/
theorem exists_mapValues_iff {entries : Dictionary β} :
    (∃ unchanged, mapValues f unchanged = entries) ↔ ∀ entry ∈ entries, ∃ value, entry.2 = f value := by
  constructor
  · rintro ⟨unchanged, rfl⟩ entry present
    obtain ⟨⟨key, value⟩, -, rfl⟩ := List.mem_map.mp present
    exact ⟨value, rfl⟩
  · intro changed
    induction entries with
    | nil => exact ⟨[], rfl⟩
    | cons entry rest inductionHypothesis =>
      obtain ⟨⟨value, same⟩, others⟩ := List.forall_mem_cons.mp changed
      obtain ⟨unchanged, rfl⟩ := inductionHypothesis others
      exact ⟨(entry.1, value) :: unchanged, congrArg (· :: _) (Prod.ext rfl same.symm)⟩

end Values

end Dictionary

end WorkflowClient

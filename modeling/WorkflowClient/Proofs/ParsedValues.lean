import WorkflowClient.Proofs.ValueStructure
import WorkflowClient.Json.Reader

/-!
# What reading yields

A reader yields a value if it takes the value from some text. Items between brackets are yielded by
the reader of the items and values of members by the reader of the values, so what a reader of
values yields is told by the reader that it has for the inner ones. It follows that values come out
of reading with ascending keys at every level, since equal keys have been merged, and with no more
brackets open than the reader allows.
-/

namespace WorkflowClient.Json

/-- The reader takes the value from some text. -/
def Reader.Yields {α : Type} (reader : Reader α) (value : α) : Prop :=
  ∃ text rest, reader.read text = .ok (value, rest)

section Items

variable {α : Type} {brackets : Brackets} {item : Reader α} {text rest : List Char}

/-- An item behind a comma is yielded by the reader of the items. -/
theorem itemBehindComma_yields {value : α}
    (read : itemBehindComma brackets item text = .ok (value, rest)) : item.Yields value := by
  rw [itemBehindComma] at read
  split at read
  · simp [atEnd] at read
  · split at read
    · simp [atNext] at read
    · exact ⟨_, _, read⟩

/-- The items behind the first one are yielded by the reader of the items. -/
theorem itemsAfter_yields {values : List α}
    (read : itemsAfter brackets item text = .ok (values, rest)) :
    ∀ value ∈ values, item.Yields value := by
  fun_induction itemsAfter brackets item text generalizing values with
  | case1 => simp [atEnd] at read
  | case2 =>
    obtain ⟨rfl, -⟩ := Prod.mk.inj (Except.ok.inj read)
    exact List.forall_mem_nil _
  | case3 => simp at read
  | case4 text following value after taken next _ inductionHypothesis =>
    obtain ⟨others, tail, rfl⟩ := Reading.prepend_eq_ok read
    exact List.forall_mem_cons.mpr ⟨itemBehindComma_yields taken, inductionHypothesis tail⟩
  | case5 => simp [atNext] at read

/-- The items between brackets are yielded by the reader of the items. -/
theorem items_yields {values : List α} (read : items brackets item text = .ok (values, rest)) :
    ∀ value ∈ values, item.Yields value := by
  rw [items] at read
  split at read
  · simp [atEnd] at read
  · split at read
    · obtain ⟨rfl, -⟩ := Prod.mk.inj (Except.ok.inj read)
      exact List.forall_mem_nil _
    · split at read
      · simp at read
      · next taken =>
        obtain ⟨others, tail, rfl⟩ := Reading.prepend_eq_ok read
        exact List.forall_mem_cons.mpr ⟨⟨_, _, taken⟩, itemsAfter_yields tail⟩

/-- The value of a key is yielded by the reader of the values. -/
theorem valueOfKey_yields {value : α} (read : valueOfKey item text = .ok (value, rest)) :
    item.Yields value := by
  rw [valueOfKey] at read
  split at read
  · simp [atEnd] at read
  · split at read
    · exact ⟨_, _, read⟩
    · simp [atNext] at read

/-- The value of a member is yielded by the reader of the values. -/
theorem member_yields {entry : String × α} (yields : item.member.Yields entry) :
    item.Yields entry.2 := by
  obtain ⟨text, rest, read⟩ := yields
  simp only [Reader.member, memberOf] at read
  split at read
  · split at read
    · simp at read
    · split at read
      · simp at read
      · next valueRead =>
        obtain ⟨rfl, -⟩ := Prod.mk.inj (Except.ok.inj read)
        exact valueOfKey_yields valueRead
  · simp [atNext] at read

end Items

section Values

variable {result : Json} {text rest : List Char}

/-- A word is read as its value. -/
theorem wordValue_yields {value : Json} {expected : List Char}
    (read : wordValue value expected text = .ok (result, rest)) : result = value := by
  rw [wordValue] at read
  split at read
  · exact (Prod.mk.inj (Except.ok.inj read)).1.symm
  · simp at read

/-- A number is read as a number. -/
theorem numberValue_yields {negative : Bool}
    (read : numberValue negative text = .ok (result, rest)) : ∃ value, result = .number value := by
  rw [numberValue] at read
  split at read
  · exact ⟨_, (Prod.mk.inj (Except.ok.inj read)).1.symm⟩
  · simp at read

/-- A text is read as a text. -/
theorem textValue_yields (read : textValue text = .ok (result, rest)) :
    ∃ value, result = .string value := by
  rw [textValue] at read
  split at read
  · exact ⟨_, (Prod.mk.inj (Except.ok.inj read)).1.symm⟩
  · simp at read

/-- The ways of a value: without brackets, as a list, and as an object. Of equal keys of an object
the last one stays. -/
inductive Made (inner : Option (Reader Json)) : Json → Prop
  | null : Made inner .null
  | bool (value : Bool) : Made inner (.bool value)
  | number (value : Number) : Made inner (.number value)
  | string (value : String) : Made inner (.string value)
  | list {item : Reader Json} {items : List Json} (opens : inner = some item)
      (yields : ∀ value ∈ items, item.Yields value) : Made inner (.list items)
  | object {item : Reader Json} {members : List (String × Json)} (opens : inner = some item)
      (yields : ∀ entry ∈ members, item.Yields entry.2) :
      Made inner (.object (Dictionary.ofList members))

/-- What is read without brackets is made without them. -/
theorem scalar_made (inner : Option (Reader Json)) (read : scalar text = .ok (result, rest)) :
    Made inner result := by
  simp only [scalar] at read
  split at read
  · simp [atEnd] at read
  · split at read
    · exact wordValue_yields read ▸ .null
    · split at read
      · exact wordValue_yields read ▸ .bool true
      · split at read
        · exact wordValue_yields read ▸ .bool false
        · split at read
          · obtain ⟨value, rfl⟩ := textValue_yields read
            exact .string value
          · split at read
            · obtain ⟨value, rfl⟩ := numberValue_yields read
              exact .number value
            · split at read
              · obtain ⟨value, rfl⟩ := numberValue_yields read
                exact .number value
              · simp [atNext] at read

/-- What is read behind blanks: a list or an object behind its bracket, if one may be open, or a
value without brackets. -/
inductive Opened (inner : Option (Reader Json)) (text rest : List Char) : Json → Prop
  | list {item : Reader Json} {after : List Char} {values : List Json} (opens : inner = some item)
      (next : skipBlanks text = '[' :: after) (read : items .list item after = .ok (values, rest)) :
      Opened inner text rest (.list values)
  | object {item : Reader Json} {after : List Char} {written : List (String × Json)}
      (opens : inner = some item) (next : skipBlanks text = '\x7b' :: after)
      (read : items .object item.member after = .ok (written, rest)) :
      Opened inner text rest (.object (Dictionary.ofList written))
  | scalar {c : Char} {after : List Char} {value : Json} (next : skipBlanks text = c :: after)
      (read : scalar (c :: after) = .ok (value, rest)) : Opened inner text rest value

/-- Every value that is read is opened in one of the ways. -/
theorem valueOver_opened {inner : Option (Reader Json)}
    (read : valueOver inner text = .ok (result, rest)) : Opened inner text rest result := by
  simp only [valueOver] at read
  split at read
  · simp [atEnd] at read
  · next c after next =>
    split at read
    · next bracket =>
      split at read
      · simp [atNext] at read
      · split at read
        · next taken =>
          obtain ⟨rfl, rfl⟩ := Prod.mk.inj (Except.ok.inj read)
          exact .list rfl (bracket ▸ next) taken
        · simp at read
    · split at read
      · next bracket =>
        split at read
        · simp [atNext] at read
        · split at read
          · next taken =>
            obtain ⟨rfl, rfl⟩ := Prod.mk.inj (Except.ok.inj read)
            exact .object rfl (bracket ▸ next) taken
          · simp at read
      · exact .scalar next read

/-- Every value that is read goes one of the ways. -/
theorem valueOver_made {inner : Option (Reader Json)}
    (read : valueOver inner text = .ok (result, rest)) : Made inner result := by
  cases valueOver_opened read with
  | list opens _ taken => exact .list opens (items_yields taken)
  | object opens _ taken =>
    exact .object opens fun entry present => member_yields (items_yields taken entry present)
  | scalar _ taken => exact scalar_made inner taken

/-- A reader of values yields ordered values that are no deeper than it allows. -/
theorem value_yields {depth : Nat} {value : Json} (yields : (Reader.value depth).Yields value) :
    value.Ordered ∧ value.depth ≤ depth := by
  induction depth generalizing value with
  | zero =>
    obtain ⟨text, rest, read⟩ := yields
    have made : Made none value := valueOver_made read
    cases made with
    | list opens => simp at opens
    | object opens => simp at opens
    | _ => exact ⟨trivial, Nat.le_refl 0⟩
  | succ depth inductionHypothesis =>
    obtain ⟨text, rest, read⟩ := yields
    have made : Made (some (Reader.value depth)) value := valueOver_made read
    cases made with
    | @list item items opens yields =>
      obtain rfl := Option.some.inj opens
      rw [ordered_list_iff, depth_list_le_iff]
      exact ⟨fun value present => (inductionHypothesis (yields value present)).1,
        fun value present => (inductionHypothesis (yields value present)).2⟩
    | @object item members opens yields =>
      obtain rfl := Option.some.inj opens
      have within : ∀ entry ∈ Dictionary.ofList members,
          entry.2.Ordered ∧ entry.2.depth ≤ depth := by
        intro entry present
        exact inductionHypothesis (yields entry (Dictionary.mem_of_mem_ofList present))
      rw [ordered_object_iff, depth_object_le_iff]
      exact ⟨⟨Dictionary.ascending_ofList members, fun entry present => (within entry present).1⟩,
        fun entry present => (within entry present).2⟩
    | _ => exact ⟨trivial, Nat.zero_le _⟩

end Values

/-- A value is the whole text if it is read and only blanks are left. -/
theorem whole_eq_ok_iff {α : Type} {read : List Char → Reading α} {text : String} {value : α} :
    whole read text.toList = .ok value ↔
      ∃ rest, read text.toList = .ok (value, rest) ∧ skipBlanks rest = [] := by
  cases taken : read text.toList with
  | error fault => simp [whole, taken]
  | ok pair =>
    obtain ⟨found, rest⟩ := pair
    cases left : skipBlanks rest with
    | nil =>
      simp only [whole, taken, left, Except.ok.injEq, Prod.mk.injEq]
      constructor
      · rintro rfl
        exact ⟨rest, ⟨rfl, rfl⟩, left⟩
      · rintro ⟨_, ⟨same, -⟩, -⟩
        exact same
    | cons c following =>
      simp only [whole, taken, left, atNext, reduceCtorEq, Except.ok.injEq, Prod.mk.injEq,
        false_iff, not_exists, not_and]
      rintro _ ⟨-, rfl⟩ ended
      exact List.cons_ne_nil c following (left.symm.trans ended)

/-- A text is parsed if it is read and only blanks are left. -/
theorem parseWith_eq_ok_iff {α : Type} {read : List Char → Reading α} {text : String} {value : α} :
    parseWith read text = .ok value ↔
      ∃ rest, read text.toList = .ok (value, rest) ∧ skipBlanks rest = [] := by
  rw [← whole_eq_ok_iff, parseWith]
  cases whole read text.toList with
  | error fault => simp
  | ok found => simp

/-- A parsed value is ordered and opens no more brackets than the parser allows. -/
theorem parse_yields {text : String} {value : Json} (read : parse text = .ok value) :
    value.Ordered ∧ value.depth ≤ greatestDepth := by
  obtain ⟨rest, front, -⟩ := parseWith_eq_ok_iff.mp read
  exact value_yields ⟨_, _, front⟩

end WorkflowClient.Json

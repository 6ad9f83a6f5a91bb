import WorkflowClient.Json.Printer

/-!
# The structure of JSON values

A property of all values is shown for the values without brackets, for a list whose items have it,
and for an object whose members' values have it. The three measures of a value are told by its items
and members, and a printed list or object is what its items and members print, each behind a comma.
-/

namespace WorkflowClient.Json

/-- A property holds of every value if items and members pass it on to lists and objects. -/
theorem induction_on {P : Json → Prop} (null : P .null) (bool : ∀ value, P (.bool value))
    (number : ∀ value, P (.number value)) (string : ∀ value, P (.string value))
    (list : ∀ items, (∀ item ∈ items, P item) → P (.list items))
    (object : ∀ members, (∀ entry ∈ members, P entry.2) → P (.object members)) (value : Json) :
    P value :=
  match value with
  | .null => null
  | .bool value => bool value
  | .number value => number value
  | .string value => string value
  | .list items => list items fun item _ => induction_on null bool number string list object item
  | .object members => object members fun entry _ =>
      induction_on null bool number string list object entry.2
termination_by sizeOf value
decreasing_by
  · next present =>
    have smaller := List.sizeOf_lt_of_mem present
    simp only [Json.list.sizeOf_spec]
    omega
  · next present =>
    have smaller := List.sizeOf_lt_of_mem present
    have parts : sizeOf entry = 1 + sizeOf entry.1 + sizeOf entry.2 := rfl
    simp only [Json.object.sizeOf_spec]
    omega

/-- A list is whole if its items are. -/
theorem whole_list_iff (items : List Json) : Whole (.list items) ↔ ∀ item ∈ items, Whole item := by
  rw [Whole]
  induction items with
  | nil => simp [AllWhole]
  | cons item rest inductionHypothesis => rw [AllWhole, inductionHypothesis, List.forall_mem_cons]

/-- An object is whole if its members' values are. -/
theorem whole_object_iff (members : List (String × Json)) :
    Whole (.object members) ↔ ∀ entry ∈ members, Whole entry.2 := by
  rw [Whole]
  induction members with
  | nil => simp [MembersWhole]
  | cons entry rest inductionHypothesis =>
    rw [MembersWhole, inductionHypothesis, List.forall_mem_cons]

/-- A list is ordered if its items are. -/
theorem ordered_list_iff (items : List Json) :
    Ordered (.list items) ↔ ∀ item ∈ items, Ordered item := by
  rw [Ordered]
  induction items with
  | nil => simp [AllOrdered]
  | cons item rest inductionHypothesis => rw [AllOrdered, inductionHypothesis, List.forall_mem_cons]

/-- An object is ordered if its keys ascend and its members' values are ordered. -/
theorem ordered_object_iff (members : List (String × Json)) :
    Ordered (.object members) ↔
      Dictionary.Ascending members ∧ ∀ entry ∈ members, Ordered entry.2 := by
  have values : MembersOrdered members ↔ ∀ entry ∈ members, Ordered entry.2 := by
    induction members with
    | nil => simp [MembersOrdered]
    | cons entry rest inductionHypothesis =>
      rw [MembersOrdered, inductionHypothesis, List.forall_mem_cons]
  rw [Ordered, values]

/-- A list is one deeper than its deepest item. -/
theorem depth_list_le_iff (items : List Json) (bound : Nat) :
    depth (.list items) ≤ bound + 1 ↔ ∀ item ∈ items, depth item ≤ bound := by
  rw [depth, Nat.add_le_add_iff_right]
  induction items with
  | nil => simp [depthOfItems]
  | cons item rest inductionHypothesis =>
    rw [depthOfItems, Nat.max_le, inductionHypothesis, List.forall_mem_cons]

/-- An object is one deeper than its deepest value. -/
theorem depth_object_le_iff (members : List (String × Json)) (bound : Nat) :
    depth (.object members) ≤ bound + 1 ↔ ∀ entry ∈ members, depth entry.2 ≤ bound := by
  rw [depth, Nat.add_le_add_iff_right]
  induction members with
  | nil => simp [depthOfMembers]
  | cons entry rest inductionHypothesis =>
    rw [depthOfMembers, Nat.max_le, inductionHypothesis, List.forall_mem_cons]

/-- A member as it is printed: the key, the colon and the value. -/
def memberWritten (layout : Layout) (level : Nat) (entry : String × Json) : List Char :=
  quoted entry.1.toList ++ layout.colon ++ written layout level entry.2

/-- What stands behind the first of the things that commas part. -/
def behindCommas {α : Type} (layout : Layout) (level : Nat) (print : α → List Char)
    (others : List α) : List Char :=
  others.flatMap fun other => ',' :: layout.lineBreak level ++ print other

/-- The items behind the first one are printed one by one. -/
theorem itemsWritten_eq (layout : Layout) (level : Nat) (items : List Json) :
    itemsWritten layout level items = behindCommas layout level (written layout level) items := by
  induction items with
  | nil => simp [itemsWritten, behindCommas]
  | cons item rest inductionHypothesis =>
    rw [itemsWritten, inductionHypothesis, behindCommas, behindCommas, List.flatMap_cons]

/-- The members behind the first one are printed one by one. -/
theorem membersWritten_eq (layout : Layout) (level : Nat) (members : List (String × Json)) :
    membersWritten layout level members =
      behindCommas layout level (memberWritten layout level) members := by
  induction members with
  | nil => simp [membersWritten, behindCommas]
  | cons entry rest inductionHypothesis =>
    rw [membersWritten, inductionHypothesis, behindCommas, behindCommas, List.flatMap_cons]
    simp only [memberWritten, List.cons_append, List.append_assoc]

/-- A list with an item stands between its brackets. -/
theorem written_list_cons (layout : Layout) (level : Nat) (item : Json) (rest : List Json) :
    written layout level (.list (item :: rest)) =
      '[' :: layout.lineBreak (level + 1) ++ written layout (level + 1) item ++
        behindCommas layout (level + 1) (written layout (level + 1)) rest ++
        layout.lineBreak level ++ [']'] := by
  rw [written, itemsWritten_eq]

/-- An object with a member stands between its brackets. -/
theorem written_object_cons (layout : Layout) (level : Nat) (entry : String × Json)
    (rest : List (String × Json)) :
    written layout level (.object (entry :: rest)) =
      '\x7b' :: layout.lineBreak (level + 1) ++ memberWritten layout (level + 1) entry ++
        behindCommas layout (level + 1) (memberWritten layout (level + 1)) rest ++
        layout.lineBreak level ++ ['\x7d'] := by
  rw [written, membersWritten_eq]
  simp only [memberWritten, List.cons_append, List.append_assoc]

end WorkflowClient.Json

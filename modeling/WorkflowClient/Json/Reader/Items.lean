import WorkflowClient.Json.Reader.Quoted

/-!
# Reading items between brackets

A reader takes one value from the front of a text and leaves less of it. With a reader for the items, one walk
reads lists and objects: the two differ in their closing bracket, in what they call their faults, and in
that the items of an object are members, each a key, a colon and a value. The walk ends because
every item leaves less text.
-/

namespace WorkflowClient.Json

/-- The blanks between the parts of a JSON text. -/
def isBlank (c : Char) : Bool := c = ' ' || c = '\t' || c = '\n' || c = '\r'

/-- The text from its next part on. -/
def skipBlanks (text : List Char) : List Char := text.dropWhile isBlank

/-- Blanks passed over leave no longer text. -/
theorem skipBlanks_length (text : List Char) : (skipBlanks text).length ≤ text.length :=
  (List.dropWhile_sublist _).length_le

/-- A way to read one value, which always takes something from the text. -/
structure Reader (α : Type) where
  read : List Char → Reading α
  shorter : ∀ {text rest : List Char} {value : α}, read text = .ok (value, rest) → rest.length < text.length

/-- A kind of brackets: how they close, and the faults of a text that ends between them and of an item that no
comma follows. -/
structure Brackets where
  close : Char
  unfinished : Reason
  missingSeparator : Reason

/-- The brackets of a list. -/
def Brackets.list : Brackets := ⟨']', .unfinishedList, .missingListSeparator⟩

/-- The brackets of an object. -/
def Brackets.object : Brackets := ⟨'\x7d', .unfinishedObject, .missingObjectSeparator⟩

variable {α : Type}

/-- An item behind a comma, where the closing bracket may not stand. -/
def itemBehindComma (brackets : Brackets) (item : Reader α) (text : List Char) : Reading α :=
  match skipBlanks text with
  | [] => atEnd .unfinishedValue
  | c :: rest => if c = brackets.close then atNext .trailingComma (c :: rest) else item.read (c :: rest)

/-- An item behind a comma leaves less text. -/
theorem itemBehindComma_length {brackets : Brackets} {item : Reader α} {text rest : List Char} {value : α}
    (read : itemBehindComma brackets item text = .ok (value, rest)) : rest.length < text.length := by
  have skipped := skipBlanks_length text
  simp only [itemBehindComma] at read
  split at read
  · simp [atEnd] at read
  · next c after next =>
    split at read
    · simp [atNext] at read
    · have shorter := item.shorter read
      rw [next] at skipped
      omega

/-- The items behind the first one, up to the closing bracket. -/
def itemsAfter (brackets : Brackets) (item : Reader α) (text : List Char) : Reading (List α) :=
  match _next : skipBlanks text with
  | [] => atEnd brackets.unfinished
  | c :: rest =>
    if c = brackets.close then .ok ([], rest)
    else if c = ',' then
      match _taken : itemBehindComma brackets item rest with
      | .error fault => .error fault
      | .ok (value, after) => Reading.prepend value (itemsAfter brackets item after)
    else atNext brackets.missingSeparator (c :: rest)
termination_by text.length
decreasing_by
  have skipped := skipBlanks_length text
  have shorter := itemBehindComma_length _taken
  rw [_next, List.length_cons] at skipped
  omega

/-- One step of the walk, with the walk over what follows. -/
theorem itemsAfter_eq (brackets : Brackets) (item : Reader α) (text : List Char) :
    itemsAfter brackets item text =
      match skipBlanks text with
      | [] => atEnd brackets.unfinished
      | c :: rest =>
        if c = brackets.close then .ok ([], rest)
        else if c = ',' then
          match itemBehindComma brackets item rest with
          | .error fault => .error fault
          | .ok (value, after) => Reading.prepend value (itemsAfter brackets item after)
        else atNext brackets.missingSeparator (c :: rest) := by
  rw [itemsAfter]
  split
  · next ended => rw [ended]
  · next c rest next =>
    rw [next]
    by_cases closed : c = brackets.close
    · rw [if_pos closed]
      exact (if_pos closed).symm
    · simp only [if_neg closed]
      by_cases comma : c = ','
      · simp only [if_pos comma]
        split
        · next failed => rw [failed]
        · next taken => rw [taken]
      · simp only [if_neg comma]

/-- The items behind an opening bracket, up to the closing one. -/
def items (brackets : Brackets) (item : Reader α) (text : List Char) : Reading (List α) :=
  match skipBlanks text with
  | [] => atEnd brackets.unfinished
  | c :: rest =>
    if c = brackets.close then .ok ([], rest)
    else
      match item.read (c :: rest) with
      | .error fault => .error fault
      | .ok (value, after) => Reading.prepend value (itemsAfter brackets item after)

/-- The closing bracket is taken from the text. -/
theorem itemsAfter_length {brackets : Brackets} {item : Reader α} {text rest : List Char} {values : List α}
    (read : itemsAfter brackets item text = .ok (values, rest)) : rest.length < text.length := by
  fun_induction itemsAfter brackets item text generalizing values with
  | case1 => simp [atEnd] at read
  | case2 text following next =>
    have skipped := skipBlanks_length text
    rw [next] at skipped
    simp only [Except.ok.injEq, Prod.mk.injEq] at read
    rw [← read.2]
    exact Nat.lt_of_lt_of_le (Nat.lt_succ_self _) skipped
  | case3 => simp at read
  | case4 text following value after taken next _ inductionHypothesis =>
    have skipped := skipBlanks_length text
    obtain ⟨others, tail, _⟩ := Reading.prepend_eq_ok read
    have shorter := inductionHypothesis tail
    have left := itemBehindComma_length taken
    rw [next, List.length_cons] at skipped
    omega
  | case5 => simp [atNext] at read

/-- Items between brackets leave less text. -/
theorem items_length {brackets : Brackets} {item : Reader α} {text rest : List Char} {values : List α}
    (read : items brackets item text = .ok (values, rest)) : rest.length < text.length := by
  have skipped := skipBlanks_length text
  simp only [items] at read
  split at read
  · simp [atEnd] at read
  · next c following next =>
    rw [next, List.length_cons] at skipped
    split at read
    · simp only [Except.ok.injEq, Prod.mk.injEq] at read
      rw [← read.2]
      omega
    · split at read
      · simp at read
      · next taken =>
        obtain ⟨others, tail, _⟩ := Reading.prepend_eq_ok read
        have first := item.shorter taken
        have others := itemsAfter_length tail
        rw [List.length_cons] at first
        omega

/-- A value behind the colon that follows a key. -/
def valueOfKey (item : Reader α) (text : List Char) : Reading α :=
  match skipBlanks text with
  | [] => atEnd .unfinishedObject
  | c :: rest => if c = ':' then item.read rest else atNext .missingColon (c :: rest)

/-- A key with its value. -/
def memberOf (item : Reader α) (text : List Char) : Reading (String × α) :=
  match text with
  | '"' :: rest =>
    match quotedText rest with
    | .error fault => .error fault
    | .ok (key, after) =>
      match valueOfKey item after with
      | .error fault => .error fault
      | .ok (value, rest) => .ok ((String.ofList key, value), rest)
  | other => atNext .keyNotText other

/-- The value of a key leaves less text. -/
theorem valueOfKey_length {item : Reader α} {text rest : List Char} {value : α}
    (read : valueOfKey item text = .ok (value, rest)) : rest.length < text.length := by
  have skipped := skipBlanks_length text
  simp only [valueOfKey] at read
  split at read
  · simp [atEnd] at read
  · next c following next =>
    rw [next, List.length_cons] at skipped
    split at read
    · have shorter := item.shorter read
      omega
    · simp [atNext] at read

/-- A member leaves less text. -/
theorem memberOf_length {item : Reader α} {text rest : List Char} {entry : String × α}
    (read : memberOf item text = .ok (entry, rest)) : rest.length < text.length := by
  simp only [memberOf] at read
  split at read
  · split at read
    · simp at read
    · next keyRead =>
      split at read
      · simp at read
      · next valueRead =>
        have keyTaken := quotedText_length keyRead
        have valueTaken := valueOfKey_length valueRead
        simp only [Except.ok.injEq, Prod.mk.injEq] at read
        rw [← read.2, List.length_cons]
        omega
  · simp [atNext] at read

/-- The reader of members. -/
def Reader.member (item : Reader α) : Reader (String × α) := ⟨memberOf item, memberOf_length⟩

end WorkflowClient.Json

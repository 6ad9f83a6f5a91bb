import WorkflowClient.Json.Reader.Items

/-!
# Reading JSON

Three readings start from the same grammar. `parse` reads any value; `parseObject` reads an object of any values
and `parseTexts` an object of texts. The last two refuse what they do not expect: a scalar after reading
it, so that its own faults come first, and a list or an object at its bracket. All of them read
the whole text, keep the last of equal keys, and refuse to open more than `greatestDepth` brackets.
-/

namespace WorkflowClient.Json

/-- A word of which the first letter has been read: every further letter has to come. -/
def word : List Char → List Char → Except Fault (List Char)
  | [], text => .ok text
  | _ :: _, [] => atEnd .unfinishedValue
  | expected :: others, c :: rest =>
      if c = expected then word others rest else atNext .unknownWord (c :: rest)

/-- A whole word leaves no longer text. -/
theorem word_length {expected text rest : List Char} (read : word expected text = .ok rest) :
    rest.length ≤ text.length := by
  fun_induction word expected text with
  | case1 => simp_all
  | case2 => simp [atEnd] at read
  | case3 c others rest inductionHypothesis => exact Nat.le_succ_of_le (inductionHypothesis read)
  | case4 => simp [atNext] at read

/-- The value of a word. -/
def wordValue (value : Json) (expected text : List Char) : Reading Json :=
  match word expected text with
  | .ok rest => .ok (value, rest)
  | .error fault => .error fault

/-- The value of a number. -/
def numberValue (negative : Bool) (text : List Char) : Reading Json :=
  match numeral negative text with
  | .ok (value, rest) => .ok (.number value, rest)
  | .error fault => .error fault

/-- The value of a text behind its opening quote. -/
def textValue (text : List Char) : Reading Json :=
  match quotedText text with
  | .ok (content, rest) => .ok (.string (String.ofList content), rest)
  | .error fault => .error fault

/-- A value without brackets. -/
def scalar (text : List Char) : Reading Json :=
  match text with
  | [] => atEnd .unfinishedValue
  | c :: rest =>
    if c = 'n' then wordValue .null ['u', 'l', 'l'] rest
    else if c = 't' then wordValue (.bool true) ['r', 'u', 'e'] rest
    else if c = 'f' then wordValue (.bool false) ['a', 'l', 's', 'e'] rest
    else if c = '"' then textValue rest
    else if c = '-' then numberValue true rest
    else if c.isDigit then numberValue false (c :: rest)
    else atNext .missingValue (c :: rest)

/-- A scalar leaves less text. -/
theorem scalar_length {text rest : List Char} {value : Json} (read : scalar text = .ok (value, rest)) :
    rest.length < text.length := by
  have wordTaken {value result : Json} {expected text rest : List Char}
      (read : wordValue value expected text = .ok (result, rest)) : rest.length ≤ text.length := by
    simp only [wordValue] at read
    split at read
    · next taken =>
      simp only [Except.ok.injEq, Prod.mk.injEq] at read
      exact read.2 ▸ word_length taken
    · simp at read
  have numberTaken {negative : Bool} {result : Json} {text rest : List Char}
      (read : numberValue negative text = .ok (result, rest)) : rest.length < text.length := by
    simp only [numberValue] at read
    split at read
    · next taken =>
      simp only [Except.ok.injEq, Prod.mk.injEq] at read
      exact read.2 ▸ numeral_length taken
    · simp at read
  have textTaken {result : Json} {text rest : List Char}
      (read : textValue text = .ok (result, rest)) : rest.length < text.length := by
    simp only [textValue] at read
    split at read
    · next taken =>
      simp only [Except.ok.injEq, Prod.mk.injEq] at read
      exact read.2 ▸ quotedText_length taken
    · simp at read
  simp only [scalar] at read
  split at read
  · simp [atEnd] at read
  · split at read
    · exact Nat.lt_succ_of_le (wordTaken read)
    · split at read
      · exact Nat.lt_succ_of_le (wordTaken read)
      · split at read
        · exact Nat.lt_succ_of_le (wordTaken read)
        · split at read
          · exact Nat.lt_succ_of_lt (textTaken read)
          · split at read
            · exact Nat.lt_succ_of_lt (numberTaken read)
            · split at read
              · exact numberTaken read
              · simp [atNext] at read

/-- A value whose items and members are read by the given reader. Without one no bracket may open. -/
def valueOver (inner : Option (Reader Json)) (text : List Char) : Reading Json :=
  match skipBlanks text with
  | [] => atEnd .unfinishedValue
  | c :: rest =>
    if c = '[' then
      match inner with
      | none => atNext .nestedTooDeeply (c :: rest)
      | some item =>
        match items .list item rest with
        | .ok (values, after) => .ok (.list values, after)
        | .error fault => .error fault
    else if c = '\x7b' then
      match inner with
      | none => atNext .nestedTooDeeply (c :: rest)
      | some item =>
        match items .object item.member rest with
        | .ok (members, after) => .ok (.object (Dictionary.ofList members), after)
        | .error fault => .error fault
    else scalar (c :: rest)

/-- A value leaves less text. -/
theorem valueOver_length {inner : Option (Reader Json)} {text rest : List Char} {value : Json}
    (read : valueOver inner text = .ok (value, rest)) : rest.length < text.length := by
  have skipped := skipBlanks_length text
  simp only [valueOver] at read
  split at read
  · simp [atEnd] at read
  · next c following next =>
    rw [next, List.length_cons] at skipped
    split at read
    · split at read
      · simp [atNext] at read
      · split at read
        · next taken =>
          have shorter := items_length taken
          simp only [Except.ok.injEq, Prod.mk.injEq] at read
          rw [← read.2]
          omega
        · simp at read
    · split at read
      · split at read
        · simp [atNext] at read
        · split at read
          · next taken =>
            have shorter := items_length taken
            simp only [Except.ok.injEq, Prod.mk.injEq] at read
            rw [← read.2]
            omega
          · simp at read
      · have shorter := scalar_length read
        rw [List.length_cons] at shorter
        omega

/-- The reader of values that open at most this many brackets within each other. -/
def Reader.value : Nat → Reader Json
  | 0 => ⟨valueOver none, valueOver_length⟩
  | depth + 1 => ⟨valueOver (some (value depth)), valueOver_length⟩

/-- How many brackets may be open at a time. -/
def greatestDepth : Nat := 127

/-- The fault of something else in the place of what is expected. A scalar is read first. -/
def mismatch {α : Type} (expected : Expectation) (text : List Char) : Except Fault α :=
  match text with
  | '[' :: _ => atLast (.mismatch .sequence expected) text
  | '\x7b' :: _ => atLast (.mismatch .map expected) text
  | text =>
    match scalar text with
    | .ok (value, rest) => atLast (.mismatch (Found.ofJson value) expected) rest
    | .error fault => .error fault

/-- The members of an object, in the order of the text. -/
def objectOf {α : Type} (item : Reader α) (text : List Char) : Reading (List (String × α)) :=
  match skipBlanks text with
  | '\x7b' :: rest => items .object item.member rest
  | text => mismatch .map text

/-- A text behind blanks. -/
def plainText (text : List Char) : Reading String :=
  match skipBlanks text with
  | '"' :: rest =>
    match quotedText rest with
    | .ok (content, after) => .ok (String.ofList content, after)
    | .error fault => .error fault
  | text => mismatch .text text

/-- A mismatch is never a reading. -/
theorem mismatch_ne_ok {α : Type} {expected : Expectation} {text rest : List Char} {value : α} :
    mismatch expected text ≠ .ok (value, rest) := by
  simp only [mismatch]
  split
  · simp [atLast]
  · simp [atLast]
  · split <;> simp [atLast]

/-- A text leaves less text. -/
theorem plainText_length {text rest : List Char} {value : String}
    (read : plainText text = .ok (value, rest)) : rest.length < text.length := by
  have skipped := skipBlanks_length text
  simp only [plainText] at read
  split at read
  · next following next =>
    rw [next, List.length_cons] at skipped
    split at read
    · next taken =>
      have shorter := quotedText_length taken
      simp only [Except.ok.injEq, Prod.mk.injEq] at read
      rw [← read.2]
      omega
    · simp at read
  · exact absurd read mismatch_ne_ok

/-- The reader of texts. -/
def Reader.plainText : Reader String := ⟨Json.plainText, plainText_length⟩

/-- Read a whole text: only blanks may follow what is read. -/
def whole {α : Type} (read : List Char → Reading α) (text : List Char) : Except Fault α :=
  match read text with
  | .error fault => .error fault
  | .ok (value, rest) =>
    match skipBlanks rest with
    | [] => .ok value
    | c :: rest => atNext .trailingCharacters (c :: rest)

/-- Read a whole string and say where the objection to it arose. -/
def parseWith {α : Type} (read : List Char → Reading α) (text : String) : Except ParseError α :=
  match whole read text.toList with
  | .ok value => .ok value
  | .error fault => .error (fault.toError text.toList)

/-- The value that a text writes. -/
def parse (text : String) : Except ParseError Json := parseWith (Reader.value greatestDepth).read text

/-- The members of the object that a text writes. -/
def parseObject (text : String) : Except ParseError (Dictionary Json) :=
  (parseWith (objectOf (Reader.value (greatestDepth - 1))) text).map Dictionary.ofList

/-- The members of the object of texts that a text writes. -/
def parseTexts (text : String) : Except ParseError (Dictionary String) :=
  (parseWith (objectOf Reader.plainText) text).map Dictionary.ofList

end WorkflowClient.Json

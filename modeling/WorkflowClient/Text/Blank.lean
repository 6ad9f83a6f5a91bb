/-!
# Blanks at the ends of a text

Blank characters are those of the Unicode property White_Space. Trimming removes the longest run of
them at both ends and nothing between. Format characters such as the zero-width space are not blank.
-/

namespace WorkflowClient.Text

/-- The property White_Space: the ASCII blanks, the next-line mark, the no-break spaces, the typographic
spaces and the two separators. -/
def isBlank (c : Char) : Bool :=
  let code := c.toNat
  (0x09 ≤ code && code ≤ 0x0d) || code == 0x20 || code == 0x85 || code == 0xa0 || code == 0x1680 ||
    (0x2000 ≤ code && code ≤ 0x200a) || code == 0x2028 || code == 0x2029 || code == 0x202f ||
    code == 0x205f || code == 0x3000

/-- The text from its first character that is not blank. -/
def trimStart (text : List Char) : List Char := text.dropWhile isBlank

/-- The text up to its last character that is not blank. -/
def trimEnd (text : List Char) : List Char := (text.reverse.dropWhile isBlank).reverse

/-- The text between its first and its last character that is not blank. -/
def trim (text : List Char) : List Char := trimEnd (trimStart text)

/-- Dropping from the end stops at the last character that stays. -/
theorem dropEnd_last {front behind : List Char} {last : Char} {dropped : Char → Bool}
    (drops : ∀ c ∈ behind, dropped c = true) (stays : dropped last = false) :
    ((front ++ [last] ++ behind).reverse.dropWhile dropped).reverse = front ++ [last] := by
  have all : ∀ c ∈ behind.reverse, dropped c = true :=
    fun c present => drops c (List.mem_reverse.mp present)
  rw [List.reverse_append, List.dropWhile_append_of_pos all, List.reverse_append,
    List.reverse_singleton, List.singleton_append, List.dropWhile_cons_of_neg (by simp [stays]),
    List.reverse_cons, List.reverse_reverse]

/-- A text is what trimming leaves, between the blanks that it takes away. -/
theorem trim_split (text : List Char) :
    ∃ before behind, text = before ++ (trim text ++ behind) ∧
      (∀ c ∈ before, isBlank c = true) ∧ ∀ c ∈ behind, isBlank c = true := by
  have starts : text.takeWhile isBlank ++ trimStart text = text := List.takeWhile_append_dropWhile
  have ends : (trimStart text).reverse.takeWhile isBlank ++
      (trimStart text).reverse.dropWhile isBlank = (trimStart text).reverse :=
    List.takeWhile_append_dropWhile
  have turned := congrArg List.reverse ends
  rw [List.reverse_append, List.reverse_reverse] at turned
  refine ⟨text.takeWhile isBlank, ((trimStart text).reverse.takeWhile isBlank).reverse, ?_, ?_, ?_⟩
  · rw [trim, trimEnd, turned, starts]
  · exact List.all_eq_true.mp List.all_takeWhile
  · intro c present
    exact List.all_eq_true.mp List.all_takeWhile c (List.mem_reverse.mp present)

/-- A text between blanks is left, if neither its first nor its last character is one. -/
theorem trim_between {before core behind : List Char} (blankBefore : ∀ c ∈ before, isBlank c = true)
    (blankBehind : ∀ c ∈ behind, isBlank c = true)
    (begins : ∃ first rest, core = first :: rest ∧ isBlank first = false)
    (ends : ∃ front last, core = front ++ [last] ∧ isBlank last = false) :
    trim (before ++ (core ++ behind)) = core := by
  have starts : trimStart (before ++ (core ++ behind)) = core ++ behind := by
    obtain ⟨first, rest, rfl, visible⟩ := begins
    rw [trimStart, List.dropWhile_append_of_pos blankBefore, List.cons_append]
    exact List.dropWhile_cons_of_neg (by simp [visible])
  obtain ⟨front, last, rfl, visible⟩ := ends
  rw [trim, starts, trimEnd]
  exact dropEnd_last blankBehind visible

/-- A text is left as it is, if neither its first nor its last character is a blank. -/
theorem trim_visible {core : List Char}
    (begins : ∃ first rest, core = first :: rest ∧ isBlank first = false)
    (ends : ∃ front last, core = front ++ [last] ∧ isBlank last = false) : trim core = core := by
  have nothing : ∀ c ∈ ([] : List Char), isBlank c = true := List.forall_mem_nil _
  have kept := trim_between nothing nothing begins ends
  rwa [List.append_nil, List.nil_append] at kept

end WorkflowClient.Text

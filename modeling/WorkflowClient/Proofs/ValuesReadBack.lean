import WorkflowClient.Proofs.TokensReadBack

/-!
# Values are read back

What the printer writes for a value is read as that value, if its numbers are integers of 64 bits,
if the keys of its objects ascend, and if the reader may open as many brackets as the value has. One
argument serves every layout that puts blanks only between the parts, and one walk behind the commas
serves lists and objects.
-/

namespace WorkflowClient.Json

/-- Only blanks stand at the line breaks and behind the colon. -/
structure Layout.BlankBetween (layout : Layout) : Prop where
  lineBreak : ∀ level, ∀ c ∈ layout.lineBreak level, isBlank c = true
  colon : ∃ blanks, layout.colon = ':' :: blanks ∧ ∀ c ∈ blanks, isBlank c = true

/-- The compact layout has no blanks at all. -/
theorem Layout.compact_blankBetween : Layout.compact.BlankBetween where
  lineBreak _ _ present := absurd present List.not_mem_nil
  colon := ⟨[], rfl, fun _ present => absurd present List.not_mem_nil⟩

/-- The indented layout breaks lines, indents them and sets a space behind the colon. -/
theorem Layout.indented_blankBetween : Layout.indented.BlankBetween where
  lineBreak level c present := by
    rcases List.mem_cons.mp present with rfl | space
    · rfl
    · rw [List.eq_of_mem_replicate space]
      rfl
  colon := by
    refine ⟨[' '], rfl, ?_⟩
    intro c present
    rw [List.mem_singleton.mp present]
    rfl

/-- Blanks before a text are passed over. -/
theorem skipBlanks_append {blanks : List Char} (blank : ∀ c ∈ blanks, isBlank c = true)
    (text : List Char) : skipBlanks (blanks ++ text) = skipBlanks text := by
  exact List.dropWhile_append_of_pos blank

/-- A text that does not begin with a blank is kept. -/
theorem skipBlanks_cons {c : Char} (visible : isBlank c = false) (rest : List Char) :
    skipBlanks (c :: rest) = c :: rest := by
  exact List.dropWhile_cons_of_neg (by simp [visible])

/-- What a value may begin with is no blank and closes no bracket. -/
theorem opensValue_visible {c : Char} (opens : opensValue c = true) :
    isBlank c = false ∧ c ≠ ']' ∧ c ≠ '\x7d' := by
  simp only [opensValue, Bool.or_eq_true, decide_eq_true_eq] at opens
  rcases opens with ((((((digit | rfl) | rfl) | rfl) | rfl) | rfl) | rfl) | rfl
  · have bounds := digit_bounds digit
    have other {d : Char} (outside : d.toNat < 0x30 ∨ 0x39 < d.toNat) : c ≠ d := by
      rintro rfl
      omega
    refine ⟨?_, other (by decide), other (by decide)⟩
    simp [isBlank, other (d := ' ') (by decide), other (d := '\t') (by decide),
      other (d := '\n') (by decide), other (d := '\r') (by decide)]
  all_goals decide

/-- A number ends before blanks, if it ends before what follows them. -/
theorem endsNumber_append {blanks rest : List Char} (blank : ∀ c ∈ blanks, isBlank c = true)
    (ends : endsNumber rest = true) : endsNumber (blanks ++ rest) = true := by
  cases blanks with
  | nil => exact ends
  | cons c others =>
    have first : isBlank c = true := blank c List.mem_cons_self
    simp only [isBlank, Bool.or_eq_true, decide_eq_true_eq] at first
    rcases first with ((rfl | rfl) | rfl) | rfl <;> rfl

/-- The reader takes exactly what is printed for the value, if what follows does not go on with a
number. -/
structure Reader.TakesBack {α : Type} (reader : Reader α) (print : α → List Char) (value : α) :
    Prop where
  opens : ∃ first text, print value = first :: text ∧ opensValue first = true
  back : ∀ rest, endsNumber rest = true → reader.read (print value ++ rest) = .ok (value, rest)

section Items

variable {α : Type} {brackets : Brackets} {item : Reader α}
variable {print : α → List Char} {layout : Layout}

/-- The closing bracket ends the items. -/
theorem itemsAfter_close {text rest : List Char} (next : skipBlanks text = brackets.close :: rest) :
    itemsAfter brackets item text = .ok ([], rest) := by
  rw [itemsAfter_eq, next]
  exact if_pos rfl

/-- An item behind a comma comes before the items behind it. -/
theorem itemsAfter_comma {text rest after : List Char} {value : α}
    (next : skipBlanks text = ',' :: rest) (notClosed : ',' ≠ brackets.close)
    (taken : itemBehindComma brackets item rest = .ok (value, after)) :
    itemsAfter brackets item text = Reading.prepend value (itemsAfter brackets item after) := by
  rw [itemsAfter_eq, next]
  simp only [notClosed, if_false, if_true, taken]

/-- Brackets that close like a list or like an object. -/
def Brackets.Closes (brackets : Brackets) : Prop := brackets.close = ']' ∨ brackets.close = '\x7d'

/-- The brackets of a list. -/
theorem Brackets.list_closes : Brackets.list.Closes := .inl rfl

/-- The brackets of an object. -/
theorem Brackets.object_closes : Brackets.object.Closes := .inr rfl

/-- A closing bracket is neither a comma nor a blank, and a number ends before it. -/
theorem Brackets.Closes.visible (closes : brackets.Closes) :
    ',' ≠ brackets.close ∧ isBlank brackets.close = false ∧
      ∀ rest, endsNumber (brackets.close :: rest) = true := by
  rcases closes with close | close
  · rw [close]
    refine ⟨by decide, by decide, ?_⟩
    intro rest
    rfl
  · rw [close]
    refine ⟨by decide, by decide, ?_⟩
    intro rest
    rfl

/-- What a value begins with closes no bracket. -/
theorem Brackets.Closes.ne_of_opens (closes : brackets.Closes) {c : Char}
    (opens : opensValue c = true) : c ≠ brackets.close := by
  obtain ⟨-, notList, notObject⟩ := opensValue_visible opens
  intro same
  rcases closes with close | close
  · exact notList (same.trans close)
  · exact notObject (same.trans close)

/-- A printed item behind a comma is taken, since it does not begin with the closing bracket. -/
theorem itemBehindComma_takesBack (blank : layout.BlankBetween) (closes : brackets.Closes)
    {value : α} (takes : item.TakesBack print value) (level : Nat) {rest : List Char}
    (ends : endsNumber rest = true) :
    itemBehindComma brackets item (layout.lineBreak level ++ (print value ++ rest)) =
      .ok (value, rest) := by
  obtain ⟨first, text, made, opens⟩ := takes.opens
  have visible : isBlank first = false := (opensValue_visible opens).1
  have notClosed : first ≠ brackets.close := closes.ne_of_opens opens
  have read := takes.back rest ends
  rw [made, List.cons_append] at read ⊢
  rw [itemBehindComma, skipBlanks_append (blank.lineBreak level), skipBlanks_cons visible]
  simp only [notClosed, if_false]
  exact read

/-- What commas part is taken item by item, up to the closing bracket. -/
theorem itemsAfter_takesBack (blank : layout.BlankBetween) (closes : brackets.Closes)
    (level outer : Nat) {others : List α} (takes : ∀ other ∈ others, item.TakesBack print other)
    (rest : List Char) :
    itemsAfter brackets item (behindCommas layout level print others ++
        (layout.lineBreak outer ++ brackets.close :: rest)) = .ok (others, rest) ∧
      endsNumber (behindCommas layout level print others ++
        (layout.lineBreak outer ++ brackets.close :: rest)) = true := by
  obtain ⟨notComma, visible, ends⟩ := closes.visible
  induction others with
  | nil =>
    rw [behindCommas, List.flatMap_nil, List.nil_append]
    have next : skipBlanks (layout.lineBreak outer ++ brackets.close :: rest) =
        brackets.close :: rest := by
      rw [skipBlanks_append (blank.lineBreak outer), skipBlanks_cons visible]
    exact ⟨itemsAfter_close next, endsNumber_append (blank.lineBreak outer) (ends rest)⟩
  | cons other others inductionHypothesis =>
    obtain ⟨first, later⟩ := List.forall_mem_cons.mp takes
    obtain ⟨read, ends⟩ := inductionHypothesis later
    have parted : behindCommas layout level print (other :: others) ++
        (layout.lineBreak outer ++ brackets.close :: rest) =
        ',' :: (layout.lineBreak level ++ (print other ++ (behindCommas layout level print others ++
          (layout.lineBreak outer ++ brackets.close :: rest)))) := by
      simp only [behindCommas, List.flatMap_cons, List.cons_append, List.append_assoc]
    rw [parted]
    refine ⟨?_, rfl⟩
    rw [itemsAfter_comma (skipBlanks_cons (by decide) _) notComma
      (itemBehindComma_takesBack blank closes first level ends), read]
    rfl

/-- What stands between brackets is taken item by item. -/
theorem items_takesBack (blank : layout.BlankBetween) (closes : brackets.Closes) (level outer : Nat)
    {value : α} {others : List α} (takes : ∀ other ∈ value :: others, item.TakesBack print other)
    (rest : List Char) :
    items brackets item (layout.lineBreak level ++ print value ++
        behindCommas layout level print others ++ layout.lineBreak outer ++ [brackets.close] ++
        rest) = .ok (value :: others, rest) := by
  obtain ⟨first, later⟩ := List.forall_mem_cons.mp takes
  obtain ⟨read, ends⟩ := itemsAfter_takesBack blank closes level outer later rest
  obtain ⟨c, text, made, opens⟩ := first.opens
  have visible : isBlank c = false := (opensValue_visible opens).1
  have notClosed : c ≠ brackets.close := closes.ne_of_opens opens
  have taken := first.back _ ends
  simp only [List.append_assoc, List.cons_append, List.nil_append]
  rw [made, List.cons_append] at taken ⊢
  rw [items, skipBlanks_append (blank.lineBreak level), skipBlanks_cons visible]
  simp only [notClosed, if_false, taken, read]
  rfl

/-- A printed member is taken, if its value is. -/
theorem member_takesBack {reader : Reader Json} (blank : layout.BlankBetween) {level : Nat}
    {entry : String × Json}
    (skips : ∀ blanks rest, (∀ c ∈ blanks, isBlank c = true) →
      reader.read (blanks ++ rest) = reader.read rest)
    (takes : reader.TakesBack (written layout level) entry.2) :
    reader.member.TakesBack (memberWritten layout level) entry := by
  obtain ⟨key, value⟩ := entry
  obtain ⟨blanks, colon, between⟩ := blank.colon
  constructor
  · exact ⟨'"', _, rfl, by decide⟩
  · intro rest ends
    have parted : memberWritten layout level (key, value) ++ rest =
        '"' :: (key.toList.flatMap escaped ++
          '"' :: (':' :: (blanks ++ (written layout level value ++ rest)))) := by
      simp only [memberWritten, quoted, colon, List.cons_append, List.append_assoc, List.nil_append]
    have valueRead : valueOfKey reader (':' :: (blanks ++ (written layout level value ++ rest))) =
        .ok (value, rest) := by
      rw [valueOfKey, skipBlanks_cons (by decide)]
      simp only [if_true]
      rw [skips blanks _ between]
      exact takes.back rest ends
    rw [parted]
    simp only [Reader.member, memberOf, quotedText_quoted, valueRead, String.ofList_toList]

end Items

/-- Blanks before a value are passed over. -/
theorem value_skips (depth : Nat) {blanks : List Char} (rest : List Char)
    (blank : ∀ c ∈ blanks, isBlank c = true) :
    (Reader.value depth).read (blanks ++ rest) = (Reader.value depth).read rest := by
  have whatever (inner : Option (Reader Json)) :
      valueOver inner (blanks ++ rest) = valueOver inner rest := by
    rw [valueOver, skipBlanks_append blank, valueOver]
  cases depth with
  | zero => exact whatever none
  | succ depth => exact whatever (some (Reader.value depth))

/-- What begins with no bracket is read as a scalar, whatever may be open. -/
theorem value_scalar (depth : Nat) {c : Char} (visible : isBlank c = false) (notList : c ≠ '[')
    (notObject : c ≠ '\x7b') (rest : List Char) :
    (Reader.value depth).read (c :: rest) = scalar (c :: rest) := by
  have whatever (inner : Option (Reader Json)) :
      valueOver inner (c :: rest) = scalar (c :: rest) := by
    rw [valueOver, skipBlanks_cons visible]
    simp only [notList, notObject, if_false]
  cases depth with
  | zero => exact whatever none
  | succ depth => exact whatever (some (Reader.value depth))

/-- The items behind an opening bracket make a list. -/
theorem valueOver_list {inner : Reader Json} {text rest : List Char} {values : List Json}
    (read : items .list inner text = .ok (values, rest)) :
    valueOver (some inner) ('[' :: text) = .ok (.list values, rest) := by
  rw [valueOver, skipBlanks_cons (by decide)]
  simp only [if_true, read]

/-- The members behind an opening bracket make an object; of ascending members none is lost. -/
theorem valueOver_object {inner : Reader Json} {text rest : List Char} {members : Dictionary Json}
    (read : items .object inner.member text = .ok (members, rest)) (ascending : members.Ascending) :
    valueOver (some inner) ('\x7b' :: text) = .ok (.object members, rest) := by
  have notList : '\x7b' ≠ '[' := by decide
  rw [valueOver, skipBlanks_cons (by decide)]
  simp only [notList, if_false, if_true, read, Dictionary.ofList_ascending ascending]

/-- What is printed for an integer is read as a scalar. -/
theorem value_integer (depth : Nat) (value : Int) (rest : List Char) :
    (Reader.value depth).read (integerText value ++ rest) = scalar (integerText value ++ rest) := by
  obtain ⟨⟨first, others, made, digit⟩, -⟩ := digits_ends value.natAbs
  have visible := opensValue_visible (c := first) (by simp [opensValue, digit])
  rw [integerText]
  split
  · exact value_scalar depth (by decide) (by decide) (by decide) _
  · rw [made, List.cons_append]
    have notList : first ≠ '[' := by
      rintro rfl
      simp at digit
    have notObject : first ≠ '\x7b' := by
      rintro rfl
      simp at digit
    exact value_scalar depth visible.1 notList notObject _

section Brackets

variable {layout : Layout} (blank : layout.BlankBetween) (level : Nat)
include blank

/-- A printed list opens its bracket, and what follows is taken item by item. -/
theorem list_takesBack {reader : Reader Json} {values : List Json}
    (takes : ∀ value ∈ values, reader.TakesBack (written layout (level + 1)) value)
    (rest : List Char) :
    ∃ text, written layout level (.list values) ++ rest = '[' :: text ∧
      items .list reader text = .ok (values, rest) := by
  cases values with
  | nil =>
    rw [written]
    exact ⟨']' :: rest, rfl, rfl⟩
  | cons value others =>
    refine ⟨_, ?_, items_takesBack blank Brackets.list_closes (level + 1) level takes rest⟩
    rw [written_list_cons]
    simp only [List.cons_append, Brackets.list]

/-- A printed object opens its bracket, and what follows is taken member by member. -/
theorem object_takesBack {reader : Reader Json} {members : List (String × Json)}
    (takes : ∀ entry ∈ members,
      reader.member.TakesBack (memberWritten layout (level + 1)) entry) (rest : List Char) :
    ∃ text, written layout level (.object members) ++ rest = '\x7b' :: text ∧
      items .object reader.member text = .ok (members, rest) := by
  cases members with
  | nil =>
    rw [written]
    exact ⟨'\x7d' :: rest, rfl, rfl⟩
  | cons entry others =>
    refine ⟨_, ?_, items_takesBack blank Brackets.object_closes (level + 1) level takes rest⟩
    rw [written_object_cons]
    simp only [List.cons_append, Brackets.object]

end Brackets

/-- What is printed for a value is read as the value, in every layout that puts blanks only between
the parts. -/
theorem value_takesBack {layout : Layout} (blank : layout.BlankBetween) (level : Nat)
    {value : Json} {depth : Nat} (wholeNumbers : value.Whole) (ordered : value.Ordered)
    (fits : value.depth ≤ depth) :
    (Reader.value depth).TakesBack (written layout level) value := by
  refine ⟨written_first layout level wholeNumbers, ?_⟩
  intro rest ends
  induction value using induction_on generalizing level depth rest with
  | null =>
    simp only [written]
    exact value_scalar depth (by decide) (by decide) (by decide) _
  | bool value =>
    cases value with
    | false =>
      simp only [written]
      exact value_scalar depth (by decide) (by decide) (by decide) _
    | true =>
      simp only [written]
      exact value_scalar depth (by decide) (by decide) (by decide) _
  | number value =>
    cases value with
    | float value => exact wholeNumbers.elim
    | integer value =>
      simp only [written, Number.written]
      rw [value_integer]
      exact scalar_integer wholeNumbers ends
  | string value =>
    have parted : written layout level (.string value) ++ rest =
        '"' :: (value.toList.flatMap escaped ++ '"' :: rest) := by
      simp only [written, quoted, List.cons_append, List.append_assoc, List.nil_append]
    rw [parted, value_scalar depth (by decide) (by decide) (by decide)]
    have read : textValue (value.toList.flatMap escaped ++ '"' :: rest) =
        .ok (.string value, rest) := by
      simp only [textValue, quotedText_quoted, String.ofList_toList]
    exact read
  | list items inductionHypothesis =>
    have positive : depth ≠ 0 := by
      rw [Json.depth] at fits
      omega
    obtain ⟨inner, rfl⟩ := Nat.exists_eq_succ_of_ne_zero positive
    rw [depth_list_le_iff] at fits
    rw [whole_list_iff] at wholeNumbers
    rw [ordered_list_iff] at ordered
    have takes : ∀ item ∈ items,
        (Reader.value inner).TakesBack (written layout (level + 1)) item := by
      intro item present
      refine ⟨written_first layout (level + 1) (wholeNumbers item present), ?_⟩
      exact inductionHypothesis item present (level + 1) (wholeNumbers item present)
        (ordered item present) (fits item present)
    obtain ⟨text, opened, read⟩ := list_takesBack blank level takes rest
    rw [opened]
    exact valueOver_list read
  | object members inductionHypothesis =>
    have positive : depth ≠ 0 := by
      rw [Json.depth] at fits
      omega
    obtain ⟨inner, rfl⟩ := Nat.exists_eq_succ_of_ne_zero positive
    rw [depth_object_le_iff] at fits
    rw [whole_object_iff] at wholeNumbers
    obtain ⟨ascending, ordered⟩ := (ordered_object_iff members).mp ordered
    have takes : ∀ entry ∈ members,
        (Reader.value inner).member.TakesBack (memberWritten layout (level + 1)) entry := by
      intro entry present
      refine member_takesBack blank (fun blanks rest between => value_skips inner rest between) ?_
      refine ⟨written_first layout (level + 1) (wholeNumbers entry present), ?_⟩
      exact inductionHypothesis entry present (level + 1) (wholeNumbers entry present)
        (ordered entry present) (fits entry present)
    obtain ⟨text, opened, read⟩ := object_takesBack blank level takes rest
    rw [opened]
    exact valueOver_object read ascending

/-- The members of a printed object are read as they are. -/
theorem objectOf_takesBack {layout : Layout} (blank : layout.BlankBetween) (level : Nat)
    {members : List (String × Json)} {depth : Nat} (wholeNumbers : (object members).Whole)
    (ordered : (object members).Ordered) (fits : (object members).depth ≤ depth + 1)
    (rest : List Char) :
    objectOf (Reader.value depth) (written layout level (.object members) ++ rest) =
      .ok (members, rest) := by
  rw [depth_object_le_iff] at fits
  rw [whole_object_iff] at wholeNumbers
  rw [ordered_object_iff] at ordered
  have takes : ∀ entry ∈ members,
      (Reader.value depth).member.TakesBack (memberWritten layout (level + 1)) entry := by
    intro entry present
    refine member_takesBack blank (fun blanks rest between => value_skips depth rest between) ?_
    exact value_takesBack blank (level + 1) (wholeNumbers entry present)
      (ordered.2 entry present) (fits entry present)
  obtain ⟨text, opened, read⟩ := object_takesBack blank level takes rest
  rw [opened, objectOf, skipBlanks_cons (by decide)]
  exact read

/-- A value that its text stands for: the numbers are integers of 64 bits, the keys ascend, and no
more brackets are open within each other than the parser allows. -/
structure Portable (value : Json) : Prop where
  wholeNumbers : value.Whole
  ordered : value.Ordered
  shallow : value.depth ≤ greatestDepth

/-- A printed value is parsed as the value. -/
theorem parse_written {layout : Layout} (blank : layout.BlankBetween) {value : Json}
    (portable : value.Portable) :
    parse (String.ofList (written layout 0 value)) = .ok value := by
  have takes : (Reader.value greatestDepth).TakesBack (written layout 0) value :=
    value_takesBack blank 0 portable.wholeNumbers portable.ordered portable.shallow
  have read := takes.back [] rfl
  rw [List.append_nil] at read
  simp only [parse, parseWith, whole, String.toList_ofList, read, skipBlanks, List.dropWhile_nil]

/-- A value for output is parsed as the value, in either form. -/
theorem parse_render {value : Json} (portable : value.Portable) (pretty : Bool) :
    parse (value.render pretty) = .ok value := by
  cases pretty with
  | false => exact parse_written Layout.compact_blankBetween portable
  | true => exact parse_written Layout.indented_blankBetween portable

end WorkflowClient.Json

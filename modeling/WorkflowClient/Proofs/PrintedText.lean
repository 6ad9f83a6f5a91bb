import WorkflowClient.Proofs.ValueStructure
import WorkflowClient.Text.Blank

/-!
# What printed JSON looks like

The compact form of a value has no control character: texts escape every one of them, in keys as in
values, numbers consist of digits, points, signs and exponents, which are plain characters, and
there are no line breaks. A value whose numbers are integers begins with a character that announces
its kind and ends with one that is no blank.
-/

namespace WorkflowClient.Json

/-- A character that is no control character of the ASCII range below the space. -/
def Printable (c : Char) : Prop := 0x20 ≤ c.toNat

instance (c : Char) : Decidable (Printable c) := inferInstanceAs (Decidable (0x20 ≤ c.toNat))

/-- A text is checked character by character. -/
theorem printable_of_all {text : List Char}
    (all : (text.all fun c => decide (Printable c)) = true) : ∀ c ∈ text, Printable c := by
  simpa using all

/-- A digit's code point. -/
theorem digit_bounds {c : Char} (digit : c.isDigit = true) : 0x30 ≤ c.toNat ∧ c.toNat ≤ 0x39 := by
  simpa [Char.isDigit, UInt32.le_iff_toNat_le] using digit

/-- The digits of a number are digits. -/
theorem isDigit_of_mem_digits {n : Nat} {c : Char} (present : c ∈ Number.digits n) :
    c.isDigit = true :=
  Nat.isDigit_of_mem_toDigits (by decide) (by decide) present

/-- A visible character of the ASCII range other than the quotation mark: what numbers and words are
written with. -/
def Plain (c : Char) : Prop := 0x20 < c.toNat ∧ c.toNat < 0x7f ∧ c ≠ '"'

instance (c : Char) : Decidable (Plain c) :=
  inferInstanceAs (Decidable (0x20 < c.toNat ∧ c.toNat < 0x7f ∧ c ≠ '"'))

/-- A text of plain characters is checked character by character. -/
theorem plain_of_all {text : List Char} (all : (text.all fun c => decide (Plain c)) = true) :
    ∀ c ∈ text, Plain c := by
  simpa using all

/-- A plain character is no control character. -/
theorem Plain.printable {c : Char} (plain : Plain c) : Printable c := Nat.le_of_lt plain.1

/-- A plain character is no blank. -/
theorem Plain.notBlank {c : Char} (plain : Plain c) : Text.isBlank c = false := by
  obtain ⟨above, below, -⟩ := plain
  simp only [Text.isBlank, Bool.or_eq_false_iff, Bool.and_eq_false_iff, decide_eq_false_iff_not,
    beq_eq_false_iff_ne]
  omega

/-- A digit is plain. -/
theorem plain_digit {c : Char} (digit : c.isDigit = true) : Plain c := by
  have bounds := digit_bounds digit
  have notQuote : c ≠ '"' := by
    rintro rfl
    exact absurd bounds (by decide)
  exact ⟨by omega, by omega, notQuote⟩

/-- The digits of a number are plain. -/
theorem plain_digits (n : Nat) : ∀ c ∈ Number.digits n, Plain c := by
  intro c present
  exact plain_digit (isDigit_of_mem_digits present)

/-- The digits before and after the point are plain. -/
theorem plain_parts (d : Decimal) : (∀ c ∈ d.parts.1, Plain c) ∧ ∀ c ∈ d.parts.2, Plain c := by
  have zeros (count : Nat) : ∀ c ∈ List.replicate count '0', Plain c := by
    intro c present
    rw [(List.mem_replicate.mp present).2]
    decide
  have digits : ∀ c ∈ d.digits, Plain c := plain_digits d.significand
  simp only [Decimal.parts]
  split
  · constructor
    · refine List.forall_mem_append.mpr ⟨?_, zeros _⟩
      intro c present
      exact digits c (List.mem_of_mem_take present)
    · intro c present
      exact digits c (List.mem_of_mem_drop present)
  · constructor
    · exact zeros 1
    · exact List.forall_mem_append.mpr ⟨zeros _, digits⟩

/-- The positional form is plain. -/
theorem plain_positional (d : Decimal) : ∀ c ∈ d.positionalWithPoint, Plain c := by
  obtain ⟨before, after⟩ := plain_parts d
  rcases parts : d.parts with ⟨whole, _ | ⟨place, places⟩⟩
  all_goals
    rw [parts] at before after
    simp only [Decimal.positionalWithPoint, parts]
    refine List.forall_mem_append.mpr ⟨before, ?_⟩
  · exact plain_of_all (by decide)
  · exact List.forall_mem_cons.mpr ⟨by decide, after⟩

/-- The scientific form is plain. -/
theorem plain_scientific (d : Decimal) : ∀ c ∈ d.scientific, Plain c := by
  have digits : ∀ c ∈ d.digits, Plain c := plain_digits d.significand
  have power : ∀ c ∈ 'e' :: (if d.leadingPower < 0 then '-' else '+') ::
      Number.digits d.leadingPower.natAbs, Plain c := by
    refine List.forall_mem_cons.mpr ⟨by decide, List.forall_mem_cons.mpr ⟨?_, plain_digits _⟩⟩
    split
    · decide
    · decide
  simp only [Decimal.scientific]
  refine List.forall_mem_append.mpr ⟨?_, power⟩
  split
  · simp
  · next single found => exact found ▸ digits
  · next first others _ found =>
    rw [found] at digits
    obtain ⟨start, rest⟩ := List.forall_mem_cons.mp digits
    exact List.forall_mem_cons.mpr ⟨start, List.forall_mem_cons.mpr ⟨by decide, rest⟩⟩

/-- A number is plain. -/
theorem plain_number (value : Number) : ∀ c ∈ value.written, Plain c := by
  cases value with
  | integer value =>
    simp only [Number.written, integerText]
    split
    · exact List.forall_mem_cons.mpr ⟨by decide, plain_digits _⟩
    · exact plain_digits _
  | float value =>
    have sign : ∀ c ∈ (if value.isNegative then ['-'] else []), Plain c := by
      split
      · exact plain_of_all (by decide)
      · exact plain_of_all (by decide)
    have null : ∀ c ∈ "null".toList, Plain c := plain_of_all (by decide)
    simp only [Number.written, floatText]
    split
    · exact null
    · exact null
    · split
      · exact List.forall_mem_append.mpr ⟨sign, plain_of_all (by decide)⟩
      · refine List.forall_mem_append.mpr ⟨sign, ?_⟩
        split
        · exact plain_positional _
        · exact plain_scientific _

/-- A hexadecimal digit is printable. -/
theorem printable_digitChar : ∀ n < 16, Printable (Nat.digitChar n) := by decide

/-- An escaped character is printable, be it a control character or not. -/
theorem printable_escaped (c : Char) : ∀ d ∈ escaped c, Printable d := by
  simp only [escaped]
  iterate 7
    split
    · exact printable_of_all (by decide)
  split
  · next control =>
    have high : Printable (Nat.digitChar (c.toNat / 16)) := printable_digitChar _ (by omega)
    have low : Printable (Nat.digitChar (c.toNat % 16)) := printable_digitChar _ (by omega)
    apply printable_of_all
    simp only [List.all_cons, List.all_nil, high, low]
    decide
  · next free => simpa [Printable] using free

/-- A quoted text is printable. -/
theorem printable_quoted (text : List Char) : ∀ c ∈ quoted text, Printable c := by
  intro c present
  simp only [quoted, List.mem_cons, List.mem_append, List.mem_flatMap, List.not_mem_nil, or_false]
    at present
  rcases present with (rfl | ⟨d, -, inside⟩) | rfl
  · decide
  · exact printable_escaped d c inside
  · decide

/-- Commas between things without control characters bring none. -/
theorem printable_behindCommas {α : Type} {print : α → List Char} {others : List α} (level : Nat)
    (each : ∀ other ∈ others, ∀ c ∈ print other, Printable c) :
    ∀ c ∈ behindCommas .compact level print others, Printable c := by
  intro c present
  simp only [behindCommas, Layout.compact, List.cons_append, List.nil_append, List.mem_flatMap,
    List.mem_cons] at present
  obtain ⟨other, member, rfl | inside⟩ := present
  · decide
  · exact each other member c inside

/-- The compact form of a value has no control characters. -/
theorem printable_written (value : Json) (level : Nat) :
    ∀ c ∈ written .compact level value, Printable c := by
  induction value using induction_on generalizing level with
  | null =>
    simp only [written]
    exact printable_of_all (by decide)
  | bool value =>
    cases value with
    | false =>
      simp only [written]
      exact printable_of_all (by decide)
    | true =>
      simp only [written]
      exact printable_of_all (by decide)
  | number value => simpa only [written] using fun c present => (plain_number value c present).printable
  | string value => simpa only [written] using printable_quoted value.toList
  | list items inductionHypothesis =>
    cases items with
    | nil =>
      simp only [written]
      exact printable_of_all (by decide)
    | cons item rest =>
      obtain ⟨first, others⟩ := List.forall_mem_cons.mp inductionHypothesis
      have later := printable_behindCommas (level + 1)
        fun other member => others other member (level + 1)
      simp only [written_list_cons, Layout.compact, List.append_nil, List.cons_append]
      refine List.forall_mem_cons.mpr ⟨by decide, ?_⟩
      have inside := List.forall_mem_append.mpr ⟨first (level + 1), later⟩
      exact List.forall_mem_append.mpr ⟨inside, printable_of_all (by decide)⟩
  | object members inductionHypothesis =>
    have member (entry : String × Json) (present : entry ∈ members) :
        ∀ c ∈ memberWritten .compact (level + 1) entry, Printable c := by
      simp only [memberWritten]
      have colon : ∀ c ∈ Layout.compact.colon, Printable c := printable_of_all (by decide)
      have key := List.forall_mem_append.mpr ⟨printable_quoted entry.1.toList, colon⟩
      refine List.forall_mem_append.mpr ⟨key, ?_⟩
      exact inductionHypothesis entry present (level + 1)
    cases members with
    | nil =>
      simp only [written]
      exact printable_of_all (by decide)
    | cons entry rest =>
      obtain ⟨first, others⟩ := List.forall_mem_cons.mp member
      have later := printable_behindCommas (level + 1) others
      simp only [written_object_cons, Layout.compact, List.append_nil, List.cons_append]
        at first later ⊢
      refine List.forall_mem_cons.mpr ⟨by decide, ?_⟩
      have inside := List.forall_mem_append.mpr ⟨first, later⟩
      exact List.forall_mem_append.mpr ⟨inside, printable_of_all (by decide)⟩

/-- The characters that a value may begin with. -/
def opensValue (c : Char) : Bool :=
  c.isDigit || c = '-' || c = '"' || c = '[' || c = '\x7b' || c = 'n' || c = 't' || c = 'f'

/-- The digits of a number begin and end with digits. -/
theorem digits_ends (n : Nat) :
    (∃ first rest, Number.digits n = first :: rest ∧ first.isDigit = true) ∧
      ∃ front last, Number.digits n = front ++ [last] ∧ last.isDigit = true := by
  have nonempty : Number.digits n ≠ [] := Nat.toDigits_ne_nil
  constructor
  · obtain ⟨first, rest, made⟩ := List.exists_cons_of_ne_nil nonempty
    exact ⟨first, rest, made, isDigit_of_mem_digits (made ▸ List.mem_cons_self)⟩
  · obtain ⟨front, last, made⟩ := (List.eq_nil_or_concat (Number.digits n)).resolve_left nonempty
    rw [List.concat_eq_append] at made
    have present : last ∈ Number.digits n := made ▸ List.mem_append_right front List.mem_cons_self
    exact ⟨front, last, made, isDigit_of_mem_digits present⟩

/-- A digit is no blank. -/
theorem isBlank_digit {c : Char} (digit : c.isDigit = true) : Text.isBlank c = false :=
  (plain_digit digit).notBlank

/-- What a value may begin with is no blank of any kind. -/
theorem opensValue_notBlank {c : Char} (opens : opensValue c = true) : Text.isBlank c = false := by
  simp only [opensValue, Bool.or_eq_true, decide_eq_true_eq] at opens
  rcases opens with ((((((digit | rfl) | rfl) | rfl) | rfl) | rfl) | rfl) | rfl
  · exact isBlank_digit digit
  all_goals decide

/-- A value of whole numbers begins with what announces its kind. -/
theorem written_first (layout : Layout) (level : Nat) {value : Json} (wholeNumbers : value.Whole) :
    ∃ first rest, written layout level value = first :: rest ∧ opensValue first = true := by
  match value with
  | .null => exact ⟨_, _, by rw [written]; rfl, by decide⟩
  | .bool true => exact ⟨_, _, by rw [written]; rfl, by decide⟩
  | .bool false => exact ⟨_, _, by rw [written]; rfl, by decide⟩
  | .number (.float value) => exact wholeNumbers.elim
  | .number (.integer value) =>
    obtain ⟨⟨first, rest, made, digit⟩, -⟩ := digits_ends value.natAbs
    simp only [written, Number.written, integerText]
    split
    · exact ⟨_, _, rfl, by decide⟩
    · exact ⟨first, rest, made, by simp [opensValue, digit]⟩
  | .string value => exact ⟨_, _, by rw [written, quoted]; rfl, by decide⟩
  | .list [] => exact ⟨_, _, by rw [written], by decide⟩
  | .list (item :: rest) => exact ⟨_, _, by rw [written_list_cons]; rfl, by decide⟩
  | .object [] => exact ⟨_, _, by rw [written], by decide⟩
  | .object (entry :: rest) => exact ⟨_, _, by rw [written_object_cons]; rfl, by decide⟩

/-- A value of whole numbers does not end with a blank. -/
theorem written_last (layout : Layout) (level : Nat) {value : Json} (wholeNumbers : value.Whole) :
    ∃ front last, written layout level value = front ++ [last] ∧ Text.isBlank last = false := by
  match value with
  | .null => exact ⟨['n', 'u', 'l'], 'l', by rw [written]; rfl, by decide⟩
  | .bool true => exact ⟨['t', 'r', 'u'], 'e', by rw [written]; rfl, by decide⟩
  | .bool false => exact ⟨['f', 'a', 'l', 's'], 'e', by rw [written]; rfl, by decide⟩
  | .number (.float value) => exact wholeNumbers.elim
  | .number (.integer value) =>
    obtain ⟨-, front, last, made, digit⟩ := digits_ends value.natAbs
    simp only [written, Number.written, integerText, made]
    split
    · exact ⟨'-' :: front, last, rfl, isBlank_digit digit⟩
    · exact ⟨front, last, rfl, isBlank_digit digit⟩
  | .string value =>
    exact ⟨'"' :: value.toList.flatMap escaped, '"', by rw [written, quoted], by decide⟩
  | .list [] => exact ⟨['['], ']', by rw [written]; rfl, by decide⟩
  | .list (item :: rest) => exact ⟨_, ']', by rw [written_list_cons], by decide⟩
  | .object [] => exact ⟨['\x7b'], '\x7d', by rw [written]; rfl, by decide⟩
  | .object (entry :: rest) => exact ⟨_, '\x7d', by rw [written_object_cons], by decide⟩

end WorkflowClient.Json

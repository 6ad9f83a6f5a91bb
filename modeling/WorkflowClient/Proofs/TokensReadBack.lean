import WorkflowClient.Json.Reader
import WorkflowClient.Proofs.PrintedText

/-!
# Texts, numbers and dictionaries are read back

What the printer writes for a text is read as that text, every escape as the character it was
written for. What it writes for an integer of 64 bits is read as that integer, provided that nothing
follows which would go on with the number. And the entries of an ascending dictionary, written one
after the other, make it again.
-/

namespace WorkflowClient

namespace Json

namespace Quoted

/-- A hexadecimal digit of lower case is read as its value. -/
theorem hexValue?_digitChar : ∀ n < 16, hexValue? (Nat.digitChar n) = some n := by decide

/-- A control character's four digits are read as its code point. -/
theorem unit_control {n : Nat} (control : n < 0x20) (rest : List Char) :
    unit ('0' :: '0' :: Nat.digitChar (n / 16) :: Nat.digitChar (n % 16) :: rest) =
      .ok (n, rest) := by
  have high : hexValue? (Nat.digitChar (n / 16)) = some (n / 16) := hexValue?_digitChar _ (by omega)
  have low : hexValue? (Nat.digitChar (n % 16)) = some (n % 16) := hexValue?_digitChar _ (by omega)
  have zero : hexValue? '0' = some 0 := by decide
  have enough : ¬Text.Utf8.size
      (List.take 4 ('0' :: '0' :: Nat.digitChar (n / 16) :: Nat.digitChar (n % 16) :: rest)) <
      4 := by
    have first := Char.utf8Size_pos (Nat.digitChar (n / 16))
    have second := Char.utf8Size_pos (Nat.digitChar (n % 16))
    have zeros : '0'.utf8Size = 1 := by decide
    simp only [List.take_succ_cons, List.take_zero, Text.Utf8.size_cons, Text.Utf8.size_nil, zeros]
    omega
  have value : hexUnit? '0' '0' (Nat.digitChar (n / 16)) (Nat.digitChar (n % 16)) = some n := by
    simp only [hexUnit?, zero, high, low, Option.bind_eq_bind, Option.bind_some, Option.pure_def,
      Option.some.injEq]
    omega
  simp only [unit, enough, if_false, value]

/-- The escape that is written for a control character is read as the character. -/
theorem escape_control {c : Char} (control : c.toNat < 0x20) (rest : List Char) :
    escape ('u' :: '0' :: '0' :: Nat.digitChar (c.toNat / 16) ::
      Nat.digitChar (c.toNat % 16) :: rest) = .ok (c, rest) := by
  have notTrailing : isTrailing c.toNat = false := by
    simp only [isTrailing, Bool.and_eq_false_iff, decide_eq_false_iff_not]
    omega
  have notLeading : isLeading c.toNat = false := by
    simp only [isLeading, Bool.and_eq_false_iff, decide_eq_false_iff_not]
    omega
  simp only [escape, if_true, unit_control control, notTrailing, notLeading, Bool.false_eq_true,
    if_false, Char.ofNat_toNat]

end Quoted

/-- A character that needs no escape is read as it is. -/
theorem quotedText_plain {c : Char} (notQuote : c ≠ '"') (notBackslash : c ≠ '\\')
    (printable : ¬c.toNat < 0x20) (rest : List Char) :
    quotedText (c :: rest) = Reading.prepend c (quotedText rest) := by
  rw [quotedText]
  simp only [notQuote, notBackslash, printable, if_false]

/-- An escape is read as its character. -/
theorem quotedText_escape {d : Char} {text rest : List Char}
    (escaped : Quoted.escape text = .ok (d, rest)) :
    quotedText ('\\' :: text) = Reading.prepend d (quotedText rest) := by
  rw [quotedText]
  simp only [show ('\\' : Char) ≠ '"' by decide, if_false, if_true]
  split
  · next found => simp [escaped] at found
  · next found =>
    rw [escaped] at found
    obtain ⟨rfl, rfl⟩ := Prod.mk.inj (Except.ok.inj found)
    rfl

/-- What is written for a character is read as the character. -/
theorem quotedText_escaped (c : Char) (rest : List Char) :
    quotedText (escaped c ++ rest) = Reading.prepend c (quotedText rest) := by
  simp only [escaped]
  iterate 7
    split
    · next same =>
      subst same
      exact quotedText_escape (by rfl)
  split
  · next control => exact quotedText_escape (Quoted.escape_control control rest)
  · next notQuote notBackslash _ _ _ _ _ printable =>
      exact quotedText_plain notQuote notBackslash printable rest

/-- What is written between the quotes is read as the text, up to the closing quote. -/
theorem quotedText_quoted (text rest : List Char) :
    quotedText (text.flatMap escaped ++ '"' :: rest) = .ok (text, rest) := by
  induction text with
  | nil =>
    rw [List.flatMap_nil, List.nil_append, quotedText]
    rfl
  | cons c others inductionHypothesis =>
    rw [List.flatMap_cons, List.append_assoc, quotedText_escaped, inductionHypothesis]
    rfl

/-- Does a number end before this text, since no digit, no point and no exponent follows? -/
def endsNumber : List Char → Bool
  | [] => true
  | c :: _ => !(c.isDigit || c = '.' || c = 'e' || c = 'E')

namespace Numeral

/-- A number that ends has no further digit. -/
theorem startsWithDigit_of_ends {rest : List Char} (ends : endsNumber rest = true) :
    startsWithDigit rest = false := by
  cases rest with
  | nil => rfl
  | cons c after =>
    simp only [endsNumber, Bool.not_eq_true', Bool.or_eq_false_iff] at ends
    exact ends.1.1.1

/-- Digits that fit are all gathered. -/
theorem gather_digits {limit : Nat} (digits : List Char) (gathered : Nat) {rest : List Char}
    (decimal : ∀ c ∈ digits, c.isDigit = true) (fits : Nat.ofDigitChars 10 digits gathered ≤ limit)
    (ends : startsWithDigit rest = false) :
    gather limit gathered (digits ++ rest) = (Nat.ofDigitChars 10 digits gathered, rest) := by
  induction digits generalizing gathered with
  | nil =>
    cases rest with
    | nil => rfl
    | cons c after =>
      have other : c.isDigit = false := ends
      simp [gather, other]
  | cons c others inductionHypothesis =>
    obtain ⟨digit, more⟩ := List.forall_mem_cons.mp decimal
    have value : 10 * gathered + (c.toNat - '0'.toNat) = gathered * 10 + Number.digitValue c := by
      rw [Number.digitValue, Nat.mul_comm]
    rw [Nat.ofDigitChars_cons, value] at fits ⊢
    have grows : gathered * 10 + Number.digitValue c ≤
        Nat.ofDigitChars 10 others (gathered * 10 + Number.digitValue c) := by
      rw [Nat.ofDigitChars_eq_ofDigitChars_zero]
      exact Nat.le_add_right_of_le (Nat.le_mul_of_pos_left _ (Nat.pow_pos (by decide)))
    have first : c.isDigit = true ∧ gathered * 10 + Number.digitValue c ≤ limit :=
      ⟨digit, Nat.le_trans grows fits⟩
    rw [List.cons_append, gather, if_pos first]
    exact inductionHypothesis _ more fits

/-- A whole part that fits and ends is a whole number. -/
theorem afterWhole_ends (negative : Bool) (significand : Nat) {rest : List Char}
    (ends : endsNumber rest = true) :
    afterWhole negative significand 0 rest = .ok (whole negative significand, rest) := by
  cases rest with
  | nil => rfl
  | cons c after =>
    simp only [endsNumber, Bool.not_eq_true', Bool.or_eq_false_iff, decide_eq_false_iff_not] at ends
    obtain ⟨⟨⟨-, notPoint⟩, notLower⟩, notUpper⟩ := ends
    rw [afterWhole.eq_def]
    split
    · next same => exact absurd (List.cons.inj same).1 notPoint
    · next _ d rest _ same =>
      obtain ⟨rfl, rfl⟩ := List.cons.inj same
      simp [notLower, notUpper]
    · next same => simp at same

end Numeral

/-- The first digit of a positive number is not zero. -/
theorem digits_first {n : Nat} (positive : 0 < n) :
    ∃ first rest, Number.digits n = first :: rest ∧ first ≠ '0' := by
  have single : ∀ m < 10, 0 < m → Nat.digitChar m ≠ '0' := by decide
  induction n using Nat.base_induction 10 (by decide) with
  | single m small => exact ⟨_, [], Nat.toDigits_of_lt_base small, single m small positive⟩
  | digit m k small more inductionHypothesis =>
    obtain ⟨first, rest, made, notZero⟩ := inductionHypothesis more
    refine ⟨first, rest ++ Nat.toDigits 10 k, ?_, notZero⟩
    rw [Number.digits] at made ⊢
    rw [← Nat.toDigits_append_toDigits (by decide) more small, made, List.cons_append]

/-- The digits of a number that fits are read as that number. -/
theorem numeral_digits (negative : Bool) {n : Nat} (fits : n ≤ Numeral.greatestSignificand)
    {rest : List Char} (ends : endsNumber rest = true) :
    numeral negative (Number.digits n ++ rest) = .ok (Numeral.whole negative n, rest) := by
  have noDigit : Numeral.startsWithDigit rest = false := Numeral.startsWithDigit_of_ends ends
  rcases Nat.eq_zero_or_pos n with rfl | positive
  · have zero : Number.digits 0 = ['0'] := Nat.toDigits_zero 10
    rw [zero]
    simp only [List.cons_append, List.nil_append, numeral, if_true, noDigit, Bool.false_eq_true,
      if_false]
    exact Numeral.afterWhole_ends negative 0 ends
  · obtain ⟨first, others, made, notZero⟩ := digits_first positive
    have decimal : ∀ c ∈ first :: others, c.isDigit = true := by
      intro c present
      exact isDigit_of_mem_digits (made ▸ present)
    obtain ⟨digit, more⟩ := List.forall_mem_cons.mp decimal
    have value : Nat.ofDigitChars 10 others (Number.digitValue first) = n := by
      have back : Nat.ofDigitChars 10 (Number.digits n) 0 = n := Nat.ofDigitChars_ten_toDigits
      rw [made, Nat.ofDigitChars_cons, Nat.mul_zero, Nat.zero_add] at back
      exact back
    have gathered : Numeral.gather Numeral.greatestSignificand (Number.digitValue first)
        (others ++ rest) = (n, rest) := by
      rw [Numeral.gather_digits others _ more (value ▸ fits) noDigit, value]
    have passed : Numeral.passDigits rest = rest := by
      cases rest with
      | nil => rfl
      | cons c after =>
        have notDigit : ¬c.isDigit = true := by simpa [Numeral.startsWithDigit] using noDigit
        exact List.dropWhile_cons_of_neg notDigit
    rw [made, List.cons_append]
    simp only [numeral, notZero, if_false, digit, if_true, gathered, passed, Nat.sub_self]
    exact Numeral.afterWhole_ends negative n ends

/-- The digits of an integer of 64 bits are read as that integer. -/
theorem scalar_integer {value : Int} (fits : Number.IsWhole (.integer value)) {rest : List Char}
    (ends : endsNumber rest = true) :
    scalar (integerText value ++ rest) = .ok (.number (.integer value), rest) := by
  obtain ⟨least, greatest⟩ := fits
  simp only [leastInteger, greatestInteger] at least greatest
  have small : value.natAbs ≤ Numeral.greatestSignificand := by
    simp only [Numeral.greatestSignificand]
    omega
  simp only [integerText]
  split
  · next negative =>
    have kept : Numeral.whole true value.natAbs = .integer value := by
      have between : ¬(value.natAbs = 0 ∨ Numeral.greatestNegative < value.natAbs) := by
        simp only [Numeral.greatestNegative]
        omega
      simp only [Numeral.whole, if_true, between, if_false, Number.integer.injEq]
      omega
    have read := numeral_digits true small ends
    rw [kept] at read
    rw [List.cons_append]
    simp [scalar, numberValue, read]
  · next positive =>
    have kept : Numeral.whole false value.natAbs = .integer value := by
      simp only [Numeral.whole, Bool.false_eq_true, if_false, Number.integer.injEq]
      omega
    have read := numeral_digits false small ends
    rw [kept] at read
    obtain ⟨⟨first, others, made, digit⟩, -⟩ := digits_ends value.natAbs
    have bounds := digit_bounds digit
    have other {c : Char} (outside : c.toNat < 0x30 ∨ 0x39 < c.toNat) : first ≠ c := by
      rintro rfl
      omega
    rw [made, List.cons_append] at read ⊢
    simp [scalar, numberValue, read, digit, other (c := 'n') (by decide),
      other (c := 't') (by decide), other (c := 'f') (by decide), other (c := '"') (by decide),
      other (c := '-') (by decide)]

end Json

namespace Dictionary

universe u
variable {α : Type u}

/-- A key that is greater than all others is written at the end. -/
theorem insert_greatest {entries : Dictionary α} {key : String}
    (greatest : ∀ other ∈ entries.keys, other < key) (value : α) :
    entries.insert key value = entries ++ [(key, value)] := by
  induction entries with
  | nil => rfl
  | cons entry rest inductionHypothesis =>
    obtain ⟨other, held⟩ := entry
    obtain ⟨below, others⟩ := List.forall_mem_cons.mp greatest
    have notSmaller : ¬key < other := by
      intro smaller
      exact String.lt_irrefl key (String.lt_trans smaller below)
    have different : key ≠ other := by
      rintro rfl
      exact String.lt_irrefl key below
    rw [Dictionary.insert, if_neg notSmaller, if_neg different, inductionHypothesis others,
      List.cons_append]

/-- Ascending entries that continue ascending entries are appended. -/
theorem insertAll_ascending (entries additions : Dictionary α)
    (ascending : Ascending (entries ++ additions)) :
    entries.insertAll additions = entries ++ additions := by
  induction additions generalizing entries with
  | nil => simp [insertAll]
  | cons entry rest inductionHypothesis =>
    have greatest : ∀ other ∈ entries.keys, other < entry.1 := by
      intro other present
      have split : (entries.keys ++ Dictionary.keys (entry :: rest)).Pairwise (· < ·) := by
        rw [Ascending, keys, List.map_append] at ascending
        exact ascending
      exact (List.pairwise_append.mp split).2.2 other present entry.1 List.mem_cons_self
    have appended : entries.insert entry.1 entry.2 = entries ++ [entry] :=
      insert_greatest greatest entry.2
    have step : entries.insertAll (entry :: rest) =
        (entries.insert entry.1 entry.2).insertAll rest := rfl
    have reassociated : entries ++ [entry] ++ rest = entries ++ entry :: rest := by simp
    rw [step, appended, inductionHypothesis (entries ++ [entry]) (reassociated ▸ ascending),
      reassociated]

/-- The entries of an ascending dictionary make it again. -/
theorem ofList_ascending {entries : Dictionary α} (ascending : entries.Ascending) :
    ofList entries = entries :=
  insertAll_ascending [] entries ascending

end Dictionary

end WorkflowClient

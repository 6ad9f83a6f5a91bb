import WorkflowClient.Proofs.ParsedValues
import WorkflowClient.Proofs.PrintedText

/-!
# The numbers of parsed values

A number of a text becomes an integer only as a whole part without an excess of digits, and then its
significand has been gathered within 64 bits. With a minus sign it has to be within the signed range
too, and all other numbers become floating-point numbers. So whatever digits a text holds, wherever
an integer stands within the parsed value, it is of 64 bits.
-/

namespace WorkflowClient.Json

/-- A number that reading may yield: a floating-point number, or an integer of 64 bits. -/
def Number.Kept : Number → Prop
  | .integer value => leastInteger ≤ value ∧ value ≤ greatestInteger
  | .float _ => True

namespace Numeral

variable {negative : Bool} {significand : Nat} {exponent : Int} {text rest : List Char} {n : Number}

/-- Gathering digits stays within its limit. -/
theorem gather_le {limit gathered : Nat} (within : gathered ≤ limit) (text : List Char) :
    (gather limit gathered text).1 ≤ limit := by
  induction text generalizing gathered with
  | nil => exact within
  | cons c rest inductionHypothesis =>
    rw [gather]
    split
    · next fits => exact inductionHypothesis fits.2
    · exact within

/-- A whole number of a significand of 64 bits is an integer of 64 bits or no integer. -/
theorem whole_kept (negative : Bool) (fits : significand ≤ greatestSignificand) :
    (whole negative significand).Kept := by
  rw [greatestSignificand] at fits
  rw [whole]
  split
  · split
    · exact trivial
    · next within =>
      rw [greatestNegative] at within
      rw [Number.Kept, leastInteger, greatestInteger]
      omega
  · rw [Number.Kept, leastInteger, greatestInteger]
    omega

/-- What is scaled is no integer. -/
theorem scaled_kept (read : scaled negative significand exponent text = .ok (n, rest)) :
    n.Kept := by
  rw [scaled] at read
  split at read
  · obtain ⟨rfl, -⟩ := Prod.mk.inj (Except.ok.inj read)
    exact trivial
  · simp [atLast] at read

/-- With the digits of an exponent there is no integer. -/
theorem exponentDigits_kept {lowers : Bool}
    (read : exponentDigits negative significand exponent lowers text = .ok (n, rest)) : n.Kept := by
  simp only [exponentDigits] at read
  split at read
  · simp [atEnd] at read
  · split at read
    · split at read
      · split at read
        · simp [atNext] at read
        · obtain ⟨rfl, -⟩ := Prod.mk.inj (Except.ok.inj read)
          exact trivial
      · exact scaled_kept read
    · simp [atNext] at read

/-- With or without an exponent, what is scaled is no integer. -/
theorem exponentPart_kept
    (read : exponentPart negative significand exponent text = .ok (n, rest)) : n.Kept := by
  simp only [exponentPart] at read
  split at read
  · split at read
    · split at read
      · exact exponentDigits_kept read
      · exact exponentDigits_kept read
      · exact exponentDigits_kept read
    · exact scaled_kept read
  · exact scaled_kept read

/-- With a fraction there is no integer. -/
theorem fractionPart_kept
    (read : fractionPart negative significand exponent text = .ok (n, rest)) : n.Kept := by
  simp only [fractionPart] at read
  split at read
  · simp [atEnd] at read
  · split at read
    · exact exponentPart_kept read
    · simp [atNext] at read

/-- Behind a whole part of 64 bits an integer is of 64 bits. -/
theorem afterWhole_kept {excess : Nat} (fits : significand ≤ greatestSignificand)
    (read : afterWhole negative significand excess text = .ok (n, rest)) : n.Kept := by
  simp only [afterWhole] at read
  split at read
  · exact fractionPart_kept read
  · split at read
    · exact exponentPart_kept read
    · obtain ⟨rfl, -⟩ := Prod.mk.inj (Except.ok.inj read)
      exact whole_kept negative fits
  · split at read
    · exact scaled_kept read
    · obtain ⟨rfl, -⟩ := Prod.mk.inj (Except.ok.inj read)
      exact whole_kept negative fits

end Numeral

/-- An integer that is read is of 64 bits. -/
theorem numeral_kept {negative : Bool} {text rest : List Char} {n : Number}
    (read : numeral negative text = .ok (n, rest)) : n.Kept := by
  simp only [numeral] at read
  split at read
  · simp [atEnd] at read
  · split at read
    · split at read
      · simp [atNext] at read
      · exact Numeral.afterWhole_kept (Nat.zero_le _) read
    · split at read
      · next c _ _ digit =>
        apply Numeral.afterWhole_kept _ read
        apply Numeral.gather_le
        have bounds := digit_bounds digit
        have value : Number.digitValue c = c.toNat - 0x30 := rfl
        rw [value, Numeral.greatestSignificand]
        omega
      · simp [atNext] at read

/-- A value stands within a value: as the value itself, or within an item or a member's value. -/
inductive Within (inner : Json) : Json → Prop
  | self : Within inner inner
  | item {items : List Json} {item : Json} (present : item ∈ items) (within : Within inner item) :
      Within inner (.list items)
  | member {members : List (String × Json)} {entry : String × Json} (present : entry ∈ members)
      (within : Within inner entry.2) : Within inner (.object members)

/-- A value is whole if every number within it is an integer of 64 bits. -/
theorem whole_iff_within (value : Json) :
    value.Whole ↔ ∀ number, Within (.number number) value → number.IsWhole := by
  constructor
  · intro wholeNumbers number within
    induction within with
    | self => exact wholeNumbers
    | item present _ inductionHypothesis =>
      exact inductionHypothesis ((whole_list_iff _).mp wholeNumbers _ present)
    | member present _ inductionHypothesis =>
      exact inductionHypothesis ((whole_object_iff _).mp wholeNumbers _ present)
  · intro numbers
    induction value using induction_on with
    | null => exact trivial
    | bool value => exact trivial
    | number value => exact numbers value .self
    | string value => exact trivial
    | list items inductionHypothesis =>
      rw [whole_list_iff]
      intro item present
      apply inductionHypothesis item present
      exact fun number within => numbers number (.item present within)
    | object members inductionHypothesis =>
      rw [whole_object_iff]
      intro entry present
      apply inductionHypothesis entry present
      exact fun number within => numbers number (.member present within)

/-- A number behind its sign is read as one that is kept. -/
theorem numberValue_kept {negative : Bool} {text rest : List Char} {n : Number}
    (read : numberValue negative text = .ok (.number n, rest)) : n.Kept := by
  rw [numberValue] at read
  split at read
  · next taken =>
    obtain ⟨same, rfl⟩ := Prod.mk.inj (Except.ok.inj read)
    obtain rfl := Json.number.inj same
    exact numeral_kept taken
  · simp at read

/-- A number that is read without brackets is kept. -/
theorem scalar_kept {text rest : List Char} {n : Number}
    (read : scalar text = .ok (.number n, rest)) : n.Kept := by
  simp only [scalar] at read
  split at read
  · simp [atEnd] at read
  · iterate 3
      split at read
      · cases wordValue_yields read
    split at read
    · obtain ⟨content, same⟩ := textValue_yields read
      cases same
    · split at read
      · exact numberValue_kept read
      · split at read
        · exact numberValue_kept read
        · simp [atNext] at read

/-- Every number within a value is kept, if those within the values between its brackets are. -/
theorem valueOver_kept (inner : Option (Reader Json)) {text rest : List Char} {value : Json}
    (read : valueOver inner text = .ok (value, rest))
    (between : ∀ reader, inner = some reader → ∀ value, reader.Yields value →
      ∀ number, Within (.number number) value → number.Kept) :
    ∀ number, Within (.number number) value → number.Kept := by
  intro number within
  cases valueOver_opened read with
  | list opens _ taken =>
    cases within with
    | item present within => exact between _ opens _ (items_yields taken _ present) number within
  | object opens _ taken =>
    cases within with
    | member present within =>
      have written := Dictionary.mem_of_mem_ofList present
      exact between _ opens _ (member_yields (items_yields taken _ written)) number within
  | scalar _ taken =>
    cases within with
    | self => exact scalar_kept taken
    | item =>
      cases scalar_made none taken with
      | list opens => cases opens
    | member =>
      cases scalar_made none taken with
      | object opens => cases opens

/-- Every number within a value that a reader of values yields is kept. -/
theorem value_kept {depth : Nat} {value : Json} (yields : (Reader.value depth).Yields value) :
    ∀ number, Within (.number number) value → number.Kept := by
  induction depth generalizing value with
  | zero =>
    obtain ⟨text, rest, read⟩ := yields
    exact valueOver_kept none read (by simp)
  | succ depth inductionHypothesis =>
    obtain ⟨text, rest, read⟩ := yields
    apply valueOver_kept (some (Reader.value depth)) read
    rintro reader opens value yields
    obtain rfl := Option.some.inj opens
    exact inductionHypothesis yields

/-- A parsed value is whole exactly if no floating-point number stands within it. -/
theorem parse_whole_iff {text : String} {value : Json} (read : parse text = .ok value) :
    value.Whole ↔ ∀ float, ¬Within (.number (.float float)) value := by
  obtain ⟨rest, front, -⟩ := parseWith_eq_ok_iff.mp read
  have kept := value_kept ⟨_, _, front⟩
  rw [whole_iff_within]
  constructor
  · exact fun numbers float within => numbers (.float float) within
  · intro noFloat number within
    cases number with
    | integer value => exact kept _ within
    | float value => exact absurd within (noFloat value)

end WorkflowClient.Json

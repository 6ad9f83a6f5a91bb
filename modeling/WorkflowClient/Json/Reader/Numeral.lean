import WorkflowClient.Json.Fault

/-!
# Reading a JSON number

The digits of a number are gathered into a significand as long as it fits into 64 bits. Digits of the whole part
that no longer fit raise the exponent by one each; digits of the fraction lower it by one each while
they fit and are passed over from the first one that does not. A number without fraction, exponent
and such excess is an integer. All others are scaled in floating-point arithmetic: the significand is
rounded, then multiplied or divided by a rounded power of ten, in strides of `10 ^ 308` below that
power's range. The result is therefore near the written number but not always nearest.

Each reader returns what is left of the text, and what is left is never longer than the text.
-/

namespace WorkflowClient.Json

/-- What a reader gives: a value and the text after it, or a fault. -/
abbrev Reading (α : Type) := Except Fault (α × List Char)

/-- Nothing is left but the reason. -/
def atEnd {α : Type} (reason : Reason) : Except Fault α := .error ⟨reason, [], 0⟩

/-- The next character is at fault. -/
def atNext {α : Type} (reason : Reason) (rest : List Char) : Except Fault α := .error ⟨reason, rest, 1⟩

/-- What was read last is at fault. -/
def atLast {α : Type} (reason : Reason) (rest : List Char) : Except Fault α := .error ⟨reason, rest, 0⟩

namespace Numeral

/-- The greatest significand, `2 ^ 64 - 1`. -/
def greatestSignificand : Nat := 0xffffffffffffffff

/-- The greatest exponent that can be written, `2 ^ 31 - 1`. -/
def greatestExponent : Nat := 0x7fffffff

/-- The greatest significand of an integer with a minus sign, `2 ^ 63`. -/
def greatestNegative : Nat := 0x8000000000000000

/-- Does a digit come next? -/
def startsWithDigit : List Char → Bool
  | c :: _ => c.isDigit
  | [] => false

/-- Append digits to a number while it stays within the limit. -/
def gather (limit gathered : Nat) : List Char → Nat × List Char
  | [] => (gathered, [])
  | c :: rest =>
      if c.isDigit ∧ gathered * 10 + Number.digitValue c ≤ limit then
        gather limit (gathered * 10 + Number.digitValue c) rest
      else (gathered, c :: rest)

/-- Pass over digits. -/
def passDigits (text : List Char) : List Char := text.dropWhile Char.isDigit

/-- Divide by a power of ten, in strides that a floating-point power covers. -/
def scaleDown (f : Binary64) (exponent : Nat) : Binary64 :=
  if exponent ≤ 308 then f / Binary64.powerOfTen exponent
  else if f.isZero then f
  else scaleDown (f / Binary64.powerOfTen 308) (exponent - 308)
termination_by exponent

/-- Multiply by a power of ten, unless the product is out of range. -/
def scaleUp? (f : Binary64) (exponent : Nat) : Option Binary64 :=
  if exponent ≤ 308 then
    let product := f * Binary64.powerOfTen exponent
    if product.isInfinite then none else some product
  else if f.isZero then some f
  else none

/-- The number for a significand and an exponent, unless it is out of range. -/
def scale? (significand : Nat) (exponent : Int) : Option Binary64 :=
  if exponent < 0 then some (scaleDown (Binary64.ofNat significand) exponent.natAbs)
  else scaleUp? (Binary64.ofNat significand) exponent.natAbs

/-- A floating-point number with its sign. -/
def float (negative : Bool) (f : Binary64) : Number := .float (if negative then -f else f)

/-- A number without fraction and exponent. Zero with a minus sign and what is below the integers are
floating-point numbers. -/
def whole (negative : Bool) (significand : Nat) : Number :=
  if negative then
    if significand = 0 ∨ greatestNegative < significand then float true (Binary64.ofNat significand)
    else .integer (-(significand : Int))
  else .integer significand

/-- The end of a number to be scaled. -/
def scaled (negative : Bool) (significand : Nat) (exponent : Int) (rest : List Char) : Reading Number :=
  match scale? significand exponent with
  | some f => .ok (float negative f, rest)
  | none => atLast .numberOutOfRange rest

/-- The digits of a written exponent, behind its sign. An exponent that is too great means zero, or a number out
of range if it raises a significand other than zero. -/
def exponentDigits (negative : Bool) (significand : Nat) (exponent : Int) (lowers : Bool)
    (text : List Char) : Reading Number :=
  match text with
  | [] => atEnd .unfinishedValue
  | c :: rest =>
    if c.isDigit then
      let (written, after) := gather greatestExponent (Number.digitValue c) rest
      if startsWithDigit after then
        if significand ≠ 0 ∧ !lowers then atNext .numberOutOfRange after
        else .ok (float negative (Binary64.zero false), passDigits after)
      else scaled negative significand (if lowers then exponent - written else exponent + written) after
    else atNext .malformedNumber (c :: rest)

/-- An exponent, if one comes, and the end of the number. -/
def exponentPart (negative : Bool) (significand : Nat) (exponent : Int) (text : List Char) : Reading Number :=
  match text with
  | c :: rest =>
    if c = 'e' ∨ c = 'E' then
      match rest with
      | '-' :: rest => exponentDigits negative significand exponent true rest
      | '+' :: rest => exponentDigits negative significand exponent false rest
      | rest => exponentDigits negative significand exponent false rest
    else scaled negative significand exponent (c :: rest)
  | [] => scaled negative significand exponent []

/-- The fraction behind its point, and the exponent. -/
def fractionPart (negative : Bool) (significand : Nat) (exponent : Int) (text : List Char) : Reading Number :=
  match text with
  | [] => atEnd .unfinishedValue
  | c :: rest =>
    if c.isDigit then
      let (gathered, after) := gather greatestSignificand significand (c :: rest)
      exponentPart negative gathered (exponent - ((c :: rest).length - after.length : Nat)) (passDigits after)
    else atNext .malformedNumber (c :: rest)

/-- What follows the digits of the whole part, of which `excess` did not fit into the significand. -/
def afterWhole (negative : Bool) (significand excess : Nat) (text : List Char) : Reading Number :=
  match text with
  | '.' :: rest => fractionPart negative significand excess rest
  | c :: rest =>
    if c = 'e' ∨ c = 'E' ∨ excess ≠ 0 then exponentPart negative significand excess (c :: rest)
    else .ok (whole negative significand, c :: rest)
  | [] =>
    if excess ≠ 0 then scaled negative significand excess []
    else .ok (whole negative significand, [])

end Numeral

/-- Read a number behind its minus sign, if it has one. A zero in front of other digits is malformed. -/
def numeral (negative : Bool) (text : List Char) : Reading Number :=
  match text with
  | [] => atEnd .unfinishedValue
  | c :: rest =>
    if c = '0' then
      if Numeral.startsWithDigit rest then atNext .malformedNumber rest
      else Numeral.afterWhole negative 0 0 rest
    else if c.isDigit then
      let (significand, after) := Numeral.gather Numeral.greatestSignificand (Number.digitValue c) rest
      let following := Numeral.passDigits after
      Numeral.afterWhole negative significand (after.length - following.length) following
    else atNext .malformedNumber (c :: rest)

namespace Numeral

/-- What is left after gathering digits is no longer than the text. -/
theorem gather_length (limit gathered : Nat) (text : List Char) :
    (gather limit gathered text).2.length ≤ text.length := by
  induction text generalizing gathered with
  | nil => simp [gather]
  | cons c rest inductionHypothesis =>
    simp only [gather]
    split
    · exact Nat.le_succ_of_le (inductionHypothesis _)
    · exact Nat.le_refl _

/-- Passing over digits leaves no longer text. -/
theorem passDigits_length (text : List Char) : (passDigits text).length ≤ text.length :=
  (List.dropWhile_sublist _).length_le

/-- Scaling reads nothing. -/
theorem scaled_rest {negative : Bool} {significand : Nat} {exponent : Int} {text rest : List Char}
    {n : Number} (read : scaled negative significand exponent text = .ok (n, rest)) : rest = text := by
  simp only [scaled] at read
  split at read
  · simp only [Except.ok.injEq, Prod.mk.injEq] at read
    exact read.2.symm
  · simp [atLast] at read

/-- An exponent takes at least one digit. -/
theorem exponentDigits_length {negative lowers : Bool} {significand : Nat} {exponent : Int}
    {text rest : List Char} {n : Number}
    (read : exponentDigits negative significand exponent lowers text = .ok (n, rest)) :
    rest.length < text.length := by
  simp only [exponentDigits] at read
  split at read
  · simp [atEnd] at read
  · next c after =>
    have gathered := gather_length greatestExponent (Number.digitValue c) after
    split at read
    · split at read
      · split at read
        · simp [atNext] at read
        · simp only [Except.ok.injEq, Prod.mk.injEq] at read
          have passed := passDigits_length (gather greatestExponent (Number.digitValue c) after).2
          rw [← read.2, List.length_cons]
          omega
      · rw [scaled_rest read, List.length_cons]
        omega
    · simp [atNext] at read

/-- The exponent may be missing. -/
theorem exponentPart_length {negative : Bool} {significand : Nat} {exponent : Int}
    {text rest : List Char} {n : Number}
    (read : exponentPart negative significand exponent text = .ok (n, rest)) :
    rest.length ≤ text.length := by
  simp only [exponentPart] at read
  split at read
  · split at read
    · split at read <;> have shorter := exponentDigits_length read <;> simp only [List.length_cons] <;> omega
    · exact Nat.le_of_eq (congrArg List.length (scaled_rest read))
  · exact Nat.le_of_eq (congrArg List.length (scaled_rest read))

/-- A fraction takes no text back. -/
theorem fractionPart_length {negative : Bool} {significand : Nat} {exponent : Int}
    {text rest : List Char} {n : Number}
    (read : fractionPart negative significand exponent text = .ok (n, rest)) :
    rest.length ≤ text.length := by
  simp only [fractionPart] at read
  split at read
  · simp [atEnd] at read
  · next c after =>
    split at read
    · have gathered := gather_length greatestSignificand significand (c :: after)
      have passed := passDigits_length (gather greatestSignificand significand (c :: after)).2
      have ended := exponentPart_length read
      omega
    · simp [atNext] at read

/-- What follows the whole part may be nothing. -/
theorem afterWhole_length {negative : Bool} {significand excess : Nat} {text rest : List Char} {n : Number}
    (read : afterWhole negative significand excess text = .ok (n, rest)) :
    rest.length ≤ text.length := by
  simp only [afterWhole] at read
  split at read
  · exact Nat.le_succ_of_le (fractionPart_length read)
  · split at read
    · exact exponentPart_length read
    · simp only [Except.ok.injEq, Prod.mk.injEq] at read
      exact Nat.le_of_eq (congrArg List.length read.2.symm)
  · split at read
    · exact Nat.le_of_eq (congrArg List.length (scaled_rest read))
    · simp only [Except.ok.injEq, Prod.mk.injEq] at read
      exact Nat.le_of_eq (congrArg List.length read.2.symm)

end Numeral

/-- A number takes at least one digit. -/
theorem numeral_length {negative : Bool} {text rest : List Char} {n : Number}
    (read : numeral negative text = .ok (n, rest)) : rest.length < text.length := by
  simp only [numeral] at read
  split at read
  · simp [atEnd] at read
  · next c after =>
    split at read
    · split at read
      · simp [atNext] at read
      · have followed := Numeral.afterWhole_length read
        simp only [List.length_cons]
        omega
    · split at read
      · have followed := Numeral.afterWhole_length read
        have gathered := Numeral.gather_length Numeral.greatestSignificand (Number.digitValue c) after
        have passed := Numeral.passDigits_length
          (Numeral.gather Numeral.greatestSignificand (Number.digitValue c) after).2
        simp only [List.length_cons]
        omega
      · simp [atNext] at read

end WorkflowClient.Json

import WorkflowClient.Json.Reader.Numeral

/-!
# Reading a quoted JSON text

Between its quotes a text holds characters as they are, controls below the space excepted, and escapes behind a
backslash. An escape is a letter or four hexadecimal digits of a UTF-16 unit; a character beyond the
basic plane takes two of them, a leading and a trailing surrogate. The four digits are four bytes of
the text, whatever characters these bytes belong to.
-/

namespace WorkflowClient.Json

namespace Quoted

/-- The character that an escape of one letter stands for. -/
def letterEscape? (c : Char) : Option Char :=
  if c = '"' ∨ c = '\\' ∨ c = '/' then some c
  else if c = 'b' then some '\x08'
  else if c = 'f' then some '\x0c'
  else if c = 'n' then some '\n'
  else if c = 'r' then some '\r'
  else if c = 't' then some '\t'
  else none

/-- The number that a hexadecimal digit of either case stands for. -/
def hexValue? (c : Char) : Option Nat :=
  if c.isDigit then some (c.toNat - '0'.toNat)
  else if 'a' ≤ c ∧ c ≤ 'f' then some (c.toNat - 'a'.toNat + 10)
  else if 'A' ≤ c ∧ c ≤ 'F' then some (c.toNat - 'A'.toNat + 10)
  else none

/-- The unit that four hexadecimal digits write. -/
def hexUnit? (a b c d : Char) : Option Nat := do
  let a ← hexValue? a
  let b ← hexValue? b
  let c ← hexValue? c
  let d ← hexValue? d
  return ((a * 16 + b) * 16 + c) * 16 + d

/-- Four hexadecimal digits. With fewer than four bytes left the text is unfinished. -/
def unit (text : List Char) : Except Fault (Nat × List Char) :=
  if Text.Utf8.size (text.take 4) < 4 then atEnd .unfinishedText
  else
    match text with
    | a :: b :: c :: d :: rest =>
      match hexUnit? a b c d with
      | some value => .ok (value, rest)
      | none => .error ⟨.unknownEscape, text, 4⟩
    | _ => .error ⟨.unknownEscape, text, 4⟩

/-- The units that begin a pair. -/
def isLeading (unit : Nat) : Bool := 0xd800 ≤ unit && unit ≤ 0xdbff

/-- The units that end a pair. -/
def isTrailing (unit : Nat) : Bool := 0xdc00 ≤ unit && unit ≤ 0xdfff

/-- The character of a pair of units. -/
def pairCharacter (leading trailing : Nat) : Char :=
  Char.ofNat (0x10000 + (leading - 0xd800) * 0x400 + (trailing - 0xdc00))

/-- The second unit of a pair, with its own backslash and letter. -/
def trailingUnit (leading : Nat) (text : List Char) : Except Fault (Char × List Char) :=
  match text with
  | [] => atEnd .unfinishedText
  | c :: rest =>
    if c ≠ '\\' then atNext .halfSurrogatePair (c :: rest)
    else
      match rest with
      | [] => atEnd .unfinishedText
      | d :: rest =>
        if d ≠ 'u' then atNext .halfSurrogatePair (d :: rest)
        else
          match unit rest with
          | .error fault => .error fault
          | .ok (trailing, rest) =>
            if isTrailing trailing then .ok (pairCharacter leading trailing, rest)
            else atLast .loneSurrogate rest

/-- The character that an escape stands for, behind its backslash. -/
def escape (text : List Char) : Except Fault (Char × List Char) :=
  match text with
  | [] => atEnd .unfinishedText
  | c :: rest =>
    if c = 'u' then
      match unit rest with
      | .error fault => .error fault
      | .ok (value, rest) =>
        if isTrailing value then atLast .loneSurrogate rest
        else if isLeading value then trailingUnit value rest
        else .ok (Char.ofNat value, rest)
    else
      match letterEscape? c with
      | some d => .ok (d, rest)
      | none => atNext .unknownEscape (c :: rest)

/-- Four digits leave less text. -/
theorem unit_length {text rest : List Char} {value : Nat} (read : unit text = .ok (value, rest)) :
    rest.length < text.length := by
  simp only [unit] at read
  split at read
  · simp [atEnd] at read
  · split at read
    · split at read
      · simp only [Except.ok.injEq, Prod.mk.injEq] at read
        simp only [← read.2, List.length_cons]
        omega
      · simp at read
    · simp at read

/-- The second unit of a pair leaves less text. -/
theorem trailingUnit_length {leading : Nat} {text rest : List Char} {c : Char}
    (read : trailingUnit leading text = .ok (c, rest)) : rest.length < text.length := by
  simp only [trailingUnit] at read
  split at read
  · simp [atEnd] at read
  · split at read
    · simp [atNext] at read
    · split at read
      · simp [atEnd] at read
      · split at read
        · simp [atNext] at read
        · split at read
          · simp at read
          · next unitRead =>
            have shorter := unit_length unitRead
            split at read
            · simp only [Except.ok.injEq, Prod.mk.injEq] at read
              simp only [← read.2, List.length_cons]
              omega
            · simp [atLast] at read

/-- An escape leaves less text. -/
theorem escape_length {text rest : List Char} {c : Char} (read : escape text = .ok (c, rest)) :
    rest.length < text.length := by
  simp only [escape] at read
  split at read
  · simp [atEnd] at read
  · split at read
    · split at read
      · simp at read
      · next unitRead =>
        have shorter := unit_length unitRead
        split at read
        · simp [atLast] at read
        · split at read
          · have paired := trailingUnit_length read
            simp only [List.length_cons]
            omega
          · simp only [Except.ok.injEq, Prod.mk.injEq] at read
            simp only [← read.2, List.length_cons]
            omega
    · split at read
      · simp only [Except.ok.injEq, Prod.mk.injEq] at read
        simp only [← read.2, List.length_cons]
        omega
      · simp [atNext] at read

end Quoted

/-- Put what was read first in front of what is read after it. -/
def Reading.prepend {α : Type} (first : α) : Reading (List α) → Reading (List α)
  | .ok (others, rest) => .ok (first :: others, rest)
  | .error fault => .error fault

/-- A reading with something in front ends where the reading does. -/
theorem Reading.prepend_eq_ok {α : Type} {first : α} {reading : Reading (List α)} {result : List α}
    {rest : List Char} (read : reading.prepend first = .ok (result, rest)) :
    ∃ others, reading = .ok (others, rest) ∧ result = first :: others := by
  cases reading with
  | error fault => simp [Reading.prepend] at read
  | ok pair =>
    obtain ⟨others, left⟩ := pair
    simp only [Reading.prepend, Except.ok.injEq, Prod.mk.injEq] at read
    exact ⟨others, by rw [read.2], read.1.symm⟩

/-- Read a quoted text behind its opening quote. -/
def quotedText (text : List Char) : Reading (List Char) :=
  match text with
  | [] => atEnd .unfinishedText
  | c :: rest =>
    if c = '"' then .ok ([], rest)
    else if c = '\\' then
      match _escaped : Quoted.escape rest with
      | .error fault => .error fault
      | .ok (d, after) => Reading.prepend d (quotedText after)
    else if c.toNat < 0x20 then atNext .bareControl (c :: rest)
    else Reading.prepend c (quotedText rest)
termination_by text.length
decreasing_by
  · have shorter := Quoted.escape_length _escaped
    simp only [List.length_cons]
    omega
  · simp

/-- The closing quote is taken from the text. -/
theorem quotedText_length {text rest content : List Char} (read : quotedText text = .ok (content, rest)) :
    rest.length < text.length := by
  fun_induction quotedText text generalizing content with
  | case1 => simp [atEnd] at read
  | case2 => simp_all
  | case3 => simp at read
  | case4 rest d after escaped _ inductionHypothesis =>
    obtain ⟨others, tail, _⟩ := Reading.prepend_eq_ok read
    have shorter := inductionHypothesis tail
    have taken := Quoted.escape_length escaped
    simp only [List.length_cons]
    omega
  | case5 => simp [atNext] at read
  | case6 c rest _ _ _ inductionHypothesis =>
    obtain ⟨others, tail, _⟩ := Reading.prepend_eq_ok read
    have shorter := inductionHypothesis tail
    simp only [List.length_cons]
    omega

end WorkflowClient.Json

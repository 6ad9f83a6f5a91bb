import Mathlib.Data.Nat.Digits.Defs
import WorkflowClient.Proofs.PrintedText
import WorkflowClient.Proofs.ResolvedSettings

/-!
# Ports are written in decimal

The variable of the port writes a number by its decimal digits, however many zeros they begin with,
behind a plus sign or without one, and between any blanks. Every number of sixteen bits that is
written this way becomes the port, and no digit is lost to the width of a port: a text that writes a
greater number is refused, as is every text that writes none. The refusal shows the whole text, and
the other variables have no part in it.
-/

namespace WorkflowClient

namespace Number

/-- The value of digits is that of their places: the last one counts once, and each counts ten times
the one behind it. -/
theorem valueOf_eq_ofDigits (text : List Char) :
    valueOf text = Nat.ofDigits 10 (text.reverse.map digitValue) := by
  rw [Nat.ofDigits_eq_foldr, List.foldr_map, valueOf, Nat.ofDigitChars, List.foldl_eq_foldr_reverse]
  congr 1
  funext c value
  exact Nat.add_comm _ _

/-- A number is read from one or more digits as the value of their places. -/
theorem natural?_eq_some_iff {digits : List Char} {number : Nat} :
    natural? digits = some number ↔
      digits ≠ [] ∧ (∀ c ∈ digits, c.isDigit = true) ∧
        Nat.ofDigits 10 (digits.reverse.map digitValue) = number := by
  have decimal : digits.all Char.isDigit = true ↔ ∀ c ∈ digits, c.isDigit = true :=
    List.all_eq_true
  rw [natural?, valueOf_eq_ofDigits, ← decimal, ← and_assoc]
  split
  · next written => rw [Option.some.injEq, and_iff_right written]
  · next unwritten => simp only [unwritten, false_and, reduceCtorEq]

end Number

namespace Config

/-- The text writes the number: blanks, a plus sign or none, one or more decimal digits that have
the value, and blanks. -/
inductive WritesNumber (text : String) (number : Nat) : Prop
  | intro {before sign digits behind : List Char}
      (whole : text.toList = before ++ (sign ++ digits ++ behind))
      (blankBefore : ∀ c ∈ before, Text.isBlank c = true)
      (blankBehind : ∀ c ∈ behind, Text.isBlank c = true)
      (signed : sign = [] ∨ sign = ['+'])
      (nonempty : digits ≠ [])
      (decimal : ∀ c ∈ digits, c.isDigit = true)
      (value : Nat.ofDigits 10 (digits.reverse.map Number.digitValue) = number) :
      WritesNumber text number

/-- Digits with a plus sign or without one are all that is left when the blanks around them are
taken away. -/
theorem trim_signed {before sign digits behind : List Char}
    (blankBefore : ∀ c ∈ before, Text.isBlank c = true)
    (blankBehind : ∀ c ∈ behind, Text.isBlank c = true)
    (signed : sign = [] ∨ sign = ['+']) (nonempty : digits ≠ [])
    (decimal : ∀ c ∈ digits, c.isDigit = true) :
    Text.trim (before ++ (sign ++ digits ++ behind)) = sign ++ digits := by
  have visible {c : Char} (present : c ∈ digits) : Text.isBlank c = false :=
    Json.isBlank_digit (decimal c present)
  apply Text.trim_between blankBefore blankBehind
  · rcases signed with rfl | rfl
    · obtain ⟨first, rest, rfl⟩ := List.exists_cons_of_ne_nil nonempty
      exact ⟨first, rest, rfl, visible List.mem_cons_self⟩
    · exact ⟨'+', digits, rfl, by decide⟩
  · refine ⟨sign ++ digits.dropLast, digits.getLast nonempty, ?_, visible (List.getLast_mem nonempty)⟩
    rw [List.append_assoc, List.dropLast_concat_getLast nonempty]

/-- The port that a text writes is the number that it writes. -/
theorem writesPort_iff_number {text : String} {port : UInt16} :
    WritesPort text port ↔ WritesNumber text port.toNat := by
  constructor
  · rintro ⟨sign, digits, trimmed, signed, read⟩
    obtain ⟨before, behind, whole, blankBefore, blankBehind⟩ := Text.trim_split text.toList
    obtain ⟨nonempty, decimal, value⟩ := Number.natural?_eq_some_iff.mp read
    rw [trimmed] at whole
    exact .intro whole blankBefore blankBehind signed nonempty decimal value
  · rintro ⟨whole, blankBefore, blankBehind, signed, nonempty, decimal, value⟩
    refine ⟨_, _, ?_, signed, Number.natural?_eq_some_iff.mpr ⟨nonempty, decimal, value⟩⟩
    rw [whole, trim_signed blankBefore blankBehind signed nonempty decimal]

/-- A text for a timeout is refused only as one. -/
theorem timeoutOfText_refused {text : String} {error : ConfigError}
    (refused : timeoutOfText text = .error error) : ∃ found, error = .invalidTimeout found := by
  rw [timeoutOfText] at refused
  cases number : Binary64.ofText? (Text.trim text.toList) with
  | none =>
    rw [number] at refused
    exact ⟨text, (Except.error.inj refused).symm⟩
  | some seconds =>
    rw [number] at refused
    have judged : timeoutOf seconds = .error error := refused
    rcases timeoutOf_gives seconds with ⟨timeout, -, taken⟩ | ⟨-, shown⟩
    · rw [taken] at judged
      contradiction
    · exact ⟨seconds.display, Except.error.inj (judged.symm.trans shown)⟩

/-- A text that writes a number of sixteen bits has it for its port, and any other text is refused. -/
theorem portOf_number (text : String) :
    (∀ number, WritesNumber text number → number ≤ 65535 →
        ∃ port, portOf text = .ok port ∧ port.toNat = number) ∧
      ((∀ number, WritesNumber text number → 65535 < number) →
        portOf text = .error (.invalidPort text)) := by
  constructor
  · intro number writes small
    have fits : number < UInt16.size := Nat.lt_succ_of_le small
    have same : (UInt16.ofNatLT number fits).toNat = number := UInt16.toNat_ofNatLT
    have written : WritesPort text (UInt16.ofNatLT number fits) :=
      writesPort_iff_number.mpr (same.symm ▸ writes)
    refine ⟨_, ?_, same⟩
    rw [portOf, writesPort_iff.mp written]
  · intro great
    rcases portOf_writes text with ⟨port, writes, -⟩ | ⟨-, refused⟩
    · have tooGreat := great port.toNat (writesPort_iff_number.mp writes)
      have small : port.toNat < 65536 := port.toNat_lt
      omega
    · exact refused

/-- The variable of the port is read by an exact grammar, without overflow.

For every text of that variable and whatever the other variables are: if the text writes a number of
at most 65535, the environment sets a configuration with this port, unless the variable of the
timeout is refused, whose refusal is then the outcome. If it writes no such number, the whole text is
refused as a port. -/
theorem port_variable_exact (environment : Environment) (text : String) :
    let outcome :=
      ofEnvironment { environment with port := some (Text.Utf8.encode text.toList) }
    (∀ number, WritesNumber text number → number ≤ 65535 →
      (∃ config, outcome = .ok config ∧ config.port.toNat = number) ∨
        ∃ written found, Environment.text? environment.timeout = some written ∧
          timeoutOfText written = .error (.invalidTimeout found) ∧
          outcome = .error (.invalidTimeout found)) ∧
      ((∀ number, WritesNumber text number → 65535 < number) →
        outcome = .error (.invalidPort text)) := by
  have set : Environment.text? (some (Text.Utf8.encode text.toList)) = some text :=
    Environment.text?_eq_some_iff.mpr rfl
  obtain ⟨accepted, refused⟩ := portOf_number text
  simp only [ofEnvironment, set, setBy]
  refine ⟨?_, ?_⟩
  · intro number writes small
    obtain ⟨port, read, same⟩ := accepted number writes small
    rw [read]
    cases timed : Environment.text? environment.timeout with
    | none => exact .inl ⟨_, rfl, same⟩
    | some written =>
      cases judged : timeoutOfText written with
      | ok timeout =>
        left
        simp only [judged]
        exact ⟨_, rfl, same⟩
      | error error =>
        obtain ⟨found, rfl⟩ := timeoutOfText_refused judged
        right
        refine ⟨written, found, rfl, judged, ?_⟩
        simp only [judged]
        rfl
  · intro great
    rw [refused great]
    rfl

/-- The greatest port may have leading zeros and a no-break space before it; one more is no port, and
neither is a negative zero. -/
example :
    (portOf "\u00a0+00065535").toOption = some 65535 ∧ (portOf "65536").toOption = none ∧
      (portOf "-0").toOption = none := by decide +kernel

end Config

end WorkflowClient

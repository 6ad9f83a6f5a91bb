import WorkflowClient.Number.Decimal

/-!
# Numeric hosts

A host that is written as an address is its own and only address. Four decimal numbers of eight bits, without
leading zeros, between points are one; the other form has eight groups of up to four hexadecimal
digits between colons, of which the last two may be written as four decimal numbers, and one run of
at least one group may be left out between two colons.
-/

namespace WorkflowClient.Host

/-- The parts of a text between separators; there is always one part more than separators. -/
def parts (separator : Char) : List Char → List (List Char)
  | [] => [[]]
  | c :: rest =>
      if c = separator then [] :: parts separator rest
      else
        match parts separator rest with
        | [] => [[c]]
        | first :: others => (c :: first) :: others

/-- A decimal number of eight bits without leading zeros. -/
def isOctet (text : List Char) : Bool :=
  match Number.natural? text with
  | some n => n ≤ 255 && (text.length == 1 || text.head? != some '0') && text.length ≤ 3
  | none => false

/-- Four decimal numbers of eight bits between points. -/
def isFourOctets (text : List Char) : Bool :=
  let octets := parts '.' text
  octets.length == 4 && octets.all isOctet

/-- A hexadecimal digit of either case. -/
def isHexDigit (c : Char) : Bool := c.isDigit || ('a' ≤ c && c ≤ 'f') || ('A' ≤ c && c ≤ 'F')

/-- One to four hexadecimal digits. -/
def isGroup (text : List Char) : Bool := !text.isEmpty && text.length ≤ 4 && text.all isHexDigit

/-- How many groups a sequence writes; four decimal numbers at its end count for two. -/
def groupCount? : List (List Char) → Option Nat
  | [] => some 0
  | [last] => if isGroup last then some 1 else if isFourOctets last then some 2 else none
  | group :: others => if isGroup group then (groupCount? others).map (· + 1) else none

/-- The groups of a text without a gap; an empty text has none. -/
def groups (text : List Char) : List (List Char) := if text = [] then [] else parts ':' text

/-- The text before the first two colons in a row and the text behind them. -/
def splitGap? : List Char → Option (List Char × List Char)
  | ':' :: ':' :: rest => some ([], rest)
  | c :: rest => (splitGap? rest).map fun (before, behind) => (c :: before, behind)
  | [] => none

/-- Eight groups, or fewer around a gap. -/
def isEightGroups (text : List Char) : Bool :=
  match splitGap? text with
  | none => groupCount? (groups text) == some 8
  | some (before, behind) =>
    let front := groups before
    match groupCount? (groups behind) with
    | some count => front.all isGroup && front.length + count ≤ 7
    | none => false

/-- Is the host written as an address? -/
def isNumeric (host : String) : Bool := isFourOctets host.toList || isEightGroups host.toList

/-- Shorter forms are names, and so are addresses in brackets. -/
example :
    ["127.0.0.1", "::1", "1:2:3:4:5:6:7::", "::ffff:1.2.3.4", "1:2:3:4:5:6:7:8"].all isNumeric = true ∧
      ["127.1", "01.2.3.4", "256.0.0.1", "[::1]", "1::2::3", "1:2:3:4:5:6:7:8::", ":1", "localhost", ""].any
        isNumeric = false := by decide +kernel

end WorkflowClient.Host

import WorkflowClient.Number.Binary64
import WorkflowClient.Number.Decimal

/-!
# Numbers written as text

A floating-point literal is an optional sign followed by a name of infinity, by `nan`, or by decimal digits
with an optional point and an optional exponent. At least one digit stands before or after the point.
The literal means the number nearest to the decimal it writes. Exponents so far out that the result
is infinite or zero whatever the digits are do not enter the computation.
-/

namespace WorkflowClient

namespace Number

/-- A leading sign and the text after it. -/
def signed : List Char → Bool × List Char
  | '-' :: rest => (true, rest)
  | '+' :: rest => (false, rest)
  | text => (false, text)

/-- A signed integer of one or more digits. -/
def integer? (text : List Char) : Option Int :=
  match signed text with
  | (true, digits) => (natural? digits).map fun n => -(n : Int)
  | (false, digits) => (natural? digits).map fun n => (n : Int)

end Number

namespace Binary64

open Number

/-- The number nearest to a decimal with a sign. Beyond `10 ^ 400` everything is infinite and below
`10 ^ -400` everything is zero. -/
def ofDecimal (negative : Bool) (significand : Nat) (exponent : Int) : Binary64 :=
  if significand = 0 then zero negative
  else if 400 < exponent then infinity negative
  else if exponent + significand.log2 / 3 + 1 < -400 then zero negative
  else nearest negative (significand * Nat.pow 10 exponent.toNat) (Nat.pow 10 (-exponent).toNat)

/-- The exponent after the digits: nothing, or the letter `e` and an integer. -/
def exponentPart? : List Char → Option Int
  | [] => some 0
  | mark :: rest => if mark = 'e' ∨ mark = 'E' then integer? rest else none

/-- The places after a point, if one comes, and the text after them. -/
def fractionPart : List Char → List Char × List Char
  | '.' :: rest => rest.span Char.isDigit
  | rest => ([], rest)

/-- The number that a literal without its sign writes. -/
def ofUnsigned? (negative : Bool) (text : List Char) : Option Binary64 :=
  let name := text.map Char.toLower
  if name = "inf".toList ∨ name = "infinity".toList then some (infinity negative)
  else if name = "nan".toList then some nan
  else
    let (whole, rest) := text.span Char.isDigit
    let (places, rest) := fractionPart rest
    if whole = [] ∧ places = [] then none
    else (exponentPart? rest).map fun exponent =>
      ofDecimal negative (valueOf (whole ++ places)) (exponent - places.length)

/-- The number that a literal writes. -/
def ofText? (text : List Char) : Option Binary64 :=
  let (negative, body) := signed text
  ofUnsigned? negative body

/-- Digits may be missing on one side of the point, not on both. -/
example :
    ofText? ".5e1".toList = some (ofNat 5) ∧ ofText? "5.".toList = some (ofNat 5) ∧
      ofText? "+Infinity".toList = some (infinity false) ∧ ofText? ".".toList = none ∧
      ofText? "1e".toList = none ∧ ofText? " 1".toList = none := by decide +kernel

end Binary64

end WorkflowClient

/-!
# Decimal digits

A decimal is a significand times a power of ten. It is written in positional form as the digits before
and after the point, or in scientific form with one digit before the point and a signed exponent.
-/

namespace WorkflowClient

namespace Number

/-- The decimal digits of a natural number, without leading zeros. -/
def digits (n : Nat) : List Char := Nat.toDigits 10 n

/-- The number that a digit stands for. -/
def digitValue (c : Char) : Nat := c.toNat - '0'.toNat

/-- The number that digits write in order. -/
def valueOf (text : List Char) : Nat := Nat.ofDigitChars 10 text 0

/-- The number that a text of one or more ASCII digits writes; leading zeros are free. -/
def natural? (text : List Char) : Option Nat :=
  if text ≠ [] ∧ text.all Char.isDigit then some (valueOf text) else none

end Number

/-- The number `significand * 10 ^ exponent`. -/
structure Decimal where
  significand : Nat
  exponent : Int
deriving DecidableEq, Repr

namespace Decimal

/-- The digits of the significand. -/
def digits (d : Decimal) : List Char := Number.digits d.significand

/-- The power of ten that the first digit counts. -/
def leadingPower (d : Decimal) : Int := d.exponent + d.digits.length - 1

/-- The digits before and after the point; there is always one before it. -/
def parts (d : Decimal) : List Char × List Char :=
  let places := (-d.exponent).toNat
  if places < d.digits.length then
    (d.digits.take (d.digits.length - places) ++ List.replicate d.exponent.toNat '0',
      d.digits.drop (d.digits.length - places))
  else (['0'], List.replicate (places - d.digits.length) '0' ++ d.digits)

/-- The positional form; a number without places has no point. -/
def positional (d : Decimal) : List Char :=
  match d.parts with
  | (whole, []) => whole
  | (whole, places) => whole ++ '.' :: places

/-- The positional form with at least one place. -/
def positionalWithPoint (d : Decimal) : List Char :=
  match d.parts with
  | (whole, []) => whole ++ ['.', '0']
  | (whole, places) => whole ++ '.' :: places

/-- The scientific form: the point stands behind the first digit if more digits follow, and the exponent
always has a sign. -/
def scientific (d : Decimal) : List Char :=
  let mantissa := match d.digits with
    | [] => []
    | [single] => [single]
    | first :: others => first :: '.' :: others
  let power := d.leadingPower
  mantissa ++ 'e' :: (if power < 0 then '-' else '+') :: Number.digits power.natAbs

end Decimal

end WorkflowClient

import WorkflowClient.Number.Rounding

/-!
# Binary floating-point numbers of 64 bits

A number is its bit pattern: a sign, eleven bits of exponent and fifty-two of fraction. Its shape is what
the pattern stands for. A finite number is a significand times a power of two, and every operation
here computes its exact value as a quotient of natural numbers and rounds once, to the nearest
number and to the even pattern between two. Patterns of finite numbers are ordered as their
magnitudes are, so a significand that rounds up to the next power of two needs no special case.
-/

namespace WorkflowClient

/-- A floating-point number, given by its bits. -/
structure Binary64 where
  bits : UInt64
deriving DecidableEq, Repr, Inhabited

namespace Binary64

/-- What a bit pattern stands for, up to its sign. A finite number is `significand * 2 ^ exponent`. -/
inductive Shape where
  | nan
  | infinite
  | finite (significand : Nat) (exponent : Int)
deriving DecidableEq, Repr

/-- The exponent of the smallest numbers. -/
def leastExponent : Int := -1074

/-- The number of significands that share an exponent field, `2 ^ 52`. -/
def fractionSize : Nat := 0x10000000000000

/-- The value of the sign bit, `2 ^ 63`. -/
def signValue : Nat := 0x8000000000000000

/-- The sign bit. -/
def isNegative (x : Binary64) : Bool := signValue ≤ x.bits.toNat

/-- The pattern without its sign bit. -/
def magnitude (x : Binary64) : Nat := x.bits.toNat % signValue

/-- The magnitude of infinity; greater ones are no numbers. -/
def infiniteMagnitude : Nat := 2047 * fractionSize

/-- The meaning of the pattern. Numbers with the least exponent field have no leading one bit. -/
def shape (x : Binary64) : Shape :=
  let field := x.magnitude / fractionSize
  let fraction := x.magnitude % fractionSize
  if field = 2047 then (if fraction = 0 then .infinite else .nan)
  else if field = 0 then .finite fraction leastExponent
  else .finite (fractionSize + fraction) (field - 1 + leastExponent)

/-- The number with this sign and magnitude. -/
def ofMagnitude (negative : Bool) (magnitude : Nat) : Binary64 :=
  ⟨UInt64.ofNat (if negative then signValue + magnitude else magnitude)⟩

/-- Zero with a sign. -/
def zero (negative : Bool) : Binary64 := ofMagnitude negative 0

/-- Infinity with a sign. -/
def infinity (negative : Bool) : Binary64 := ofMagnitude negative infiniteMagnitude

/-- The number that stands for no number. -/
def nan : Binary64 := ofMagnitude false (infiniteMagnitude + fractionSize / 2)

/-- Is this one of the two zeros? -/
def isZero (x : Binary64) : Bool := x.magnitude == 0

/-- Is this one of the two infinities? -/
def isInfinite (x : Binary64) : Bool := x.magnitude == infiniteMagnitude

/-- The number with the sign turned. -/
def neg (x : Binary64) : Binary64 := ofMagnitude (!x.isNegative) x.magnitude

/-- The exponent at which a quotient has a significand below `2 ^ 53`, and one of at least `2 ^ 52` unless
the least exponent comes first. -/
def exponentOf (numerator denominator : Nat) : Int :=
  let estimate : Int := (numerator.log2 : Int) - denominator.log2 - 53
  let tooSmall : Bool := denominator <<< (estimate + 53).toNat ≤ numerator <<< (-(estimate + 53)).toNat
  max leastExponent (if tooSmall then estimate + 1 else estimate)

/-- The number nearest to a quotient with a sign. What rounds beyond the greatest finite number is
infinite. -/
def nearest (negative : Bool) (numerator denominator : Nat) : Binary64 :=
  if numerator = 0 then zero negative
  else
    let exponent := exponentOf numerator denominator
    let significand := Number.halfEven (numerator <<< (-exponent).toNat) (denominator <<< exponent.toNat)
    let magnitude := (exponent - leastExponent).toNat * fractionSize + significand
    if infiniteMagnitude ≤ magnitude then infinity negative else ofMagnitude negative magnitude

/-- The number nearest to a quotient times a power of two. -/
def nearestScaled (negative : Bool) (numerator denominator : Nat) (exponent : Int) : Binary64 :=
  nearest negative (numerator <<< exponent.toNat) (denominator <<< (-exponent).toNat)

/-- The number nearest to a natural number. -/
def ofNat (n : Nat) : Binary64 := nearest false n 1

/-- The number nearest to a power of ten. -/
def powerOfTen (exponent : Nat) : Binary64 := ofNat (Nat.pow 10 exponent)

/-- The product, rounded once. -/
def mul (x y : Binary64) : Binary64 :=
  let negative := x.isNegative != y.isNegative
  match x.shape, y.shape with
  | .nan, _ | _, .nan => nan
  | .finite m p, .finite n q => nearestScaled negative (m * n) 1 (p + q)
  | .infinite, .finite n _ => if n = 0 then nan else infinity negative
  | .finite m _, .infinite => if m = 0 then nan else infinity negative
  | .infinite, .infinite => infinity negative

/-- The quotient, rounded once. -/
def div (x y : Binary64) : Binary64 :=
  let negative := x.isNegative != y.isNegative
  match x.shape, y.shape with
  | .nan, _ | _, .nan => nan
  | .finite m p, .finite n q =>
      if n = 0 then (if m = 0 then nan else infinity negative) else nearestScaled negative m n (p - q)
  | .infinite, .finite _ _ => infinity negative
  | .finite _ _, .infinite => zero negative
  | .infinite, .infinite => nan

instance : Mul Binary64 := ⟨mul⟩
instance : Div Binary64 := ⟨div⟩
instance : Neg Binary64 := ⟨neg⟩

end Binary64

end WorkflowClient

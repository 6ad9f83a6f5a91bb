import WorkflowClient.Number.Binary64
import WorkflowClient.Number.Decimal

/-!
# The shortest decimal that reads back

The reals that round to a positive finite number form an interval around it, with its ends if the
significand is even. On the grid of the multiples of a power of ten the interval has a point exactly when
one of the two neighbours of the number does. The shortest decimal is the point nearest to the number
on the coarsest grid that has one. Every finite number is itself a point of the grid of `10 ^ -1074`, so
the search from coarse to fine ends there at the latest.
-/

namespace WorkflowClient

/-- Which of two equally near points is taken. -/
inductive Tie where
  | toEven
  | upward
deriving DecidableEq, Repr

namespace Number.Shortest

/-- The distance from a number to the interval's ends, and the number, in quarters of the last binary place.
Below a power of two the neighbours are twice as dense, so the lower end is at half the distance. -/
structure Interval where
  lower : Nat
  centre : Nat
  upper : Nat
  closed : Bool
  exponent : Int

/-- The interval of the reals that round to `significand * 2 ^ exponent`. -/
def interval (significand : Nat) (exponent : Int) : Interval where
  lower := 4 * significand -
    (if significand = Binary64.fractionSize ∧ Binary64.leastExponent < exponent then 1 else 2)
  centre := 4 * significand
  upper := 4 * significand + 2
  closed := significand % 2 == 0
  exponent := exponent - 2

/-- The point of the grid of `10 ^ power` that is nearest to the interval's centre among those inside. -/
def gridPoint? (tie : Tie) (power : Int) (span : Interval) : Option Nat :=
  let unit := Nat.pow 10 (-power).toNat <<< span.exponent.toNat
  let step := Nat.pow 10 power.toNat <<< (-span.exponent).toNat
  let inside (count : Nat) : Bool :=
    if span.closed then span.lower * unit ≤ count * step && count * step ≤ span.upper * unit
    else span.lower * unit < count * step && count * step < span.upper * unit
  let floor := span.centre * unit / step
  let below := span.centre * unit - floor * step
  let above := (floor + 1) * step - span.centre * unit
  match inside floor, inside (floor + 1) with
  | false, false => none
  | true, false => some floor
  | false, true => some (floor + 1)
  | true, true =>
      if below < above then some floor
      else if above < below then some (floor + 1)
      else match tie with
        | .toEven => some (floor + floor % 2)
        | .upward => some (floor + 1)

/-- Go through the grids from `10 ^ power` to finer ones, `steps` further grids at most. -/
def search (tie : Tie) (span : Interval) : (steps : Nat) → (power : Int) → Decimal
  | 0, power => ⟨(gridPoint? tie power span).getD 0, power⟩
  | steps + 1, power =>
      match gridPoint? tie power span with
      | some count => ⟨count, power⟩
      | none => search tie span steps (power - 1)

/-- A power of ten above every point of the interval, near enough to start from. -/
def startingPower (significand : Nat) (exponent : Int) : Int :=
  ((significand.log2 : Int) + 1 + exponent) * 3 / 10 + 3

end Number.Shortest

/-- The shortest decimal that rounds to the positive number `significand * 2 ^ exponent`. -/
def Number.shortest (tie : Tie) (significand : Nat) (exponent : Int) : Decimal :=
  let start := Shortest.startingPower significand exponent
  Shortest.search tie (Shortest.interval significand exponent) (start - Binary64.leastExponent).toNat start

namespace Binary64

/-- The display of a number in a sentence: the shortest digits in positional form, never an exponent. -/
def display (x : Binary64) : String :=
  let sign := if x.isNegative then "-" else ""
  match x.shape with
  | .nan => "NaN"
  | .infinite => sign ++ "inf"
  | .finite significand exponent =>
      if significand = 0 then sign ++ "0"
      else sign ++ String.ofList (Number.shortest .upward significand exponent).positional

/-- The least number has one digit, a third has sixteen, and an integer has no point. -/
example :
    (Number.shortest .toEven 1 (-1074)) = ⟨5, -324⟩ ∧ display (nearest false 1 3) = "0.3333333333333333" ∧
      display (-ofNat 20) = "-20" := by decide +kernel

end Binary64

end WorkflowClient

import WorkflowClient.Number.Binary64

/-!
# Durations

A duration is a number of nanoseconds below `2 ^ 64` seconds. A number of seconds becomes the duration nearest to
its exact value, the even number of nanoseconds of two. Numbers that are not finite, negative numbers and
numbers out of range have no duration.
-/

namespace WorkflowClient

/-- A length of time. -/
structure Duration where
  nanoseconds : Nat
deriving DecidableEq, Repr

namespace Duration

/-- How many nanoseconds a second has. -/
def perSecond : Nat := 1000000000

/-- The least number of nanoseconds that is out of range: `2 ^ 64` seconds. -/
def limit : Nat := 0x10000000000000000 * perSecond

/-- Whole seconds. -/
def ofSeconds (seconds : Nat) : Duration := ⟨seconds * perSecond⟩

/-- The whole seconds of a duration. -/
def seconds (d : Duration) : Nat := d.nanoseconds / perSecond

/-- The nanoseconds beyond the whole seconds. -/
def subsecond (d : Duration) : Nat := d.nanoseconds % perSecond

/-- The duration nearest to a number of seconds. -/
def nearest? (x : Binary64) : Option Duration :=
  match x.shape with
  | .finite significand exponent =>
      if x.isNegative ∧ significand ≠ 0 then none
      else
        let nanoseconds := Number.halfEven (significand * perSecond <<< exponent.toNat) (1 <<< (-exponent).toNat)
        if nanoseconds < limit then some ⟨nanoseconds⟩ else none
  | _ => none

/-- The parts of a duration make it up, and the second part is below a second. -/
theorem seconds_subsecond (d : Duration) :
    d.seconds * perSecond + d.subsecond = d.nanoseconds ∧ d.subsecond < perSecond :=
  ⟨Nat.div_add_mod' d.nanoseconds perSecond, Nat.mod_lt _ (by decide)⟩

end Duration

end WorkflowClient

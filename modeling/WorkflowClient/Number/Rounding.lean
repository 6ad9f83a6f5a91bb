/-!
# Rounding a quotient

A quotient of natural numbers is rounded to the nearest natural number; a half goes to the even one.
The two bounds say that the result is off by at most a half, and the tie law says where a half goes.
-/

namespace WorkflowClient.Number

/-- The natural number nearest to a quotient, the even one of two. -/
def halfEven (numerator denominator : Nat) : Nat :=
  let whole := numerator / denominator
  let rest := numerator % denominator
  if 2 * rest < denominator then whole
  else if denominator < 2 * rest then whole + 1
  else whole + whole % 2

/-- The result is off by at most half of the denominator, on either side. -/
theorem halfEven_near (numerator denominator : Nat) (positive : 0 < denominator) :
    2 * (halfEven numerator denominator * denominator) ≤ 2 * numerator + denominator ∧
      2 * numerator ≤ 2 * (halfEven numerator denominator * denominator) + denominator := by
  have split : denominator * (numerator / denominator) + numerator % denominator = numerator :=
    Nat.div_add_mod numerator denominator
  have below : numerator % denominator < denominator := Nat.mod_lt _ positive
  rw [Nat.mul_comm] at split
  simp only [halfEven]
  split
  · omega
  · split
    · rw [Nat.add_mul, Nat.one_mul]; omega
    · rcases Nat.mod_two_eq_zero_or_one (numerator / denominator) with even | odd
      · rw [even, Nat.add_zero]; omega
      · rw [odd, Nat.add_mul, Nat.one_mul]; omega

/-- Between two neighbours the even one is taken. -/
theorem halfEven_tie (numerator denominator : Nat)
    (half : 2 * (numerator % denominator) = denominator) : halfEven numerator denominator % 2 = 0 := by
  simp only [halfEven, half, Nat.lt_irrefl, if_false]
  omega

/-- The result is off by a half of the denominator only if the rest is that half. -/
theorem rest_of_half (numerator denominator : Nat) (positive : 0 < denominator)
    (off : 2 * (halfEven numerator denominator * denominator) + denominator = 2 * numerator ∨
      2 * numerator + denominator = 2 * (halfEven numerator denominator * denominator)) :
    2 * (numerator % denominator) = denominator := by
  have split : numerator / denominator * denominator + numerator % denominator = numerator :=
    Nat.div_add_mod' numerator denominator
  have below : numerator % denominator < denominator := Nat.mod_lt _ positive
  simp only [halfEven] at off
  split at off
  · omega
  · split at off
    · rw [Nat.add_mul, Nat.one_mul] at off
      omega
    · omega

end WorkflowClient.Number

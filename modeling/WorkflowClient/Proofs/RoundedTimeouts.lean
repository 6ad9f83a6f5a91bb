import Mathlib.Data.Rat.Floor
import Mathlib.Tactic.FieldSimp
import Mathlib.Tactic.Linarith
import WorkflowClient.Proofs.ResolvedSettings

/-!
# Timeouts are rounded exactly

The three fields of a bit pattern name a rational number, and a rational number has one nearest
integer once the even one is taken of two that are equally near. The timeout of a number of seconds
is the nearest number of nanoseconds to what its fields name, and it is refused exactly if that is
less than one nanosecond or reaches `2 ^ 64` seconds.

The rational number and its nearest integer are told here without the shape of a pattern and without
the quotient that is rounded. Taking the nearest integer is monotone, so timeouts are in the order
of the numbers that they come from.
-/

namespace WorkflowClient

/-- The integer is nearest to the number, and the even one if another one is as near. -/
structure NearestEven (q : ℚ) (n : ℤ) : Prop where
  nearest : ∀ other : ℤ, |q - n| ≤ |q - other|
  even : ∀ other : ℤ, other ≠ n → |q - other| = |q - n| → Even n

namespace NearestEven

variable {q r : ℚ} {n m : ℤ}

/-- An integer that is off by at most a half is nearest, if it is even where it is off by a half. -/
theorem of_half (near : |q - n| ≤ 1 / 2) (tie : |q - n| = 1 / 2 → Even n) : NearestEven q n := by
  -- Another integer is off by at least what is left of the step between the two.
  have apart (other : ℤ) (different : other ≠ n) : 1 - |q - n| ≤ |q - other| := by
    have step : (1 : ℚ) ≤ |(n : ℚ) - other| := by
      exact_mod_cast Int.one_le_abs (sub_ne_zero.mpr different.symm)
    have through : |(n : ℚ) - other| ≤ |(n : ℚ) - q| + |q - other| := abs_sub_le _ _ _
    rw [abs_sub_comm (n : ℚ) q] at through
    linarith
  refine ⟨?_, ?_⟩
  · intro other
    by_cases same : other = n
    · rw [same]
    · linarith [apart other same]
  · intro other different asNear
    have far := apart other different
    exact tie (by linarith)

/-- The nearest integer is off by at most a half. -/
theorem le_half (rounded : NearestEven q n) : |q - n| ≤ 1 / 2 :=
  -- Rounding halves up is off by at most a half, and the nearest integer is no farther.
  (rounded.nearest (round q)).trans (abs_sub_round q)

/-- A greater number has no lesser nearest integer. -/
theorem mono (rounded : NearestEven q n) (later : NearestEven r m) (ordered : q ≤ r) : n ≤ m := by
  by_contra lesser
  have step : (m : ℚ) + 1 ≤ n := by exact_mod_cast not_le.mp lesser
  obtain ⟨lower, -⟩ := abs_le.mp rounded.le_half
  obtain ⟨-, upper⟩ := abs_le.mp later.le_half
  -- Both numbers are then half way between two integers in a row, and both integers are even.
  obtain rfl : q = r := by linarith
  have next : (n : ℚ) = m + 1 := by linarith
  have middle : q = m + 1 / 2 := by linarith
  have offAbove : |q - n| = 1 / 2 := by
    rw [middle, next]
    norm_num [abs_of_neg]
  have offBelow : |q - m| = 1 / 2 := by
    rw [middle]
    norm_num
  have different : m ≠ n := by omega
  have evenAbove : Even n := rounded.even m different (offBelow.trans offAbove.symm)
  have evenBelow : Even m := later.even n different.symm (offAbove.trans offBelow.symm)
  have successor : n = m + 1 := by exact_mod_cast next
  rw [successor, Int.even_add_one] at evenAbove
  exact evenAbove evenBelow

/-- A number has one nearest integer at most. -/
theorem unique (rounded : NearestEven q n) (other : NearestEven q m) : n = m :=
  le_antisymm (rounded.mono other le_rfl) (other.mono rounded le_rfl)

/-- Every number has one nearest integer. -/
theorem existsUnique (q : ℚ) : ∃! n : ℤ, NearestEven q n := by
  suffices found : ∃ n : ℤ, NearestEven q n by
    obtain ⟨n, rounded⟩ := found
    exact ⟨n, rounded, fun m other => other.unique rounded⟩
  by_cases half : |q - round q| = 1 / 2
  · by_cases even : Even (round q)
    · exact ⟨round q, of_half half.le fun _ => even⟩
    · -- The number is half way to the neighbour on its other side, which is even.
      rw [abs_eq (by norm_num)] at half
      rcases half with above | below
      · have off : |q - (round q + 1 : ℤ)| = 1 / 2 := by
          push_cast
          rw [← sub_sub, above]
          norm_num [abs_of_neg]
        exact ⟨round q + 1, of_half off.le fun _ => Int.even_add_one.mpr even⟩
      · have off : |q - (round q - 1 : ℤ)| = 1 / 2 := by
          push_cast
          rw [← sub_add, below]
          norm_num
        exact ⟨round q - 1, of_half off.le fun _ => Int.even_sub_one.mpr even⟩
  · exact ⟨round q, of_half (abs_sub_round q) fun tie => absurd tie half⟩

end NearestEven

namespace Number

/-- The rounded quotient is the nearest integer to the quotient. -/
theorem nearestEven_halfEven (numerator denominator : Nat) (positive : 0 < denominator) :
    NearestEven ((numerator : ℚ) / denominator) (halfEven numerator denominator) := by
  have scale : (0 : ℚ) < denominator := by exact_mod_cast positive
  obtain ⟨lower, upper⟩ := halfEven_near numerator denominator positive
  have rest := rest_of_half numerator denominator positive
  have tied := halfEven_tie numerator denominator
  generalize halfEven numerator denominator = whole at *
  have off : |(numerator : ℚ) / denominator - (whole : ℤ)| * denominator =
      |(numerator : ℚ) - whole * denominator| := by
    rw [← abs_of_pos scale, ← abs_mul, abs_of_pos scale, sub_mul, div_mul_cancel₀ _ scale.ne',
      Int.cast_natCast]
  refine .of_half ?_ ?_
  · have lowerBound : 2 * ((whole : ℚ) * denominator) ≤ 2 * numerator + denominator := by
      exact_mod_cast lower
    have upperBound : 2 * (numerator : ℚ) ≤ 2 * (whole * denominator) + denominator := by
      exact_mod_cast upper
    have within : |(numerator : ℚ) - whole * denominator| ≤ 1 / 2 * denominator := by
      rw [abs_le]
      constructor <;> linarith
    exact le_of_mul_le_mul_right (off.trans_le within) scale
  · intro tie
    rw [tie, eq_comm, abs_eq (by positivity)] at off
    have even : whole % 2 = 0 := by
      apply tied
      apply rest
      rcases off with above | below
      · left
        have same : 2 * ((whole : ℚ) * denominator) + denominator = 2 * numerator := by linarith
        exact_mod_cast same
      · right
        have same : 2 * (numerator : ℚ) + denominator = 2 * (whole * denominator) := by linarith
        exact_mod_cast same
    exact_mod_cast Nat.even_iff.mpr even

end Number

namespace Binary64

/-- The bit of the sign. -/
def signField (x : Binary64) : Nat := x.bits.toNat / 2 ^ 63

/-- The eleven bits of the exponent. -/
def exponentField (x : Binary64) : Nat := x.bits.toNat / 2 ^ 52 % 2 ^ 11

/-- The fifty-two bits of the fraction. -/
def fractionField (x : Binary64) : Nat := x.bits.toNat % 2 ^ 52

/-- A number is finite unless all bits of its exponent are set. -/
def IsFinite (x : Binary64) : Prop := x.exponentField ≠ 2 ^ 11 - 1

/-- The rational number that the fields of a finite pattern name. Above the least exponent the
fraction stands behind a leading one. -/
def value (x : Binary64) : ℚ :=
  let fraction : ℚ := x.fractionField / 2 ^ 52
  (-1) ^ x.signField *
    if x.exponentField = 0 then fraction * 2 ^ (-1022 : ℤ)
    else (1 + fraction) * 2 ^ ((x.exponentField : ℤ) - 1023)

/-- The shape of a pattern holds the exponent and the fraction. -/
theorem shape_fields (x : Binary64) :
    x.shape =
      if x.exponentField = 2047 then (if x.fractionField = 0 then .infinite else .nan)
      else if x.exponentField = 0 then .finite x.fractionField (-1074)
      else .finite (2 ^ 52 + x.fractionField) (x.exponentField - 1 + -1074) := by
  have exponent : x.magnitude / fractionSize = x.exponentField := by
    simp only [magnitude, signValue, fractionSize, exponentField]
    omega
  have fraction : x.magnitude % fractionSize = x.fractionField := by
    simp only [magnitude, signValue, fractionSize, fractionField]
    omega
  rw [shape, exponent, fraction]
  rfl

/-- A pattern is that of a finite number exactly if its shape is. -/
theorem isFinite_iff {x : Binary64} :
    x.IsFinite ↔ ∃ significand exponent, x.shape = .finite significand exponent := by
  rw [IsFinite, shape_fields]
  split
  · next allSet =>
    split <;> simp [allSet]
  · next finite =>
    split <;> simp [finite]

/-- The sign bit turns the sign. -/
theorem sign_eq (x : Binary64) : (-1 : ℚ) ^ x.signField = if x.isNegative then -1 else 1 := by
  have small : x.bits.toNat < 2 ^ 64 := x.bits.toNat_lt
  rw [signField, isNegative, signValue]
  split
  · next negative =>
    have set : x.bits.toNat / 2 ^ 63 = 1 := by
      rw [decide_eq_true_eq] at negative
      omega
    rw [set, pow_one]
  · next positive =>
    have unset : x.bits.toNat / 2 ^ 63 = 0 := by
      rw [decide_eq_true_eq] at positive
      omega
    rw [unset, pow_zero]

/-- The fifty-two places of a fraction may be counted by the exponent instead. -/
theorem zpow_places (exponent : ℤ) : (2 : ℚ) ^ (exponent + 52) = 2 ^ 52 * 2 ^ exponent := by
  rw [zpow_add₀ two_ne_zero, mul_comm]
  norm_cast

/-- The shape of a finite pattern is its value up to the sign. -/
theorem value_of_shape {x : Binary64} {significand : Nat} {exponent : ℤ}
    (finite : x.shape = .finite significand exponent) :
    x.value = (if x.isNegative then -1 else 1) * (significand * 2 ^ exponent) := by
  rw [shape_fields] at finite
  rw [value, sign_eq]
  split at finite
  · split at finite <;> contradiction
  · split at finite
    · next least =>
      obtain ⟨rfl, rfl⟩ := Shape.finite.inj finite
      have places : (2 : ℚ) ^ (-1022 : ℤ) = 2 ^ 52 * 2 ^ (-1074 : ℤ) := by
        rw [← zpow_places]
        norm_num
      simp only [least, if_true, places]
      ring
    · next normal =>
      obtain ⟨rfl, rfl⟩ := Shape.finite.inj finite
      have places : (2 : ℚ) ^ ((x.exponentField : ℤ) - 1023) =
          2 ^ 52 * 2 ^ ((x.exponentField : ℤ) - 1 + -1074) := by
        rw [← zpow_places]
        congr 1
        ring
      simp only [normal, if_false, places]
      push_cast
      ring

/-- The sign, the exponent of one and the fraction of a half name minus one and a half. -/
example : (⟨0xbff8000000000000⟩ : Binary64).value = -3 / 2 := by decide +kernel

/-- A finite number is negative, or its shape is its value. -/
theorem value_negative_or {x : Binary64} {significand : Nat} {exponent : ℤ}
    (finite : x.shape = .finite significand exponent) :
    (x.isNegative = true ∧ significand ≠ 0) ∧ x.value < 0 ∨
      ¬ (x.isNegative = true ∧ significand ≠ 0) ∧ x.value = significand * 2 ^ exponent := by
  have positive : (0 : ℚ) < 2 ^ exponent := zpow_pos two_pos exponent
  rw [value_of_shape finite]
  by_cases negative : x.isNegative = true
  · by_cases zero : significand = 0
    · exact .inr ⟨fun minus => minus.2 zero, by simp [zero]⟩
    · refine .inl ⟨⟨negative, zero⟩, ?_⟩
      have more : (0 : ℚ) < significand := by exact_mod_cast Nat.pos_of_ne_zero zero
      rw [if_pos negative, neg_one_mul]
      exact neg_neg_of_pos (mul_pos more positive)
  · exact .inr ⟨fun minus => negative minus.1, by rw [if_neg negative, one_mul]⟩

end Binary64

namespace Duration

/-- Shifting by the parts of an exponent multiplies by the power of two. -/
theorem shifted_quotient (count unit : Nat) (exponent : ℤ) :
    ((count * unit <<< exponent.toNat : Nat) : ℚ) / (1 <<< (-exponent).toNat : Nat) =
      count * 2 ^ exponent * unit := by
  rw [Nat.shiftLeft_eq, Nat.shiftLeft_eq, one_mul]
  push_cast
  rcases le_total 0 exponent with right | left
  · have none : (-exponent).toNat = 0 := by omega
    have shift : (exponent.toNat : ℤ) = exponent := Int.toNat_of_nonneg right
    rw [none, pow_zero, div_one, ← zpow_natCast, shift]
    ring
  · have none : exponent.toNat = 0 := by omega
    have shift : ((-exponent).toNat : ℤ) = -exponent := Int.toNat_of_nonneg (by omega)
    rw [none, pow_zero, mul_one, ← zpow_natCast, shift, zpow_neg, div_inv_eq_mul]
    ring

/-- The duration of a number of seconds is its nearest number of nanoseconds. There is none if the
number is not finite, is negative, or is out of range. -/
theorem nearest?_eq_some_iff {x : Binary64} {duration : Duration} :
    nearest? x = some duration ↔
      x.IsFinite ∧ 0 ≤ x.value ∧ NearestEven (x.value * 10 ^ 9) duration.nanoseconds ∧
        duration.nanoseconds < 2 ^ 64 * 10 ^ 9 := by
  rw [Binary64.isFinite_iff, nearest?]
  cases shape : x.shape with
  | nan => simp
  | infinite => simp
  | finite significand exponent =>
    have finite : ∃ m e, Binary64.Shape.finite significand exponent = .finite m e := ⟨_, _, rfl⟩
    simp only [finite, true_and]
    rcases Binary64.value_negative_or shape with ⟨minus, negative⟩ | ⟨plus, named⟩
    · simp [if_pos minus, not_le.mpr negative]
    · have signless : 0 ≤ x.value := by
        rw [named]
        exact mul_nonneg (Nat.cast_nonneg _) (zpow_nonneg zero_le_two _)
      have denominator : 0 < 1 <<< (-exponent).toNat := by
        rw [Nat.shiftLeft_eq, one_mul]
        exact Nat.two_pow_pos _
      have quotient : x.value * (10 : ℚ) ^ 9 =
          (significand * perSecond <<< exponent.toNat : Nat) / (1 <<< (-exponent).toNat : Nat) := by
        rw [shifted_quotient, named, perSecond]
        norm_num
      have rounded := Number.nearestEven_halfEven (significand * perSecond <<< exponent.toNat)
        (1 <<< (-exponent).toNat) denominator
      rw [← quotient] at rounded
      have range : limit = 2 ^ 64 * 10 ^ 9 := by norm_num [limit, perSecond]
      simp only [if_neg plus, signless, true_and, range]
      generalize Number.halfEven _ _ = nanoseconds at rounded ⊢
      constructor
      · intro made
        split at made
        · next less => exact Option.some.inj made ▸ ⟨rounded, less⟩
        · contradiction
      · rintro ⟨nearest, less⟩
        obtain rfl : duration.nanoseconds = nanoseconds := by
          exact_mod_cast nearest.unique rounded
        rw [if_pos less]

end Duration

namespace Config

open Duration

variable {x : Binary64} {timeout : Duration}

/-- The number of seconds is finite and comes to so many nanoseconds, rounded: at least to one, and
to less than `2 ^ 64` seconds. -/
structure ComesTo (x : Binary64) (nanoseconds : ℤ) : Prop where
  finite : x.IsFinite
  rounded : NearestEven (x.value * 10 ^ 9) nanoseconds
  more : 1 ≤ nanoseconds
  less : nanoseconds < 2 ^ 64 * 10 ^ 9

/-- The timeout that a number of seconds gives is what it comes to. -/
theorem givesTimeout_iff : GivesTimeout x timeout ↔ ComesTo x timeout.nanoseconds := by
  rw [GivesTimeout, nearest?_eq_some_iff]
  constructor
  · rintro ⟨⟨finite, -, rounded, less⟩, more⟩
    exact ⟨finite, rounded, by omega, by omega⟩
  · rintro ⟨finite, rounded, more, less⟩
    refine ⟨⟨finite, ?_, rounded, by omega⟩, by omega⟩
    -- A negative number would not be rounded to more than nothing.
    by_contra negative
    have zero : NearestEven 0 0 := .of_half (by norm_num) (fun _ => Even.zero)
    have below : (timeout.nanoseconds : ℤ) ≤ 0 := rounded.mono zero (by linarith)
    omega

/-- A number of seconds is taken for a timeout exactly if it comes to it. -/
theorem timeoutOf_eq_ok_iff : timeoutOf x = .ok timeout ↔ ComesTo x timeout.nanoseconds := by
  rw [← givesTimeout_iff]
  rcases timeoutOf_gives x with ⟨given, gives, taken⟩ | ⟨none, refused⟩
  · rw [taken]
    constructor
    · rintro ⟨⟩
      exact gives
    · intro givesOther
      rw [Option.some.inj (gives.1.symm.trans givesOther.1)]
  · rw [refused]
    exact iff_of_false nofun (none timeout)

/-- A number of seconds is refused exactly if it comes to nothing in range. -/
theorem timeoutOf_eq_error_iff :
    timeoutOf x = .error (.invalidTimeout x.display) ↔ ∀ n, ¬ ComesTo x n := by
  constructor
  · intro refused n comes
    have kept : ((n.toNat : Nat) : ℤ) = n := Int.toNat_of_nonneg (by linarith [comes.more])
    have taken : timeoutOf x = .ok ⟨n.toNat⟩ := timeoutOf_eq_ok_iff.mpr (kept.symm ▸ comes)
    exact nomatch refused.symm.trans taken
  · intro none
    rcases timeoutOf_gives x with ⟨timeout, gives, -⟩ | ⟨-, refused⟩
    · exact absurd (givesTimeout_iff.mp gives) (none timeout.nanoseconds)
    · exact refused

/-- Seconds become a timeout by exact rounding.

Whatever the bits of the number are: it is taken for a timeout exactly if it is finite and its value
in nanoseconds, rounded to the nearest integer and to the even one of two, is at least one and less
than `2 ^ 64` seconds; the timeout is then that integer, as seconds and less than `10 ^ 9`
nanoseconds. Every other number is refused with its display. So a greater number never gives a
shorter timeout, and no number gives one of nothing. -/
theorem timeout_rounds_seconds (x : Binary64) :
    (∃! n : ℤ, NearestEven (x.value * 10 ^ 9) n) ∧
      (∀ timeout, timeoutOf x = .ok timeout ↔
        ∃ n, ComesTo x n ∧ (timeout.seconds * 10 ^ 9 + timeout.subsecond : ℤ) = n ∧
          timeout.subsecond < 10 ^ 9) ∧
      (timeoutOf x = .error (.invalidTimeout x.display) ↔ ∀ n, ¬ ComesTo x n) ∧
      (∀ y timeout later, timeoutOf x = .ok timeout → timeoutOf y = .ok later → x.value ≤ y.value →
        timeout.nanoseconds ≤ later.nanoseconds) ∧
      ∀ timeout, timeoutOf x = .ok timeout → timeout.nanoseconds ≠ 0 := by
  refine ⟨NearestEven.existsUnique _, ?_, timeoutOf_eq_error_iff, ?_, ?_⟩
  all_goals simp only [timeoutOf_eq_ok_iff]
  · intro timeout
    obtain ⟨whole, part⟩ := timeout.seconds_subsecond
    rw [perSecond] at whole part
    constructor
    · intro comes
      exact ⟨timeout.nanoseconds, comes, by omega, by omega⟩
    · rintro ⟨n, comes, same, -⟩
      obtain rfl : n = timeout.nanoseconds := by omega
      exact comes
  · intro y timeout later comes comesLater ordered
    exact_mod_cast comes.rounded.mono comesLater.rounded (by linarith)
  · intro timeout comes nothing
    have more := comes.more
    omega

/-- A half goes to the even nanosecond, so of these two the first is rounded down. -/
example :
    (timeoutOf (.nearest false 1 1024)).toOption = some ⟨976562⟩ ∧
      (timeoutOf (.nearest false 3 1024)).toOption = some ⟨2929688⟩ := by decide +kernel

end Config

end WorkflowClient

import CallTone.Proofs.NearestNumbers
import Mathlib.Data.Nat.Cast.Order.Field

/-! The shortest decimal of a number is read back as the number. What is read is the
nearest number to the decimal, and the decimal is looked for in the range of the rationals
that are nearest to the number, place by place from the leading digit down. It is always
found there: eighteen places are finer than the range is wide. -/
namespace CallTone.ShortestDecimals
open Binary64 NearestNumbers

variable {x : Binary64}

/-! Decimals -/

/-- The rational that a decimal stands for. -/
def value (d : Decimal) : ℚ := d.digits * 10 ^ d.exponent

theorem power_of_ten_value (exponent : Int) :
    quotient (powerOfTen exponent) = (10 : ℚ) ^ exponent := by
  cases exponent with
  | ofNat up => simp [quotient, powerOfTen]
  | negSucc down => simp [quotient, powerOfTen, zpow_negSucc]

theorem power_of_ten_pos (exponent : Int) :
    0 < (powerOfTen exponent).1 ∧ 0 < (powerOfTen exponent).2 := by
  cases exponent with
  | ofNat up => exact ⟨Nat.pow_pos (by decide), Nat.one_pos⟩
  | negSucc down => exact ⟨Nat.one_pos, Nat.pow_pos (by decide)⟩

/-- A multiple of a power of ten as a quotient. -/
theorem times_power_value (m : Nat) (exponent : Int) :
    ((m * (powerOfTen exponent).1 : Nat) : ℚ) / (powerOfTen exponent).2 = m * 10 ^ exponent := by
  rw [← power_of_ten_value, quotient, Nat.cast_mul, mul_div_assoc]

/-- Trailing zeros make no difference to what a decimal stands for. -/
theorem strip_value (fuel : Nat) (d : Decimal) : value (Decimal.strip fuel d) = value d := by
  induction fuel generalizing d with
  | zero => rfl
  | succ fuel ih =>
    rw [Decimal.strip]
    split
    · next zeros =>
      have tenfold : d.digits = 10 * (d.digits / 10) := by omega
      have cast : (d.digits : ℚ) = 10 * (d.digits / 10 : Nat) := by exact_mod_cast tenfold
      rw [ih, value, value, cast, zpow_add₀ (by norm_num)]
      ring
    · rfl

/-! The range of a number -/

/-- Fractions of naturals compare by their cross products. -/
theorem cross_le {a b c d : Nat} (left : 0 < b) (right : 0 < d) :
    a * d ≤ c * b ↔ (a : ℚ) / b ≤ c / d := by
  rw [div_le_div_iff₀ (by exact_mod_cast left) (by exact_mod_cast right)]
  norm_cast

theorem cross_lt {a b c d : Nat} (left : 0 < b) (right : 0 < d) :
    a * d < c * b ↔ (a : ℚ) / b < c / d := by
  rw [div_lt_div_iff₀ (by exact_mod_cast left) (by exact_mod_cast right)]
  norm_cast

theorem unit_pos (x : Binary64) : 0 < x.interval.unit :=
  shift_ratio_pos (by decide) _

private theorem quarters (x : Binary64) (m : Nat) :
    ((m * (shiftRatio 1 4 x.scaled.exponent).1 : Nat) : ℚ) /
      (shiftRatio 1 4 x.scaled.exponent).2 = m / 4 * 2 ^ x.scaled.exponent := by
  have scale := shift_ratio_value 1 4 x.scaled.exponent
  rw [quotient] at scale
  rw [Nat.cast_mul, mul_div_assoc, scale]
  push_cast
  ring

theorem interval_value (x : Binary64) :
    (x.interval.value : ℚ) / x.interval.unit = x.scaled.significand * 2 ^ x.scaled.exponent := by
  rw [show (x.interval.value : ℚ) / x.interval.unit = _ from quarters x (4 * x.scaled.significand)]
  push_cast
  ring

theorem interval_high (x : Binary64) :
    (x.interval.high : ℚ) / x.interval.unit =
      (x.scaled.significand + 1 / 2) * 2 ^ x.scaled.exponent := by
  rw [show (x.interval.high : ℚ) / x.interval.unit = _ from
    quarters x (4 * x.scaled.significand + 2)]
  push_cast
  ring

theorem interval_low (given : 1 ≤ x.scaled.significand) :
    (x.interval.low : ℚ) / x.interval.unit =
      (x.scaled.significand - gapBelow x.scaled) * 2 ^ x.scaled.exponent := by
  rw [show (x.interval.low : ℚ) / x.interval.unit = _ from quarters x _, gapBelow]
  split
  · rw [Nat.cast_sub (by omega)]
    push_cast
    ring
  · rw [Nat.cast_sub (by omega)]
    push_cast
    ring

/-- The bounds are tested as naturals, and the decimals between them are those of the
range. -/
theorem holds_iff (given : 1 ≤ x.scaled.significand) (d : Decimal) :
    x.interval.holds d = true ↔ RoundsTo x.scaled (value d) := by
  have unit := unit_pos x
  have power := (power_of_ten_pos d.exponent).2
  have decimal := times_power_value d.digits d.exponent
  have closed : x.interval.closed = decide (x.scaled.significand % 2 = 0) := rfl
  rw [Interval.holds, closed, value]
  by_cases even : x.scaled.significand % 2 = 0
  · simp only [even, decide_true, if_true, decide_eq_true_eq]
    rw [cross_le unit power, cross_le power unit, decimal, interval_low given, interval_high]
    exact ⟨fun within => ⟨within.1, within.2, by omega⟩, fun rounds => ⟨rounds.low, rounds.high⟩⟩
  · simp only [even, decide_false, Bool.false_eq_true, if_false, decide_eq_true_eq]
    rw [cross_lt unit power, cross_lt power unit, decimal, interval_low given, interval_high]
    exact ⟨fun within => ⟨within.1.le, within.2.le, fun _ => within⟩,
      fun rounds => rounds.inside (by omega)⟩

/-! The search for a decimal -/

theorem nearest_holds {i : Interval} {place : Int} {d : Decimal}
    (found : i.nearest? place = some d) : i.holds d = true := by
  unfold Interval.nearest? at found
  simp only at found
  cases below : i.holds (i.neighbours place).1 with
  | true =>
    cases above : i.holds (i.neighbours place).2 with
    | true =>
      simp only [below, above] at found
      split at found
      · cases found
        exact above
      · cases found
        exact below
    | false =>
      simp only [below, above] at found
      cases found
      exact below
  | false =>
    cases above : i.holds (i.neighbours place).2 with
    | true =>
      simp only [below, above] at found
      cases found
      exact above
    | false =>
      simp only [below, above] at found
      cases found

theorem first_nearest_holds {i : Interval} {fuel : Nat} {place : Int} {d : Decimal}
    (found : i.firstNearest fuel place = some d) : i.holds d = true := by
  induction fuel generalizing place with
  | zero => cases found
  | succ fuel ih =>
    rw [Interval.firstNearest] at found
    split at found
    · next nearest =>
      cases found
      exact nearest_holds nearest
    · exact ih found

/-- The search ends at the latest in a place where there is a decimal. -/
theorem first_nearest_found (i : Interval) (fuel : Nat) (place : Int) (steps : Nat)
    (within : steps < fuel) (there : i.nearest? (place - steps) ≠ none) :
    ∃ d, i.firstNearest fuel place = some d := by
  induction fuel generalizing place steps with
  | zero => omega
  | succ fuel ih =>
    rw [Interval.firstNearest]
    cases nearest : i.nearest? place with
    | some d => exact ⟨d, rfl⟩
    | none =>
      cases steps with
      | zero =>
        rw [Nat.cast_zero, sub_zero] at there
        exact absurd nearest there
      | succ steps =>
        refine ih (place - 1) steps (by omega) ?_
        rwa [show place - 1 - (steps : Int) = place - (steps + 1 : Nat) by push_cast; ring]

/-- The lower neighbour of a number in a place is less than a unit of the place below it. -/
theorem neighbour_below (x : Binary64) (place : Int) :
    let number : ℚ := x.scaled.significand * 2 ^ x.scaled.exponent
    value (x.interval.neighbours place).1 ≤ number ∧
      number - 10 ^ place < value (x.interval.neighbours place).1 := by
  intro number
  obtain ⟨up, down⟩ := power_of_ten_pos place
  have unit := unit_pos x
  have power : (0 : ℚ) < 10 ^ place := by positivity
  have ratio : ((x.interval.value * (powerOfTen place).2 : Nat) : ℚ) /
      (x.interval.unit * (powerOfTen place).1 : Nat) = number / 10 ^ place := by
    rw [← power_of_ten_value, quotient, show number = _ from (interval_value x).symm]
    push_cast
    field_simp
  have divides : 0 < x.interval.unit * (powerOfTen place).1 := Nat.mul_pos unit up
  -- the whole part of the number counted in units of the place
  generalize whole : x.interval.value * (powerOfTen place).2 /
    (x.interval.unit * (powerOfTen place).1) = count
  have same : value (x.interval.neighbours place).1 = count * 10 ^ place := by
    rw [value, Interval.neighbours, whole]
  have low : (count : ℚ) ≤ number / 10 ^ place := by
    rw [← ratio, ← whole]
    exact Nat.cast_div_le
  have high : number / 10 ^ place < count + 1 := by
    have next : x.interval.value * (powerOfTen place).2 /
        (x.interval.unit * (powerOfTen place).1) < count + 1 := by omega
    rw [whole_part_lt_iff divides, ratio] at next
    exact_mod_cast next
  rw [le_div_iff₀ power] at low
  rw [div_lt_iff₀ power] at high
  rw [same]
  exact ⟨low, by linarith⟩

/-- Seventeen places below the leading digit a unit is less than the gap below the number. -/
theorem unit_within_gap (finite : x.isFinite = true) {place : Int}
    (fine : (10 : ℚ) ^ (place + 17) ≤ x.scaled.significand * 2 ^ x.scaled.exponent) :
    (10 : ℚ) ^ place < gapBelow x.scaled * 2 ^ x.scaled.exponent := by
  obtain ⟨-, -, -, bits, -⟩ := scaled_bounds finite
  have narrow : (x.scaled.significand : ℚ) < 10 ^ 17 * gapBelow x.scaled := by
    unfold gapBelow
    split
    · next atPower =>
      rw [atPower.1]
      norm_num [Nat.shiftLeft_eq]
    · have cast : (x.scaled.significand : ℚ) < 2 ^ 53 := by exact_mod_cast bits
      norm_num at cast ⊢
      linarith
  have power : (0 : ℚ) < 2 ^ x.scaled.exponent := by positivity
  have wide := mul_lt_mul_of_pos_right narrow power
  rw [zpow_add₀ (by norm_num)] at fine
  norm_num at fine wide
  linarith

/-- In a place fine enough the lower neighbour is in the range of the number. -/
theorem fine_place (finite : x.isFinite = true) (given : 1 ≤ x.scaled.significand) {place : Int}
    (fine : (10 : ℚ) ^ (place + 17) ≤ x.scaled.significand * 2 ^ x.scaled.exponent) :
    x.interval.nearest? place ≠ none := by
  obtain ⟨low, high⟩ := neighbour_below x place
  have power : (0 : ℚ) < 2 ^ x.scaled.exponent := by positivity
  have short := unit_within_gap finite fine
  have holds : x.interval.holds (x.interval.neighbours place).1 = true := by
    rw [holds_iff given]
    have above : (x.scaled.significand : ℚ) * 2 ^ x.scaled.exponent <
        (x.scaled.significand + 1 / 2) * 2 ^ x.scaled.exponent :=
      mul_lt_mul_of_pos_right (by linarith) power
    have below : (x.scaled.significand - gapBelow x.scaled) * 2 ^ x.scaled.exponent <
        value (x.interval.neighbours place).1 := by linarith
    exact ⟨below.le, low.trans above.le, fun _ => ⟨below, low.trans_lt above⟩⟩
  unfold Interval.nearest?
  simp only [holds]
  cases x.interval.holds (x.interval.neighbours place).2 with
  | true =>
    simp only
    split <;> nofun
  | false => nofun

/-- Stepping up to the leading digit never passes it. -/
theorem leading_exponent_reached {v unit : Nat} (fuel : Nat) (positive : 0 < unit) {e : Int}
    (reached : (10 : ℚ) ^ e ≤ v / unit) : (10 : ℚ) ^ leadingExponent v unit fuel e ≤ v / unit := by
  induction fuel generalizing e with
  | zero => exact reached
  | succ fuel ih =>
    rw [leadingExponent]
    split
    · next further =>
      refine ih ?_
      rw [← power_of_ten_value, quotient]
      rwa [cross_le (power_of_ten_pos _).2 positive] at further
    · exact reached

/-- The first guess at the leading digit is not too large, as far as numbers reach: a
decimal logarithm is 0.30103 binary ones but for an error that stays below one place. -/
theorem start_reached {k : Int} (low : -1100 ≤ k) (high : k ≤ 1100) :
    (10 : ℚ) ^ (k * 30103 / 100000 - 1) ≤ 2 ^ k := by
  have root : ∀ {a b : ℚ} {n : Nat}, n ≠ 0 → 0 ≤ a → 0 ≤ b → a ^ n ≤ b ^ n → a ≤ b :=
    fun given some other powers => (pow_le_pow_iff_left₀ some other given).mp powers
  rcases le_total 0 k with up | down
  · obtain ⟨n, rfl⟩ := Int.eq_ofNat_of_zero_le up
    refine root (n := 103) (by norm_num) (by positivity) (by positivity) ?_
    calc ((10 : ℚ) ^ ((n : Int) * 30103 / 100000 - 1)) ^ 103
        = 10 ^ (((n : Int) * 30103 / 100000 - 1) * 103) := by
          rw [zpow_mul, ← zpow_natCast]
          rfl
      _ ≤ 10 ^ (31 * (n : Int)) := zpow_le_zpow_right₀ (by norm_num) (by omega)
      _ = (10 ^ 31) ^ n := by rw [zpow_mul, zpow_natCast]; rfl
      _ ≤ (2 ^ 103) ^ n := pow_le_pow_left₀ (by positivity) (by norm_num) n
      _ = ((2 : ℚ) ^ (n : Int)) ^ 103 := by rw [zpow_natCast, pow_right_comm]
  · obtain ⟨n, rfl⟩ : ∃ n : Nat, k = -n := ⟨k.natAbs, by omega⟩
    refine root (n := 93) (by norm_num) (by positivity) (by positivity) ?_
    calc ((10 : ℚ) ^ (-(n : Int) * 30103 / 100000 - 1)) ^ 93
        = 10 ^ ((-(n : Int) * 30103 / 100000 - 1) * 93) := by
          rw [zpow_mul, ← zpow_natCast]
          rfl
      _ ≤ 10 ^ (-(28 * (n : Int))) := zpow_le_zpow_right₀ (by norm_num) (by omega)
      _ = ((10 ^ 28) ^ n)⁻¹ := by rw [zpow_neg, zpow_mul, zpow_natCast]; rfl
      _ ≤ ((2 ^ 93) ^ n)⁻¹ := by
          apply inv_anti₀ (by positivity)
          exact pow_le_pow_left₀ (by positivity) (by norm_num) n
      _ = ((2 : ℚ) ^ (-(n : Int))) ^ 93 := by rw [zpow_neg, zpow_natCast, inv_pow, pow_right_comm]

/-- A finite number that is not zero lies between powers of two. -/
theorem number_bounds (finite : x.isFinite = true) (given : 1 ≤ x.scaled.significand) :
    (2 : ℚ) ^ (-1074 : Int) ≤ x.scaled.significand * 2 ^ x.scaled.exponent ∧
      (x.scaled.significand : ℚ) * 2 ^ x.scaled.exponent < 2 ^ (1024 : Int) := by
  obtain ⟨-, finest, coarsest, bits, -⟩ := scaled_bounds finite
  have one : (1 : ℚ) ≤ x.scaled.significand := by exact_mod_cast given
  have fits : (x.scaled.significand : ℚ) < 2 ^ 53 := by exact_mod_cast bits
  constructor
  · calc (2 : ℚ) ^ (-1074 : Int) ≤ 2 ^ x.scaled.exponent :=
          zpow_le_zpow_right₀ (by norm_num) finest
      _ = 1 * 2 ^ x.scaled.exponent := (one_mul _).symm
      _ ≤ x.scaled.significand * 2 ^ x.scaled.exponent :=
          mul_le_mul_of_nonneg_right one (by positivity)
  · calc (x.scaled.significand : ℚ) * 2 ^ x.scaled.exponent
        < 2 ^ 53 * 2 ^ x.scaled.exponent := mul_lt_mul_of_pos_right fits (by positivity)
      _ = 2 ^ (53 + x.scaled.exponent) := by rw [zpow_add₀ (by norm_num)]; rfl
      _ ≤ 2 ^ (1024 : Int) := zpow_le_zpow_right₀ (by norm_num) (by omega)

/-- The search starts at a place that is not past the leading digit. -/
theorem guess_reached (finite : x.isFinite = true) (given : 1 ≤ x.scaled.significand) :
    (10 : ℚ) ^ (((x.interval.value.log2 : Int) - x.interval.unit.log2 - 1) * 30103 / 100000 - 1) ≤
      (x.interval.value : ℚ) / x.interval.unit := by
  obtain ⟨low, high⟩ := number_bounds finite given
  rw [← interval_value] at low high
  have nonzero : x.interval.value ≠ 0 := by
    intro zero
    rw [zero, Nat.cast_zero, zero_div] at low
    exact absurd low (not_le.mpr (by positivity))
  obtain ⟨above, below⟩ := quotient_bounds nonzero (unit_pos x).ne'
  have upper : (x.interval.value.log2 : Int) - x.interval.unit.log2 - 1 < 1024 :=
    (zpow_lt_zpow_iff_right₀ (by norm_num : (1 : ℚ) < 2)).mp (above.trans high)
  have lower : -1074 < (x.interval.value.log2 : Int) - x.interval.unit.log2 + 1 :=
    (zpow_lt_zpow_iff_right₀ (by norm_num : (1 : ℚ) < 2)).mp (low.trans_lt below)
  exact (start_reached (by omega) (by omega)).trans above.le

/-- The shortest decimal of a number lies in its range. -/
theorem shortest_rounds (finite : x.isFinite = true) (some : x.magnitude ≠ 0) :
    RoundsTo x.scaled (value x.shortest) := by
  have given := scaled_given finite some
  have lead := leading_exponent_reached 8 (unit_pos x) (guess_reached finite given)
  unfold shortest
  simp only
  generalize leadingExponent x.interval.value x.interval.unit 8 _ = top at lead ⊢
  have fine : (10 : ℚ) ^ (top - (17 : Nat) + 17) ≤
      x.scaled.significand * 2 ^ x.scaled.exponent := by
    rw [← interval_value, show top - (17 : Nat) + 17 = top by push_cast; ring]
    exact lead
  obtain ⟨d, found⟩ := first_nearest_found x.interval 18 top 17 (by decide)
    (fine_place finite given fine)
  rw [found]
  simp only [strip_value]
  exact (holds_iff given d).mp (first_nearest_holds found)

/-! Reading decimals -/

theorem digits_lt (m : Nat) : m < 10 ^ (decimalDigits m).length := by
  by_contra far
  have long := (Nat.length_toDigits_le_iff (b := 10) (n := m) (by decide)
    (List.length_pos_iff.mpr Nat.toDigits_ne_nil)).mp le_rfl
  exact far long

private theorem binary_lt_decimal : (2 : ℚ) ^ (1100 : Int) < 10 ^ (400 : Int) := by
  have powers : ((2 : ℚ) ^ 11) ^ 100 < (10 ^ 4) ^ 100 :=
    pow_lt_pow_left₀ (by norm_num) (by positivity) (by norm_num)
  rw [← pow_mul, ← pow_mul, ← zpow_natCast, ← zpow_natCast] at powers
  exact powers

section
variable {m : Nat} {e : Int} (finite : x.isFinite = true) (given : 1 ≤ x.scaled.significand)
variable (rounds : RoundsTo x.scaled (m * 10 ^ e))
include finite given rounds

/-- A decimal in the range of a number is not cut off as too large. -/
theorem decimal_not_large (nonzero : m ≠ 0) : ¬ 400 < e := by
  intro large
  obtain ⟨-, high⟩ := number_bounds finite given
  have power : (0 : ℚ) < 2 ^ x.scaled.exponent := by positivity
  have one : (1 : ℚ) ≤ x.scaled.significand := by exact_mod_cast given
  have digits : (1 : ℚ) ≤ m := by exact_mod_cast Nat.one_le_iff_ne_zero.mpr nonzero
  refine absurd binary_lt_decimal (not_lt.mpr ?_)
  calc (10 : ℚ) ^ (400 : Int) ≤ 10 ^ e := zpow_le_zpow_right₀ (by norm_num) large.le
    _ = 1 * 10 ^ e := (one_mul _).symm
    _ ≤ m * 10 ^ e := mul_le_mul_of_nonneg_right digits (by positivity)
    _ ≤ (x.scaled.significand + 1 / 2) * 2 ^ x.scaled.exponent := rounds.high
    _ ≤ 2 * (x.scaled.significand * 2 ^ x.scaled.exponent) := by nlinarith
    _ ≤ 2 * 2 ^ (1024 : Int) := by linarith
    _ = 2 ^ (1025 : Int) := (zpow_one_add₀ (by norm_num) 1024).symm
    _ ≤ 2 ^ (1100 : Int) := zpow_le_zpow_right₀ (by norm_num) (by norm_num)

/-- Nor is it cut off as too small. -/
theorem decimal_not_small : ¬ e + (decimalDigits m).length < -400 := by
  intro small
  obtain ⟨low, -⟩ := number_bounds finite given
  have power : (0 : ℚ) < 2 ^ x.scaled.exponent := by positivity
  have one : (1 : ℚ) ≤ x.scaled.significand := by exact_mod_cast given
  have gap := gap_below_bounds x.scaled
  have digits : (m : ℚ) < 10 ^ (decimalDigits m).length := by exact_mod_cast digits_lt m
  refine absurd binary_lt_decimal (not_lt.mpr ?_)
  rw [← inv_le_inv₀ (by positivity) (by positivity), ← zpow_neg, ← zpow_neg]
  calc (2 : ℚ) ^ (-1100 : Int) ≤ 2 ^ (-1074 - 1 : Int) :=
        zpow_le_zpow_right₀ (by norm_num) (by norm_num)
    _ = 2 ^ (-1074 : Int) / 2 := zpow_sub_one₀ (by norm_num) (-1074)
    _ ≤ x.scaled.significand * 2 ^ x.scaled.exponent / 2 := by linarith
    _ ≤ (x.scaled.significand - gapBelow x.scaled) * 2 ^ x.scaled.exponent := by nlinarith
    _ ≤ m * 10 ^ e := rounds.low
    _ ≤ 10 ^ (decimalDigits m).length * 10 ^ e :=
        mul_le_mul_of_nonneg_right digits.le (by positivity)
    _ = 10 ^ ((decimalDigits m).length + e) := by rw [zpow_add₀ (by norm_num), zpow_natCast]
    _ ≤ 10 ^ (-400 : Int) := zpow_le_zpow_right₀ (by norm_num) (by omega)

end

/-- A decimal in the range of a number is read as the number: the cut-offs lie far outside
the range of any finite one. -/
theorem decimal_read (finite : x.isFinite = true) (some : x.magnitude ≠ 0) {m : Nat} {e : Int}
    (rounds : RoundsTo x.scaled (m * 10 ^ e)) : ofDecimal x.negative m e = x := by
  have given := scaled_given finite some
  have positive := rounds_to_pos given rounds
  have nonzero : m ≠ 0 := by
    rintro rfl
    norm_num at positive
  rw [ofDecimal, if_neg nonzero, if_neg (decimal_not_large finite given rounds nonzero),
    if_neg (decimal_not_small finite given rounds)]
  refine ratio_rounds finite some (power_of_ten_pos e).2 ?_
  rwa [times_power_value]

end CallTone.ShortestDecimals
